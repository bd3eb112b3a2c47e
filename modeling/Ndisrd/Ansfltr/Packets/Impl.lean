import Ndisrd.Lib.Holders
import Ndisrd.Lib.Run

/-!
This module contains the life of an `FLT_PACKET` in the Vista filter: who holds it, the list of all
packets, and what the handlers, the clients, NDIS and the detaching of an adapter do to them.
-/

namespace Ansfltr

/--
What the life cycle reads and writes of a packet. `sourceHandle` is the handle of the filter module that
`CreateNetBufferList` puts into the packet's list; an adapter is named by this handle.
-/
structure PacketHeader where
  references : Int
  pAdapter : Option Nat
  sourceHandle : Nat

inductive Holder where
  | handler
  | client (n : Nat)
  -- NDIS, from the hand-off through a filter module until it completes or returns the list
  | ndis (n filterHandle : Nat)
  deriving DecidableEq

/--
The packets, by number. The last fields follow what no variable of the driver says: who still has a
reference to release, which threads are inside `SendPacket` and inside `FLTFreeCloneRequest`, and which
adapters are closed.
-/
structure PacketState where
  packet : Nat → PacketHeader
  gPacketsList : List Nat
  created : List Nat
  holders : List (Nat × Holder)
  -- `SendPacket` has read the filter handle and released the lock
  sending : List ((Nat × Holder) × Nat)
  -- `FLTFreeCloneRequest` has counted down to zero, and has not yet unlinked the packet
  dropped : List Nat
  -- it has unlinked the packet, and `FreeNdisData` has not yet run
  unlinked : List Nat
  freeNdisData : List Nat
  closed : List Nat

namespace PacketState

def init (packet : Nat → PacketHeader) : PacketState := ⟨packet, [], [], [], [], [], [], [], []⟩

end PacketState

def setPacket (packet : Nat → PacketHeader) (p : Nat) (header : PacketHeader) : Nat → PacketHeader :=
  fun q => if q = p then header else packet q

/--
A packet of `FilterSendNetBufferLists` or `FilterReceiveNetBufferLists`, from its allocation to its
insertion in the list.
-/
def createPacket (s : PacketState) (p pFilter : Nat) : PacketState :=
  { s with
    packet := setPacket s.packet p ⟨1, some pFilter, pFilter⟩
    gPacketsList := s.gPacketsList ++ [p]
    created := p :: s.created
    holders := (p, .handler) :: s.holders }

def fltCloneRequest (s : PacketState) (p : Nat) (newHolder : Holder) : PacketState :=
  { s with
    packet := setPacket s.packet p { s.packet p with references := (s.packet p).references + 1 }
    holders := (p, newHolder) :: s.holders }

-- `FLTFreeCloneRequest` up to its test. What it goes on with are `unlinkPacket` and `freePacket`.
def fltFreeCloneRequest (s : PacketState) (p : Nat) : PacketState :=
  let references := (s.packet p).references - 1
  { s with
    packet := setPacket s.packet p { s.packet p with references }
    dropped := if references = 0 then p :: s.dropped else s.dropped }

def unlinkPacket (s : PacketState) (p : Nat) : PacketState :=
  { s with
    gPacketsList := s.gPacketsList.erase p
    dropped := s.dropped.erase p
    unlinked := p :: s.unlinked }

def freePacket (s : PacketState) (p : Nat) : PacketState :=
  { s with
    unlinked := s.unlinked.erase p
    freeNdisData := p :: s.freeNdisData }

-- `SendPacket` under the lock. Without an adapter it fails, and nothing is sent.
def sendPacketRead (s : PacketState) (p : Nat) (holder : Holder) : PacketState :=
  match (s.packet p).pAdapter with
  | some filterHandle => { s with sending := ((p, holder), filterHandle) :: s.sending }
  | none => s

def sendPacketHandOff (s : PacketState) (p : Nat) (holder : Holder) (filterHandle n : Nat)
    : PacketState :=
  let s := fltCloneRequest s p (.ndis n filterHandle)
  { s with sending := s.sending.erase ((p, holder), filterHandle) }

/--
`FilterSendNetBufferListsComplete` and `FilterReturnNetBufferLists` of one list. A list of another
module is passed on, and then the packet keeps the reference.
-/
def filterComplete (s : PacketState) (p n filterHandle : Nat) : PacketState :=
  let s := { s with holders := s.holders.erase (p, .ndis n filterHandle) }
  if (s.packet p).sourceHandle = filterHandle then fltFreeCloneRequest s p else s

def markPacket (pAdapter : Nat) (packet : Nat → PacketHeader) (p : Nat) : Nat → PacketHeader :=
  fun q =>
    if q = p ∧ (packet p).pAdapter = some pAdapter then
      { packet q with pAdapter := none }
    else
      packet q

-- The walk of `CloseAdapter`, one hold of the lock.
def closeAdapter (s : PacketState) (pAdapter : Nat) : PacketState :=
  { s with packet := s.gPacketsList.foldl (markPacket pAdapter) s.packet }

inductive PacketEvent where
  | attach (pFilter : Nat)
  | create (p pFilter : Nat)
  | clone (p : Nat) (holder : Holder) (n : Nat)
  | sendRead (p : Nat) (holder : Holder)
  | sendHandOff (p : Nat) (holder : Holder) (filterHandle n : Nat)
  | free (p : Nat) (holder : Holder)
  | complete (p n filterHandle : Nat)
  | unlink (p : Nat)
  | freeData (p : Nat)
  | closeAdapter (pAdapter : Nat)

def packetStep (s : PacketState) : PacketEvent → PacketState
  | .attach pFilter => { s with closed := s.closed.filter (· ≠ pFilter) }
  | .create p pFilter => createPacket s p pFilter
  | .clone p _ n => fltCloneRequest s p (.client n)
  | .sendRead p holder => sendPacketRead s p holder
  | .sendHandOff p holder filterHandle n => sendPacketHandOff s p holder filterHandle n
  | .free p holder => fltFreeCloneRequest { s with holders := s.holders.erase (p, holder) } p
  | .complete p n filterHandle => filterComplete s p n filterHandle
  | .unlink p => unlinkPacket s p
  | .freeData p => freePacket s p
  | .closeAdapter pAdapter => { closeAdapter s pAdapter with closed := pAdapter :: s.closed }

/--
What the parties keep to: a packet is used and released by who holds it, a handler or a client does not
release it in the middle of its own `SendPacket`, and no packet is made for a closed adapter.
-/
def PacketEvent.Allowed (s : PacketState) : PacketEvent → Prop
  | .attach _ => True
  | .create p pFilter => p ∉ s.created ∧ pFilter ∉ s.closed
  | .clone p holder n => (p, holder) ∈ s.holders ∧ (p, .client n) ∉ s.holders
  | .sendRead p holder => (p, holder) ∈ s.holders ∧ ∀ n h, holder ≠ .ndis n h
  | .sendHandOff p holder filterHandle n =>
    ((p, holder), filterHandle) ∈ s.sending ∧ ∀ h, (p, .ndis n h) ∉ s.holders
  | .free p holder =>
    (p, holder) ∈ s.holders ∧ (∀ n h, holder ≠ .ndis n h) ∧ ∀ h, ((p, holder), h) ∉ s.sending
  | .complete p n filterHandle => (p, .ndis n filterHandle) ∈ s.holders
  | .unlink p => p ∈ s.dropped
  | .freeData p => p ∈ s.unlinked
  | .closeAdapter _ => True

end Ansfltr
