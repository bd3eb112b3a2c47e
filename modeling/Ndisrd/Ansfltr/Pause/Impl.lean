import Ndisrd.Ansfltr.Callbacks
import Ndisrd.Ansfltr.Packets.Impl

/-!
This module contains the filter modules of the Vista filter between `FilterPause` and `FilterRestart`: the
handlers that test `m_FilterState` where packets enter, and `FLTInjectRequest`, which does not test it.
-/

namespace Ansfltr

inductive FilterState where
  | paused
  | pausing
  | running
  deriving DecidableEq

/--
A thread in `FilterSendNetBufferLists` or `FilterReceiveNetBufferLists`. `InterlockedExchange` is given
the state that it is to put back, so this is read before the exchange.
-/
inductive HandlerPc where
  | idle
  | read (pFilter : Nat) (value : FilterState)
  | inside (pFilter : Nat)

/--
The packets, with the state of each filter module and the threads of the handlers. `injected` are the
calls of `FLTInjectRequest` whose packet every client let pass, up to where `SendPacket` reads the handle.
-/
structure FilterMachine where
  packets : PacketState
  filterState : Nat → FilterState
  handler : Nat → HandlerPc
  injected : List (Nat × Holder)

namespace FilterMachine

-- What `FilterAttach` leaves of each module.
def init (packet : Nat → PacketHeader) : FilterMachine :=
  ⟨PacketState.init packet, fun _ => .paused, fun _ => .idle, []⟩

variable (s : FilterMachine)

def setState (pFilter : Nat) (value : FilterState) : FilterMachine :=
  { s with filterState := fun f => if f = pFilter then value else s.filterState f }

def setHandler (t : Nat) (pc : HandlerPc) : FilterMachine :=
  { s with handler := fun u => if u = t then pc else s.handler u }

end FilterMachine

def filterPause (s : FilterMachine) (pFilter : Nat) : FilterMachine × NtStatus :=
  (s.setState pFilter .paused, NtStatus.success)

def filterRestart (s : FilterMachine) (pFilter : Nat) : FilterMachine × NtStatus :=
  (s.setState pFilter .running, NtStatus.success)

-- Without instances the lists are passed on as they are, and no packet is made of them.
def exchangeState (s : FilterMachine) (t : Nat) (isInstancesListEmpty : Bool) : FilterMachine :=
  match s.handler t with
  | .read pFilter value =>
    let old := s.filterState pFilter
    let s := s.setState pFilter value
    if old = .running ∧ isInstancesListEmpty = false then s.setHandler t (.inside pFilter)
    else s.setHandler t .idle
  | _ => s

inductive FilterEvent where
  | filterPause (pFilter : Nat)
  | filterRestart (pFilter : Nat)
  | readState (t pFilter : Nat)
  | exchangeState (t : Nat) (isInstancesListEmpty : Bool)
  | leave (t : Nat)
  | inject (p : Nat) (holder : Holder) (pInstance : Option Nat) (fltInstancesList : List Nat)
    (answer : Nat → NtStatus)
  | packet (e : PacketEvent)

-- Whether `FLTInjectRequest` calls `SendPacket`.
def letPass (pInstance : Option Nat) (fltInstancesList : List Nat) (answer : Nat → NtStatus) : Bool :=
  let called : NtStatus × List Unit :=
    fltInjectRequest (fun i => (answer i, [])) () fltInstancesList pInstance
  decide (called.1 = NtStatus.success)

def filterStep (s : FilterMachine) : FilterEvent → FilterMachine
  | .filterPause pFilter => (filterPause s pFilter).1
  | .filterRestart pFilter => (filterRestart s pFilter).1
  | .readState t pFilter => s.setHandler t (.read pFilter (s.filterState pFilter))
  | .exchangeState t isInstancesListEmpty => exchangeState s t isInstancesListEmpty
  | .leave t => s.setHandler t .idle
  | .inject p holder pInstance fltInstancesList answer =>
    if letPass pInstance fltInstancesList answer then
      { s with injected := (p, holder) :: s.injected }
    else s
  | .packet (.sendRead p holder) =>
    { s with
      packets := packetStep s.packets (.sendRead p holder)
      injected := s.injected.erase (p, holder) }
  | .packet e => { s with packets := packetStep s.packets e }

-- What a packet event needs of the threads.
def PacketEvent.InPlace (s : FilterMachine) : PacketEvent → Prop
  | .attach _ => False
  | .create _ pFilter => ∃ t, s.handler t = .inside pFilter
  | .sendRead p holder => (p, holder) ∈ s.injected
  | .free p holder => (p, holder) ∉ s.injected
  | _ => True

/--
What the parties keep to: a packet is made by a handler that has passed its test, and it is sent by a call
of `FLTInjectRequest` of who holds it, and not released in the middle of that.
-/
def FilterEvent.Allowed (s : FilterMachine) : FilterEvent → Prop
  | .filterPause _ => True
  | .filterRestart _ => True
  | .readState t _ => s.handler t = .idle
  | .exchangeState t _ => ∃ pFilter value, s.handler t = .read pFilter value
  | .leave t => ∃ pFilter, s.handler t = .inside pFilter
  | .inject p holder _ _ _ => (p, holder) ∈ s.packets.holders ∧ ∀ n h, holder ≠ .ndis n h
  | .packet e => e.Allowed s.packets ∧ e.InPlace s

end Ansfltr
