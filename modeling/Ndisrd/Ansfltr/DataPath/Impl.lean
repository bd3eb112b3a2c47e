import Ndisrd.Ansfltr.Callbacks
import Ndisrd.Ansfltr.Receive.Impl
import Ndisrd.Ansfltr.SendPacket
import Ndisrd.Lib.Loop

/-!
This module contains the data path of the NT driver with the bytes and the flags of the packets: the loop of
`MPSendPackets`, the packets that `PtTransferDataComplete` makes, `FLTInjectRequest` and what `SendPacket`
gives to NDIS.
-/

namespace Ansfltr.DataPath

/-- `NDIS_PACKET`, with the bytes that each of its buffers maps. -/
structure NdisPacket where
  address : Nat
  buffers : List (List UInt8)
  flags : BitVec 32

def NdisPacket.ndisQueryPacketLength (p : NdisPacket) : Nat :=
  p.buffers.foldr (fun b n => b.length + n) 0

/-- `FLT_PACKET` with its `m_Flags`. -/
structure Packet extends FltPacket where
  flags : BitVec 32

inductive Call (ι : Type) where
  | requestCallback (pInstance : ι) (pPacket : Packet)
  | ndisSend (frame : List UInt8) (flags : BitVec 32)
  | ndisMIndicateReceivePacket (frame : List UInt8) (flags : BitVec 32)
  | ndisMEthIndicateReceive
  | ndisMSendComplete (packet : Nat) (status : NtStatus)

structure Clients (ι : Type) where
  fltInstancesList : List ι
  requestCallback : ι → Packet → NtStatus

/--
What `SendPacket` finds: the adapter of the packet, unless it has been closed, a packet of NDIS with its
`m_IBuffer` as it is, a buffer, and the status of `NdisSend`.
-/
structure Ndis where
  pAdapter : Option Nt.AdapterEntry
  allocatePacket : Option (Nat → UInt8)
  allocateBuffer : Bool
  ndisSend : NtStatus

variable {ι : Type}

section SendPacket

variable (ndis : Ndis) (pPacket : Packet)

-- The buffer is the packet's own: nothing is copied.
def ufSendPacketToProtocol (pAdapter : Nt.AdapterEntry) : NtStatus × List (Call ι) :=
  if pAdapter.mpDeviceStateD0 && !pAdapter.unbindingInProcess then
    match ndis.allocatePacket with
    | none => (NtStatus.insufficientResources, [])
    | some _ =>
      if !ndis.allocateBuffer then
        (NtStatus.insufficientResources, [])
      else
        let frame := Memory.load pPacket.buffer 0 pPacket.bufferSize
        (NtStatus.success, [.ndisMIndicateReceivePacket frame pPacket.flags])
  else
    (NtStatus.notFound, [])

def ufSendPacketToAdapter (pAdapter : Nt.AdapterEntry) : NtStatus × List (Call ι) :=
  if pAdapter.mpDeviceStateD0 && !pAdapter.unbindingInProcess then
    if !(decide (pPacket.bufferSize ≤ maxEtherSize) && decide (0 < pPacket.bufferSize)) then
      (NtStatus.bufferOverflow, [])
    else
      match ndis.allocatePacket with
      | none => (NtStatus.insufficientResources, [])
      | some iBuffer =>
        if !ndis.allocateBuffer then
          (NtStatus.insufficientResources, [])
        else
          let iBuffer := Memory.store iBuffer 0 (Memory.load pPacket.buffer 0 pPacket.bufferSize)
          let calls := [.ndisSend (Memory.load iBuffer 0 pPacket.bufferSize) pPacket.flags]
          if ndis.ndisSend ≠ NtStatus.pending then
            (ndis.ndisSend, calls)
          else
            (NtStatus.success, calls)
  else
    (NtStatus.notFound, [])

def sendPacket : NtStatus × List (Call ι) :=
  match ndis.pAdapter with
  | none => (NtStatus.unsuccessful, [])
  | some pAdapter =>
    match pPacket.direction with
    | .inbound => ufSendPacketToProtocol ndis pPacket pAdapter
    | .out => ufSendPacketToAdapter ndis pPacket pAdapter

end SendPacket

variable [DecidableEq ι]

/-- `FLTInjectRequest` of a handler, from the first instance on. -/
def fltInjectRequest (clients : Clients ι) (ndis : Ndis) (pPacket : Packet)
    : NtStatus × List (Call ι) :=
  let called := Ansfltr.fltInjectRequest
    (fun i => (clients.requestCallback i pPacket, [[Call.requestCallback i pPacket]]))
    (sendPacket ndis pPacket).2 clients.fltInstancesList none
  (called.1, called.2.flatten)

/-! ### Packets that are sent -/

/--
What one turn of `MPSendPackets` meets. The memory is that behind the new `FLT_PACKET`, the adapter of `ndis`
is what it is when the clients have been asked.
-/
structure Turn (ι : Type) where
  mpDeviceStateD0 : Bool
  memory : Option (Nat → UInt8)
  clients : Clients ι
  ndis : Ndis

-- The packet that goes to the clients.
def NdisPacket.read (p : NdisPacket) (memory : Nat → UInt8) : Packet :=
  let read := ufReadOnPacket p.buffers memory p.ndisQueryPacketLength 0
  { direction := .out, bufferSize := read.2, buffer := read.1, flags := p.flags }

def mpSendPacket (turn : Turn ι) (p : NdisPacket) : List (Call ι) :=
  if !turn.mpDeviceStateD0 then
    [.ndisMSendComplete p.address NtStatus.unsuccessful]
  else
    match turn.memory with
    | some memory =>
      (fltInjectRequest turn.clients turn.ndis (p.read memory)).2 ++
        [.ndisMSendComplete p.address NtStatus.success]
    | none => [.ndisMSendComplete p.address NtStatus.insufficientResources]

/--
One turn of `MPSendPackets`, with `tmpNum`, `counter` and the calls so far. No outcome behind the array.
-/
def mpSendPacketsTurn (packetArray : List NdisPacket) (turns : Nat → Turn ι)
    (p : Nat × Nat × List (Call ι))
    : Loop.Turn (Nat × Nat × List (Call ι)) (Option (List (Call ι))) :=
  match p.1 with
  | 0 => .done (some p.2.2)
  | tmpNum + 1 =>
    match packetArray[p.2.1]? with
    | none => .done none
    | some packet => .goOn (tmpNum, p.2.1 + 1, p.2.2 ++ mpSendPacket (turns p.2.1) packet)

/-! ### Packets that are received -/

/--
What `PtReceive` and `PtTransferDataComplete` call. They set no flags in a packet: it has those that were in
its memory.
-/
def performReceive (clients : Clients ι) (ndis : Ndis) (flags : BitVec 32)
    : ReceiveEffect → List (Call ι)
  | .ethIndicateReceive => [.ndisMEthIndicateReceive]
  | .transferDataComplete _ _ _ => []
  | .fltInjectRequest pBuffer =>
    (fltInjectRequest clients ndis { pBuffer with flags := flags }).2
  | .freePacketAndBuffers _ => []

end Ansfltr.DataPath
