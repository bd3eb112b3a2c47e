import Ndisrd.Ansfltr.Pause.Impl
import Ndisrd.Ansfltr.SendPacket
import Ndisrd.Lib.Memory

/-!
This module contains the handlers of the Vista filter for chains of `NET_BUFFER_LIST`s: the loops over
their `NET_BUFFER`s, the packet made of each, and the calls into NDIS that come of them.
-/

namespace Ansfltr.Vista

/--
A `NET_BUFFER`: the bytes of its MDLs from the current one on, and where its data is in them.
-/
structure NetBuffer where
  currentMdl : List (List UInt8)
  currentMdlOffset : Nat
  dataLength : Nat
  dataLength_le : currentMdlOffset + dataLength ≤ currentMdl.flatten.length

def NetBuffer.payload (pNetBuffer : NetBuffer) : List UInt8 :=
  (pNetBuffer.currentMdl.flatten.drop pNetBuffer.currentMdlOffset).take pNetBuffer.dataLength

structure NetBufferList where
  netBuffers : List NetBuffer

structure ModuleContext extends FltModuleContext where
  filterState : FilterState

structure Packet extends FltPacket where
  pAdapter : Option FltModuleContext
  ndisPortNumber : Nat
  flags : BitVec 32
  pNbl : NetBufferList

inductive NdisCall where
  | sendNetBufferLists (filterHandle : Nat) (netBufferLists : List NetBufferList) (portNumber : Nat)
    (sendFlags : BitVec 32)
  | indicateReceiveNetBufferLists (filterHandle : Nat) (netBufferLists : List NetBufferList)
    (portNumber numberOfNetBufferLists : Nat) (receiveFlags : BitVec 32)
  | sendNetBufferListsComplete (filterHandle : Nat) (netBufferLists : List NetBufferList)
    (sendCompleteFlags : BitVec 32)
  | returnNetBufferLists (filterHandle : Nat) (netBufferLists : List NetBufferList)
    (returnFlags : BitVec 32)

/-! ### What is called -/

-- The pointer that `NdisGetDataBuffer` returns: to its storage, or to bytes of the MDL.
inductive DataBuffer where
  | null
  | storage (buffer : Nat → UInt8)
  | mapped (bytes : List UInt8)

/--
NDIS, to the handlers. Allocations are numbered by the `NET_BUFFER` of the chain that they are for.
-/
structure Ndis where
  allocateMemory : Nat → Option (Nat → UInt8)
  getDataBuffer : NetBuffer → Nat → (Nat → UInt8) → DataBuffer
  allocateMdl : Nat → Bool
  allocateNetBufferList : Nat → Bool

structure Clients (ι : Type) where
  fltInstancesList : List ι
  requestCallback : ι → Packet → NtStatus

/-! ### The handlers -/

def ndisSendFlagsDispatchLevel : BitVec 32 := 0x1#32
def ndisSendFlagsCheckForLoopback : BitVec 32 := 0x2#32
def ndisSendCompleteFlagsDispatchLevel : BitVec 32 := 0x1#32
def ndisReceiveFlagsDispatchLevel : BitVec 32 := 0x1#32
def ndisReceiveFlagsResources : BitVec 32 := 0x2#32
def ndisReceiveFlagsSingleEtherType : BitVec 32 := 0x100#32
def ndisReceiveFlagsSingleVlan : BitVec 32 := 0x200#32
def ndisReceiveFlagsPerfectFiltered : BitVec 32 := 0x400#32
def ndisReturnFlagsDispatchLevel : BitVec 32 := 0x1#32

def Packet.sendPacket (pPacket : Packet) : NtStatus × List NdisCall :=
  let filterHandle := pPacket.pAdapter.elim 0 FltModuleContext.filterHandle
  if filterHandle ≠ 0 then
    match pPacket.direction with
    | .inbound =>
      (NtStatus.success, [.indicateReceiveNetBufferLists filterHandle [pPacket.pNbl]
        pPacket.ndisPortNumber 1 pPacket.flags])
    | .out =>
      (NtStatus.success, [.sendNetBufferLists filterHandle [pPacket.pNbl] pPacket.ndisPortNumber
        (pPacket.flags ||| ndisSendFlagsDispatchLevel)])
  else
    (NtStatus.invalidParameter, [])

-- The list describes the packet's own buffer.
def createNetBufferList (ndis : Ndis) (k : Nat) (pPacket : Packet) : Option NetBufferList :=
  if !ndis.allocateMdl k then
    none
  else if !ndis.allocateNetBufferList k then
    none
  else
    some ⟨[⟨[Memory.load pPacket.buffer 0 pPacket.bufferSize], 0, pPacket.bufferSize, by simp⟩]⟩

section Handlers

variable {ι : Type} [DecidableEq ι] (ndis : Ndis) (clients : Clients ι)

def injectPacket (pPacket : Packet) : List NdisCall :=
  (fltInjectRequest (fun i => (clients.requestCallback i pPacket, [])) pPacket.sendPacket.2
    clients.fltInstancesList none).2.flatten

/--
A turn of the inner loop. `pPacket` has the fields that are the same in every turn. There is no outcome
when the data cannot be mapped: both handlers then copy from `NULL`.
-/
def injectNetBuffer (pPacket : Packet) (k : Nat) (pNetBuffer : NetBuffer) : Option (List NdisCall) :=
  match ndis.allocateMemory k with
  | none => some []
  | some memory =>
    let bufferSize := pNetBuffer.dataLength
    let buffer :=
      match ndis.getDataBuffer pNetBuffer bufferSize memory with
      | .null => none
      | .storage buffer => some buffer
      | .mapped bytes => some (Memory.store memory 0 (bytes.take bufferSize))
    match buffer with
    | none => none
    | some buffer =>
      let pPacket := { pPacket with bufferSize, buffer }
      match createNetBufferList ndis k pPacket with
      | none => some []
      | some pNbl => some (injectPacket clients { pPacket with pNbl })

def injectNetBuffers (pPacket : Packet) (k : Nat) : List NetBuffer → Option (List NdisCall)
  | [] => some []
  | pNetBuffer :: rest => do
    let calls ← injectNetBuffer ndis clients pPacket k pNetBuffer
    let others ← injectNetBuffers pPacket (k + 1) rest
    return calls ++ others

def injectNetBufferLists (pPacket : Packet) (k : Nat) : List NetBufferList → Option (List NdisCall)
  | [] => some []
  | pNetBufferList :: rest => do
    let calls ← injectNetBuffers ndis clients pPacket k pNetBufferList.netBuffers
    let others ← injectNetBufferLists pPacket (k + pNetBufferList.netBuffers.length) rest
    return calls ++ others

-- A packet of the handler, before it has its data.
def ModuleContext.packet (pFilter : ModuleContext) (direction : Direction) (portNumber : Nat)
    (flags : BitVec 32)
    : Packet where
  direction := direction
  bufferSize := 0
  buffer := fun _ => 0
  pAdapter := some pFilter.toFltModuleContext
  ndisPortNumber := portNumber
  flags := flags
  pNbl := ⟨[]⟩

def filterSendNetBufferLists (pFilter : ModuleContext) (netBufferLists : List NetBufferList)
    (portNumber : Nat) (sendFlags : BitVec 32)
    : Option (List NdisCall) :=
  let complete := NdisCall.sendNetBufferListsComplete pFilter.filterHandle netBufferLists
    (if sendFlags &&& ndisSendFlagsDispatchLevel ≠ 0#32 then ndisSendCompleteFlagsDispatchLevel
    else 0#32)
  if pFilter.filterState = .running then
    if clients.fltInstancesList.isEmpty then
      some [.sendNetBufferLists pFilter.filterHandle netBufferLists portNumber sendFlags]
    else do
      let flags := sendFlags &&& ndisSendFlagsCheckForLoopback
      let calls ←
        injectNetBufferLists ndis clients (pFilter.packet .out portNumber flags) 0 netBufferLists
      return calls ++ [complete]
  else
    some [complete]

def filterReceiveNetBufferLists (pFilter : ModuleContext) (netBufferLists : List NetBufferList)
    (portNumber numberOfNetBufferLists : Nat) (receiveFlags : BitVec 32)
    : Option (List NdisCall) :=
  let returned :=
    if receiveFlags &&& ndisReceiveFlagsResources = 0#32 then
      [NdisCall.returnNetBufferLists pFilter.filterHandle netBufferLists
        (if receiveFlags &&& ndisReceiveFlagsDispatchLevel ≠ 0#32 then ndisReturnFlagsDispatchLevel
        else 0#32)]
    else
      []
  if pFilter.filterState = .running then
    if clients.fltInstancesList.isEmpty then
      some [.indicateReceiveNetBufferLists pFilter.filterHandle netBufferLists portNumber
        numberOfNetBufferLists receiveFlags]
    else do
      let flags := receiveFlags &&& (ndisReceiveFlagsSingleEtherType ||| ndisReceiveFlagsSingleVlan |||
        ndisReceiveFlagsPerfectFiltered)
      let calls ←
        injectNetBufferLists ndis clients (pFilter.packet .inbound portNumber flags) 0 netBufferLists
      return calls ++ returned
  else
    some returned

end Handlers

end Ansfltr.Vista
