import Ndisrd.Ansfltr.NetBuffers.Impl

/-!
This module contains what becomes of the payloads of a chain: the packets that the handlers make of it
carry the same payloads to NDIS as the chain that they pass on when there are no instances.
-/

namespace Ansfltr.Vista

structure Handed where
  direction : Direction
  portNumber : Nat
  payload : List UInt8
  deriving DecidableEq

def NetBufferList.payloads (pNetBufferList : NetBufferList) : List (List UInt8) :=
  pNetBufferList.netBuffers.map NetBuffer.payload

def payloads (netBufferLists : List NetBufferList) : List (List UInt8) :=
  netBufferLists.flatMap NetBufferList.payloads

-- The payloads that a call gives to NDIS. The last two only give lists back.
def NdisCall.handed : NdisCall → List Handed
  | .sendNetBufferLists _ netBufferLists portNumber _ =>
    (payloads netBufferLists).map (Handed.mk .out portNumber)
  | .indicateReceiveNetBufferLists _ netBufferLists portNumber _ _ =>
    (payloads netBufferLists).map (Handed.mk .inbound portNumber)
  | .sendNetBufferListsComplete _ _ _ => []
  | .returnNetBufferLists _ _ _ => []

def handed (calls : List NdisCall) : List Handed := calls.flatMap NdisCall.handed

theorem handed_append (calls others : List NdisCall)
    : handed (calls ++ others) = handed calls ++ handed others := List.flatMap_append

theorem payloads_cons (pNetBufferList : NetBufferList) (netBufferLists : List NetBufferList)
    : payloads (pNetBufferList :: netBufferLists) =
        pNetBufferList.payloads ++ payloads netBufferLists := List.flatMap_cons

theorem payloads_singleton (pNetBufferList : NetBufferList)
    : payloads [pNetBufferList] = pNetBufferList.payloads := List.flatMap_singleton _ _

/-! ### What is assumed -/

def DataBuffer.Holds (data : List UInt8) : DataBuffer → Prop
  | .null => False
  | .storage buffer => Memory.load buffer 0 data.length = data
  | .mapped bytes => bytes = data

/--
Allocations succeed, and `NdisGetDataBuffer`, asked for all data of a `NET_BUFFER`, gives it.
-/
structure Ndis.Provides (ndis : Ndis) : Prop where
  memory : ∀ k, ndis.allocateMemory k ≠ none
  data : ∀ (pNetBuffer : NetBuffer) storage,
    (ndis.getDataBuffer pNetBuffer pNetBuffer.dataLength storage).Holds pNetBuffer.payload
  mdl : ∀ k, ndis.allocateMdl k = true
  netBufferList : ∀ k, ndis.allocateNetBufferList k = true

def Clients.Approve {ι : Type} (clients : Clients ι) : Prop :=
  ∀ i ∈ clients.fltInstancesList, ∀ pPacket, clients.requestCallback i pPacket = NtStatus.success

structure ModuleContext.Running (pFilter : ModuleContext) : Prop where
  state : pFilter.filterState = .running
  handle : pFilter.filterHandle ≠ 0

/-! ### One packet -/

theorem NetBuffer.length_payload (pNetBuffer : NetBuffer)
    : pNetBuffer.payload.length = pNetBuffer.dataLength := by
  have := pNetBuffer.dataLength_le
  rw [payload, List.length_take, List.length_drop]
  omega

-- The status and whether the packet is handed over are those of the model without lists.
theorem Packet.sendPacket_eq (pPacket : Packet)
    : pPacket.sendPacket.1 = (Vista.sendPacket pPacket.pAdapter).status ∧
        pPacket.sendPacket.2.length = (Vista.sendPacket pPacket.pAdapter).handed.toNat := by
  unfold Packet.sendPacket Vista.sendPacket
  simp only
  split
  . cases pPacket.direction with
    | inbound => exact ⟨rfl, rfl⟩
    | out => exact ⟨rfl, rfl⟩
  . exact ⟨rfl, rfl⟩

theorem Packet.handed_sendPacket (pPacket : Packet) {pFilter : FltModuleContext}
    (hadapter : pPacket.pAdapter = some pFilter) (hhandle : pFilter.filterHandle ≠ 0)
    : handed pPacket.sendPacket.2 =
        pPacket.pNbl.payloads.map (Handed.mk pPacket.direction pPacket.ndisPortNumber) := by
  have hread : pPacket.pAdapter.elim 0 FltModuleContext.filterHandle ≠ 0 := by
    rw [hadapter]
    exact hhandle
  unfold Packet.sendPacket
  simp only
  rw [if_pos hread]
  cases pPacket.direction with
  | inbound => simp [handed, NdisCall.handed, payloads_singleton]
  | out => simp [handed, NdisCall.handed, payloads_singleton]

theorem payloads_createNetBufferList {ndis : Ndis} (hndis : ndis.Provides) (k : Nat) (pPacket : Packet)
    : ∃ pNbl, createNetBufferList ndis k pPacket = some pNbl ∧
        pNbl.payloads = [Memory.load pPacket.buffer 0 pPacket.bufferSize] := by
  unfold createNetBufferList
  rw [hndis.mdl, hndis.netBufferList]
  refine ⟨_, rfl, ?_⟩
  simp only [NetBufferList.payloads, List.map_singleton, NetBuffer.payload, List.flatten_singleton,
    List.drop_zero]
  rw [List.take_of_length_le]
  rw [Memory.length_load]

section Handlers

variable {ι : Type} [DecidableEq ι] {ndis : Ndis} {clients : Clients ι}

theorem injectPacket_of_approve (hclients : clients.Approve) (pPacket : Packet)
    : injectPacket clients pPacket = pPacket.sendPacket.2 := by
  have hall : ∀ i ∈ Chain.after none clients.fltInstancesList,
      (clients.requestCallback i pPacket, ([] : List (List NdisCall))).1 = NtStatus.success :=
    fun i hi => hclients i hi pPacket
  unfold injectPacket fltInjectRequest
  rw [Chain.callWhile_log_of_good NtStatus.success _ hall]
  simp

variable (hndis : ndis.Provides) (hclients : clients.Approve)
variable (pPacket : Packet) {pFilter : FltModuleContext} (hadapter : pPacket.pAdapter = some pFilter)
variable (hhandle : pFilter.filterHandle ≠ 0)
include hndis hclients hadapter hhandle

/--
One turn of the inner loop.
-/
theorem handed_injectNetBuffer (k : Nat) (pNetBuffer : NetBuffer)
    : ∃ calls, injectNetBuffer ndis clients pPacket k pNetBuffer = some calls ∧
        handed calls = [Handed.mk pPacket.direction pPacket.ndisPortNumber pNetBuffer.payload] := by
  obtain ⟨memory, hmemory⟩ := Option.ne_none_iff_exists'.mp (hndis.memory k)
  have hdata := hndis.data pNetBuffer memory
  -- whichever way the data comes, the packet's buffer has it
  have hsend : ∀ buffer, Memory.load buffer 0 pNetBuffer.dataLength = pNetBuffer.payload →
      ∃ pNbl, createNetBufferList ndis k
          { pPacket with bufferSize := pNetBuffer.dataLength, buffer } = some pNbl ∧
        handed (injectPacket clients
            { pPacket with bufferSize := pNetBuffer.dataLength, buffer, pNbl }) =
          [Handed.mk pPacket.direction pPacket.ndisPortNumber pNetBuffer.payload] := by
    intro buffer hbuffer
    obtain ⟨pNbl, hcreate, hpayloads⟩ := payloads_createNetBufferList hndis k
      { pPacket with bufferSize := pNetBuffer.dataLength, buffer }
    refine ⟨pNbl, hcreate, ?_⟩
    rw [injectPacket_of_approve hclients]
    refine (Packet.handed_sendPacket { pPacket with
      bufferSize := pNetBuffer.dataLength
      buffer
      pNbl } hadapter hhandle).trans ?_
    simp only
    rw [hpayloads, hbuffer]
    rfl
  unfold injectNetBuffer
  rw [hmemory]
  simp only
  cases hget : ndis.getDataBuffer pNetBuffer pNetBuffer.dataLength memory with
  | null =>
    rw [hget] at hdata
    exact absurd hdata id
  | storage buffer =>
    rw [hget, DataBuffer.Holds, pNetBuffer.length_payload] at hdata
    obtain ⟨pNbl, hcreate, hhanded⟩ := hsend buffer hdata
    simp only [hcreate]
    exact ⟨_, rfl, hhanded⟩
  | mapped bytes =>
    rw [hget] at hdata
    have hbytes : bytes = pNetBuffer.payload := hdata
    have hstored : Memory.load (Memory.store memory 0 (bytes.take pNetBuffer.dataLength)) 0
        pNetBuffer.dataLength = pNetBuffer.payload := by
      rw [hbytes, ← pNetBuffer.length_payload, List.take_length, Memory.load_store]
    obtain ⟨pNbl, hcreate, hhanded⟩ := hsend _ hstored
    simp only [hcreate]
    exact ⟨_, rfl, hhanded⟩

theorem handed_injectNetBuffers (netBuffers : List NetBuffer) (k : Nat)
    : ∃ calls, injectNetBuffers ndis clients pPacket k netBuffers = some calls ∧
        handed calls = (netBuffers.map NetBuffer.payload).map
          (Handed.mk pPacket.direction pPacket.ndisPortNumber) := by
  induction netBuffers generalizing k with
  | nil => exact ⟨[], rfl, rfl⟩
  | cons pNetBuffer rest ih =>
    obtain ⟨calls, hcalls, hhanded⟩ :=
      handed_injectNetBuffer hndis hclients pPacket hadapter hhandle k pNetBuffer
    obtain ⟨others, hothers, hrest⟩ := ih (k + 1)
    refine ⟨calls ++ others, ?_, ?_⟩
    . rw [injectNetBuffers, hcalls, hothers]
      rfl
    . rw [handed_append, hhanded, hrest]
      rfl

theorem handed_injectNetBufferLists (netBufferLists : List NetBufferList) (k : Nat)
    : ∃ calls, injectNetBufferLists ndis clients pPacket k netBufferLists = some calls ∧
        handed calls =
          (payloads netBufferLists).map (Handed.mk pPacket.direction pPacket.ndisPortNumber) := by
  induction netBufferLists generalizing k with
  | nil => exact ⟨[], rfl, rfl⟩
  | cons pNetBufferList rest ih =>
    obtain ⟨calls, hcalls, hhanded⟩ :=
      handed_injectNetBuffers hndis hclients pPacket hadapter hhandle pNetBufferList.netBuffers k
    obtain ⟨others, hothers, hrest⟩ := ih (k + pNetBufferList.netBuffers.length)
    refine ⟨calls ++ others, ?_, ?_⟩
    . rw [injectNetBufferLists, hcalls, hothers]
      rfl
    . rw [handed_append, hhanded, hrest, payloads_cons, List.map_append]
      rfl

end Handlers

/-! ### The handlers -/

section Handlers

variable {ι : Type} [DecidableEq ι] {ndis : Ndis} {clients : Clients ι}
variable (hndis : ndis.Provides) (hclients : clients.Approve)
variable {pFilter : ModuleContext} (hrunning : pFilter.Running)
include hndis hclients hrunning

theorem handed_filterSendNetBufferLists (netBufferLists : List NetBufferList) (portNumber : Nat)
    (sendFlags : BitVec 32)
    : (filterSendNetBufferLists ndis clients pFilter netBufferLists portNumber sendFlags).map handed =
        some ((payloads netBufferLists).map (Handed.mk .out portNumber)) := by
  obtain ⟨calls, hcalls, hhanded⟩ := handed_injectNetBufferLists hndis hclients
    (pFilter.packet .out portNumber (sendFlags &&& ndisSendFlagsCheckForLoopback)) rfl
    hrunning.handle netBufferLists 0
  unfold filterSendNetBufferLists
  rw [if_pos hrunning.state]
  split
  . simp [handed, NdisCall.handed]
  . simp only [hcalls, Option.bind_eq_bind, Option.bind_some, Option.pure_def, Option.map_some,
      handed_append, hhanded]
    simp [handed, NdisCall.handed, ModuleContext.packet]

theorem handed_filterReceiveNetBufferLists (netBufferLists : List NetBufferList)
    (portNumber numberOfNetBufferLists : Nat) (receiveFlags : BitVec 32)
    : (filterReceiveNetBufferLists ndis clients pFilter netBufferLists portNumber
          numberOfNetBufferLists receiveFlags).map handed =
        some ((payloads netBufferLists).map (Handed.mk .inbound portNumber)) := by
  obtain ⟨calls, hcalls, hhanded⟩ := handed_injectNetBufferLists hndis hclients
    (pFilter.packet .inbound portNumber (receiveFlags &&& (ndisReceiveFlagsSingleEtherType |||
      ndisReceiveFlagsSingleVlan ||| ndisReceiveFlagsPerfectFiltered))) rfl
    hrunning.handle netBufferLists 0
  unfold filterReceiveNetBufferLists
  rw [if_pos hrunning.state]
  split
  . simp [handed, NdisCall.handed]
  . simp only [hcalls, Option.bind_eq_bind, Option.bind_some, Option.pure_def, Option.map_some,
      handed_append, hhanded]
    split
    . simp [handed, NdisCall.handed, ModuleContext.packet]
    . simp [handed, ModuleContext.packet]

/--
Whatever the instances, as long as they approve, each payload of the chain gets to NDIS once and in its
place, in the direction and on the port of the chain: that is what gets there without instances.
-/
theorem handed_chain (netBufferLists : List NetBufferList) (portNumber numberOfNetBufferLists : Nat)
    (flags : BitVec 32)
    : ((filterSendNetBufferLists ndis clients pFilter netBufferLists portNumber flags).map handed =
            some ((payloads netBufferLists).map (Handed.mk .out portNumber)) ∧
          (filterSendNetBufferLists ndis clients pFilter netBufferLists portNumber flags).map handed =
            (filterSendNetBufferLists ndis { clients with fltInstancesList := [] } pFilter
              netBufferLists portNumber flags).map handed) ∧
        ((filterReceiveNetBufferLists ndis clients pFilter netBufferLists portNumber
              numberOfNetBufferLists flags).map handed =
            some ((payloads netBufferLists).map (Handed.mk .inbound portNumber)) ∧
          (filterReceiveNetBufferLists ndis clients pFilter netBufferLists portNumber
              numberOfNetBufferLists flags).map handed =
            (filterReceiveNetBufferLists ndis { clients with fltInstancesList := [] } pFilter
              netBufferLists portNumber numberOfNetBufferLists flags).map handed) := by
  have hnone : ({ clients with fltInstancesList := [] } : Clients ι).Approve := by
    intro i hi
    cases hi
  refine ⟨⟨?_, ?_⟩, ?_, ?_⟩
  . exact handed_filterSendNetBufferLists hndis hclients hrunning netBufferLists portNumber flags
  . rw [handed_filterSendNetBufferLists hndis hclients hrunning,
      handed_filterSendNetBufferLists hndis hnone hrunning]
  . exact handed_filterReceiveNetBufferLists hndis hclients hrunning netBufferLists portNumber
      numberOfNetBufferLists flags
  . rw [handed_filterReceiveNetBufferLists hndis hclients hrunning,
      handed_filterReceiveNetBufferLists hndis hnone hrunning]

end Handlers

-- `NdisGetDataBuffer` for data in one MDL and for data in several.
def mappedOrCopied (pNetBuffer : NetBuffer) (bytesNeeded : Nat) (storage : Nat → UInt8) : DataBuffer :=
  let data := (pNetBuffer.currentMdl.flatten.drop pNetBuffer.currentMdlOffset).take bytesNeeded
  if pNetBuffer.dataLength < bytesNeeded then
    .null
  else if pNetBuffer.currentMdlOffset + bytesNeeded ≤ (pNetBuffer.currentMdl.headD []).length then
    .mapped data
  else
    .storage (Memory.store storage 0 data)

def plentifulNdis : Ndis where
  allocateMemory := fun _ => some fun _ => 0
  getDataBuffer := mappedOrCopied
  allocateMdl := fun _ => true
  allocateNetBufferList := fun _ => true

theorem provides_plentifulNdis : plentifulNdis.Provides where
  memory := fun _ => Option.some_ne_none _
  data := by
    intro pNetBuffer storage
    show (mappedOrCopied pNetBuffer pNetBuffer.dataLength storage).Holds _
    unfold mappedOrCopied
    simp only
    rw [if_neg (by omega)]
    split
    . rfl
    . apply Memory.load_store
  mdl := fun _ => rfl
  netBufferList := fun _ => rfl

def approvingClients : Clients Nat := ⟨[0, 1], fun _ _ => NtStatus.success⟩

def runningModule : ModuleContext := ⟨⟨1⟩, .running⟩

-- A list with two buffers, the first of them in two MDLs, a list with none, and one with an empty buffer.
def mixedChain : List NetBufferList :=
  [⟨[⟨[[0, 1, 2], [3, 4]], 1, 3, by decide⟩, ⟨[[5, 6, 7]], 0, 2, by decide⟩]⟩, ⟨[]⟩,
    ⟨[⟨[], 0, 0, by decide⟩]⟩]

theorem handed_mixedChain
    : ((filterSendNetBufferLists plentifulNdis approvingClients runningModule mixedChain 3 0#32).map
            handed =
            some ((payloads mixedChain).map (Handed.mk .out 3)) ∧
          (filterSendNetBufferLists plentifulNdis approvingClients runningModule mixedChain 3 0#32).map
            handed =
            (filterSendNetBufferLists plentifulNdis { approvingClients with fltInstancesList := [] }
              runningModule mixedChain 3 0#32).map handed) ∧
        ((filterReceiveNetBufferLists plentifulNdis approvingClients runningModule mixedChain 3 3
              0#32).map handed =
            some ((payloads mixedChain).map (Handed.mk .inbound 3)) ∧
          (filterReceiveNetBufferLists plentifulNdis approvingClients runningModule mixedChain 3 3
              0#32).map handed =
            (filterReceiveNetBufferLists plentifulNdis { approvingClients with fltInstancesList := [] }
              runningModule mixedChain 3 3 0#32).map handed) :=
  handed_chain provides_plentifulNdis (fun _ _ _ => rfl) ⟨rfl, by decide⟩ mixedChain 3 3 0#32

end Ansfltr.Vista
