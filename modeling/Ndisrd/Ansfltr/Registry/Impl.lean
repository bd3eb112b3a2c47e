import Ndisrd.Ansfltr.Callbacks
import Ndisrd.Lib.ListLoops
import Ndisrd.Lib.Simulation

/-!
This module contains `callbacks.c` of `ansfltr` over the memory of its two lists, `g_FltInstancesList`
and `g_PacketsList`.
-/

namespace Ansfltr.Registry

open ListEntry (Links Node)

inductive ListHead where
  | fltInstancesList
  | packetsList
  deriving DecidableEq

/-- Which of the callbacks are not `NULL`. -/
structure RegistrationContext where
  requestCallback : Bool
  openAdapterCallback : Bool
  closeAdapterCallback : Bool
  unloadCallback : Bool

structure Packet where
  references : Int
  pAdapter : Option Nat

inductive Call where
  | allocateMemory (address : Nat)
  | requestCallback (pInstance pPacket : Nat)
  | sendPacket (pPacket : Nat)
  | openAdapterCallback (pInstance pAdapter : Nat)
  | closeAdapterCallback (pInstance pAdapter : Nat)
  | unloadCallback (pInstance : Nat)
  | freeMemory (address : Nat)
  deriving DecidableEq

/--
The instances and packets by their addresses, in the memory of the lists.
-/
structure State (μ : Type) where
  lists : μ
  context : Nat → RegistrationContext
  packet : Nat → Packet

/-- What an event returns and calls. -/
structure Result where
  status : NtStatus
  calls : List Call

abbrev Memory := Links ListHead Nat

/--
One event is what happens under one hold of a lock. What the request callbacks return is in `verdict`,
what they do with packets are events of their own.
-/
inductive Event where
  | fltRegisterCallbacks (ppInstance : Bool) (pContext : Option RegistrationContext)
    (memory : Option Nat)
  | fltDeregisterCallbacks (pInstance : Nat)
  | fltInjectRequest (pInstance : Option Nat) (pPacket : Nat) (verdict : Nat → NtStatus)
  /-- A handler allocates a packet and inserts it. -/
  | createPacket (pPacket pAdapter : Nat)
  | fltCloneRequest (pPacket : Nat)
  /-- `FLTFreeCloneRequest` up to its test, and what it goes on with at zero. -/
  | fltFreeCloneRequest (pPacket : Nat)
  | freePacket (pPacket : Nat)
  | openAdapter (pAdapter : Nat)
  /-- The two loops of `CloseAdapter`. -/
  | closeAdapterPackets (pAdapter : Nat)
  | closeAdapterInstances (pAdapter : Nat)
  /-- The first loop of `UnInitializeANSfltr`, and one turn of the second. -/
  | unInitializeInstances
  | unInitializePacket

section Packets

variable {μ : Type} (s : State μ)

def setPacket (pPacket : Nat) (packet : Packet) : State μ :=
  { s with packet := Function.update s.packet pPacket packet }

def fltCloneRequest (pPacket : Nat) : State μ :=
  setPacket s pPacket
    { s.packet pPacket with references := (s.packet pPacket).references + 1 }

def decrementReferences (pPacket : Nat) : State μ :=
  setPacket s pPacket
    { s.packet pPacket with references := (s.packet pPacket).references - 1 }

end Packets

/-! ### Over the memory of the lists -/

section Memory

variable (s : State Memory)

def fltRegisterCallbacks (ppInstance : Bool) (pContext : Option RegistrationContext)
    (memory : Option Nat)
    : State Memory × Result :=
  match ppInstance, pContext with
  | true, some pContext =>
    if !pContext.requestCallback then
      ⟨s, NtStatus.invalidParameter, []⟩
    else
      match memory with
      | none => ⟨s, NtStatus.insufficientResources, []⟩
      | some pFltInstance =>
        let s := { s with
          lists := s.lists.insertHeadList .fltInstancesList pFltInstance
          context := Function.update s.context pFltInstance pContext }
        ⟨s, NtStatus.success, [.allocateMemory pFltInstance]⟩
  | _, _ => ⟨s, NtStatus.invalidParameter, []⟩

def fltDeregisterCallbacks (pInstance : Nat) : State Memory × Result :=
  ⟨{ s with lists := s.lists.removeEntryList pInstance }, NtStatus.success, [.freeMemory pInstance]⟩

def injectBody (pPacket : Nat) (verdict : Nat → NtStatus) (p : NtStatus × List Call)
    (pFltInstance : Nat)
    : Loop.Turn (NtStatus × List Call) (NtStatus × List Call) :=
  let called :=
    if (s.context pFltInstance).requestCallback then
      (verdict pFltInstance, p.2 ++ [.requestCallback pFltInstance pPacket])
    else
      p
  if called.1 ≠ NtStatus.success then .done called else .goOn called

-- Where the walk of `FLTInjectRequest` begins.
def injectEntry (pInstance : Option Nat) : Node ListHead Nat :=
  match pInstance with
  | some pInstance => s.lists.flink (.entry pInstance)
  | none => s.lists.flink (.head .fltInstancesList)

def FltInjectRequest (pInstance : Option Nat) (pPacket : Nat) (verdict : Nat → NtStatus)
    (o : State Memory × Result)
    : Prop :=
  ∃ called,
    Loop.Ends (s.lists.walkTurn .fltInstancesList (injectBody s pPacket verdict) id)
        (injectEntry s pInstance, NtStatus.success, []) (some called) ∧
      o = ⟨s, called.1,
        called.2 ++ if called.1 = NtStatus.success then [Call.sendPacket pPacket] else []⟩

def createPacket (pPacket pAdapter : Nat) : State Memory × Result :=
  let s := setPacket s pPacket ⟨1, some pAdapter⟩
  ⟨{ s with lists := s.lists.insertTailList .packetsList pPacket }, NtStatus.success,
    [.allocateMemory pPacket]⟩

def freePacket (pPacket : Nat) : State Memory × Result :=
  ⟨{ s with lists := s.lists.removeEntryList pPacket }, NtStatus.success, [.freeMemory pPacket]⟩

def openAdapterBody (pAdapter : Nat) (calls : List Call) (pFltInstance : Nat)
    : Loop.Turn (List Call) (List Call) :=
  if (s.context pFltInstance).openAdapterCallback then
    .goOn (calls ++ [.openAdapterCallback pFltInstance pAdapter])
  else
    .goOn calls

def closeAdapterPacketsBody (pAdapter : Nat) (packet : Nat → Packet) (pPacket : Nat)
    : Loop.Turn (Nat → Packet) (Nat → Packet) :=
  if (packet pPacket).pAdapter = some pAdapter then
    .goOn (Function.update packet pPacket { packet pPacket with pAdapter := none })
  else
    .goOn packet

def closeAdapterBody (pAdapter : Nat) (calls : List Call) (pFltInstance : Nat)
    : Loop.Turn (List Call) (List Call) :=
  if (s.context pFltInstance).closeAdapterCallback then
    .goOn (calls ++ [.closeAdapterCallback pFltInstance pAdapter])
  else
    .goOn calls

def unInitializeBody (calls : List Call) (pFltInstance : Nat) : List Call :=
  if (s.context pFltInstance).unloadCallback then
    calls ++ [.unloadCallback pFltInstance, .freeMemory pFltInstance]
  else
    calls ++ [.freeMemory pFltInstance]

def Walks {σ : Type} (head : ListHead) (body : σ → Nat → Loop.Turn σ σ) (start result : σ)
    : Prop :=
  Loop.Ends (s.lists.walkTurn head body id) (s.lists.flink (.head head), start) (some result)

-- No outcome where `RemoveHeadList` returns the head of the other list.
def unInitializePacket : Option (State Memory × Result) :=
  let removed := s.lists.removeHeadList .packetsList
  match removed.1 with
  | .head .packetsList => some ⟨{ s with lists := removed.2 }, NtStatus.success, []⟩
  | .head .fltInstancesList => none
  | .entry pPacket =>
    some ⟨{ s with lists := removed.2 }, NtStatus.success, [.freeMemory pPacket]⟩

/-- The outcome of an event, where its loop ends. -/
def Performs (e : Event) (o : State Memory × Result) : Prop :=
  match e with
  | .fltRegisterCallbacks ppInstance pContext memory =>
    o = fltRegisterCallbacks s ppInstance pContext memory
  | .fltDeregisterCallbacks pInstance => o = fltDeregisterCallbacks s pInstance
  | .fltInjectRequest pInstance pPacket verdict => FltInjectRequest s pInstance pPacket verdict o
  | .createPacket pPacket pAdapter => o = createPacket s pPacket pAdapter
  | .fltCloneRequest pPacket => o = ⟨fltCloneRequest s pPacket, NtStatus.success, []⟩
  | .fltFreeCloneRequest pPacket => o = ⟨decrementReferences s pPacket, NtStatus.success, []⟩
  | .freePacket pPacket => o = freePacket s pPacket
  | .openAdapter pAdapter =>
    ∃ calls, Walks s .fltInstancesList (openAdapterBody s pAdapter) [] calls ∧
      o = ⟨s, NtStatus.success, calls⟩
  | .closeAdapterPackets pAdapter =>
    ∃ packet, Walks s .packetsList (closeAdapterPacketsBody pAdapter) s.packet packet ∧
      o = ⟨{ s with packet := packet }, NtStatus.success, []⟩
  | .closeAdapterInstances pAdapter =>
    ∃ calls, Walks s .fltInstancesList (closeAdapterBody s pAdapter) [] calls ∧
      o = ⟨s, NtStatus.success, calls⟩
  | .unInitializeInstances =>
    ∃ lists calls,
      Loop.Ends (Links.drainTurn .fltInstancesList (unInitializeBody s)) (s.lists, [])
          (some (lists, calls)) ∧
        o = ⟨{ s with lists := lists }, NtStatus.success, calls⟩
  | .unInitializePacket => unInitializePacket s = some o

/-- `InitializeANSfltr`, in whatever memory. -/
def initializeANSfltr : State Memory :=
  { s with
    lists := (s.lists.initializeListHead .fltInstancesList).initializeListHead .packetsList }

end Memory

end Ansfltr.Registry
