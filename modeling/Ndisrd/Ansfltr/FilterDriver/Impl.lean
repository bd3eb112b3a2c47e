import Mathlib.Logic.Function.Basic
import Ndisrd.Lib.Acquisition
import Ndisrd.Lib.Run

/-!
This module contains the life of the Vista filter driver: `DriverEntry` and `DriverUnload` of `vista/init.c`,
with the calls that NDIS makes for filter modules in between, `FilterAttach` and `FilterDetach` of
`vista/filter.c` among them. The calls for one module, those for others and the two of the driver itself are
taken apart where another thread can come in between.
-/

namespace Ansfltr.FilterDriver

open Acquisition (Effect)

inductive Lock where
  | g_FltInstancesLock
  | g_PacketLock
  | g_AdapterLock
  deriving DecidableEq, Repr

inductive Resource where
  | spinLock (lock : Lock)
  | filterDriver
  | filterDevice
  | context (pFilter : Nat)
  | netBufferListPool (pFilter : Nat)
  deriving DecidableEq, Repr

/-! ### The driver -/

inductive Act where
  | initializeANSfltr
  | registerFilterDriver
  | registerFilterDevice
  | ndisDeregisterDeviceEx
  | ndisFDeregisterFilterDriver
  -- NDIS has detached all modules and returns.
  | deregistered
  | freeAdapterLock
  -- the two halves of `UnInitializeANSfltr`
  | freeFltInstances
  | freePackets
  deriving DecidableEq, Repr

def unInitializeANSfltr : List Act := [.freeFltInstances, .freePackets]

def deregisterFilterDevice : List Act := [.ndisDeregisterDeviceEx]

def deregisterFilterDriver : List Act := [.ndisFDeregisterFilterDriver, .deregistered, .freeAdapterLock]

def driverEntry : List Act := [.initializeANSfltr, .registerFilterDriver, .registerFilterDevice]

def driverUnload : List Act := deregisterFilterDevice ++ deregisterFilterDriver ++ unInitializeANSfltr

inductive Registration where
  | none
  | registered
  | deregistering
  deriving DecidableEq, Repr

/-! ### The filter modules -/

inductive ModulePc where
  | detached
  -- `FilterAttach`
  | ndisFSetAttributes
  | ndisAllocateNetBufferListPool
  | insertHeadList
  | openAdapter
  | attached
  -- `FilterDetach`, whose call of `CloseAdapter` comes to two locks
  | closeAdapterPackets
  | closeAdapterInstances
  | freeNetBufferListPool
  | removeEntryList
  | freeContext
  deriving DecidableEq, Repr

/--
`FLT_MODULE_CONTEXT`, with whether it is allocated, and the packet handlers that run for the module: each has yet
to acquire these locks.
-/
structure Module where
  pc : ModulePc
  context : Bool
  netBufferListPool : Bool
  handlers : List (List Lock)

def Module.detached : Module := ⟨.detached, false, false, []⟩

/-! ### The packet handlers -/

/--
`FilterSendNetBufferLists` and `FilterReceiveNetBufferLists`: for each packet there is memory for, the list of
packets, `FLTInjectRequest`, and `FLTFreeCloneRequest`, which may free the last reference.
-/
def filterNetBufferLists (running isInstancesListEmpty : Bool) (freed : List Bool) : List Lock :=
  if running then
    .g_FltInstancesLock :: if isInstancesListEmpty then [] else
      freed.flatMap fun last => [.g_PacketLock, .g_FltInstancesLock] ++ if last then [.g_PacketLock] else []
  else
    []

/-- `FilterSendNetBufferListsComplete` and `FilterReturnNetBufferLists`, with so many last references. -/
def filterNetBufferListsComplete (freed : Nat) : List Lock := List.replicate freed .g_PacketLock

/--
The two flags are up once a lock has been used that is not allocated, or a context that is not, or an entry has
been removed that is not in `g_AdapterList`.
-/
structure State where
  script : List Act
  driver : Registration
  device : Bool
  locks : Lock → Bool
  g_AdapterList : List Nat
  modules : Nat → Module
  effects : List (Effect Resource)
  freedLock : Bool
  freedAccess : Bool

def init : State where
  script := driverEntry
  driver := .none
  device := false
  locks _ := false
  g_AdapterList := []
  modules _ := .detached
  effects := []
  freedLock := false
  freedAccess := false

namespace State

variable (s : State)

def log (effects : List (Effect Resource)) : State := { s with effects := s.effects ++ effects }

def ndisAllocateSpinLock (lock : Lock) : State :=
  { s.log [.acquire (.spinLock lock)] with locks := Function.update s.locks lock true }

def ndisAcquireSpinLock (lock : Lock) : State := { s with freedLock := s.freedLock || !s.locks lock }

def ndisFreeSpinLock (lock : Lock) : State :=
  { s.log [.release (.spinLock lock)] with locks := Function.update s.locks lock false }

def setModule (pFilter : Nat) (m : Module) : State :=
  { s with modules := Function.update s.modules pFilter m }

def goTo (pFilter : Nat) (pc : ModulePc) : State :=
  s.setModule pFilter { s.modules pFilter with pc := pc }

def onContext (pFilter : Nat) : State :=
  { s with freedAccess := s.freedAccess || !(s.modules pFilter).context }

def ndisFreeContext (pFilter : Nat) : State :=
  (s.log [.release (.context pFilter)]).setModule pFilter .detached

/-! ### The calls of the driver -/

def act (status : Bool) (a : Act) (script : List Act) : State :=
  let s := { s with script := script }
  match a with
  | .initializeANSfltr =>
    (s.ndisAllocateSpinLock .g_FltInstancesLock).ndisAllocateSpinLock .g_PacketLock
  | .registerFilterDriver =>
    let s := { s with g_AdapterList := [] }.ndisAllocateSpinLock .g_AdapterLock
    if status then
      { s.log [.acquire .filterDriver] with driver := .registered }
    else
      { s with script := unInitializeANSfltr }
  | .registerFilterDevice =>
    if status then
      { s.log [.acquire .filterDevice] with device := true }
    else
      { s with script := unInitializeANSfltr ++ deregisterFilterDriver }
  | .ndisDeregisterDeviceEx => { s.log [.release .filterDevice] with device := false }
  | .ndisFDeregisterFilterDriver => { s with driver := .deregistering }
  | .deregistered => { s.log [.release .filterDriver] with driver := .none }
  | .freeAdapterLock => s.ndisFreeSpinLock .g_AdapterLock
  | .freeFltInstances => (s.ndisAcquireSpinLock .g_FltInstancesLock).ndisFreeSpinLock .g_FltInstancesLock
  | .freePackets => (s.ndisAcquireSpinLock .g_PacketLock).ndisFreeSpinLock .g_PacketLock

/-! ### The calls of NDIS -/

/-- The first part of `FilterAttach`: the medium is one of the two, and there is memory for the context. -/
def filterAttach (pFilter : Nat) (medium allocated : Bool) : State :=
  if medium && allocated then
    (s.log [.acquire (.context pFilter)]).setModule pFilter ⟨.ndisFSetAttributes, true, false, []⟩
  else
    s

def goOn (pFilter : Nat) (status : Bool) : State :=
  let m := s.modules pFilter
  let s := s.onContext pFilter
  match m.pc with
  | .ndisFSetAttributes =>
    if status then
      s.goTo pFilter .ndisAllocateNetBufferListPool
    else
      s.ndisFreeContext pFilter
  | .ndisAllocateNetBufferListPool =>
    if status then
      (s.log [.acquire (.netBufferListPool pFilter)]).setModule pFilter
        { m with pc := .insertHeadList, netBufferListPool := true }
    else
      s.ndisFreeContext pFilter
  | .insertHeadList =>
    let s := s.ndisAcquireSpinLock .g_AdapterLock
    { s with g_AdapterList := pFilter :: s.g_AdapterList }.goTo pFilter .openAdapter
  | .openAdapter => (s.ndisAcquireSpinLock .g_FltInstancesLock).goTo pFilter .attached
  | .closeAdapterPackets => (s.ndisAcquireSpinLock .g_PacketLock).goTo pFilter .closeAdapterInstances
  | .closeAdapterInstances =>
    (s.ndisAcquireSpinLock .g_FltInstancesLock).goTo pFilter .freeNetBufferListPool
  | .freeNetBufferListPool =>
    if m.netBufferListPool then
      (s.log [.release (.netBufferListPool pFilter)]).setModule pFilter
        { m with pc := .removeEntryList, netBufferListPool := false }
    else
      s.goTo pFilter .removeEntryList
  | .removeEntryList =>
    let s := s.ndisAcquireSpinLock .g_AdapterLock
    { s with
      g_AdapterList := s.g_AdapterList.erase pFilter
      freedAccess := s.freedAccess || !decide (pFilter ∈ s.g_AdapterList) }.goTo pFilter .freeContext
  | .freeContext => s.ndisFreeContext pFilter
  | .detached | .attached => s

/-- NDIS calls a packet handler that comes to these locks. -/
def callHandler (pFilter : Nat) (turns : List Lock) : State :=
  let m := s.modules pFilter
  (s.onContext pFilter).setModule pFilter { m with handlers := m.handlers ++ [turns] }

/-- The `k`-th handler that runs for the module comes to its next lock, or else returns. -/
def handlerTurn (pFilter k : Nat) : State :=
  let m := s.modules pFilter
  match m.handlers[k]? with
  | some (lock :: turns) =>
    ((s.onContext pFilter).ndisAcquireSpinLock lock).setModule pFilter
      { m with handlers := m.handlers.set k turns }
  | some [] => (s.onContext pFilter).setModule pFilter { m with handlers := m.handlers.eraseIdx k }
  | none => s

end State

inductive Event where
  | act (status : Bool)
  | driverUnload
  | filterAttach (pFilter : Nat) (medium allocated : Bool)
  | filterNetBufferLists (pFilter : Nat) (running isInstancesListEmpty : Bool) (freed : List Bool)
  | filterNetBufferListsComplete (pFilter freed : Nat)
  | handlerTurn (pFilter k : Nat)
  | filterDetach (pFilter : Nat)
  | goOn (pFilter : Nat) (status : Bool)
  deriving DecidableEq, Repr

def step (s : State) : Event → State
  | .act status =>
    match s.script with
    | [] => s
    | a :: script => s.act status a script
  | .driverUnload => { s with script := driverUnload }
  | .filterAttach pFilter medium allocated => s.filterAttach pFilter medium allocated
  | .filterNetBufferLists pFilter running isInstancesListEmpty freed =>
    s.callHandler pFilter (filterNetBufferLists running isInstancesListEmpty freed)
  | .filterNetBufferListsComplete pFilter freed => s.callHandler pFilter (filterNetBufferListsComplete freed)
  | .handlerTurn pFilter k => s.handlerTurn pFilter k
  | .filterDetach pFilter => s.goTo pFilter .closeAdapterPackets
  | .goOn pFilter status => s.goOn pFilter status

/--
When it may happen. NDIS attaches modules to a driver that is registered, and returns from
`NdisFDeregisterFilterDriver` when there is none left. It calls the packet handlers of an attached module, and
detaches one that none of them runs for. A driver is unloaded that has been loaded.
-/
def Allowed (s : State) : Event → Prop
  | .act _ =>
    s.script ≠ [] ∧ (s.script.head? = some .deregistered → ∀ pFilter, (s.modules pFilter).pc = .detached)
  | .driverUnload => s.script = [] ∧ s.device = true
  | .filterAttach pFilter _ _ => s.driver = .registered ∧ (s.modules pFilter).pc = .detached
  | .filterNetBufferLists pFilter _ _ _ => (s.modules pFilter).pc = .attached
  | .filterNetBufferListsComplete pFilter _ => (s.modules pFilter).pc = .attached
  | .handlerTurn pFilter k => k < (s.modules pFilter).handlers.length
  | .filterDetach pFilter => (s.modules pFilter).pc = .attached ∧ (s.modules pFilter).handlers = []
  | .goOn pFilter _ => (s.modules pFilter).pc ≠ .detached ∧ (s.modules pFilter).pc ≠ .attached

end Ansfltr.FilterDriver
