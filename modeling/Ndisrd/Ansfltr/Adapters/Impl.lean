import Ndisrd.Lib.Acquisition
import Ndisrd.Lib.Run
import Ndisrd.Lib.SinglyLinked

/-!
This module contains the life of the adapters of the NT filter: `PtBindAdapter` and `PtUnbindAdapter` of
`nt/protocol.c`, which NDIS calls for the adapters below, `MPInitialize` and `MPHalt` of `nt/miniport.c`,
which it calls for the instances above, and the list `pAdaptList` of the adapters in between. The calls for
one adapter and those for others are taken apart where another thread can come in between.
-/

namespace Ansfltr.Adapters

open Acquisition (Effect)
open SinglyLinked (Links)

inductive Resource where
  | configuration
  | adapt
  | packetPool
  | bufferPool
  | adapterName
  | binding
  /-- `OpenAdapter` has told the filter instances of the adapter. -/
  | openAdapter
  /-- `PtRegisterDevice` has counted the adapter. -/
  | registerDevice
  deriving DecidableEq, Repr

/--
An `ADAPT`, whose handles and buffers are there or `NULL`.
-/
structure Adapt where
  miniportInitPending : Bool
  miniportInitEvent : Bool
  miniportHandle : Bool
  bindingHandle : Bool
  m_hPacketPool : Bool
  m_hBufferPool : Bool
  m_AdapterName : Bool
  m_Medium : Nat

def ndisMedium802_3 : Nat := 0

def ndisMediumWan : Nat := 3

namespace Adapt

def zeroed : Adapt where
  miniportInitPending := false
  miniportInitEvent := false
  miniportHandle := false
  bindingHandle := false
  m_hPacketPool := false
  m_hBufferPool := false
  m_AdapterName := false
  m_Medium := 0

variable (pAdapt : Adapt)

def ndisCloseAdapter : List (Effect Resource) :=
  if pAdapt.bindingHandle then [.release .binding] else []

def mpFreeAllPacketPools : List (Effect Resource) :=
  (if pAdapt.m_hPacketPool then [.release .packetPool] else []) ++
    if pAdapt.m_hBufferPool then [.release .bufferPool] else []

def freeAdapterName : List (Effect Resource) :=
  if pAdapt.m_AdapterName then [.release .adapterName] else []

end Adapt

/--
What NDIS and the memory manager answer `PtBindAdapter`. `NdisOpenAdapter` also tells the medium.
-/
structure Answers where
  ndisOpenProtocolConfiguration : Bool
  ndisReadConfiguration : Bool
  allocateAdapt : Bool
  ndisAllocatePacketPool : Bool
  ndisAllocateBufferPool : Bool
  allocateAdapterName : Bool
  ndisOpenAdapter : Option Nat

/--
Where the body of `PtBindAdapter` stands when it is left.
-/
structure Reached where
  status : Bool
  configHandle : Bool
  pAdapt : Option Adapt
  effects : List (Effect Resource)

def ptBindAdapter.body (answers : Answers) : Reached :=
  if !answers.ndisOpenProtocolConfiguration then
    ⟨false, false, none, []⟩
  else if !answers.ndisReadConfiguration then
    ⟨false, true, none, [.acquire .configuration]⟩
  else if !answers.allocateAdapt then
    ⟨false, true, none, [.acquire .configuration]⟩
  else
    let effects := [.acquire .configuration, .acquire .adapt]
    let pAdapt := Adapt.zeroed
    if !answers.ndisAllocatePacketPool then
      ⟨false, true, some pAdapt, effects⟩
    else
      let effects := effects ++ [.acquire .packetPool]
      let pAdapt := { pAdapt with m_hPacketPool := true }
      if !answers.ndisAllocateBufferPool then
        ⟨false, true, some pAdapt, effects⟩
      else
        let effects := effects ++ [.acquire .bufferPool]
        let pAdapt := { pAdapt with m_hBufferPool := true }
        -- The adapter goes on without a name.
        let effects := effects ++ if answers.allocateAdapterName then [.acquire .adapterName] else []
        let pAdapt := { pAdapt with m_AdapterName := answers.allocateAdapterName }
        match answers.ndisOpenAdapter with
        | none => ⟨false, true, some pAdapt, effects⟩
        | some medium =>
          let effects := effects ++ [.acquire .binding]
          let pAdapt := { pAdapt with bindingHandle := true, m_Medium := medium }
          ⟨true, true, some { pAdapt with miniportInitPending := true }, effects⟩

/-- The close-up housekeeping of `PtBindAdapter` when it has failed. -/
def ptBindAdapter.unwind (configHandle : Bool) (pAdapt : Option Adapt) : List (Effect Resource) :=
  (if configHandle then [.release .configuration] else []) ++
    match pAdapt with
    | some pAdapt =>
      pAdapt.ndisCloseAdapter ++ pAdapt.mpFreeAllPacketPools ++ pAdapt.freeAdapterName ++
        [.release .adapt]
    | none => []

inductive BindPc where
  | unbound
  -- `PtBindAdapter`
  | ndisIMInitializeDeviceInstanceEx
  | refused
  | bound
  -- `PtUnbindAdapter`
  | ndisIMCancelInitializeDeviceInstance
  | ndisWaitEvent
  | testMiniportHandle
  | ndisIMDeInitializeDeviceInstance
  | closed
  | halted
  | notHalted
  deriving DecidableEq, Repr

inductive MiniPc where
  | none
  | scheduled
  -- `MPInitialize`
  | insertAdapt
  | ptRegisterDevice
  | clearPending (status : Bool)
  | ndisSetEvent (status : Bool)
  | running
  | failed
  -- `MPHalt`
  | removeAdapt
  | ptDeregisterDevice
  | ndisCloseAdapter
  | halted
  deriving DecidableEq, Repr

/--
One call of `PtBindAdapter` and what follows from it. The two flags are up once a call has used an `ADAPT`
that is not allocated, or an assertion has failed.
-/
structure Binding where
  pAdapt : Option Adapt
  bind : BindPc
  mini : MiniPc
  effects : List (Effect Resource)
  freedAccess : Bool
  assertFailed : Bool

namespace Binding

def init : Binding where
  pAdapt := none
  bind := .unbound
  mini := .none
  effects := []
  freedAccess := false
  assertFailed := false

variable (b : Binding)

def log (effects : List (Effect Resource)) : Binding := { b with effects := b.effects ++ effects }

@[simp]
theorem log_pAdapt (effects : List (Effect Resource)) : (b.log effects).pAdapt = b.pAdapt := rfl

@[simp]
theorem log_bind (effects : List (Effect Resource)) : (b.log effects).bind = b.bind := rfl

@[simp]
theorem log_mini (effects : List (Effect Resource)) : (b.log effects).mini = b.mini := rfl

def assert (p : Bool) : Binding := { b with assertFailed := b.assertFailed || !p }

def onAdapt (f : Adapt → Binding) : Binding :=
  match b.pAdapt with
  | some pAdapt => f pAdapt
  | none => { b with freedAccess := true }

def ptBindAdapter (answers : Answers) : Binding :=
  let reached := ptBindAdapter.body answers
  let b := b.log reached.effects
  if reached.status then
    { b with
      pAdapt := reached.pAdapt, bind := .ndisIMInitializeDeviceInstanceEx, mini := .scheduled }
  else
    { b.log (ptBindAdapter.unwind reached.configHandle reached.pAdapt) with bind := .refused }

/--
`NdisIMInitializeDeviceInstanceEx` returns. With an error NDIS calls `MPInitialize` no more.
-/
def ptBindAdapterEnd (status : Bool) : Binding :=
  if status then
    { b.log [.release .configuration] with bind := .bound }
  else
    b.onAdapt fun pAdapt =>
      { b.log (ptBindAdapter.unwind true (some pAdapt)) with
        pAdapt := none, bind := .refused, mini := .none }

def ptUnbindAdapter : Binding :=
  b.onAdapt fun pAdapt =>
    if pAdapt.miniportInitPending then
      { b with bind := .ndisIMCancelInitializeDeviceInstance }
    else
      { b with bind := .testMiniportHandle }

/--
NDIS cancels an initialisation as long as it has not called `MPInitialize`.
-/
def ndisIMCancelInitializeDeviceInstance : Binding :=
  match b.mini with
  | .scheduled =>
    b.onAdapt fun pAdapt =>
      { b.assert !pAdapt.miniportHandle with
        pAdapt := some { pAdapt with miniportInitPending := false }
        bind := .testMiniportHandle
        mini := .none }
  | _ => { b with bind := .ndisWaitEvent }

def ndisWaitEvent : Binding :=
  b.onAdapt fun pAdapt =>
    { b.assert !pAdapt.miniportInitPending with bind := .testMiniportHandle }

def testMiniportHandle : Binding :=
  b.onAdapt fun pAdapt =>
    if pAdapt.miniportHandle then
      { b with bind := .ndisIMDeInitializeDeviceInstance }
    else
      let b := b.assert pAdapt.bindingHandle
      let b := b.log (pAdapt.ndisCloseAdapter ++ pAdapt.freeAdapterName ++ [.release .adapt])
      { b with pAdapt := none, bind := .closed }

/--
NDIS has halted the instance, or there is none that has been initialised.
-/
def ndisIMDeInitializeDeviceInstance : Binding :=
  match b.mini with
  | .halted => { b with bind := .halted }
  | _ => { b with bind := .notHalted }

def mpInitialize (mediumArray : List Nat) : Binding :=
  b.onAdapt fun pAdapt =>
    let b := { b with pAdapt := some { pAdapt with miniportHandle := true } }
    let medium := if pAdapt.m_Medium = ndisMediumWan then ndisMedium802_3 else pAdapt.m_Medium
    if medium ∈ mediumArray then
      { b with mini := .insertAdapt }
    else
      { b with mini := .clearPending false }

def openAdapter : Binding :=
  b.onAdapt fun _ => { b.log [.acquire .openAdapter] with mini := .ptRegisterDevice }

def ptRegisterDevice : Binding :=
  { b.log [.acquire .registerDevice] with mini := .clearPending true }

def clearPending (status : Bool) : Binding :=
  b.onAdapt fun pAdapt =>
    { b.assert pAdapt.miniportInitPending with
      pAdapt := some { pAdapt with miniportInitPending := false }, mini := .ndisSetEvent status }

def ndisSetEvent (status : Bool) : Binding :=
  b.onAdapt fun pAdapt =>
    { b with
      pAdapt := some { pAdapt with miniportInitEvent := true }
      mini := if status then .running else .failed }

/-- `MPHalt`, with the call of `CloseAdapter`. -/
def mpHalt : Binding :=
  { b.log [.release .openAdapter] with mini := .removeAdapt }

def removeAdapt : Binding :=
  b.onAdapt fun _ => { b with mini := .ptDeregisterDevice }

-- `EXT_ResetNdisrdExtension` comes before the call.
def ptDeregisterDevice : Binding :=
  b.onAdapt fun _ => { b.log [.release .registerDevice] with mini := .ndisCloseAdapter }

def mpHaltEnd : Binding :=
  b.onAdapt fun pAdapt =>
    { b.log (pAdapt.ndisCloseAdapter ++ pAdapt.mpFreeAllPacketPools ++ pAdapt.freeAdapterName ++
        [.release .adapt]) with
      pAdapt := none, mini := .halted }

def unbindStep : Binding :=
  match b.bind with
  | .ndisIMCancelInitializeDeviceInstance => b.ndisIMCancelInitializeDeviceInstance
  | .ndisWaitEvent => b.ndisWaitEvent
  | .testMiniportHandle => b.testMiniportHandle
  | .ndisIMDeInitializeDeviceInstance => b.ndisIMDeInitializeDeviceInstance
  | _ => b

def miniStep : Binding :=
  match b.mini with
  | .insertAdapt => b.openAdapter
  | .ptRegisterDevice => b.ptRegisterDevice
  | .clearPending status => b.clearPending status
  | .ndisSetEvent status => b.ndisSetEvent status
  | .removeAdapt => b.removeAdapt
  | .ptDeregisterDevice => b.ptDeregisterDevice
  | .ndisCloseAdapter => b.mpHaltEnd
  | _ => b

end Binding

/--
What NDIS does with one binding: it makes a call, returns from one, or lets a call take its next step.
-/
inductive Action where
  | ptBindAdapter (answers : Answers)
  | ptBindAdapterEnd (status : Bool)
  | ptUnbindAdapter
  | unbindStep
  | mpInitialize (mediumArray : List Nat)
  | mpHalt
  | miniStep

def Action.apply (b : Binding) : Action → Binding
  | .ptBindAdapter answers => b.ptBindAdapter answers
  | .ptBindAdapterEnd status => b.ptBindAdapterEnd status
  | .ptUnbindAdapter => b.ptUnbindAdapter
  | .unbindStep => b.unbindStep
  | .mpInitialize mediumArray => b.mpInitialize mediumArray
  | .mpHalt => b.mpHalt
  | .miniStep => b.miniStep

structure State where
  pAdaptList : Links Nat
  bindings : Nat → Binding

def init : State where
  pAdaptList := { head := none, next := fun _ => none }
  bindings _ := .init

/--
`unlinked` is what the loop of `MPHalt` leaves of the list, where the step has one.
-/
structure Event where
  binding : Nat
  action : Action
  unlinked : Links Nat

/--
What the step does to the list, in the same hold of `GlobalLock`.
-/
def relink (b : Binding) (pAdaptList : Links Nat) (e : Event) : Links Nat :=
  match e.action, b.mini with
  | .miniStep, .insertAdapt => pAdaptList.push e.binding
  | .miniStep, .removeAdapt => e.unlinked
  | _, _ => pAdaptList

/--
When NDIS may do so. It halts an instance that has been initialised, for `NdisIMDeInitializeDeviceInstance` or
by itself, and what comes from a wait or a call of NDIS comes when what it waits for is there.
-/
def Binding.Allowed (b : Binding) : Action → Prop
  | .ptBindAdapter _ => b.bind = .unbound
  | .ptBindAdapterEnd status =>
    b.bind = .ndisIMInitializeDeviceInstanceEx ∧ (status = true ∨ b.mini = .scheduled ∨ b.mini = .failed)
  | .ptUnbindAdapter => b.bind = .bound
  | .unbindStep =>
    match b.bind with
    | .ndisIMCancelInitializeDeviceInstance => True
    | .ndisWaitEvent => ∀ pAdapt, b.pAdapt = some pAdapt → pAdapt.miniportInitEvent = true
    | .testMiniportHandle => True
    | .ndisIMDeInitializeDeviceInstance => b.mini = .halted ∨ b.mini = .failed
    | _ => False
  | .mpInitialize _ => b.mini = .scheduled
  | .mpHalt => b.mini = .running
  | .miniStep =>
    match b.mini with
    | .none | .scheduled | .running | .failed | .halted => False
    | _ => True

def Allowed (s : State) (e : Event) : Prop :=
  (s.bindings e.binding).Allowed e.action ∧
    (e.action = .miniStep → (s.bindings e.binding).mini = .removeAdapt →
      Loop.Ends (s.pAdaptList.unlinkTurn e.binding) .head e.unlinked)

def step (s : State) (e : Event) : State where
  pAdaptList := relink (s.bindings e.binding) s.pAdaptList e
  bindings := Function.update s.bindings e.binding (e.action.apply (s.bindings e.binding))

end Ansfltr.Adapters
