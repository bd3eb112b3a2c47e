import Ndisrd.Ansfw.Unwinding.Impl

/-!
This module contains what the steps of a start-up answer and, for every resource, how often they acquire
and release it.
-/

namespace Ansfw.Unwinding

open Acquisition
open DriverEntry (Device Callout Worker Platform)

variable (answers : Call → Bool)

def RegistersFilter : Prop :=
  answers .ioGetFltDeviceObjectPointer ∧ answers .ioBuildDeviceIoControlRequest ∧ answers .ioCallDriver ∧
    (answers .hasRegisterCallbacks → answers .fltRegisterCallbacks)

def Attaches (device : Device) : Prop :=
  answers (.ioGetDeviceObjectPointer device) ∧ answers (.ioCreateDevice device) ∧
    answers (.ioAttachDeviceToDeviceStack device)

def RegistersCallouts : Prop :=
  answers .fwpsInjectionHandleCreate ∧ answers .fwpmEngineOpen ∧ answers .fwpmTransactionBegin ∧
    answers .fwpmProviderAdd ∧ answers .fwpmSubLayerAdd ∧
    (∀ callout ∈ layers, answers (.fwpsCalloutRegister callout) ∧ answers (.fwpmCalloutAdd callout) ∧
      answers (.fwpmFilterAdd callout)) ∧
    answers .fwpmTransactionCommit

variable {answers} {s : CurrState} {r : Resource} {e : Effect Resource}

section Status

theorem obtainFilterFunctions_fst
    : (obtainFilterFunctions answers s).1 =
      (answers .ioGetFltDeviceObjectPointer && answers .ioBuildDeviceIoControlRequest &&
        answers .ioCallDriver) := by
  simp only [obtainFilterFunctions]
  split_ifs <;> simp_all

theorem registerFilterCallbacks_fst
    : (registerFilterCallbacks answers s).1 = true ↔ RegistersFilter answers := by
  simp only [registerFilterCallbacks, RegistersFilter]
  split_ifs <;> grind [obtainFilterFunctions_fst]

theorem registerIpMonitor_fst
    : (registerIpMonitor answers s).1 = answers .tdiRegisterPnPHandlers := by
  simp only [registerIpMonitor]
  split_ifs <;> simp_all

theorem filterAttach_fst (device : Device)
    : (filterAttach answers device s).1 = true ↔ Attaches answers device := by
  simp only [filterAttach, Attaches]
  split_ifs <;> simp_all

theorem attachToStack_fst
    : (attachToStack answers s).1 = true ↔ Attaches answers .tcp ∧ Attaches answers .udp := by
  rw [← filterAttach_fst (s := s) .tcp, ← filterAttach_fst (s := (filterAttach answers .tcp s).2) .udp]
  simp only [attachToStack]
  split_ifs <;> simp_all

theorem attachToStack_of_fails (h : ¬(Attaches answers .tcp ∧ Attaches answers .udp)) (s : CurrState)
    : (attachToStack answers s).1 = false :=
  Bool.eq_false_iff.mpr (mt attachToStack_fst.mp h)

theorem registerCalloutForLayer_fst (callout : Callout)
    : (registerCalloutForLayer answers callout s).1 = true ↔
      answers (.fwpsCalloutRegister callout) ∧ answers (.fwpmCalloutAdd callout) ∧
        answers (.fwpmFilterAdd callout) := by
  simp only [registerCalloutForLayer]
  split_ifs <;> simp_all

theorem registerCalloutsForLayers_fst (callouts : List Callout)
    : (registerCalloutsForLayers answers callouts s).1 = true ↔
      ∀ callout ∈ callouts, answers (.fwpsCalloutRegister callout) ∧
        answers (.fwpmCalloutAdd callout) ∧ answers (.fwpmFilterAdd callout) := by
  induction callouts generalizing s with
  | nil => simp [registerCalloutsForLayers]
  | cons callout callouts ih =>
    rw [List.forall_mem_cons, ← registerCalloutForLayer_fst (s := s),
      ← ih (s := (registerCalloutForLayer answers callout s).2)]
    simp only [registerCalloutsForLayers]
    split_ifs <;> simp_all

theorem registerCallouts_fst
    : (registerCallouts answers s).1 = true ↔ RegistersCallouts answers := by
  have hlayers := @registerCalloutsForLayers_fst answers
    (((s.acquire .injectionHandle).acquire .engine).acquire .transaction) layers
  unfold RegistersCallouts
  rw [← hlayers]
  simp only [registerCallouts]
  split_ifs <;> grind

theorem initializeWfpFilter_fst (bfeRunning : Bool)
    : (initializeWfpFilter answers bfeRunning s).1 = true ↔
      answers .ioCreateWfpDevice ∧
        if bfeRunning then RegistersCallouts answers else answers .fwpmBfeStateSubscribeChanges := by
  simp only [initializeWfpFilter]
  split_ifs <;> simp_all [registerCallouts_fst]

end Status

section Count

@[simp]
theorem acquire_threadObj : (s.acquire r).threadObj = s.threadObj := rfl

@[simp]
theorem release_threadObj : (s.release r).threadObj = s.threadObj := rfl

@[simp]
theorem initState_trace : initState.trace = [] := rfl

theorem count_acquire
    : (s.acquire r).trace.count e = s.trace.count e + if .acquire r = e then 1 else 0 := by
  simp [CurrState.acquire, List.count_singleton]

theorem count_release
    : (s.release r).trace.count e = s.trace.count e + if .release r = e then 1 else 0 := by
  simp [CurrState.release, List.count_singleton]

@[simp]
theorem count_acquire_of_ne (he : e.resource ≠ r) : (s.acquire r).trace.count e = s.trace.count e := by
  rw [count_acquire, if_neg (by rintro rfl; exact he rfl), Nat.add_zero]

@[simp]
theorem count_release_of_ne (he : e.resource ≠ r) : (s.release r).trace.count e = s.trace.count e := by
  rw [count_release, if_neg (by rintro rfl; exact he rfl), Nat.add_zero]

theorem count_obtainFilterFunctions (he : e.resource ≠ .fltFileObject)
    : (obtainFilterFunctions answers s).2.trace.count e = s.trace.count e := by
  simp only [obtainFilterFunctions]
  split_ifs <;> simp [he]

theorem count_registerFilterCallbacks
    (he : e.resource ∉ [.fltFileObject, .filterCallbacks, .fwRequestsLookasideList])
    : (registerFilterCallbacks answers s).2.trace.count e = s.trace.count e := by
  simp only [List.mem_cons, List.not_mem_nil, not_or] at he
  simp only [registerFilterCallbacks]
  split_ifs <;> simp [he, count_obtainFilterFunctions]

theorem count_deregisterFilterCallbacks
    (he : e.resource ∉ [.filterCallbacks, .fwRequestsLookasideList])
    : (deregisterFilterCallbacks answers s).trace.count e = s.trace.count e := by
  simp only [List.mem_cons, List.not_mem_nil, not_or] at he
  simp only [deregisterFilterCallbacks]
  split_ifs <;> simp [he]

theorem count_registerIpMonitor (he : e.resource ∉ [.netAddressesLookasideList, .pnpHandlers])
    : (registerIpMonitor answers s).2.trace.count e = s.trace.count e := by
  simp only [List.mem_cons, List.not_mem_nil, not_or] at he
  simp only [registerIpMonitor]
  split_ifs <;> simp [he]

theorem count_deregisterIpMonitor (he : e.resource ≠ .pnpHandlers)
    : (deregisterIpMonitor s).trace.count e =
      s.trace.count e + if .release .netAddressesLookasideList = e then 1 else 0 := by
  simp only [deregisterIpMonitor]
  split_ifs <;> simp_all [count_release]

theorem count_startThread {worker : Worker} (he : e.resource ≠ .thread worker)
    : (startThread answers worker s).trace.count e = s.trace.count e := by
  simp only [startThread]
  split_ifs <;> simp [he]

theorem count_stopThread {worker : Worker} (he : e.resource ≠ .thread worker)
    : (stopThread worker s).trace.count e = s.trace.count e := by
  simp only [stopThread]
  split_ifs <;> simp [he]

theorem count_startTdiThread {worker : Worker} (he : e.resource ≠ .thread worker)
    : (startTdiThread answers worker s).trace.count e = s.trace.count e := by
  simp only [startTdiThread]
  split_ifs <;> simp [he]

theorem count_filterAttach {device : Device}
    (he : e.resource ∉ [.targetFileObject device, .filterDevice device, .attachment device])
    : (filterAttach answers device s).2.trace.count e = s.trace.count e := by
  simp only [List.mem_cons, List.not_mem_nil, not_or] at he
  simp only [filterAttach]
  split_ifs <;> simp [he]

theorem count_attachToStack
    (he : ∀ device, e.resource ∉ [.targetFileObject device, .filterDevice device, .attachment device])
    : (attachToStack answers s).2.trace.count e = s.trace.count e := by
  simp only [attachToStack]
  split_ifs <;> simp [he, count_filterAttach]

theorem count_registerCalloutsForLayers {callouts : List Callout}
    (he : ∀ callout, e.resource ≠ .callout callout)
    : (registerCalloutsForLayers answers callouts s).2.trace.count e = s.trace.count e := by
  induction callouts generalizing s with
  | nil => rfl
  | cons callout callouts ih =>
    have hlayer : (registerCalloutForLayer answers callout s).2.trace.count e = s.trace.count e := by
      simp only [registerCalloutForLayer]
      split_ifs <;> simp [he]
    simp only [registerCalloutsForLayers]
    split_ifs <;> simp [hlayer, ih]

theorem count_registerCallouts (he : e.resource ∉ [.injectionHandle, .engine, .transaction])
    (he' : ∀ callout, e.resource ≠ .callout callout)
    : (registerCallouts answers s).2.trace.count e = s.trace.count e +
      if (registerCallouts answers s).1 ∧ .acquire .engineObjects = e then 1 else 0 := by
  simp only [List.mem_cons, List.not_mem_nil, not_or] at he
  simp only [registerCallouts]
  split_ifs <;> simp_all [count_registerCalloutsForLayers, count_acquire]

theorem count_unregisterCallouts (he : e.resource ≠ .engine) (he' : ∀ callout, e.resource ≠ .callout callout)
    : (unregisterCallouts answers s).trace.count e =
      s.trace.count e + (if answers .fwpmEngineReopen ∧ .release .engineObjects = e then 1 else 0) +
        if .release .injectionHandle = e then 1 else 0 := by
  simp only [unregisterCallouts]
  split_ifs <;> simp_all [count_release]

theorem count_uninitializeWfpFilter (he : e.resource ∉ [.engine, .bfeSubscription, .wfpDevice])
    (he' : ∀ callout, e.resource ≠ .callout callout)
    : (uninitializeWfpFilter answers s).trace.count e =
      s.trace.count e + (if answers .fwpmEngineReopen ∧ .release .engineObjects = e then 1 else 0) +
        if .release .injectionHandle = e then 1 else 0 := by
  simp only [List.mem_cons, List.not_mem_nil, not_or] at he
  rw [← count_unregisterCallouts he.1 he']
  simp only [uninitializeWfpFilter]
  split_ifs <;> simp [he]

end Count

section Threads

variable {worker : Worker}

theorem startThread_threadObj (worker' : Worker)
    : (startThread answers worker s).threadObj worker' =
      if worker' = worker ∧ answers (.psCreateSystemThread worker) then
        answers (.obReferenceObjectByHandle worker)
      else
        s.threadObj worker' := by
  simp only [startThread]
  by_cases hworker : worker' = worker
  . subst hworker
    split_ifs <;> simp_all
  . split_ifs <;> simp_all

theorem stopThread_of_none (h : s.threadObj worker = false)
    : stopThread worker s = s := by
  simp [stopThread, h]

theorem stopThread_threadObj_of_none (h : s.threadObj worker = false) (worker' : Worker)
    : (stopThread worker' s).threadObj worker = false := by
  simp only [stopThread]
  split_ifs
  . by_cases hworker : worker = worker' <;> simp [hworker, h]
  . exact h

@[simp]
theorem deregisterIpMonitor_threadObj : (deregisterIpMonitor s).threadObj = s.threadObj := by
  simp only [deregisterIpMonitor]
  split_ifs <;> rfl

/--
A thread whose object could not be referenced is not waited for.
-/
theorem count_uninitializeReassembly_of_none (h : s.threadObj worker = false) (he : e.resource = .thread worker)
    : (uninitializeReassembly s).trace.count e = s.trace.count e := by
  have hother (worker' : Worker) (s : CurrState) (h : s.threadObj worker = false)
      : (stopThread worker' s).trace.count e = s.trace.count e := by
    by_cases hworker : worker' = worker
    . rw [hworker, stopThread_of_none h]
    . exact count_stopThread (by simpa [he] using Ne.symm hworker)
  rw [uninitializeReassembly, hother _ _ (stopThread_threadObj_of_none h _), hother _ _ h]

theorem count_uninitializeReassembly (he : ∀ worker, e.resource ≠ .thread worker)
    : (uninitializeReassembly s).trace.count e = s.trace.count e := by
  rw [uninitializeReassembly, count_stopThread (he _), count_stopThread (he _)]

theorem count_initializeReassembly (he : ∀ worker, e.resource ≠ .thread worker)
    : (initializeReassembly answers s).trace.count e = s.trace.count e := by
  rw [initializeReassembly, count_startThread (he _), count_startThread (he _)]

theorem count_startThread_self (hcreated : answers (.psCreateSystemThread worker))
    : (startThread answers worker s).trace.count e =
      s.trace.count e + if .acquire (.thread worker) = e then 1 else 0 := by
  simp [startThread, hcreated, count_acquire]

/--
A thread that is created counts as acquired, and has an object just if that can be referenced.
-/
theorem initializeReassembly_thread (hworker : worker ∈ [Worker.intermed, Worker.ttlDecrement])
    (hcreated : answers (.psCreateSystemThread worker)) (he : e.resource = .thread worker)
    : (initializeReassembly answers s).trace.count e =
        s.trace.count e + (if .acquire (.thread worker) = e then 1 else 0) ∧
      (initializeReassembly answers s).threadObj worker = answers (.obReferenceObjectByHandle worker) := by
  simp only [List.mem_cons, List.not_mem_nil, or_false] at hworker
  rcases hworker with rfl | rfl
  . have hother : e.resource ≠ .thread .ttlDecrement := by simp [he]
    rw [initializeReassembly, count_startThread hother, count_startThread_self hcreated]
    simp [startThread_threadObj, hcreated]
  . have hother : e.resource ≠ .thread .intermed := by simp [he]
    rw [initializeReassembly, count_startThread_self hcreated, count_startThread hother]
    simp [startThread_threadObj, hcreated]

end Threads

section Traces

/--
What `ObtainFilterFunctions` acquires and gives back.
-/
def obtainTrace (answers : Call → Bool) : List (Effect Resource) :=
  if answers .ioGetFltDeviceObjectPointer then [.acquire .fltFileObject, .release .fltFileObject] else []

theorem settle_obtainTrace (held : List Resource) (es : List (Effect Resource))
    : settle held (obtainTrace answers ++ es) = settle held es := by
  unfold obtainTrace
  split <;> simp [settle]

theorem count_obtainTrace (he : e.resource ≠ .fltFileObject)
    : (obtainTrace answers).count e = 0 := by
  rw [List.count_eq_zero]
  intro hmem
  unfold obtainTrace at hmem
  split_ifs at hmem
  . simp only [List.mem_cons, List.not_mem_nil, or_false] at hmem
    rcases hmem with rfl | rfl <;> exact he rfl
  . cases hmem

theorem obtainFilterFunctions_snd
    : (obtainFilterFunctions answers s).2 = { s with trace := s.trace ++ obtainTrace answers } := by
  simp only [obtainFilterFunctions, obtainTrace]
  split_ifs <;> simp_all [CurrState.acquire, CurrState.release]

theorem registerFilterCallbacks_of_fails (h : ¬RegistersFilter answers) (s : CurrState)
    : registerFilterCallbacks answers s =
      (false, { s with trace := s.trace ++ obtainTrace answers }) := by
  rw [← registerFilterCallbacks_fst (s := s)] at h
  refine Prod.ext (Bool.eq_false_iff.mpr h) ?_
  simp only [registerFilterCallbacks] at h ⊢
  split_ifs at h ⊢
  . exact absurd rfl h
  . exact obtainFilterFunctions_snd
  . exact obtainFilterFunctions_snd

/--
What `RegisterCallouts` acquires and gives back when nothing fails.
-/
def calloutsTrace : List (Effect Resource) :=
  [.acquire .injectionHandle, .acquire .engine, .acquire .transaction] ++
    layers.map (fun callout => .acquire (.callout callout)) ++
    [.release .transaction, .acquire .engineObjects, .release .engine]

theorem registerCalloutsForLayers_of_succeeds {callouts : List Callout}
    (h : ∀ callout ∈ callouts, answers (.fwpsCalloutRegister callout) ∧ answers (.fwpmCalloutAdd callout) ∧
      answers (.fwpmFilterAdd callout)) (s : CurrState)
    : registerCalloutsForLayers answers callouts s =
      (true, { s with trace := s.trace ++ callouts.map fun callout => .acquire (.callout callout) }) := by
  induction callouts generalizing s with
  | nil => simp [registerCalloutsForLayers]
  | cons callout callouts ih =>
    obtain ⟨hcallout, hcallouts⟩ := List.forall_mem_cons.mp h
    simp [registerCalloutsForLayers, registerCalloutForLayer, hcallout, ih hcallouts, CurrState.acquire]

theorem registerCallouts_of_succeeds (h : RegistersCallouts answers) (s : CurrState)
    : registerCallouts answers s = (true, { s with trace := s.trace ++ calloutsTrace }) := by
  obtain ⟨hinjection, hengine, hbegin, hprovider, hsubLayer, hlayers, hcommit⟩ := h
  simp [registerCallouts, hinjection, hengine, hbegin, hprovider, hsubLayer, hcommit,
    registerCalloutsForLayers_of_succeeds hlayers, calloutsTrace, CurrState.acquire, CurrState.release]

end Traces

end Ansfw.Unwinding
