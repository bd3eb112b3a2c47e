import Ndisrd.Ansfw.Unwinding.Lemmas

/-!
This module contains the agreement of the two views of the start-up: whatever fails, what is acquired is
acquired in the order in which the script of `DriverEntry` establishes it.
-/

namespace Ansfw.Unwinding

open Acquisition
open DriverEntry (Device Callout Worker Platform Fact)

/--
What a resource is in the script. The others are not told apart there.
-/
def Resource.fact : Resource → Option Fact
  | .filterCallbacks => some .filterCallbacks
  | .fwRequestsLookasideList => some .fwRequestsLookasideList
  | .netAddressesLookasideList => some .netAddressesLookasideList
  | .pnpHandlers => some .pnpHandlers
  | .connectionsLookasideList => some .connectionsLookasideList
  | .thread worker => some (.thread worker)
  | .attachment device => some (.attached device)
  | .bfeSubscription => some .bfeCallback
  | .callout layer => some (.callout layer)
  | _ => none

def Effect.fact : Effect Resource → Option Fact
  | .acquire resource => resource.fact
  | .release _ => none

def facts (es : List (Effect Resource)) : List Fact := es.filterMap Effect.fact

/--
On the way from one state to the other, some of the script is established, in its order.
-/
def Follows (script : List Fact) (s s' : CurrState) : Prop :=
  ∃ l, List.Sublist l script ∧ facts s'.trace = facts s.trace ++ l

variable {answers : Call → Bool} {s s' s'' : CurrState} {script script' : List Fact} {resource : Resource}

@[simp]
theorem facts_acquire : facts (s.acquire resource).trace = facts s.trace ++ resource.fact.toList := by
  cases h : resource.fact <;> simp [facts, CurrState.acquire, Effect.fact, h]

@[simp]
theorem facts_release : facts (s.release resource).trace = facts s.trace := by
  simp [facts, CurrState.release, Effect.fact]

attribute [simp] Resource.fact

theorem Follows.of_eq (h : facts s'.trace = facts s.trace) : Follows script s s' :=
  ⟨[], List.nil_sublist script, by simpa using h⟩

theorem Follows.trans (h : Follows script s s') (h' : Follows script' s' s'')
    : Follows (script ++ script') s s'' := by
  obtain ⟨l, hl, heq⟩ := h
  obtain ⟨l', hl', heq'⟩ := h'
  exact ⟨l ++ l', hl.append hl', by rw [heq', heq, List.append_assoc]⟩

theorem Follows.mono (h : Follows script s s') (hscript : List.Sublist script script')
    : Follows script' s s' := by
  obtain ⟨l, hl, heq⟩ := h
  exact ⟨l, hl.trans hscript, heq⟩

/--
What follows a step that establishes nothing.
-/
theorem Follows.trans_eq (h : Follows script s s') (h' : facts s''.trace = facts s'.trace)
    : Follows script s s'' := by
  obtain ⟨l, hl, heq⟩ := h
  exact ⟨l, hl, h'.trans heq⟩

section Steps

variable (answers) (s)

theorem follows_registerFilterCallbacks
    : Follows DriverEntry.registerFilterCallbacks s (registerFilterCallbacks answers s).2 := by
  have hobtain : facts (obtainFilterFunctions answers s).2.trace = facts s.trace := by
    simp only [obtainFilterFunctions]
    split_ifs <;> simp
  simp only [registerFilterCallbacks]
  split_ifs
  . exact ⟨[.filterCallbacks, .fwRequestsLookasideList], by decide, by simp [hobtain]⟩
  . exact Follows.of_eq hobtain
  . exact Follows.of_eq hobtain

theorem follows_registerIpMonitor
    : Follows DriverEntry.registerIpMonitor s (registerIpMonitor answers s).2 := by
  simp only [registerIpMonitor]
  split_ifs
  . exact ⟨[.netAddressesLookasideList, .pnpHandlers], by decide, by simp⟩
  . exact ⟨[.netAddressesLookasideList], by decide, by simp⟩

theorem follows_startThread (worker : Worker)
    : Follows [.thread worker] s (startThread answers worker s) := by
  simp only [startThread]
  split_ifs
  . exact ⟨[.thread worker], List.Sublist.refl _, by simp⟩
  . exact Follows.of_eq rfl

theorem follows_initializeReassembly
    : Follows DriverEntry.initializeReassembly s (initializeReassembly answers s) :=
  ((follows_startThread answers s .intermed).trans (follows_startThread answers _ .ttlDecrement)).mono
    (by decide)

theorem follows_startTdiThread (worker : Worker)
    : Follows [.thread worker] s (startTdiThread answers worker s) := by
  simp only [startTdiThread]
  split_ifs
  . exact ⟨[.thread worker], List.Sublist.refl _, by simp⟩
  . exact Follows.of_eq rfl

theorem follows_initAddrThread
    : Follows DriverEntry.initAddrThread s (initAddrThread answers s) :=
  follows_startTdiThread answers s .addr

theorem follows_tdiInitFirewall
    : Follows DriverEntry.tdiInitFirewall s (tdiInitFirewall answers s) :=
  (follows_startTdiThread answers s .fw).mono (by decide)

theorem follows_filterAttach (device : Device)
    : Follows [.attached device] s (filterAttach answers device s).2 := by
  simp only [filterAttach]
  split_ifs
  . exact Follows.of_eq rfl
  . exact Follows.of_eq (by simp)
  . exact Follows.of_eq (by simp)
  . exact ⟨[.attached device], List.Sublist.refl _, by simp⟩

theorem follows_attachToStack
    : Follows DriverEntry.attachToStack s (attachToStack answers s).2 := by
  have htcp := follows_filterAttach answers s .tcp
  simp only [attachToStack]
  split_ifs
  . exact htcp.mono (by decide)
  . exact (htcp.trans (follows_filterAttach answers _ .udp)).mono (by decide)
  . exact ((htcp.trans (follows_filterAttach answers _ .udp)).trans (follows_filterAttach answers _ .ip)).trans
      (follows_filterAttach answers _ .rawIp)

theorem follows_registerCalloutsForLayers (callouts : List Callout)
    : Follows (callouts.map .callout) s (registerCalloutsForLayers answers callouts s).2 := by
  induction callouts generalizing s with
  | nil => exact Follows.of_eq rfl
  | cons callout callouts ih =>
    have hlayer : Follows [.callout callout] s (registerCalloutForLayer answers callout s).2 := by
      simp only [registerCalloutForLayer]
      split_ifs
      . exact Follows.of_eq rfl
      . exact ⟨[.callout callout], List.Sublist.refl _, by simp⟩
      . exact ⟨[.callout callout], List.Sublist.refl _, by simp⟩
    simp only [registerCalloutsForLayers]
    split_ifs
    . exact hlayer.mono (by simp)
    . exact hlayer.trans (ih _)

theorem follows_registerCallouts
    : Follows DriverEntry.registerCallouts s (registerCallouts answers s).2 := by
  have hlayers : Follows DriverEntry.registerCallouts s (registerCalloutsForLayers answers layers
      (((s.acquire .injectionHandle).acquire .engine).acquire .transaction)).2 := by
    obtain ⟨l, hl, heq⟩ := follows_registerCalloutsForLayers answers
      (((s.acquire .injectionHandle).acquire .engine).acquire .transaction) layers
    exact ⟨l, hl, by simpa using heq⟩
  simp only [registerCallouts]
  split_ifs
  . exact Follows.of_eq rfl
  . exact Follows.of_eq (by simp)
  . exact Follows.of_eq (by simp)
  . exact Follows.of_eq (by simp)
  . exact hlayers.trans_eq (by simp)
  . exact hlayers.trans_eq (by simp)
  . exact hlayers.trans_eq (by simp)

theorem follows_initializeConnections
    : Follows DriverEntry.initializeConnections s (initializeConnections s) :=
  ⟨[.connectionsLookasideList], by decide, facts_acquire⟩

theorem follows_initializeWfpFilter (bfeRunning : Bool)
    : Follows (DriverEntry.initializeWfpFilter bfeRunning) s
        (initializeWfpFilter answers bfeRunning s).2 := by
  have hdevice : facts (s.acquire .wfpDevice).trace = facts s.trace := by simp
  simp only [initializeWfpFilter, DriverEntry.initializeWfpFilter]
  split_ifs
  . exact Follows.of_eq rfl
  . obtain ⟨l, hl, heq⟩ := follows_registerCallouts answers (s.acquire .wfpDevice)
    exact ⟨l, hl, by rw [heq, hdevice]⟩
  . exact Follows.of_eq rfl
  . exact ⟨[.bfeCallback], List.Sublist.refl _, by simp⟩
  . exact Follows.of_eq hdevice

end Steps

section Undoing

@[simp]
theorem facts_deregisterFilterCallbacks
    : facts (deregisterFilterCallbacks answers s).trace = facts s.trace := by
  simp only [deregisterFilterCallbacks]
  split_ifs <;> simp

@[simp]
theorem facts_deregisterIpMonitor : facts (deregisterIpMonitor s).trace = facts s.trace := by
  simp only [deregisterIpMonitor]
  split_ifs <;> simp

@[simp]
theorem facts_uninitializeReassembly : facts (uninitializeReassembly s).trace = facts s.trace := by
  have hstop (worker : Worker) (s : CurrState) : facts (stopThread worker s).trace = facts s.trace := by
    simp only [stopThread]
    split_ifs <;> simp
  rw [uninitializeReassembly, hstop, hstop]

@[simp]
theorem facts_uninitializeWfpFilter
    : facts (uninitializeWfpFilter answers s).trace = facts s.trace := by
  have hcallouts : facts (unregisterCallouts answers s).trace = facts s.trace := by
    simp only [unregisterCallouts]
    split_ifs <;> simp
  simp only [uninitializeWfpFilter]
  split_ifs <;> simp [hcallouts]

@[simp]
theorem facts_uninitializeConnections : facts (uninitializeConnections s).trace = facts s.trace :=
  facts_release

end Undoing

section DriverEntry

variable (answers)

theorem follows_driverEntryNt
    : Follows
        (DriverEntry.registerFilterCallbacks ++ DriverEntry.initializeReassembly ++ DriverEntry.initLists ++
          DriverEntry.initAddrThread ++ DriverEntry.tdiInitFirewall ++ DriverEntry.attachToStack ++
          DriverEntry.registerIpMonitor)
        initState (driverEntryNt answers).2 := by
  have hregistered := follows_registerFilterCallbacks answers initState
  have hthreads := ((hregistered.trans (follows_initializeReassembly answers _)).trans
    (follows_initAddrThread answers _)).trans (follows_tdiInitFirewall answers _)
  have hattached := hthreads.trans (follows_attachToStack answers _)
  simp only [driverEntryNt]
  split_ifs
  . exact hregistered.mono (by decide)
  . exact (hattached.trans_eq (by simp)).mono (by decide)
  . exact (hattached.trans (follows_registerIpMonitor answers _)).mono (by decide)

theorem follows_driverEntryVista (bfeRunning : Bool)
    : Follows
        (DriverEntry.registerIpMonitor ++ DriverEntry.initializeConnections ++
          DriverEntry.initializeWfpFilter bfeRunning ++ DriverEntry.initializeReassembly ++
          DriverEntry.registerFilterCallbacks)
        initState (driverEntryVista answers bfeRunning).2 := by
  have hmonitor := follows_registerIpMonitor answers initState
  have hfilter := (hmonitor.trans (follows_initializeConnections _)).trans
    (follows_initializeWfpFilter answers _ bfeRunning)
  have hregistered := (hfilter.trans (follows_initializeReassembly answers _)).trans
    (follows_registerFilterCallbacks answers _)
  simp only [driverEntryVista]
  split_ifs
  . exact hmonitor.mono (by simp)
  . exact (hfilter.trans_eq (by simp)).mono (by simp)
  . exact hregistered.trans_eq (by simp)
  . exact hregistered

/--
Whatever fails, what is acquired is acquired in the order of the script.
-/
theorem facts_sublist (platform : Platform)
    : List.Sublist (DriverEntry.establishes (facts (driverEntry answers platform).2.trace))
        (DriverEntry.driverEntry platform) := by
  cases platform with
  | nt =>
    obtain ⟨l, hl, heq⟩ := follows_driverEntryNt answers
    rw [show facts (driverEntry answers .nt).2.trace = l from heq]
    exact hl.map _
  | vista bfeRunning =>
    obtain ⟨l, hl, heq⟩ := follows_driverEntryVista answers bfeRunning
    rw [show facts (driverEntry answers (.vista bfeRunning)).2.trace = l from heq]
    exact hl.map _

end DriverEntry

end Ansfw.Unwinding
