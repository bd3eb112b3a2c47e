import Ndisrd.Ansfw.Unwinding.Lemmas

/-!
This module contains the proof of when a start-up that fails has given back what it acquired, by what it
leaves behind or gives back without having it at every other point of failure.
-/

namespace Ansfw.Unwinding

open Acquisition
open DriverEntry (Device Callout Worker Platform)

/--
The failures that give everything back. On NT only those of `RegisterFilterCallbacks` do. On Vista those of
`RegisterIpMonitor` do, that of the first device, and those of `RegisterFilterCallbacks` where the filtering
platform was running, its engine opens again and the objects of the threads could be referenced.
-/
def Unwinds (answers : Call → Bool) : Platform → Prop
  | .nt => RegistersFilter answers → Attaches answers .tcp ∧ Attaches answers .udp
  | .vista bfeRunning =>
    answers .tdiRegisterPnPHandlers → answers .ioCreateWfpDevice →
      (if bfeRunning then RegistersCallouts answers else answers .fwpmBfeStateSubscribeChanges) ∧
      (RegistersFilter answers ∨
        bfeRunning ∧ answers .fwpmEngineReopen ∧
          ∀ worker ∈ [Worker.intermed, Worker.ttlDecrement], answers (.psCreateSystemThread worker) →
            answers (.obReferenceObjectByHandle worker))

variable {answers : Call → Bool} {s : CurrState}

section Nt

/--
Behind `RegisterFilterCallbacks` every failure on NT deletes a lookaside list that only
`RegisterIpMonitor` would have initialised.
-/
theorem driverEntryNt_not_settled (hregisters : RegistersFilter answers)
    (hattaches : ¬(Attaches answers .tcp ∧ Attaches answers .udp))
    : ¬Settled (driverEntryNt answers).2.trace := by
  have hregistered := (registerFilterCallbacks_fst (s := initState)).mpr hregisters
  have hattached := attachToStack_of_fails hattaches
  have hcount (e : Effect Resource) (he : e.resource = .netAddressesLookasideList)
      : (driverEntryNt answers).2.trace.count e =
        if .release .netAddressesLookasideList = e then 1 else 0 := by
    simp [driverEntryNt, hregistered, hattached, count_deregisterFilterCallbacks,
      count_deregisterIpMonitor, count_attachToStack, tdiInitFirewall, initAddrThread,
      initializeReassembly, count_startTdiThread, count_startThread, count_registerFilterCallbacks, he]
  exact not_settled_of_once (.release .netAddressesLookasideList) hcount

theorem driverEntryNt_unwinds
    : ((driverEntryNt answers).1 = false → Settled (driverEntryNt answers).2.trace) ↔
      Unwinds answers .nt := by
  by_cases hregisters : RegistersFilter answers
  . have hregistered := (registerFilterCallbacks_fst (s := initState)).mpr hregisters
    by_cases hattaches : Attaches answers .tcp ∧ Attaches answers .udp
    . have hattached (s : CurrState) := (attachToStack_fst (s := s)).mpr hattaches
      have hstatus : (driverEntryNt answers).1 = true := by simp [driverEntryNt, hregistered, hattached]
      simp [Unwinds, hattaches, hstatus]
    . have hattached := attachToStack_of_fails hattaches
      have hstatus : (driverEntryNt answers).1 = false := by simp [driverEntryNt, hregistered, hattached]
      simp [Unwinds, hregisters, hattaches, hstatus, driverEntryNt_not_settled hregisters hattaches]
  . have hfailed := registerFilterCallbacks_of_fails hregisters initState
    have hsettled : Settled (driverEntryNt answers).2.trace := by
      apply settled_of_settle
      have hobtain := @settle_obtainTrace answers [] []
      rw [List.append_nil] at hobtain
      simpa [driverEntryNt, hfailed, settle] using hobtain
    simp [Unwinds, hregisters, hsettled]

end Nt

section Vista

variable {bfeRunning : Bool}

theorem driverEntryVista_of_monitor_fails (hmonitor : answers .tdiRegisterPnPHandlers = false)
    : Settled (driverEntryVista answers bfeRunning).2.trace := by
  apply settled_of_settle
  simp [driverEntryVista, registerIpMonitor, hmonitor, CurrState.acquire, CurrState.release, settle]

theorem driverEntryVista_of_device_fails (hmonitor : answers .tdiRegisterPnPHandlers)
    (hdevice : answers .ioCreateWfpDevice = false)
    : Settled (driverEntryVista answers bfeRunning).2.trace := by
  apply settled_of_settle
  simp [driverEntryVista, registerIpMonitor, hmonitor, initializeConnections, initializeWfpFilter,
    hdevice, deregisterIpMonitor, uninitializeConnections, CurrState.acquire, CurrState.release, settle]

/--
The device stays behind when what follows its creation fails.
-/
theorem driverEntryVista_of_filter_fails (hmonitor : answers .tdiRegisterPnPHandlers)
    (hdevice : answers .ioCreateWfpDevice)
    (hfilter : ¬if bfeRunning then RegistersCallouts answers else answers .fwpmBfeStateSubscribeChanges)
    : (driverEntryVista answers bfeRunning).1 = false ∧
      ¬Settled (driverEntryVista answers bfeRunning).2.trace := by
  have hfailed (s : CurrState) : (initializeWfpFilter answers bfeRunning s).1 = false := by
    have hfst := mt (initializeWfpFilter_fst (s := s) bfeRunning).mp fun h => hfilter h.2
    exact Bool.eq_false_iff.mpr hfst
  have hinit (s : CurrState) (e : Effect Resource) (he : e.resource = .wfpDevice)
      : (initializeWfpFilter answers bfeRunning s).2.trace.count e =
        s.trace.count e + if .acquire .wfpDevice = e then 1 else 0 := by
    have hobjects : Effect.acquire Resource.engineObjects ≠ e := by rintro rfl; cases he
    simp only [initializeWfpFilter, hdevice]
    split_ifs <;> simp_all [count_registerCallouts, count_acquire]
  have hcount (e : Effect Resource) (he : e.resource = .wfpDevice)
      : (driverEntryVista answers bfeRunning).2.trace.count e = if .acquire .wfpDevice = e then 1 else 0 := by
    have hrelease : Effect.release Resource.netAddressesLookasideList ≠ e := by rintro rfl; cases he
    simp [driverEntryVista, registerIpMonitor_fst, hmonitor, hfailed, uninitializeConnections,
      count_deregisterIpMonitor, hinit, initializeConnections, count_registerIpMonitor, he, hrelease]
  constructor
  . simp [driverEntryVista, registerIpMonitor_fst, hmonitor, hfailed]
  . exact not_settled_of_once (.acquire .wfpDevice) hcount

section RegistrationFails

variable (hmonitor : answers .tdiRegisterPnPHandlers) (hdevice : answers .ioCreateWfpDevice)
variable (hregisters : ¬RegistersFilter answers)
include hmonitor hdevice hregisters

/--
What is released of the callouts and the injection handle when the platform was not running has never been
acquired.
-/
theorem driverEntryVista_not_settled_of_not_running
    (hsubscribes : answers .fwpmBfeStateSubscribeChanges)
    : ¬Settled (driverEntryVista answers false).2.trace := by
  have hcount (e : Effect Resource) (he : e.resource = .injectionHandle)
      : (driverEntryVista answers false).2.trace.count e =
        if .release .injectionHandle = e then 1 else 0 := by
    have hrelease : Effect.release Resource.netAddressesLookasideList ≠ e := by rintro rfl; cases he
    have hobjects : Effect.release Resource.engineObjects ≠ e := by rintro rfl; cases he
    simp [driverEntryVista, registerIpMonitor_fst, hmonitor, initializeWfpFilter, hdevice, hsubscribes,
      registerFilterCallbacks_of_fails hregisters, uninitializeConnections, count_uninitializeWfpFilter,
      count_uninitializeReassembly, count_deregisterIpMonitor, count_initializeReassembly,
      initializeConnections, count_registerIpMonitor, he, hrelease, hobjects, count_obtainTrace]
  exact not_settled_of_once (.release .injectionHandle) hcount

section Running

variable (hcallouts : RegistersCallouts answers)
include hcallouts

/--
The objects of the engine stay behind when it cannot be opened again.
-/
theorem driverEntryVista_not_settled_of_not_reopened (hreopens : answers .fwpmEngineReopen = false)
    : ¬Settled (driverEntryVista answers true).2.trace := by
  have hcount (e : Effect Resource) (he : e.resource = .engineObjects)
      : (driverEntryVista answers true).2.trace.count e =
        if .acquire .engineObjects = e then 1 else 0 := by
    have hrelease : Effect.release Resource.netAddressesLookasideList ≠ e := by rintro rfl; cases he
    have hinjection : Effect.release Resource.injectionHandle ≠ e := by rintro rfl; cases he
    have htrace : calloutsTrace.count e = if .acquire .engineObjects = e then 1 else 0 := by
      cases e <;> cases he <;> decide
    simp [driverEntryVista, registerIpMonitor_fst, hmonitor, initializeWfpFilter, hdevice,
      registerCallouts_of_succeeds hcallouts, registerFilterCallbacks_of_fails hregisters,
      uninitializeConnections, count_uninitializeWfpFilter, count_uninitializeReassembly,
      count_deregisterIpMonitor, count_initializeReassembly, initializeConnections,
      count_registerIpMonitor, he, hreopens, hrelease, hinjection, count_obtainTrace, htrace]
  exact not_settled_of_once (.acquire .engineObjects) hcount

/--
A thread whose object could not be referenced is not waited for.
-/
theorem driverEntryVista_not_settled_of_not_referenced {worker : Worker}
    (hworker : worker ∈ [Worker.intermed, Worker.ttlDecrement])
    (hcreated : answers (.psCreateSystemThread worker))
    (hreferenced : answers (.obReferenceObjectByHandle worker) = false)
    : ¬Settled (driverEntryVista answers true).2.trace := by
  have hcount (e : Effect Resource) (he : e.resource = .thread worker)
      : (driverEntryVista answers true).2.trace.count e =
        if .acquire (.thread worker) = e then 1 else 0 := by
    have hthread (s : CurrState) := initializeReassembly_thread (s := s) hworker hcreated he
    have hrelease : Effect.release Resource.netAddressesLookasideList ≠ e := by rintro rfl; cases he
    have hinjection : Effect.release Resource.injectionHandle ≠ e := by rintro rfl; cases he
    have hobjects : Effect.release Resource.engineObjects ≠ e := by rintro rfl; cases he
    have htrace : calloutsTrace.count e = 0 := by
      cases e <;> cases he <;> cases worker <;> decide
    have hnone (s : CurrState) (h : s.threadObj worker = false) :=
      count_uninitializeReassembly_of_none h he
    simp [driverEntryVista, registerIpMonitor_fst, hmonitor, initializeWfpFilter, hdevice,
      registerCallouts_of_succeeds hcallouts, registerFilterCallbacks_of_fails hregisters,
      uninitializeConnections, count_uninitializeWfpFilter, hnone, hthread, hreferenced,
      count_deregisterIpMonitor, initializeConnections,
      count_registerIpMonitor, he, hrelease, hinjection, hobjects, count_obtainTrace, htrace]
  exact not_settled_of_once (.acquire (.thread worker)) hcount

theorem driverEntryVista_settled (hreopens : answers .fwpmEngineReopen)
    (hthreads : ∀ worker ∈ [Worker.intermed, Worker.ttlDecrement],
      answers (.psCreateSystemThread worker) → answers (.obReferenceObjectByHandle worker))
    : Settled (driverEntryVista answers true).2.trace := by
  apply settled_of_settle
  have hintermed := hthreads .intermed (by simp)
  have httl := hthreads .ttlDecrement (by simp)
  -- each of the threads may not have been created at all, the rest of the trace is the same every time
  cases hcreated : answers (.psCreateSystemThread .intermed) <;>
    cases hcreated' : answers (.psCreateSystemThread .ttlDecrement) <;>
    simp_all [driverEntryVista, registerIpMonitor, initializeWfpFilter,
      registerCallouts_of_succeeds hcallouts, registerFilterCallbacks_of_fails hregisters,
      uninitializeConnections, uninitializeWfpFilter, unregisterCallouts, uninitializeReassembly, stopThread,
      deregisterIpMonitor, initializeReassembly, startThread, initializeConnections, initState,
      CurrState.acquire, CurrState.release, calloutsTrace, layers, settle, settle_obtainTrace]

end Running

end RegistrationFails

theorem driverEntryVista_of_registration_fails (hmonitor : answers .tdiRegisterPnPHandlers)
    (hdevice : answers .ioCreateWfpDevice)
    (hfilter : if bfeRunning then RegistersCallouts answers else answers .fwpmBfeStateSubscribeChanges)
    (hregisters : ¬RegistersFilter answers)
    : Settled (driverEntryVista answers bfeRunning).2.trace ↔
      bfeRunning ∧ answers .fwpmEngineReopen ∧
        ∀ worker ∈ [Worker.intermed, Worker.ttlDecrement], answers (.psCreateSystemThread worker) →
          answers (.obReferenceObjectByHandle worker) := by
  cases bfeRunning with
  | false =>
    have hnot := driverEntryVista_not_settled_of_not_running hmonitor hdevice hregisters hfilter
    simp [hnot]
  | true =>
    constructor
    . intro hsettled
      refine ⟨rfl, ?_, ?_⟩
      . by_contra hreopens
        rw [Bool.not_eq_true] at hreopens
        exact driverEntryVista_not_settled_of_not_reopened hmonitor hdevice hregisters hfilter hreopens hsettled
      . intro worker hworker hcreated
        by_contra hreferenced
        rw [Bool.not_eq_true] at hreferenced
        exact driverEntryVista_not_settled_of_not_referenced hmonitor hdevice hregisters hfilter hworker
          hcreated hreferenced hsettled
    . rintro ⟨-, hreopens, hthreads⟩
      exact driverEntryVista_settled hmonitor hdevice hregisters hfilter hreopens hthreads

theorem driverEntryVista_unwinds
    : ((driverEntryVista answers bfeRunning).1 = false →
        Settled (driverEntryVista answers bfeRunning).2.trace) ↔
      Unwinds answers (.vista bfeRunning) := by
  unfold Unwinds
  by_cases hmonitor : answers .tdiRegisterPnPHandlers = true
  swap
  . have hsettled := @driverEntryVista_of_monitor_fails answers bfeRunning (Bool.eq_false_iff.mpr hmonitor)
    exact iff_of_true (fun _ => hsettled) (fun h => absurd h hmonitor)
  by_cases hdevice : answers .ioCreateWfpDevice = true
  swap
  . have hsettled :=
      @driverEntryVista_of_device_fails answers bfeRunning hmonitor (Bool.eq_false_iff.mpr hdevice)
    exact iff_of_true (fun _ => hsettled) (fun _ h => absurd h hdevice)
  by_cases hfilter : if bfeRunning then RegistersCallouts answers else answers .fwpmBfeStateSubscribeChanges
  swap
  . obtain ⟨hstatus, hnot⟩ := driverEntryVista_of_filter_fails hmonitor hdevice hfilter
    exact iff_of_false (fun h => hnot (h hstatus)) (fun h => hfilter (h hmonitor hdevice).1)
  have hfirst (s : CurrState) := (initializeWfpFilter_fst (s := s) bfeRunning).mpr ⟨hdevice, hfilter⟩
  by_cases hregisters : RegistersFilter answers
  . have hlast (s : CurrState) := (registerFilterCallbacks_fst (s := s)).mpr hregisters
    have hstatus : (driverEntryVista answers bfeRunning).1 = true := by
      simp [driverEntryVista, registerIpMonitor_fst, hmonitor, hfirst, hlast]
    simpa [hstatus, hmonitor, hdevice, hregisters] using hfilter
  . have hstatus : (driverEntryVista answers bfeRunning).1 = false := by
      simp [driverEntryVista, registerIpMonitor_fst, hmonitor, hfirst,
        registerFilterCallbacks_of_fails hregisters]
    rw [driverEntryVista_of_registration_fails hmonitor hdevice hfilter hregisters]
    simp only [hstatus, hmonitor, hdevice, hfilter, hregisters, true_and, false_or, forall_const]

end Vista

/--
A start-up that fails has released just what it had acquired, each resource once, just if it fails where it
unwinds.
-/
theorem driverEntry_settled_iff (answers : Call → Bool) (platform : Platform)
    : ((driverEntry answers platform).1 = false → Settled (driverEntry answers platform).2.trace) ↔
      Unwinds answers platform := by
  cases platform with
  | nt => exact driverEntryNt_unwinds
  | vista bfeRunning => exact driverEntryVista_unwinds

/--
On NT, the UDP device cannot be attached.
-/
def udpFails : Call → Bool
  | .ioAttachDeviceToDeviceStack .udp => false
  | _ => true

/--
On Vista, the last filter cannot be added.
-/
def lastFilterFails : Call → Bool
  | .fwpmFilterAdd .outboundTransport => false
  | _ => true

/--
The filter driver is not there.
-/
def filterDriverMissing : Call → Bool
  | .ioGetFltDeviceObjectPointer => false
  | _ => true

theorem not_settled_failures
    : ((driverEntry udpFails .nt).1 = false ∧ ¬Settled (driverEntry udpFails .nt).2.trace) ∧
      ((driverEntry lastFilterFails (.vista true)).1 = false ∧
        ¬Settled (driverEntry lastFilterFails (.vista true)).2.trace) ∧
      ((driverEntry filterDriverMissing (.vista false)).1 = false ∧
        ¬Settled (driverEntry filterDriverMissing (.vista false)).2.trace) := by
  refine ⟨⟨by decide, ?_⟩, ⟨by decide, ?_⟩, ⟨by decide, ?_⟩⟩
  . intro hsettled
    exact absurd (hsettled.released .netAddressesLookasideList) (by decide)
  . intro hsettled
    exact absurd (hsettled.released (.callout .aleAuthConnect)) (by decide)
  . intro hsettled
    exact absurd (hsettled.released .injectionHandle) (by decide)

end Ansfw.Unwinding
