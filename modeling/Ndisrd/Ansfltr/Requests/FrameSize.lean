import Ndisrd.Ansfltr.Requests.Impl
import Ndisrd.Lib.Run

/-!
This module contains what the protocols above are told when they ask for the largest frame: the list of
internal requests is always empty, so the handler that would lower the answer is never called.
-/

namespace Ansfltr.Requests

theorem loadUshort_storeUshort (r : NdisRequest) {value : Nat} (h : value < 65536)
    : (r.storeUshort value).loadUshort = value := by
  have h0 : Memory.store r.informationBuffer 0 [UInt8.ofNat value, UInt8.ofNat (value / 256)] 0 =
      UInt8.ofNat value := Memory.store_inside (by simp) (by simp)
  have h1 : Memory.store r.informationBuffer 0 [UInt8.ofNat value, UInt8.ofNat (value / 256)] 1 =
      UInt8.ofNat (value / 256) := Memory.store_inside (by simp) (by simp)
  simp only [NdisRequest.loadUshort, NdisRequest.storeUshort, NdisRequest.store, wordOfBytes, h0, h1,
    UInt8.toNat_ofNat']
  omega

namespace Report

/--
Where the report is of a query that succeeded, it gives no frame that is larger than those `PtReceive`
can handle.
-/
def Bounded (r : Report) : Prop :=
  r.request.requestType = .queryInformation → r.status = NtStatus.success →
    (r.request.oid = .genMaximumFrameSize → r.request.loadUlong ≤ max8023Length) ∧
      (r.request.oid = .genMaximumTotalSize → r.request.loadUlong ≤ maxEtherSize)

-- The reports of which `Bounded` says anything.
def sized (r : Report) : Bool :=
  decide (r.request.requestType = .queryInformation) && decide (r.status = NtStatus.success) &&
    (decide (r.request.oid = .genMaximumFrameSize) || decide (r.request.oid = .genMaximumTotalSize))

theorem bounded_of_not_sized {r : Report} (h : r.sized = false) : r.Bounded := by
  intro hquery hsuccess
  simp only [sized, hquery, hsuccess, decide_true, Bool.and_self, Bool.true_and, Bool.or_eq_false_iff,
    decide_eq_false_iff_not] at h
  exact ⟨fun hoid => absurd hoid h.1, fun hoid => absurd hoid h.2⟩

theorem forall_bounded_iff (l : List Report)
    : (∀ r ∈ l, r.Bounded) ↔ ∀ r ∈ l.filter sized, r.Bounded := by
  constructor
  . exact fun h r hr => h r (List.mem_of_mem_filter hr)
  . intro h r hr
    cases hsized : r.sized with
    | true => exact h r (List.mem_filter.mpr ⟨hr, hsized⟩)
    | false => exact bounded_of_not_sized hsized

end Report

/-! ### The handler that is not reached -/

theorem loadUshort_lowered (r : NdisRequest) {limit : Nat} (h : limit < 65536)
    : (r.storeUshort ((if r.loadUshort > limit then limit else r.loadUshort) - gDwMTUDecrement)).loadUshort =
        min r.loadUshort limit := by
  rw [gDwMTUDecrement, Nat.sub_zero]
  split
  . rw [loadUshort_storeUshort r h]
    omega
  . rw [loadUshort_storeUshort r (by omega)]
    omega

theorem rfFilterRequestCompleteHandler_frameSize (a : Adapt) {r : NdisRequest}
    (h : r.oid = .genMaximumFrameSize)
    : (rfFilterRequestCompleteHandler a r).2.loadUshort = min r.loadUshort max8023Length := by
  rw [rfFilterRequestCompleteHandler, h]
  apply loadUshort_lowered
  decide

theorem rfFilterRequestCompleteHandler_totalSize (a : Adapt) {r : NdisRequest}
    (h : r.oid = .genMaximumTotalSize)
    : (rfFilterRequestCompleteHandler a r).2.loadUshort = min r.loadUshort maxEtherSize := by
  rw [rfFilterRequestCompleteHandler, h]
  apply loadUshort_lowered
  decide

theorem ptRequestComplete_of_empty {a : Adapt} (h : a.internalRequest = []) (r : NdisRequest)
    (status : NtStatus)
    : ptRequestComplete a r status = completeRequest a r status := by
  rw [ptRequestComplete, if_neg (not_not.mpr h)]

/-! ### What is completed -/

section Complete

variable {a : Adapt} {r : NdisRequest} {status : NtStatus}

theorem pnpCapabilities_internalRequest (oid : Oid)
    : (pnpCapabilities a oid r status).1.internalRequest = a.internalRequest := by
  unfold pnpCapabilities mpQueryPNPCapabilities
  split
  . split
    . rfl
    . rfl
  . rfl

theorem pnpCapabilities_oid (oid : Oid) : (pnpCapabilities a oid r status).2.1.oid = r.oid := by
  unfold pnpCapabilities mpQueryPNPCapabilities
  split
  . split
    . rfl
    . rfl
  . rfl

theorem macOptions_oid (oid : Oid) : (macOptions oid r status).oid = r.oid := by
  unfold macOptions
  split
  . rfl
  . rfl

theorem completeRequest_internalRequest
    : (completeRequest a r status).1.internalRequest = a.internalRequest := by
  unfold completeRequest
  cases r.requestType with
  | queryInformation => exact pnpCapabilities_internalRequest a.request.oid
  | setInformation => rfl

theorem completeRequest_oid {r' : Report}
    (h : r' ∈ (completeRequest a r status).2.flatMap RequestEffect.reports)
    : r'.request.oid = r.oid := by
  unfold completeRequest at h
  cases htype : r.requestType with
  | setInformation => simp [htype, RequestEffect.reports] at h
  | queryInformation =>
    simp only [htype, List.flatMap_cons, List.flatMap_nil, RequestEffect.reports, List.append_nil,
      List.mem_singleton] at h
    rw [h]
    exact (macOptions_oid _).trans (pnpCapabilities_oid _)

theorem completeRequest_query (htype : r.requestType = .queryInformation)
    (hcapabilities : a.request.oid ≠ .pnpCapabilities) (hmac : a.request.oid ≠ .genMacOptions)
    : (completeRequest a r status).2 = [.queryInformationComplete r status] := by
  simp only [completeRequest, htype, pnpCapabilities, macOptions, hcapabilities, hmac, false_and,
    if_false]

theorem completeRequest_set (htype : r.requestType = .setInformation)
    : (completeRequest a r status).2 = [.setInformationComplete status] := by
  simp only [completeRequest, htype]

end Complete

namespace Report

theorem sized_iff {r : Report}
    : r.sized = true ↔
        r.request.requestType = .queryInformation ∧ r.status = NtStatus.success ∧
          (r.request.oid = .genMaximumFrameSize ∨ r.request.oid = .genMaximumTotalSize) := by
  simp only [sized, Bool.and_eq_true, Bool.or_eq_true, decide_eq_true_eq, and_assoc]

end Report

/--
A completion leaves the buffer of a request alone that asked for the largest frame, and its status.
-/
theorem filter_completeRequest {a : Adapt} {r : NdisRequest} {status : NtStatus}
    (hoid : r.oid = a.request.oid)
    : ((completeRequest a r status).2.flatMap RequestEffect.reports).filter Report.sized =
        [Report.mk r status].filter Report.sized := by
  by_cases hframe : r.oid = .genMaximumFrameSize ∨ r.oid = .genMaximumTotalSize
  . cases htype : r.requestType with
    | setInformation =>
      rw [completeRequest_set htype]
      simp [RequestEffect.reports, Report.sized, htype]
    | queryInformation =>
      rw [completeRequest_query htype]
      . rfl
      . rw [← hoid]
        rintro h
        simp [h] at hframe
      . rw [← hoid]
        rintro h
        simp [h] at hframe
  . have hnot : ∀ r' : Report, r'.request.oid = r.oid → ¬r'.sized = true := fun r' hr' h =>
      hframe (hr' ▸ (Report.sized_iff.mp h).2.2)
    rw [List.filter_eq_nil_iff.mpr fun r' hr' => hnot r' (completeRequest_oid hr')]
    rw [List.filter_cons_of_neg (hnot ⟨r, status⟩ rfl), List.filter_nil]

/-! ### What is posted -/

section Post

variable (a : Adapt) (oid : Oid) (informationBuffer : Nat → UInt8) (informationBufferLength : Nat)

theorem postRequest_internalRequest (requestType : RequestType)
    : (postRequest a requestType oid informationBuffer informationBufferLength).1.internalRequest =
        a.internalRequest := by
  unfold postRequest
  split
  . rfl
  . split
    . rfl
    . dsimp only
      split
      . rfl
      . split
        . rfl
        . rfl

variable {a oid informationBuffer informationBufferLength} in
theorem postRequest_requestType {requestType : RequestType}
    (h : (postRequest a requestType oid informationBuffer informationBufferLength).2 = .ndisRequest)
    : (postRequest a requestType oid informationBuffer informationBufferLength).1.request.requestType =
        requestType := by
  unfold postRequest at h ⊢
  by_cases hunbinding : a.unbindingInProcess = true
  . rw [if_pos hunbinding] at h
    cases h
  . rw [if_neg hunbinding] at h ⊢
    by_cases hpower : a.mpDeviceState > ndisDeviceStateD0
    . rw [if_pos hpower] at h
      cases h
    . rw [if_neg hpower] at h ⊢
      dsimp only at h ⊢
      by_cases hqueue : a.ptDeviceState > ndisDeviceStateD0 ∧ a.standingBy = false
      . rw [if_pos hqueue] at h
        cases h
      . rw [if_neg hqueue] at h ⊢
        by_cases hstanding : a.standingBy = true
        . rw [if_pos hstanding] at h
          cases h
        . rw [if_neg hstanding]

theorem mpQueryInformation_internalRequest
    : (mpQueryInformation a oid informationBuffer informationBufferLength).1.internalRequest =
        a.internalRequest := by
  unfold mpQueryInformation
  split
  . rfl
  . rfl
  . rfl
  . apply postRequest_internalRequest

theorem mpSetInformation_internalRequest
    : (mpSetInformation a oid informationBuffer informationBufferLength).1.internalRequest =
        a.internalRequest := by
  unfold mpSetInformation
  split
  . obtain ⟨_, _, hframe⟩ := mpProcessSetPowerOid_frame a informationBuffer informationBufferLength
    rw [hframe]
  . apply postRequest_internalRequest

variable {a oid informationBuffer informationBufferLength} in
theorem mpSetInformation_requestType
    (h : (mpSetInformation a oid informationBuffer informationBufferLength).2 = .ndisRequest)
    : (mpSetInformation a oid informationBuffer informationBufferLength).1.request.requestType =
        .setInformation := by
  unfold mpSetInformation at h ⊢
  split at h
  . cases h
  . exact postRequest_requestType h

end Post

/-! ### Runs -/

structure Inv (m : Machine) : Prop where
  internalRequest : m.adapt.internalRequest = []
  reported : m.completed.filter Report.sized = m.answered.filter Report.sized

theorem inv_start (address : Nat) : Inv (start address) := ⟨rfl, rfl⟩

section Step

variable {m : Machine} (hm : Inv m)
include hm

-- The list is not touched by anything that changes the rest of the adapter.
theorem Inv.adapt {a : Adapt} (ha : a.internalRequest = m.adapt.internalRequest) (posted : Bool)
    : Inv { m with adapt := a, posted := posted } := ⟨ha.trans hm.internalRequest, hm.reported⟩

theorem Inv.answerComplete (answer : Answer) : Inv ((m.answer answer).complete answer.status) := by
  have hempty : (m.answer answer).adapt.internalRequest = [] := hm.internalRequest
  constructor
  . simp only [Machine.complete, ptRequestComplete_of_empty hempty]
    rw [completeRequest_internalRequest, hempty]
  . simp only [Machine.complete, ptRequestComplete_of_empty hempty, List.filter_append]
    rw [filter_completeRequest rfl]
    simp only [Machine.answer, List.filter_append, hm.reported]

theorem Inv.complete_unsuccessful : Inv (m.complete NtStatus.unsuccessful) := by
  have hempty := hm.internalRequest
  constructor
  . simp only [Machine.complete, ptRequestComplete_of_empty hempty]
    rw [completeRequest_internalRequest, hempty]
  . simp only [Machine.complete, ptRequestComplete_of_empty hempty, List.filter_append]
    rw [filter_completeRequest rfl, hm.reported]
    simp [Report.sized, NtStatus.unsuccessful_ne_success]

theorem Inv.failQueued : Inv m.failQueued := by
  unfold Machine.failQueued
  split
  . exact (hm.adapt (a := { m.adapt with queuedRequest := false }) rfl m.posted).complete_unsuccessful
  . exact hm

theorem Inv.ndisRequest (answer : Option Answer) : Inv (m.ndisRequest answer) := by
  cases answer with
  | none => exact hm.adapt rfl true
  | some answer => exact hm.answerComplete answer

theorem Inv.answer_set (answer : Answer) (hset : m.adapt.request.requestType = .setInformation)
    : Inv (m.answer answer) := by
  refine ⟨hm.internalRequest, ?_⟩
  have hsized : Report.sized ⟨m.adapt.request.answer answer, answer.status⟩ = false := by
    simp [Report.sized, NdisRequest.answer, NdisRequest.store, hset]
  simp only [Machine.answer, List.filter_append, hm.reported]
  rw [List.filter_cons_of_neg (by simp [hsized]), List.filter_nil, List.append_nil]

theorem Inv.setPower (deviceState : DevicePowerState) (answer : Option Answer)
    : Inv (ptPnPNetEventSetPower m deviceState answer) := by
  unfold ptPnPNetEventSetPower
  dsimp only
  split
  . apply hm.adapt
    rfl
  . split
    . apply Inv.ndisRequest
      apply hm.adapt
      rfl
    . apply hm.adapt
      rfl

theorem Inv.step (e : Event) : Inv (step m e) := by
  cases e with
  | mpInitialize =>
    apply hm.adapt
    rfl
  | mpQueryInformation oid informationBuffer informationBufferLength answer =>
    have hpost := hm.adapt
      (mpQueryInformation_internalRequest m.adapt oid informationBuffer informationBufferLength) m.posted
    simp only [Requests.step]
    split
    . exact hpost.ndisRequest answer
    . exact hpost
  | mpSetInformation oid informationBuffer informationBufferLength answer =>
    have hpost := hm.adapt
      (mpSetInformation_internalRequest m.adapt oid informationBuffer informationBufferLength) m.posted
    simp only [Requests.step]
    split
    . exact hpost.adapt rfl true
    . rename_i hposting
      apply Inv.adapt
      . apply hpost.answer_set
        exact mpSetInformation_requestType hposting
      . rfl
    . exact hpost
  | ptRequestComplete answer =>
    simp only [Requests.step]
    split
    . exact hm.answerComplete answer
    . exact hm
  | ptUnbindAdapter =>
    exact (hm.adapt (a := { m.adapt with unbindingInProcess := true }) rfl m.posted).failQueued
  | ptPnPNetEventSetPower deviceState answer => exact hm.setPower deviceState answer
  | noOutstandingRequests => exact hm.failQueued

end Step

theorem inv_run (address : Nat) (es : List Event) : Inv (Run.run step (start address) es) :=
  Run.inv_run (fun _ e hm _ => hm.step e) (inv_start address)
    (Run.along_of_forall (P := fun _ => True) step fun _ _ => trivial)

/--
No answer about the largest frame is lowered: the protocols above are told what the adapter below
answered.
-/
theorem run_reported (address : Nat) (es : List Event)
    : (Run.run step (start address) es).completed.filter Report.sized =
        (Run.run step (start address) es).answered.filter Report.sized := (inv_run address es).reported

/--
In every run of the adapter from `PtBindAdapter` on, each query for the largest frame that succeeds reports
a size that `PtReceive` can handle if and only if the adapter below answers with such sizes only.
-/
theorem run_bounded_iff (address : Nat) (es : List Event)
    : (∀ r ∈ (Run.run step (start address) es).completed, r.Bounded) ↔
        ∀ r ∈ (Run.run step (start address) es).answered, r.Bounded := by
  rw [Report.forall_bounded_iff, run_reported, ← Report.forall_bounded_iff]

-- An adapter below that can handle jumbo frames, asked for the largest of them: 9000 is 0x2328.
def jumboRun : List Event :=
  [.mpInitialize,
    .mpQueryInformation .genMaximumFrameSize (fun _ => 0) 4
      (some ⟨NtStatus.success, [0x28, 0x23, 0, 0], 4, 4⟩)]

theorem not_bounded_jumboRun
    : ¬∀ address es, ∀ r ∈ (Run.run step (start address) es).completed, r.Bounded := by
  intro h
  have hbounded := h 0 jumboRun
    ⟨⟨0, .queryInformation, .genMaximumFrameSize, Memory.store (fun _ => 0) 0 [0x28, 0x23, 0, 0], 4, 4, 4⟩,
      NtStatus.success⟩ (List.mem_singleton.mpr rfl)
  have := (hbounded rfl rfl).1 rfl
  revert this
  decide

end Ansfltr.Requests
