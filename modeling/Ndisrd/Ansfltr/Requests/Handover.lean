import Ndisrd.Ansfltr.Requests.FrameSize
import Ndisrd.Ansfltr.Requests.Threads

/-!
This module contains who has the request that NDIS waits for: over every interleaving of the threads it is
exactly one party, so that no request is lost and none is answered twice.
-/

namespace Ansfltr.Requests.Threads

/-! ### The holders of a request -/

def HandlerPc.has : HandlerPc → Nat
  | .idle => 0
  | _ => 1

def LowerPc.has : LowerPc → Nat
  | .idle => 0
  | .ptRequestComplete _ => 1

def PowerPc.has : PowerPc → Nat
  | .ndisRequest => 1
  | .ptRequestComplete _ => 1
  | _ => 0

def UnbindPc.has : UnbindPc → Nat
  | .ptRequestComplete _ => 1
  | _ => 0

attribute [simp] HandlerPc.has LowerPc.has PowerPc.has UnbindPc.has

namespace State

variable (s : State)

def holders : Nat :=
  s.handler.has + s.adapt.queuedRequest.toNat + s.posted + s.lower.has + s.power.has + s.unbind.has

/--
The request of the adapter is the one that NDIS waits for, from where the handler has filled it in.
-/
def Typed : Prop :=
  match s.handler with
  | .testOid call => s.awaiting = some call.requestType
  | .testUnbinding call => s.awaiting = some call.requestType
  | .fillRequest call => s.awaiting = some call.requestType
  | .postRequest call =>
    s.awaiting = some call.requestType ∧ s.adapt.request.requestType = call.requestType
  | .endSet _ => s.awaiting = some .setInformation
  | _ => ∀ requestType, s.awaiting = some requestType → s.adapt.request.requestType = requestType

end State

structure Inv (s : State) : Prop where
  internal : s.adapt.internalRequest = []
  holders : s.holders = if s.awaiting.isSome then 1 else 0
  faulty : s.faulty = false
  typed : s.Typed
  below : 0 < s.posted ∨ s.handler = .ndisRequest ∨ s.power = .ndisRequest
    → s.adapt.outstandingRequests = true
  queued : s.adapt.queuedRequest = true
    → s.adapt.ptDeviceState > ndisDeviceStateD0 ∧ s.adapt.unbindingInProcess = false

theorem inv_init (address : Nat) : Inv (init address) where
  internal := rfl
  holders := rfl
  faulty := rfl
  typed := nofun
  below := by
    rintro (h | h | h) <;> cases h
  queued := nofun

/-! ### `PtRequestComplete` -/

section Complete

variable {s : State} {status : NtStatus}

theorem clearOutstanding_of_empty {a : Adapt} (h : a.internalRequest = [])
    : clearOutstanding a status = ({ a with outstandingRequests := false }, true) := by
  rw [clearOutstanding, if_neg (not_not.mpr h)]

theorem pnpCapabilities_queuedRequest {a : Adapt} {r : NdisRequest} (oid : Oid)
    : (pnpCapabilities a oid r status).1.queuedRequest = a.queuedRequest := by
  unfold pnpCapabilities mpQueryPNPCapabilities
  split
  . split
    . rfl
    . rfl
  . rfl

theorem complete_queuedRequest (a : Adapt) : (complete a status).1.queuedRequest = a.queuedRequest := by
  simp only [complete, completeRequest]
  cases a.request.requestType with
  | queryInformation => exact pnpCapabilities_queuedRequest a.request.oid
  | setInformation => rfl

theorem complete_internalRequest (a : Adapt)
    : (complete a status).1.internalRequest = a.internalRequest := completeRequest_internalRequest

/-- It answers NDIS once, and by the type of the request. -/
theorem foldl_effect_complete (a : Adapt) (s' : State)
    : (complete a status).2.foldl State.effect s' = s'.done a.request.requestType := by
  simp only [complete, completeRequest]
  cases a.request.requestType with
  | queryInformation => rfl
  | setInformation => rfl

/-- Without an interruption it is `PtRequestComplete`. -/
theorem complete_clearOutstanding {a : Adapt} (h : a.internalRequest = [])
    : complete (clearOutstanding a status).1 status = Requests.ptRequestComplete a a.request status := by
  rw [ptRequestComplete_of_empty h, clearOutstanding_of_empty h]
  simp only [complete, completeRequest]
  cases a.request.requestType with
  | queryInformation =>
    simp only [pnpCapabilities, mpQueryPNPCapabilities]
    split
    . split
      . rfl
      . rfl
    . rfl
  | setInformation => rfl

theorem ptRequestComplete_clear (h : s.adapt.internalRequest = [])
    : s.ptRequestComplete (.clearOutstanding status)
        = ({ s with adapt := { s.adapt with outstandingRequests := false } }, some (.complete status)) := by
  rw [State.ptRequestComplete, clearOutstanding_of_empty h]
  rfl

theorem ptRequestComplete_complete
    : s.ptRequestComplete (.complete status)
        = (({ s with adapt := (complete s.adapt status).1 } : State).done s.adapt.request.requestType,
            none) := by
  rw [State.ptRequestComplete, foldl_effect_complete]

end Complete

section Done

variable (s : State) (requestType : RequestType)

theorem handler_done (pc : HandlerPc)
    : { s.done requestType with handler := pc } = ({ s with handler := pc } : State).done requestType := by
  unfold State.done
  split
  . rfl
  . rfl

theorem lower_done (pc : LowerPc)
    : { s.done requestType with lower := pc } = ({ s with lower := pc } : State).done requestType := by
  unfold State.done
  split
  . rfl
  . rfl

theorem power_done (pc : PowerPc)
    : { s.done requestType with power := pc } = ({ s with power := pc } : State).done requestType := by
  unfold State.done
  split
  . rfl
  . rfl

theorem unbind_done (pc : UnbindPc)
    : { s.done requestType with unbind := pc } = ({ s with unbind := pc } : State).done requestType := by
  unfold State.done
  split
  . rfl
  . rfl

end Done

namespace Inv

variable {s : State} (hs : Inv s)

/--
A request that nobody has is done.
-/
theorem of_done {s' : State} {requestType : RequestType} (hinternal : s'.adapt.internalRequest = [])
    (hfaulty : s'.faulty = false) (hawaiting : s'.awaiting = some requestType) (hholders : s'.holders = 0)
    : Inv (s'.done requestType) := by
  have hdone : s'.done requestType = { s' with awaiting := none } := by rw [State.done, if_pos hawaiting]
  unfold State.holders at hholders
  have hhandler : s'.handler = .idle := by
    cases h : s'.handler with
    | idle => rfl
    | _ => simp [h] at hholders
  rw [hdone]
  refine ⟨hinternal, hholders, hfaulty, ?_, ?_, ?_⟩
  . unfold State.Typed
    rw [show ({ s' with awaiting := none } : State).handler = .idle from hhandler]
    exact nofun
  . rintro (h | h | h)
    . have hposted : 0 < s'.posted := h
      omega
    . cases hhandler.symm.trans h
    . have hpower : s'.power = .ndisRequest := h
      simp [hpower] at hholders
  . intro h
    have hqueued : s'.adapt.queuedRequest = true := h
    simp [hqueued] at hholders

section Holders

include hs

theorem holders_le : s.holders ≤ 1 := by
  rw [hs.holders]
  split
  . exact Nat.le_refl 1
  . exact Nat.zero_le 1

theorem awaited (h : 0 < s.holders) : ∃ requestType, s.awaiting = some requestType := by
  rw [hs.holders] at h
  split at h
  case isTrue hsome => exact Option.isSome_iff_exists.mp hsome
  case isFalse => omega

end Holders

/-! ### Steps of the handler -/

section Handler

include hs

theorem alone_of_handler (h : s.handler.has = 1)
    : s.adapt.queuedRequest = false ∧ s.posted = 0 ∧ s.lower.has = 0 ∧ s.power.has = 0 ∧ s.unbind.has = 0 := by
  have hle := hs.holders_le
  unfold State.holders at hle
  refine ⟨?_, by omega, by omega, by omega, by omega⟩
  exact Bool.toNat_eq_zero.mp (by omega)

theorem done_handler {a : Adapt} {requestType : RequestType} (h : s.handler.has = 1)
    (hawaiting : s.awaiting = some requestType) (hinternal : a.internalRequest = [])
    (hqueued : a.queuedRequest = s.adapt.queuedRequest)
    : Inv (({ s with adapt := a, handler := .idle } : State).done requestType) := by
  obtain ⟨hnot, hposted, hlower, hpower, hunbind⟩ := hs.alone_of_handler h
  refine of_done hinternal hs.faulty hawaiting ?_
  simp only [State.holders, HandlerPc.has, hqueued, hnot, hposted, hlower, hpower, hunbind]
  rfl

theorem move_handler {a : Adapt} {pc : HandlerPc} (h : s.handler.has = 1) (hpc : pc.has = 1)
    (hinternal : a.internalRequest = []) (hqueued : a.queuedRequest = s.adapt.queuedRequest)
    (htyped : ({ s with adapt := a, handler := pc } : State).Typed)
    (hbelow : pc = .ndisRequest → a.outstandingRequests = true)
    : Inv { s with adapt := a, handler := pc } := by
  obtain ⟨hnot, hposted, hlower, hpower, hunbind⟩ := hs.alone_of_handler h
  refine ⟨hinternal, ?_, hs.faulty, htyped, ?_, ?_⟩
  . have hholders := hs.holders
    simp only [State.holders, h] at hholders
    simp only [State.holders, hpc, hqueued]
    exact hholders
  . rintro (hp | hp | hp)
    . change 0 < s.posted at hp
      omega
    . exact hbelow hp
    . change s.power = .ndisRequest at hp
      simp [hp] at hpower
  . intro hp
    change a.queuedRequest = true at hp
    rw [hqueued, hnot] at hp
    cases hp

theorem testOid {call : Call} (h : s.handler = .testOid call) : Inv (testOid s call) := by
  have htyped := hs.typed
  simp only [State.Typed, h] at htyped
  have hhas : s.handler.has = 1 := by
    rw [h]
    rfl
  have hdone : Inv (({ s with handler := .idle } : State).done call.requestType) :=
    hs.done_handler hhas htyped hs.internal rfl
  unfold Threads.testOid
  split
  . exact hdone
  . exact hdone
  . exact hdone
  . obtain ⟨_, _, hframe⟩ :=
      mpProcessSetPowerOid_frame s.adapt call.informationBuffer call.informationBufferLength
    refine hs.done_handler hhas htyped ?_ ?_
    . rw [hframe]
      exact hs.internal
    . rw [hframe]
  . exact hs.move_handler hhas rfl hs.internal rfl htyped nofun

theorem testUnbinding {call : Call} (h : s.handler = .testUnbinding call) : Inv (testUnbinding s call) := by
  have htyped := hs.typed
  simp only [State.Typed, h] at htyped
  have hhas : s.handler.has = 1 := by
    rw [h]
    rfl
  unfold Threads.testUnbinding
  split
  . exact hs.done_handler hhas htyped hs.internal rfl
  . exact hs.move_handler hhas rfl hs.internal rfl htyped nofun

theorem fillRequest {call : Call} (h : s.handler = .fillRequest call) : Inv (fillRequest s call) := by
  have htyped := hs.typed
  simp only [State.Typed, h] at htyped
  have hhas : s.handler.has = 1 := by
    rw [h]
    rfl
  unfold Threads.fillRequest
  split
  . exact hs.done_handler hhas htyped hs.internal rfl
  . exact hs.move_handler hhas rfl hs.internal rfl ⟨htyped, rfl⟩ nofun

theorem postRequest {call : Call} (h : s.handler = .postRequest call) : Inv (postRequest s call) := by
  have htyped := hs.typed
  simp only [State.Typed, h] at htyped
  have hhas : s.handler.has = 1 := by
    rw [h]
    rfl
  have hmatch : ∀ t, s.awaiting = some t → s.adapt.request.requestType = t := by
    intro t ht
    rw [htyped.2]
    exact Option.some.inj (htyped.1.symm.trans ht)
  unfold Threads.postRequest
  split
  case isTrue => exact hs.done_handler hhas htyped.1 hs.internal rfl
  case isFalse hunbinding =>
    split
    case isTrue hlow =>
      obtain ⟨hnot, hposted, hlower, hpower, hunbind⟩ := hs.alone_of_handler hhas
      refine ⟨hs.internal, ?_, hs.faulty, hmatch, ?_, ?_⟩
      . have hholders := hs.holders
        simp only [State.holders, hhas, hnot] at hholders
        exact hholders
      . rintro (hp | hp | hp)
        . change 0 < s.posted at hp
          omega
        . cases hp
        . change s.power = .ndisRequest at hp
          simp [hp] at hpower
      . exact fun _ => ⟨hlow.1, Bool.not_eq_true _ ▸ hunbinding⟩
    case isFalse =>
      split
      . exact hs.done_handler hhas htyped.1 hs.internal rfl
      . exact hs.move_handler hhas rfl hs.internal rfl hmatch fun _ => rfl

theorem handlerNdisRequest (answer : Option Answer) (h : s.handler = .ndisRequest)
    : Inv (handlerNdisRequest s answer) := by
  have htyped := hs.typed
  simp only [State.Typed, h] at htyped
  have hhas : s.handler.has = 1 := by
    rw [h]
    rfl
  have hbelow := hs.below (Or.inr (Or.inl h))
  obtain ⟨hnot, hposted, hlower, hpower, hunbind⟩ := hs.alone_of_handler hhas
  have hholders := hs.holders
  cases answer with
  | none =>
    refine ⟨hs.internal, ?_, hs.faulty, htyped, fun _ => hbelow, hs.queued⟩
    simp only [State.holders, hhas] at hholders
    change 0 + s.adapt.queuedRequest.toNat + (s.posted + 1) + s.lower.has + s.power.has + s.unbind.has =
      if s.awaiting.isSome then 1 else 0
    omega
  | some answer =>
    obtain ⟨t, ht⟩ := hs.awaited (by
      unfold State.holders
      omega)
    simp only [Threads.handlerNdisRequest]
    cases htype : s.adapt.request.requestType with
    | queryInformation => exact hs.move_handler hhas rfl hs.internal rfl htyped nofun
    | setInformation =>
      refine hs.move_handler hhas rfl hs.internal rfl ?_ nofun
      change s.awaiting = some .setInformation
      rw [ht, ← htyped t ht, htype]

theorem handlerComplete {pc : CompletePc} (h : s.handler = .ptRequestComplete pc)
    : Inv { (s.ptRequestComplete pc).1 with
        handler := (s.ptRequestComplete pc).2.elim .idle .ptRequestComplete } := by
  have htyped := hs.typed
  simp only [State.Typed, h] at htyped
  have hhas : s.handler.has = 1 := by
    rw [h]
    rfl
  cases pc with
  | clearOutstanding status =>
    rw [ptRequestComplete_clear hs.internal]
    exact hs.move_handler hhas rfl hs.internal rfl htyped nofun
  | complete status =>
    rw [ptRequestComplete_complete]
    change Inv { State.done _ _ with handler := .idle }
    rw [handler_done]
    refine hs.done_handler hhas ?_ ?_ ?_
    . obtain ⟨t, ht⟩ := hs.awaited (by
        unfold State.holders
        omega)
      rw [ht, htyped t ht]
    . rw [complete_internalRequest]
      exact hs.internal
    . exact complete_queuedRequest s.adapt

theorem endSet {status : NtStatus} (h : s.handler = .endSet status) : Inv (endSet s) := by
  have htyped := hs.typed
  simp only [State.Typed, h] at htyped
  have hhas : s.handler.has = 1 := by
    rw [h]
    rfl
  exact hs.done_handler hhas htyped hs.internal rfl

end Handler

theorem handlerStep (hs : Inv s) (answer : Option Answer) : Inv (handlerStep s answer) := by
  unfold Threads.handlerStep
  cases h : s.handler with
  | idle => exact hs
  | testOid call => exact hs.testOid h
  | testUnbinding call => exact hs.testUnbinding h
  | fillRequest call => exact hs.fillRequest h
  | postRequest call => exact hs.postRequest h
  | ndisRequest => exact hs.handlerNdisRequest answer h
  | ptRequestComplete pc => exact hs.handlerComplete h
  | endSet status => exact hs.endSet h

/-! ### Steps of the other threads -/

theorem handler_idle {pc : HandlerPc} (h : pc.has = 0) : pc = .idle := by
  cases pc with
  | idle => rfl
  | _ => cases h

/--
The handler does not have the request, which is then filled in.
-/
theorem matches_of_idle (hs : Inv s) (h : s.handler.has = 0)
    : ∀ t, s.awaiting = some t → s.adapt.request.requestType = t := by
  have htyped := hs.typed
  simp only [State.Typed, handler_idle h] at htyped
  exact htyped

theorem typed_of_idle {s' : State} (h : s'.handler.has = 0)
    (hmatches : ∀ t, s'.awaiting = some t → s'.adapt.request.requestType = t)
    : s'.Typed := by
  simp only [State.Typed, handler_idle h]
  exact hmatches

/--
Another thread takes the request over, or goes on with it.
-/
theorem pass {s' : State} (hs : Inv s) (hhandler : s'.handler = s.handler) (hidle : s.handler.has = 0)
    (hinternal : s'.adapt.internalRequest = []) (hholders : s'.holders = s.holders)
    (hawaiting : s'.awaiting = s.awaiting) (hfaulty : s'.faulty = s.faulty)
    (htype : s'.adapt.request.requestType = s.adapt.request.requestType)
    (hbelow : 0 < s'.posted ∨ s'.power = .ndisRequest → s'.adapt.outstandingRequests = true)
    (hqueued : s'.adapt.queuedRequest = false)
    : Inv s' := by
  refine ⟨hinternal, ?_, hfaulty.trans hs.faulty, ?_, ?_, ?_⟩
  . rw [hholders, hawaiting]
    exact hs.holders
  . refine typed_of_idle (by rw [hhandler, hidle]) ?_
    rw [hawaiting, htype]
    exact hs.matches_of_idle hidle
  . rintro (h | h | h)
    . exact hbelow (Or.inl h)
    . rw [hhandler, handler_idle hidle] at h
      cases h
    . exact hbelow (Or.inr h)
  . intro h
    rw [hqueued] at h
    cases h

theorem free_of_other (hs : Inv s) (h : 0 < s.lower.has + s.power.has + s.unbind.has)
    : s.handler.has = 0 ∧ s.posted = 0 ∧ s.adapt.queuedRequest = false := by
  have hle := hs.holders_le
  unfold State.holders at hle
  exact ⟨by omega, by omega, Bool.toNat_eq_zero.mp (by omega)⟩

/--
Another thread clears `OutstandingRequests`.
-/
theorem clear_other {s' : State} (hs : Inv s) (h : 0 < s.lower.has + s.power.has + s.unbind.has)
    (hadapt : s'.adapt = { s.adapt with outstandingRequests := false }) (hhandler : s'.handler = s.handler)
    (hposted : s'.posted = s.posted) (hholders : s'.holders = s.holders)
    (hawaiting : s'.awaiting = s.awaiting) (hfaulty : s'.faulty = s.faulty)
    (hpower : s'.power ≠ .ndisRequest)
    : Inv s' := by
  obtain ⟨hidle, hnone, hqueued⟩ := hs.free_of_other h
  refine hs.pass hhandler hidle ?_ hholders hawaiting hfaulty ?_ ?_ ?_
  . rw [hadapt]
    exact hs.internal
  . rw [hadapt]
  . rintro (hp | hp)
    . omega
    . exact absurd hp hpower
  . rw [hadapt]
    exact hqueued

theorem lowerAnswer (hs : Inv s) (answer : Answer) : Inv (lowerAnswer s answer) := by
  unfold Threads.lowerAnswer
  split
  case h_1 posted hlower hposted =>
    have hle := hs.holders_le
    simp only [State.holders, hlower, hposted] at hle
    have hqueued : s.adapt.queuedRequest = false := Bool.toNat_eq_zero.mp (by omega)
    refine hs.pass rfl (by omega) hs.internal ?_ rfl rfl rfl ?_ hqueued
    . simp only [State.holders, hlower, hposted, LowerPc.has]
      omega
    . rintro (h | h)
      . change 0 < posted at h
        omega
      . have hpower : s.power = .ndisRequest := h
        simp [hpower] at hle
        omega
  case h_2 => exact hs

/--
Another thread is done with the request.
-/
theorem done_other {s' : State} (status : NtStatus) (hs : Inv s)
    (h : 0 < s.lower.has + s.power.has + s.unbind.has)
    (hadapt : s'.adapt = (complete s.adapt status).1) (hholders : s'.holders + 1 = s.holders)
    (hawaiting : s'.awaiting = s.awaiting) (hfaulty : s'.faulty = s.faulty)
    : Inv (s'.done s.adapt.request.requestType) := by
  have hle := hs.holders_le
  obtain ⟨t, ht⟩ := hs.awaited (by omega)
  refine of_done ?_ (hfaulty.trans hs.faulty) ?_ (by omega)
  . rw [hadapt, complete_internalRequest]
    exact hs.internal
  . rw [hawaiting, ht, hs.matches_of_idle (hs.free_of_other h).1 t ht]

theorem lowerStep (hs : Inv s) : Inv (lowerStep s) := by
  unfold Threads.lowerStep
  cases h : s.lower with
  | idle => exact hs
  | ptRequestComplete pc =>
    have hhas : 0 < s.lower.has + s.power.has + s.unbind.has := by
      rw [h, LowerPc.has]
      omega
    cases pc with
    | clearOutstanding status =>
      dsimp only
      rw [ptRequestComplete_clear hs.internal]
      refine hs.clear_other hhas rfl rfl rfl ?_ rfl rfl ?_
      . simp only [State.holders, h, Option.elim_some, LowerPc.has]
      . intro hpower
        have hle := hs.holders_le
        change s.power = .ndisRequest at hpower
        simp only [State.holders, h, hpower, LowerPc.has, PowerPc.has] at hle
        omega
    | complete status =>
      dsimp only
      rw [ptRequestComplete_complete]
      change Inv { State.done _ _ with lower := .idle }
      rw [lower_done]
      refine hs.done_other status hhas rfl ?_ rfl rfl
      simp only [State.holders, complete_queuedRequest, h, LowerPc.has]
      omega

/--
The power thread, which does not have the request, goes on without it.
-/
theorem withoutRequest (hs : Inv s) (hpower : s.power.has = 0) {pc : PowerPc} (hpc : pc.has = 0)
    (deviceState : DevicePowerState) (standingBy : Bool)
    (hqueued : s.adapt.queuedRequest = true
      → deviceState > ndisDeviceStateD0 ∧ s.adapt.unbindingInProcess = false)
    : Inv { s with
        adapt := { s.adapt with ptDeviceState := deviceState, standingBy := standingBy }, power := pc } := by
  refine ⟨hs.internal, ?_, hs.faulty, hs.typed, ?_, hqueued⟩
  . have hholders := hs.holders
    simp only [State.holders, hpower] at hholders
    simp only [State.holders, hpc]
    exact hholders
  . rintro (hp | hp | hp)
    . exact hs.below (Or.inl hp)
    . exact hs.below (Or.inr (Or.inl hp))
    . change pc = .ndisRequest at hp
      rw [hp] at hpc
      cases hpc

theorem setState (hs : Inv s) {prevDeviceState deviceState : DevicePowerState}
    (h : s.power = .setState prevDeviceState deviceState)
    : Inv (setState s prevDeviceState deviceState) := by
  have hpower : s.power.has = 0 := by simp [h]
  unfold Threads.setState
  dsimp only
  split
  case isTrue hlow =>
    exact hs.withoutRequest hpower rfl _ _ fun hqueued => ⟨hlow, (hs.queued hqueued).2⟩
  case isFalse =>
    split
    case isTrue hqueued =>
      have hle := hs.holders_le
      simp only [State.holders, hqueued, h, PowerPc.has, Bool.toNat_true] at hle
      refine hs.pass rfl (by omega) hs.internal ?_ rfl rfl rfl (fun _ => rfl) rfl
      simp only [State.holders, hqueued, h, PowerPc.has, Bool.toNat_true, Bool.toNat_false]
      omega
    case isFalse hqueued =>
      exact hs.withoutRequest hpower rfl _ _ fun hp => absurd hp hqueued

theorem takeQueued (hs : Inv s) (h : s.power = .takeQueued) : Inv (takeQueued s) := by
  unfold Threads.takeQueued
  split
  case isTrue hqueued =>
    have hle := hs.holders_le
    simp only [State.holders, hqueued, h, PowerPc.has, Bool.toNat_true] at hle
    refine hs.pass rfl (by omega) hs.internal ?_ rfl rfl rfl ?_ rfl
    . simp only [State.holders, hqueued, h, PowerPc.has, Bool.toNat_true, Bool.toNat_false]
      omega
    . rintro (hp | hp)
      . change 0 < s.posted at hp
        omega
      . cases hp
  case isFalse =>
    have hpower : s.power.has = 0 := by simp [h]
    exact hs.withoutRequest hpower rfl s.adapt.ptDeviceState s.adapt.standingBy hs.queued

theorem powerNdisRequest (hs : Inv s) (h : s.power = .ndisRequest) (answer : Option Answer)
    : Inv (powerNdisRequest s answer) := by
  have hle := hs.holders_le
  simp only [State.holders, h, PowerPc.has] at hle
  have hqueued : s.adapt.queuedRequest = false := Bool.toNat_eq_zero.mp (by omega)
  cases answer with
  | none =>
    refine hs.pass rfl (by omega) hs.internal ?_ rfl rfl rfl (fun _ => hs.below (Or.inr (Or.inr h))) hqueued
    simp only [Threads.powerNdisRequest, State.holders, h, PowerPc.has]
    omega
  | some answer =>
    refine hs.pass rfl (by omega) hs.internal ?_ rfl rfl rfl ?_ hqueued
    . simp only [Threads.powerNdisRequest, State.holders, h, PowerPc.has]
    . rintro (hp | hp)
      . change 0 < s.posted at hp
        omega
      . cases hp

theorem powerStep (hs : Inv s) (answer : Option Answer) : Inv (powerStep s answer) := by
  unfold Threads.powerStep
  cases h : s.power with
  | idle => exact hs
  | setState prevDeviceState deviceState => exact hs.setState h
  | waitOutstanding =>
    dsimp only
    split
    case isTrue => exact hs
    case isFalse =>
      have hpower : s.power.has = 0 := by simp [h]
      exact hs.withoutRequest hpower rfl s.adapt.ptDeviceState s.adapt.standingBy hs.queued
  | takeQueued => exact hs.takeQueued h
  | ndisRequest => exact hs.powerNdisRequest h answer
  | ptRequestComplete pc =>
    have hhas : 0 < s.lower.has + s.power.has + s.unbind.has := by
      rw [h, PowerPc.has]
      omega
    cases pc with
    | clearOutstanding status =>
      dsimp only
      rw [ptRequestComplete_clear hs.internal]
      refine hs.clear_other hhas rfl rfl rfl ?_ rfl rfl nofun
      simp only [State.holders, h, Option.elim_some, PowerPc.has]
    | complete status =>
      dsimp only
      rw [ptRequestComplete_complete]
      change Inv { State.done _ _ with power := .idle }
      rw [power_done]
      refine hs.done_other status hhas rfl ?_ rfl rfl
      simp only [State.holders, complete_queuedRequest, h, PowerPc.has]
      omega

theorem unbindStep (hs : Inv s) : Inv (unbindStep s) := by
  unfold Threads.unbindStep
  cases h : s.unbind with
  | idle =>
    unfold ptUnbindAdapter
    dsimp only
    split
    case isTrue hqueued =>
      have hle := hs.holders_le
      simp only [State.holders, hqueued, h, UnbindPc.has, Bool.toNat_true] at hle
      refine hs.pass rfl (by omega) hs.internal ?_ rfl rfl rfl ?_ rfl
      . simp only [State.holders, hqueued, h, UnbindPc.has, Bool.toNat_true, Bool.toNat_false]
        omega
      . rintro (hp | hp)
        . change 0 < s.posted at hp
          omega
        . change s.power = .ndisRequest at hp
          simp only [hp, PowerPc.has] at hle
          omega
    case isFalse hqueued =>
      refine ⟨hs.internal, ?_, hs.faulty, hs.typed, hs.below, fun hp => absurd hp hqueued⟩
      have hholders := hs.holders
      simp only [State.holders, h] at hholders
      exact hholders
  | ptRequestComplete pc =>
    have hhas : 0 < s.lower.has + s.power.has + s.unbind.has := by
      rw [h, UnbindPc.has]
      omega
    cases pc with
    | clearOutstanding status =>
      dsimp only
      rw [ptRequestComplete_clear hs.internal]
      refine hs.clear_other hhas rfl rfl rfl ?_ rfl rfl ?_
      . simp only [State.holders, h, Option.elim_some, UnbindPc.has]
      . intro hpower
        have hle := hs.holders_le
        change s.power = .ndisRequest at hpower
        simp only [State.holders, h, hpower, UnbindPc.has, PowerPc.has] at hle
        omega
    | complete status =>
      dsimp only
      rw [ptRequestComplete_complete]
      change Inv { State.done _ _ with unbind := .closing }
      rw [unbind_done]
      refine hs.done_other status hhas rfl ?_ rfl rfl
      simp only [State.holders, complete_queuedRequest, h, UnbindPc.has]
  | closing => exact hs

theorem step (hs : Inv s) (e : Event) : Inv (step s e) := by
  cases e with
  | request call =>
    unfold Threads.step
    dsimp only
    split
    case h_1 hawaiting hhandler =>
      have hholders := hs.holders
      simp only [State.holders, hawaiting, hhandler, HandlerPc.has, Option.isSome_none, Bool.false_eq_true,
        if_false] at hholders
      refine ⟨hs.internal, ?_, hs.faulty, rfl, ?_, ?_⟩
      . simp only [State.holders, HandlerPc.has, Option.isSome_some, if_true]
        omega
      . rintro (hp | hp | hp)
        . exact hs.below (Or.inl hp)
        . cases hp
        . exact hs.below (Or.inr (Or.inr hp))
      . exact hs.queued
    case h_2 => exact hs
  | handler answer => exact hs.handlerStep answer
  | lowerAnswer answer => exact hs.lowerAnswer answer
  | lower => exact hs.lowerStep
  | setPower deviceState =>
    unfold Threads.step
    dsimp only
    split
    case h_1 hidle =>
      have hpower : s.power.has = 0 := by simp [hidle]
      exact hs.withoutRequest hpower rfl s.adapt.ptDeviceState s.adapt.standingBy hs.queued
    case h_2 => exact hs
  | power answer => exact hs.powerStep answer
  | unbind => exact hs.unbindStep

end Inv

theorem inv_run (address : Nat) (es : List Event) : Inv (Run.run step (init address) es) := by
  have hstep : ∀ s e, Inv s → True → Inv (step s e) := fun _ e hs _ => hs.step e
  exact Run.inv_run hstep (inv_init address) (Run.along_of_forall step fun _ _ => trivial)

/-! ### What the threads guarantee -/

structure Sound (s : State) : Prop where
  -- NDIS is never given an answer it does not wait for, and somebody has every request it waits for
  notFaulty : s.faulty = false
  holders : s.holders = if s.awaiting.isSome then 1 else 0
  -- a request that is queued is so until the adapter below is powered up or unbound
  queued : s.adapt.queuedRequest = true
    → s.adapt.ptDeviceState > ndisDeviceStateD0 ∧ s.adapt.unbindingInProcess = false
  -- the wait of `PtPnPNetEventSetPower` ends only when the adapter below has no request
  waited : s.adapt.outstandingRequests = false → s.posted = 0

theorem request_run (address : Nat) (es : List Event) : Sound (Run.run step (init address) es) := by
  have hs := inv_run address es
  refine ⟨hs.faulty, hs.holders, hs.queued, ?_⟩
  intro houtstanding
  by_contra hposted
  have hbelow := hs.below (Or.inl (Nat.pos_of_ne_zero hposted))
  rw [houtstanding] at hbelow
  cases hbelow

end Ansfltr.Requests.Threads
