import Ndisrd.Ansfw.Firewall.Pending

/-!
This module contains the steps of the pending requests that leave every IRP in its phase, and the step
lemma of the invariant.
-/

namespace Ansfw.Firewall

/--
A step of a thread that only goes on, or takes and gives back the lock and the event.
-/
structure Quiet (phase : Nat → Phase) (t : Nat) (pc pc' : Pc) (s s' : State) : Prop where
  before : s.pc t = pc
  after : s'.pc t = pc'
  same : Same t s s'
  irp : ∀ j, (phase j).owner = some t → pc.irp s.madeFor = some j → pc'.irp s.madeFor = some j
  holds : ∀ r, pc.holds r → pc'.holds r
  at_ : ∀ j, pc'.irp s.madeFor = some j → pc'.At t (phase j)
  asks : ∀ j statusFail, pc' ≠ .tdiAllocateRequest j statusFail
  lock : pc'.locking = true ↔ s'.gPendingRequestListLock = some t
  othersLock : s'.gPendingRequestListLock = s.gPendingRequestListLock ∨
    ∀ t', t' ≠ t → s.gPendingRequestListLock ≠ some t' ∧ s'.gPendingRequestListLock ≠ some t'
  walk : ∀ reqOn, pc' = .tdiGetRequest reqOn → reqOn <:+ s.gPendingRequestList
  event : s.gFwThreadEvent = true → s'.gFwThreadEvent = true ∨ t = fwThread ∧ ∀ r, pc'.Ahead r
  signals : pc.signals = true → pc'.signals = true ∨ s'.gFwThreadEvent = true
  ahead : t = fwThread → ∀ j r, phase j = .armed r → pc.Ahead r → pc'.Ahead r

section Steps

variable {s : State} {phase : Nat → Phase} (h : Inv s phase) {t irp request : Nat}
include h

theorem Inv.quiet {pc pc' : Pc} {s' : State} (hm : Quiet phase t pc pc' s s')
    : ∃ phase', Inv s' phase' := by
  have hmade : s'.madeFor = s.madeFor := by
    funext r
    rw [State.madeFor, hm.same.record]
  have hstay : Stay phase t s s' := by
    refine ⟨hm.same, ?_, ?_, ?_, ?_, ?_, ?_, ?_, ?_⟩
    . intro j hj
      have hold := (h.irps j).owner t hj
      rw [hm.before] at hold
      rw [hm.after, hmade]
      exact hm.irp j hj hold
    . intro j r hs c hj ht
      have hold := ((h.irps j).request r hs c hj).holds t ht
      rw [hm.before] at hold
      rw [hm.after]
      exact hm.holds r hold
    . rw [hm.after, hmade]
      exact hm.at_
    . rw [hm.after]
      exact fun j statusFail heq => absurd heq (hm.asks j statusFail)
    . rw [hm.after]
      exact hm.lock
    . intro t' ht'
      rcases hm.othersLock with heq | hno
      . rw [heq]
      . exact iff_of_false (hno t' ht').2 (hno t' ht').1
    . rw [hm.after, hm.same.pending]
      exact hm.walk
    . apply h.wake.stay hm.same.pc
      . rw [hm.after]
        exact hm.event
      . rw [hm.before, hm.after]
        exact hm.signals
      . rw [hm.before, hm.after]
        exact hm.ahead
  exact ⟨phase, h.stay hstay⟩

theorem Inv.locking_pc {pc pc' : Pc} (hpc : s.pc t = pc) (hlocking : pc'.locking = pc.locking)
    : pc'.locking = true ↔ s.gPendingRequestListLock = some t := by
  rw [hlocking, ← hpc]
  exact h.lock t

theorem Inv.othersLock_of_locking {lock : Option Nat} (hlocking : (s.pc t).locking = true)
    (hlock : lock = none)
    : ∀ t', t' ≠ t → s.gPendingRequestListLock ≠ some t' ∧ lock ≠ some t' := by
  intro t' ht'
  rw [(h.lock t).mp hlocking, hlock]
  exact ⟨fun heq => ht' (Option.some.inj heq).symm, fun hno => by cases hno⟩

end Steps

theorem Same.goto (s : State) (t : Nat) (pc : Pc) : Same t s (s.goto t pc) := by
  refine ⟨?_, fun _ => rfl, rfl, rfl, rfl, rfl, rfl, rfl, rfl, rfl, rfl, rfl⟩
  intro t' ht'
  simp only [State.goto, Function.update_of_ne ht']

-- The lock and the event are none of the things that `Same` compares.
theorem Same.sync (s : State) (t : Nat) (pc : Pc) (gPendingRequestListLock : Option Nat)
    (gFwThreadEvent : Bool)
    : Same t s ({ s with gPendingRequestListLock, gFwThreadEvent }.goto t pc) :=
  { Same.goto s t pc with }

section Steps

variable {s : State} {phase : Nat → Phase} (h : Inv s phase) {t irp request : Nat}
include h

/-! ### `tdiPendIrp` and `IoCancelIrp` -/

theorem Inv.testCancel (hpc : s.pc t = .testCancel irp request)
    : ∃ phase', Inv (s.goto t
        (if (s.irp irp).cancel then .resetCancelRoutine irp request else .releaseLock irp false))
        phase' := by
  have hat : (phase irp).Past request ∧ (phase irp).owner ≠ some t := h.at_pc hpc rfl
  split
  . have hm : Quiet phase t (.testCancel irp request) (.resetCancelRoutine irp request) s
        (s.goto t (.resetCancelRoutine irp request)) := {
      before := hpc
      after := State.pc_goto _ t _
      same := Same.goto s t _
      irp := fun _ _ hj => hj
      holds := fun _ hno => by cases hno
      at_ := by
        rintro j ⟨⟩
        exact hat
      asks := fun _ _ hno => by cases hno
      lock := h.locking_pc hpc rfl
      othersLock := Or.inl rfl
      walk := fun _ hno => by cases hno
      event := Or.inl
      signals := fun _ => Or.inl rfl
      ahead := fun _ _ _ _ => False.elim }
    exact h.quiet hm
  . have hm : Quiet phase t (.testCancel irp request) (.releaseLock irp false) s
        (s.goto t (.releaseLock irp false)) := {
      before := hpc
      after := State.pc_goto _ t _
      same := Same.goto s t _
      irp := by
        rintro j hj ⟨⟩
        exact absurd hj hat.2
      holds := fun _ hno => by cases hno
      at_ := fun j hno => by cases hno
      asks := fun _ _ hno => by cases hno
      lock := h.locking_pc hpc rfl
      othersLock := Or.inl rfl
      walk := fun _ hno => by cases hno
      event := Or.inl
      signals := fun _ => Or.inl rfl
      ahead := fun _ _ _ _ => False.elim }
    exact h.quiet hm

theorem Inv.resetNull (hpc : s.pc t = .resetCancelRoutine irp request)
    : ∃ phase', Inv (s.goto t (.releaseLock irp false)) phase' := by
  have hat : (phase irp).Past request ∧ (phase irp).owner ≠ some t := h.at_pc hpc rfl
  have hm : Quiet phase t (.resetCancelRoutine irp request) (.releaseLock irp false) s
      (s.goto t (.releaseLock irp false)) := {
    before := hpc
    after := State.pc_goto _ t _
    same := Same.goto s t _
    irp := by
      rintro j hj ⟨⟩
      exact absurd hj hat.2
    holds := fun _ hno => by cases hno
    at_ := fun j hno => by cases hno
    asks := fun _ _ hno => by cases hno
    lock := h.locking_pc hpc rfl
    othersLock := Or.inl rfl
    walk := fun _ hno => by cases hno
    event := Or.inl
    signals := fun _ => Or.inl rfl
    ahead := fun _ _ _ _ => False.elim }
  exact h.quiet hm

theorem Inv.releaseLock {cancelled : Bool} (hpc : s.pc t = .releaseLock irp cancelled)
    : ∃ phase', Inv (stepReleaseLock s t irp cancelled) phase' := by
  have hm : Quiet phase t (.releaseLock irp cancelled)
      (if cancelled then .completeCancelled irp else .setEvent) s
      (stepReleaseLock s t irp cancelled) := {
    before := hpc
    after := State.pc_goto _ t _
    same := Same.sync s t _ none s.gFwThreadEvent
    irp := by
      cases cancelled with
      | true => exact fun _ _ hj => hj
      | false => exact fun _ _ hno => by cases hno
    holds := fun _ hno => by cases hno
    at_ := by
      cases cancelled with
      | true =>
        rintro j ⟨⟩
        exact h.at_pc hpc rfl rfl
      | false => exact fun _ hno => by cases hno
    asks := by
      cases cancelled with
      | _ => exact fun _ _ hno => by cases hno
    lock := by
      cases cancelled with
      | _ => exact iff_of_false (fun hno => by cases hno) (fun hno => by cases hno)
    othersLock := Or.inr (h.othersLock_of_locking (by rw [hpc]; rfl) rfl)
    walk := by
      cases cancelled with
      | _ => exact fun _ hno => by cases hno
    event := Or.inl
    signals := by
      cases cancelled with
      | _ => exact fun _ => Or.inl rfl
    ahead := fun _ _ _ _ => False.elim }
  exact h.quiet hm

theorem Inv.setEvent (hpc : s.pc t = .setEvent)
    : ∃ phase', Inv ({ s with gFwThreadEvent := true }.goto t .idle) phase' := by
  have hm : Quiet phase t .setEvent .idle s ({ s with gFwThreadEvent := true }.goto t .idle) := {
    before := hpc
    after := State.pc_goto _ t _
    same := Same.sync s t _ s.gPendingRequestListLock true
    irp := fun _ _ hno => by cases hno
    holds := fun _ hno => by cases hno
    at_ := fun _ hno => by cases hno
    asks := fun _ _ hno => by cases hno
    lock := h.locking_pc hpc rfl
    othersLock := Or.inl rfl
    walk := fun _ hno => by cases hno
    event := fun _ => Or.inl rfl
    signals := fun _ => Or.inr rfl
    ahead := fun _ _ _ _ => False.elim }
  exact h.quiet hm

theorem Inv.ioCancelIrp (hpc : s.pc t = .idle)
    : ∃ phase', Inv ({ s with
        irp := Function.update s.irp irp { s.irp irp with cancel := true } }.goto t
          (.exchangeCancelRoutine irp)) phase' := by
  have hm : Quiet phase t .idle (.exchangeCancelRoutine irp) s ({ s with
      irp := Function.update s.irp irp { s.irp irp with cancel := true } }.goto t
        (.exchangeCancelRoutine irp)) := {
    before := hpc
    after := State.pc_goto _ t _
    same := by
      refine { Same.goto s t (.exchangeCancelRoutine irp) with routine := ?_ }
      intro j
      by_cases hcase : j = irp
      . simp [State.goto, hcase]
      . simp [State.goto, Function.update_of_ne hcase]
    irp := fun _ _ hno => by cases hno
    holds := fun _ hno => by cases hno
    at_ := fun _ hno => by cases hno
    asks := fun _ _ hno => by cases hno
    lock := h.locking_pc hpc rfl
    othersLock := Or.inl rfl
    walk := fun _ hno => by cases hno
    event := Or.inl
    signals := fun hno => by cases hno
    ahead := fun _ _ _ _ => False.elim }
  exact h.quiet hm

theorem Inv.exchangedNull (hpc : s.pc t = .exchangeCancelRoutine irp)
    : ∃ phase', Inv (s.goto t .idle) phase' := by
  have hm : Quiet phase t (.exchangeCancelRoutine irp) .idle s (s.goto t .idle) := {
    before := hpc
    after := State.pc_goto _ t _
    same := Same.goto s t _
    irp := fun _ _ hno => by cases hno
    holds := fun _ hno => by cases hno
    at_ := fun _ hno => by cases hno
    asks := fun _ _ hno => by cases hno
    lock := h.locking_pc hpc rfl
    othersLock := Or.inl rfl
    walk := fun _ hno => by cases hno
    event := Or.inl
    signals := fun hno => by cases hno
    ahead := fun _ _ _ _ => False.elim }
  exact h.quiet hm

/-! ### `fwThread` -/

theorem Inv.woken (hpc : s.pc fwThread = .idle)
    : ∃ phase', Inv ({ s with gFwThreadEvent := false }.goto fwThread .acquireLock) phase' := by
  have hm : Quiet phase fwThread .idle .acquireLock s
      ({ s with gFwThreadEvent := false }.goto fwThread .acquireLock) := {
    before := hpc
    after := State.pc_goto _ _ _
    same := Same.sync s _ _ s.gPendingRequestListLock false
    irp := fun _ _ hno => by cases hno
    holds := fun _ hno => by cases hno
    at_ := fun _ hno => by cases hno
    asks := fun _ _ hno => by cases hno
    lock := h.locking_pc hpc rfl
    othersLock := Or.inl rfl
    walk := fun _ hno => by cases hno
    event := fun _ => Or.inr ⟨rfl, fun _ => trivial⟩
    signals := fun hno => by cases hno
    ahead := fun _ _ _ _ => False.elim }
  exact h.quiet hm

theorem Inv.acquireLock (hpc : s.pc t = .acquireLock) (hlock : s.gPendingRequestListLock = none)
    : ∃ phase', Inv ({ s with gPendingRequestListLock := some t }.goto t
        (.tdiGetRequest s.gPendingRequestList)) phase' := by
  have hm : Quiet phase t .acquireLock (.tdiGetRequest s.gPendingRequestList) s
      ({ s with gPendingRequestListLock := some t }.goto t
        (.tdiGetRequest s.gPendingRequestList)) := {
    before := hpc
    after := State.pc_goto _ t _
    same := Same.sync s t _ (some t) s.gFwThreadEvent
    irp := fun _ _ hno => by cases hno
    holds := fun _ hno => by cases hno
    at_ := fun _ hno => by cases hno
    asks := fun _ _ hno => by cases hno
    lock := iff_of_true rfl rfl
    othersLock := by
      refine Or.inr fun t' ht' => ⟨?_, fun heq => ht' (Option.some.inj heq).symm⟩
      rw [hlock]
      exact fun hno => by cases hno
    walk := by
      rintro reqOn ⟨⟩
      exact List.suffix_refl _
    event := Or.inl
    signals := fun hno => by cases hno
    ahead := by
      intro _ j r hj _
      have hirp := h.irps j
      rw [hj] at hirp
      exact (hirp.record r rfl).listed.mpr rfl }
  exact h.quiet hm

theorem Inv.walkDone (hpc : s.pc t = .tdiGetRequest [])
    : ∃ phase', Inv ({ s with gPendingRequestListLock := none }.goto t .idle) phase' := by
  have hm : Quiet phase t (.tdiGetRequest []) .idle s
      ({ s with gPendingRequestListLock := none }.goto t .idle) := {
    before := hpc
    after := State.pc_goto _ t _
    same := Same.sync s t _ none s.gFwThreadEvent
    irp := fun _ _ hno => by cases hno
    holds := fun _ hno => by cases hno
    at_ := fun _ hno => by cases hno
    asks := fun _ _ hno => by cases hno
    lock := iff_of_false (fun hno => by cases hno) (fun hno => by cases hno)
    othersLock := Or.inr (h.othersLock_of_locking (by rw [hpc]; rfl) rfl)
    walk := fun _ hno => by cases hno
    event := Or.inl
    signals := fun hno => by cases hno
    ahead := fun _ _ r _ hr => absurd hr List.not_mem_nil }
  exact h.quiet hm

-- A record that is passed over has lost its cancel routine, so it is nobody's turn any more.
theorem Inv.skipped {reqOn : List Nat} (hpc : s.pc t = .tdiGetRequest (request :: reqOn))
    (hno : ∀ irp, (s.record request).pIrp = some irp → (s.irp irp).cancelRoutine = false)
    : ∃ phase', Inv (s.goto t (.tdiGetRequest reqOn)) phase' := by
  have hwalk := h.walk t _ hpc
  have hm : Quiet phase t (.tdiGetRequest (request :: reqOn)) (.tdiGetRequest reqOn) s
      (s.goto t (.tdiGetRequest reqOn)) := {
    before := hpc
    after := State.pc_goto _ t _
    same := Same.goto s t _
    irp := fun _ _ hno => by cases hno
    holds := fun _ hno => by cases hno
    at_ := fun _ hno => by cases hno
    asks := fun _ _ hno => by cases hno
    lock := h.locking_pc hpc rfl
    othersLock := Or.inl rfl
    walk := by
      rintro _ ⟨⟩
      exact (List.suffix_cons request reqOn).trans hwalk
    event := Or.inl
    signals := fun hno => by cases hno
    ahead := by
      intro _ j r hj hr
      rcases List.mem_cons.mp hr with rfl | hr
      . have hirp := h.irps j
        rw [hj] at hirp
        have hpointer := (hirp.record r rfl).pointer true rfl
        have hroutine : (s.irp j).cancelRoutine = true := hirp.routine
        rw [hno j hpointer] at hroutine
        cases hroutine
      . exact hr }
  exact h.quiet hm

theorem Inv.stepGetRequest {reqOn : List Nat} (hpc : s.pc t = .tdiGetRequest reqOn)
    : ∃ phase', Inv (stepGetRequest s t reqOn) phase' := by
  cases reqOn with
  | nil => exact h.walkDone hpc
  | cons request reqOn =>
    rw [Firewall.stepGetRequest]
    split
    next irp hpIrp =>
      split
      next hroutine => exact h.taken hpc hpIrp hroutine
      next hroutine =>
        apply h.skipped hpc
        intro irp' hpIrp'
        rw [← Option.some.inj (hpIrp.symm.trans hpIrp')]
        exact Bool.eq_false_iff.mpr hroutine
    next hpIrp =>
      apply h.skipped hpc
      intro irp hsome
      rw [hpIrp] at hsome
      cases hsome

/-! ### `FWInjectRequest` -/

theorem Inv.approved (hpc : s.pc t = .processRequest request)
    : ∃ phase', Inv (s.goto t (.injectLoopbackRequest request)) phase' := by
  have hat : ∃ hs, phase (s.madeFor request) = .request request hs (.thread t) ∧ t ∈ hs :=
    h.at_pc hpc rfl
  have hm : Quiet phase t (.processRequest request) (.injectLoopbackRequest request) s
      (s.goto t (.injectLoopbackRequest request)) := {
    before := hpc
    after := State.pc_goto _ t _
    same := Same.goto s t _
    irp := fun _ _ hj => hj
    holds := fun _ hr => hr
    at_ := by
      rintro j ⟨⟩
      exact hat
    asks := fun _ _ hno => by cases hno
    lock := h.locking_pc hpc rfl
    othersLock := Or.inl rfl
    walk := fun _ hno => by cases hno
    event := Or.inl
    signals := fun hno => by cases hno
    ahead := fun _ _ _ _ _ => trivial }
  exact h.quiet hm

theorem Inv.stepInjectLoopbackRequest (hpc : s.pc t = .injectLoopbackRequest request)
    : ∃ phase', Inv (stepInjectLoopbackRequest s t request) phase' := by
  have hat : ∃ hs, phase (s.madeFor request) = .request request hs (.thread t) ∧ t ∈ hs :=
    h.at_pc hpc rfl
  have hpointer : (s.record request).pIrp = some (s.madeFor request) := by
    obtain ⟨hs, hphase, _⟩ := hat
    have hirp := h.irps (s.madeFor request)
    rw [hphase] at hirp
    exact (hirp.record request rfl).pointer true rfl
  unfold Firewall.stepInjectLoopbackRequest
  rw [hpointer]
  have hm : Quiet phase t (.injectLoopbackRequest request) (.tdiChainIrp request) s
      (s.goto t (.tdiChainIrp request)) := {
    before := hpc
    after := State.pc_goto _ t _
    same := Same.goto s t _
    irp := fun _ _ hj => hj
    holds := fun _ hr => hr
    at_ := by
      rintro j ⟨⟩
      exact hat
    asks := fun _ _ hno => by cases hno
    lock := h.locking_pc hpc rfl
    othersLock := Or.inl rfl
    walk := fun _ hno => by cases hno
    event := Or.inl
    signals := fun hno => by cases hno
    ahead := fun _ _ _ _ _ => trivial }
  exact h.quiet hm

/-! ### All of them -/

theorem Inv.advance (env : Env) : ∃ phase', Inv (advance env s t) phase' := by
  unfold Firewall.advance
  split
  next hpc =>
    split
    next hset =>
      obtain ⟨rfl, _⟩ := hset
      exact h.woken hpc
    next => exact ⟨phase, h⟩
  next irp statusFail hpc =>
    unfold stepAllocate
    split
    next request s' halloc => exact h.filled hpc (h.allocated halloc)
    next => exact h.chained hpc
  next irp request hpc =>
    unfold Firewall.stepPend
    split
    next => exact ⟨phase, h⟩
    next hlock => exact h.stepPend hpc hlock
  next irp request hpc => exact h.stepSetCancelRoutine hpc
  next irp request hpc => exact h.testCancel hpc
  next irp request hpc =>
    unfold stepResetCancelRoutine
    split
    next hroutine => exact h.resetCancelRoutine hpc hroutine
    next => exact h.resetNull hpc
  next irp cancelled hpc => exact h.releaseLock hpc
  next irp hpc => exact h.completeCancelled hpc
  next hpc => exact h.setEvent hpc
  next irp hpc =>
    unfold stepExchangeCancelRoutine
    split
    next hroutine => exact h.exchanged hpc hroutine
    next => exact h.exchangedNull hpc
  next irp hpc =>
    unfold Firewall.stepCancelIrp
    split
    next => exact ⟨phase, h⟩
    next hlock => exact h.stepCancelIrp hpc hlock
  next hpc =>
    unfold stepAcquireLock
    split
    next => exact ⟨phase, h⟩
    next hlock => exact h.acquireLock hpc hlock
  next reqOn hpc => exact h.stepGetRequest hpc
  next request hpc =>
    unfold stepDispatch
    split
    next => exact h.dispatchRequest hpc
    next => exact h.dispatchChain hpc
  next request hpc =>
    unfold stepProcessRequest
    cases env.answer with
    | approve => exact h.approved hpc
    | reject => exact h.rejected hpc
    | defer => exact h.deferred hpc
  next request hpc => exact h.stepInjectLoopbackRequest hpc
  next request hpc => exact h.injected hpc
  next request hpc => exact h.cleared hpc
  next request hpc =>
    simp only [stepFreeCloneRequest]
    split
    next hzero => exact h.lastReference hpc hzero
    next hzero => exact h.dropReference hpc hzero
  next request hpc => exact h.stepFreeLoopbackRequest hpc
  next request hpc => exact h.recycled hpc

theorem Inv.step {e : Event} (hallowed : Allowed s e) : ∃ phase', Inv (step s e) phase' := by
  cases e with
  | tdiConnectionOk t irp statusFail => exact h.connectionOk hallowed.1 hallowed.2.2
  | ioCancelIrp t irp => exact h.ioCancelIrp hallowed.1
  | resume t request inject => exact h.resumed hallowed.1 hallowed.2.1 hallowed.2.2
  | advance t env => exact h.advance env

end Steps

end Ansfw.Firewall
