import Ndisrd.Ansfw.Firewall.Lemmas

/-!
This module contains the steps of the pending requests one by one: which phase each of them moves its
IRP to.
-/

namespace Ansfw.Firewall

/-! ### The other threads -/

theorem Pc.At.others {t' : Nat} {p p' : Phase} {pc : Pc} (h : pc.At t' p)
    (hno : p.owner ≠ some t') (hreq : ∀ r hs c, p ≠ .request r hs c)
    (hpast : ∀ r, p.Past r → p'.Past r) (hno' : p'.owner ≠ some t')
    : pc.At t' p' := by
  cases pc with
  | testCancel _ r => exact ⟨hpast r h.1, hno'⟩
  | resetCancelRoutine _ r => exact ⟨hpast r h.1, hno'⟩
  | tdiAllocateRequest _ _ | tdiPendIrp _ _ | setCancelRoutine _ _ | completeCancelled _ | dispatch _
  | tdiRecycleRequest _ =>
    rw [show p = _ from h] at hno
    exact absurd rfl hno
  | releaseLock _ cancelled =>
    intro hc
    rw [show p = _ from h hc] at hno
    exact absurd rfl hno
  | tdiCancelIrp _ =>
    obtain ⟨r, hp⟩ := h
    rw [hp] at hno
    exact absurd rfl hno
  | processRequest _ | injectLoopbackRequest _ | tdiChainIrp _ | clearIrp _ =>
    obtain ⟨hs, hp, _⟩ := h
    exact absurd hp (hreq _ _ _)
  | fwFreeCloneRequest _ =>
    obtain ⟨hs, c, hp, _⟩ := h
    exact absurd hp (hreq _ _ _)
  | freeLoopbackRequest _ =>
    obtain ⟨chained, hp⟩ := h
    rw [hp] at hno
    exact absurd rfl hno
  | _ => trivial

theorem Pc.At.request {t' r : Nat} {hs hs' : List Nat} {c c' : Carrier} {pc : Pc}
    (h : pc.At t' (.request r hs c)) (hhs : t' ∈ hs → t' ∈ hs')
    (hc : c' = c ∨ c.owner ≠ some t' ∧ c'.owner ≠ some t')
    : pc.At t' (.request r hs' c') := by
  cases pc with
  | testCancel _ _ | resetCancelRoutine _ _ => exact h
  | tdiAllocateRequest _ _ | tdiPendIrp _ _ | setCancelRoutine _ _ | completeCancelled _ | dispatch _
  | tdiRecycleRequest _ => cases h
  | releaseLock _ cancelled =>
    intro hc
    cases h hc
  | tdiCancelIrp _ =>
    obtain ⟨r, hp⟩ := h
    cases hp
  | freeLoopbackRequest _ =>
    obtain ⟨chained, hp⟩ := h
    cases hp
  | processRequest _ | injectLoopbackRequest _ | tdiChainIrp _ | clearIrp _ =>
    obtain ⟨_, hp, ht⟩ := h
    cases hp
    rcases hc with rfl | ⟨hc, _⟩
    . exact ⟨hs', rfl, hhs ht⟩
    . exact absurd rfl hc
  | fwFreeCloneRequest _ =>
    obtain ⟨_, _, hp, ht, hno⟩ := h
    cases hp
    refine ⟨hs', c', rfl, hhs ht, ?_⟩
    rcases hc with rfl | ⟨_, hc'⟩
    . exact hno
    . exact hc'
  | _ => trivial

-- A thread without a reference to the `FW_REQUEST` does nothing for its IRP.
theorem Pc.At.leave {t' r : Nat} {hs : List Nat} {c : Carrier} {p' : Phase} {pc : Pc}
    (h : pc.At t' (.request r hs c)) (hno : t' ∉ hs) (hpast : ∀ r, p'.Past r)
    (hno' : p'.owner ≠ some t')
    : pc.At t' p' := by
  cases pc with
  | testCancel _ r => exact ⟨hpast r, hno'⟩
  | resetCancelRoutine _ r => exact ⟨hpast r, hno'⟩
  | tdiAllocateRequest _ _ | tdiPendIrp _ _ | setCancelRoutine _ _ | completeCancelled _ | dispatch _
  | tdiRecycleRequest _ => cases h
  | releaseLock _ cancelled =>
    intro hc
    cases h hc
  | tdiCancelIrp _ =>
    obtain ⟨r, hp⟩ := h
    cases hp
  | freeLoopbackRequest _ =>
    obtain ⟨chained, hp⟩ := h
    cases hp
  | processRequest _ | injectLoopbackRequest _ | tdiChainIrp _ | clearIrp _ =>
    obtain ⟨_, hp, ht⟩ := h
    cases hp
    exact absurd ht hno
  | fwFreeCloneRequest _ =>
    obtain ⟨_, _, hp, ht, _⟩ := h
    cases hp
    exact absurd ht hno
  | _ => trivial

section Steps

variable {s : State} {phase : Nat → Phase} (h : Inv s phase) {t irp request : Nat}
include h

theorem Inv.record_iff {i r' j : Nat} (hr : (phase j).record = some r')
    : (phase i).record = some r' ↔ j = i := by
  constructor
  . intro hi
    rw [← ((h.irps j).record r' hr).madeFor, ← ((h.irps i).record r' hi).madeFor]
  . intro hj
    rw [← hj]
    exact hr

/--
A step of a thread that changes the phase of its IRP, but none of the lists and not the lock.
-/
structure Plain (phase : Nat → Phase) (t i : Nat) (pc pc' : Pc) (p' : Phase) (s s' : State) : Prop where
  before : s.pc t = pc
  after : s'.pc t = pc'
  touch : Touch t i (phase i).record s s'
  lists : s'.gPendingRequestListLock = s.gPendingRequestListLock ∧
    s'.gPendingRequestList = s.gPendingRequestList ∧ s'.clones = s.clones ∧
    s'.gFreeRequestList = s.gFreeRequestList ∧ s'.nextRecord = s.nextRecord ∧
    s'.gFwThreadEvent = s.gFwThreadEvent
  locking : pc'.locking = pc.locking
  walk : ∀ reqOn, pc' ≠ .tdiGetRequest reqOn
  record : p'.record = (phase i).record
  own : ∀ j, pc.irp s.madeFor = some j → j = i
  irp : IrpOk s' i p'
  others : ∀ t', t' ≠ t → ∀ pc : Pc, pc.At t' (phase i) → pc.At t' p'
  at_ : ∀ j, pc'.irp s'.madeFor = some j → j = i ∧ pc'.At t p'
  asks : ∀ j statusFail, pc' = .tdiAllocateRequest j statusFail → s'.given j = some statusFail
  signals : pc.signals = true → pc'.signals = true
  ahead : t = fwThread → ∀ r, pc.Ahead r → pc'.Ahead r
  armed : ∀ r, p' = .armed r → pc'.signals = true

theorem Inv.plain {i : Nat} {pc pc' : Pc} {p' : Phase} {s' : State}
    (hm : Plain phase t i pc pc' p' s s')
    : ∃ phase', Inv s' phase' := by
  obtain ⟨hlock, hpending, hclones, hfree, hnext, hevent⟩ := hm.lists
  have hmove : Move phase t i (phase i).record p' s s' := by
    refine ⟨hm.touch, ?_, fun r' j hr => h.record_iff hr, hm.irp, hm.others, ?_, ?_, ?_, ?_, ?_,
      Or.inl hpending, ?_, ?_, ?_, ⟨?_, ?_⟩, ?_⟩
    . rw [hm.before]
      exact hm.own
    . rw [hm.after]
      exact hm.at_
    . rw [hm.after]
      exact hm.asks
    . rw [hm.after, hm.locking, hlock, ← hm.before]
      exact h.lock t
    . intro t' _
      rw [hlock]
    . intro reqOn hreqOn
      rw [hm.after] at hreqOn
      exact absurd hreqOn (hm.walk reqOn)
    . rw [hpending]
      exact h.pending.1
    . rw [hclones]
      exact h.cloned.1
    . intro r' hr' _
      have hrec := hm.record.trans hr'
      exact ⟨(hm.irp.record r' hrec).madeFor, hrec⟩
    . rw [hfree]
      exact h.free.1
    . rw [hfree, hnext]
      exact fun r' _ => h.free.2 r'
    . apply h.wake.step hm.touch.pc
      . rw [hevent]
        exact Or.inl
      . rw [hm.before, hm.after]
        exact fun hsig => Or.inl (hm.signals hsig)
      . rw [hm.before, hm.after]
        exact fun ht _ r _ => hm.ahead ht r
      . rw [hm.after]
        exact fun r hr => Or.inr (hm.armed r hr)
  exact ⟨_, h.move hmove⟩

end Steps

@[simp]
theorem State.pc_goto (s : State) (t : Nat) (pc : Pc) : (s.goto t pc).pc t = pc := by
  simp only [State.goto, Function.update_self]

theorem irpOk_of_record {s : State} {i r : Nat} {p : Phase} (hp : p.record = some r)
    (hrec : RecordOk s i p r) (hroutine : (s.irp i).cancelRoutine = p.isArmed)
    (hfinished : if p.isFinished then ∃ f, s.finished i = [f] ∧ Proper (s.given i) f
      else s.finished i = [])
    (howner : ∀ t, p.owner = some t → (s.pc t).irp s.madeFor = some i)
    (hrequest : ∀ r hs c, p = .request r hs c → RequestOk s r hs c)
    : IrpOk s i p := by
  refine ⟨?_, hroutine, hfinished, ?_, ?_, ?_, howner, hrequest⟩
  . apply iff_of_false
    . intro hnone
      rw [hrec.statusFail] at hnone
      cases hnone
    . rintro rfl
      cases hp
  . intro hnone
    rw [hp] at hnone
    cases hnone
  . cases p with
    | ungiven | allocate _ => cases hp
    | _ => exact fun hno => by cases hno
  . intro r' hr'
    rw [hp] at hr'
    cases hr'
    exact hrec

theorem irpOk_finished {s : State} {i : Nat} {f : Finish} (hgiven : s.given i ≠ none)
    (hroutine : (s.irp i).cancelRoutine = false) (hfinished : s.finished i = [f])
    (hproper : Proper (s.given i) f)
    (hreturned : s.recycled i = s.allocated i ∧ (s.allocated i).length ≤ 1)
    : IrpOk s i .finished := by
  refine ⟨?_, hroutine, ⟨f, hfinished, hproper⟩, fun _ => hreturned, ?_, ?_, ?_, ?_⟩
  . exact iff_of_false hgiven (fun hno => by cases hno)
  . exact fun hno => by cases hno
  . exact fun _ hno => by cases hno
  . exact fun _ hno => by cases hno
  . exact fun _ _ _ hno => by cases hno

-- The thread `t` is the owner of the IRP, so another one does nothing for it.
theorem others_of_owner {p p' : Phase} {t : Nat} (howner : p.owner = some t)
    (hpast : ∀ r, p.Past r → p'.Past r) (howner' : ∀ t', t' ≠ t → p'.owner ≠ some t')
    : ∀ t', t' ≠ t → ∀ pc : Pc, pc.At t' p → pc.At t' p' := by
  intro t' ht' pc hat
  apply hat.others
  . rw [howner]
    exact fun heq => ht' (Option.some.inj heq).symm
  . rintro r hs c rfl
    cases howner
  . exact hpast
  . exact howner' t' ht'

section Calls

variable {s : State} {phase : Nat → Phase} (h : Inv s phase) {t irp request : Nat}
variable {statusFail : NtStatus}
include h

theorem Inv.at_pc {pc : Pc} (hpc : s.pc t = pc) (hirp : pc.irp s.madeFor = some irp)
    : pc.At t (phase irp) := by
  have hat := h.threads t irp (by rw [hpc]; exact hirp)
  rwa [hpc] at hat

/-! ### `tdiConnectionOk` -/

theorem Inv.connectionOk (hpc : s.pc t = .idle) (hgiven : s.given irp = none)
    : ∃ phase', Inv ({ s with given := Function.update s.given irp (some statusFail) }.goto t
        (.tdiAllocateRequest irp statusFail)) phase' := by
  have hirp := h.irps irp
  have hphase : phase irp = .ungiven := hirp.given.mp hgiven
  rw [hphase] at hirp
  have hnow : (Function.update s.given irp (some statusFail)) irp = some statusFail :=
    Function.update_self irp _ s.given
  have hm : Plain phase t irp .idle (.tdiAllocateRequest irp statusFail) (.allocate t) s
      ({ s with given := Function.update s.given irp (some statusFail) }.goto t
        (.tdiAllocateRequest irp statusFail)) := {
    before := hpc
    after := State.pc_goto _ t _
    touch := by
      apply Touch.goto
      refine { Touch.refl t irp _ s with given := ?_, stillGiven := ?_ }
      . exact fun j hj => Function.update_of_ne hj _ _
      . intro status hsome
        rw [hgiven] at hsome
        cases hsome
    lists := ⟨rfl, rfl, rfl, rfl, rfl, rfl⟩
    locking := rfl
    walk := fun _ hno => by cases hno
    record := by rw [hphase]; rfl
    own := fun j hj => by cases hj
    irp := by
      refine ⟨?_, hirp.routine, hirp.finished, fun _ => hirp.returned rfl, fun _ => hirp.early rfl, ?_,
        ?_, ?_⟩
      . apply iff_of_false
        . exact fun hnone => by cases hnow.symm.trans hnone
        . exact fun hno => by cases hno
      . exact fun r hno => by cases hno
      . rintro t' ⟨⟩
        rw [State.pc_goto]
        rfl
      . exact fun r hs c hno => by cases hno
    others := by
      intro t' ht' pc hat
      rw [hphase] at hat
      apply hat.others
      . exact fun hno => by cases hno
      . exact fun _ _ _ hno => by cases hno
      . exact fun r => False.elim
      . exact fun heq => ht' (Option.some.inj heq).symm
    at_ := by
      rintro j ⟨⟩
      exact ⟨rfl, rfl⟩
    asks := by
      rintro j status ⟨⟩
      exact hnow
    signals := fun hno => by cases hno
    ahead := fun _ r => False.elim
    armed := fun _ hno => by cases hno }
  exact h.plain hm

theorem Inv.stepSetCancelRoutine (hpc : s.pc t = .setCancelRoutine irp request)
    : ∃ phase', Inv ((s.ioSetCancelRoutine irp true).goto t (.testCancel irp request)) phase' := by
  have hphase : phase irp = .inserted t request := h.at_pc hpc rfl
  have hirp := h.irps irp
  rw [hphase] at hirp
  have hrec := hirp.record request rfl
  have hm : Plain phase t irp (.setCancelRoutine irp request) (.testCancel irp request)
      (.armed request) s ((s.ioSetCancelRoutine irp true).goto t (.testCancel irp request)) := {
    before := hpc
    after := State.pc_goto _ t _
    touch := ((Touch.refl t irp _ s).ioSetCancelRoutine true).goto _
    lists := ⟨rfl, rfl, rfl, rfl, rfl, rfl⟩
    locking := rfl
    walk := fun _ hno => by cases hno
    record := by rw [hphase]; rfl
    own := fun j hj => (Option.some.inj hj).symm
    irp := by
      apply irpOk_of_record rfl
      . exact ⟨hrec.logs, hrec.madeFor, hrec.used, hrec.statusFail, hrec.pointer, hrec.listed,
          hrec.parked⟩
      . simp [State.goto, State.ioSetCancelRoutine, Phase.isArmed]
      . exact hirp.finished
      . exact fun _ hno => by cases hno
      . exact fun _ _ _ hno => by cases hno
    others := by
      rw [hphase]
      apply others_of_owner rfl
      . exact fun r => False.elim
      . exact fun _ _ hno => by cases hno
    at_ := by
      rintro j ⟨⟩
      exact ⟨rfl, rfl, fun hno => by cases hno⟩
    asks := fun _ _ hno => by cases hno
    signals := fun _ => rfl
    ahead := fun _ r => False.elim
    armed := fun _ _ => rfl }
  exact h.plain hm

theorem Inv.completeCancelled (hpc : s.pc t = .completeCancelled irp)
    : ∃ phase', Inv ((s.finish irp (.completed .cancelled)).goto t .setEvent) phase' := by
  have hphase : phase irp = .completing t := h.at_pc hpc rfl
  have hirp := h.irps irp
  rw [hphase] at hirp
  have hfinished : s.finished irp = [] := hirp.finished
  have hm : Plain phase t irp (.completeCancelled irp) .setEvent .finished s
      ((s.finish irp (.completed .cancelled)).goto t .setEvent) := {
    before := hpc
    after := State.pc_goto _ t _
    touch := ((Touch.refl t irp _ s).finish _).goto _
    lists := ⟨rfl, rfl, rfl, rfl, rfl, rfl⟩
    locking := rfl
    walk := fun _ hno => by cases hno
    record := by rw [hphase]; rfl
    own := fun j hj => (Option.some.inj hj).symm
    irp := by
      apply irpOk_finished (f := .completed .cancelled)
      . exact fun hno => by cases hirp.given.mp hno
      . exact hirp.routine
      . simp [State.goto, State.finish, hfinished]
      . exact Or.inr (Or.inl rfl)
      . exact hirp.returned rfl
    others := by
      rw [hphase]
      apply others_of_owner rfl
      . exact fun r _ => trivial
      . exact fun _ _ hno => by cases hno
    at_ := fun j hj => by cases hj
    asks := fun _ _ hno => by cases hno
    signals := fun _ => rfl
    ahead := fun _ r => False.elim
    armed := fun _ hno => by cases hno }
  exact h.plain hm

theorem Inv.chained (hpc : s.pc t = .tdiAllocateRequest irp statusFail)
    : ∃ phase', Inv ((s.finish irp .chained).goto t .idle) phase' := by
  have hphase : phase irp = .allocate t := h.at_pc hpc rfl
  have hirp := h.irps irp
  rw [hphase] at hirp
  have hfinished : s.finished irp = [] := hirp.finished
  have hm : Plain phase t irp (.tdiAllocateRequest irp statusFail) .idle .finished s
      ((s.finish irp .chained).goto t .idle) := {
    before := hpc
    after := State.pc_goto _ t _
    touch := ((Touch.refl t irp _ s).finish _).goto _
    lists := ⟨rfl, rfl, rfl, rfl, rfl, rfl⟩
    locking := rfl
    walk := fun _ hno => by cases hno
    record := by rw [hphase]; rfl
    own := fun j hj => (Option.some.inj hj).symm
    irp := by
      apply irpOk_finished (f := .chained)
      . exact fun hno => by cases hirp.given.mp hno
      . exact hirp.routine
      . simp [State.goto, State.finish, hfinished]
      . exact Or.inl rfl
      . exact hirp.returned rfl
    others := by
      rw [hphase]
      apply others_of_owner rfl
      . exact fun r _ => trivial
      . exact fun _ _ hno => by cases hno
    at_ := fun j hj => by cases hj
    asks := fun _ _ hno => by cases hno
    signals := fun hno => by cases hno
    ahead := fun _ r => False.elim
    armed := fun _ hno => by cases hno }
  exact h.plain hm

/-! ### `IoCancelIrp` -/

theorem Inv.exchanged (hpc : s.pc t = .exchangeCancelRoutine irp)
    (hroutine : (s.irp irp).cancelRoutine = true)
    : ∃ phase', Inv ((s.ioSetCancelRoutine irp false).goto t (.tdiCancelIrp irp)) phase' := by
  have hirp := h.irps irp
  obtain ⟨r, hphase⟩ : ∃ r, phase irp = .armed r := by
    have harmed := hirp.routine.symm.trans hroutine
    cases hp : phase irp with
    | armed r => exact ⟨r, rfl⟩
    | _ => rw [hp] at harmed; cases harmed
  rw [hphase] at hirp
  have hrec := hirp.record r rfl
  have hm : Plain phase t irp (.exchangeCancelRoutine irp) (.tdiCancelIrp irp) (.cancelling t r) s
      ((s.ioSetCancelRoutine irp false).goto t (.tdiCancelIrp irp)) := {
    before := hpc
    after := State.pc_goto _ t _
    touch := ((Touch.refl t irp _ s).ioSetCancelRoutine false).goto _
    lists := ⟨rfl, rfl, rfl, rfl, rfl, rfl⟩
    locking := rfl
    walk := fun _ hno => by cases hno
    record := by rw [hphase]; rfl
    own := fun j hj => by cases hj
    irp := by
      apply irpOk_of_record rfl
      . exact ⟨hrec.logs, hrec.madeFor, hrec.used, hrec.statusFail, hrec.pointer, hrec.listed,
          hrec.parked⟩
      . simp [State.goto, State.ioSetCancelRoutine, Phase.isArmed]
      . exact hirp.finished
      . rintro t' ⟨⟩
        rw [State.pc_goto]
        rfl
      . exact fun _ _ _ hno => by cases hno
    others := by
      intro t' ht' pc hat
      rw [hphase] at hat
      apply hat.others
      . exact fun hno => by cases hno
      . exact fun _ _ _ hno => by cases hno
      . exact fun r' _ => trivial
      . exact fun heq => ht' (Option.some.inj heq).symm
    at_ := by
      rintro j ⟨⟩
      exact ⟨rfl, r, rfl⟩
    asks := fun _ _ hno => by cases hno
    signals := fun hno => by cases hno
    ahead := fun _ r => False.elim
    armed := fun _ hno => by cases hno }
  exact h.plain hm

/-! ### `fwThread` -/

theorem Inv.dispatchChain (hpc : s.pc t = .dispatch request)
    : ∃ phase', Inv ((chainIrp s request).goto t (.tdiRecycleRequest request)) phase' := by
  have hphase : phase (s.madeFor request) = .dispatch t request := h.at_pc hpc rfl
  have hirp := h.irps (s.madeFor request)
  rw [hphase] at hirp
  have hrec := hirp.record request rfl
  have hfinished : s.finished (s.madeFor request) = [] := hirp.finished
  have hchain : chainIrp s request = s.finish (s.madeFor request) .chained := by
    rw [chainIrp, show (s.record request).pIrp = _ from hrec.pointer true rfl]
    rfl
  rw [hchain]
  have hm : Plain phase t (s.madeFor request) (.dispatch request) (.tdiRecycleRequest request)
      (.recycling t request) s
      ((s.finish (s.madeFor request) .chained).goto t (.tdiRecycleRequest request)) := {
    before := hpc
    after := State.pc_goto _ t _
    touch := ((Touch.refl t _ _ s).finish _).goto _
    lists := ⟨rfl, rfl, rfl, rfl, rfl, rfl⟩
    locking := rfl
    walk := fun _ hno => by cases hno
    record := by rw [hphase]; rfl
    own := fun j hj => (Option.some.inj hj).symm
    irp := by
      apply irpOk_of_record rfl
      . exact ⟨hrec.logs, hrec.madeFor, hrec.used, hrec.statusFail,
          (fun _ hno => by cases hno), hrec.listed, hrec.parked⟩
      . exact hirp.routine
      . refine ⟨.chained, ?_, Or.inl rfl⟩
        simp [State.goto, State.finish, hfinished]
      . rintro t' ⟨⟩
        rw [State.pc_goto]
        rfl
      . exact fun _ _ _ hno => by cases hno
    others := by
      rw [hphase]
      apply others_of_owner rfl
      . exact fun r _ => trivial
      . exact fun t' ht' heq => ht' (Option.some.inj heq).symm
    at_ := by
      rintro j ⟨⟩
      exact ⟨rfl, rfl⟩
    asks := fun _ _ hno => by cases hno
    signals := fun hno => by cases hno
    ahead := fun _ r _ => trivial
    armed := fun _ hno => by cases hno }
  exact h.plain hm

theorem Inv.dispatchRequest (hpc : s.pc t = .dispatch request)
    : ∃ phase', Inv ((s.setReferences request 1).goto t (.processRequest request)) phase' := by
  have hphase : phase (s.madeFor request) = .dispatch t request := h.at_pc hpc rfl
  have hirp := h.irps (s.madeFor request)
  rw [hphase] at hirp
  have hrec := hirp.record request rfl
  have hm : Plain phase t (s.madeFor request) (.dispatch request) (.processRequest request)
      (.request request [t] (.thread t)) s
      ((s.setReferences request 1).goto t (.processRequest request)) := {
    before := hpc
    after := State.pc_goto _ t _
    touch := by
      rw [hphase]
      exact ((Touch.refl t _ (some request) s).setReferences 1).goto _
    lists := ⟨rfl, rfl, rfl, rfl, rfl, rfl⟩
    locking := rfl
    walk := fun _ hno => by cases hno
    record := by rw [hphase]; rfl
    own := fun j hj => (Option.some.inj hj).symm
    irp := by
      apply irpOk_of_record rfl
      . exact ⟨hrec.logs, hrec.madeFor, hrec.used, hrec.statusFail, hrec.pointer, hrec.listed,
          hrec.parked⟩
      . exact hirp.routine
      . exact hirp.finished
      . exact fun _ hno => by cases hno
      . rintro r hs c ⟨⟩
        refine ⟨List.pairwise_singleton _ t, Nat.one_pos, ?_, ?_, ?_⟩
        . simp [State.goto, State.setReferences, Carrier.clones]
        . intro t' ht'
          rw [List.mem_singleton.mp ht', State.pc_goto]
          rfl
        . rintro t' ⟨⟩
          exact List.mem_singleton_self t
    others := by
      rw [hphase]
      apply others_of_owner rfl
      . exact fun r _ => trivial
      . exact fun _ _ hno => by cases hno
    at_ := by
      rintro j ⟨⟩
      exact ⟨rfl, [t], rfl, List.mem_singleton_self t⟩
    asks := fun _ _ hno => by cases hno
    signals := fun hno => by cases hno
    ahead := fun _ r _ => trivial
    armed := fun _ hno => by cases hno }
  exact h.plain hm

end Calls

/-! ### `FWInjectRequest` and `FWFreeCloneRequest` -/

theorem holds_goto {s : State} {t r : Nat} {holders : List Nat} {pc : Pc}
    (h : ∀ t' ∈ holders, (s.pc t').holds r) (hpc : t ∈ holders → pc.holds r)
    : ∀ t' ∈ holders, ((s.goto t pc).pc t').holds r := by
  intro t' ht'
  by_cases hcase : t' = t
  . rw [hcase] at ht' ⊢
    rw [State.pc_goto]
    exact hpc ht'
  . simp only [State.goto, Function.update_of_ne hcase]
    exact h t' ht'

section Requests

variable {s : State} {phase : Nat → Phase} (h : Inv s phase) {t request : Nat}
include h

theorem Inv.rejected (hpc : s.pc t = .processRequest request)
    : ∃ phase', Inv (s.goto t (.fwFreeCloneRequest request)) phase' := by
  obtain ⟨hs, hphase, ht⟩ : ∃ hs, phase (s.madeFor request) = .request request hs (.thread t) ∧
    t ∈ hs := h.at_pc hpc rfl
  have hirp := h.irps (s.madeFor request)
  rw [hphase] at hirp
  have hrec := hirp.record request rfl
  have hreq := hirp.request _ _ _ rfl
  have hm : Plain phase t (s.madeFor request) (.processRequest request) (.fwFreeCloneRequest request)
      (.request request hs (.gone false)) s (s.goto t (.fwFreeCloneRequest request)) := {
    before := hpc
    after := State.pc_goto _ t _
    touch := (Touch.refl t _ _ s).goto _
    lists := ⟨rfl, rfl, rfl, rfl, rfl, rfl⟩
    locking := rfl
    walk := fun _ hno => by cases hno
    record := by rw [hphase]; rfl
    own := fun j hj => (Option.some.inj hj).symm
    irp := by
      apply irpOk_of_record rfl
      . exact ⟨hrec.logs, hrec.madeFor, hrec.used, hrec.statusFail, hrec.pointer, hrec.listed,
          hrec.parked⟩
      . exact hirp.routine
      . exact hirp.finished
      . exact fun _ hno => by cases hno
      . rintro r hs' c ⟨⟩
        exact ⟨hreq.nodup, hreq.pos, hreq.references, holds_goto hreq.holds fun _ => rfl,
          fun _ hno => by cases hno⟩
    others := by
      intro t' ht' pc hat
      rw [hphase] at hat
      apply hat.request id
      exact Or.inr ⟨fun heq => ht' (Option.some.inj heq).symm, fun hno => by cases hno⟩
    at_ := by
      rintro j ⟨⟩
      exact ⟨rfl, hs, _, rfl, ht, fun hno => by cases hno⟩
    asks := fun _ _ hno => by cases hno
    signals := fun hno => by cases hno
    ahead := fun _ r _ => trivial
    armed := fun _ hno => by cases hno }
  exact h.plain hm

theorem Inv.injected (hpc : s.pc t = .tdiChainIrp request)
    : ∃ phase', Inv ((chainIrp s request).goto t (.clearIrp request)) phase' := by
  obtain ⟨hs, hphase, ht⟩ : ∃ hs, phase (s.madeFor request) = .request request hs (.thread t) ∧
    t ∈ hs := h.at_pc hpc rfl
  have hirp := h.irps (s.madeFor request)
  rw [hphase] at hirp
  have hrec := hirp.record request rfl
  have hreq := hirp.request _ _ _ rfl
  have hfinished : s.finished (s.madeFor request) = [] := hirp.finished
  have hchain : chainIrp s request = s.finish (s.madeFor request) .chained := by
    rw [chainIrp, show (s.record request).pIrp = _ from hrec.pointer true rfl]
    rfl
  rw [hchain]
  have hm : Plain phase t (s.madeFor request) (.tdiChainIrp request) (.clearIrp request)
      (.request request hs (.clearing t)) s
      ((s.finish (s.madeFor request) .chained).goto t (.clearIrp request)) := {
    before := hpc
    after := State.pc_goto _ t _
    touch := ((Touch.refl t _ _ s).finish _).goto _
    lists := ⟨rfl, rfl, rfl, rfl, rfl, rfl⟩
    locking := rfl
    walk := fun _ hno => by cases hno
    record := by rw [hphase]; rfl
    own := fun j hj => (Option.some.inj hj).symm
    irp := by
      apply irpOk_of_record rfl
      . exact ⟨hrec.logs, hrec.madeFor, hrec.used, hrec.statusFail, hrec.pointer, hrec.listed,
          hrec.parked⟩
      . exact hirp.routine
      . refine ⟨.chained, ?_, Or.inl rfl⟩
        simp [State.goto, State.finish, hfinished]
      . exact fun _ hno => by cases hno
      . rintro r hs' c ⟨⟩
        exact ⟨hreq.nodup, hreq.pos, hreq.references, holds_goto hreq.holds fun _ => rfl, hreq.owner⟩
    others := by
      intro t' ht' pc hat
      rw [hphase] at hat
      have hne : some t ≠ some t' := fun heq => ht' (Option.some.inj heq).symm
      exact hat.request id (Or.inr ⟨hne, hne⟩)
    at_ := by
      rintro j ⟨⟩
      exact ⟨rfl, hs, rfl, ht⟩
    asks := fun _ _ hno => by cases hno
    signals := fun hno => by cases hno
    ahead := fun _ r _ => trivial
    armed := fun _ hno => by cases hno }
  exact h.plain hm

theorem Inv.cleared (hpc : s.pc t = .clearIrp request)
    : ∃ phase', Inv ((s.setPIrp request none).goto t (.fwFreeCloneRequest request)) phase' := by
  obtain ⟨hs, hphase, ht⟩ : ∃ hs, phase (s.madeFor request) = .request request hs (.clearing t) ∧
    t ∈ hs := h.at_pc hpc rfl
  have hirp := h.irps (s.madeFor request)
  rw [hphase] at hirp
  have hrec := hirp.record request rfl
  have hreq := hirp.request _ _ _ rfl
  have hself : ((s.setPIrp request none).record request) = { s.record request with pIrp := none } := by
    simp [State.setPIrp]
  have hmade : (s.setPIrp request none).madeFor request = s.madeFor request := by
    rw [State.madeFor, hself]
  have hm : Plain phase t (s.madeFor request) (.clearIrp request) (.fwFreeCloneRequest request)
      (.request request hs (.gone true)) s
      ((s.setPIrp request none).goto t (.fwFreeCloneRequest request)) := {
    before := hpc
    after := State.pc_goto _ t _
    touch := by
      rw [hphase]
      exact ((Touch.refl t _ (some request) s).setPIrp none).goto _
    lists := ⟨rfl, rfl, rfl, rfl, rfl, rfl⟩
    locking := rfl
    walk := fun _ hno => by cases hno
    record := by rw [hphase]; rfl
    own := fun j hj => (Option.some.inj hj).symm
    irp := by
      apply irpOk_of_record rfl
      . refine ⟨hrec.logs, hmade, hrec.used, ?_, ?_, hrec.listed, hrec.parked⟩
        . rw [show (((s.setPIrp request none).goto t _).record request) = _ from hself]
          exact hrec.statusFail
        . rintro b ⟨⟩
          rw [show (((s.setPIrp request none).goto t _).record request) = _ from hself]
          rfl
      . exact hirp.routine
      . exact hirp.finished
      . exact fun _ hno => by cases hno
      . rintro r hs' c ⟨⟩
        exact ⟨hreq.nodup, hreq.pos, hreq.references, holds_goto hreq.holds fun _ => rfl,
          fun _ hno => by cases hno⟩
    others := by
      intro t' ht' pc hat
      rw [hphase] at hat
      apply hat.request id
      exact Or.inr ⟨fun heq => ht' (Option.some.inj heq).symm, fun hno => by cases hno⟩
    at_ := by
      rintro j hj
      rw [← Option.some.inj hj]
      exact ⟨hmade, hs, _, rfl, ht, fun hno => by cases hno⟩
    asks := fun _ _ hno => by cases hno
    signals := fun hno => by cases hno
    ahead := fun _ r _ => trivial
    armed := fun _ hno => by cases hno }
  exact h.plain hm

theorem Inv.lastReference (hpc : s.pc t = .fwFreeCloneRequest request)
    (hzero : s.references request - 1 = 0)
    : ∃ phase', Inv ((s.setReferences request (s.references request - 1)).goto t
        (.freeLoopbackRequest request)) phase' := by
  obtain ⟨hs, c, hphase, ht, hno⟩ : ∃ hs c, phase (s.madeFor request) = .request request hs c ∧
    t ∈ hs ∧ c.owner ≠ some t := h.at_pc hpc rfl
  have hirp := h.irps (s.madeFor request)
  rw [hphase] at hirp
  have hrec := hirp.record request rfl
  have hreq := hirp.request _ _ _ rfl
  have hpos := List.length_pos_of_mem ht
  have hone : hs.length = 1 ∧ c.clones = 0 := by
    have hcount := hreq.references
    omega
  obtain ⟨t₀, rfl⟩ := List.length_eq_one_iff.mp hone.1
  obtain rfl := List.mem_singleton.mp ht
  obtain ⟨chained, rfl⟩ : ∃ chained, c = .gone chained := by
    cases c with
    | gone chained => exact ⟨chained, rfl⟩
    | clone => cases hone.2
    | thread t' | clearing t' =>
      obtain rfl := List.mem_singleton.mp (hreq.owner t' rfl)
      exact absurd rfl hno
  have hm : Plain phase t (s.madeFor request) (.fwFreeCloneRequest request)
      (.freeLoopbackRequest request) (.disposing t request chained) s
      ((s.setReferences request (s.references request - 1)).goto t (.freeLoopbackRequest request)) := {
    before := hpc
    after := State.pc_goto _ t _
    touch := by
      rw [hphase]
      exact ((Touch.refl t _ (some request) s).setReferences _).goto _
    lists := ⟨rfl, rfl, rfl, rfl, rfl, rfl⟩
    locking := rfl
    walk := fun _ hno => by cases hno
    record := by rw [hphase]; rfl
    own := fun j hj => (Option.some.inj hj).symm
    irp := by
      apply irpOk_of_record rfl
      . exact ⟨hrec.logs, hrec.madeFor, hrec.used, hrec.statusFail, hrec.pointer, hrec.listed,
          hrec.parked⟩
      . exact hirp.routine
      . exact hirp.finished
      . rintro t' ⟨⟩
        rw [State.pc_goto]
        rfl
      . exact fun _ _ _ hno => by cases hno
    others := by
      intro t' ht' pc hat
      rw [hphase] at hat
      apply hat.leave
      . exact fun hmem => ht' (List.mem_singleton.mp hmem)
      . exact fun r => trivial
      . exact fun heq => ht' (Option.some.inj heq).symm
    at_ := by
      rintro j ⟨⟩
      exact ⟨rfl, chained, rfl⟩
    asks := fun _ _ hno => by cases hno
    signals := fun hno => by cases hno
    ahead := fun _ r _ => trivial
    armed := fun _ hno => by cases hno }
  exact h.plain hm

theorem Inv.dropReference (hpc : s.pc t = .fwFreeCloneRequest request)
    (hzero : s.references request - 1 ≠ 0)
    : ∃ phase', Inv ((s.setReferences request (s.references request - 1)).return_ t) phase' := by
  obtain ⟨hs, c, hphase, ht, hno⟩ : ∃ hs c, phase (s.madeFor request) = .request request hs c ∧
    t ∈ hs ∧ c.owner ≠ some t := h.at_pc hpc rfl
  have hirp := h.irps (s.madeFor request)
  rw [hphase] at hirp
  have hrec := hirp.record request rfl
  have hreq := hirp.request _ _ _ rfl
  have hpos := List.length_pos_of_mem ht
  have hlength := List.length_erase_of_mem ht
  have hmore : 1 < hs.length + c.clones := by
    have hcount := hreq.references
    omega
  have hm : Plain phase t (s.madeFor request) (.fwFreeCloneRequest request)
      (if t = fwThread then .acquireLock else .idle) (.request request (hs.erase t) c) s
      ((s.setReferences request (s.references request - 1)).return_ t) := {
    before := hpc
    after := State.pc_goto _ t _
    touch := by
      rw [hphase]
      exact ((Touch.refl t _ (some request) s).setReferences _).goto _
    lists := ⟨rfl, rfl, rfl, rfl, rfl, rfl⟩
    locking := by split <;> rfl
    walk := by
      intro reqOn heq
      split at heq <;> cases heq
    record := by rw [hphase]; rfl
    own := fun j hj => (Option.some.inj hj).symm
    irp := by
      apply irpOk_of_record rfl
      . refine ⟨hrec.logs, hrec.madeFor, hrec.used, hrec.statusFail, hrec.pointer, hrec.listed, ?_⟩
        have hparked := hrec.parked
        cases c with
        | _ => exact hparked
      . exact hirp.routine
      . exact hirp.finished
      . exact fun _ hno => by cases hno
      . rintro r hs' c' ⟨⟩
        refine ⟨hreq.nodup.erase t, ?_, ?_, ?_, ?_⟩
        . omega
        . have hcount := hreq.references
          simp only [State.return_, State.goto, State.setReferences, Function.update_self]
          omega
        . apply holds_goto
          . exact fun t' ht' => hreq.holds t' (List.mem_of_mem_erase ht')
          . exact fun hmem => absurd rfl ((hreq.nodup.mem_erase_iff.mp hmem).1)
        . intro t' ht'
          apply hreq.nodup.mem_erase_iff.mpr
          exact ⟨fun heq => hno (heq ▸ ht'), hreq.owner t' ht'⟩
    others := by
      intro t' ht' pc hat
      rw [hphase] at hat
      apply hat.request
      . exact (List.mem_erase_of_ne ht').mpr
      . exact Or.inl rfl
    at_ := by
      intro j hj
      split at hj <;> cases hj
    asks := by
      intro j statusFail hj
      split at hj <;> cases hj
    signals := fun hno => by cases hno
    ahead := by
      intro ht' r _
      rw [if_pos ht']
      trivial
    armed := fun _ hno => by cases hno }
  exact h.plain hm

theorem Inv.disposed {chained : Bool} {s' : State} (hpc : s.pc t = .freeLoopbackRequest request)
    (hphase : phase (s.madeFor request) = .disposing t request chained)
    (hsame : s' = if chained then s else
      (s.finish (s.madeFor request) (.completed (s.record request).statusFail)).setPIrp request none)
    : ∃ phase', Inv (s'.goto t (.tdiRecycleRequest request)) phase' := by
  have hirp := h.irps (s.madeFor request)
  rw [hphase] at hirp
  have hrec := hirp.record request rfl
  have hself : s'.madeFor request = s.madeFor request ∧
      (s'.record request).statusFail = (s.record request).statusFail := by
    rw [hsame]
    split
    . exact ⟨rfl, rfl⟩
    . simp [State.madeFor, State.setPIrp, State.finish]
  have hrest : s'.irp = s.irp ∧ s'.given = s.given ∧ s'.allocated = s.allocated ∧
      s'.recycled = s.recycled ∧ s'.pc = s.pc := by
    rw [hsame]
    split <;> exact ⟨rfl, rfl, rfl, rfl, rfl⟩
  obtain ⟨hirps, hgiven, hallocated, hrecycled, hpcs⟩ := hrest
  have hlists : s'.gPendingRequestListLock = s.gPendingRequestListLock ∧
      s'.gPendingRequestList = s.gPendingRequestList ∧ s'.clones = s.clones ∧
      s'.gFreeRequestList = s.gFreeRequestList ∧ s'.nextRecord = s.nextRecord ∧
      s'.gFwThreadEvent = s.gFwThreadEvent := by
    rw [hsame]
    split <;> exact ⟨rfl, rfl, rfl, rfl, rfl, rfl⟩
  obtain ⟨hlock, hpending, hclones, hfree, hnext, hevent⟩ := hlists
  have hfinished : ∃ f, s'.finished (s.madeFor request) = [f] ∧
      Proper (s'.given (s.madeFor request)) f := by
    have hwas := hirp.finished
    rw [hgiven, hsame]
    cases chained with
    | true => exact hwas
    | false =>
      have hnone : s.finished (s.madeFor request) = [] := hwas
      refine ⟨.completed (s.record request).statusFail, ?_, ?_⟩
      . simp [State.finish, State.setPIrp, hnone]
      . exact Or.inr (Or.inr ⟨_, hrec.statusFail, rfl⟩)
  have hm : Plain phase t (s.madeFor request) (.freeLoopbackRequest request)
      (.tdiRecycleRequest request) (.recycling t request) s
      (s'.goto t (.tdiRecycleRequest request)) := {
    before := hpc
    after := State.pc_goto _ t _
    touch := by
      rw [hphase, hsame]
      apply Touch.goto
      split
      . exact Touch.refl t _ _ s
      . exact ((Touch.refl t _ (some request) s).finish _).setPIrp none
    lists := ⟨hlock, hpending, hclones, hfree, hnext, hevent⟩
    locking := rfl
    walk := fun _ hno => by cases hno
    record := by rw [hphase]; rfl
    own := fun j hj => (Option.some.inj hj).symm
    irp := by
      apply irpOk_of_record rfl
      . refine ⟨?_, hself.1, ?_, ?_, (fun _ hno => by cases hno), ?_, ?_⟩
        . exact hallocated ▸ hrecycled ▸ hrec.logs
        . exact hfree ▸ hnext ▸ hrec.used
        . exact (congrFun hgiven _).trans (hrec.statusFail.trans (congrArg some hself.2.symm))
        . exact hpending ▸ hrec.listed
        . exact hclones ▸ hrec.parked
      . exact hirps ▸ hirp.routine
      . exact hfinished
      . rintro t' ⟨⟩
        rw [State.pc_goto]
        exact congrArg some hself.1
      . exact fun _ _ _ hno => by cases hno
    others := by
      rw [hphase]
      apply others_of_owner rfl
      . exact fun r _ => trivial
      . exact fun t' ht' heq => ht' (Option.some.inj heq).symm
    at_ := by
      rintro j hj
      rw [← Option.some.inj hj]
      exact ⟨hself.1, rfl⟩
    asks := fun _ _ hno => by cases hno
    signals := fun hno => by cases hno
    ahead := fun _ r _ => trivial
    armed := fun _ hno => by cases hno }
  exact h.plain hm

theorem Inv.stepFreeLoopbackRequest (hpc : s.pc t = .freeLoopbackRequest request)
    : ∃ phase', Inv (stepFreeLoopbackRequest s t request) phase' := by
  obtain ⟨chained, hphase⟩ : ∃ chained, phase (s.madeFor request) = .disposing t request chained :=
    h.at_pc hpc rfl
  have hrec := (h.irps (s.madeFor request)).record request (by rw [hphase]; rfl)
  have hpointer := hrec.pointer (!chained) (by rw [hphase]; rfl)
  unfold Firewall.stepFreeLoopbackRequest
  cases chained with
  | true =>
    rw [show (s.record request).pIrp = none from hpointer]
    exact h.disposed hpc hphase rfl
  | false =>
    rw [show (s.record request).pIrp = some (s.madeFor request) from hpointer]
    exact h.disposed hpc hphase rfl

end Requests

end Ansfw.Firewall
