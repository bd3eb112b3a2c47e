import Mathlib.Data.List.Nodup
import Ndisrd.Ansfw.Firewall.Steps

/-!
This module contains the steps of the pending requests that change the pending list, the free list or
the clones, and the records that these lists hold.
-/

namespace Ansfw.Firewall

section Lists

variable {s : State} {phase : Nat → Phase} (h : Inv s phase) {t r : Nat}
include h

theorem Inv.unused (hr : r ∈ s.gFreeRequestList ∨ s.nextRecord ≤ r) (j : Nat)
    : (phase j).record ≠ some r := by
  intro hrec
  have hused := ((h.irps j).record r hrec).used
  rcases hr with hr | hr
  . exact hused.1 hr
  . exact absurd hused.2 (Nat.not_lt.mpr hr)

theorem Inv.recordOk_pending (hr : r ∈ s.gPendingRequestList)
    : RecordOk s (s.madeFor r) (phase (s.madeFor r)) r :=
  (h.irps _).record r (h.pending.2 r hr)

theorem Inv.pointer_pending (hr : r ∈ s.gPendingRequestList)
    : (s.record r).pIrp = some (s.madeFor r) := by
  have hrec := h.recordOk_pending hr
  have hlisted := hrec.listed.mp hr
  apply hrec.pointer true
  cases hp : phase (s.madeFor r) with
  | inserted _ _ | armed _ | cancelling _ _ => rfl
  | _ => rw [hp] at hlisted; cases hlisted

theorem Inv.armed_of_routine {i : Nat} (hroutine : (s.irp i).cancelRoutine = true)
    : ∃ r, phase i = .armed r ∧ RecordOk s i (.armed r) r := by
  have hirp := h.irps i
  have harmed := hirp.routine.symm.trans hroutine
  cases hp : phase i with
  | armed r =>
    rw [hp] at hirp
    exact ⟨r, rfl, hirp.record r rfl⟩
  | _ => rw [hp] at harmed; cases harmed

end Lists

/-! ### `tdiAllocateRequest` and `tdiPendIrp` -/

-- What an allocation does, whether from the free list or from the pool.
structure Allocated (r : Nat) (s s' : State) : Prop where
  fresh : r ∈ s.gFreeRequestList ∨ s.nextRecord ≤ r
  rest : s' = { s with gFreeRequestList := s'.gFreeRequestList, nextRecord := s'.nextRecord }
  sublist : s'.gFreeRequestList.Sublist s.gFreeRequestList
  used : r ∉ s'.gFreeRequestList ∧ r < s'.nextRecord
  nextRecord : s.nextRecord ≤ s'.nextRecord

section Allocate

variable {s : State} {phase : Nat → Phase} (h : Inv s phase) {t irp request : Nat}
include h

theorem Inv.allocated {poolAlloc : Bool} {s' : State}
    (halloc : s.allocate poolAlloc = some (request, s'))
    : Allocated request s s' := by
  have hfree := h.free
  unfold State.allocate at halloc
  split at halloc
  next rest hlist =>
    cases halloc
    rw [hlist] at hfree
    have hmem : request ∈ s.gFreeRequestList := by
      rw [hlist]
      exact List.mem_cons_self
    refine ⟨Or.inl hmem, rfl, ?_, ⟨?_, ?_⟩, Nat.le_refl _⟩
    . rw [hlist]
      exact List.sublist_cons_self request _
    . exact (List.nodup_cons.mp hfree.1).1
    . exact hfree.2 request List.mem_cons_self
  next hlist =>
    split at halloc
    . cases halloc
      refine ⟨Or.inr (Nat.le_refl _), rfl, List.Sublist.refl _, ⟨?_, ?_⟩, Nat.le_succ _⟩
      . rw [hlist]
        exact List.not_mem_nil
      . exact Nat.lt_succ_self _
    . cases halloc

theorem Inv.filled {statusFail : NtStatus} {s' : State}
    (hpc : s.pc t = .tdiAllocateRequest irp statusFail) (halloc : Allocated request s s')
    : ∃ phase', Inv ((s'.fill request irp statusFail).goto t (.tdiPendIrp irp request)) phase' := by
  have hphase : phase irp = .allocate t := h.at_pc hpc rfl
  have hirp := h.irps irp
  rw [hphase] at hirp
  have hunused := h.unused halloc.fresh
  have hreturned := hirp.returned rfl
  rw [hirp.early rfl] at hreturned
  have hpending : request ∉ s.gPendingRequestList := fun hr => hunused _ (h.pending.2 request hr)
  have hclones : request ∉ s.clones := fun hr => hunused _ (h.cloned.2 request hr)
  have hbound : ∀ r' ∈ s'.gFreeRequestList, r' < s'.nextRecord := by
    intro r' hr'
    exact Nat.lt_of_lt_of_le (h.free.2 r' (halloc.sublist.subset hr')) halloc.nextRecord
  have htouch : Touch t irp (some request) s s' := by
    rw [halloc.rest]
    refine { Touch.refl t irp (some request) s with free := ?_, nextRecord := halloc.nextRecord }
    exact fun r' _ hr' => halloc.sublist.subset hr'
  obtain ⟨free, nextRecord, rfl⟩ : ∃ free nextRecord,
      s' = { s with gFreeRequestList := free, nextRecord := nextRecord } := ⟨_, _, halloc.rest⟩
  have hmove : Move phase t irp (some request) (.inserting t request) s
      ((State.fill { s with gFreeRequestList := free, nextRecord := nextRecord } request irp
        statusFail).goto t (.tdiPendIrp irp request)) := {
    touch := (htouch.fill statusFail).goto _
    own := by
      intro j hj
      rw [hpc] at hj
      exact (Option.some.inj hj).symm
    record := by
      intro r' j hr'
      apply iff_of_false
      . rintro ⟨⟩
        exact hunused j hr'
      . rintro rfl
        rw [hphase] at hr'
        cases hr'
    irp := by
      apply irpOk_of_record rfl
      . refine ⟨⟨?_, ?_⟩, ?_, halloc.used, ?_, ?_, ?_, ?_⟩
        . simp [State.fill, State.goto, hirp.early rfl]
        . exact hreturned.1
        . simp [State.madeFor, State.fill, State.goto]
        . simp only [State.fill, State.goto, Function.update_self]
          exact h.asks t irp statusFail hpc
        . rintro b ⟨⟩
          simp [State.fill, State.goto]
        . exact iff_of_false hpending (fun hno => by cases hno)
        . exact iff_of_false hclones (fun hno => by cases hno)
      . exact hirp.routine
      . exact hirp.finished
      . rintro t' ⟨⟩
        rw [State.pc_goto]
        rfl
      . exact fun _ _ _ hno => by cases hno
    others := by
      rw [hphase]
      apply others_of_owner rfl
      . exact fun r => False.elim
      . exact fun t' ht' heq => ht' (Option.some.inj heq).symm
    at_ := by
      rw [State.pc_goto]
      rintro j ⟨⟩
      exact ⟨rfl, rfl⟩
    asks := by
      rw [State.pc_goto]
      exact fun _ _ hno => by cases hno
    lock := by
      have hlock := h.lock t
      rw [hpc] at hlock
      rw [State.pc_goto]
      exact hlock
    othersLock := fun _ _ => Iff.rfl
    walk := by
      rw [State.pc_goto]
      exact fun _ hno => by cases hno
    othersWalk := Or.inl rfl
    pending := h.pending.1
    cloned := h.cloned.1
    inUse := by
      rintro r' ⟨⟩ _
      refine ⟨?_, rfl⟩
      simp [State.madeFor, State.fill, State.goto]
    free := ⟨h.free.1.sublist halloc.sublist, fun r' _ => hbound r'⟩
    wake := by
      apply h.wake.step (htouch.fill statusFail |>.goto _).pc
      . exact Or.inl
      . rw [hpc]
        exact fun hno => by cases hno
      . rw [hpc]
        exact fun _ _ _ _ => False.elim
      . exact fun _ hno => by cases hno }
  exact ⟨_, h.move hmove⟩

theorem Inv.stepPend (hpc : s.pc t = .tdiPendIrp irp request)
    (hlock : s.gPendingRequestListLock = none)
    : ∃ phase', Inv ({ s with
        gPendingRequestListLock := some t
        gPendingRequestList := s.gPendingRequestList ++ [request] }.goto t
          (.setCancelRoutine irp request)) phase' := by
  have hphase : phase irp = .inserting t request := h.at_pc hpc rfl
  have hirp := h.irps irp
  rw [hphase] at hirp
  have hrec := hirp.record request rfl
  have hno : request ∉ s.gPendingRequestList := fun hr => by cases hrec.listed.mp hr
  have htouch : Touch t irp (some request) s ({ s with
        gPendingRequestListLock := some t
        gPendingRequestList := s.gPendingRequestList ++ [request] }.goto t
          (.setCancelRoutine irp request)) :=
    ((Touch.refl t irp (some request) s).pendingAppend.lock (some t)).goto _
  have hmove : Move phase t irp (some request) (.inserted t request) s _ := {
    touch := htouch
    own := by
      intro j hj
      rw [hpc] at hj
      exact (Option.some.inj hj).symm
    record := by
      intro r' j hr'
      have hiff := h.record_iff (i := irp) hr'
      rwa [hphase] at hiff
    irp := by
      apply irpOk_of_record rfl
      . refine ⟨hrec.logs, hrec.madeFor, hrec.used, hrec.statusFail, hrec.pointer, ?_, hrec.parked⟩
        exact iff_of_true (List.mem_append_right _ (List.mem_singleton_self request)) rfl
      . exact hirp.routine
      . exact hirp.finished
      . rintro t' ⟨⟩
        rw [State.pc_goto]
        rfl
      . exact fun _ _ _ hno => by cases hno
    others := by
      rw [hphase]
      apply others_of_owner rfl
      . exact fun r => False.elim
      . exact fun t' ht' heq => ht' (Option.some.inj heq).symm
    at_ := by
      rw [State.pc_goto]
      rintro j ⟨⟩
      exact ⟨rfl, rfl⟩
    asks := by
      rw [State.pc_goto]
      exact fun _ _ hno => by cases hno
    lock := by
      rw [State.pc_goto]
      exact iff_of_true rfl rfl
    othersLock := by
      intro t' ht'
      rw [hlock]
      exact iff_of_false (fun heq => ht' (Option.some.inj heq).symm) (fun hno => by cases hno)
    walk := by
      rw [State.pc_goto]
      exact fun _ hno => by cases hno
    othersWalk := by
      rw [hlock]
      exact Or.inr fun _ _ hno => by cases hno
    pending := by
      have hnodup := List.Nodup.concat hno h.pending.1
      rw [List.concat_eq_append] at hnodup
      exact hnodup
    cloned := h.cloned.1
    inUse := by
      rintro r' ⟨⟩ _
      exact ⟨hrec.madeFor, rfl⟩
    free := ⟨h.free.1, fun r' _ => h.free.2 r'⟩
    wake := by
      apply h.wake.step htouch.pc
      . exact Or.inl
      . rw [hpc]
        exact fun hno => by cases hno
      . rw [hpc]
        exact fun _ _ _ _ => False.elim
      . exact fun _ hno => by cases hno }
  exact ⟨_, h.move hmove⟩

end Allocate

/-! ### `tdiCancelIrp` -/

-- Both ways of a cancelled request: its record goes back, and the IRP is left to be completed.
structure Withdrawn (phase : Nat → Phase) (t irp request : Nat) (pc : Pc) (s s₁ : State) : Prop where
  own : ∀ j, (s.pc t).irp s.madeFor = some j → j = irp
  listed : phase irp = .armed request ∨ phase irp = .cancelling t request
  same : s₁ = s.ioSetCancelRoutine irp false
  alone : ∀ t', t' ≠ t → s.gPendingRequestListLock ≠ some t'
  at_ : pc.irp s.madeFor = some irp ∧ pc.At t (.completing t)
  asks : ∀ j statusFail, pc ≠ .tdiAllocateRequest j statusFail
  locking : pc.locking = (s.pc t).locking
  walk : ∀ reqOn, pc ≠ .tdiGetRequest reqOn
  signals : pc.signals = true
  ahead : ∀ r, ¬ (s.pc t).Ahead r

section Withdraw

variable {s : State} {phase : Nat → Phase} (h : Inv s phase) {t irp request : Nat}
include h

theorem Inv.withdrawn {pc : Pc} {s₁ : State} (hw : Withdrawn phase t irp request pc s s₁)
    : ∃ phase', Inv (({ s₁ with
        gPendingRequestList := s.gPendingRequestList.erase request }.recycle request).goto t pc)
        phase' := by
  have hirp := h.irps irp
  have hphase : (phase irp).record = some request ∧ (phase irp).isFinished = false ∧
      (phase irp).parked = false := by
    rcases hw.listed with hp | hp <;> rw [hp] <;> exact ⟨rfl, rfl, rfl⟩
  have hrec := hirp.record request hphase.1
  have hfinished : s.finished irp = [] := by
    have hwas := hirp.finished
    rw [hphase.2.1] at hwas
    exact hwas
  have hmade : s.madeFor request = irp := hrec.madeFor
  have hsame := hw.same
  subst hsame
  have htouch : Touch t irp (some request) s (({ s.ioSetCancelRoutine irp false with
      gPendingRequestList := s.gPendingRequestList.erase request }.recycle request).goto t pc) :=
    (((Touch.refl t irp (some request) s).ioSetCancelRoutine false).pendingErase.recycle hmade).goto pc
  have hmove : Move phase t irp (some request) (.completing t) s _ := {
    touch := htouch
    own := hw.own
    record := by
      intro r' j hr'
      have hiff := h.record_iff (i := irp) hr'
      rwa [hphase.1] at hiff
    irp := by
      refine ⟨?_, ?_, hfinished, ?_, ?_, ?_, ?_, ?_⟩
      . apply iff_of_false
        . intro hnone
          cases (hrec.statusFail.symm.trans hnone)
        . exact fun hno => by cases hno
      . simp [State.goto, State.recycle, State.ioSetCancelRoutine, Phase.isArmed]
      . intro _
        have hmadeFor : (s.record request).madeFor = irp := hmade
        simp [State.goto, State.recycle, State.ioSetCancelRoutine, hmadeFor, hrec.logs.1, hrec.logs.2]
      . exact fun hno => by cases hno
      . exact fun _ hno => by cases hno
      . rintro t' ⟨⟩
        rw [State.pc_goto]
        exact hw.at_.1
      . exact fun _ _ _ hno => by cases hno
    others := by
      intro t' ht' pc hat
      have hne : some t ≠ some t' := fun heq => ht' (Option.some.inj heq).symm
      rcases hw.listed with hp | hp <;> rw [hp] at hat <;> apply hat.others
      . exact fun hno => by cases hno
      . exact fun _ _ _ hno => by cases hno
      . exact fun r _ => trivial
      . exact hne
      . exact hne
      . exact fun _ _ _ hno => by cases hno
      . exact fun r _ => trivial
      . exact hne
    at_ := by
      rw [State.pc_goto]
      intro j hj
      exact ⟨Option.some.inj (hj.symm.trans hw.at_.1), hw.at_.2⟩
    asks := by
      rw [State.pc_goto]
      exact fun j statusFail heq => absurd heq (hw.asks j statusFail)
    lock := by
      rw [State.pc_goto, hw.locking]
      exact h.lock t
    othersLock := fun _ _ => Iff.rfl
    walk := by
      rw [State.pc_goto]
      exact fun reqOn heq => absurd heq (hw.walk reqOn)
    othersWalk := Or.inr hw.alone
    pending := h.pending.1.erase request
    cloned := h.cloned.1
    inUse := by
      rintro r' ⟨⟩ (hr' | hr')
      . exact absurd rfl ((h.pending.1.mem_erase_iff.mp hr').1)
      . have hparked := hrec.parked.mp hr'
        rw [hphase.2.2] at hparked
        cases hparked
    free := by
      have hnodup := List.Nodup.concat hrec.used.1 h.free.1
      rw [List.concat_eq_append] at hnodup
      refine ⟨hnodup, ?_⟩
      rintro r' ⟨⟩ _
      exact hrec.used.2
    wake := by
      apply h.wake.step htouch.pc
      . exact Or.inl
      . rw [State.pc_goto]
        exact fun _ => Or.inl hw.signals
      . exact fun _ _ r _ hahead => absurd hahead (hw.ahead r)
      . exact fun _ hno => by cases hno }
  exact ⟨_, h.move hmove⟩

theorem Inv.resetCancelRoutine (hpc : s.pc t = .resetCancelRoutine irp request)
    (hroutine : (s.irp irp).cancelRoutine = true)
    : ∃ phase', Inv (({ s.ioSetCancelRoutine irp false with
        gPendingRequestList := s.gPendingRequestList.erase request }.recycle request).goto t
          (.releaseLock irp true)) phase' := by
  have hpast : (phase irp).Past request ∧ (phase irp).owner ≠ some t := h.at_pc hpc rfl
  obtain ⟨r, hphase, _⟩ := h.armed_of_routine hroutine
  rw [hphase] at hpast
  obtain rfl : r = request := hpast.1
  have hlock : s.gPendingRequestListLock = some t := (h.lock t).mp (by rw [hpc]; rfl)
  have hw : Withdrawn phase t irp r (.releaseLock irp true) s (s.ioSetCancelRoutine irp false) := {
    own := by
      intro j hj
      rw [hpc] at hj
      exact (Option.some.inj hj).symm
    listed := Or.inl hphase
    same := rfl
    alone := by
      intro t' ht' heq
      rw [hlock] at heq
      exact ht' (Option.some.inj heq).symm
    at_ := ⟨rfl, fun _ => rfl⟩
    asks := fun _ _ hno => by cases hno
    locking := by rw [hpc]; rfl
    walk := fun _ hno => by cases hno
    signals := rfl
    ahead := by
      rw [hpc]
      exact fun _ => id }
  exact h.withdrawn hw

-- The walk finds the record of the IRP and no other one.
theorem Inv.cancelWalk_eq (hphase : phase irp = .cancelling t request)
    : cancelWalk s irp = { s with
        gPendingRequestList := s.gPendingRequestList.erase request }.recycle request := by
  have hirp := h.irps irp
  rw [hphase] at hirp
  have hrec := hirp.record request rfl
  have hmem : request ∈ s.gPendingRequestList := hrec.listed.mpr rfl
  have hiff : ∀ r ∈ s.gPendingRequestList, (s.record r).pIrp = some irp ↔ r = request := by
    intro r hr
    rw [h.pointer_pending hr]
    constructor
    . intro heq
      have hr' := h.pending.2 r hr
      rw [Option.some.inj heq, hphase] at hr'
      exact (Option.some.inj hr').symm
    . rintro rfl
      exact congrArg some hrec.madeFor
  have hremoved : s.gPendingRequestList.filter (fun r => (s.record r).pIrp = some irp) = [request] := by
    have hfilter : s.gPendingRequestList.filter (fun r => (s.record r).pIrp = some irp) =
        s.gPendingRequestList.filter (fun r => r == request) := by
      apply List.filter_congr
      intro r hr
      exact decide_eq_decide.mpr (hiff r hr)
    rw [hfilter, List.filter_beq, h.pending.1.count, if_pos hmem]
    rfl
  have hkept : s.gPendingRequestList.filter (fun r => (s.record r).pIrp ≠ some irp) =
      s.gPendingRequestList.erase request := by
    rw [h.pending.1.erase_eq_filter]
    apply List.filter_congr
    intro r hr
    have hnow := hiff r hr
    by_cases hcase : r = request
    . rw [decide_eq_false (not_not_intro (hnow.mpr hcase)), hcase]
      simp
    . simp [hnow, hcase]
  simp only [cancelWalk, hremoved, hkept, List.foldl_cons, List.foldl_nil]

theorem Inv.stepCancelIrp (hpc : s.pc t = .tdiCancelIrp irp)
    (hlock : s.gPendingRequestListLock = none)
    : ∃ phase', Inv ((cancelWalk s irp).goto t (.completeCancelled irp)) phase' := by
  obtain ⟨request, hphase⟩ : ∃ r, phase irp = .cancelling t r := h.at_pc hpc rfl
  have hirp := h.irps irp
  rw [hphase] at hirp
  have hsame : s = s.ioSetCancelRoutine irp false := by
    have hroutine : (s.irp irp).cancelRoutine = false := hirp.routine
    have hirps : Function.update s.irp irp { s.irp irp with cancelRoutine := false } = s.irp := by
      rw [← hroutine]
      exact Function.update_eq_self irp s.irp
    rw [State.ioSetCancelRoutine, hirps]
  rw [h.cancelWalk_eq hphase]
  have hw : Withdrawn phase t irp request (.completeCancelled irp) s s := {
    own := by
      intro j hj
      rw [hpc] at hj
      exact (Option.some.inj hj).symm
    listed := Or.inr hphase
    same := hsame
    alone := by
      rw [hlock]
      exact fun _ _ hno => by cases hno
    at_ := ⟨rfl, rfl⟩
    asks := fun _ _ hno => by cases hno
    locking := by rw [hpc]; rfl
    walk := fun _ hno => by cases hno
    signals := rfl
    ahead := by
      rw [hpc]
      exact fun _ => id }
  exact h.withdrawn hw

end Withdraw

/-! ### `fwThread` and the clients -/

section Requests

variable {s : State} {phase : Nat → Phase} (h : Inv s phase) {t irp request : Nat}
include h

theorem Inv.taken {reqOn : List Nat} (hpc : s.pc t = .tdiGetRequest (request :: reqOn))
    (hpIrp : (s.record request).pIrp = some irp) (hroutine : (s.irp irp).cancelRoutine = true)
    : ∃ phase', Inv ({ s.ioSetCancelRoutine irp false with
        gPendingRequestList := s.gPendingRequestList.erase request
        gPendingRequestListLock := none }.goto t (.dispatch request)) phase' := by
  have hmem : request ∈ s.gPendingRequestList :=
    (h.walk t _ hpc).subset List.mem_cons_self
  obtain rfl : s.madeFor request = irp :=
    Option.some.inj ((h.pointer_pending hmem).symm.trans hpIrp)
  obtain ⟨r, hphase, hrec⟩ := h.armed_of_routine hroutine
  obtain rfl : r = request := by
    have hr := h.pending.2 request hmem
    rw [hphase] at hr
    exact Option.some.inj hr
  have hirp := h.irps (s.madeFor r)
  rw [hphase] at hirp
  have hlock : s.gPendingRequestListLock = some t := (h.lock t).mp (by rw [hpc]; rfl)
  have htouch : Touch t (s.madeFor r) (some r) s ({ s.ioSetCancelRoutine (s.madeFor r) false with
      gPendingRequestList := s.gPendingRequestList.erase r
      gPendingRequestListLock := none }.goto t (.dispatch r)) :=
    (((Touch.refl t _ (some r) s).ioSetCancelRoutine false).pendingErase.lock none).goto _
  have hmove : Move phase t (s.madeFor r) (some r) (.dispatch t r) s _ := {
    touch := htouch
    own := by
      rw [hpc]
      exact fun j hno => by cases hno
    record := by
      intro r' j hr'
      have hiff := h.record_iff (i := s.madeFor r) hr'
      rwa [hphase] at hiff
    irp := by
      apply irpOk_of_record rfl
      . refine ⟨hrec.logs, hrec.madeFor, hrec.used, hrec.statusFail, hrec.pointer, ?_, hrec.parked⟩
        apply iff_of_false
        . exact fun hr => absurd rfl (h.pending.1.mem_erase_iff.mp hr).1
        . exact fun hno => by cases hno
      . simp [State.goto, State.ioSetCancelRoutine, Phase.isArmed]
      . exact hirp.finished
      . rintro t' ⟨⟩
        rw [State.pc_goto]
        rfl
      . exact fun _ _ _ hno => by cases hno
    others := by
      intro t' ht' pc hat
      rw [hphase] at hat
      apply hat.others
      . exact fun hno => by cases hno
      . exact fun _ _ _ hno => by cases hno
      . exact fun _ _ => trivial
      . exact fun heq => ht' (Option.some.inj heq).symm
    at_ := by
      rw [State.pc_goto]
      rintro j ⟨⟩
      exact ⟨rfl, rfl⟩
    asks := by
      rw [State.pc_goto]
      exact fun _ _ hno => by cases hno
    lock := by
      rw [State.pc_goto]
      exact iff_of_false (fun hno => by cases hno) (fun hno => by cases hno)
    othersLock := by
      intro t' ht'
      rw [hlock]
      exact iff_of_false (fun hno => by cases hno) (fun heq => ht' (Option.some.inj heq).symm)
    walk := by
      rw [State.pc_goto]
      exact fun _ hno => by cases hno
    othersWalk := by
      rw [hlock]
      exact Or.inr fun t' ht' heq => ht' (Option.some.inj heq).symm
    pending := h.pending.1.erase r
    cloned := h.cloned.1
    inUse := by
      rintro r' ⟨⟩ _
      exact ⟨rfl, rfl⟩
    free := ⟨h.free.1, fun r' _ => h.free.2 r'⟩
    wake := by
      apply h.wake.step htouch.pc
      . exact Or.inl
      . rw [hpc]
        exact fun hno => by cases hno
      . rw [State.pc_goto]
        exact fun _ _ _ _ _ => trivial
      . exact fun _ hno => by cases hno }
  exact ⟨_, h.move hmove⟩

theorem Inv.deferred (hpc : s.pc t = .processRequest request)
    : ∃ phase', Inv ((State.setReferences { s with clones := request :: s.clones } request
        (s.references request + 1)).goto t (.fwFreeCloneRequest request)) phase' := by
  obtain ⟨hs, hphase, ht⟩ : ∃ hs, phase (s.madeFor request) = .request request hs (.thread t) ∧
    t ∈ hs := h.at_pc hpc rfl
  have hirp := h.irps (s.madeFor request)
  rw [hphase] at hirp
  have hrec := hirp.record request rfl
  have hreq := hirp.request _ _ _ rfl
  have hno : request ∉ s.clones := fun hr => by cases hrec.parked.mp hr
  have htouch : Touch t (s.madeFor request) (some request) s
      ((State.setReferences { s with clones := request :: s.clones } request
        (s.references request + 1)).goto t (.fwFreeCloneRequest request)) :=
    ((Touch.refl t _ (some request) s).clonesCons.setReferences _).goto _
  have hmove : Move phase t (s.madeFor request) (some request) (.request request hs .clone) s _ := {
    touch := htouch
    own := by
      intro j hj
      rw [hpc] at hj
      exact (Option.some.inj hj).symm
    record := by
      intro r' j hr'
      have hiff := h.record_iff (i := s.madeFor request) hr'
      rwa [hphase] at hiff
    irp := by
      apply irpOk_of_record rfl
      . refine ⟨hrec.logs, hrec.madeFor, hrec.used, hrec.statusFail, hrec.pointer, hrec.listed, ?_⟩
        exact iff_of_true List.mem_cons_self rfl
      . exact hirp.routine
      . exact hirp.finished
      . exact fun _ hno => by cases hno
      . rintro r hs' c ⟨⟩
        refine ⟨hreq.nodup, Nat.succ_pos _, ?_, holds_goto hreq.holds fun _ => rfl,
          fun _ hno => by cases hno⟩
        simp [State.goto, State.setReferences, hreq.references, Carrier.clones]
    others := by
      intro t' ht' pc hat
      rw [hphase] at hat
      apply hat.request id
      exact Or.inr ⟨fun heq => ht' (Option.some.inj heq).symm, fun hno => by cases hno⟩
    at_ := by
      rw [State.pc_goto]
      rintro j ⟨⟩
      exact ⟨rfl, hs, _, rfl, ht, fun hno => by cases hno⟩
    asks := by
      rw [State.pc_goto]
      exact fun _ _ hno => by cases hno
    lock := by
      have hlock := h.lock t
      rw [hpc] at hlock
      rw [State.pc_goto]
      exact hlock
    othersLock := fun _ _ => Iff.rfl
    walk := by
      rw [State.pc_goto]
      exact fun _ hno => by cases hno
    othersWalk := Or.inl rfl
    pending := h.pending.1
    cloned := List.nodup_cons.mpr ⟨hno, h.cloned.1⟩
    inUse := by
      rintro r' ⟨⟩ _
      exact ⟨rfl, rfl⟩
    free := ⟨h.free.1, fun r' _ => h.free.2 r'⟩
    wake := by
      apply h.wake.step htouch.pc
      . exact Or.inl
      . rw [hpc]
        exact fun hno => by cases hno
      . rw [State.pc_goto]
        exact fun _ _ _ _ _ => trivial
      . exact fun _ hno => by cases hno }
  exact ⟨_, h.move hmove⟩

theorem Inv.recycled (hpc : s.pc t = .tdiRecycleRequest request)
    : ∃ phase', Inv ((s.recycle request).return_ t) phase' := by
  have hphase : phase (s.madeFor request) = .recycling t request := h.at_pc hpc rfl
  have hirp := h.irps (s.madeFor request)
  rw [hphase] at hirp
  have hrec := hirp.record request rfl
  have htouch : Touch t (s.madeFor request) (some request) s ((s.recycle request).return_ t) :=
    ((Touch.refl t _ (some request) s).recycle rfl).goto _
  have hmove : Move phase t (s.madeFor request) (some request) .finished s _ := {
    touch := htouch
    own := by
      intro j hj
      rw [hpc] at hj
      exact (Option.some.inj hj).symm
    record := by
      intro r' j hr'
      have hiff := h.record_iff (i := s.madeFor request) hr'
      rwa [hphase] at hiff
    irp := by
      obtain ⟨f, hfinished, hproper⟩ := hirp.finished
      apply irpOk_finished
      . exact fun hno => by cases hirp.given.mp hno
      . exact hirp.routine
      . exact hfinished
      . exact hproper
      . simp [State.return_, State.goto, State.recycle, hrec.logs.1, hrec.logs.2]
    others := by
      rw [hphase]
      apply others_of_owner rfl
      . exact fun r _ => trivial
      . exact fun _ _ hno => by cases hno
    at_ := by
      intro j hj
      rw [State.return_, State.pc_goto] at hj
      split at hj <;> cases hj
    asks := by
      intro j statusFail hj
      rw [State.return_, State.pc_goto] at hj
      split at hj <;> cases hj
    lock := by
      have hlock := h.lock t
      rw [hpc] at hlock
      rw [State.return_, State.pc_goto]
      split <;> exact hlock
    othersLock := fun _ _ => Iff.rfl
    walk := by
      intro reqOn hj
      rw [State.return_, State.pc_goto] at hj
      split at hj <;> cases hj
    othersWalk := Or.inl rfl
    pending := h.pending.1
    cloned := h.cloned.1
    inUse := by
      rintro r' ⟨⟩ (hr' | hr')
      . cases hrec.listed.mp hr'
      . cases hrec.parked.mp hr'
    free := by
      have hnodup := List.Nodup.concat hrec.used.1 h.free.1
      rw [List.concat_eq_append] at hnodup
      refine ⟨hnodup, ?_⟩
      rintro r' ⟨⟩ _
      exact hrec.used.2
    wake := by
      apply h.wake.step htouch.pc
      . exact Or.inl
      . rw [hpc]
        exact fun hno => by cases hno
      . intro ht _ r _ _
        rw [State.return_, State.pc_goto, if_pos ht]
        trivial
      . exact fun _ hno => by cases hno }
  exact ⟨_, h.move hmove⟩

theorem Inv.resumed {inject : Bool} (hpc : s.pc t = .idle) (ht : t ≠ fwThread)
    (hmem : request ∈ s.clones)
    : ∃ phase', Inv ({ s with clones := s.clones.erase request }.goto t
        (if inject then .processRequest request else .fwFreeCloneRequest request)) phase' := by
  have hused := h.cloned.2 request hmem
  have hirp := h.irps (s.madeFor request)
  have hrec := hirp.record request hused
  obtain ⟨hs, hphase⟩ : ∃ hs, phase (s.madeFor request) = .request request hs .clone := by
    have hparked := hrec.parked.mp hmem
    cases hp : phase (s.madeFor request) with
    | request r hs c =>
      rw [hp] at hused hparked
      obtain rfl : r = request := Option.some.inj hused
      cases c with
      | clone => exact ⟨hs, rfl⟩
      | _ => cases hparked
    | _ => rw [hp] at hparked; cases hparked
  rw [hphase] at hirp hrec
  have hreq := hirp.request _ _ _ rfl
  have hnew : t ∉ hs := by
    intro hmem
    have hholds := hreq.holds t hmem
    rw [hpc] at hholds
    exact hholds
  have htouch : Touch t (s.madeFor request) (some request) s
      ({ s with clones := s.clones.erase request }.goto t
        (if inject then .processRequest request else .fwFreeCloneRequest request)) :=
    (Touch.refl t _ (some request) s).clonesErase.goto _
  have hmove : Move phase t (s.madeFor request) (some request)
      (.request request (t :: hs) (if inject then .thread t else .gone false)) s _ := {
    touch := htouch
    own := by
      rw [hpc]
      exact fun j hno => by cases hno
    record := by
      intro r' j hr'
      have hiff := h.record_iff (i := s.madeFor request) hr'
      rwa [hphase] at hiff
    irp := by
      apply irpOk_of_record rfl
      . refine ⟨hrec.logs, hrec.madeFor, hrec.used, hrec.statusFail, ?_, hrec.listed, ?_⟩
        . cases inject with
          | _ => exact hrec.pointer
        . apply iff_of_false
          . exact fun hr => absurd rfl (h.cloned.1.mem_erase_iff.mp hr).1
          . cases inject with
            | _ => exact fun hno => by cases hno
      . exact hirp.routine
      . cases inject with
        | _ => exact hirp.finished
      . exact fun _ hno => by cases hno
      . rintro r hs' c ⟨⟩
        refine ⟨List.nodup_cons.mpr ⟨hnew, hreq.nodup⟩, Nat.add_pos_left (Nat.succ_pos _) _, ?_, ?_, ?_⟩
        . cases inject with
          | _ => exact hreq.references
        . intro t' ht'
          by_cases hcase : t' = t
          . rw [hcase, State.pc_goto]
            cases inject with
            | _ => rfl
          . simp only [State.goto, Function.update_of_ne hcase]
            exact hreq.holds t' (List.mem_of_ne_of_mem hcase ht')
        . intro t' ht'
          cases inject with
          | true =>
            cases ht'
            exact List.mem_cons_self
          | false => cases ht'
    others := by
      intro t' ht' pc hat
      rw [hphase] at hat
      apply hat.request (List.mem_cons_of_mem t)
      refine Or.inr ⟨(fun hno => by cases hno), ?_⟩
      cases inject with
      | true => exact fun heq => ht' (Option.some.inj heq).symm
      | false => exact fun hno => by cases hno
    at_ := by
      rw [State.pc_goto]
      cases inject with
      | true =>
        rintro j ⟨⟩
        exact ⟨rfl, _, rfl, List.mem_cons_self⟩
      | false =>
        rintro j ⟨⟩
        exact ⟨rfl, _, _, rfl, List.mem_cons_self, fun hno => by cases hno⟩
    asks := by
      rw [State.pc_goto]
      cases inject with
      | _ => exact fun _ _ hno => by cases hno
    lock := by
      have hlock := h.lock t
      rw [hpc] at hlock
      rw [State.pc_goto]
      cases inject with
      | _ => exact hlock
    othersLock := fun _ _ => Iff.rfl
    walk := by
      rw [State.pc_goto]
      cases inject with
      | _ => exact fun _ hno => by cases hno
    othersWalk := Or.inl rfl
    pending := h.pending.1
    cloned := h.cloned.1.erase request
    inUse := by
      rintro r' ⟨⟩ _
      exact ⟨rfl, rfl⟩
    free := ⟨h.free.1, fun r' _ => h.free.2 r'⟩
    wake := by
      apply h.wake.step htouch.pc
      . exact Or.inl
      . rw [hpc]
        exact fun hno => by cases hno
      . exact fun heq => absurd heq ht
      . exact fun _ hno => by cases hno }
  exact ⟨_, h.move hmove⟩

end Requests

end Ansfw.Firewall
