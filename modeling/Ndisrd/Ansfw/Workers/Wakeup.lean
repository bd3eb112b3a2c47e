import Ndisrd.Ansfw.Workers.Impl

/-!
This module contains that no wake-up of a worker is lost: an entry that is queued while the worker waits
for its event is one of which the worker is still to be told, or one whose IRP is being cancelled.
-/

namespace Ansfw.Workers

-- The entry that a thread has inserted and not yet told the worker about.
def Pc.inserted : Pc → Option Nat
  | .setCancelRoutine x => some x
  | .testCancel x => some x
  | .resetCancelRoutine x => some x
  | .releaseLock x => some x
  | .setEvent x => some x
  | _ => none

def Pc.locked : Pc → Bool
  | .setCancelRoutine _ => true
  | .testCancel _ => true
  | .resetCancelRoutine _ => true
  | .releaseLock _ => true
  | _ => false

-- What only threads do whose entries are IRPs that can be cancelled.
def Pc.cancels : Pc → Bool
  | .setCancelRoutine _ => true
  | .testCancel _ => true
  | .resetCancelRoutine _ => true
  | .exchangeCancelRoutine _ => true
  | .tdiCancelIrp _ => true
  | _ => false

namespace State

variable (s : State)

/--
The producer of the entry has not yet executed its `KeSetEvent`.
-/
def Unsignalled (x : Nat) : Prop := ∃ t, (s.pc t).inserted = some x

def Cancelling (x : Nat) : Prop := ∃ t, s.pc t = .tdiCancelIrp x

def Hooking (x : Nat) : Prop := ∃ t, s.pc t = .setCancelRoutine x

-- The worker looks at the whole queue, or what it has not seen of it, before it waits again.
def Awake : Prop :=
  s.worker = .acquireLock ∨ s.worker = .terminated ∨ (∃ x, s.worker = .work x) ∨
    ∃ rest, s.worker = .walk rest

def Covered (x : Nat) : Prop := s.Unsignalled x ∨ s.Cancelling x ∨ s.event = true ∨ s.Awake

variable {s} in
theorem Awake.covered (h : s.Awake) (x : Nat) : s.Covered x := Or.inr (Or.inr (Or.inr h))

variable {s} in
theorem awake_walk {rest : List Nat} (h : s.worker = .walk rest) : s.Awake :=
  Or.inr (Or.inr (Or.inr ⟨rest, h⟩))

variable {s} in
theorem awake_work {x : Nat} (h : s.worker = .work x) : s.Awake := Or.inr (Or.inr (Or.inl ⟨x, h⟩))

def Hooked (x : Nat) : Prop := s.cancelRoutine x = true ∨ s.Hooking x ∨ s.Cancelling x

end State

structure Inv (w : Worker) (s : State) : Prop where
  lockThread : ∀ t, (s.pc t).locked = true → s.lock = some (.thread t)
  lockWorker : ∀ rest, s.worker = .walk rest → s.lock = some .worker
  walked : ∀ rest, s.worker = .walk rest → ∀ x ∈ s.queue, x ∈ rest ∨ s.Cancelling x
  hooked : w.cancellable = true → ∀ x ∈ s.queue, s.Hooked x
  covered : ∀ x ∈ s.queue, s.Covered x
  plain : w.cancellable = false → ∀ t, (s.pc t).cancels = false

theorem inv_init (w : Worker) (cancel : Nat → Bool) : Inv w (init cancel) := by
  refine ⟨?_, ?_, ?_, ?_, ?_, ?_⟩
  . intro t h
    cases h
  . intro rest h
    cases h
  . intro rest h
    cases h
  . intro _ x hx
    cases hx
  . intro x hx
    cases hx
  . intro _ t
    rfl

/-! ### Threads that go on -/

section Goto

variable {s : State} {t : Nat} {p : Pc} {x : Nat}

theorem goto_self (s : State) (t : Nat) (p : Pc) : (s.goto t p).pc t = p := Function.update_self _ _ _

theorem goto_of_ne (s : State) (p : Pc) {t t' : Nat} (h : t' ≠ t)
    : (s.goto t p).pc t' = s.pc t' := Function.update_of_ne h _ _

theorem forall_goto {P : Nat → Pc → Prop} (h : ∀ t', P t' (s.pc t')) (hp : P t p)
    : ∀ t', P t' ((s.goto t p).pc t') := by
  intro t'
  by_cases heq : t' = t
  . rw [heq, goto_self]
    exact hp
  . rw [goto_of_ne s p heq]
    exact h t'

theorem unsignalled_goto (s : State) (t : Nat) (hp : p.inserted = some x)
    : (s.goto t p).Unsignalled x := ⟨t, by rw [goto_self]; exact hp⟩

theorem cancelling_goto (s : State) (t x : Nat) : (s.goto t (.tdiCancelIrp x)).Cancelling x :=
  ⟨t, goto_self s t _⟩

theorem hooking_goto (s : State) (t x : Nat) : (s.goto t (.setCancelRoutine x)).Hooking x :=
  ⟨t, goto_self s t _⟩

end Goto

/--
A step of the thread `t` to `p` that leaves the worker where it is, takes nothing back that the worker
was told, and releases and cancels nothing: what it changes of the queue is for the caller to show.
-/
structure Advanced (w : Worker) (s s' : State) (t : Nat) (p : Pc) : Prop where
  pc : s'.pc = (s.goto t p).pc
  worker : s'.worker = s.worker
  event : s.event = true → s'.event = true
  told : ∀ x ∈ s'.queue, (s.pc t).inserted = some x → p.inserted = some x ∨ s'.event = true
  cancelling : ∀ x ∈ s'.queue, s.pc t ≠ .tdiCancelIrp x
  plain : w.cancellable = false → p.cancels = false

section Advanced

variable {w : Worker} {s s' : State} {t : Nat} {p : Pc}

-- A step that tells the worker nothing, and after which it is still to be told what it was before.
theorem Advanced.of_same (hpc : s'.pc = (s.goto t p).pc) (hworker : s'.worker = s.worker)
    (hevent : s'.event = s.event) (htold : ∀ x, (s.pc t).inserted = some x → p.inserted = some x)
    (hcancelling : ∀ x, s.pc t ≠ .tdiCancelIrp x) (hplain : w.cancellable = false → p.cancels = false)
    : Advanced w s s' t p where
  pc := hpc
  worker := hworker
  event := fun h => hevent.trans h
  told := fun x _ h => Or.inl (htold x h)
  cancelling := fun x _ => hcancelling x
  plain := hplain

variable (h : Advanced w s s' t p)
include h

theorem Advanced.cancelling_of {x : Nat} (hx : x ∈ s'.queue) (hc : s.Cancelling x)
    : s'.Cancelling x := by
  obtain ⟨t', ht'⟩ := hc
  have hne : t' ≠ t := by
    rintro rfl
    exact h.cancelling x hx ht'
  refine ⟨t', ?_⟩
  rw [h.pc, goto_of_ne s p hne]
  exact ht'

theorem Advanced.awake (ha : s.Awake) : s'.Awake := by
  unfold State.Awake at ha ⊢
  rw [h.worker]
  exact ha

theorem Advanced.covered_of {x : Nat} (hx : x ∈ s'.queue) (hc : s.Covered x) : s'.Covered x := by
  rcases hc with ⟨t', ht'⟩ | hc | hc | hc
  . by_cases heq : t' = t
    . subst heq
      rcases h.told x hx ht' with hp | hp
      . left
        unfold State.Unsignalled
        rw [h.pc]
        exact unsignalled_goto s t' hp
      . exact Or.inr (Or.inr (Or.inl hp))
    . left
      refine ⟨t', ?_⟩
      rw [h.pc, goto_of_ne s p heq]
      exact ht'
  . exact Or.inr (Or.inl (h.cancelling_of hx hc))
  . exact Or.inr (Or.inr (Or.inl (h.event hc)))
  . exact Or.inr (Or.inr (Or.inr (h.awake hc)))

theorem Advanced.hooked_of {x : Nat} (hx : x ∈ s'.queue) (hc : s.Hooked x)
    (hroutine : s.cancelRoutine x = true → s'.Hooked x)
    (hhooking : s.pc t = .setCancelRoutine x → s'.cancelRoutine x = true)
    : s'.Hooked x := by
  rcases hc with hc | ⟨t', ht'⟩ | hc
  . exact hroutine hc
  . by_cases heq : t' = t
    . subst heq
      exact Or.inl (hhooking ht')
    . refine Or.inr (Or.inl ⟨t', ?_⟩)
      rw [h.pc, goto_of_ne s p heq]
      exact ht'
  . exact Or.inr (Or.inr (h.cancelling_of hx hc))

theorem Advanced.lockThread (hs : Inv w s) (hlock : s'.lock = s.lock)
    (hp : p.locked = true → (s.pc t).locked = true)
    : ∀ t', (s'.pc t').locked = true → s'.lock = some (.thread t') := by
  rw [h.pc, hlock]
  apply forall_goto (P := fun t' p => p.locked = true → s.lock = some (.thread t'))
  . exact hs.lockThread
  . exact fun hl => hs.lockThread t (hp hl)

theorem Advanced.inv (hs : Inv w s) (hlock : ∀ t', (s'.pc t').locked = true → s'.lock = some (.thread t'))
    (hworker : s.lock = some .worker → s'.lock = some .worker ∧ ∀ x ∈ s'.queue, x ∈ s.queue)
    (hhooked : w.cancellable = true → ∀ x ∈ s'.queue, s'.Hooked x)
    (hnew : ∀ x ∈ s'.queue, x ∈ s.queue ∨ p.inserted = some x)
    : Inv w s' := by
  refine ⟨hlock, ?_, ?_, hhooked, ?_, ?_⟩
  . intro rest hwalk
    rw [h.worker] at hwalk
    exact (hworker (hs.lockWorker rest hwalk)).1
  . intro rest hwalk x hx
    rw [h.worker] at hwalk
    have hx' := (hworker (hs.lockWorker rest hwalk)).2 x hx
    exact (hs.walked rest hwalk x hx').imp_right (h.cancelling_of hx)
  . intro x hx
    rcases hnew x hx with hold | hp
    . exact h.covered_of hx (hs.covered x hold)
    . left
      unfold State.Unsignalled
      rw [h.pc]
      exact unsignalled_goto s t hp
  . intro hw
    rw [h.pc]
    exact forall_goto (P := fun _ p => p.cancels = false) (hs.plain hw) (h.plain hw)

end Advanced

/-! ### The steps of the threads -/

section Steps

variable {w : Worker} {s : State} {t : Nat} (hs : Inv w s)
include hs

theorem Inv.cancellable (hpc : (s.pc t).cancels = true) : w.cancellable = true := by
  by_contra hw
  rw [hs.plain (Bool.eq_false_iff.mpr hw) t] at hpc
  cases hpc

-- A step that changes nothing but where the thread is, or what no other thread waits for.
theorem Inv.goto {s' : State} {p : Pc} (h : Advanced w s s' t p) (hlock : s'.lock = s.lock)
    (hp : p.locked = true → (s.pc t).locked = true) (hqueue : ∀ x ∈ s'.queue, x ∈ s.queue)
    (hroutine : ∀ x ∈ s'.queue, s.cancelRoutine x = true → s'.Hooked x)
    (hhooking : ∀ x, s.pc t = .setCancelRoutine x → s'.cancelRoutine x = true)
    : Inv w s' := by
  refine h.inv hs (h.lockThread hs hlock hp) ?_ ?_ fun x hx => Or.inl (hqueue x hx)
  . intro hl
    exact ⟨hlock.trans hl, hqueue⟩
  . intro hw x hx
    exact h.hooked_of hx (hs.hooked hw x (hqueue x hx)) (hroutine x hx) (hhooking x)

theorem Inv.stepInsert {x : Nat} (hpc : s.pc t = .insertTail x) : Inv w (stepInsert w s t x) := by
  unfold Workers.stepInsert
  split
  . exact hs
  . next hlock =>
    have hno : ∀ t', ¬(s.pc t').locked = true := by
      intro t' hl
      have := hs.lockThread t' hl
      rw [hlock] at this
      cases this
    let p : Pc := if w.cancellable then .setCancelRoutine x else .releaseLock x
    have hp : p.inserted = some x := by
      simp only [p]
      split
      . rfl
      . rfl
    have h : Advanced w s
        ({ s with lock := some (.thread t), queue := s.queue ++ [x] }.goto t p) t p := by
      refine Advanced.of_same rfl rfl rfl (by simp [hpc, Pc.inserted]) (by simp [hpc]) ?_
      intro hw
      simp only [p, hw]
      rfl
    refine h.inv hs ?_ ?_ ?_ ?_
    . rw [h.pc]
      apply forall_goto (P := fun t' p => p.locked = true → some (Holder.thread t) = some (.thread t'))
      . exact fun t' hl => absurd hl (hno t')
      . exact fun _ => rfl
    . intro hl
      rw [hlock] at hl
      cases hl
    . intro hw y hy
      rcases List.mem_append.mp hy with hold | hnew
      . exact h.hooked_of hy (hs.hooked hw y hold) Or.inl (by simp [hpc])
      . rw [List.mem_singleton.mp hnew]
        have hpx : p = .setCancelRoutine x := by simp only [p, hw, if_true]
        rw [hpx]
        exact Or.inr (Or.inl (hooking_goto _ t x))
    . intro y hy
      rcases List.mem_append.mp hy with hold | hnew
      . exact Or.inl hold
      . rw [List.mem_singleton.mp hnew]
        exact Or.inr hp

theorem Inv.stepSetCancelRoutine {x : Nat} (hpc : s.pc t = .setCancelRoutine x)
    : Inv w ((s.ioSetCancelRoutine x true).goto t (.testCancel x)) := by
  have hself : Function.update s.cancelRoutine x true x = true := Function.update_self _ _ _
  have hw : w.cancellable = true := hs.cancellable (t := t) (by rw [hpc]; rfl)
  have h : Advanced w s ((s.ioSetCancelRoutine x true).goto t (.testCancel x)) t (.testCancel x) :=
    Advanced.of_same rfl rfl rfl (by simp [hpc, Pc.inserted]) (by simp [hpc]) (by simp [hw])
  refine hs.goto h rfl (fun _ => by rw [hpc]; rfl) (fun _ hy => hy) ?_ ?_
  . intro y _ hroutine
    left
    by_cases hyx : y = x
    . rw [hyx]
      exact hself
    . exact (Function.update_of_ne hyx _ _).trans hroutine
  . intro y hy
    rw [hpc] at hy
    injection hy with hy
    rw [← hy]
    exact hself

theorem Inv.stepTestCancel {x : Nat} (hpc : s.pc t = .testCancel x) {p : Pc}
    (hp : p = .resetCancelRoutine x ∨ p = .releaseLock x)
    : Inv w (s.goto t p) := by
  have hins : p.inserted = some x := by
    rcases hp with rfl | rfl
    . rfl
    . rfl
  have hw : w.cancellable = true := hs.cancellable (t := t) (by rw [hpc]; rfl)
  have h : Advanced w s (s.goto t p) t p :=
    Advanced.of_same rfl rfl rfl (by rw [hpc, hins]; exact fun _ h => h) (by simp [hpc]) (by simp [hw])
  exact hs.goto h rfl (fun _ => by rw [hpc]; rfl) (fun _ hy => hy) (fun _ _ => Or.inl) (by simp [hpc])

theorem Inv.stepResetCancelRoutine {x : Nat} (hpc : s.pc t = .resetCancelRoutine x)
    : Inv w (stepResetCancelRoutine s t x) := by
  have hadvanced {s' : State} (hpc' : s'.pc = (s.goto t (.releaseLock x)).pc)
      (hworker : s'.worker = s.worker) (hevent : s'.event = s.event)
      : Advanced w s s' t (.releaseLock x) :=
    Advanced.of_same hpc' hworker hevent (by simp [hpc, Pc.inserted]) (by simp [hpc]) fun _ => rfl
  unfold Workers.stepResetCancelRoutine
  split
  . refine hs.goto (hadvanced rfl rfl rfl) rfl (fun _ => by rw [hpc]; rfl) ?_ ?_ (by simp [hpc])
    . exact fun y hy => (List.mem_filter.mp hy).1
    . intro y hy hroutine
      have hyx : y ≠ x := of_decide_eq_true (List.mem_filter.mp hy).2
      exact Or.inl ((Function.update_of_ne hyx _ _).trans hroutine)
  . exact hs.goto (hadvanced rfl rfl rfl) rfl (fun _ => by rw [hpc]; rfl) (fun _ hy => hy)
      (fun _ _ => Or.inl) (by simp [hpc])

theorem Inv.stepReleaseLock {x : Nat} (hpc : s.pc t = .releaseLock x)
    : Inv w ({ s with lock := none }.goto t (.setEvent x)) := by
  have hlock : s.lock = some (.thread t) := hs.lockThread t (by rw [hpc]; rfl)
  have h : Advanced w s ({ s with lock := none }.goto t (.setEvent x)) t (.setEvent x) :=
    Advanced.of_same rfl rfl rfl (by simp [hpc, Pc.inserted]) (by simp [hpc]) fun _ => rfl
  refine h.inv hs ?_ ?_ ?_ fun x hx => Or.inl hx
  . rw [h.pc]
    intro t' hl
    by_cases heq : t' = t
    . rw [heq, goto_self] at hl
      cases hl
    . rw [goto_of_ne s _ heq] at hl
      have hother := (hs.lockThread t' hl).symm.trans hlock
      injection hother with hother
      injection hother with hother
      exact absurd hother heq
  . intro hl
    rw [hlock] at hl
    cases hl
  . intro hw y hy
    exact h.hooked_of hy (hs.hooked hw y hy) Or.inl (by simp [hpc])

-- `KeSetEvent`, of those that have inserted an entry and of the others.
theorem Inv.stepSetEvent (hpc : ∀ x, s.pc t ≠ .tdiCancelIrp x) (hpc' : ∀ x, s.pc t ≠ .setCancelRoutine x)
    : Inv w ({ s with event := true }.goto t .idle) := by
  have h : Advanced w s ({ s with event := true }.goto t .idle) t .idle :=
    ⟨rfl, rfl, fun _ => rfl, fun _ _ _ => Or.inr rfl, fun y _ => hpc y, fun _ => rfl⟩
  refine hs.goto h rfl (fun hl => ?_) (fun _ hy => hy) (fun _ _ => Or.inl) fun y hy => ?_
  . cases hl
  . exact absurd hy (hpc' y)

theorem Inv.stepExchangeCancelRoutine {x : Nat} (hpc : s.pc t = .exchangeCancelRoutine x)
    : Inv w (stepExchangeCancelRoutine s t x) := by
  have hw : w.cancellable = true := hs.cancellable (t := t) (by rw [hpc]; rfl)
  have hadvanced {s' : State} {p : Pc} (hpc' : s'.pc = (s.goto t p).pc) (hworker : s'.worker = s.worker)
      (hevent : s'.event = s.event)
      : Advanced w s s' t p :=
    Advanced.of_same hpc' hworker hevent (by simp [hpc, Pc.inserted]) (by simp [hpc]) (by simp [hw])
  unfold Workers.stepExchangeCancelRoutine
  split
  . refine hs.goto (hadvanced (p := .tdiCancelIrp x) rfl rfl rfl) rfl (by simp [Pc.locked])
      (fun _ hy => hy) ?_ (by simp [hpc])
    intro y _ hroutine
    by_cases hyx : y = x
    . -- the IRP is being cancelled from here on
      rw [hyx]
      exact Or.inr (Or.inr (cancelling_goto _ t x))
    . exact Or.inl ((Function.update_of_ne hyx _ _).trans hroutine)
  . exact hs.goto (hadvanced (p := .idle) rfl rfl rfl) rfl (by simp [Pc.locked]) (fun _ hy => hy)
      (fun _ _ => Or.inl) (by simp [hpc])

theorem Inv.stepRemove {x : Nat} (hpc : s.pc t = .tdiCancelIrp x ∨ s.pc t = .closeAddress x) {p : Pc}
    (hp : p = .wake ∨ p = .idle)
    : Inv w (stepRemove s t x p) := by
  have hplain : p.cancels = false ∧ p.locked = false := by
    rcases hp with rfl | rfl
    . exact ⟨rfl, rfl⟩
    . exact ⟨rfl, rfl⟩
  unfold Workers.stepRemove
  split
  . exact hs
  . have h : Advanced w s ((s.removeEntryList x).goto t p) t p := by
      refine ⟨rfl, rfl, fun h => h, ?_, ?_, fun _ => hplain.1⟩
      . intro y _ hy
        rcases hpc with hpc | hpc
        . rw [hpc] at hy
          cases hy
        . rw [hpc] at hy
          cases hy
      . intro y hy hy'
        have hyx : y ≠ x := of_decide_eq_true (List.mem_filter.mp hy).2
        rcases hpc with hpc | hpc
        . rw [hpc] at hy'
          injection hy' with hy'
          exact hyx hy'.symm
        . rw [hpc] at hy'
          cases hy'
    refine hs.goto h rfl (fun hl => ?_) ?_ (fun _ _ => Or.inl) fun y hy => ?_
    . rw [hplain.2] at hl
      cases hl
    . exact fun y hy => (List.mem_filter.mp hy).1
    . rcases hpc with hpc | hpc
      . rw [hpc] at hy
        cases hy
      . rw [hpc] at hy
        cases hy

theorem Inv.advance : Inv w (advance w s t) := by
  unfold Workers.advance
  cases hpc : s.pc t with
  | idle => exact hs
  | insertTail x => exact hs.stepInsert hpc
  | setCancelRoutine x => exact hs.stepSetCancelRoutine hpc
  | testCancel x =>
    apply hs.stepTestCancel hpc
    split
    . exact Or.inl rfl
    . exact Or.inr rfl
  | resetCancelRoutine x => exact hs.stepResetCancelRoutine hpc
  | releaseLock x => exact hs.stepReleaseLock hpc
  | setEvent x => exact hs.stepSetEvent (by simp [hpc]) (by simp [hpc])
  | exchangeCancelRoutine x => exact hs.stepExchangeCancelRoutine hpc
  | tdiCancelIrp x => exact hs.stepRemove (Or.inl hpc) (Or.inl rfl)
  | closeAddress x => exact hs.stepRemove (Or.inr hpc) (Or.inr rfl)
  | wake => exact hs.stepSetEvent (by simp [hpc]) (by simp [hpc])

-- A thread that was doing nothing begins a call.
theorem Inv.call (hpc : s.pc t = .idle) {s' : State} {p : Pc} (hpc' : s'.pc = (s.goto t p).pc)
    (hp : p.inserted = none ∧ p.locked = false) (hplain : w.cancellable = false → p.cancels = false)
    (hsame : s'.queue = s.queue ∧ s'.lock = s.lock ∧ s'.event = s.event ∧ s'.worker = s.worker ∧
      s'.cancelRoutine = s.cancelRoutine)
    : Inv w s' := by
  obtain ⟨hqueue, hlock, hevent, hworker, hroutine⟩ := hsame
  have h : Advanced w s s' t p :=
    Advanced.of_same hpc' hworker hevent (by simp [hpc, Pc.inserted]) (by simp [hpc]) hplain
  refine hs.goto h hlock (by simp [hp.2]) (fun y hy => hqueue ▸ hy) ?_ (by simp [hpc])
  intro y _ hy
  exact Or.inl ((congrFun hroutine y).trans hy)

end Steps

/-! ### The steps of the worker -/

section Worker

variable {w : Worker} {s : State} (hs : Inv w s)
include hs

-- The worker goes where it is awake, or it goes on when nobody is left for it to look at.
theorem Inv.workerGoto {pc : WorkerPc} (hpc : ∀ rest, pc ≠ .walk rest) (b : Bool)
    (hcovered : ∀ x ∈ s.queue, s.Covered x → { s with worker := pc, event := b }.Covered x)
    : Inv w { s with worker := pc, event := b } := by
  refine ⟨hs.lockThread, ?_, ?_, hs.hooked, ?_, hs.plain⟩
  . exact fun rest h => absurd h (hpc rest)
  . exact fun rest h => absurd h (hpc rest)
  . exact fun x hx => hcovered x hx (hs.covered x hx)

theorem Inv.stepTestStop (hpc : s.worker = .testStop)
    : Inv w { s with worker := if s.stop then .terminated else .keWaitForSingleObject } := by
  have hasleep : ¬s.Awake := by simp [State.Awake, hpc]
  apply hs.workerGoto (b := s.event)
  . intro rest
    split
    . exact fun h => by cases h
    . exact fun h => by cases h
  . intro x _ hc
    rcases hc with hc | hc | hc | hc
    . exact Or.inl hc
    . exact Or.inr (Or.inl hc)
    . exact Or.inr (Or.inr (Or.inl hc))
    . exact absurd hc hasleep

theorem Inv.stepWait : Inv w (stepWait w s) := by
  unfold Workers.stepWait
  split
  . -- the event is cleared, but the worker is on its way to the queue
    apply hs.workerGoto (b := false)
    . intro rest
      split
      . exact fun h => by cases h
      . exact fun h => by cases h
    . intro x _ _
      apply State.Awake.covered
      simp only [State.Awake]
      split
      . exact Or.inr (Or.inl rfl)
      . exact Or.inl rfl
  . exact hs

theorem Inv.stepAcquireLock : Inv w (stepAcquireLock s) := by
  unfold Workers.stepAcquireLock
  split
  . exact hs
  . next hlock =>
    refine ⟨?_, ?_, ?_, hs.hooked, ?_, hs.plain⟩
    . intro t hl
      have := hs.lockThread t hl
      rw [hlock] at this
      cases this
    . exact fun _ _ => rfl
    . intro rest hwalk x hx
      injection hwalk with hwalk
      exact Or.inl (hwalk ▸ hx)
    . exact fun x _ => (State.awake_walk rfl).covered x

theorem Inv.stepWalk {rest : List Nat} (hpc : s.worker = .walk rest) : Inv w (stepWalk w s rest) := by
  have hlock := hs.lockWorker rest hpc
  have hno : ∀ t, ¬(s.pc t).locked = true := by
    intro t hl
    have := hs.lockThread t hl
    rw [hlock] at this
    cases this
  cases rest with
  | nil =>
    refine ⟨fun t hl => absurd hl (hno t), ?_, ?_, hs.hooked, ?_, hs.plain⟩
    . exact fun _ h => by cases h
    . exact fun _ h => by cases h
    . intro x hx
      rcases hs.walked [] hpc x hx with hmem | hc
      . cases hmem
      . exact Or.inr (Or.inl hc)
  | cons x rest =>
    rw [Workers.stepWalk]
    split
    . next hskip =>
      obtain ⟨hw, hroutine⟩ := (Bool.and_eq_true _ _).mp hskip
      refine ⟨hs.lockThread, fun _ _ => hlock, ?_, hs.hooked, ?_, hs.plain⟩
      . intro rest' hwalk y hy
        injection hwalk with hwalk
        subst hwalk
        rcases hs.walked (x :: rest) hpc y hy with hmem | hc
        . rcases List.mem_cons.mp hmem with rfl | hmem
          . -- the routine is gone although the lock is free: `IoCancelIrp` has taken it
            rcases hs.hooked hw y hy with hhook | ⟨t, ht⟩ | hc
            . rw [hhook] at hroutine
              cases hroutine
            . exact absurd (by rw [ht]; rfl) (hno t)
            . exact Or.inr hc
          . exact Or.inl hmem
        . exact Or.inr hc
      . exact fun y _ => (State.awake_walk rfl).covered y
    . have hqueue : ∀ y ∈ (s.removeEntryList x).queue, y ∈ s.queue ∧ y ≠ x := by
        intro y hy
        obtain ⟨hmem, hne⟩ := List.mem_filter.mp hy
        exact ⟨hmem, of_decide_eq_true hne⟩
      have hhooked : w.cancellable = true → ∀ y ∈ (s.removeEntryList x).queue,
          Function.update s.cancelRoutine x false y = true ∨ s.Hooking y ∨ s.Cancelling y := by
        intro hw y hy
        rw [Function.update_of_ne (hqueue y hy).2]
        exact hs.hooked hw y (hqueue y hy).1
      simp only
      split
      . refine ⟨fun t hl => absurd hl (hno t), ?_, ?_, hhooked, ?_, hs.plain⟩
        . exact fun _ h => by cases h
        . exact fun _ h => by cases h
        . exact fun y _ => (State.awake_work rfl).covered y
      . refine ⟨hs.lockThread, fun _ _ => hlock, ?_, hhooked, ?_, hs.plain⟩
        . intro rest' hwalk y hy
          injection hwalk with hwalk
          exact Or.inl (hwalk ▸ hy)
        . exact fun y _ => (State.awake_walk rfl).covered y

theorem Inv.advanceWorker : Inv w (advanceWorker w s) := by
  unfold Workers.advanceWorker
  cases hpc : s.worker with
  | testStop => exact hs.stepTestStop hpc
  | keWaitForSingleObject => exact hs.stepWait
  | acquireLock => exact hs.stepAcquireLock
  | walk rest => exact hs.stepWalk hpc
  | work x =>
    apply hs.workerGoto (b := s.event)
    . exact fun rest h => by cases h
    . exact fun y _ _ => State.Awake.covered (Or.inl rfl) y
  | terminated => exact hs

end Worker

theorem Inv.step {w : Worker} (s : State) (e : Event) (hs : Inv w s) (he : Allowed w s e)
    : Inv w (step w s e) := by
  cases e with
  | insert t => exact hs.call he rfl ⟨rfl, rfl⟩ (fun _ => rfl) ⟨rfl, rfl, rfl, rfl, rfl⟩
  | cancel t x =>
    refine hs.call he.1 rfl ⟨rfl, rfl⟩ (fun hw => ?_) ⟨rfl, rfl, rfl, rfl, rfl⟩
    rw [he.2] at hw
    cases hw
  | close t x => exact hs.call he.1 rfl ⟨rfl, rfl⟩ (fun _ => rfl) ⟨rfl, rfl, rfl, rfl, rfl⟩
  | stop t => exact hs.call he rfl ⟨rfl, rfl⟩ (fun _ => rfl) ⟨rfl, rfl, rfl, rfl, rfl⟩
  | advance t => exact hs.advance
  | advanceWorker => exact hs.advanceWorker

/--
In every run of one of the workers with its producers, whenever the worker waits for its event and the
event is not signalled, each entry of the queue was inserted by a call that has not yet executed its
`KeSetEvent`, or is an IRP that is being cancelled, which only `fwThread` has.
-/
theorem run_noLostWakeup {w : Worker} (hw : w ∈ [intermedThreadFunc, addrThread, fwThread])
    (cancel : Nat → Bool) {es : List Event} (hes : Run.Along (step w) (Allowed w) (init cancel) es)
    : let s := Run.run (step w) (init cancel) es
      s.worker = .keWaitForSingleObject → s.event = false →
        ∀ x ∈ s.queue, s.Unsignalled x ∨ w = fwThread ∧ s.Cancelling x := by
  intro s hwait hevent x hx
  have hs : Inv w s := Run.inv_run (fun s e hs he => hs.step s e he) (inv_init w cancel) hes
  rcases hs.covered x hx with hc | hc | hc | hc
  . exact Or.inl hc
  . obtain ⟨t, ht⟩ := hc
    have hcancels : (s.pc t).cancels = true := by
      rw [ht]
      rfl
    have hplain := fun hno : w.cancellable = false => hs.plain hno t
    rw [hcancels] at hplain
    simp only [List.mem_cons, List.not_mem_nil, or_false] at hw
    rcases hw with rfl | rfl | rfl
    . cases hplain rfl
    . cases hplain rfl
    . exact Or.inr ⟨rfl, t, ht⟩
  . rw [hevent] at hc
    cases hc
  . rw [State.Awake, hwait] at hc
    rcases hc with hc | hc | ⟨_, hc⟩ | ⟨_, hc⟩
    . cases hc
    . cases hc
    . cases hc
    . cases hc

-- `tdiPendIrp` on thread 1, from its call to just before its `KeSetEvent`, while `fwThread` waits.
def pendRun : List Event :=
  [.advanceWorker, .insert 1, .advance 1, .advance 1, .advance 1, .advance 1]

theorem pendRun_noLostWakeup
    : (Run.run (step fwThread) (init fun _ => false) pendRun).queue = [0] ∧
        ((Run.run (step fwThread) (init fun _ => false) pendRun).Unsignalled 0 ∨
          fwThread = fwThread ∧
            (Run.run (step fwThread) (init fun _ => false) pendRun).Cancelling 0) := by
  have hes : Run.Along (step fwThread) (Allowed fwThread) (init fun _ => false) pendRun :=
    ⟨trivial, rfl, trivial, trivial, trivial, trivial, trivial⟩
  exact ⟨rfl, run_noLostWakeup (by simp) (fun _ => false) hes rfl rfl 0 (by decide)⟩

end Ansfw.Workers
