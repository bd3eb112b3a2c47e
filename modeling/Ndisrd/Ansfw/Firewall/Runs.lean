import Ndisrd.Ansfw.Firewall.Progress

/-!
This module contains the runs of the pending requests: every IRP that is given to `tdiConnectionOk` is
finished at most once at any time, and exactly once when the threads have come to an end.
-/

namespace Ansfw.Firewall

structure AtMostOnce (s : State) (irp : Nat) : Prop where
  finished : (s.finished irp).length ≤ 1
  proper : ∀ f ∈ s.finished irp, Proper (s.given irp) f
  allocated : (s.allocated irp).length ≤ 1
  recycled : s.recycled irp <+: s.allocated irp

structure ExactlyOnce (s : State) (irp : Nat) : Prop where
  finished : ∃ f, s.finished irp = [f] ∧ Proper (s.given irp) f
  recycled : s.recycled irp = s.allocated irp ∧ (s.allocated irp).length ≤ 1

-- No thread gets on by itself, and no client has a request to come back to.
def Settled (s : State) : Prop := s.clones = [] ∧ ∀ t env, advance env s t = s

section Once

variable {s : State} {i : Nat} {p : Phase}

theorem IrpOk.atMostOnce (h : IrpOk s i p) : AtMostOnce s i := by
  have hfinished := h.finished
  have hrecords : (s.allocated i).length ≤ 1 ∧ s.recycled i <+: s.allocated i := by
    cases hr : p.record with
    | none =>
      obtain ⟨heq, hle⟩ := h.returned hr
      rw [heq]
      exact ⟨hle, List.prefix_refl _⟩
    | some r =>
      obtain ⟨hallocated, hrecycled⟩ := (h.record r hr).logs
      rw [hallocated, hrecycled]
      exact ⟨Nat.le_refl 1, List.nil_prefix⟩
  split at hfinished
  . obtain ⟨f, hf, hproper⟩ := hfinished
    refine ⟨?_, ?_, hrecords.1, hrecords.2⟩
    . rw [hf]
      exact Nat.le_refl 1
    . rw [hf]
      intro f' hf'
      rw [List.mem_singleton.mp hf']
      exact hproper
  . refine ⟨?_, ?_, hrecords.1, hrecords.2⟩
    . rw [hfinished]
      exact Nat.zero_le 1
    . rw [hfinished]
      exact fun f hf => absurd hf List.not_mem_nil

theorem IrpOk.exactlyOnce (h : IrpOk s i .finished) : ExactlyOnce s i := ⟨h.finished, h.returned rfl⟩

end Once

/-! ### The end -/

theorem goto_ne {s s₁ : State} {t : Nat} {pc pc' : Pc} (hpc : s.pc t = pc) (hne : pc' ≠ pc)
    : s₁.goto t pc' ≠ s := by
  intro heq
  apply hne
  rw [← hpc, ← heq, State.pc_goto]

theorem advance_ne {env : Env} {s : State} {t : Nat} (hidle : s.pc t ≠ .idle)
    (hlock : s.gPendingRequestListLock = none ∨ (s.pc t).locking = true)
    : advance env s t ≠ s := by
  unfold advance
  split
  next hpc => exact absurd hpc hidle
  next hpc =>
    unfold stepAllocate
    split <;> exact goto_ne hpc (by simp)
  next hpc =>
    rw [hpc] at hlock
    simp only [stepPend, hlock.resolve_right (fun hno => by cases hno)]
    exact goto_ne hpc (by simp)
  next hpc => exact goto_ne hpc (by simp)
  next hpc => split <;> exact goto_ne hpc (by simp)
  next hpc =>
    unfold stepResetCancelRoutine
    split <;> exact goto_ne hpc (by simp)
  next hpc =>
    unfold stepReleaseLock
    apply goto_ne hpc
    split <;> simp
  next hpc => exact goto_ne hpc (by simp)
  next hpc => exact goto_ne hpc (by simp)
  next hpc =>
    unfold stepExchangeCancelRoutine
    split <;> exact goto_ne hpc (by simp)
  next hpc =>
    rw [hpc] at hlock
    simp only [stepCancelIrp, hlock.resolve_right (fun hno => by cases hno)]
    exact goto_ne hpc (by simp)
  next hpc =>
    rw [hpc] at hlock
    simp only [stepAcquireLock, hlock.resolve_right (fun hno => by cases hno)]
    exact goto_ne hpc (by simp)
  next reqOn hpc =>
    cases reqOn with
    | nil => exact goto_ne hpc (by simp)
    | cons request reqOn =>
      rw [stepGetRequest]
      split
      . split <;> exact goto_ne hpc (by simp)
      . exact goto_ne hpc (by simp)
  next hpc =>
    unfold stepDispatch
    split <;> exact goto_ne hpc (by simp)
  next hpc =>
    unfold stepProcessRequest
    cases env.answer with
    | _ => exact goto_ne hpc (by simp)
  next hpc =>
    unfold stepInjectLoopbackRequest
    split <;> exact goto_ne hpc (by simp)
  next hpc => exact goto_ne hpc (by simp)
  next hpc => exact goto_ne hpc (by simp)
  next hpc =>
    simp only [stepFreeCloneRequest]
    split
    . exact goto_ne hpc (by simp)
    . apply goto_ne hpc
      split <;> simp
  next hpc =>
    unfold stepFreeLoopbackRequest
    split <;> exact goto_ne hpc (by simp)
  next hpc =>
    apply goto_ne hpc
    split <;> simp

section Settled

variable {s : State} {phase : Nat → Phase} (h : Inv s phase) (hsettled : Settled s)
include h hsettled

theorem Inv.settled_idle (t : Nat) : s.pc t = .idle := by
  let env : Env := ⟨true, true, true, .approve⟩
  have hfree : s.gPendingRequestListLock = none := by
    cases hlock : s.gPendingRequestListLock with
    | none => rfl
    | some t' =>
      -- The thread that has the lock never waits.
      have hlocking := (h.lock t').mpr hlock
      have hidle : s.pc t' ≠ .idle := by
        intro hpc
        rw [hpc] at hlocking
        cases hlocking
      exact absurd (hsettled.2 t' env) (advance_ne hidle (Or.inr hlocking))
  by_contra hidle
  exact advance_ne hidle (Or.inl hfree) (hsettled.2 t env)

theorem Inv.settled_event : s.gFwThreadEvent = false := by
  let env : Env := ⟨true, true, true, .approve⟩
  have hpc := h.settled_idle hsettled fwThread
  cases hevent : s.gFwThreadEvent with
  | false => rfl
  | true =>
    have hstuck := hsettled.2 fwThread env
    unfold Firewall.advance at hstuck
    rw [hpc] at hstuck
    simp only [hevent, and_self, if_true] at hstuck
    exact absurd hstuck (goto_ne hpc (by simp))

theorem Inv.settled_phase (i : Nat) : phase i = .ungiven ∨ phase i = .finished := by
  have hirp := h.irps i
  have hidle := h.settled_idle hsettled
  have howner : (phase i).owner = none := by
    cases ho : (phase i).owner with
    | none => rfl
    | some t =>
      have hpc := hirp.owner t ho
      rw [hidle t] at hpc
      cases hpc
  cases hp : phase i with
  | ungiven => exact Or.inl rfl
  | finished => exact Or.inr rfl
  | armed r =>
    exfalso
    rcases h.wake i r hp with hevent | hahead | ⟨t, hsignals⟩
    . rw [h.settled_event hsettled] at hevent
      cases hevent
    . rw [hidle fwThread] at hahead
      exact hahead
    . rw [hidle t] at hsignals
      cases hsignals
  | request r hs c =>
    exfalso
    rw [hp] at hirp
    have hreq := hirp.request r hs c rfl
    obtain rfl : hs = [] := by
      apply List.eq_nil_iff_forall_not_mem.mpr
      intro t ht
      have hholds := hreq.holds t ht
      rw [hidle t] at hholds
      exact hholds
    cases c with
    | clone =>
      have hparked := (hirp.record r rfl).parked.mpr rfl
      rw [hsettled.1] at hparked
      cases hparked
    | _ => exact absurd hreq.pos (Nat.lt_irrefl 0)
  | _ => rw [hp] at howner; cases howner

end Settled

/-! ### The runs -/

section Runs

variable (cancel : Nat → Bool) (record : Nat → TdiConnRequest) (references : Nat → Int)

theorem inv_init : Inv (init cancel record references) fun _ => .ungiven := by
  refine ⟨?_, ?_, ?_, ?_, ?_, ?_, ?_, ?_, ?_⟩
  . intro i
    refine ⟨iff_of_true rfl rfl, rfl, rfl, fun _ => ⟨rfl, Nat.zero_le 1⟩, fun _ => rfl, ?_, ?_, ?_⟩
    . exact fun _ hno => by cases hno
    . exact fun _ hno => by cases hno
    . exact fun _ _ _ hno => by cases hno
  . exact fun _ _ hno => by cases hno
  . exact fun _ _ _ hno => by cases hno
  . exact fun _ => iff_of_false (fun hno => by cases hno) (fun hno => by cases hno)
  . exact fun _ _ hno => by cases hno
  . exact ⟨List.nodup_nil, fun _ hno => by cases hno⟩
  . exact ⟨List.nodup_nil, fun _ hno => by cases hno⟩
  . exact ⟨List.nodup_nil, fun _ hno => by cases hno⟩
  . exact fun _ _ hno => by cases hno

theorem within_step {threads : Finset Nat} {s : State} (hs : Within threads s) (e : Event)
    (hInv : ∃ phase, Inv s phase)
    : ∃ threads', Within threads' (step s e) := by
  obtain ⟨phase, h⟩ := hInv
  have hcall : ∀ (s₁ : State) (t : Nat) (pc : Pc), s₁.pc = s.pc →
      Within (insert t threads) (s₁.goto t pc) := by
    intro s₁ t pc hsame
    refine ⟨Finset.mem_insert_of_mem hs.1, fun t' ht' => ?_⟩
    obtain ⟨hne, hno⟩ := not_or.mp (fun hor => ht' (Finset.mem_insert.mpr hor))
    rw [goto_others s₁ t pc t' hne, hsame]
    exact hs.2 t' hno
  cases e with
  | tdiConnectionOk t irp statusFail => exact ⟨_, hcall _ t _ rfl⟩
  | ioCancelIrp t irp => exact ⟨_, hcall _ t _ rfl⟩
  | resume t request inject => exact ⟨_, hcall _ t _ rfl⟩
  | advance t env =>
    rcases Classical.em (advance env s t = s) with hsame | hmoved
    . refine ⟨threads, ?_⟩
      rw [step, hsame]
      exact hs
    . refine ⟨insert t threads, Finset.mem_insert_of_mem hs.1, fun t' ht' => ?_⟩
      obtain ⟨hne, hno⟩ := not_or.mp (fun hor => ht' (Finset.mem_insert.mpr hor))
      rw [step, (h.nearer env hmoved).others t' hne]
      exact hs.2 t' hno

-- What every state of a run satisfies.
def Reached (s : State) : Prop := (∃ phase, Inv s phase) ∧ ∃ threads, Within threads s

theorem reached_step {s : State} {e : Event} (h : Reached s) (hallowed : Allowed s e)
    : Reached (step s e) := by
  obtain ⟨⟨phase, hInv⟩, ⟨threads, hwithin⟩⟩ := h
  exact ⟨hInv.step hallowed, within_step hwithin e ⟨phase, hInv⟩⟩

theorem reached_init : Reached (init cancel record references) := by
  refine ⟨⟨_, inv_init cancel record references⟩, {fwThread}, Finset.mem_singleton_self _, ?_⟩
  exact fun _ _ => rfl

theorem reached_run {es : List Event}
    (hes : Run.Along step Allowed (init cancel record references) es)
    : Reached (Run.run step (init cancel record references) es) :=
  Run.inv_run (fun _ _ => reached_step) (reached_init cancel record references) hes

/--
At any time of a run each IRP is finished at most once, and its record given back at most once. The
threads come to an end, and then every IRP is finished, and its record is back on the free list.
-/
theorem run_finishedOnce {es : List Event}
    (hes : Run.Along step Allowed (init cancel record references) es)
    : let s := Run.run step (init cancel record references) es
      (∀ irp, s.given irp ≠ none → AtMostOnce s irp) ∧ s.gFreeRequestList.Nodup ∧
        Acc Moved s ∧ (Settled s → ∀ irp, s.given irp ≠ none → ExactlyOnce s irp) := by
  intro s
  obtain ⟨⟨phase, h⟩, threads, hwithin⟩ := reached_run cancel record references hes
  refine ⟨?_, h.free.1, acc_moved ⟨phase, h⟩ hwithin, ?_⟩
  . exact fun irp _ => (h.irps irp).atMostOnce
  . intro hsettled irp hgiven
    have hirp := h.irps irp
    rcases h.settled_phase hsettled irp with hphase | hphase
    . exact absurd (hirp.given.mpr hphase) hgiven
    . rw [hphase] at hirp
      exact hirp.exactlyOnce

end Runs

theorem settled_of_idle {s : State} (hclones : s.clones = []) (hidle : ∀ t, s.pc t = .idle)
    (hevent : s.gFwThreadEvent = false)
    : Settled s := by
  refine ⟨hclones, fun t env => ?_⟩
  unfold advance
  rw [hidle t]
  apply if_neg
  rw [hevent]
  exact fun hno => by cases hno.2

-- Two IRPs are pended, the second is cancelled, and `fwThread` gets the first.
def approveAndCancel : List Event :=
  let env : Env := ⟨true, true, true, .approve⟩
  .tdiConnectionOk 1 7 .insufficientResources :: List.replicate 6 (.advance 1 env) ++
    .tdiConnectionOk 1 8 .insufficientResources :: List.replicate 6 (.advance 1 env) ++
    .ioCancelIrp 2 8 :: List.replicate 4 (.advance 2 env) ++
    List.replicate 14 (.advance fwThread env)

theorem run_finishedOnce_approveAndCancel
    : let s := Run.run step (init (fun _ => false) (fun _ => ⟨none, .success, 0⟩) fun _ => 0)
        approveAndCancel
      ExactlyOnce s 7 ∧ ExactlyOnce s 8 := by
  intro s
  have hes : Run.Along step Allowed
      (init (fun _ => false) (fun _ => ⟨none, .success, 0⟩) fun _ => 0) approveAndCancel := by
    simp only [approveAndCancel, List.replicate, List.cons_append, List.nil_append, Run.along_cons,
      Run.along_nil, Allowed, true_and, and_true]
    exact ⟨⟨rfl, by decide, rfl⟩, ⟨rfl, by decide, rfl⟩, ⟨rfl, by decide⟩⟩
  have hidle : ∀ t, s.pc t = .idle := by
    rintro (_ | _ | _ | t) <;> rfl
  have hdone := (run_finishedOnce _ _ _ hes).2.2.2 (settled_of_idle rfl hidle rfl)
  exact ⟨hdone 7 (fun hno => by cases hno), hdone 8 (fun hno => by cases hno)⟩

end Ansfw.Firewall
