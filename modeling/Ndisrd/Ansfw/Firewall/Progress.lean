import Mathlib.Algebra.Order.BigOperators.Group.Finset
import Ndisrd.Ansfw.Firewall.Quiet

/-!
This module contains the progress of the pending requests: the threads, left to themselves, come to an
end, and nothing is left undone then.
-/

namespace Ansfw.Firewall

open Finset

namespace Pc

-- The passes through the pending list that the thread still causes, and one more for each insertion.
def passes : Pc → Nat
  | idle => 0
  | tdiAllocateRequest _ _ => 3
  | tdiPendIrp _ _ => 3
  | acquireLock => 0
  | tdiGetRequest _ => 0
  | _ => 1

-- The steps to the end of the pass or of the call, for a pending list of the length `pending`.
def rank (pending : Nat) : Pc → Nat
  | idle => 0
  | tdiAllocateRequest _ _ => 30
  | tdiPendIrp _ _ => 29
  | acquireLock => pending + 20
  | tdiGetRequest reqOn => reqOn.length + 15
  | setCancelRoutine _ _ => 14
  | dispatch _ => 14
  | testCancel _ _ => 13
  | processRequest _ => 13
  | resetCancelRoutine _ _ => 12
  | exchangeCancelRoutine _ => 12
  | injectLoopbackRequest _ => 12
  | releaseLock _ _ => 11
  | tdiCancelIrp _ => 11
  | tdiChainIrp _ => 11
  | completeCancelled _ => 10
  | clearIrp _ => 10
  | setEvent => 9
  | fwFreeCloneRequest _ => 9
  | freeLoopbackRequest _ => 8
  | tdiRecycleRequest _ => 7

theorem rank_mono {pending pending' : Nat} (h : pending' ≤ pending) (pc : Pc)
    : pc.rank pending' ≤ pc.rank pending := by
  cases pc with
  | acquireLock => exact Nat.add_le_add_right h 20
  | _ => exact Nat.le_refl _

end Pc

-- What is left to do outside the threads: the event, and the records of the pending list.
def State.queued (s : State) : Nat := s.gPendingRequestList.length + s.gFwThreadEvent.toNat

/--
A step of the thread `t` gets nearer to the end.
-/
structure Nearer (t : Nat) (s s' : State) : Prop where
  others : ∀ t', t' ≠ t → s'.pc t' = s.pc t'
  less : (s'.pc t).passes + s'.queued < (s.pc t).passes + s.queued ∨
    (s'.pc t).passes + s'.queued ≤ (s.pc t).passes + s.queued ∧
    s'.gPendingRequestList.length ≤ s.gPendingRequestList.length ∧
    (s'.pc t).rank s.gPendingRequestList.length < (s.pc t).rank s.gPendingRequestList.length

section Advance

variable (env : Env) {s : State} {t : Nat}

theorem goto_others (s : State) (t : Nat) (pc : Pc)
    : ∀ t', t' ≠ t → (s.goto t pc).pc t' = s.pc t' := by
  intro t' ht'
  simp only [State.goto, Function.update_of_ne ht']

theorem nearer_goto {s₁ : State} {pc pc' : Pc} (hpc : s.pc t = pc)
    (hsame : s₁.pc = s.pc ∧ s₁.gPendingRequestList.length ≤ s.gPendingRequestList.length ∧
      s₁.gFwThreadEvent = s.gFwThreadEvent)
    (hless : pc'.passes ≤ pc.passes ∧
      pc'.rank s.gPendingRequestList.length < pc.rank s.gPendingRequestList.length)
    : Nearer t s (s₁.goto t pc') := by
  obtain ⟨hpcs, hpending, hevent⟩ := hsame
  refine ⟨?_, Or.inr ⟨?_, hpending, ?_⟩⟩
  . rw [← hpcs]
    exact goto_others s₁ t pc'
  . rw [State.pc_goto, hpc, State.queued, State.queued]
    apply Nat.add_le_add hless.1
    rw [show (s₁.goto t pc').gFwThreadEvent = s.gFwThreadEvent from hevent]
    exact Nat.add_le_add_right hpending _
  . rw [State.pc_goto, hpc]
    exact hless.2

theorem nearer_return {s₁ : State} {pc : Pc} (hpc : s.pc t = pc) (hsame : s₁.pc = s.pc)
    (hpending : s₁.gPendingRequestList = s.gPendingRequestList)
    (hevent : s₁.gFwThreadEvent = s.gFwThreadEvent) (hpasses : 0 < pc.passes)
    : Nearer t s (s₁.return_ t) := by
  have hqueued : (s₁.return_ t).queued = s.queued := by
    rw [State.queued, State.queued, ← hpending, ← hevent]
    rfl
  refine ⟨?_, Or.inl ?_⟩
  . rw [← hsame]
    exact goto_others s₁ t _
  . rw [hqueued, hpc, State.return_, State.pc_goto]
    apply Nat.add_lt_add_right
    split <;> exact hpasses

theorem nearer_pend {irp request : Nat} (hpc : s.pc t = .tdiPendIrp irp request)
    : Firewall.stepPend s t irp request = s ∨ Nearer t s (Firewall.stepPend s t irp request) := by
  unfold Firewall.stepPend
  split
  next => exact Or.inl rfl
  next =>
    refine Or.inr ⟨goto_others _ t _, Or.inl ?_⟩
    rw [hpc]
    simp [State.goto, State.queued, Pc.passes]
    omega

variable {phase : Nat → Phase} (h : Inv s phase)
include h

theorem Inv.nearer_get {reqOn : List Nat} (hpc : s.pc t = .tdiGetRequest reqOn)
    : Nearer t s (Firewall.stepGetRequest s t reqOn) := by
  cases reqOn with
  | nil =>
    rw [Firewall.stepGetRequest]
    exact nearer_goto hpc ⟨rfl, Nat.le_refl _, rfl⟩ (by simp [Pc.passes, Pc.rank])
  | cons request reqOn =>
    have hmem : request ∈ s.gPendingRequestList := (h.walk t _ hpc).subset List.mem_cons_self
    have hlength := List.length_erase_of_mem hmem
    have hpos := List.length_pos_of_mem hmem
    have hskip : Nearer t s (s.goto t (.tdiGetRequest reqOn)) := nearer_goto hpc ⟨rfl, Nat.le_refl _, rfl⟩ (by simp [Pc.passes, Pc.rank])
    rw [Firewall.stepGetRequest]
    split
    next =>
      split
      next =>
        refine ⟨goto_others _ t _, Or.inr ⟨?_, ?_, ?_⟩⟩
        . rw [hpc]
          simp [State.goto, State.queued, Pc.passes, State.ioSetCancelRoutine]
          omega
        . exact List.length_erase_le
        . rw [hpc]
          simp [State.goto, Pc.rank]
      next => exact hskip
    next => exact hskip

theorem Inv.nearer (hmoved : Firewall.advance env s t ≠ s)
    : Nearer t s (Firewall.advance env s t) := by
  unfold Firewall.advance at hmoved ⊢
  split at hmoved
  next hpc =>
    split at hmoved
    next hset =>
      rw [if_pos hset]
      refine ⟨goto_others _ t _, Or.inl ?_⟩
      rw [hpc]
      simp [State.goto, State.queued, Pc.passes, hset.2]
    next => exact absurd rfl hmoved
  next irp statusFail hpc =>
    unfold stepAllocate
    split
    next request s' halloc =>
      have hrest := (h.allocated halloc).rest
      rw [hrest]
      exact nearer_goto hpc ⟨rfl, Nat.le_refl _, rfl⟩ (by simp [Pc.passes, Pc.rank])
    next => exact nearer_goto hpc ⟨rfl, Nat.le_refl _, rfl⟩ (by simp [Pc.passes, Pc.rank])
  next irp request hpc => exact (nearer_pend hpc).resolve_left hmoved
  next irp request hpc => exact nearer_goto hpc ⟨rfl, Nat.le_refl _, rfl⟩ (by simp [Pc.passes, Pc.rank])
  next irp request hpc =>
    split
    . exact nearer_goto hpc ⟨rfl, Nat.le_refl _, rfl⟩ (by simp [Pc.passes, Pc.rank])
    . exact nearer_goto hpc ⟨rfl, Nat.le_refl _, rfl⟩ (by simp [Pc.passes, Pc.rank])
  next irp request hpc =>
    unfold stepResetCancelRoutine
    split
    next =>
      exact nearer_goto hpc ⟨rfl, List.length_erase_le, rfl⟩ (by simp [Pc.passes, Pc.rank])
    next => exact nearer_goto hpc ⟨rfl, Nat.le_refl _, rfl⟩ (by simp [Pc.passes, Pc.rank])
  next irp cancelled hpc =>
    unfold stepReleaseLock
    cases cancelled with
    | _ => exact nearer_goto hpc ⟨rfl, Nat.le_refl _, rfl⟩ (by simp [Pc.passes, Pc.rank])
  next irp hpc => exact nearer_goto hpc ⟨rfl, Nat.le_refl _, rfl⟩ (by simp [Pc.passes, Pc.rank])
  next hpc =>
    refine ⟨goto_others _ t _, Or.inr ⟨?_, Nat.le_refl _, ?_⟩⟩
    . rw [hpc]
      simp [State.goto, State.queued, Pc.passes]
      omega
    . rw [hpc]
      simp [Pc.rank]
  next irp hpc =>
    unfold stepExchangeCancelRoutine
    split
    next => exact nearer_goto hpc ⟨rfl, Nat.le_refl _, rfl⟩ (by simp [Pc.passes, Pc.rank])
    next => exact nearer_goto hpc ⟨rfl, Nat.le_refl _, rfl⟩ (by simp [Pc.passes, Pc.rank])
  next irp hpc =>
    obtain ⟨request, hphase⟩ : ∃ r, phase irp = .cancelling t r := h.at_pc hpc rfl
    unfold Firewall.stepCancelIrp at hmoved ⊢
    split at hmoved
    next => exact absurd rfl hmoved
    next hlock =>
      rw [h.cancelWalk_eq hphase]
      exact nearer_goto hpc ⟨rfl, List.length_erase_le, rfl⟩ (by simp [Pc.passes, Pc.rank])
  next hpc =>
    unfold stepAcquireLock at hmoved ⊢
    split at hmoved
    next => exact absurd rfl hmoved
    next => exact nearer_goto hpc ⟨rfl, Nat.le_refl _, rfl⟩ (by simp [Pc.passes, Pc.rank])
  next reqOn hpc => exact h.nearer_get hpc
  next request hpc =>
    unfold stepDispatch
    split
    next => exact nearer_goto hpc ⟨rfl, Nat.le_refl _, rfl⟩ (by simp [Pc.passes, Pc.rank])
    next =>
      unfold chainIrp
      split <;> exact nearer_goto hpc ⟨rfl, Nat.le_refl _, rfl⟩ (by simp [Pc.passes, Pc.rank])
  next request hpc =>
    unfold stepProcessRequest
    cases env.answer with
    | _ => exact nearer_goto hpc ⟨rfl, Nat.le_refl _, rfl⟩ (by simp [Pc.passes, Pc.rank])
  next request hpc =>
    unfold Firewall.stepInjectLoopbackRequest
    split <;> exact nearer_goto hpc ⟨rfl, Nat.le_refl _, rfl⟩ (by simp [Pc.passes, Pc.rank])
  next request hpc =>
    unfold chainIrp
    split <;> exact nearer_goto hpc ⟨rfl, Nat.le_refl _, rfl⟩ (by simp [Pc.passes, Pc.rank])
  next request hpc => exact nearer_goto hpc ⟨rfl, Nat.le_refl _, rfl⟩ (by simp [Pc.passes, Pc.rank])
  next request hpc =>
    simp only [stepFreeCloneRequest]
    split
    next => exact nearer_goto hpc ⟨rfl, Nat.le_refl _, rfl⟩ (by simp [Pc.passes, Pc.rank])
    next => exact nearer_return hpc rfl rfl rfl Nat.one_pos
  next request hpc =>
    unfold Firewall.stepFreeLoopbackRequest
    split <;> exact nearer_goto hpc ⟨rfl, Nat.le_refl _, rfl⟩ (by simp [Pc.passes, Pc.rank])
  next request hpc => exact nearer_return hpc rfl rfl rfl Nat.one_pos

end Advance

/-! ### To the end -/

-- A step of some thread that changes the state.
def Moved (s' s : State) : Prop := ∃ t env, s' = advance env s t ∧ s' ≠ s

-- The threads outside `threads` have no call to make.
def Within (threads : Finset Nat) (s : State) : Prop :=
  fwThread ∈ threads ∧ ∀ t, t ∉ threads → s.pc t = .idle

def State.passes (threads : Finset Nat) (s : State) : Nat :=
  ∑ t ∈ threads, (s.pc t).passes + s.queued

def State.rank (threads : Finset Nat) (s : State) : Nat :=
  ∑ t ∈ threads, (s.pc t).rank s.gPendingRequestList.length

section End

variable {s s' : State} {t : Nat} {threads : Finset Nat}

theorem sum_change (f f' : Nat → Nat) (hothers : ∀ t', t' ≠ t → f' t' = f t') (ht : t ∈ threads)
    : ∑ t' ∈ threads, f' t' + f t = ∑ t' ∈ threads, f t' + f' t := by
  have hrest : ∑ t' ∈ threads.erase t, f' t' = ∑ t' ∈ threads.erase t, f t' := by
    apply sum_congr rfl
    intro t' ht'
    exact hothers t' (ne_of_mem_erase ht')
  rw [← add_sum_erase threads f' ht, ← add_sum_erase threads f ht, hrest]
  omega

theorem Nearer.lt (hn : Nearer t s s') (ht : t ∈ threads)
    : s'.passes threads < s.passes threads ∨
        s'.passes threads ≤ s.passes threads ∧ s'.rank threads < s.rank threads := by
  have hpasses := sum_change (fun t => (s.pc t).passes) (fun t => (s'.pc t).passes)
    (fun t' ht' => congrArg Pc.passes (hn.others t' ht')) ht
  rcases hn.less with hless | ⟨hle, hpending, hless⟩
  . left
    unfold State.passes
    omega
  . right
    have hrank := sum_change (fun t => (s.pc t).rank s.gPendingRequestList.length)
      (fun t => (s'.pc t).rank s.gPendingRequestList.length)
      (fun t' ht' => congrArg (Pc.rank _) (hn.others t' ht')) ht
    have hmono : s'.rank threads ≤ ∑ t ∈ threads, (s'.pc t).rank s.gPendingRequestList.length :=
      sum_le_sum fun t _ => Pc.rank_mono hpending (s'.pc t)
    unfold State.passes
    unfold State.rank at hmono ⊢
    exact ⟨by omega, by omega⟩

theorem advance_idle {env : Env} (hmoved : advance env s t ≠ s)
    : s.pc t ≠ .idle ∨ t = fwThread := by
  by_cases hpc : s.pc t = .idle
  . right
    unfold advance at hmoved
    rw [hpc] at hmoved
    by_contra hno
    exact hmoved (if_neg fun hset => hno hset.1)
  . exact Or.inl hpc

theorem acc_moved (hInv : ∃ phase, Inv s phase) (hwithin : Within threads s) : Acc Moved s := by
  generalize hm : s.passes threads = m
  generalize hn : s.rank threads = n
  induction m using Nat.strong_induction_on generalizing s n with
  | _ m ihm =>
    induction n using Nat.strong_induction_on generalizing s with
    | _ n ihn =>
      constructor
      rintro s' ⟨t, env, rfl, hmoved⟩
      obtain ⟨phase, h⟩ := hInv
      have hnearer := h.nearer env hmoved
      have ht : t ∈ threads := by
        rcases advance_idle hmoved with hpc | rfl
        . by_contra hno
          exact hpc (hwithin.2 t hno)
        . exact hwithin.1
      have hwithin' : Within threads (advance env s t) := by
        refine ⟨hwithin.1, fun t' ht' => ?_⟩
        rw [hnearer.others t' (fun heq => ht' (heq ▸ ht))]
        exact hwithin.2 t' ht'
      rcases hnearer.lt ht with hlt | ⟨hle, hlt⟩
      . exact ihm _ (hm ▸ hlt) (h.advance env) hwithin' rfl _ rfl
      . rcases Nat.lt_or_eq_of_le hle with hlt' | heq
        . exact ihm _ (hm ▸ hlt') (h.advance env) hwithin' rfl _ rfl
        . exact ihn _ (hn ▸ hlt) (h.advance env) hwithin' (heq.trans hm) rfl

end End

end Ansfw.Firewall
