import Mathlib.Data.List.TakeDrop
import Mathlib.Data.List.TakeWhile

/-!
This module contains chains of callbacks: each is called in turn until one does not return the good
status. A call returns its status together with the record of what happened in it.
-/

namespace Chain

variable {ι σ ε : Type}

-- The entries behind `start`, all of them for no `start`.
def after [DecidableEq ι] (start : Option ι) (l : List ι) : List ι :=
  match start with
  | none => l
  | some i => (l.dropWhile (fun j => decide (j ≠ i))).tail

theorem after_some_append [DecidableEq ι] {xs : List ι} {i : ι} (h : i ∉ xs) (ys : List ι)
    : after (some i) (xs ++ i :: ys) = ys := by
  have hxs : ∀ x ∈ xs, decide (x ≠ i) = true := by
    intro x hx
    simpa using fun heq : x = i => h (heq ▸ hx)
  rw [after, List.dropWhile_append_of_pos hxs, List.dropWhile_cons_of_neg (by simp), List.tail_cons]

theorem not_mem_after_of_nodup [DecidableEq ι] {l : List ι} (h : l.Nodup) (i : ι)
    : i ∉ after (some i) l := by
  intro hmem
  have hdrop := List.mem_of_mem_tail hmem
  by_cases hi : i ∈ l
  . obtain ⟨xs, ys, heq⟩ := List.append_of_mem hi
    rw [heq, List.nodup_append] at h
    have hxs : i ∉ xs := fun hx => h.2.2 i hx i List.mem_cons_self rfl
    rw [heq, after_some_append hxs] at hmem
    exact (List.nodup_cons.mp h.2.1).1 hmem
  . exact hi ((List.dropWhile_sublist _).mem hdrop)

variable [DecidableEq σ]

/--
Calls the entries of the list in order, up to the first one that does not return `good`. Returns the
last status, which is `good` when there is nothing to call.
-/
def callWhile (good : σ) (call : ι → σ × List ε) : List ι → σ × List ε
  | [] => (good, [])
  | i :: is =>
    if (call i).1 = good then
      ((callWhile good call is).1, (call i).2 ++ (callWhile good call is).2)
    else
      call i

section CallWhile

variable (good : σ) (call : ι → σ × List ε)

@[simp]
theorem callWhile_nil : callWhile good call [] = (good, []) := rfl

theorem callWhile_cons_good {i : ι} (h : (call i).1 = good) (is : List ι)
    : callWhile good call (i :: is) =
        ((callWhile good call is).1, (call i).2 ++ (callWhile good call is).2) := if_pos h

theorem callWhile_cons_bad {i : ι} (h : (call i).1 ≠ good) (is : List ι)
    : callWhile good call (i :: is) = call i := if_neg h

theorem callWhile_good_iff (is : List ι)
    : (callWhile good call is).1 = good ↔ ∀ i ∈ is, (call i).1 = good := by
  induction is with
  | nil => simp
  | cons i is ih =>
    by_cases h : (call i).1 = good
    . rw [callWhile_cons_good good call h, List.forall_mem_cons]
      exact ⟨fun hrest => ⟨h, ih.mp hrest⟩, fun hall => ih.mpr hall.2⟩
    . rw [callWhile_cons_bad good call h, List.forall_mem_cons]
      exact ⟨fun hbad => absurd hbad h, fun hall => hall.1⟩

theorem callWhile_log_of_good {is : List ι} (h : ∀ i ∈ is, (call i).1 = good)
    : callWhile good call is = (good, is.flatMap fun i => (call i).2) := by
  induction is with
  | nil => rfl
  | cons i is ih =>
    obtain ⟨hi, his⟩ := List.forall_mem_cons.mp h
    rw [callWhile_cons_good good call hi, ih his]
    rfl

theorem callWhile_append (is js : List ι)
    : callWhile good call (is ++ js) =
        if (callWhile good call is).1 = good then
          ((callWhile good call js).1, (callWhile good call is).2 ++ (callWhile good call js).2)
        else
          callWhile good call is := by
  induction is with
  | nil => simp
  | cons i is ih =>
    by_cases h : (call i).1 = good
    . rw [List.cons_append, callWhile_cons_good good call h, callWhile_cons_good good call h, ih]
      split
      . rw [List.append_assoc]
      . rfl
    . rw [List.cons_append, callWhile_cons_bad good call h, callWhile_cons_bad good call h, if_neg h]

theorem callWhile_cases (is : List ι)
    : (∀ i ∈ is, (call i).1 = good) ∨
        ∃ xs i ys, is = xs ++ i :: ys ∧ (∀ x ∈ xs, (call x).1 = good) ∧ (call i).1 ≠ good ∧
          callWhile good call is = ((call i).1, (xs.flatMap fun x => (call x).2) ++ (call i).2) := by
  induction is with
  | nil => exact Or.inl (fun i hi => by cases hi)
  | cons i is ih =>
    by_cases h : (call i).1 = good
    . rcases ih with hall | ⟨xs, j, ys, heq, hxs, hj, hcall⟩
      . exact Or.inl (List.forall_mem_cons.mpr ⟨h, hall⟩)
      . refine Or.inr ⟨i :: xs, j, ys, ?_, List.forall_mem_cons.mpr ⟨h, hxs⟩, hj, ?_⟩
        . rw [heq]
          rfl
        . rw [callWhile_cons_good good call h, hcall, List.flatMap_cons, List.append_assoc]
    . refine Or.inr ⟨[], i, is, rfl, ?_, h, callWhile_cons_bad good call h is⟩
      intro x hx
      cases hx

theorem callWhile_log_forall {P : ε → Prop} {is : List ι} (h : ∀ i ∈ is, ∀ e ∈ (call i).2, P e)
    : ∀ e ∈ (callWhile good call is).2, P e := by
  induction is with
  | nil =>
    intro e he
    cases he
  | cons i is ih =>
    obtain ⟨hi, his⟩ := List.forall_mem_cons.mp h
    by_cases hgood : (call i).1 = good
    . rw [callWhile_cons_good good call hgood]
      exact List.forall_mem_append.mpr ⟨hi, ih his⟩
    . rw [callWhile_cons_bad good call hgood]
      exact hi

theorem callWhile_log_prefix (is : List ι)
    : ∃ xs, xs <+: is ∧ (callWhile good call is).2 = xs.flatMap fun i => (call i).2 := by
  induction is with
  | nil => exact ⟨[], List.prefix_refl _, rfl⟩
  | cons i is ih =>
    by_cases h : (call i).1 = good
    . obtain ⟨xs, hxs, hlog⟩ := ih
      refine ⟨i :: xs, List.cons_prefix_cons.mpr ⟨rfl, hxs⟩, ?_⟩
      rw [callWhile_cons_good good call h, hlog, List.flatMap_cons]
    . refine ⟨[i], List.cons_prefix_cons.mpr ⟨rfl, List.nil_prefix⟩, ?_⟩
      rw [callWhile_cons_bad good call h, List.flatMap_singleton]

theorem callWhile_congr {call' : ι → σ × List ε} {is : List ι} (h : ∀ i ∈ is, call i = call' i)
    : callWhile good call is = callWhile good call' is := by
  induction is with
  | nil => rfl
  | cons i is ih =>
    obtain ⟨hi, his⟩ := List.forall_mem_cons.mp h
    rw [callWhile, callWhile, hi, ih his]

end CallWhile

end Chain
