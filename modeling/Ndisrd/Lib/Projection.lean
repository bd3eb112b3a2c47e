import Ndisrd.Lib.Run

/-!
This module contains machines that serve several parties at once, and what one party sees of them: when
every step either concerns the party or leaves its view alone, a run looks to it like a run of its own
events.
-/

namespace Projection

open Run (run Along)

section View

variable {σ ε ι ν : Type} {step : σ → ε → σ} {Adm : σ → ε → Prop}
variable {mine : ε → Bool} {input : ε → ι} {view : σ → ν} {viewStep : ν → ι → ν}
variable (hmine : ∀ s e, Adm s e → mine e = true → view (step s e) = viewStep (view s) (input e))
variable (hother : ∀ s e, mine e = false → view (step s e) = view s)
include hmine hother

theorem view_run {s : σ} {es : List ε} (hes : Along step Adm s es)
    : view (run step s es) = run viewStep (view s) ((es.filter mine).map input) := by
  induction es generalizing s with
  | nil => rfl
  | cons e es ih =>
    rw [Run.run_cons, ih hes.2]
    cases he : mine e with
    | true =>
      rw [List.filter_cons_of_pos he, List.map_cons, Run.run_cons, hmine s e hes.1 he]
    | false => rw [List.filter_cons_of_neg (by simp [he]), hother s e he]

end View

inductive Interleaving {α : Type} : List α → List α → List α → Prop where
  | nil : Interleaving [] [] []
  | left {x xs ys zs} (h : Interleaving xs ys zs) : Interleaving (x :: xs) ys (x :: zs)
  | right {y xs ys zs} (h : Interleaving xs ys zs) : Interleaving xs (y :: ys) (y :: zs)

namespace Interleaving

variable {α : Type} {xs ys zs : List α}

theorem symm (h : Interleaving xs ys zs) : Interleaving ys xs zs := by
  induction h with
  | nil => exact .nil
  | left _ ih => exact ih.right
  | right _ ih => exact ih.left

theorem filter_left {p : α → Bool} (h : Interleaving xs ys zs) (hxs : ∀ x ∈ xs, p x = true)
    (hys : ∀ y ∈ ys, p y = false)
    : zs.filter p = xs := by
  induction h with
  | nil => rfl
  | left _ ih =>
    obtain ⟨hx, hxs⟩ := List.forall_mem_cons.mp hxs
    rw [List.filter_cons_of_pos hx, ih hxs hys]
  | right _ ih =>
    obtain ⟨hy, hys⟩ := List.forall_mem_cons.mp hys
    rw [List.filter_cons_of_neg (by simp [hy]), ih hxs hys]

end Interleaving

end Projection
