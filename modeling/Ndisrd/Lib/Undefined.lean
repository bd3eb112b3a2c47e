import Mathlib.Data.List.Induction
import Ndisrd.Lib.Run

/-!
This module contains machines with steps that are not defined: where such a step leads is not up to the
machine, and a property of its runs has to hold wherever that is.
-/

namespace Undefined

open Run (run Along)

variable {σ ε : Type} (step : σ → ε → σ) (defined : σ → ε → Bool)

def stepOr (wild : σ → ε → σ) (s : σ) (e : ε) : σ := if defined s e then step s e else wild s e

variable {step defined}

theorem stepOr_of_defined {s : σ} {e : ε} (h : defined s e = true) (wild : σ → ε → σ)
    : stepOr step defined wild s e = step s e := if_pos h

theorem run_stepOr {s : σ} {es : List ε} (h : Along step (fun s e => defined s e = true) s es)
    (wild : σ → ε → σ)
    : run (stepOr step defined wild) s es = run step s es := by
  induction es generalizing s with
  | nil => rfl
  | cons e es ih =>
    rw [Run.run_cons, Run.run_cons, stepOr_of_defined h.1]
    exact ih h.2

variable {P : List ε → σ → Prop} {s : σ}

theorem along_of_forall_wild
    (hwild : ∀ es e, defined (run step s es) e = false → ∃ s', ¬P (es ++ [e]) s') {es : List ε}
    (h : ∀ wild es', es' <+: es → P es' (run (stepOr step defined wild) s es'))
    : Along step (fun s e => defined s e = true) s es := by
  induction es using List.reverseRecOn with
  | nil => trivial
  | append_singleton es e ih =>
    have hbefore : Along step (fun s e => defined s e = true) s es := by
      apply ih
      intro wild es' hes'
      exact h wild es' (hes'.trans (List.prefix_append es [e]))
    refine (Run.along_concat step _ s es e).mpr ⟨hbefore, ?_⟩
    by_contra hnot
    rw [Bool.not_eq_true] at hnot
    obtain ⟨s', hs'⟩ := hwild es e hnot
    have hlast := h (fun _ _ => s') (es ++ [e]) (List.prefix_refl _)
    rw [Run.run_concat, run_stepOr hbefore, stepOr, hnot] at hlast
    exact hs' hlast

/--
What holds in every run wherever the undefined steps lead is what holds in a run without any, provided that
one of them can lead to where it does not.
-/
theorem forall_wild_iff
    (hwild : ∀ es e, defined (run step s es) e = false → ∃ s', ¬P (es ++ [e]) s') (es : List ε)
    : (∀ wild es', es' <+: es → P es' (run (stepOr step defined wild) s es')) ↔
        (∀ es', es' <+: es → P es' (run step s es')) ∧
          Along step (fun s e => defined s e = true) s es := by
  constructor
  . intro h
    have hdefined := along_of_forall_wild hwild h
    refine ⟨?_, hdefined⟩
    intro es' hes'
    rw [← run_stepOr (hdefined.of_prefix hes') step]
    exact h step es' hes'
  . rintro ⟨h, hdefined⟩ wild es' hes'
    rw [run_stepOr (hdefined.of_prefix hes')]
    exact h es' hes'

end Undefined
