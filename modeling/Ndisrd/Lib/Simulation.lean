import Mathlib.Data.List.Count
import Ndisrd.Lib.Run

/-!
This module contains machines with outputs: what a machine performs whose steps are given by a relation, and
that it performs what another machine does whose steps are given by a function.
-/

namespace Simulation

variable {σ τ ε ο : Type}

/-- A run with the outputs of its steps. -/
inductive Performed (performs : σ → ε → σ × ο → Prop) : σ → List ε → List ο → σ → Prop where
  | nil (s : σ) : Performed performs s [] [] s
  | cons {s s' : σ} {e : ε} {es : List ε} {o : σ × ο} {os : List ο} (h : performs s e o)
    (hrest : Performed performs o.1 es os s')
    : Performed performs s (e :: es) (o.2 :: os) s'

variable (step : τ → ε → τ × ο)

def next (t : τ) (e : ε) : τ := (step t e).1

def outputs (t : τ) : List ε → List ο
  | [] => []
  | e :: es => (step t e).2 :: outputs (step t e).1 es

/--
From states that belong together the first machine has one outcome, the one of the second.
-/
def Follows (performs : σ → ε → σ × ο → Prop) (R : σ → τ → Prop) (Allowed : τ → ε → Prop) : Prop :=
  ∀ s t e, R s t → Allowed t e →
    ∃ s', (∀ o, performs s e o ↔ o = (s', (step t e).2)) ∧ R s' (step t e).1

theorem performed_iff {performs : σ → ε → σ × ο → Prop} {R : σ → τ → Prop} {Allowed : τ → ε → Prop}
    (hfollows : Follows step performs R Allowed) {s : σ} {t : τ} {es : List ε} (hR : R s t)
    (hes : Run.Along (next step) Allowed t es)
    : ∃ s', (∀ os s'', Performed performs s es os s'' ↔ os = outputs step t es ∧ s'' = s') ∧
        R s' (Run.run (next step) t es) := by
  induction es generalizing s t with
  | nil =>
    refine ⟨s, ?_, hR⟩
    intro os s''
    constructor
    . rintro ⟨⟩
      exact ⟨rfl, rfl⟩
    . rintro ⟨rfl, rfl⟩
      exact .nil _
  | cons e es ih =>
    obtain ⟨s₁, hone, hR₁⟩ := hfollows s t e hR hes.1
    obtain ⟨s', hrest, hR'⟩ := ih hR₁ hes.2
    refine ⟨s', ?_, hR'⟩
    intro os s''
    constructor
    . rintro (⟨⟩ | ⟨h, hperformed⟩)
      obtain rfl := (hone _).mp h
      obtain ⟨rfl, rfl⟩ := (hrest _ _).mp hperformed
      exact ⟨rfl, rfl⟩
    . rintro ⟨rfl, rfl⟩
      exact .cons ((hone _).mpr rfl) ((hrest _ _).mpr ⟨rfl, rfl⟩)

section Balance

variable {α : Type} [BEq α] {step : τ → ε → τ × ο} {Inv : τ → Prop} {Allowed : τ → ε → Prop}

/--
What goes in with the events and what comes out of them balance with what is inside.
-/
theorem balance_run (taken : ε → List α) (given : ο → List α) (pending : τ → α → Nat)
    (hstep : ∀ t e, Inv t → Allowed t e → Inv (step t e).1)
    (hbalance : ∀ t e a, Inv t → Allowed t e →
      (taken e).count a + pending t a = (given (step t e).2).count a + pending (step t e).1 a)
    {t : τ} (ht : Inv t) {es : List ε} (hes : Run.Along (next step) Allowed t es) (a : α)
    : (es.flatMap taken).count a + pending t a =
        ((outputs step t es).flatMap given).count a + pending (Run.run (next step) t es) a := by
  induction es generalizing t with
  | nil => rfl
  | cons e es ih =>
    have hfirst := hbalance t e a ht hes.1
    have hrest := ih (hstep t e ht hes.1) hes.2
    rw [outputs, List.flatMap_cons, List.flatMap_cons, List.count_append, List.count_append]
    simp only [Run.run_cons, next] at hrest ⊢
    omega

end Balance

end Simulation
