import Mathlib.Tactic.Common

/-!
This module contains loops as one turn that is taken again and again: what a loop ends with, and the rule
that shows with an invariant and a variant that it ends.
-/

namespace Loop

inductive Turn (σ ρ : Type) where
  | goOn (s : σ)
  | done (r : ρ)

variable {σ ρ : Type}

inductive Ends (turn : σ → Turn σ ρ) : σ → ρ → Prop where
  | done {s : σ} {r : ρ} (h : turn s = .done r) : Ends turn s r
  | goOn {s s' : σ} {r : ρ} (h : turn s = .goOn s') (hrest : Ends turn s' r) : Ends turn s r

variable {turn : σ → Turn σ ρ}

theorem ends_iff_of_done {s : σ} {r r' : ρ} (h : turn s = .done r') : Ends turn s r ↔ r = r' := by
  constructor
  . intro hends
    cases hends with
    | done hdone =>
      rw [h] at hdone
      injection hdone with hdone
      exact hdone.symm
    | goOn hgo =>
      rw [h] at hgo
      cases hgo
  . rintro rfl
    exact .done h

theorem ends_iff_of_goOn {s s' : σ} {r : ρ} (h : turn s = .goOn s')
    : Ends turn s r ↔ Ends turn s' r := by
  constructor
  . intro hends
    cases hends with
    | done hdone =>
      rw [h] at hdone
      cases hdone
    | goOn hgo hrest =>
      rw [h] at hgo
      injection hgo with hgo
      rw [hgo]
      exact hrest
  . exact .goOn h

theorem Ends.unique {s : σ} {r r' : ρ} (h : Ends turn s r) (h' : Ends turn s r') : r = r' := by
  induction h with
  | done hdone => exact ((ends_iff_of_done hdone).mp h').symm
  | goOn hgo _ ih => exact ih ((ends_iff_of_goOn hgo).mp h')

/--
Total correctness: the variant goes down with every turn that does not end the loop.
-/
theorem ends_of_variant {Inv : σ → Prop} {Post : ρ → Prop} (variant : σ → Nat)
    (hgo : ∀ s s', Inv s → turn s = .goOn s' → Inv s' ∧ variant s' < variant s)
    (hdone : ∀ s r, Inv s → turn s = .done r → Post r) {s : σ} (hs : Inv s)
    : ∃ r, Ends turn s r ∧ Post r := by
  induction hn : variant s using Nat.strongRecOn generalizing s with
  | ind n ih =>
    cases hturn : turn s with
    | done r => exact ⟨r, .done hturn, hdone s r hs hturn⟩
    | goOn s' =>
      obtain ⟨hs', hlt⟩ := hgo s s' hs hturn
      rw [hn] at hlt
      obtain ⟨r, hends, hpost⟩ := ih (variant s') hlt hs' rfl
      exact ⟨r, .goOn hturn hends, hpost⟩

end Loop
