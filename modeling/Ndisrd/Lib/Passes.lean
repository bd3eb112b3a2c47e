import Mathlib.Data.List.Basic
import Mathlib.Tactic.Common

/-!
This module contains lookups that walk a list several times, each time with another test, and answer
with the first entry that passes.
-/

namespace Passes

variable {α : Type}

def lookup (passes : List (α → Bool)) (l : List α) : Option α :=
  match passes with
  | [] => none
  | p :: ps =>
    match l.find? p with
    | some x => some x
    | none => lookup ps l

-- The number of the first pass that `x` passes, the number of passes if there is none.
def rank (passes : List (α → Bool)) (x : α) : Nat :=
  match passes with
  | [] => 0
  | p :: ps => if p x then 0 else rank ps x + 1

/--
`x` has the lowest rank of the list, and it is the first entry of that rank.
-/
def Best (passes : List (α → Bool)) (l : List α) (x : α) : Prop :=
  ∃ as bs, l = as ++ x :: bs ∧ rank passes x < passes.length ∧
    (∀ a ∈ as, rank passes x < rank passes a) ∧ (∀ b ∈ bs, rank passes x ≤ rank passes b)

theorem rank_cons_pos {p : α → Bool} {x : α} (h : p x = true) (ps : List (α → Bool))
    : rank (p :: ps) x = 0 := if_pos h

theorem rank_cons_neg {p : α → Bool} {x : α} (h : ¬p x = true) (ps : List (α → Bool))
    : rank (p :: ps) x = rank ps x + 1 := if_neg h

theorem rank_le_length (passes : List (α → Bool)) (x : α) : rank passes x ≤ passes.length := by
  induction passes with
  | nil => exact Nat.le_refl 0
  | cons p ps ih =>
    unfold rank
    rw [List.length_cons]
    split
    . omega
    . omega

theorem rank_eq_length {passes : List (α → Bool)} {x : α} (h : ∀ p ∈ passes, ¬p x = true)
    : rank passes x = passes.length := by
  induction passes with
  | nil => rfl
  | cons p ps ih =>
    obtain ⟨hp, hps⟩ := List.forall_mem_cons.mp h
    rw [rank_cons_neg hp, ih hps, List.length_cons]

theorem lookup_cons_of_find {p : α → Bool} {l : List α} {x : α} (h : l.find? p = some x)
    (ps : List (α → Bool))
    : lookup (p :: ps) l = some x := by
  rw [lookup, h]

theorem lookup_cons_of_forall {p : α → Bool} {l : List α} (h : ∀ x ∈ l, ¬p x = true)
    (ps : List (α → Bool))
    : lookup (p :: ps) l = lookup ps l := by
  rw [lookup, List.find?_eq_none.mpr h]

theorem find_cases (p : α → Bool) (l : List α)
    : (∀ x ∈ l, ¬p x = true) ∨
        ∃ x as bs, l = as ++ x :: bs ∧ p x = true ∧ (∀ a ∈ as, ¬p a = true) ∧ l.find? p = some x := by
  cases h : l.find? p with
  | none => exact Or.inl (List.find?_eq_none.mp h)
  | some x =>
    obtain ⟨hx, as, bs, heq, has⟩ := List.find?_eq_some_iff_append.mp h
    exact Or.inr ⟨x, as, bs, heq, hx, fun a ha => by simpa using has a ha, rfl⟩

theorem find_append_cons {p : α → Bool} {as : List α} {x : α} (has : ∀ a ∈ as, ¬p a = true)
    (hx : p x = true) (bs : List α)
    : (as ++ x :: bs).find? p = some x := by
  rw [List.find?_append, List.find?_eq_none.mpr has, Option.none_or, List.find?_cons_of_pos hx]

/-! ### What a lookup answers -/

theorem best_of_lookup {passes : List (α → Bool)} {l : List α} {x : α}
    (h : lookup passes l = some x)
    : Best passes l x := by
  induction passes with
  | nil => cases h
  | cons p ps ih =>
    rcases find_cases p l with hnone | ⟨y, as, bs, heq, hy, has, hfind⟩
    . rw [lookup_cons_of_forall hnone] at h
      obtain ⟨as, bs, heq, hlt, has, hbs⟩ := ih h
      have hl : ∀ y ∈ l, rank (p :: ps) y = rank ps y + 1 := fun y hy => rank_cons_neg (hnone y hy) ps
      rw [heq, List.forall_mem_append, List.forall_mem_cons] at hl
      obtain ⟨hlas, hlx, hlbs⟩ := hl
      refine ⟨as, bs, heq, ?_, ?_, ?_⟩
      . rw [hlx, List.length_cons]
        omega
      . intro a ha
        have := has a ha
        rw [hlx, hlas a ha]
        omega
      . intro b hb
        have := hbs b hb
        rw [hlx, hlbs b hb]
        omega
    . rw [lookup_cons_of_find hfind] at h
      cases h
      refine ⟨as, bs, heq, ?_, ?_, ?_⟩
      . rw [rank_cons_pos hy, List.length_cons]
        omega
      . intro a ha
        rw [rank_cons_pos hy, rank_cons_neg (has a ha)]
        omega
      . intro b _
        rw [rank_cons_pos hy]
        omega

theorem lookup_of_best {passes : List (α → Bool)} {l : List α} {x : α} (h : Best passes l x)
    : lookup passes l = some x := by
  obtain ⟨as, bs, heq, hlt, has, hbs⟩ := h
  subst heq
  induction passes with
  | nil => exact absurd hlt (by simp [rank])
  | cons p ps ih =>
    by_cases hx : p x = true
    . have hnone : ∀ a ∈ as, ¬p a = true := by
        intro a ha hp
        have := has a ha
        rw [rank_cons_pos hp] at this
        omega
      exact lookup_cons_of_find (find_append_cons hnone hx bs) ps
    . rw [rank_cons_neg hx] at hlt has hbs
      -- an entry that passed here would rank below `x`
      have hfail : ∀ y ∈ as ++ x :: bs, ¬p y = true := by
        intro y hy hp
        have hzero := rank_cons_pos hp ps
        rcases List.mem_append.mp hy with hy | hy
        . have := has y hy
          omega
        . rcases List.mem_cons.mp hy with rfl | hy
          . exact hx hp
          . have := hbs y hy
            omega
      have hrank : ∀ y ∈ as ++ x :: bs, rank (p :: ps) y = rank ps y + 1 :=
        fun y hy => rank_cons_neg (hfail y hy) ps
      rw [lookup_cons_of_forall hfail]
      apply ih
      . simpa using hlt
      . intro a ha
        have := has a ha
        rw [hrank a (List.mem_append_left _ ha)] at this
        omega
      . intro b hb
        have := hbs b hb
        rw [hrank b (List.mem_append_right _ (List.mem_cons_of_mem _ hb))] at this
        omega

/-! ### Lookups before and after a change of the list -/

theorem lookup_skip {passes : List (α → Bool)} {b : α} (h : ∀ p ∈ passes, ¬p b = true)
    (as bs : List α)
    : lookup passes (as ++ b :: bs) = lookup passes (as ++ bs) := by
  induction passes with
  | nil => rfl
  | cons p ps ih =>
    obtain ⟨hp, hps⟩ := List.forall_mem_cons.mp h
    have hfind : (as ++ b :: bs).find? p = (as ++ bs).find? p := by
      rw [List.find?_append, List.find?_append, List.find?_cons_of_neg hp]
    rw [lookup, lookup, hfind, ih hps]

theorem lookup_insert {passes : List (α → Bool)} {P : α → Prop} {as bs : List α} {x : α}
    (h : lookup passes (as ++ bs) = some x) (hx : P x) {b : α} (hb : P b)
    : ∃ y, lookup passes (as ++ b :: bs) = some y ∧ P y := by
  induction passes with
  | nil => cases h
  | cons p ps ih =>
    rw [lookup, List.find?_append] at h ⊢
    cases has : as.find? p with
    | some a =>
      rw [has] at h
      exact ⟨a, rfl, by cases h; exact hx⟩
    | none =>
      rw [has] at h
      by_cases hp : p b = true
      . rw [List.find?_cons_of_pos hp]
        exact ⟨b, rfl, hb⟩
      . rw [List.find?_cons_of_neg hp]
        cases hbs : bs.find? p with
        | some c =>
          rw [hbs] at h
          exact ⟨c, rfl, by cases h; exact hx⟩
        | none =>
          rw [hbs] at h
          exact ih h

/--
Replacing an entry keeps an answer good when the new entry is good and passes no later than the old one.
-/
theorem lookup_replace {passes : List (α → Bool)} {P : α → Prop} {as bs : List α} {b b' x : α}
    (h : lookup passes (as ++ b :: bs) = some x) (hx : P x) (hb' : P b')
    (hrank : rank passes b' ≤ rank passes b)
    : ∃ y, lookup passes (as ++ b' :: bs) = some y ∧ P y := by
  induction passes with
  | nil => cases h
  | cons p ps ih =>
    rw [lookup, List.find?_append] at h ⊢
    cases has : as.find? p with
    | some a =>
      rw [has] at h
      exact ⟨a, rfl, by cases h; exact hx⟩
    | none =>
      rw [has] at h
      by_cases hp' : p b' = true
      . rw [List.find?_cons_of_pos hp']
        exact ⟨b', rfl, hb'⟩
      . have hp : ¬p b = true := by
          intro hp
          rw [rank_cons_neg hp', rank_cons_pos hp] at hrank
          omega
        rw [rank_cons_neg hp', rank_cons_neg hp] at hrank
        rw [List.find?_cons_of_neg hp] at h
        rw [List.find?_cons_of_neg hp']
        cases hbs : bs.find? p with
        | some c =>
          rw [hbs] at h
          exact ⟨c, rfl, by cases h; exact hx⟩
        | none =>
          rw [hbs] at h
          exact ih h (by omega)

end Passes
