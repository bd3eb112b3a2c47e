import Mathlib.Data.Set.Card
import Mathlib.Logic.Function.Basic

/-!
This module contains counters of how many threads are at places of some kind, of any number of threads:
what becomes of the number when one thread moves, and kinds of places where there is one thread at most.
-/

variable {ι κ : Type} {place : ι → κ} {p : κ → Prop} {n : Nat}

def Census (place : ι → κ) (p : κ → Prop) (n : Nat) : Prop := { i | p (place i) }.encard = n

namespace Census

theorem zero_iff : Census place p 0 ↔ ∀ i, ¬p (place i) := by
  rw [Census, Nat.cast_zero, Set.encard_eq_zero, Set.eq_empty_iff_forall_notMem]
  rfl

theorem pos (h : Census place p n) {i : ι} (hi : p (place i)) : 0 < n := by
  rcases Nat.eq_zero_or_pos n with rfl | hn
  . exact absurd hi (zero_iff.mp h i)
  . exact hn

theorem eq_zero (h : Census place p n) (hnone : ∀ i, ¬p (place i)) : n = 0 := by
  have hzero := zero_iff.mpr hnone
  rw [Census, h] at hzero
  exact Nat.cast_inj.mp hzero

section Move

variable [DecidableEq ι] {i : ι} {k : κ}

theorem stay (h : Census place p n) (hk : p k ↔ p (place i))
    : Census (Function.update place i k) p n := by
  have hset : { j | p (Function.update place i k j) } = { j | p (place j) } := by
    ext j
    by_cases hj : j = i
    . subst hj
      simp [hk]
    . simp [hj]
  rw [Census, hset]
  exact h

theorem enter (h : Census place p n) (hi : ¬p (place i)) (hk : p k)
    : Census (Function.update place i k) p (n + 1) := by
  have hset : { j | p (Function.update place i k j) } = insert i { j | p (place j) } := by
    ext j
    by_cases hj : j = i
    . subst hj
      simp [hk]
    . simp [hj]
  have hnew : i ∉ { j | p (place j) } := hi
  rw [Census, hset, Set.encard_insert_of_notMem hnew, h]
  rfl

theorem leave (h : Census place p (n + 1)) (hi : p (place i)) (hk : ¬p k)
    : Census (Function.update place i k) p n := by
  have hset : { j | p (Function.update place i k j) } = { j | p (place j) } \ {i} := by
    ext j
    by_cases hj : j = i
    . subst hj
      simp [hk]
    . simp [hj]
  have hcard := Set.encard_sdiff_singleton_add_one (s := { j | p (place j) }) hi
  rw [← hset, h, Nat.cast_add, Nat.cast_one] at hcard
  exact WithTop.add_right_cancel ENat.one_ne_top hcard

end Move

end Census

def Sole (place : ι → κ) (p : κ → Prop) : Prop := ∀ i j, p (place i) → p (place j) → i = j

namespace Sole

theorem of_forall_not (h : ∀ i, ¬p (place i)) : Sole place p := by
  intro i _ hi _
  exact absurd hi (h i)

theorem other (h : Sole place p) {i : ι} (hi : p (place i)) (j : ι) (hj : j ≠ i) : ¬p (place j) := by
  intro hpj
  exact hj (h j i hpj hi)

variable [DecidableEq ι] {i : ι} {k : κ}

theorem enter (h : ∀ j, j ≠ i → ¬p (place j)) : Sole (Function.update place i k) p := by
  intro a b ha hb
  by_cases hai : a = i
  . by_cases hbi : b = i
    . rw [hai, hbi]
    . rw [Function.update_of_ne hbi] at hb
      exact absurd hb (h b hbi)
  . rw [Function.update_of_ne hai] at ha
    exact absurd ha (h a hai)

theorem stay (h : Sole place p) (hk : p k → p (place i)) : Sole (Function.update place i k) p := by
  by_cases hpk : p k
  . exact enter (h.other (hk hpk))
  . intro a b ha hb
    have hai : a ≠ i := by
      rintro rfl
      rw [Function.update_self] at ha
      exact hpk ha
    have hbi : b ≠ i := by
      rintro rfl
      rw [Function.update_self] at hb
      exact hpk hb
    rw [Function.update_of_ne hai] at ha
    rw [Function.update_of_ne hbi] at hb
    exact h a b ha hb

end Sole
