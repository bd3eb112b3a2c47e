import Mathlib.Algebra.BigOperators.Group.List.Basic
import Mathlib.Data.Nat.ModEq

/-!
This module contains one's-complement arithmetic on words below a radix: addition with the carry brought
back in at the end, and how a sum kept in a wider accumulator is folded to the same word.
-/

namespace OnesComplement

-- The word of an accumulator with its upper part brought back in.
def fold (radix n : Nat) : Nat := n / radix + n % radix

def add (radix a b : Nat) : Nat := fold radix (a + b)

def sum (radix : Nat) (words : List Nat) : Nat := words.foldl (add radix) 0

/--
`r` is the word for `n`: there are two words for zero, and only zero itself has the first one.
-/
structure Represents (radix n r : Nat) : Prop where
  lt : r < radix
  modEq : r ≡ n [MOD radix - 1]
  zero : r = 0 ↔ n = 0

variable {radix : Nat}

theorem fold_modEq (hradix : 0 < radix) (n : Nat) : fold radix n ≡ n [MOD radix - 1] := by
  have hn : n = fold radix n + (radix - 1) * (n / radix) := by
    have hdiv := Nat.div_add_mod n radix
    have hmul : radix * (n / radix) = (radix - 1) * (n / radix) + n / radix := by
      rw [← Nat.succ_mul, Nat.succ_eq_add_one, Nat.sub_add_cancel hradix]
    unfold fold
    omega
  calc fold radix n
    _ ≡ fold radix n + (radix - 1) * (n / radix) [MOD radix - 1] :=
      (Nat.add_mul_mod_self_left (fold radix n) (radix - 1) (n / radix)).symm
    _ ≡ n [MOD radix - 1] := by rw [← hn]

theorem fold_eq_zero_iff (n : Nat) : fold radix n = 0 ↔ n = 0 := by
  unfold fold
  constructor
  . intro h
    obtain ⟨hdiv, hmod⟩ := Nat.add_eq_zero_iff.mp h
    rw [← Nat.div_add_mod n radix, hdiv, hmod, Nat.mul_zero]
  . rintro rfl
    simp

theorem fold_of_lt {n : Nat} (h : n < radix) : fold radix n = n := by
  rw [fold, Nat.div_eq_of_lt h, Nat.mod_eq_of_lt h, Nat.zero_add]

-- One fold is enough where only one carry has been lost.
theorem fold_lt_of_lt {n : Nat} (h : n < 2 * radix - 1) : fold radix n < radix := by
  by_cases hlt : n < radix
  . rw [fold_of_lt hlt]
    exact hlt
  . have hn : n = radix + (n - radix) := by omega
    have hdiv : n / radix = 1 := by
      rw [hn, Nat.add_div_left _ (by omega), Nat.div_eq_of_lt (by omega)]
    have hmod : n % radix = n - radix := by
      rw [hn, Nat.add_mod_left, Nat.mod_eq_of_lt (by omega)]
      omega
    rw [fold, hdiv, hmod]
    omega

theorem Represents.unique {n r r' : Nat} (h : Represents radix n r) (h' : Represents radix n r')
    : r = r' := by
  have hcongr : r ≡ r' [MOD radix - 1] := h.modEq.trans h'.modEq.symm
  have hzero : r = 0 ↔ r' = 0 := h.zero.trans h'.zero.symm
  have hlt := h.lt
  have hlt' := h'.lt
  by_cases hr : r = 0
  . rw [hr, hzero.mp hr]
  . have hr' : r' ≠ 0 := fun heq => hr (hzero.mpr heq)
    -- below the radix and not zero, so the same up to the modulus
    have hpred : r - 1 ≡ r' - 1 [MOD radix - 1] := by
      apply Nat.ModEq.add_right_cancel' 1
      rw [Nat.sub_add_cancel (by omega), Nat.sub_add_cancel (by omega)]
      exact hcongr
    have heq := hpred.eq_of_lt_of_lt (by omega) (by omega)
    omega

theorem represents_fold {n : Nat} (h : n < 2 * radix - 1) : Represents radix n (fold radix n) where
  lt := fold_lt_of_lt h
  modEq := fold_modEq (by omega) n
  zero := fold_eq_zero_iff n

/--
Two folds bring an accumulator of two words to one.
-/
theorem represents_fold_fold {n : Nat} (h : n < radix * radix)
    : Represents radix n (fold radix (fold radix n)) := by
  have hradix : 0 < radix := Nat.pos_of_ne_zero fun heq => by simp [heq] at h
  have hhigh : n / radix < radix := Nat.div_lt_of_lt_mul h
  have hlow : n % radix < radix := Nat.mod_lt n hradix
  have hfold := represents_fold (show fold radix n < 2 * radix - 1 by unfold fold; omega)
  exact {
    lt := hfold.lt
    modEq := hfold.modEq.trans (fold_modEq hradix n)
    zero := hfold.zero.trans (fold_eq_zero_iff n) }

theorem Represents.add {n a b : Nat} (h : Represents radix n a) (hb : b < radix)
    : Represents radix (n + b) (add radix a b) := by
  have hlt := h.lt
  have hadd := represents_fold (show a + b < 2 * radix - 1 by omega)
  have hzero := h.zero
  exact {
    lt := hadd.lt
    modEq := hadd.modEq.trans (h.modEq.add_right b)
    zero := hadd.zero.trans (by omega) }

theorem represents_sum (hradix : 0 < radix) {words : List Nat} (h : ∀ w ∈ words, w < radix)
    : Represents radix words.sum (sum radix words) := by
  have hfrom : ∀ n r, Represents radix n r →
      Represents radix (n + words.sum) (words.foldl (OnesComplement.add radix) r) := by
    induction words with
    | nil =>
      intro n r hr
      exact hr
    | cons w words ih =>
      obtain ⟨hw, hwords⟩ := List.forall_mem_cons.mp h
      intro n r hr
      rw [List.sum_cons, ← Nat.add_assoc]
      exact ih hwords _ _ (hr.add hw)
  have hzero : Represents radix 0 0 := ⟨hradix, Nat.ModEq.refl 0, Iff.rfl⟩
  have hsum := hfrom 0 0 hzero
  rw [Nat.zero_add] at hsum
  exact hsum

/--
A word and its complement add up to the second word for zero.
-/
theorem Represents.complement {n r : Nat} (h : Represents radix n r) (hradix : 1 < radix)
    : Represents radix (n + (radix - 1 - r)) (radix - 1) := by
  have hlt := h.lt
  have hzero := h.zero
  have hcongr : r + (radix - 1 - r) ≡ n + (radix - 1 - r) [MOD radix - 1] := h.modEq.add_right _
  rw [Nat.add_sub_cancel' (by omega)] at hcongr
  exact ⟨by omega, hcongr, by omega⟩

end OnesComplement
