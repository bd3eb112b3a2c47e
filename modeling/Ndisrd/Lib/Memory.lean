import Mathlib.Data.List.Basic
import Mathlib.Tactic.Common

/-!
This module contains a memory of cells, with lists of values that are stored in it and loaded from it.
-/

namespace Memory

variable {α : Type}

def store (mem : Nat → α) (start : Nat) (l : List α) : Nat → α := fun i =>
  if h : start ≤ i ∧ i < start + l.length then l[i - start] else mem i

def load (mem : Nat → α) (start len : Nat) : List α := (List.range len).map fun i => mem (start + i)

theorem store_inside {mem : Nat → α} {start i : Nat} {l : List α} (h : start ≤ i)
    (h' : i < start + l.length)
    : store mem start l i = l[i - start] := dif_pos ⟨h, h'⟩

theorem store_outside {mem : Nat → α} {start i : Nat} {l : List α}
    (h : i < start ∨ start + l.length ≤ i)
    : store mem start l i = mem i := dif_neg (by omega)

@[simp]
theorem store_nil (mem : Nat → α) (start : Nat) : store mem start [] = mem := by
  funext i
  apply store_outside
  rw [List.length_nil]
  omega

theorem store_append (mem : Nat → α) (start : Nat) (l l' : List α)
    : store (store mem start l) (start + l.length) l' = store mem start (l ++ l') := by
  funext i
  have hlen : (l ++ l').length = l.length + l'.length := List.length_append
  by_cases h : start ≤ i ∧ i < start + (l ++ l').length
  . obtain ⟨hlow, hhigh⟩ := h
    rw [store_inside hlow hhigh]
    by_cases hfirst : i < start + l.length
    . rw [store_outside (Or.inl hfirst), store_inside hlow hfirst, List.getElem_append_left]
    . rw [store_inside (by omega) (by omega), List.getElem_append_right (by omega)]
      congr 1
      omega
  . rw [store_outside (by omega), store_outside (by omega), store_outside (by omega)]

theorem store_append_zero (mem : Nat → α) (l l' : List α)
    : store (store mem 0 l) l.length l' = store mem 0 (l ++ l') := by
  rw [← store_append, Nat.zero_add]

@[simp]
theorem length_load (mem : Nat → α) (start len : Nat) : (load mem start len).length = len := by
  simp [load]

@[simp]
theorem getElem_load (mem : Nat → α) (start len i : Nat) (h : i < (load mem start len).length)
    : (load mem start len)[i] = mem (start + i) := by
  simp [load]

theorem load_add (mem : Nat → α) (start m n : Nat)
    : load mem start (m + n) = load mem start m ++ load mem (start + m) n := by
  simp [load, List.range_add, Nat.add_assoc]

theorem load_store (mem : Nat → α) (start : Nat) (l : List α)
    : load (store mem start l) start l.length = l := by
  apply List.ext_getElem
  . rw [length_load]
  . intro i hi hi'
    rw [getElem_load, store_inside (by omega) (by omega)]
    congr 1
    omega

end Memory
