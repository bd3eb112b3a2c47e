import Mathlib.Tactic.Common

/-!
This module contains computations that read a byte buffer and log the offsets they read. The value
of such a computation is total, so it says what the code goes on to do with whatever it read; the log
says whether all of it was inside the buffer.
-/

/--
A value together with the offsets that were read to compute it, in the order of the reads.
-/
structure Logged (α : Type) where
  val : α
  reads : List Nat

namespace Logged

instance : Monad Logged where
  pure a := ⟨a, []⟩
  bind m f := ⟨(f m.val).val, m.reads ++ (f m.val).reads⟩

def Within (n : Nat) (m : Logged α) : Prop := ∀ i ∈ m.reads, i < n

instance (n : Nat) (m : Logged α) : Decidable (m.Within n) :=
  inferInstanceAs (Decidable (∀ i ∈ m.reads, i < n))

@[simp]
theorem pure_val (a : α) : (pure a : Logged α).val = a := rfl

@[simp]
theorem pure_reads (a : α) : (pure a : Logged α).reads = [] := rfl

@[simp]
theorem bind_val (m : Logged α) (f : α → Logged β) : (m >>= f).val = (f m.val).val := by
  cases m
  rfl

@[simp]
theorem bind_reads (m : Logged α) (f : α → Logged β)
    : (m >>= f).reads = m.reads ++ (f m.val).reads := rfl

@[simp]
theorem ite_val (c : Prop) [Decidable c] (a b : Logged α)
    : (if c then a else b).val = if c then a.val else b.val := by
  split
  . rfl
  . rfl

@[simp]
theorem within_pure (n : Nat) (a : α) : (pure a : Logged α).Within n := by
  simp [Within]

@[simp]
theorem within_bind (n : Nat) (m : Logged α) (f : α → Logged β)
    : (m >>= f).Within n ↔ m.Within n ∧ (f m.val).Within n := by
  simp only [Within, bind_reads, List.mem_append]
  constructor
  . intro h
    exact ⟨fun i hi => h i (Or.inl hi), fun i hi => h i (Or.inr hi)⟩
  . intro ⟨h1, h2⟩ i hi
    cases hi with
    | inl hi => exact h1 i hi
    | inr hi => exact h2 i hi

@[simp]
theorem within_ite (n : Nat) (c : Prop) [Decidable c] (a b : Logged α)
    : (if c then a else b).Within n ↔ (c → a.Within n) ∧ (¬c → b.Within n) := by
  split
  . next h => simp [h]
  . next h => simp [h]

end Logged
