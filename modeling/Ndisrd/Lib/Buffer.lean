import Mathlib.Tactic.Common

/-!
This module contains two kinds of memory that are filled piece by piece: buffers that ranges are
copied into, and bitmaps of which ranges are set and tested.
-/

namespace Buffer

variable {α : Type}

def copy (dst : Nat → α) (start : Nat) (src : Nat → α) (offset len : Nat) : Nat → α := fun i =>
  if start ≤ i ∧ i < start + len then src (offset + (i - start)) else dst i

theorem copy_inside {dst src : Nat → α} {start offset len i : Nat} (h : start ≤ i)
    (h' : i < start + len)
    : copy dst start src offset len i = src (offset + (i - start)) := if_pos ⟨h, h'⟩

theorem copy_outside {dst src : Nat → α} {start offset len i : Nat} (h : i < start ∨ start + len ≤ i)
    : copy dst start src offset len i = dst i := if_neg (by omega)

end Buffer

structure Bitmap where
  size : Nat
  bits : Nat → Bool

namespace Bitmap

def setBits (b : Bitmap) (start len : Nat) : Bitmap :=
  { b with bits := fun i => b.bits i || (decide (start ≤ i) && decide (i < start + len)) }

-- No bits at all and a range that leaves the bitmap do not count as set.
def areBitsSet (b : Bitmap) (start len : Nat) : Bool :=
  decide (0 < len) && decide (start + len ≤ b.size) && (List.range len).all fun i => b.bits (start + i)

@[simp]
theorem size_setBits (b : Bitmap) (start len : Nat) : (b.setBits start len).size = b.size := rfl

theorem bits_setBits (b : Bitmap) (start len i : Nat)
    : (b.setBits start len).bits i = true ↔ b.bits i = true ∨ start ≤ i ∧ i < start + len := by
  simp [setBits]

theorem areBitsSet_iff (b : Bitmap) (start len : Nat)
    : b.areBitsSet start len = true ↔
        0 < len ∧ start + len ≤ b.size ∧ ∀ i < len, b.bits (start + i) = true := by
  simp [areBitsSet, and_assoc]

end Bitmap
