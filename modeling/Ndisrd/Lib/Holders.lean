import Mathlib.Data.List.Nodup
import Mathlib.Tactic.Common

/-!
This module contains the holders of objects that are shared: how many an object has, and how that number
follows the holders who come and go.
-/

namespace Holders

variable {ι κ : Type} [DecidableEq ι]

def held (holders : List (ι × κ)) (i : ι) : Nat := holders.countP fun h => h.1 = i

@[simp]
theorem held_nil (i : ι) : held ([] : List (ι × κ)) i = 0 := rfl

@[simp]
theorem held_cons (i : ι) (k : κ) (holders : List (ι × κ)) (j : ι)
    : held ((i, k) :: holders) j = held holders j + if i = j then 1 else 0 := by
  simp [held, List.countP_cons]

theorem held_pos_iff (holders : List (ι × κ)) (i : ι)
    : 0 < held holders i ↔ ∃ k, (i, k) ∈ holders := by
  simp only [held, List.countP_pos_iff, decide_eq_true_eq]
  constructor
  . rintro ⟨⟨j, k⟩, hmem, rfl⟩
    exact ⟨k, hmem⟩
  . rintro ⟨k, hmem⟩
    exact ⟨(i, k), hmem, rfl⟩

theorem held_pos {holders : List (ι × κ)} {i : ι} {k : κ} (h : (i, k) ∈ holders)
    : 0 < held holders i := (held_pos_iff holders i).mpr ⟨k, h⟩

theorem held_eq_zero_iff (holders : List (ι × κ)) (i : ι)
    : held holders i = 0 ↔ ∀ k, (i, k) ∉ holders := by
  rw [← not_exists, ← held_pos_iff]
  omega

theorem held_erase [DecidableEq κ] {holders : List (ι × κ)} {i : ι} {k : κ} (h : (i, k) ∈ holders)
    (j : ι)
    : held (holders.erase (i, k)) j + (if i = j then 1 else 0) = held holders j := by
  have hperm := List.perm_cons_erase h
  have hcount : held holders j = held ((i, k) :: holders.erase (i, k)) j := hperm.countP_eq _
  rw [hcount, held_cons]

theorem count_move {xs : List ι} {i : ι} (h : i ∈ xs) (ys : List ι) (j : ι)
    : (xs.erase i).count j + (i :: ys).count j = xs.count j + ys.count j := by
  have hperm : xs.count j = (i :: xs.erase i).count j := (List.perm_cons_erase h).count_eq j
  rw [hperm, List.count_cons, List.count_cons]
  omega

end Holders
