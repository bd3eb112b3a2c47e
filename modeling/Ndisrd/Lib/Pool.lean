import Mathlib.Data.List.Nodup
import Mathlib.Algebra.BigOperators.Group.List.Basic
import Mathlib.Data.Set.Card
import Mathlib.Tactic.Common

/-!
This module contains pools of objects that have parts of a second pool attached to them and are freed with
these, and the account of the objects and parts that are in use.
-/

variable {κ : Type}

/--
`objects` are in use, each with the number of its parts. `fault` is up once something has been freed that
was not in use.
-/
structure Pool (κ : Type) where
  objects : List (κ × Nat)
  parts : Nat
  fault : Bool

namespace Pool

def empty : Pool κ := ⟨[], 0, false⟩

variable (pool : Pool κ) (k : κ)

def alloc : Pool κ := { pool with objects := (k, 0) :: pool.objects }

section Operations

variable [DecidableEq κ]

/-- Takes a part of the second pool and attaches it. -/
def attach : Pool κ :=
  { pool with
    objects := pool.objects.map fun object => if object.1 = k then (k, object.2 + 1) else object
    parts := pool.parts + 1 }

def free : Pool κ :=
  match pool.objects.find? fun object => object.1 = k with
  | none => { pool with fault := true }
  | some object =>
    { pool with
      objects := pool.objects.eraseP fun object => object.1 = k
      parts := pool.parts - object.2 }

end Operations

/--
What is in use is what is owned, each object by one owner, and nothing has been freed twice.
-/
structure Accounts (owned : List (κ × Nat)) : Prop where
  perm : pool.objects.Perm owned
  nodup : (owned.map Prod.fst).Nodup
  parts : pool.parts = (owned.map Prod.snd).sum
  fault : pool.fault = false

variable {pool k} {owned owned' : List (κ × Nat)} {n : Nat}

theorem accounts_empty : (empty : Pool κ).Accounts [] where
  perm := .nil
  nodup := List.nodup_nil
  parts := rfl
  fault := rfl

theorem mem_of_mem_free [DecidableEq κ] {object : κ × Nat} (h : object ∈ (pool.free k).objects)
    : object ∈ pool.objects := by
  rw [Pool.free] at h
  split at h
  . exact h
  . exact List.mem_of_mem_eraseP h

theorem keys_attach [DecidableEq κ] : (pool.attach k).objects.map Prod.fst = pool.objects.map Prod.fst := by
  rw [attach, List.map_map]
  apply List.map_congr_left
  intro object _
  dsimp only [Function.comp]
  split
  . next heq => exact heq.symm
  . rfl

namespace Accounts

theorem reorder (h : pool.Accounts owned) (hperm : owned.Perm owned') : pool.Accounts owned' where
  perm := h.perm.trans hperm
  nodup := (hperm.map Prod.fst).nodup_iff.mp h.nodup
  parts := h.parts.trans (hperm.map Prod.snd).sum_eq
  fault := h.fault

theorem alloc (h : pool.Accounts owned) (hk : k ∉ pool.objects.map Prod.fst)
    : (pool.alloc k).Accounts ((k, 0) :: owned) where
  perm := h.perm.cons (k, 0)
  nodup := by
    rw [List.map_cons, List.nodup_cons]
    refine ⟨?_, h.nodup⟩
    rwa [← (h.perm.map Prod.fst).mem_iff]
  parts := by
    rw [List.map_cons, List.sum_cons, Nat.zero_add]
    exact h.parts
  fault := h.fault

theorem not_mem_rest (h : pool.Accounts ((k, n) :: owned)) {object : κ × Nat} (hobject : object ∈ owned)
    : object.1 ≠ k := by
  have hnodup := h.nodup
  rw [List.map_cons, List.nodup_cons] at hnodup
  rintro rfl
  exact hnodup.1 (List.mem_map.mpr ⟨object, hobject, rfl⟩)

variable [DecidableEq κ]

theorem attach (h : pool.Accounts ((k, n) :: owned)) : (pool.attach k).Accounts ((k, n + 1) :: owned) where
  perm := by
    have hmap := h.perm.map fun object => if object.1 = k then (k, object.2 + 1) else object
    have hrest : (owned.map fun object => if object.1 = k then (k, object.2 + 1) else object) = owned := by
      rw [List.map_congr_left fun object hobject => if_neg (h.not_mem_rest hobject), List.map_id']
    rw [List.map_cons, if_pos rfl, hrest] at hmap
    exact hmap
  nodup := h.nodup
  parts := by
    have hparts := h.parts
    simp only [List.map_cons, List.sum_cons] at hparts ⊢
    simp only [Pool.attach]
    omega
  fault := h.fault

theorem find (h : pool.Accounts ((k, n) :: owned))
    : (pool.objects.find? fun object => object.1 = k) = some (k, n) := by
  have hmem : (k, n) ∈ pool.objects := h.perm.mem_iff.mpr List.mem_cons_self
  cases hfind : pool.objects.find? fun object => object.1 = k with
  | none =>
    rw [List.find?_eq_none] at hfind
    exact absurd (decide_eq_true rfl) (hfind (k, n) hmem)
  | some object =>
    have hobject : object.1 = k := by simpa using List.find?_some hfind
    have hin := h.perm.mem_iff.mp (List.mem_of_find?_eq_some hfind)
    rcases List.mem_cons.mp hin with rfl | hrest
    . rfl
    . exact absurd hobject (h.not_mem_rest hrest)

theorem free (h : pool.Accounts ((k, n) :: owned)) : (pool.free k).Accounts owned := by
  have hnodup := h.nodup
  rw [List.map_cons, List.nodup_cons] at hnodup
  have hpairwise : pool.objects.Pairwise fun a b =>
      decide (a.1 = k) = true → decide (b.1 = k) = true → False := by
    have hkeys : (pool.objects.map Prod.fst).Nodup := (h.perm.map Prod.fst).nodup_iff.mpr h.nodup
    apply (List.pairwise_map.mp hkeys).imp
    intro a b hne ha hb
    exact hne ((of_decide_eq_true ha).trans (of_decide_eq_true hb).symm)
  have hperm := h.perm.eraseP (fun object => object.1 = k) hpairwise
  rw [List.eraseP_cons_of_pos (by simp)] at hperm
  have hparts := h.parts
  rw [List.map_cons, List.sum_cons] at hparts
  simp only [Pool.free, h.find]
  refine ⟨hperm, hnodup.2, ?_, h.fault⟩
  rw [hparts]
  exact Nat.add_sub_cancel_left n _

end Accounts

end Pool
