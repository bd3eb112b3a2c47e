import Mathlib.Data.List.Count
import Mathlib.Data.List.Nodup
import Mathlib.Data.Set.Insert
import Mathlib.Tactic.Common

/-!
This module contains traces of resources that are acquired and released, and a check that all of them
have been given back.
-/

namespace Acquisition

inductive Effect (ρ : Type) where
| acquire (resource : ρ)
| release (resource : ρ)
deriving DecidableEq

variable {ρ : Type}

def Effect.resource : Effect ρ → ρ
  | .acquire resource => resource
  | .release resource => resource

variable [DecidableEq ρ]

/--
Each resource is released as often as it is acquired, and at no time more often than it had been acquired.
-/
structure Settled (es : List (Effect ρ)) : Prop where
  released : ∀ r, es.count (.release r) = es.count (.acquire r)
  held : ∀ pre, pre <+: es → ∀ r, pre.count (.release r) ≤ pre.count (.acquire r)

/--
What is held at the end, if only what is held is ever released.
-/
def settle : List ρ → List (Effect ρ) → Option (List ρ)
  | held, [] => some held
  | held, .acquire r :: es => settle (r :: held) es
  | held, .release r :: es => if r ∈ held then settle (held.erase r) es else none

theorem settle_append (held : List ρ) (es es' : List (Effect ρ))
    : settle held (es ++ es') = (settle held es).bind fun held' => settle held' es' := by
  induction es generalizing held with
  | nil => rfl
  | cons e es ih =>
    cases e with
    | acquire r => exact ih (r :: held)
    | release r =>
      simp only [List.cons_append, settle]
      split
      . exact ih (held.erase r)
      . rfl

theorem count_settle {held held' : List ρ} {es : List (Effect ρ)} (h : settle held es = some held') (r : ρ)
    : held'.count r + es.count (.release r) = held.count r + es.count (.acquire r) := by
  induction es generalizing held with
  | nil =>
    simp only [settle, Option.some.injEq] at h
    simp [h]
  | cons e es ih =>
    cases e with
    | acquire r' =>
      have hrest := ih h
      by_cases hr : r' = r
      . subst hr
        simp at hrest ⊢
        omega
      . simpa [hr] using hrest
    | release r' =>
      simp only [settle] at h
      split at h
      . next hmem =>
        have hrest := ih h
        by_cases hr : r' = r
        . subst hr
          have hpos := List.count_pos_iff.mpr hmem
          simp at hrest ⊢
          omega
        . have hne : r ≠ r' := Ne.symm hr
          simpa [hr, hne] using hrest
      . cases h

theorem settled_of_settle {es : List (Effect ρ)} (h : settle [] es = some [])
    : Settled es where
  released := fun r => by simpa using count_settle h r
  held := by
    intro pre hpre r
    obtain ⟨post, rfl⟩ := hpre
    rw [settle_append, Option.bind_eq_some_iff] at h
    obtain ⟨held, hheld, -⟩ := h
    have hcount := count_settle hheld r
    simp only [List.count_nil] at hcount
    omega

/--
A resource that is only acquired, or only released, once.
-/
theorem not_settled_of_once {es : List (Effect ρ)} (f : Effect ρ)
    (h : ∀ e : Effect ρ, e.resource = f.resource → es.count e = if f = e then 1 else 0)
    : ¬Settled es := by
  intro hsettled
  have hreleased := hsettled.released f.resource
  rw [h (.release f.resource) rfl, h (.acquire f.resource) rfl] at hreleased
  cases f <;> simp [Effect.resource] at hreleased

/--
Only what is held is released, nothing is acquired that is held already, and the resources of `S` are held
at the end.
-/
def Holding (es : List (Effect ρ)) (S : Set ρ) : Prop :=
  ∃ held, settle [] es = some held ∧ held.Nodup ∧ ∀ r, r ∈ held ↔ r ∈ S

namespace Holding

variable {es es' : List (Effect ρ)} {S S' : Set ρ}

theorem nil : Holding ([] : List (Effect ρ)) ∅ := ⟨[], rfl, List.nodup_nil, by simp⟩

theorem congr (h : Holding es S) (hS : ∀ r, r ∈ S' ↔ r ∈ S) : Holding es S' := by
  obtain ⟨held, hsettle, hnodup, hmem⟩ := h
  exact ⟨held, hsettle, hnodup, fun r => (hmem r).trans (hS r).symm⟩

theorem acquire (h : Holding es S) {r : ρ} (hr : r ∉ S) : Holding (es ++ [.acquire r]) (insert r S) := by
  obtain ⟨held, hsettle, hnodup, hmem⟩ := h
  refine ⟨r :: held, ?_, List.nodup_cons.mpr ⟨mt (hmem r).mp hr, hnodup⟩, ?_⟩
  . rw [settle_append, hsettle]
    rfl
  . intro r'
    rw [List.mem_cons, hmem, Set.mem_insert_iff]

theorem release (h : Holding es S) {r : ρ} (hr : r ∈ S) : Holding (es ++ [.release r]) (S \ {r}) := by
  obtain ⟨held, hsettle, hnodup, hmem⟩ := h
  refine ⟨held.erase r, ?_, hnodup.erase r, ?_⟩
  . rw [settle_append, hsettle]
    exact if_pos ((hmem r).mpr hr)
  . intro r'
    rw [hnodup.mem_erase_iff, hmem, Set.mem_sdiff, Set.mem_singleton_iff, and_comm]

theorem settled (h : Holding es ∅) : Settled es := by
  obtain ⟨held, hsettle, -, hmem⟩ := h
  have hheld : held = [] := List.eq_nil_iff_forall_not_mem.mpr fun r hr => (hmem r).mp hr
  rw [hheld] at hsettle
  exact settled_of_settle hsettle

theorem settled_iff (h : Holding es S) : Settled es ↔ ∀ r, r ∉ S := by
  constructor
  . intro hsettled r hr
    obtain ⟨held, hsettle, -, hmem⟩ := h
    have hcount := count_settle hsettle r
    have hpos := List.count_pos_iff.mpr ((hmem r).mpr hr)
    rw [hsettled.released r, List.count_nil] at hcount
    omega
  . intro hS
    have hempty : Holding es ∅ := h.congr fun r => iff_of_false (Set.notMem_empty r) (hS r)
    exact hempty.settled

end Holding

/--
What the effects make of the resources that are held.
-/
def Exchange (S : Set ρ) : List (Effect ρ) → Set ρ → Prop
  | [], S' => ∀ r, r ∈ S' ↔ r ∈ S
  | .acquire r :: es, S' => r ∉ S ∧ Exchange (insert r S) es S'
  | .release r :: es, S' => r ∈ S ∧ Exchange (S \ {r}) es S'

theorem Holding.append {es es' : List (Effect ρ)} {S S' : Set ρ} (h : Holding es S)
    (hes : Exchange S es' S') : Holding (es ++ es') S' := by
  induction es' generalizing es S with
  | nil =>
    rw [List.append_nil]
    exact h.congr hes
  | cons e es' ih =>
    rw [← List.singleton_append, ← List.append_assoc]
    cases e with
    | acquire r => exact ih (h.acquire hes.1) hes.2
    | release r => exact ih (h.release hes.1) hes.2

end Acquisition
