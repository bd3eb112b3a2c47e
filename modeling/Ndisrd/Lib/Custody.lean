import Ndisrd.Lib.ListEntry

/-!
This module contains the custody of entries: each one is on a list, or in the hand of a holder, or loose,
and how it goes from one to the other.
-/

namespace ListEntry

variable {ι α κ : Type} {l : Links ι α} {lists : ι → List α} {held : κ → Option α} {known : α → Prop}

structure Custody (l : Links ι α) (lists : ι → List α) (held : κ → Option α) (known : α → Prop)
    : Prop where
  family : Family l lists
  listed : ∀ i, ∀ a ∈ lists i, known a
  kept : ∀ k a, held k = some a → known a
  off : ∀ k a, held k = some a → ∀ i, a ∉ lists i
  once : ∀ j k a, held j = some a → held k = some a → j = k

/--
An entry that exists and is nowhere.
-/
structure Loose (lists : ι → List α) (held : κ → Option α) (known : α → Prop) (a : α) : Prop where
  known : known a
  off : ∀ i, a ∉ lists i
  free : ∀ k, held k ≠ some a

namespace Custody

section Lists

variable [DecidableEq ι] [DecidableEq α] (h : Custody l lists held known) {i : ι} {a : α}
include h

theorem insertTailList (ha : Loose lists held known a)
    : Custody (l.insertTailList i a) (Function.update lists i (lists i ++ [a])) held known := by
  have hmem : ∀ {j b}, b ∈ Function.update lists i (lists i ++ [a]) j → b ∈ lists j ∨ b = a := by
    intro j b hb
    by_cases hj : j = i
    . rw [hj, Function.update_self, List.mem_append, List.mem_singleton] at hb
      rwa [hj]
    . rw [Function.update_of_ne hj] at hb
      exact Or.inl hb
  refine ⟨h.family.insertTailList ha.off, ?_, h.kept, ?_, h.once⟩
  . intro j b hb
    rcases hmem hb with hb | rfl
    . exact h.listed j b hb
    . exact ha.known
  . intro k b hk j hb
    rcases hmem hb with hb | rfl
    . exact h.off k b hk j hb
    . exact ha.free k hk

theorem removeEntryList (ha : a ∈ lists i)
    : Custody (l.removeEntryList a) (Function.update lists i ((lists i).erase a)) held known := by
  have hsub : ∀ {j b}, b ∈ Function.update lists i ((lists i).erase a) j → b ∈ lists j := by
    intro j b hb
    by_cases hj : j = i
    . rw [hj, Function.update_self] at hb
      exact hj ▸ List.mem_of_mem_erase hb
    . rwa [Function.update_of_ne hj] at hb
  refine ⟨h.family.removeEntryList ha, ?_, h.kept, ?_, h.once⟩
  . exact fun j b hb => h.listed j b (hsub hb)
  . exact fun k b hk j hb => h.off k b hk j (hsub hb)

theorem loose_of_remove (ha : a ∈ lists i)
    : Loose (Function.update lists i ((lists i).erase a)) held known a := by
  refine ⟨h.listed i a ha, ?_, fun k hk => h.off k a hk i ha⟩
  intro j hj
  by_cases hij : j = i
  . rw [hij, Function.update_self] at hj
    exact (h.family.nodup i).not_mem_erase hj
  . rw [Function.update_of_ne hij] at hj
    exact h.family.disjoint j i hij a hj ha

-- A list can be lost. Its entries are loose from then on.
omit [DecidableEq α] in
theorem of_empty {l' : Links ι α} (hfamily : Family l' (Function.update lists i []))
    : Custody l' (Function.update lists i []) held known := by
  have hsub : ∀ {j b}, b ∈ Function.update lists i [] j → b ∈ lists j := by
    intro j b hb
    by_cases hj : j = i
    . rw [hj, Function.update_self] at hb
      cases hb
    . rwa [Function.update_of_ne hj] at hb
  exact ⟨hfamily, fun j b hb => h.listed j b (hsub hb), h.kept,
    fun k b hk j hb => h.off k b hk j (hsub hb), h.once⟩

end Lists

section Hands

variable [DecidableEq κ] (h : Custody l lists held known) {k : κ} {a : α}
include h

theorem drop : Custody l lists (Function.update held k none) known := by
  have hheld : ∀ {j b}, Function.update held k none j = some b → held j = some b := by
    intro j b hj
    by_cases hjk : j = k
    . rw [hjk, Function.update_self] at hj
      cases hj
    . rwa [Function.update_of_ne hjk] at hj
  exact ⟨h.family, h.listed, fun j b hj => h.kept j b (hheld hj),
    fun j b hj => h.off j b (hheld hj),
    fun i j b hi hj => h.once i j b (hheld hi) (hheld hj)⟩

theorem loose_of_drop (ha : held k = some a)
    : Loose lists (Function.update held k none) known a := by
  refine ⟨h.kept k a ha, h.off k a ha, ?_⟩
  intro j hj
  by_cases hjk : j = k
  . rw [hjk, Function.update_self] at hj
    cases hj
  . rw [Function.update_of_ne hjk] at hj
    exact hjk (h.once j k a hj ha)

theorem give (ha : Loose lists held known a)
    : Custody l lists (Function.update held k (some a)) known := by
  have hheld : ∀ {j b}, Function.update held k (some a) j = some b →
      j ≠ k ∧ held j = some b ∨ j = k ∧ a = b := by
    intro j b hj
    by_cases hjk : j = k
    . rw [hjk, Function.update_self] at hj
      exact Or.inr ⟨hjk, Option.some.inj hj⟩
    . rw [Function.update_of_ne hjk] at hj
      exact Or.inl ⟨hjk, hj⟩
  refine ⟨h.family, h.listed, ?_, ?_, ?_⟩
  . intro j b hj
    rcases hheld hj with ⟨_, hj⟩ | ⟨_, rfl⟩
    . exact h.kept j b hj
    . exact ha.known
  . intro j b hj
    rcases hheld hj with ⟨_, hj⟩ | ⟨_, rfl⟩
    . exact h.off j b hj
    . exact ha.off
  . intro i j b hi hj
    rcases hheld hi with ⟨_, hi⟩ | ⟨rfl, rfl⟩
    . rcases hheld hj with ⟨_, hj⟩ | ⟨_, rfl⟩
      . exact h.once i j b hi hj
      . exact absurd hi (ha.free i)
    . rcases hheld hj with ⟨_, hj⟩ | ⟨hjk, _⟩
      . exact absurd hj (ha.free j)
      . exact hjk.symm

end Hands

variable {known' : α → Prop}

theorem learn (h : Custody l lists held known) (hknown : ∀ a, known a → known' a)
    : Custody l lists held known' :=
  ⟨h.family, fun i a ha => hknown a (h.listed i a ha), fun k a ha => hknown a (h.kept k a ha), h.off,
    h.once⟩

theorem loose_of_learn (h : Custody l lists held known) {a : α} (hnew : known' a) (ha : ¬ known a)
    : Loose lists held known' a :=
  ⟨hnew, fun i hi => ha (h.listed i a hi), fun k hk => ha (h.kept k a hk)⟩

end Custody

end ListEntry
