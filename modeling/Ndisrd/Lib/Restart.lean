import Mathlib.Data.List.Basic
import Mathlib.Tactic.Common

/-!
This module contains walks along a list that change the entries they keep, take the others out and
start over at the head of the list after each removal, and when such a walk does what one pass over the
list would do.
-/

namespace Restart

variable {α : Type} (gone : α → Bool) (change : α → α)

/--
The entries that a walk leaves and those that it takes out, with the entries before and from the
current one on.
-/
def walk (seen : List α) : List α → List α × List α
  | [] => (seen, [])
  | x :: rest =>
    if gone x then
      let res := walk [] (seen ++ rest)
      (res.1, x :: res.2)
    else
      walk (seen ++ [change x]) rest
termination_by rest => (seen.length + rest.length, rest.length)
decreasing_by
  . apply Prod.Lex.left
    simp
  . apply Prod.Lex.right'
    . simp
      omega
    . simp

def kept (l : List α) : List α := (l.filter fun x => !gone x).map change

def GoneFirst (l : List α) : Prop := l.Pairwise fun x y => gone y = true → gone x = true

instance (l : List α) : Decidable (GoneFirst gone l) :=
  inferInstanceAs (Decidable (l.Pairwise fun x y => gone y = true → gone x = true))

theorem walk_nil (seen : List α) : walk gone change seen [] = (seen, []) := by
  rw [walk]

theorem walk_gone {x : α} (hx : gone x = true) (seen rest : List α)
    : walk gone change seen (x :: rest) =
        ((walk gone change [] (seen ++ rest)).1, x :: (walk gone change [] (seen ++ rest)).2) := by
  rw [walk, if_pos hx]

theorem walk_keep {x : α} (hx : ¬gone x = true) (seen rest : List α)
    : walk gone change seen (x :: rest) = walk gone change (seen ++ [change x]) rest := by
  rw [walk, if_neg hx]

theorem walk_of_forall_keep {rest : List α} (h : ∀ x ∈ rest, ¬gone x = true) (seen : List α)
    : walk gone change seen rest = (seen ++ rest.map change, []) := by
  induction rest generalizing seen with
  | nil => rw [walk_nil, List.map_nil, List.append_nil]
  | cons x rest ih =>
    obtain ⟨hx, hrest⟩ := List.forall_mem_cons.mp h
    rw [walk_keep gone change hx, ih hrest, List.append_assoc]
    rfl

theorem walk_of_goneFirst {l : List α} (h : GoneFirst gone l)
    : walk gone change [] l = (kept gone change l, l.filter gone) := by
  induction l with
  | nil => exact walk_nil gone change []
  | cons x rest ih =>
    obtain ⟨hx, hrest⟩ := List.pairwise_cons.mp h
    by_cases hgone : gone x = true
    . rw [walk_gone gone change hgone, List.nil_append, ih hrest, kept, kept,
        List.filter_cons_of_neg (by simp [hgone]), List.filter_cons_of_pos hgone]
    . have hkeep : ∀ y ∈ x :: rest, ¬gone y = true :=
        List.forall_mem_cons.mpr ⟨hgone, fun y hy hy' => hgone (hx y hy hy')⟩
      have hall : (x :: rest).filter (fun y => !gone y) = x :: rest :=
        List.filter_eq_self.mpr fun y hy => by simpa using hkeep y hy
      rw [walk_of_forall_keep gone change hkeep, kept, hall, List.filter_eq_nil_iff.mpr hkeep]
      rfl

section Unchanged

theorem walk_id_append {xs : List α} (h : ∀ x ∈ xs, ¬gone x = true) (seen rest : List α)
    : walk gone id seen (xs ++ rest) = walk gone id (seen ++ xs) rest := by
  induction xs generalizing seen with
  | nil => rw [List.nil_append, List.append_nil]
  | cons x xs ih =>
    obtain ⟨hx, hxs⟩ := List.forall_mem_cons.mp h
    rw [List.cons_append, walk_keep gone id hx, ih hxs, List.append_assoc]
    rfl

/--
A walk that changes nothing does what one pass would do, wherever the entries are that it takes out.
-/
theorem walk_id {seen : List α} (h : ∀ x ∈ seen, ¬gone x = true) (rest : List α)
    : walk gone id seen rest = (seen ++ rest.filter fun x => !gone x, rest.filter gone) := by
  induction rest generalizing seen with
  | nil => rw [walk_nil, List.filter_nil, List.filter_nil, List.append_nil]
  | cons x rest ih =>
    by_cases hx : gone x = true
    . rw [walk_gone gone id hx, walk_id_append gone h, List.nil_append, ih h,
        List.filter_cons_of_neg (by simp [hx]), List.filter_cons_of_pos hx]
    . have hseen : ∀ y ∈ seen ++ [x], ¬gone y = true :=
        List.forall_mem_append.mpr ⟨h, List.forall_mem_singleton.mpr hx⟩
      rw [walk_keep gone id hx, id, ih hseen, List.filter_cons_of_pos (by simp [hx]),
        List.filter_cons_of_neg hx, List.append_assoc]
      rfl

end Unchanged

/-! ### What a walk takes away -/

section Load

def load (weight : α → Nat) : List α → Nat
  | [] => 0
  | x :: l => weight x + load weight l

theorem load_append (weight : α → Nat) (l l' : List α)
    : load weight (l ++ l') = load weight l + load weight l' := by
  induction l with
  | nil => rw [List.nil_append, load, Nat.zero_add]
  | cons x l ih => rw [List.cons_append, load, load, ih, Nat.add_assoc]

theorem load_succ (weight : α → Nat) (l : List α)
    : load (fun x => weight x + 1) l = load weight l + l.length := by
  induction l with
  | nil => rfl
  | cons x l ih =>
    simp only [load, ih, List.length_cons]
    omega

variable {gone change} {weight : α → Nat}
variable (hchange : ∀ x, ¬gone x = true → weight x = weight (change x) + 1)
include hchange

theorem load_walk_le (seen rest : List α)
    : load (fun x => weight x + 1) (walk gone change seen rest).1 ≤
        load (fun x => weight x + 1) seen + load weight rest := by
  induction seen, rest using walk.induct gone change with
  | case1 seen =>
    rw [walk_nil]
    apply Nat.le_add_right
  | case2 seen x rest hx ih =>
    rw [walk_gone gone change hx]
    refine Nat.le_trans ih ?_
    rw [load_append, load_succ weight seen]
    simp only [load]
    omega
  | case3 seen x rest hx ih =>
    rw [walk_keep gone change hx]
    refine Nat.le_trans ih ?_
    rw [load_append]
    simp only [load, hchange x hx]
    omega

-- The entries that the walk starts over on are changed once more.
theorem load_walk_lt (seen rest : List α) (hseen : seen ≠ []) (hrest : ∃ x ∈ rest, gone x = true)
    : load (fun x => weight x + 1) (walk gone change seen rest).1 <
        load (fun x => weight x + 1) seen + load weight rest := by
  induction rest generalizing seen with
  | nil =>
    obtain ⟨x, hx, _⟩ := hrest
    cases hx
  | cons x rest ih =>
    by_cases hx : gone x = true
    . have hle := load_walk_le hchange [] (seen ++ rest)
      have hpos := List.length_pos_of_ne_nil hseen
      rw [load_append] at hle
      rw [walk_gone gone change hx, load_succ weight seen]
      simp only [load] at hle ⊢
      omega
    . obtain ⟨y, hy, hgy⟩ := hrest
      have hy : y ∈ rest := by
        rcases List.mem_cons.mp hy with rfl | hy
        . exact absurd hgy hx
        . exact hy
      have hlt := ih (seen ++ [change x]) (by simp) ⟨y, hy, hgy⟩
      rw [load_append] at hlt
      rw [walk_keep gone change hx]
      simp only [load, hchange x hx] at hlt ⊢
      omega

variable (hgone : ∀ x, gone x = true → weight x = 0)
include hgone

theorem load_kept (l : List α) : load (fun x => weight x + 1) (kept gone change l) = load weight l := by
  unfold kept
  induction l with
  | nil => rfl
  | cons x l ih =>
    by_cases hx : gone x = true
    . rw [List.filter_cons_of_neg (by simp [hx]), ih, load, hgone x hx, Nat.zero_add]
    . rw [List.filter_cons_of_pos (by simpa using hx), List.map_cons, load, ih, load, hchange x hx]

theorem goneFirst_of_walk {l : List α} (h : (walk gone change [] l).1 = kept gone change l)
    : GoneFirst gone l := by
  induction l with
  | nil => exact List.Pairwise.nil
  | cons x rest ih =>
    by_cases hx : gone x = true
    . refine List.pairwise_cons.mpr ⟨fun _ _ _ => hx, ih ?_⟩
      rw [walk_gone gone change hx, List.nil_append, kept,
        List.filter_cons_of_neg (by simp [hx])] at h
      exact h
    . -- with a removal still to come, too little would be left
      have hrest : ∀ y ∈ rest, ¬gone y = true := by
        intro y hy hgy
        have hlt := load_walk_lt hchange [change x] rest (by simp) ⟨y, hy, hgy⟩
        have hkept := load_kept hchange hgone (x :: rest)
        rw [← h, walk_keep gone change hx, List.nil_append] at hkept
        simp only [load, hchange x hx] at hlt hkept
        omega
      have hnone : ∀ y ∈ x :: rest, ¬gone y = true := List.forall_mem_cons.mpr ⟨hx, hrest⟩
      exact List.pairwise_iff_forall_sublist.mpr fun hsub hy =>
        absurd hy (hnone _ (hsub.subset (by simp)))

theorem walk_eq_kept_iff (l : List α)
    : (walk gone change [] l).1 = kept gone change l ↔ GoneFirst gone l := by
  constructor
  . exact goneFirst_of_walk hchange hgone
  . intro h
    rw [walk_of_goneFirst gone change h]

end Load

end Restart
