import Mathlib.Logic.Function.Basic
import Mathlib.Data.List.Nodup
import Mathlib.Tactic.Common
import Ndisrd.Lib.Loop

/-!
This module contains singly linked lists in memory, with a head and a link in each entry: the push in
front, and the loops that walk a list with a pointer to the pointer to the current entry.
-/

namespace SinglyLinked

variable {α : Type}

structure Links (α : Type) where
  head : Option α
  next : α → Option α

/--
The links lead from `p` through the entries of `xs` to `q`.
-/
def Path (next : α → Option α) : Option α → List α → Option α → Prop
  | p, [], q => p = q
  | p, a :: xs, q => p = some a ∧ Path next (next a) xs q

def Links.Lists (l : Links α) (xs : List α) : Prop := Path l.next l.head xs none

/--
A pointer to the head or to the link of an entry.
-/
inductive Cursor (α : Type) where
  | head
  | next (a : α)

namespace Cursor

def after (xs : List α) : Cursor α :=
  match xs.getLast? with
  | none => .head
  | some a => .next a

@[simp]
theorem after_nil : after ([] : List α) = .head := rfl

@[simp]
theorem after_concat (xs : List α) (a : α) : after (xs ++ [a]) = .next a := by
  simp [after]

end Cursor

namespace Links

variable (l : Links α)

def read : Cursor α → Option α
  | .head => l.head
  | .next a => l.next a

variable [DecidableEq α]

def write (p : Option α) : Cursor α → Links α
  | .head => { l with head := p }
  | .next a => { l with next := Function.update l.next a p }

def push (a : α) : Links α := { head := some a, next := Function.update l.next a l.head }

/-- One turn of the loop that searches the list for `a`. -/
def findTurn (a : α) (cursor : Cursor α) : Loop.Turn (Cursor α) (Option α) :=
  match l.read cursor with
  | none => .done none
  | some b => if b = a then .done (some b) else .goOn (.next b)

/-- One turn of the loop that takes `a` out of the list. -/
def unlinkTurn (a : α) (cursor : Cursor α) : Loop.Turn (Cursor α) (Links α) :=
  match l.read cursor with
  | none => .done l
  | some b => if b = a then .done (l.write (l.next a) cursor) else .goOn (.next b)

end Links

theorem path_append {next : α → Option α} {p q : Option α} {xs ys : List α}
    : Path next p (xs ++ ys) q ↔ ∃ m, Path next p xs m ∧ Path next m ys q := by
  induction xs generalizing p with
  | nil => simp [Path]
  | cons a xs ih => simp [Path, ih, and_assoc]

theorem path_congr {next next' : α → Option α} {p q : Option α} {xs : List α}
    (h : ∀ a ∈ xs, next' a = next a) : Path next' p xs q ↔ Path next p xs q := by
  induction xs generalizing p with
  | nil => rfl
  | cons a xs ih =>
    have ha := h a List.mem_cons_self
    have hxs : ∀ b ∈ xs, next' b = next b := fun b hb => h b (List.mem_cons_of_mem a hb)
    rw [Path, Path, ha, ih hxs]

/-- A list that ends does not come to an entry twice. -/
theorem path_nodup {next : α → Option α} {p : Option α} {xs : List α} (h : Path next p xs none)
    : xs.Nodup := by
  have hunique : ∀ {ys zs : List α} {p : Option α}, Path next p ys none → Path next p zs none →
      ys = zs := by
    intro ys
    induction ys with
    | nil =>
      intro zs p hys hzs
      cases zs with
      | nil => rfl
      | cons z zs => cases hys.symm.trans hzs.1
    | cons y ys ih =>
      intro zs p hys hzs
      cases zs with
      | nil => cases hzs.symm.trans hys.1
      | cons z zs =>
        obtain rfl := Option.some.inj (hys.1.symm.trans hzs.1)
        rw [ih hys.2 hzs.2]
  induction xs generalizing p with
  | nil => exact List.nodup_nil
  | cons x xs ih =>
    refine List.nodup_cons.mpr ⟨?_, ih h.2⟩
    intro hx
    -- the rest of the list would be a part of itself
    obtain ⟨as, bs, rfl⟩ := List.append_of_mem hx
    obtain ⟨m, -, hm, hbs⟩ := path_append.mp h.2
    have hsame := congrArg List.length (hunique h.2 hbs)
    simp at hsame
    omega

variable {l : Links α} {xs pre suf : List α} {a : α}

theorem path_read_after {q : Option α} (h : Path l.next l.head pre q)
    : l.read (.after pre) = q := by
  rcases List.eq_nil_or_concat pre with rfl | ⟨pre, b, rfl⟩
  . exact h
  . rw [List.concat_eq_append] at h ⊢
    obtain ⟨m, -, -, hq⟩ := path_append.mp h
    rw [Cursor.after_concat]
    exact hq

/--
A walk of the list: `pre` is behind the pointer, `suf` before it.
-/
structure Walking (l : Links α) (xs : List α) (a : α) (pre suf : List α) : Prop where
  lists : xs = pre ++ suf
  passed : a ∉ pre

theorem read_of_walking (h : l.Lists xs) (hwalk : Walking l xs a pre suf)
    : l.read (.after pre) = suf.head? := by
  have hpath := h
  rw [hwalk.lists] at hpath
  obtain ⟨m, hpre, hsuf⟩ := path_append.mp hpath
  rw [path_read_after hpre]
  cases suf with
  | nil => exact hsuf
  | cons b suf => exact hsuf.1

section Lists

variable [DecidableEq α]

theorem path_update {p q r : Option α} {a : α} (ha : a ∉ xs)
    : Path (Function.update l.next a r) p xs q ↔ Path l.next p xs q := by
  apply path_congr
  intro b hb
  apply Function.update_of_ne
  rintro rfl
  exact ha hb

/--
What is written through the pointer behind `pre` is where the links lead behind `pre`.
-/
theorem path_write_after {p q : Option α} (h : Path l.next l.head pre q) (hpre : pre.Nodup)
    : Path (l.write p (.after pre)).next (l.write p (.after pre)).head pre p := by
  rcases List.eq_nil_or_concat pre with rfl | ⟨pre, b, rfl⟩
  . rfl
  . rw [List.concat_eq_append] at h hpre ⊢
    obtain ⟨m, hm, hb, -⟩ := path_append.mp h
    have hnot : b ∉ pre := by
      rw [List.nodup_append] at hpre
      intro hmem
      exact hpre.2.2 b hmem b List.mem_cons_self rfl
    rw [Cursor.after_concat]
    refine path_append.mpr ⟨m, (path_update hnot).mpr hm, hb, ?_⟩
    exact Function.update_self b p l.next

theorem path_write_of_not_mem {p q r : Option α} (h : Path l.next p suf q)
    (hdisjoint : pre.Disjoint suf) : Path (l.write r (.after pre)).next p suf q := by
  rcases List.eq_nil_or_concat pre with rfl | ⟨pre, b, rfl⟩
  . exact h
  . rw [List.concat_eq_append] at hdisjoint ⊢
    rw [Cursor.after_concat]
    exact (path_update (hdisjoint (List.mem_append_right pre List.mem_cons_self))).mpr h

namespace Links.Lists

theorem push (h : l.Lists xs) (ha : a ∉ xs) : (l.push a).Lists (a :: xs) := by
  have hnext : (l.push a).next a = l.head := by simp [Links.push]
  refine ⟨rfl, ?_⟩
  rw [hnext]
  exact (path_update ha).mpr h

theorem unlink (h : l.Lists (pre ++ a :: suf)) (hnodup : (pre ++ a :: suf).Nodup)
    : (l.write (l.next a) (.after pre)).Lists (pre ++ suf) := by
  obtain ⟨m, hpre, -, hsuf⟩ := path_append.mp h
  obtain ⟨hndpre, -, hdisjoint⟩ := List.nodup_append'.mp hnodup
  have hdisjoint : pre.Disjoint suf := List.disjoint_of_disjoint_cons_right hdisjoint
  exact path_append.mpr
    ⟨l.next a, path_write_after hpre hndpre, path_write_of_not_mem hsuf hdisjoint⟩

end Links.Lists

/--
A loop over the list that looks for `a` ends, and ends where `a` is or behind the list.
-/
theorem ends_of_walk {ρ : Type} {turn : Cursor α → Loop.Turn (Cursor α) ρ} {Post : ρ → Prop}
    (h : l.Lists xs)
    (hend : a ∉ xs → ∃ r, turn (.after xs) = .done r ∧ Post r)
    (hfound : ∀ pre suf, xs = pre ++ a :: suf → a ∉ pre →
      ∃ r, turn (.after pre) = .done r ∧ Post r)
    (hother : ∀ cursor b, l.read cursor = some b → b ≠ a → turn cursor = .goOn (.next b))
    : ∃ r, Loop.Ends turn .head r ∧ Post r := by
  suffices hwalk : ∀ suf pre, Walking l xs a pre suf → ∃ r, Loop.Ends turn (.after pre) r ∧ Post r by
    exact hwalk xs [] ⟨rfl, List.not_mem_nil⟩
  intro suf
  induction suf with
  | nil =>
    intro pre hwalk
    have hxs : xs = pre := by simpa using hwalk.lists
    rw [← hxs]
    obtain ⟨r, hturn, hpost⟩ := hend (hxs ▸ hwalk.passed)
    exact ⟨r, .done hturn, hpost⟩
  | cons b suf ih =>
    intro pre hwalk
    by_cases hb : b = a
    . subst hb
      obtain ⟨r, hturn, hpost⟩ := hfound pre suf hwalk.lists hwalk.passed
      exact ⟨r, .done hturn, hpost⟩
    . have hread : l.read (.after pre) = some b := read_of_walking h hwalk
      have hnext : Walking l xs a (pre ++ [b]) suf := by
        constructor
        . simpa using hwalk.lists
        . simpa [Ne.symm hb] using hwalk.passed
      obtain ⟨r, hends, hpost⟩ := ih (pre ++ [b]) hnext
      rw [Cursor.after_concat] at hends
      exact ⟨r, .goOn (hother _ b hread hb) hends, hpost⟩

theorem ends_find (h : l.Lists xs)
    : Loop.Ends (l.findTurn a) .head (if a ∈ xs then some a else none) := by
  have hwalk : ∃ r, Loop.Ends (l.findTurn a) .head r ∧ r = if a ∈ xs then some a else none := by
    apply ends_of_walk (a := a) h
    . intro ha
      have hread := path_read_after h
      exact ⟨none, by rw [Links.findTurn, hread], by simp [ha]⟩
    . rintro pre suf rfl ha
      have hread : l.read (.after pre) = some a := read_of_walking h ⟨rfl, ha⟩
      exact ⟨some a, by simp [Links.findTurn, hread], by simp⟩
    . intro cursor b hread hb
      simp [Links.findTurn, hread, hb]
  obtain ⟨r, hends, rfl⟩ := hwalk
  exact hends

theorem ends_unlink (h : l.Lists xs) (hnodup : xs.Nodup)
    : ∃ l', Loop.Ends (l.unlinkTurn a) .head l' ∧ l'.Lists (xs.erase a) := by
  apply ends_of_walk (a := a) h
  . intro ha
    have hread := path_read_after h
    refine ⟨l, by rw [Links.unlinkTurn, hread], ?_⟩
    rw [List.erase_of_not_mem ha]
    exact h
  . rintro pre suf rfl ha
    have hread : l.read (.after pre) = some a := read_of_walking h ⟨rfl, ha⟩
    refine ⟨_, by rw [Links.unlinkTurn, hread]; exact if_pos rfl, ?_⟩
    rw [List.erase_append_right _ ha, List.erase_cons_head]
    exact Links.Lists.unlink h hnodup
  . intro cursor b hread hb
    simp [Links.unlinkTurn, hread, hb]

end Lists

end SinglyLinked
