import Mathlib.Data.List.Chain
import Mathlib.Data.List.Nodup
import Mathlib.Logic.Function.Basic

/-!
This module contains circular doubly linked lists in one memory: the operations on `LIST_ENTRY`, and
which lists they make of the lists that were there before.
-/

namespace ListEntry

inductive Node (ι α : Type) where
  | head (i : ι)
  | entry (a : α)
  deriving DecidableEq

structure Links (ι α : Type) where
  flink : Node ι α → Node ι α
  blink : Node ι α → Node ι α

variable {ι α : Type}

namespace Links

section Operations

variable [DecidableEq ι] [DecidableEq α] (l : Links ι α)

def insertTailList (i : ι) (e : α) : Links ι α :=
  let blink := l.blink (.head i)
  { flink := Function.update (Function.update l.flink (.entry e) (.head i)) blink (.entry e)
    blink := Function.update (Function.update l.blink (.entry e) blink) (.head i) (.entry e) }

def removeEntryList (e : α) : Links ι α :=
  let flink := l.flink (.entry e)
  let blink := l.blink (.entry e)
  { flink := Function.update l.flink blink flink
    blink := Function.update l.blink flink blink }

end Operations

-- A walk from a node, of `n` steps at most. It ends at a head, its own one or another.
def walk (l : Links ι α) : Nat → Node ι α → List α
  | n + 1, .entry a => a :: walk l n (l.flink (.entry a))
  | _, _ => []

def toList (l : Links ι α) (n : Nat) (i : ι) : List α := l.walk n (l.flink (.head i))

def Joined (l : Links ι α) (a b : Node ι α) : Prop := l.flink a = b ∧ l.blink b = a

end Links

def nodes (i : ι) (xs : List α) : List (Node ι α) := .head i :: xs.map .entry

def Links.Ring (l : Links ι α) (i : ι) (xs : List α) : Prop :=
  (nodes i xs ++ [Node.head i]).IsChain l.Joined

/--
The lists that a memory holds, one for each head.
-/
structure Family (l : Links ι α) (lists : ι → List α) : Prop where
  ring : ∀ i, l.Ring i (lists i)
  nodup : ∀ i, (lists i).Nodup
  disjoint : ∀ i j, i ≠ j → ∀ a, a ∈ lists i → a ∉ lists j

/-! ### Chains of nodes -/

section Chains

variable {l l' : Links ι α}

theorem isChain_frame {a : Node ι α} {ns : List (Node ι α)} (h : (a :: ns).IsChain l.Joined)
    (hflink : ∀ n ∈ (a :: ns).dropLast, l'.flink n = l.flink n)
    (hblink : ∀ n ∈ ns, l'.blink n = l.blink n)
    : (a :: ns).IsChain l'.Joined := by
  induction ns generalizing a with
  | nil => exact List.isChain_singleton a
  | cons b ns ih =>
    obtain ⟨hjoined, hrest⟩ := List.isChain_cons_cons.mp h
    rw [List.dropLast_cons_cons] at hflink
    apply List.isChain_cons_cons.mpr
    refine ⟨⟨?_, ?_⟩, ih hrest ?_ ?_⟩
    . rw [hflink a List.mem_cons_self]
      exact hjoined.1
    . rw [hblink b List.mem_cons_self]
      exact hjoined.2
    . exact fun n hn => hflink n (List.mem_cons_of_mem a hn)
    . exact fun n hn => hblink n (List.mem_cons_of_mem b hn)

variable {i : ι} {xs : List α}

-- The nodes of a ring are its head and its entries, each of them once.
theorem nodup_nodes (h : xs.Nodup) : (nodes i xs).Nodup := by
  apply List.nodup_cons.mpr
  constructor
  . intro hmem
    obtain ⟨a, _, ha⟩ := List.mem_map.mp hmem
    cases ha
  . exact h.map fun a b hab => Node.entry.inj hab

theorem entry_mem_nodes {a : α} : Node.entry a ∈ nodes i xs ↔ a ∈ xs := by
  simp [nodes]

theorem head_mem_nodes {j : ι} : Node.head j ∈ nodes i xs ↔ j = i := by
  simp [nodes]

theorem exists_last (i : ι) (xs : List α) : ∃ ns n, nodes i xs = ns ++ [n] := by
  rcases List.eq_nil_or_concat (nodes i xs) with hnil | ⟨ns, n, h⟩
  . cases hnil
  . exact ⟨ns, n, h.trans (List.concat_eq_append)⟩

theorem ring_frame (h : l.Ring i xs) (hflink : ∀ n ∈ nodes i xs, l'.flink n = l.flink n)
    (hblink : ∀ n ∈ nodes i xs, l'.blink n = l.blink n)
    : l'.Ring i xs := by
  apply isChain_frame h
  . intro n hn
    have hmem : n ∈ (nodes i xs ++ [Node.head i]).dropLast := hn
    rw [List.dropLast_concat] at hmem
    exact hflink n hmem
  . intro n hn
    apply hblink
    rcases List.mem_append.mp hn with hn | hn
    . exact List.mem_cons_of_mem _ hn
    . rw [List.mem_singleton.mp hn]
      exact List.mem_cons_self

-- The last node of a ring is the one behind its head.
theorem blink_head_mem (h : l.Ring i xs) : l.blink (.head i) ∈ nodes i xs := by
  obtain ⟨ns, n, hns⟩ := exists_last i xs
  unfold Links.Ring at h
  rw [hns, List.append_assoc, List.singleton_append, List.isChain_append_cons_cons] at h
  rw [hns, h.2.1.2]
  exact List.mem_append_right ns (List.mem_singleton_self n)

-- The neighbours of an entry of a ring are nodes of it.
theorem neighbours_of_ring {as bs : List α} {e : α} (h : l.Ring i (as ++ e :: bs))
    : (∃ ns, nodes i as = ns ++ [l.blink (.entry e)]) ∧
        ∃ ns, bs.map .entry ++ [.head i] = l.flink (.entry e) :: ns := by
  obtain ⟨ns, z, hns⟩ := exists_last i as
  have hnodes : nodes i (as ++ e :: bs) ++ [.head i] =
      ns ++ z :: .entry e :: (bs.map .entry ++ [.head i]) := by
    have happend : nodes i (as ++ e :: bs) = nodes i as ++ .entry e :: bs.map .entry := by
      simp [nodes]
    rw [happend, hns]
    simp
  unfold Links.Ring at h
  rw [hnodes, List.isChain_append_cons_cons] at h
  obtain ⟨_, ⟨_, hz⟩, hrest⟩ := h
  constructor
  . exact ⟨ns, by rw [hz]; exact hns⟩
  . cases hbs : bs.map Node.entry ++ [Node.head i] with
    | nil => simp at hbs
    | cons m ms =>
      rw [hbs, List.isChain_cons_cons] at hrest
      rw [hrest.1.1]
      exact ⟨ms, rfl⟩

end Chains

/-! ### `InsertTailList` -/

section Insert

variable [DecidableEq ι] [DecidableEq α] {l : Links ι α} {i : ι} {e : α} {n : Node ι α}

theorem insertTailList_flink_of_ne (hn : n ≠ .entry e) (hlast : n ≠ l.blink (.head i))
    : (l.insertTailList i e).flink n = l.flink n := by
  simp only [Links.insertTailList, Function.update_of_ne hlast, Function.update_of_ne hn]

theorem insertTailList_blink_of_ne (hn : n ≠ .entry e) (hhead : n ≠ .head i)
    : (l.insertTailList i e).blink n = l.blink n := by
  simp only [Links.insertTailList, Function.update_of_ne hhead, Function.update_of_ne hn]

theorem joined_insertTailList_last
    : (l.insertTailList i e).Joined (l.blink (.head i)) (.entry e) := by
  constructor
  . exact Function.update_self _ _ _
  . simp [Links.insertTailList]

theorem joined_insertTailList_head (hne : l.blink (.head i) ≠ .entry e)
    : (l.insertTailList i e).Joined (.entry e) (.head i) := by
  constructor
  . simp [Links.insertTailList, Function.update_of_ne hne.symm]
  . exact Function.update_self _ _ _

theorem ring_insertTailList {xs : List α} (h : l.Ring i xs) (hxs : xs.Nodup) (he : e ∉ xs)
    : (l.insertTailList i e).Ring i (xs ++ [e]) := by
  obtain ⟨ns, z, hns⟩ := exists_last i xs
  have hnodup := nodup_nodes (i := i) hxs
  have hnew : ∀ n ∈ nodes i xs, n ≠ .entry e := by
    rintro _ hn rfl
    exact he (entry_mem_nodes.mp hn)
  have hsplit := h
  unfold Links.Ring at hsplit
  rw [hns, List.append_assoc, List.singleton_append, List.isChain_append_cons_cons, ← hns] at hsplit
  obtain ⟨hfront, ⟨_, hlast⟩, _⟩ := hsplit
  have hz : z ∈ nodes i xs := by
    rw [hns]
    exact List.mem_append_right ns (List.mem_singleton_self z)
  have hnodes : nodes i (xs ++ [e]) ++ [.head i] = ns ++ z :: .entry e :: [.head i] := by
    have happend : nodes i (xs ++ [e]) = nodes i xs ++ [.entry e] := by
      simp [nodes]
    rw [happend, hns]
    simp
  unfold Links.Ring
  rw [hnodes, List.isChain_append_cons_cons, ← hns]
  refine ⟨?_, ?_, ?_⟩
  . apply isChain_frame hfront
    . intro n hn
      rw [← nodes, hns, List.dropLast_concat] at hn
      have hmem : n ∈ nodes i xs := by
        rw [hns]
        exact List.mem_append_left _ hn
      apply insertTailList_flink_of_ne (hnew n hmem)
      rw [hlast]
      rintro rfl
      rw [hns] at hnodup
      exact (List.nodup_append.mp hnodup).2.2 n hn n (List.mem_singleton_self n) rfl
    . intro n hn
      obtain ⟨a, ha, rfl⟩ := List.mem_map.mp hn
      apply insertTailList_blink_of_ne (hnew _ (List.mem_cons_of_mem _ hn))
      exact fun hno => by cases hno
  . rw [← hlast]
    exact joined_insertTailList_last
  . apply List.isChain_pair.mpr
    apply joined_insertTailList_head
    rw [hlast]
    exact hnew z hz

end Insert

/-! ### `RemoveEntryList` -/

section Remove

variable [DecidableEq ι] [DecidableEq α] {l : Links ι α} {i : ι} {e : α} {n : Node ι α}

theorem removeEntryList_flink_of_ne (hn : n ≠ l.blink (.entry e))
    : (l.removeEntryList e).flink n = l.flink n := Function.update_of_ne hn _ _

theorem removeEntryList_blink_of_ne (hn : n ≠ l.flink (.entry e))
    : (l.removeEntryList e).blink n = l.blink n := Function.update_of_ne hn _ _

theorem joined_removeEntryList
    : (l.removeEntryList e).Joined (l.blink (.entry e)) (l.flink (.entry e)) :=
  ⟨Function.update_self _ _ _, Function.update_self _ _ _⟩

theorem ring_removeEntryList {as bs : List α} (h : l.Ring i (as ++ e :: bs))
    (hnodup : (as ++ e :: bs).Nodup)
    : (l.removeEntryList e).Ring i (as ++ bs) := by
  obtain ⟨⟨ns, hns⟩, ⟨ms, hms⟩⟩ := neighbours_of_ring h
  obtain ⟨has, hbs, hdisjoint⟩ := List.nodup_append.mp hnodup
  have hfront := nodup_nodes (i := i) has
  have hsplit := h
  have hwhole : nodes i (as ++ e :: bs) ++ [.head i] =
      ns ++ l.blink (.entry e) :: .entry e :: (l.flink (.entry e) :: ms) := by
    have happend : nodes i (as ++ e :: bs) ++ [.head i] =
        nodes i as ++ .entry e :: (bs.map .entry ++ [.head i]) := by
      simp [nodes]
    rw [happend, hns, hms]
    simp
  have hrest : nodes i (as ++ bs) ++ [.head i] =
      ns ++ l.blink (.entry e) :: l.flink (.entry e) :: ms := by
    have happend : nodes i (as ++ bs) ++ [.head i] = nodes i as ++ (bs.map .entry ++ [.head i]) := by
      simp [nodes]
    rw [happend, hns, hms]
    simp
  unfold Links.Ring at hsplit ⊢
  rw [hwhole, List.isChain_append_cons_cons, List.isChain_cons_cons, ← hns] at hsplit
  rw [hrest, List.isChain_append_cons_cons, ← hns]
  obtain ⟨hchain, _, _, htail⟩ := hsplit
  have hback : ∀ n ∈ bs.map Node.entry ++ [Node.head i], n ∉ as.map Node.entry := by
    intro n hn hmem
    obtain ⟨a, ha, rfl⟩ := List.mem_map.mp hmem
    rcases List.mem_append.mp hn with hn | hn
    . obtain ⟨b, hb, heq⟩ := List.mem_map.mp hn
      exact hdisjoint a ha b (List.mem_cons_of_mem e hb) (Node.entry.inj heq).symm
    . cases List.mem_singleton.mp hn
  have hbackNodup : (bs.map Node.entry ++ [Node.head i]).Nodup := by
    apply List.nodup_append.mpr
    refine ⟨(List.nodup_cons.mp hbs).2.map fun a b hab => Node.entry.inj hab,
      List.pairwise_singleton _ _, ?_⟩
    rintro n hn m hm rfl
    obtain ⟨a, _, ha⟩ := List.mem_map.mp hn
    rw [List.mem_singleton.mp hm] at ha
    cases ha
  refine ⟨?_, joined_removeEntryList, ?_⟩
  . apply isChain_frame hchain
    . intro n hn
      rw [← nodes, hns, List.dropLast_concat] at hn
      apply removeEntryList_flink_of_ne
      rintro rfl
      rw [hns] at hfront
      exact (List.nodup_append.mp hfront).2.2 _ hn _ (List.mem_singleton_self _) rfl
    . intro n hn
      apply removeEntryList_blink_of_ne
      rintro rfl
      apply hback _ ?_ hn
      rw [hms]
      exact List.mem_cons_self
  . apply isChain_frame htail
    . intro n hn
      rw [← hms, List.dropLast_concat] at hn
      apply removeEntryList_flink_of_ne
      rintro rfl
      have hblink : l.blink (.entry e) ∈ nodes i as := by
        rw [hns]
        exact List.mem_append_right ns (List.mem_singleton_self _)
      obtain ⟨b, hb, heq⟩ := List.mem_map.mp hn
      rw [← heq, entry_mem_nodes] at hblink
      exact hdisjoint b hblink b (List.mem_cons_of_mem e hb) rfl
    . intro n hn
      apply removeEntryList_blink_of_ne
      rintro rfl
      rw [hms] at hbackNodup
      exact (List.nodup_cons.mp hbackNodup).1 hn

end Remove

/-! ### Families of lists -/

namespace Family

variable {l : Links ι α} {lists : ι → List α}

theorem not_mem_nodes (h : Family l lists) {i j : ι} (hij : i ≠ j) {n : Node ι α}
    (hn : n ∈ nodes i (lists i))
    : n ∉ nodes j (lists j) := by
  cases n with
  | head k =>
    rw [head_mem_nodes] at hn ⊢
    rw [hn]
    exact hij
  | entry a =>
    rw [entry_mem_nodes] at hn ⊢
    exact h.disjoint i j hij a hn

section Operations

variable [DecidableEq ι] [DecidableEq α] (h : Family l lists) {i : ι} {e : α}
include h

theorem insertTailList (he : ∀ j, e ∉ lists j)
    : Family (l.insertTailList i e) (Function.update lists i (lists i ++ [e])) := by
  have hmem : ∀ {j a}, a ∈ Function.update lists i (lists i ++ [e]) j →
      a ∈ lists j ∨ j = i ∧ a = e := by
    intro j a ha
    by_cases hj : j = i
    . rw [hj, Function.update_self] at ha
      rcases List.mem_append.mp ha with ha | ha
      . exact Or.inl (hj ▸ ha)
      . exact Or.inr ⟨hj, List.mem_singleton.mp ha⟩
    . rw [Function.update_of_ne hj] at ha
      exact Or.inl ha
  refine ⟨?_, ?_, ?_⟩
  . intro j
    by_cases hj : j = i
    . rw [hj, Function.update_self]
      exact ring_insertTailList (h.ring i) (h.nodup i) (he i)
    . rw [Function.update_of_ne hj]
      have hnew : ∀ n ∈ nodes j (lists j), n ≠ .entry e := by
        rintro _ hn rfl
        exact he j (entry_mem_nodes.mp hn)
      apply ring_frame (h.ring j)
      . intro n hn
        apply insertTailList_flink_of_ne (hnew n hn)
        rintro rfl
        exact h.not_mem_nodes hj hn (blink_head_mem (h.ring i))
      . intro n hn
        apply insertTailList_blink_of_ne (hnew n hn)
        rintro rfl
        exact hj (head_mem_nodes.mp hn).symm
  . intro j
    by_cases hj : j = i
    . rw [hj, Function.update_self]
      have hnodup := List.Nodup.concat (he i) (h.nodup i)
      rwa [List.concat_eq_append] at hnodup
    . rw [Function.update_of_ne hj]
      exact h.nodup j
  . intro j k hjk a haj hak
    rcases hmem haj with hoj | ⟨rfl, rfl⟩
    . rcases hmem hak with hok | ⟨_, heq⟩
      . exact h.disjoint j k hjk a hoj hok
      . exact he j (heq ▸ hoj)
    . rcases hmem hak with hok | ⟨hk, _⟩
      . exact he k hok
      . exact hjk hk.symm

theorem removeEntryList (he : e ∈ lists i)
    : Family (l.removeEntryList e) (Function.update lists i ((lists i).erase e)) := by
  obtain ⟨as, bs, hlist⟩ := List.append_of_mem he
  have hring := h.ring i
  have hnodup := h.nodup i
  rw [hlist] at hring hnodup
  have hno : e ∉ as := fun ha =>
    (List.nodup_append.mp hnodup).2.2 e ha e List.mem_cons_self rfl
  have herase : (lists i).erase e = as ++ bs := by
    rw [hlist, List.erase_append_right _ hno, List.erase_cons_head]
  obtain ⟨⟨ns, hns⟩, ⟨ms, hms⟩⟩ := neighbours_of_ring hring
  have hblink : l.blink (.entry e) ∈ nodes i (lists i) := by
    have hfront : l.blink (.entry e) ∈ nodes i as := by
      rw [hns]
      exact List.mem_append_right ns (List.mem_singleton_self _)
    rw [hlist]
    rcases List.mem_cons.mp hfront with heq | hmem
    . rw [heq]
      exact List.mem_cons_self
    . apply List.mem_cons_of_mem
      rw [List.map_append]
      exact List.mem_append_left _ hmem
  have hflink : l.flink (.entry e) ∈ nodes i (lists i) := by
    have hback : l.flink (.entry e) ∈ bs.map Node.entry ++ [Node.head i] := by
      rw [hms]
      exact List.mem_cons_self
    rw [hlist]
    rcases List.mem_append.mp hback with hmem | hmem
    . apply List.mem_cons_of_mem
      rw [List.map_append, List.map_cons]
      exact List.mem_append_right _ (List.mem_cons_of_mem _ hmem)
    . rw [List.mem_singleton.mp hmem]
      exact List.mem_cons_self
  have hsub : ∀ {j a}, a ∈ Function.update lists i ((lists i).erase e) j → a ∈ lists j := by
    intro j a ha
    by_cases hj : j = i
    . rw [hj, Function.update_self] at ha
      exact hj ▸ List.mem_of_mem_erase ha
    . rwa [Function.update_of_ne hj] at ha
  refine ⟨?_, ?_, ?_⟩
  . intro j
    by_cases hj : j = i
    . rw [hj, Function.update_self, herase]
      exact ring_removeEntryList hring hnodup
    . rw [Function.update_of_ne hj]
      apply ring_frame (h.ring j)
      . intro n hn
        apply removeEntryList_flink_of_ne
        rintro rfl
        exact h.not_mem_nodes hj hn hblink
      . intro n hn
        apply removeEntryList_blink_of_ne
        rintro rfl
        exact h.not_mem_nodes hj hn hflink
  . intro j
    by_cases hj : j = i
    . rw [hj, Function.update_self]
      exact (h.nodup i).erase e
    . rw [Function.update_of_ne hj]
      exact h.nodup j
  . intro j k hjk a haj hak
    exact h.disjoint j k hjk a (hsub haj) (hsub hak)

end Operations

/-! ### Walks -/

theorem walk_eq {n : Nat} {a : Node ι α} {i : ι} {xs : List α}
    (hchain : (a :: xs.map .entry ++ [Node.head i]).IsChain l.Joined) (hn : xs.length ≤ n)
    : l.walk n (l.flink a) = xs := by
  induction xs generalizing a n with
  | nil =>
    have hend : l.flink a = .head i := (List.isChain_pair.mp hchain).1
    rw [hend]
    cases n with
    | _ => rfl
  | cons x xs ih =>
    obtain ⟨⟨hflink, _⟩, hrest⟩ := List.isChain_cons_cons.mp hchain
    cases n with
    | zero => exact absurd hn (Nat.not_succ_le_zero _)
    | succ n =>
      rw [hflink, Links.walk, ih hrest (Nat.le_of_succ_le_succ hn)]

theorem toList_eq (h : Family l lists) {n : Nat} {i : ι} (hn : (lists i).length ≤ n)
    : l.toList n i = lists i := walk_eq (h.ring i) hn

theorem flink_head (h : Family l lists) (i : ι)
    : lists i = [] ∧ l.flink (.head i) = .head i ∨
        ∃ x xs, lists i = x :: xs ∧ l.flink (.head i) = .entry x := by
  have hring := h.ring i
  unfold Links.Ring nodes at hring
  cases hlist : lists i with
  | nil =>
    rw [hlist] at hring
    exact Or.inl ⟨rfl, (List.isChain_pair.mp hring).1⟩
  | cons x xs =>
    rw [hlist] at hring
    exact Or.inr ⟨x, xs, rfl, (List.isChain_cons_cons.mp hring).1.1⟩

end Family

/-! ### An entry that was taken from the head of its list -/

/--
The links that `RemoveHeadList` leaves in the entry it removes: to the head, and to the entry that came
behind it, as long as that one is the first of the list.
-/
structure Taken (l : Links ι α) (i : ι) (e : α) (xs : List α) : Prop where
  blink : l.blink (.entry e) = .head i
  flink : l.flink (.entry e) = .head i ∨ ∃ y ys, xs = y :: ys ∧ l.flink (.entry e) = .entry y

section Taken

variable [DecidableEq ι] [DecidableEq α] {l : Links ι α} {lists : ι → List α} {i : ι} {e : α}

theorem Family.taken (h : Family l lists) {xs : List α} (hlist : lists i = e :: xs)
    : Taken (l.removeEntryList e) i e xs := by
  have hring := h.ring i
  have hnodup := h.nodup i
  rw [hlist] at hnodup
  unfold Links.Ring nodes at hring
  rw [hlist] at hring
  obtain ⟨⟨_, hblink⟩, hrest⟩ := List.isChain_cons_cons.mp hring
  have hsame : (l.removeEntryList e).flink (.entry e) = l.flink (.entry e) := by
    apply removeEntryList_flink_of_ne
    rw [hblink]
    exact fun hno => by cases hno
  cases xs with
  | nil =>
    have hflink : l.flink (.entry e) = .head i := (List.isChain_pair.mp hrest).1
    refine ⟨?_, Or.inl (hsame.trans hflink)⟩
    rw [removeEntryList_blink_of_ne, hblink]
    rw [hflink]
    exact fun hno => by cases hno
  | cons y ys =>
    have hflink : l.flink (.entry e) = .entry y := (List.isChain_cons_cons.mp hrest).1.1
    refine ⟨?_, Or.inr ⟨y, ys, rfl, hsame.trans hflink⟩⟩
    rw [removeEntryList_blink_of_ne, hblink]
    rw [hflink]
    rintro ⟨⟩
    exact (List.nodup_cons.mp hnodup).1 List.mem_cons_self

-- The second `RemoveEntryList` empties a list that was filled from nothing, and does nothing else.
theorem Taken.removeEntryList (ht : Taken l i e (lists i)) (h : Family l lists)
    : Family (l.removeEntryList e)
        (if l.flink (.entry e) = .head i then Function.update lists i [] else lists) := by
  rcases ht.flink with hhead | ⟨y, ys, hlist, hentry⟩
  . rw [if_pos hhead]
    have hlinks : ∀ n, n ≠ .head i → (l.removeEntryList e).flink n = l.flink n ∧
        (l.removeEntryList e).blink n = l.blink n := by
      intro n hn
      refine ⟨removeEntryList_flink_of_ne ?_, removeEntryList_blink_of_ne ?_⟩
      . rwa [ht.blink]
      . rwa [hhead]
    refine ⟨?_, ?_, ?_⟩
    . intro j
      by_cases hj : j = i
      . rw [hj, Function.update_self]
        have hjoined := joined_removeEntryList (l := l) (e := e)
        rw [ht.blink, hhead] at hjoined
        exact List.isChain_pair.mpr hjoined
      . rw [Function.update_of_ne hj]
        have hne : ∀ n ∈ nodes j (lists j), n ≠ .head i := by
          rintro _ hn rfl
          exact hj (head_mem_nodes.mp hn).symm
        apply ring_frame (h.ring j)
        . exact fun n hn => (hlinks n (hne n hn)).1
        . exact fun n hn => (hlinks n (hne n hn)).2
    . intro j
      by_cases hj : j = i
      . rw [hj, Function.update_self]
        exact List.nodup_nil
      . rw [Function.update_of_ne hj]
        exact h.nodup j
    . intro j k hjk a haj hak
      by_cases hj : j = i
      . rw [hj, Function.update_self] at haj
        cases haj
      . rw [Function.update_of_ne hj] at haj
        by_cases hk : k = i
        . rw [hk, Function.update_self] at hak
          cases hak
        . rw [Function.update_of_ne hk] at hak
          exact h.disjoint j k hjk a haj hak
  . rw [if_neg (by rw [hentry]; exact fun hno => by cases hno)]
    have hsame : l.removeEntryList e = l := by
      have hring := h.ring i
      unfold Links.Ring nodes at hring
      rw [hlist] at hring
      obtain ⟨hflink, hblink⟩ := (List.isChain_cons_cons.mp hring).1
      unfold Links.removeEntryList
      simp only [ht.blink, hentry]
      rw [← hflink, Function.update_eq_self]
      rw [hflink, ← hblink, Function.update_eq_self]
    rw [hsame]
    exact h

-- What else happens to the lists leaves the links of the entry alone.
theorem Taken.insertTailList (ht : Taken l i e (lists i)) (h : Family l lists)
    (he : ∀ j, e ∉ lists j) {j : ι} {a : α} (hea : e ≠ a)
    : Taken (l.insertTailList j a) i e (Function.update lists j (lists j ++ [a]) i) := by
  have hne : Node.entry e ≠ (.entry a : Node ι α) := fun heq => hea (Node.entry.inj heq)
  have hflink : (l.insertTailList j a).flink (.entry e) = l.flink (.entry e) := by
    apply insertTailList_flink_of_ne hne
    intro heq
    have hmem := blink_head_mem (h.ring j)
    rw [← heq] at hmem
    exact he j (entry_mem_nodes.mp hmem)
  have hblink : (l.insertTailList j a).blink (.entry e) = l.blink (.entry e) :=
    insertTailList_blink_of_ne hne (fun hno => by cases hno)
  refine ⟨hblink.trans ht.blink, ?_⟩
  rw [hflink]
  rcases ht.flink with hhead | ⟨y, ys, hlist, hentry⟩
  . exact Or.inl hhead
  . right
    by_cases hj : i = j
    . rw [← hj, Function.update_self, hlist]
      exact ⟨y, ys ++ [a], rfl, hentry⟩
    . rw [Function.update_of_ne hj]
      exact ⟨y, ys, hlist, hentry⟩

theorem Taken.removeOther (ht : Taken l i e (lists i)) (h : Family l lists)
    (he : ∀ j, e ∉ lists j) {j : ι} (hj : j ≠ i) {a : α} (ha : a ∈ lists j)
    : Taken (l.removeEntryList a) i e (Function.update lists j ((lists j).erase a) i) := by
  obtain ⟨as, bs, hlist⟩ := List.append_of_mem ha
  have hring := h.ring j
  rw [hlist] at hring
  obtain ⟨⟨ns, hns⟩, ⟨ms, hms⟩⟩ := neighbours_of_ring hring
  have hno : e ∉ as ∧ e ∉ bs := by
    have hej := he j
    rw [hlist, List.mem_append, List.mem_cons, not_or, not_or] at hej
    exact ⟨hej.1, hej.2.2⟩
  have hflink : (l.removeEntryList a).flink (.entry e) = l.flink (.entry e) := by
    apply removeEntryList_flink_of_ne
    intro heq
    have hmem : l.blink (.entry a) ∈ nodes j as := by
      rw [hns]
      exact List.mem_append_right ns (List.mem_singleton_self _)
    rw [← heq] at hmem
    exact hno.1 (entry_mem_nodes.mp hmem)
  have hblink : (l.removeEntryList a).blink (.entry e) = l.blink (.entry e) := by
    apply removeEntryList_blink_of_ne
    intro heq
    have hmem : l.flink (.entry a) ∈ bs.map Node.entry ++ [Node.head j] := by
      rw [hms]
      exact List.mem_cons_self
    rw [← heq] at hmem
    rcases List.mem_append.mp hmem with hmem | hmem
    . obtain ⟨b, hb, hbe⟩ := List.mem_map.mp hmem
      exact hno.2 (Node.entry.inj hbe ▸ hb)
    . cases List.mem_singleton.mp hmem
  refine ⟨hblink.trans ht.blink, ?_⟩
  rw [hflink, Function.update_of_ne hj.symm]
  exact ht.flink

end Taken

end ListEntry
