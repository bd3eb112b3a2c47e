import Ndisrd.Lib.ListEntry
import Ndisrd.Lib.Loop

/-!
This module contains what works at the front of a circular list: `InsertHeadList`, `RemoveHeadList`, the
loops that walk a list from a node on and may leave it early, and those that empty a list from its front.
-/

namespace ListEntry

variable {ι α σ ρ : Type}

namespace Links

variable (l : Links ι α)

/-- The same memory, read in the other direction. -/
def swap : Links ι α := { flink := l.blink, blink := l.flink }

variable [DecidableEq ι] [DecidableEq α]

def initializeListHead (i : ι) : Links ι α :=
  { flink := Function.update l.flink (.head i) (.head i)
    blink := Function.update l.blink (.head i) (.head i) }

def insertHeadList (i : ι) (e : α) : Links ι α :=
  let flink := l.flink (.head i)
  { flink := Function.update (Function.update l.flink (.entry e) flink) (.head i) (.entry e)
    blink := Function.update (Function.update l.blink (.entry e) (.head i)) flink (.entry e) }

def removeHeadList (i : ι) : Node ι α × Links ι α :=
  let entry := l.flink (.head i)
  let flink := l.flink entry
  (entry,
    { flink := Function.update l.flink (.head i) flink
      blink := Function.update l.blink flink (.head i) })

end Links

/-! ### The front of a list -/

theorem isChain_swap {l : Links ι α} {ns : List (Node ι α)}
    : ns.reverse.IsChain l.swap.Joined ↔ ns.IsChain l.Joined := by
  rw [List.isChain_reverse]
  constructor
  . exact fun h => h.imp fun a b hab => ⟨hab.2, hab.1⟩
  . exact fun h => h.imp fun a b hab => ⟨hab.2, hab.1⟩

theorem ring_swap {l : Links ι α} {i : ι} {xs : List α} (h : l.Ring i xs)
    : l.swap.Ring i xs.reverse := by
  have hnodes : nodes i xs.reverse ++ [Node.head i] = (nodes i xs ++ [Node.head i]).reverse := by
    simp [nodes]
  unfold Links.Ring
  rw [hnodes]
  exact isChain_swap.mpr h

namespace Family

variable {l : Links ι α} {lists : ι → List α}

theorem swap (h : Family l lists) : Family l.swap (fun i => (lists i).reverse) where
  ring := fun i => ring_swap (h.ring i)
  nodup := fun i => List.nodup_reverse.mpr (h.nodup i)
  disjoint := by
    intro i j hij a hi hj
    exact h.disjoint i j hij a (List.mem_reverse.mp hi) (List.mem_reverse.mp hj)

theorem of_initializeListHead [DecidableEq ι] [DecidableEq α] {l : Links ι α} (heads : List ι)
    (h : ∀ i, i ∈ heads)
    : Family (heads.foldl (fun l i => l.initializeListHead i) l) (fun _ => []) where
  ring := by
    intro i
    apply List.isChain_pair.mpr
    suffices hjoined : ∀ (heads : List ι) (l : Links ι α),
        (i ∈ heads ∨ l.Joined (.head i) (.head i)) →
        (heads.foldl (fun l i => l.initializeListHead i) l).Joined (.head i) (.head i) by
      exact hjoined heads l (.inl (h i))
    intro heads
    induction heads with
    | nil =>
      intro l hl
      exact hl.resolve_left List.not_mem_nil
    | cons j heads ih =>
      intro l hl
      apply ih
      by_cases hj : i = j
      . subst hj
        exact .inr ⟨Function.update_self _ _ _, Function.update_self _ _ _⟩
      . have hne : (Node.head i : Node ι α) ≠ .head j := fun heq => hj (Node.head.inj heq)
        refine hl.imp (fun hmem => (List.mem_cons.mp hmem).resolve_left hj) ?_
        rintro ⟨hflink, hblink⟩
        constructor
        . exact (Function.update_of_ne hne _ _).trans hflink
        . exact (Function.update_of_ne hne _ _).trans hblink
  nodup := fun _ => List.nodup_nil
  disjoint := by
    intro i j _ a ha
    cases ha

section Operations

variable [DecidableEq ι] [DecidableEq α] (h : Family l lists) {i : ι} {e : α}
include h

theorem insertHeadList (he : ∀ j, e ∉ lists j)
    : Family (l.insertHeadList i e) (Function.update lists i (e :: lists i)) := by
  have hback := (h.swap.insertTailList (i := i) (e := e) fun j => mt List.mem_reverse.mp (he j)).swap
  have hlists : (fun j =>
      (Function.update (fun k => (lists k).reverse) i ((lists i).reverse ++ [e]) j).reverse) =
        Function.update lists i (e :: lists i) := by
    funext j
    by_cases hj : j = i
    . subst hj
      simp
    . simp [Function.update_of_ne hj]
  rw [hlists] at hback
  exact hback

theorem removeHeadList_nil (hlist : lists i = []) : l.removeHeadList i = (.head i, l) := by
  have hring := h.ring i
  rw [hlist] at hring
  obtain ⟨hflink, hblink⟩ : l.Joined (.head i) (.head i) := List.isChain_pair.mp hring
  have hsame := Function.update_eq_self (.head i) l.flink
  have hsame' := Function.update_eq_self (.head i) l.blink
  rw [hflink] at hsame
  rw [hblink] at hsame'
  unfold Links.removeHeadList
  simp only [hflink, hsame, hsame']

theorem removeHeadList_cons {xs : List α} (hlist : lists i = e :: xs)
    : l.removeHeadList i = (.entry e, l.removeEntryList e) := by
  have hring := h.ring i
  rw [hlist] at hring
  obtain ⟨hflink, hblink⟩ : l.Joined (.head i) (.entry e) := (List.isChain_cons_cons.mp hring).1
  unfold Links.removeHeadList Links.removeEntryList
  simp only [hflink, hblink]

end Operations

/-- The links behind a part of a list lead to the rest of it. -/
theorem flink_entry (h : Family l lists) {i : ι} {as bs : List α} {e : α}
    (hlist : lists i = as ++ e :: bs)
    : l.flink (.entry e) = ((bs.map Node.entry).head?.getD (.head i)) := by
  have hring := h.ring i
  rw [hlist] at hring
  obtain ⟨-, ms, hms⟩ := neighbours_of_ring hring
  cases bs with
  | nil => exact (List.cons.inj hms).1.symm
  | cons b bs => exact (List.cons.inj hms).1.symm

end Family

/-! ### Loops that walk a list -/

/--
One turn of a loop over the list of `i`. A walk that comes to the head of another list would take that
head for an entry: nothing is known of it then.
-/
def Links.walkTurn [DecidableEq ι] (l : Links ι α) (i : ι) (body : σ → α → Loop.Turn σ ρ)
    (finish : σ → ρ) (p : Node ι α × σ) : Loop.Turn (Node ι α × σ) (Option ρ) :=
  match p.1 with
  | .head j => if j = i then .done (some (finish p.2)) else .done none
  | .entry a =>
    match body p.2 a with
    | .goOn s => .goOn (l.flink (.entry a), s)
    | .done r => .done (some r)

/-- The same loop over a list of entries. -/
def overList (body : σ → α → Loop.Turn σ ρ) (finish : σ → ρ) (s : σ) : List α → ρ
  | [] => finish s
  | a :: as =>
    match body s a with
    | .goOn s => overList body finish s as
    | .done r => r

variable [DecidableEq ι] {l : Links ι α} {lists : ι → List α}
variable (body : σ → α → Loop.Turn σ ρ) (finish : σ → ρ)

theorem ends_walk (h : Family l lists) {i : ι} (bs as : List α) (hlist : lists i = as ++ bs) (s : σ)
    : Loop.Ends (l.walkTurn i body finish) ((bs.map Node.entry).head?.getD (.head i), s)
        (some (overList body finish s bs)) := by
  induction bs generalizing as s with
  | nil =>
    apply Loop.Ends.done
    simp [Links.walkTurn, overList]
  | cons b bs ih =>
    have hflink := h.flink_entry hlist
    cases hbody : body s b with
    | done r =>
      apply Loop.Ends.done
      simp [Links.walkTurn, overList, hbody]
    | goOn s' =>
      have hrest := ih (as ++ [b]) (by simpa using hlist) s'
      rw [← hflink] at hrest
      rw [overList, hbody]
      refine Loop.Ends.goOn ?_ hrest
      simp [Links.walkTurn, hbody]

theorem ends_walk_head (h : Family l lists) (i : ι) (s : σ)
    : Loop.Ends (l.walkTurn i body finish) (l.flink (.head i), s)
        (some (overList body finish s (lists i))) := by
  have hwalk := ends_walk body finish h (lists i) [] rfl s
  have hflink : l.flink (.head i) = ((lists i).map Node.entry).head?.getD (.head i) := by
    rcases h.flink_head i with ⟨hnil, hflink⟩ | ⟨x, xs, hcons, hflink⟩
    . rw [hnil, hflink]
      rfl
    . rw [hcons, hflink]
      rfl
  rw [hflink]
  exact hwalk

theorem ends_walk_entry (h : Family l lists) {i : ι} {as bs : List α} {e : α}
    (hlist : lists i = as ++ e :: bs) (s : σ)
    : Loop.Ends (l.walkTurn i body finish) (l.flink (.entry e), s)
        (some (overList body finish s bs)) := by
  rw [h.flink_entry hlist]
  exact ends_walk body finish h bs (as ++ [e]) (by simpa using hlist) s

/-! ### Loops that empty a list -/

variable [DecidableEq α]

def Links.drainTurn (i : ι) (body : σ → α → σ) (p : Links ι α × σ)
    : Loop.Turn (Links ι α × σ) (Option (Links ι α × σ)) :=
  let removed := p.1.removeHeadList i
  match removed.1 with
  | .head j => if j = i then .done (some (removed.2, p.2)) else .done none
  | .entry a => .goOn (removed.2, body p.2 a)

theorem ends_drain (h : Family l lists) (i : ι) (body : σ → α → σ) (s : σ)
    : ∃ l', Loop.Ends (Links.drainTurn i body) (l, s) (some (l', (lists i).foldl body s)) ∧
        Family l' (Function.update lists i []) := by
  induction hxs : lists i generalizing l lists s with
  | nil =>
    refine ⟨l, ?_, ?_⟩
    . apply Loop.Ends.done
      simp [Links.drainTurn, h.removeHeadList_nil hxs]
    . rw [← hxs, Function.update_eq_self]
      exact h
  | cons x xs ih =>
    have hx : x ∈ lists i := by
      rw [hxs]
      exact List.mem_cons_self
    have hremoved := h.removeEntryList hx
    rw [hxs, List.erase_cons_head] at hremoved
    obtain ⟨l', hends, hfamily⟩ := ih hremoved (s := body s x) (Function.update_self _ _ _)
    refine ⟨l', ?_, ?_⟩
    . refine Loop.Ends.goOn ?_ hends
      simp [Links.drainTurn, h.removeHeadList_cons hxs]
    . rw [Function.update_idem] at hfamily
      exact hfamily

end ListEntry
