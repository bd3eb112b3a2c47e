import Mathlib.Order.BooleanAlgebra.Set
import Mathlib.Logic.Function.Basic
import Mathlib.Logic.Relation
import Ndisrd.Lib.Run

/-!
This module contains threads that take and release spin locks: their interleavings, the discipline by
which a thread nests its critical sections, and the lock order argument against deadlocks.
-/

namespace Lock

inductive Op (L : Type) where
  | acquire (l : L)
  | release (l : L)
  deriving DecidableEq, Repr

structure State (ι L : Type) where
  owner : L → Option ι
  todo : ι → List (Op L)

inductive Event (ι L : Type) where
  | start (i : ι) (ops : List (Op L))
  | next (i : ι)

variable {ι L : Type}

def initial : State ι L := ⟨fun _ => none, fun _ => []⟩

namespace State

variable (s : State ι L)

def Holds (i : ι) : Set L := { l | s.owner l = some i }

def Wants (i : ι) (l : L) : Prop := ∃ rest, s.todo i = .acquire l :: rest

def Waits (i j : ι) : Prop := ∃ l, s.Wants i l ∧ s.owner l = some j

def Deadlock : Prop := ∃ i, Relation.TransGen s.Waits i i

@[simp]
theorem mem_holds {i : ι} {l : L} : l ∈ s.Holds i ↔ s.owner l = some i := Iff.rfl

theorem holds_initial (i : ι) : (initial : State ι L).Holds i = ∅ := by
  ext l
  simp [initial]

end State

/-! ### The lock order argument -/

section Order

variable {s : State ι L} {lt : L → L → Prop}

theorem waits_chain (htrans : ∀ a b c, lt a b → lt b c → lt a c)
    (h : ∀ i, ∀ k ∈ s.Holds i, ∀ l, s.Wants i l → lt k l) {i j : ι}
    (hchain : Relation.TransGen s.Waits i j)
    : ∃ l k, s.Wants i l ∧ s.owner k = some j ∧ (l = k ∨ lt l k) := by
  -- along the chain the lock that is waited for only gets higher
  induction hchain with
  | single hw =>
    obtain ⟨l, hwants, howner⟩ := hw
    exact ⟨l, l, hwants, howner, Or.inl rfl⟩
  | @tail j m _ hw ih =>
    obtain ⟨l, k, hwants, howner, hle⟩ := ih
    obtain ⟨l', hwants', howner'⟩ := hw
    have hlt := h j k howner l' hwants'
    refine ⟨l, l', hwants, howner', Or.inr ?_⟩
    rcases hle with heq | hlk
    . rw [heq]
      exact hlt
    . exact htrans l k l' hlk hlt

theorem not_deadlock_of_order (hirrefl : ∀ a, ¬lt a a) (htrans : ∀ a b c, lt a b → lt b c → lt a c)
    (h : ∀ i, ∀ k ∈ s.Holds i, ∀ l, s.Wants i l → lt k l)
    : ¬s.Deadlock := by
  intro ⟨i, hcycle⟩
  obtain ⟨l, k, hwants, howner, hle⟩ := waits_chain htrans h hcycle
  have hlt := h i k howner l hwants
  rcases hle with heq | hlk
  . rw [heq] at hlt
    exact hirrefl k hlt
  . exact hirrefl l (htrans l k l hlk hlt)

theorem not_deadlock_of_rank (rank : L → Nat)
    (h : ∀ i, ∀ k ∈ s.Holds i, ∀ l, s.Wants i l → rank k < rank l)
    : ¬s.Deadlock := by
  let lt : L → L → Prop := fun k l => rank k < rank l
  have hirrefl : ∀ a, ¬lt a a := fun _ => Nat.lt_irrefl _
  have htrans : ∀ a b c, lt a b → lt b c → lt a c := fun _ _ _ => Nat.lt_trans
  exact not_deadlock_of_order hirrefl htrans h

end Order

/-! ### Nested critical sections -/

/--
Carrying out the operations with the locks `held` ends with the locks `held'`, releases only locks that
are held, and takes a lock only where `P` allows it with the locks held then.
-/
def Nests (P : Set L → L → Prop) : Set L → List (Op L) → Set L → Prop
  | held, [], held' => held = held'
  | held, .acquire l :: ops, held' => P held l ∧ Nests P (insert l held) ops held'
  | held, .release l :: ops, held' => l ∈ held ∧ Nests P (held \ {l}) ops held'

namespace Nests

variable {P : Set L → L → Prop} {held : Set L}

theorem nil : Nests P held [] held := rfl

theorem append {ops ops' : List (Op L)} {held' held'' : Set L} (h : Nests P held ops held')
    (h' : Nests P held' ops' held'')
    : Nests P held (ops ++ ops') held'' := by
  induction ops generalizing held with
  | nil =>
    rw [Nests] at h
    rw [List.nil_append, h]
    exact h'
  | cons op ops ih =>
    cases op with
    | acquire l => exact ⟨h.1, ih h.2⟩
    | release l => exact ⟨h.1, ih h.2⟩

theorem seq {ops ops' : List (Op L)} (h : Nests P held ops held) (h' : Nests P held ops' held)
    : Nests P held (ops ++ ops') held := h.append h'

theorem critical {l : L} (hfresh : l ∉ held) (hP : P held l) {ops : List (Op L)}
    (h : Nests P (insert l held) ops (insert l held))
    : Nests P held (.acquire l :: (ops ++ [.release l])) held := by
  refine ⟨hP, h.append ⟨Set.mem_insert l held, ?_⟩⟩
  rw [Set.insert_sdiff_self_of_notMem hfresh]
  exact nil

theorem flatMap {α : Type} {f : α → List (Op L)} {xs : List α}
    (h : ∀ x ∈ xs, Nests P held (f x) held)
    : Nests P held (xs.flatMap f) held := by
  induction xs with
  | nil => exact nil
  | cons x xs ih =>
    obtain ⟨hx, hxs⟩ := List.forall_mem_cons.mp h
    rw [List.flatMap_cons]
    exact hx.seq (ih hxs)

end Nests

/-! ### Runs -/

def Disciplined (P : ι → Set L → L → Prop) (s : State ι L) : Prop :=
  ∀ i, Nests (P i) (s.Holds i) (s.todo i) ∅

def StartsNested (P : ι → Set L → L → Prop) : Event ι L → Prop
  | .start i ops => Nests (P i) ∅ ops ∅
  | .next _ => True

section Discipline

variable {P : ι → Set L → L → Prop}

theorem disciplined_initial : Disciplined P (initial : State ι L) := by
  intro i
  rw [State.holds_initial]
  apply Nests.nil

theorem Disciplined.wants {s : State ι L} (hs : Disciplined P s) {i : ι} {l : L} (h : s.Wants i l)
    : P i (s.Holds i) l := by
  obtain ⟨rest, htodo⟩ := h
  have hi := hs i
  rw [htodo] at hi
  exact hi.1

end Discipline

section Holds

variable [DecidableEq L]

theorem holds_update_self {s : State ι L} {i : ι} {l : L} {todo : ι → List (Op L)}
    : (⟨Function.update s.owner l (some i), todo⟩ : State ι L).Holds i = insert l (s.Holds i) := by
  ext k
  by_cases hk : k = l
  . simp [hk]
  . simp [hk]

theorem holds_release {s : State ι L} {i : ι} {l : L} {todo : ι → List (Op L)}
    : (⟨Function.update s.owner l none, todo⟩ : State ι L).Holds i = s.Holds i \ {l} := by
  ext k
  by_cases hk : k = l
  . simp [hk]
  . simp [hk]

theorem holds_update_other {s : State ι L} {i j : ι} {l : L} {todo : ι → List (Op L)}
    (hfree : s.owner l = none) (hji : j ≠ i)
    : (⟨Function.update s.owner l (some i), todo⟩ : State ι L).Holds j = s.Holds j := by
  ext k
  by_cases hk : k = l
  . simp [hk, hfree, hji.symm]
  . simp [hk]

end Holds

variable [DecidableEq ι] [DecidableEq L]

def step (s : State ι L) : Event ι L → State ι L
  | .start i ops =>
    if s.todo i = [] then { s with todo := Function.update s.todo i ops } else s
  | .next i =>
    match s.todo i with
    | [] => s
    | .acquire l :: rest =>
      match s.owner l with
      | none => ⟨Function.update s.owner l (some i), Function.update s.todo i rest⟩
      -- the thread spins, also on a lock that it holds itself
      | some _ => s
    | .release l :: rest => ⟨Function.update s.owner l none, Function.update s.todo i rest⟩

inductive Stepped (s : State ι L) : Event ι L → State ι L → Prop where
  | stays (e : Event ι L) : Stepped s e s
  | started {i : ι} {ops : List (Op L)} (htodo : s.todo i = [])
      : Stepped s (.start i ops) { s with todo := Function.update s.todo i ops }
  | acquired {i : ι} {l : L} {rest : List (Op L)} (htodo : s.todo i = .acquire l :: rest)
      (hfree : s.owner l = none)
      : Stepped s (.next i) ⟨Function.update s.owner l (some i), Function.update s.todo i rest⟩
  | released {i : ι} {l : L} {rest : List (Op L)} (htodo : s.todo i = .release l :: rest)
      : Stepped s (.next i) ⟨Function.update s.owner l none, Function.update s.todo i rest⟩

theorem stepped (s : State ι L) (e : Event ι L) : Stepped s e (step s e) := by
  cases e with
  | start i ops =>
    unfold step
    simp only
    split
    . next htodo => exact .started htodo
    . exact .stays _
  | next i =>
    unfold step
    simp only
    split
    . exact .stays _
    . next l rest htodo =>
      split
      . next hfree => exact .acquired htodo hfree
      . exact .stays _
    . next l rest htodo => exact .released htodo

theorem disciplined_step {P : ι → Set L → L → Prop} {s : State ι L} (hs : Disciplined P s)
    {e : Event ι L} (he : StartsNested P e)
    : Disciplined P (step s e) := by
  have hstep := stepped s e
  generalize step s e = s' at hstep ⊢
  cases hstep with
  | stays => exact hs
  | @started i ops htodo =>
    intro j
    by_cases hji : j = i
    . subst hji
      have hempty : s.Holds j = ∅ := by
        have hj := hs j
        rw [htodo] at hj
        exact hj
      simp only [Function.update_self]
      rw [show State.Holds { s with todo := Function.update s.todo j ops } j = s.Holds j from rfl,
        hempty]
      exact he
    . simp only [Function.update_of_ne hji]
      apply hs
  | @acquired i l rest htodo hfree =>
    intro j
    by_cases hji : j = i
    . subst hji
      have hj := hs j
      rw [htodo] at hj
      rw [holds_update_self]
      simp only [Function.update_self]
      exact hj.2
    . rw [holds_update_other hfree hji]
      simp only [Function.update_of_ne hji]
      exact hs j
  | @released i l rest htodo =>
    have hi := hs i
    rw [htodo] at hi
    intro j
    rw [holds_release]
    by_cases hji : j = i
    . subst hji
      simp only [Function.update_self]
      exact hi.2
    -- the lock was held by the thread that releases it, so by no other
    . have hother : s.Holds j \ {l} = s.Holds j := by
        refine Set.sdiff_singleton_eq_self fun hmem => hji ?_
        exact Option.some.inj (hmem.symm.trans hi.1)
      rw [hother]
      simp only [Function.update_of_ne hji]
      exact hs j

/-! ### Sections that take a lock -/

def State.Ahead (s : State ι L) (i : ι) (l m : L) : Prop :=
  s.owner l = some i ∧ .acquire m ∈ s.todo i

def Enters (s : State ι L) (e : Event ι L) (i : ι) (l m : L) : Prop :=
  e = .next i ∧ s.owner l = none ∧ ∃ rest, s.todo i = .acquire l :: rest ∧ .acquire m ∈ rest

theorem ahead_step {P : ι → Set L → L → Prop} {s : State ι L} (hs : Disciplined P s)
    {e : Event ι L} {i : ι} {l m : L} (h : (step s e).Ahead i l m)
    : s.Ahead i l m ∨ Enters s e i l m := by
  have hstep := stepped s e
  generalize step s e = s' at hstep h
  obtain ⟨howner, hmem⟩ := h
  cases hstep with
  | stays => exact Or.inl ⟨howner, hmem⟩
  | @started j ops htodo =>
    by_cases hij : i = j
    . subst hij
      have hi := hs i
      rw [htodo] at hi
      -- a thread that starts a pass holds no lock yet
      have hempty : s.Holds i = ∅ := hi
      have hl : l ∈ s.Holds i := howner
      rw [hempty] at hl
      cases hl
    . simp only [Function.update_of_ne hij] at hmem
      exact Or.inl ⟨howner, hmem⟩
  | @acquired j k rest htodo hfree =>
    by_cases hij : i = j
    . subst hij
      simp only [Function.update_self] at hmem
      by_cases hlk : l = k
      . subst hlk
        exact Or.inr ⟨rfl, hfree, rest, htodo, hmem⟩
      . simp only [Function.update_of_ne hlk] at howner
        refine Or.inl ⟨howner, ?_⟩
        rw [htodo]
        exact List.mem_cons_of_mem _ hmem
    . simp only [Function.update_of_ne hij] at hmem
      by_cases hlk : l = k
      . simp only [hlk, Function.update_self] at howner
        exact absurd (Option.some.inj howner).symm hij
      . simp only [Function.update_of_ne hlk] at howner
        exact Or.inl ⟨howner, hmem⟩
  | @released j k rest htodo =>
    have howner' : s.owner l = some i := by
      by_cases hlk : l = k
      . simp [hlk] at howner
      . simpa only [Function.update_of_ne hlk] using howner
    refine Or.inl ⟨howner', ?_⟩
    by_cases hij : i = j
    . subst hij
      simp only [Function.update_self] at hmem
      rw [htodo]
      exact List.mem_cons_of_mem _ hmem
    . simpa only [Function.update_of_ne hij] using hmem

end Lock
