import Ndisrd.Ansfw.OpenConn.Impl
import Ndisrd.Lib.Custody
import Mathlib.Data.List.Perm.Subperm

/-!
This module contains where the records are: on one of the lists, with an IRP, or with a thread. Every step
that unlinks a record from the list that it is on keeps that.
-/

namespace Ansfw.OpenConn

open ListHead ListEntry

inductive Holder where
  | thread (t : Nat)
  | call (irp : Nat)
  deriving DecidableEq

def Pc.record : Pc → Option Nat
  | .park _ r _ => some r
  | .insertPending _ r => some r
  | .insertTail _ r => some r
  | .completeRequest r => some r
  | .clear r => some r
  | .relink r => some r
  | _ => none

-- The record that `addrThread` has taken from `g_PendingAddrList`.
def Pc.hand : Pc → Option Nat
  | .completeRequest r => some r
  | .clear r => some r
  | .relink r => some r
  | _ => none

def Pc.RunBy (t : Nat) : Pc → Prop
  | .idle => True
  | .removeHead => t = addrThread
  | .completeRequest _ => t = addrThread
  | .clear _ => t = addrThread
  | .relink _ => t = addrThread
  | _ => t ≠ addrThread

def State.held (s : State) : Holder → Option Nat
  | .thread t => (s.pc t).record
  | .call irp => (s.calls irp).bind Call.context

def State.Known (s : State) (r : Nat) : Prop := r < s.nextRecord

def State.Loose (s : State) (r : Nat) : Prop := ListEntry.Loose s.list s.held s.Known r

structure Placed (s : State) : Prop where
  custody : Custody s.links s.list s.held s.Known
  taken : ∀ r, (s.pc addrThread).hand = some r → Taken s.links gPendingAddrList r (s.list gPendingAddrList)
  roles : ∀ t, (s.pc t).RunBy t

section

variable {s : State} {t irp r : Nat} {head : ListHead} {pc : Pc}

@[simp]
theorem held_goto : (s.goto t pc).held = Function.update s.held (.thread t) pc.record := by
  funext k
  cases k with
  | thread t' =>
    by_cases ht : t' = t
    . rw [ht, Function.update_self]
      exact congrArg Pc.record (Function.update_self _ _ _)
    . rw [Function.update_of_ne fun heq => ht (Holder.thread.inj heq)]
      exact congrArg Pc.record (Function.update_of_ne ht _ _)
  | call irp =>
    rw [Function.update_of_ne fun heq => by cases heq]
    rfl

@[simp]
theorem held_pass {call : Option Call}
    : (s.pass irp call).held = Function.update s.held (.call irp) (call.bind Call.context) := by
  funext k
  cases k with
  | thread t' =>
    rw [Function.update_of_ne fun heq => by cases heq]
    rfl
  | call irp' =>
    by_cases hirp : irp' = irp
    . rw [hirp, Function.update_self]
      exact congrArg (Option.bind · Call.context) (Function.update_self _ _ _)
    . rw [Function.update_of_ne fun heq => hirp (Holder.call.inj heq)]
      exact congrArg (Option.bind · Call.context) (Function.update_of_ne hirp _ _)

@[simp]
theorem held_answer {c : Completion} {call : Call}
    : (s.answer c irp call).held = Function.update s.held (.call irp) none :=
  @held_pass s irp none

theorem length_list_le {xs : List Nat} {n : Nat} (hnodup : xs.Nodup) (hxs : ∀ r ∈ xs, r < n)
    : xs.length ≤ n := by
  have hsub : xs ⊆ List.range n := fun r hr => List.mem_range.mpr (hxs r hr)
  have hle := (List.subperm_of_subset hnodup hsub).length_le
  rwa [List.length_range] at hle

-- The walk through a list finds what is on it.
theorem list_eq {lists : ListHead → List Nat} {held : Holder → Option Nat}
    (h : Custody s.links lists held s.Known)
    : s.list = lists := by
  funext head
  exact h.family.toList_eq (length_list_le (h.family.nodup head) (h.listed head))

theorem find_mem {file : Nat} (hr : s.find head file = some r) : r ∈ s.list head :=
  List.mem_of_find?_eq_some hr

theorem find_file {file : Nat} (hr : s.find head file = some r) : (s.record r).pFileObject = file := by
  have heq := List.find?_some (p := fun r => decide ((s.record r).pFileObject = file)) hr
  exact of_decide_eq_true heq

theorem file_ne_of_find {file : Nat} (hnone : s.find head file = none) (hr : r ∈ s.list head)
    : (s.record r).pFileObject ≠ file := fun heq =>
  List.find?_eq_none.mp hnone r hr (decide_eq_true heq)

theorem Pc.record_of_hand (h : pc.hand = some r) : pc.record = some r := by
  cases pc with
  | completeRequest | clear | relink => exact h
  | _ => cases h

end

namespace Placed

variable {s : State} (h : Placed s) {t irp r : Nat} {head : ListHead} {pc : Pc}
include h

/-! ### The operations -/

theorem setRecord {c : TdiOpenConn} : Placed (s.setRecord r c) := ⟨h.custody, h.taken, h.roles⟩

theorem mem_unique {head' : ListHead} (hr : r ∈ s.list head) (hr' : r ∈ s.list head') : head = head' := by
  by_contra hne
  exact h.custody.family.disjoint head head' hne r hr hr'

theorem list_insert (head : ListHead) (hr : s.Loose r)
    : (s.insert head r).list = Function.update s.list head (s.list head ++ [r]) :=
  list_eq (s := s.insert head r) (h.custody.insertTailList hr)

theorem list_remove (hr : r ∈ s.list head)
    : (s.remove r).list = Function.update s.list head ((s.list head).erase r) :=
  list_eq (s := s.remove r) (h.custody.removeEntryList hr)

theorem insert (hr : s.Loose r) : Placed (s.insert head r) := by
  have hlist := h.list_insert head hr
  refine ⟨?_, ?_, h.roles⟩
  . rw [hlist]
    exact h.custody.insertTailList hr
  . intro e he
    have hheld : s.held (.thread addrThread) = some e := Pc.record_of_hand he
    rw [hlist]
    apply (h.taken e he).insertTailList h.custody.family (h.custody.off _ e hheld)
    rintro rfl
    exact hr.free _ hheld

theorem remove (hr : r ∈ s.list head)
    (hhead : head ≠ gPendingAddrList ∨ (s.pc addrThread).hand = none)
    : Placed (s.remove r) := by
  have hlist := h.list_remove hr
  refine ⟨?_, ?_, h.roles⟩
  . rw [hlist]
    exact h.custody.removeEntryList hr
  . intro e he
    have hheld : s.held (.thread addrThread) = some e := Pc.record_of_hand he
    rcases hhead with hhead | hnone
    . rw [hlist]
      exact (h.taken e he).removeOther h.custody.family (h.custody.off _ e hheld) hhead hr
    . cases hnone.symm.trans he

theorem loose_remove (hr : r ∈ s.list head) : (s.remove r).Loose r := by
  unfold State.Loose
  rw [h.list_remove hr]
  exact h.custody.loose_of_remove hr

theorem list_insert_of_ne {head' : ListHead} (hr : s.Loose r) (hhead : head' ≠ head)
    : (s.insert head r).list head' = s.list head' := by
  rw [h.list_insert head hr, Function.update_of_ne hhead]

theorem list_remove_of_ne {head' : ListHead} (hr : r ∈ s.list head) (hhead : head' ≠ head)
    : (s.remove r).list head' = s.list head' := by
  rw [h.list_remove hr, Function.update_of_ne hhead]

theorem mem_insert_iff {head' : ListHead} {a : Nat} (hr : s.Loose r)
    : a ∈ (s.insert head r).list head' ↔ a ∈ s.list head' ∨ head' = head ∧ a = r := by
  rw [h.list_insert head hr]
  by_cases hhead : head' = head
  . rw [hhead, Function.update_self, List.mem_append, List.mem_singleton]
    exact or_congr_right (and_iff_right rfl).symm
  . rw [Function.update_of_ne hhead]
    exact (or_iff_left fun hno => hhead hno.1).symm

theorem mem_remove_iff {head' : ListHead} {a : Nat} (hr : r ∈ s.list head)
    : a ∈ (s.remove r).list head' ↔ a ∈ s.list head' ∧ a ≠ r := by
  rw [h.list_remove hr]
  by_cases hhead : head' = head
  . rw [hhead, Function.update_self, (h.custody.family.nodup head).mem_erase_iff]
    exact and_comm
  . rw [Function.update_of_ne hhead]
    refine (and_iff_left_of_imp fun ha => ?_).symm
    rintro rfl
    exact hhead (h.mem_unique ha hr)

-- The second `RemoveEntryList` of `addrThread`.
theorem list_removeTaken (ht : Taken s.links gPendingAddrList r (s.list gPendingAddrList))
    : (s.remove r).list =
        if s.links.flink (.entry r) = .head gPendingAddrList then
          Function.update s.list gPendingAddrList []
        else
          s.list := by
  have hfamily := ht.removeEntryList h.custody.family
  split
  . next hflink =>
    rw [if_pos hflink] at hfamily
    exact list_eq (s := s.remove r) (h.custody.of_empty hfamily)
  . next hflink =>
    rw [if_neg hflink] at hfamily
    exact list_eq (s := s.remove r) { h.custody with family := hfamily }

theorem removeTaken (ht : Taken s.links gPendingAddrList r (s.list gPendingAddrList))
    (hhand : (s.pc addrThread).hand = none)
    : Placed (s.remove r) := by
  have hlist := h.list_removeTaken ht
  have hfamily := ht.removeEntryList h.custody.family
  refine ⟨?_, fun e he => (by cases hhand.symm.trans he), h.roles⟩
  rw [hlist]
  split
  . next hflink =>
    rw [if_pos hflink] at hfamily
    exact h.custody.of_empty hfamily
  . next hflink =>
    rw [if_neg hflink] at hfamily
    exact { h.custody with family := hfamily }

theorem loose_removeTaken (ht : Taken s.links gPendingAddrList r (s.list gPendingAddrList))
    (hr : s.Loose r)
    : (s.remove r).Loose r := by
  unfold State.Loose
  rw [h.list_removeTaken ht]
  split
  . refine ⟨hr.known, ?_, hr.free⟩
    intro head hmem
    by_cases hhead : head = gPendingAddrList
    . rw [hhead, Function.update_self] at hmem
      cases hmem
    . rw [Function.update_of_ne hhead] at hmem
      exact hr.off head hmem
  . exact hr

-- A thread keeps its record, or takes one that is loose.
theorem goto (hrun : pc.RunBy t)
    (hrecord : ∀ r, pc.record = some r → s.Loose r ∨ (s.pc t).record = some r)
    (hhand : ∀ r, pc.hand = some r → (s.pc t).hand = some r)
    : Placed (s.goto t pc) := by
  refine ⟨?_, ?_, ?_⟩
  . rw [held_goto]
    cases hr : pc.record with
    | none => exact h.custody.drop
    | some r =>
      rcases hrecord r hr with hloose | hsame
      . exact h.custody.give hloose
      . have heq : Function.update s.held (.thread t) (some r) = s.held := by
          rw [← hsame]
          exact Function.update_eq_self (f := s.held) (.thread t)
        rw [heq]
        exact h.custody
  . intro e he
    apply h.taken e
    by_cases ht : addrThread = t
    . have hpc : (s.goto t pc).pc addrThread = pc := by
        rw [ht]
        exact Function.update_self _ _ _
      rw [hpc] at he
      rw [ht]
      exact hhand e he
    . rwa [show (s.goto t pc).pc addrThread = s.pc addrThread from Function.update_of_ne ht _ _] at he
  . intro t'
    by_cases ht : t' = t
    . rw [ht, show (s.goto t pc).pc t = pc from Function.update_self _ _ _]
      exact hrun
    . rw [show (s.goto t pc).pc t' = s.pc t' from Function.update_of_ne ht _ _]
      exact h.roles t'

theorem drop : Placed (s.goto t .idle) :=
  h.goto trivial (fun _ hno => by cases hno) (fun _ hno => by cases hno)

theorem loose_drop {pc : Pc} (hr : (s.pc t).record = some r) (hpc : pc.record = none)
    : (s.goto t pc).Loose r := by
  unfold State.Loose
  rw [held_goto, hpc]
  exact h.custody.loose_of_drop hr

theorem list_release (head : ListHead) (hr : (s.pc t).record = some r)
    : (s.insert head r).list = Function.update s.list head (s.list head ++ [r]) :=
  h.drop.list_insert head (h.loose_drop hr (show Pc.record .idle = none from rfl))

theorem answer {c : Completion} {call : Call} : Placed (s.answer c irp call) := by
  refine ⟨?_, h.taken, h.roles⟩
  rw [held_answer]
  exact h.custody.drop

theorem loose_answer {c : Completion} {call : Call} (hcall : s.calls irp = some call)
    (hr : call.context = some r)
    : (s.answer c irp call).Loose r := by
  unfold State.Loose
  rw [held_answer]
  apply h.custody.loose_of_drop
  show (s.calls irp).bind Call.context = some r
  rw [hcall]
  exact hr

theorem pass {call : Option Call} (hr : ∀ r, call.bind Call.context = some r → s.Loose r)
    : Placed (s.pass irp call) := by
  refine ⟨?_, h.taken, h.roles⟩
  rw [held_pass]
  cases hcontext : call.bind Call.context with
  | none => exact h.custody.drop
  | some r => exact h.custody.give (hr r hcontext)

end Placed

end Ansfw.OpenConn
