import Ndisrd.Ansfw.OpenConn.Lists

/-!
This module contains the steps on records that are where they belong: the dispatch routines, the
completion routines and what the threads do between two locks.
-/

namespace Ansfw.OpenConn

open ListHead ListEntry

/--
What `tdiAllocOpenConn` changes.
-/
structure Allocated (s s' : State) (r : Nat) : Prop where
  fresh : r ∈ s.list gFreeAddrList ∨ r = s.nextRecord
  known : ∀ a, s'.Known a ↔ s.Known a ∨ a = r
  list : s'.list = Function.update s.list gFreeAddrList ((s.list gFreeAddrList).erase r)
  record : s'.record = Function.update s.record r .zero
  calls : s'.calls = s.calls
  pc : s'.pc = s.pc
  objects : s'.objects = s.objects
  issued : s'.issued = s.issued
  parked : s'.parked = s.parked
  completed : s'.completed = s.completed

/--
The record that a completed `TDI_LISTEN` or `TDI_CONNECT` unlinks is on `g_OpenAddrList`.
-/
def OpenFound (c : Completion) (s : State) (call : Call) : Prop :=
  (call.request = .listen ∨ call.request = .connect) → c.sameDevice → c.success →
    ∀ r ∈ s.addrObject call.file, r ∈ s.list gOpenAddrList

-- The file of the address that a thread still looks for on `g_PendingAddrList`.
def Pc.closing : Pc → Option Nat
  | .findPending file => some file
  | _ => none

namespace Placed

variable {s : State} (h : Placed s) {t irp file r : Nat}

section Dispatch

include h

theorem tdiAllocOpenConn {poolAlloc : Bool} {s' : State}
    (halloc : tdiAllocOpenConn poolAlloc s = some (r, s'))
    : Placed s' ∧ s'.Loose r ∧ Allocated s s' r := by
  unfold OpenConn.tdiAllocOpenConn at halloc
  rcases h.custody.family.flink_head gFreeAddrList with ⟨hempty, hflink⟩ | ⟨x, xs, hlist, hflink⟩
  . rw [hflink] at halloc
    cases poolAlloc with
    | false => cases halloc
    | true =>
      cases halloc
      have hknown : ∀ a, a < s.nextRecord → a < s.nextRecord + 1 := fun a ha => Nat.lt_succ_of_lt ha
      have hcustody := h.custody.learn hknown
      have hlist := list_eq (s := { s.setRecord s.nextRecord .zero with nextRecord := s.nextRecord + 1 })
        hcustody
      refine ⟨⟨?_, ?_, h.roles⟩, ?_, ?_⟩
      . rw [hlist]
        exact hcustody
      . rw [hlist]
        exact h.taken
      . unfold State.Loose
        rw [hlist]
        exact h.custody.loose_of_learn (Nat.lt_succ_self _) (Nat.lt_irrefl _)
      . refine ⟨Or.inr rfl, fun a => Nat.lt_succ_iff_lt_or_eq, ?_, rfl, rfl, rfl, rfl, rfl, rfl, rfl⟩
        rw [hlist, hempty, List.erase_nil, ← hempty, Function.update_eq_self]
  . rw [hflink] at halloc
    cases halloc
    have hx : r ∈ s.list gFreeAddrList := by
      rw [hlist]
      exact List.mem_cons_self
    refine ⟨(h.remove hx (Or.inl fun hno => by cases hno)).setRecord, h.loose_remove hx, ?_⟩
    refine ⟨Or.inl hx, ?_, h.list_remove hx, rfl, rfl, rfl, rfl, rfl, rfl, rfl⟩
    refine fun a => ⟨Or.inl, ?_⟩
    rintro (ha | ha)
    . exact ha
    . rw [ha]
      exact h.custody.listed _ _ hx

theorem tdiOpen {poolAlloc : Bool} {request : Request}
    : Placed (tdiOpen poolAlloc s irp request file) := by
  unfold OpenConn.tdiOpen
  cases halloc : OpenConn.tdiAllocOpenConn poolAlloc s with
  | none => exact h.pass fun r hr => by cases hr
  | some alloc =>
    obtain ⟨hplaced, hloose, _⟩ := h.tdiAllocOpenConn halloc
    apply hplaced.setRecord.pass
    rintro r ⟨⟩
    exact hloose

theorem tdiTake {call : Call} (hcall : call.context = some r)
    (hfind : s.find gOpenAddrList file = some r)
    : Placed ((s.remove r).pass irp (some call)) := by
  have hr := find_mem hfind
  apply (h.remove hr (Or.inl fun hno => by cases hno)).pass
  intro a ha
  cases hcall.symm.trans ha
  exact h.loose_remove hr

theorem dispatch {poolAlloc : Bool} {request : Request}
    : Placed (dispatch poolAlloc s irp request file) := by
  have hpass : ∀ {call : Option Call}, call.bind Call.context = none → Placed (s.pass irp call) :=
    fun hcall => h.pass fun r hr => by cases hcall.symm.trans hr
  cases request with
  | openAddress | openConnection => exact h.tdiOpen
  | associateAddress addressFile =>
    show Placed (tdiAssociateAddress s irp file addressFile)
    unfold tdiAssociateAddress
    cases hfind : s.find gOpenAddrList addressFile with
    | none => exact hpass rfl
    | some r => exact h.tdiTake rfl hfind
  | setEvent =>
    show Placed (tdiSetEvent s irp file)
    unfold tdiSetEvent
    cases hfind : s.find gOpenAddrList file with
    | none => exact hpass rfl
    | some r => exact h.tdiTake rfl hfind
  | _ => exact hpass rfl

end Dispatch

/-! ### The completion routines -/

section Completion

variable {c : Completion} (ht : t ≠ addrThread)
include h

-- A thread leaves a completion routine with a record that is loose.
theorem leave {pc : Pc} (hpc : pc.RunBy t) (hr : ∀ a, pc.record = some a → s.Loose a)
    (hhand : pc.hand = none)
    : Placed (s.goto t pc) :=
  h.goto hpc (fun a ha => Or.inl (hr a ha)) fun a ha => by cases hhand.symm.trans ha

include ht in
theorem insertTail_of_remove {head : ListHead} (head' : ListHead) (hr : r ∈ s.list head)
    (hhead : head ≠ gPendingAddrList ∨ (s.pc addrThread).hand = none)
    : Placed ((s.remove r).goto t (.insertTail head' r)) := by
  apply (h.remove hr hhead).leave
  . exact ht
  . rintro a ⟨⟩
    exact h.loose_remove hr
  . rfl

include ht in
theorem tdiOpenAddressComplete {context : Option Nat} (hloose : ∀ r, context = some r → s.Loose r)
    : Placed (tdiOpenAddressComplete c s t irp context) := by
  cases context with
  | none => exact h
  | some r =>
    have hr := hloose r rfl
    rw [OpenConn.tdiOpenAddressComplete]
    split
    . split
      . exact h.insert hr
      . apply h.leave
        . exact ht
        . rintro a ⟨⟩
          exact hr
        . rfl
    . exact h.insert hr

theorem tdiOpenConnectionComplete {context : Option Nat} (hloose : ∀ r, context = some r → s.Loose r)
    : Placed (tdiOpenConnectionComplete c s context) := by
  cases context with
  | none => exact h
  | some r =>
    rw [OpenConn.tdiOpenConnectionComplete]
    split
    . exact h.insert (hloose r rfl)
    . exact h.insert (hloose r rfl)

theorem tdiAssociateAddressComplete {context : Option Nat}
    (hloose : ∀ r, context = some r → s.Loose r)
    : Placed (tdiAssociateAddressComplete c s file context) := by
  cases context with
  | none => exact h
  | some r =>
    rw [OpenConn.tdiAssociateAddressComplete]
    split
    . split
      . exact (h.setRecord.setRecord).insert (hloose r rfl)
      . exact h.insert (hloose r rfl)
    . exact h.insert (hloose r rfl)

theorem tdiDisAssociateAddressComplete : Placed (tdiDisAssociateAddressComplete c s file) := by
  unfold OpenConn.tdiDisAssociateAddressComplete
  split
  . split
    . split
      . exact h.setRecord.setRecord
      . exact h.setRecord
    . exact h
  . exact h

include ht in
theorem closeRecord {head : ListHead} (hr : r ∈ s.list head)
    (hhead : head ≠ gPendingAddrList ∨ (s.pc addrThread).hand = none)
    : Placed (closeRecord s t r) := by
  have hplaced := h.insertTail_of_remove ht gFreeAddrList hr hhead
  unfold OpenConn.closeRecord
  dsimp only
  split
  . exact hplaced.setRecord
  . exact hplaced

include ht in
theorem tdiCloseAddressComplete : Placed (tdiCloseAddressComplete c s t file) := by
  unfold OpenConn.tdiCloseAddressComplete
  split
  . split
    . next hfind => exact h.closeRecord ht (find_mem hfind) (Or.inl fun hno => by cases hno)
    . apply h.leave
      . exact ht
      . exact fun a ha => by cases ha
      . rfl
  . exact h

include ht in
theorem tdiCloseConnectionComplete : Placed (tdiCloseConnectionComplete c s t file) := by
  unfold OpenConn.tdiCloseConnectionComplete
  split
  . split
    . next tcpObj hfind =>
      have hplaced := h.insertTail_of_remove ht gFreeAddrList (find_mem hfind)
        (Or.inl fun hno => by cases hno)
      split
      . exact hplaced.setRecord
      . exact hplaced
    . exact h
  . exact h

include ht in
theorem tdiSetEventComplete {context : Option Nat} (hloose : ∀ r, context = some r → s.Loose r)
    : Placed (tdiSetEventComplete c s t irp context) := by
  cases context with
  | none => exact h
  | some r =>
    rw [OpenConn.tdiSetEventComplete]
    split
    . apply h.leave
      . exact ht
      . rintro a ⟨⟩
        exact hloose r rfl
      . rfl
    . exact h.insert (hloose r rfl)

include ht in
theorem tdiListenComplete {listen : Bool}
    (hopen : c.sameDevice → c.success → ∀ r, s.addrObject file = some r → r ∈ s.list gOpenAddrList)
    : Placed (tdiListenComplete c s t irp file listen) := by
  unfold OpenConn.tdiListenComplete
  split
  . next hc =>
    rw [Bool.and_eq_true] at hc
    split
    . next r hr =>
      have hmem := hopen hc.1 hc.2 r hr
      apply (h.remove hmem (Or.inl fun hno => by cases hno)).leave
      . split
        . exact ht
        . exact ht
      . intro a ha
        have heq : a = r := by
          split at ha
          . exact (Option.some.inj ha).symm
          . exact (Option.some.inj ha).symm
        rw [heq]
        exact h.loose_remove hmem
      . split
        . rfl
        . rfl
    . exact h
  . exact h

include ht in
theorem completeCall {call : Call} (hloose : ∀ r, call.context = some r → s.Loose r)
    (hopen : OpenFound c s call)
    : Placed (completeCall c s t irp call) := by
  unfold OpenConn.completeCall
  cases hrequest : call.request with
  | openAddress => exact h.tdiOpenAddressComplete ht hloose
  | openConnection => exact h.tdiOpenConnectionComplete hloose
  | associateAddress addressFile => exact h.tdiAssociateAddressComplete hloose
  | disAssociateAddress => exact h.tdiDisAssociateAddressComplete
  | closeAddress => exact h.tdiCloseAddressComplete ht
  | closeConnection => exact h.tdiCloseConnectionComplete ht
  | setEvent => exact h.tdiSetEventComplete ht hloose
  | listen => exact h.tdiListenComplete ht (hopen (Or.inl hrequest))
  | connect => exact h.tdiListenComplete ht (hopen (Or.inr hrequest))

end Completion

/-! ### Between the locks -/

section Advance

include h

-- A thread keeps its record.
theorem keep (pc : Pc) (hrun : pc.RunBy t) (hrecord : pc.record = none ∨ pc.record = (s.pc t).record)
    (hhand : pc.hand = none ∨ pc.hand = (s.pc t).hand)
    : Placed (s.goto t pc) := by
  apply h.goto hrun
  . intro r hr
    rcases hrecord with hnone | hsame
    . cases hnone.symm.trans hr
    . exact Or.inr (hsame ▸ hr)
  . intro r hr
    rcases hhand with hnone | hsame
    . cases hnone.symm.trans hr
    . exact hsame ▸ hr

-- A thread puts its record on a list.
theorem release (pc : Pc) {r : Nat} (hrun : pc.RunBy t) (hr : (s.pc t).record = some r)
    (hrecord : pc.record = none) (hhand : pc.hand = none) (head : ListHead)
    : Placed ((s.insert head r).goto t pc) :=
  (h.keep pc hrun (Or.inl hrecord) (Or.inl hhand)).insert (h.loose_drop hr hrecord)

theorem removeHead (hpc : s.pc t = .removeHead) : Placed (advance s t) := by
  unfold OpenConn.advance
  rw [hpc]
  have ht : t = addrThread := by
    have hrole := h.roles t
    rwa [hpc] at hrole
  rcases h.custody.family.flink_head gPendingAddrList with ⟨_, hflink⟩ | ⟨r, xs, hlist, hflink⟩
  . simp only [hflink]
    exact h.drop
  . simp only [hflink]
    have hr : r ∈ s.list gPendingAddrList := by
      rw [hlist]
      exact List.mem_cons_self
    have hhand : (s.pc addrThread).hand = none := by
      rw [← ht, hpc]
      rfl
    have hplaced := h.remove hr (Or.inr hhand)
    refine ⟨?_, ?_, ?_⟩
    . rw [held_goto]
      exact hplaced.custody.give (h.loose_remove hr)
    . intro e he
      have hself : ((s.remove r).goto t (.completeRequest r)).pc addrThread = .completeRequest r := by
        rw [← ht]
        exact Function.update_self _ _ _
      rw [hself] at he
      cases he
      have htaken := h.custody.family.taken hlist
      show Taken (s.links.removeEntryList r) gPendingAddrList r ((s.remove r).list gPendingAddrList)
      rw [h.list_remove hr, Function.update_self, hlist, List.erase_cons_head]
      exact htaken
    . intro t'
      by_cases ht' : t' = t
      . rw [ht', show ((s.remove r).goto t (.completeRequest r)).pc t = .completeRequest r from
          Function.update_self _ _ _]
        exact ht
      . rw [show ((s.remove r).goto t (.completeRequest r)).pc t' = s.pc t' from
          Function.update_of_ne ht' _ _]
        exact h.roles t'

-- The record that `addrThread` unlinks a second time.
theorem removeTwice (hpc : s.pc t = .relink r)
    : Taken s.links gPendingAddrList r (s.list gPendingAddrList) ∧
        Placed ((s.goto t .removeHead).remove r) ∧ ((s.goto t .removeHead).remove r).Loose r := by
  have ht : t = addrThread := by
    have hrole := h.roles t
    rwa [hpc] at hrole
  have hplaced : Placed (s.goto t .removeHead) :=
    h.goto ht (fun _ hno => by cases hno) (fun _ hno => by cases hno)
  have hloose : (s.goto t .removeHead).Loose r := by
    apply h.loose_drop
    . rw [hpc]
      rfl
    . rfl
  have htaken := h.taken r (by rw [← ht, hpc]; rfl)
  have hhand : ((s.goto t .removeHead).pc addrThread).hand = none := by
    rw [← ht, show (s.goto t .removeHead).pc t = .removeHead from Function.update_self _ _ _]
    rfl
  exact ⟨htaken, hplaced.removeTaken htaken hhand, hplaced.loose_removeTaken htaken hloose⟩

theorem list_recycleTwice (hpc : s.pc t = .relink r)
    : ((s.remove r).tdiRecycleOpenConn r).list =
        Function.update (s.remove r).list gFreeAddrList ((s.remove r).list gFreeAddrList ++ [r]) := by
  obtain ⟨_, hplaced, hloose⟩ := h.removeTwice hpc
  exact hplaced.list_insert gFreeAddrList hloose

theorem addrThreadRelink (hpc : s.pc t = .relink r) : Placed (addrThreadRelink s t r) := by
  have ht : t = addrThread := by
    have hrole := h.roles t
    rwa [hpc] at hrole
  unfold OpenConn.addrThreadRelink
  split
  . obtain ⟨_, hplaced, hloose⟩ := h.removeTwice hpc
    exact hplaced.insert hloose
  . exact h.release .removeHead ht (by rw [hpc]; rfl) rfl rfl gOpenAddrList

theorem advance (hpending : ∀ file, s.pc t = .findPending file → s.find gPendingAddrList file = none)
    : Placed (advance s t) := by
  have hrole := h.roles t
  cases hpc : s.pc t with
  | removeHead => exact h.removeHead hpc
  | relink r =>
    have hplaced := h.addrThreadRelink hpc
    simpa only [OpenConn.advance, hpc] using hplaced
  | idle =>
    simp only [OpenConn.advance, hpc]
    split
    . next ht =>
      have hplaced := h.keep .removeHead ht.1 (Or.inl rfl) (Or.inl rfl)
      exact ⟨hplaced.custody, hplaced.taken, hplaced.roles⟩
    . exact h
  | park irp r listen =>
    rw [hpc] at hrole
    simp only [OpenConn.advance, hpc]
    apply h.setRecord.keep
    . exact hrole
    . right
      rw [show (s.setRecord r _).pc t = s.pc t from rfl, hpc]
      rfl
    . exact Or.inl rfl
  | insertPending irp r =>
    rw [hpc] at hrole
    simp only [OpenConn.advance, hpc]
    have hplaced := h.release .setEvent (r := r) hrole (by rw [hpc]; rfl) rfl rfl gPendingAddrList
    exact ⟨hplaced.custody, hplaced.taken, hplaced.roles⟩
  | setEvent =>
    simp only [OpenConn.advance, hpc]
    have hplaced : Placed (s.goto t .idle) := h.drop
    exact ⟨hplaced.custody, hplaced.taken, hplaced.roles⟩
  | insertTail head r =>
    simp only [OpenConn.advance, hpc]
    exact h.release .idle trivial (by rw [hpc]; rfl) rfl rfl head
  | findPending file =>
    simp only [OpenConn.advance, hpc, hpending file hpc]
    exact h.drop
  | completeRequest r =>
    rw [hpc] at hrole
    simp only [OpenConn.advance, hpc]
    have hplaced := h.keep (.clear r) hrole (Or.inr (by rw [hpc]; rfl)) (Or.inr (by rw [hpc]; rfl))
    exact ⟨hplaced.custody, hplaced.taken, hplaced.roles⟩
  | clear r =>
    rw [hpc] at hrole
    simp only [OpenConn.advance, hpc]
    exact (h.keep (.relink r) hrole (Or.inr (by rw [hpc]; rfl)) (Or.inr (by rw [hpc]; rfl))).setRecord

end Advance

end Placed

/--
Each unlinked record is on the list that it is unlinked from: a `TDI_LISTEN` or `TDI_CONNECT` finds none,
or one on `g_OpenAddrList`, and the close of an address finds none on `g_PendingAddrList`.
-/
def Unlinks (s : State) : Event → Prop
  | .dispatch .. => True
  | .complete _ irp c => ∀ call ∈ s.calls irp, OpenFound c s call
  | .advance t => ∀ file ∈ (s.pc t).closing, s.find gPendingAddrList file = none

instance (c : Completion) (s : State) (call : Call) : Decidable (OpenFound c s call) :=
  inferInstanceAs (Decidable (_ → _ → _ → ∀ r ∈ s.addrObject call.file, r ∈ s.list gOpenAddrList))

instance (s : State) : DecidablePred (Unlinks s)
  | .dispatch .. => .isTrue trivial
  | .complete _ irp c => inferInstanceAs (Decidable (∀ call ∈ s.calls irp, OpenFound c s call))
  | .advance t =>
    inferInstanceAs (Decidable (∀ file ∈ (s.pc t).closing, s.find gPendingAddrList file = none))

theorem placed_init (record : Nat → TdiOpenConn) : Placed (init record) := by
  have hlist : (init record).list = fun _ => [] := rfl
  refine ⟨?_, fun r hr => (by cases hr), fun t => trivial⟩
  rw [hlist]
  refine ⟨⟨?_, fun _ => List.nodup_nil, fun _ _ _ a ha => absurd ha List.not_mem_nil⟩, ?_, ?_, ?_, ?_⟩
  . exact fun head => List.isChain_pair.mpr ⟨rfl, rfl⟩
  . exact fun head r hr => absurd hr List.not_mem_nil
  . rintro (t | irp) r hr
    . cases hr
    . cases hr
  . exact fun _ _ _ _ => List.not_mem_nil
  . rintro (t | irp) k r hr
    . cases hr
    . cases hr

theorem placed_step {s : State} {e : Event} (h : Placed s) (hallowed : Allowed s e)
    (hunlinks : Unlinks s e)
    : Placed (step s e) := by
  cases e with
  | dispatch irp request file poolAlloc => exact h.dispatch
  | complete t irp c =>
    show Placed (complete c s t irp)
    unfold complete
    cases hcall : s.calls irp with
    | none => exact h
    | some call =>
      exact h.answer.completeCall hallowed.2 (fun r hr => h.loose_answer hcall hr)
        (hunlinks call hcall)
  | advance t => exact h.advance fun file hpc => hunlinks file (by rw [hpc]; rfl)

-- An address of the file 1, and connections of the other files that are associated with it.
def associate (files : List Nat) : List Event :=
  let passive : Completion := ⟨true, true, true⟩
  .dispatch 1 .openAddress 1 true :: .complete 1 1 passive ::
    files.flatMap fun file =>
      [.dispatch (2 * file) .openConnection file true, .complete 1 (2 * file) passive,
        .dispatch (2 * file + 1) (.associateAddress 1) file true, .complete 1 (2 * file + 1) passive]

end Ansfw.OpenConn
