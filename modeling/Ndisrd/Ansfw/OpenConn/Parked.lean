import Ndisrd.Ansfw.OpenConn.Steps

/-!
This module contains the IRPs that the completion routines park: what each step does to them, and the
invariant of the steps that lose none.
-/

namespace Ansfw.OpenConn

open ListHead ListEntry

-- The IRP that a completion routine is about to park.
def Pc.irp : Pc → Option Nat
  | .park irp _ _ => some irp
  | .insertPending irp _ => some irp
  | _ => none

-- Where a completion routine with an IRP can go.
def Pc.Leaves (irp : Nat) : Pc → Prop
  | .idle => True
  | .park irp' _ _ => irp' = irp
  | .insertTail head _ => head = gFreeAddrList ∨ head = gOpenAddrList
  | .findPending _ => True
  | _ => False

-- The record is on `g_PendingAddrList`, or `addrThread` holds it and has not completed its IRP.
def State.Waits (s : State) (r : Nat) : Prop :=
  r ∈ s.list gPendingAddrList ∨ s.pc addrThread = .completeRequest r

structure Waiting (s : State) : Prop where
  waiting : ∀ r, s.Waits r → ∃ irp, (s.record r).pIrp = some irp ∧ irp ∈ s.parked ∧ some irp ∉ s.completed
  unique : ∀ r r' irp, s.Waits r → s.Waits r' → (s.record r).pIrp = some irp →
    (s.record r').pIrp = some irp → r = r'
  kept : ∀ irp ∈ s.parked, some irp ∉ s.completed → ∃ r, s.Waits r ∧ (s.record r).pIrp = some irp
  completed : s.completed.Nodup
  ended : ∀ irp, some irp ∈ s.completed → irp ∈ s.parked
  issued : ∀ irp ∈ s.parked, irp ∈ s.issued

structure Carried (s : State) : Prop where
  calls : ∀ irp call, s.calls irp = some call → irp ∈ s.issued ∧ irp ∉ s.parked
  threads : ∀ t irp, (s.pc t).irp = some irp → irp ∈ s.issued ∧ irp ∉ s.parked ∧ s.calls irp = none
  alone : ∀ t t' irp, (s.pc t).irp = some irp → (s.pc t').irp = some irp → t = t'
  inserts : ∀ t irp r, s.pc t = .insertPending irp r → (s.record r).pIrp = some irp
  tails : ∀ t head r, s.pc t = .insertTail head r → head = gFreeAddrList ∨ head = gOpenAddrList

/--
Every IRP that waits does so in one place: with the transport, with the completion routine that parks it,
or in the record that `addrThread` will find it in.
-/
structure Parked (s : State) : Prop where
  waiting : Waiting s
  carried : Carried s

/-! ### What the routines leave alone -/

/--
Everything that the parked IRPs depend on is the same.
-/
structure Frame (s s' : State) : Prop where
  pending : s'.list gPendingAddrList = s.list gPendingAddrList
  pIrp : ∀ r, (s'.record r).pIrp = (s.record r).pIrp
  calls : s'.calls = s.calls
  pc : s'.pc = s.pc
  issued : s'.issued = s.issued
  parked : s'.parked = s.parked
  completed : s'.completed = s.completed

namespace Frame

variable {s s₁ s₂ : State} {r : Nat} {head : ListHead}

theorem refl (s : State) : Frame s s := ⟨rfl, fun _ => rfl, rfl, rfl, rfl, rfl, rfl⟩

theorem trans (h₁ : Frame s s₁) (h₂ : Frame s₁ s₂) : Frame s s₂ :=
  ⟨h₂.pending.trans h₁.pending, fun r => (h₂.pIrp r).trans (h₁.pIrp r), h₂.calls.trans h₁.calls,
    h₂.pc.trans h₁.pc, h₂.issued.trans h₁.issued, h₂.parked.trans h₁.parked,
    h₂.completed.trans h₁.completed⟩

theorem setRecord {c : TdiOpenConn} (hc : c.pIrp = (s.record r).pIrp) : Frame s (s.setRecord r c) := by
  refine ⟨rfl, ?_, rfl, rfl, rfl, rfl, rfl⟩
  intro a
  show (Function.update s.record r c a).pIrp = _
  by_cases ha : a = r
  . rw [ha, Function.update_self]
    exact hc
  . rw [Function.update_of_ne ha]

theorem setPAddrObj {pAddrObj : Option Nat} : Frame s (s.setPAddrObj r pAddrObj) := setRecord rfl

theorem setPTcpObj {pTcpObj : Option Nat} : Frame s (s.setPTcpObj r pTcpObj) := setRecord rfl

theorem insert (h : Placed s) (hr : s.Loose r) (hhead : head ≠ gPendingAddrList)
    : Frame s (s.insert head r) := by
  refine ⟨?_, fun _ => rfl, rfl, rfl, rfl, rfl, rfl⟩
  rw [h.list_insert head hr, Function.update_of_ne hhead.symm]

theorem remove (h : Placed s) (hr : r ∈ s.list head) (hhead : head ≠ gPendingAddrList)
    : Frame s (s.remove r) := by
  refine ⟨?_, fun _ => rfl, rfl, rfl, rfl, rfl, rfl⟩
  rw [h.list_remove hr, Function.update_of_ne hhead.symm]

end Frame

/--
A routine changes nothing of that but what its thread does next.
-/
def Routine (t irp : Nat) (s s' : State) : Prop :=
  ∃ s₁ pc, Frame s s₁ ∧ s' = s₁.goto t pc ∧ pc.Leaves irp

namespace Routine

variable {s s' : State} {t irp : Nat} (h : Routine t irp s s')
include h

theorem calls : s'.calls = s.calls := by
  obtain ⟨s₁, pc, hframe, rfl, _⟩ := h
  exact hframe.calls

theorem issued : s'.issued = s.issued := by
  obtain ⟨s₁, pc, hframe, rfl, _⟩ := h
  exact hframe.issued

theorem pending : s'.list gPendingAddrList = s.list gPendingAddrList := by
  obtain ⟨s₁, pc, hframe, rfl, _⟩ := h
  exact hframe.pending

theorem pc_of_ne {t' : Nat} (ht : t' ≠ t) : s'.pc t' = s.pc t' := by
  obtain ⟨s₁, pc, hframe, rfl, _⟩ := h
  exact (Function.update_of_ne ht _ _).trans (congrFun hframe.pc t')

theorem leaves : (s'.pc t).Leaves irp := by
  obtain ⟨s₁, pc, hframe, rfl, hleaves⟩ := h
  rw [show (s₁.goto t pc).pc t = pc from Function.update_self _ _ _]
  exact hleaves

end Routine

section Routines

variable {s : State} (h : Placed s) {t irp file r : Nat} {c : Completion}

theorem Routine.stay {s' : State} (hidle : s.pc t = .idle) (hframe : Frame s s') : Routine t irp s s' := by
  refine ⟨s', .idle, hframe, ?_, trivial⟩
  have hpc : s'.pc t = .idle := by
    rw [hframe.pc]
    exact hidle
  unfold State.goto
  rw [← hpc, Function.update_eq_self]

theorem Routine.leave {s₁ : State} {pc : Pc} (hframe : Frame s s₁) (hleaves : pc.Leaves irp)
    : Routine t irp s (s₁.goto t pc) := ⟨s₁, pc, hframe, rfl, hleaves⟩

include h

theorem routine_tdiOpenAddressComplete {context : Option Nat} (hidle : s.pc t = .idle)
    (hloose : ∀ r, context = some r → s.Loose r)
    : Routine t irp s (tdiOpenAddressComplete c s t irp context) := by
  cases context with
  | none => exact .stay hidle (.refl s)
  | some r =>
    rw [tdiOpenAddressComplete]
    split
    . split
      . exact .stay hidle (.insert h (hloose r rfl) (by decide))
      . exact .leave (.refl s) rfl
    . exact .stay hidle (.insert h (hloose r rfl) (by decide))

theorem routine_tdiOpenConnectionComplete {context : Option Nat} (hidle : s.pc t = .idle)
    (hloose : ∀ r, context = some r → s.Loose r)
    : Routine t irp s (tdiOpenConnectionComplete c s context) := by
  cases context with
  | none => exact .stay hidle (.refl s)
  | some r =>
    rw [tdiOpenConnectionComplete]
    split
    . exact .stay hidle (.insert h (hloose r rfl) (by decide))
    . exact .stay hidle (.insert h (hloose r rfl) (by decide))

theorem routine_tdiAssociateAddressComplete {context : Option Nat} (hidle : s.pc t = .idle)
    (hloose : ∀ r, context = some r → s.Loose r)
    : Routine t irp s (tdiAssociateAddressComplete c s file context) := by
  cases context with
  | none => exact .stay hidle (.refl s)
  | some r =>
    rw [tdiAssociateAddressComplete]
    split
    . split
      . next tcpObj hfind =>
        have hframe : Frame s ((s.setPAddrObj tcpObj (some r)).setPTcpObj r (some tcpObj)) :=
          Frame.setPAddrObj.trans .setPTcpObj
        exact .stay hidle (hframe.trans
          (.insert h.setRecord.setRecord (hloose r rfl) (by decide)))
      . exact .stay hidle (.insert h (hloose r rfl) (by decide))
    . exact .stay hidle (.insert h (hloose r rfl) (by decide))

omit h in
theorem routine_tdiDisAssociateAddressComplete (hidle : s.pc t = .idle)
    : Routine t irp s (tdiDisAssociateAddressComplete c s file) := by
  unfold tdiDisAssociateAddressComplete
  split
  . split
    . split
      . exact .stay hidle (Frame.setPTcpObj.trans .setPAddrObj)
      . exact .stay hidle .setPAddrObj
    . exact .stay hidle (.refl s)
  . exact .stay hidle (.refl s)

theorem routine_closeRecord {head : ListHead} (hr : r ∈ s.list head) (hhead : head ≠ gPendingAddrList)
    : Routine t irp s (closeRecord s t r) := by
  have hframe := Frame.remove h hr hhead
  have hleaves : (Pc.insertTail gFreeAddrList r).Leaves irp := Or.inl rfl
  unfold closeRecord
  dsimp only
  split
  . exact .leave (hframe.trans .setPAddrObj) hleaves
  . exact .leave hframe hleaves

theorem routine_tdiCloseAddressComplete (hidle : s.pc t = .idle)
    : Routine t irp s (tdiCloseAddressComplete c s t file) := by
  unfold tdiCloseAddressComplete
  split
  . split
    . next hfind => exact routine_closeRecord h (find_mem hfind) (by decide)
    . exact .leave (.refl s) trivial
  . exact .stay hidle (.refl s)

theorem routine_tdiCloseConnectionComplete (hidle : s.pc t = .idle)
    : Routine t irp s (tdiCloseConnectionComplete c s t file) := by
  unfold tdiCloseConnectionComplete
  split
  . split
    . next tcpObj hfind =>
      have hleaves : (Pc.insertTail gFreeAddrList tcpObj).Leaves irp := Or.inl rfl
      have hmem := find_mem hfind
      split
      . next addrObj _ =>
        have hframe : Frame s (s.setPTcpObj addrObj none) := .setPTcpObj
        exact .leave (hframe.trans (.remove h.setRecord hmem (by decide))) hleaves
      . exact .leave (.remove h hmem (by decide)) hleaves
    . exact .stay hidle (.refl s)
  . exact .stay hidle (.refl s)

theorem routine_tdiSetEventComplete {context : Option Nat} (hidle : s.pc t = .idle)
    (hloose : ∀ r, context = some r → s.Loose r)
    : Routine t irp s (tdiSetEventComplete c s t irp context) := by
  cases context with
  | none => exact .stay hidle (.refl s)
  | some r =>
    rw [tdiSetEventComplete]
    split
    . exact .leave (.refl s) rfl
    . exact .stay hidle (.insert h (hloose r rfl) (by decide))

theorem routine_tdiListenComplete {listen : Bool} (hidle : s.pc t = .idle)
    (hopen : c.sameDevice → c.success → ∀ r, s.addrObject file = some r → r ∈ s.list gOpenAddrList)
    : Routine t irp s (tdiListenComplete c s t irp file listen) := by
  unfold tdiListenComplete
  split
  . next hc =>
    rw [Bool.and_eq_true] at hc
    split
    . next r hr =>
      apply Routine.leave (.remove h (hopen hc.1 hc.2 r hr) (by decide))
      split
      . exact Or.inr rfl
      . rfl
    . exact .stay hidle (.refl s)
  . exact .stay hidle (.refl s)

theorem routine_completeCall {call : Call} (hidle : s.pc t = .idle)
    (hloose : ∀ r, call.context = some r → s.Loose r) (hopen : OpenFound c s call)
    : Routine t irp s (completeCall c s t irp call) := by
  unfold completeCall
  cases hrequest : call.request with
  | openAddress => exact routine_tdiOpenAddressComplete h hidle hloose
  | openConnection => exact routine_tdiOpenConnectionComplete h hidle hloose
  | associateAddress addressFile => exact routine_tdiAssociateAddressComplete h hidle hloose
  | disAssociateAddress => exact routine_tdiDisAssociateAddressComplete hidle
  | closeAddress => exact routine_tdiCloseAddressComplete h hidle
  | closeConnection => exact routine_tdiCloseConnectionComplete h hidle
  | setEvent => exact routine_tdiSetEventComplete h hidle hloose
  | listen => exact routine_tdiListenComplete h hidle (hopen (Or.inl hrequest))
  | connect => exact routine_tdiListenComplete h hidle (hopen (Or.inr hrequest))

end Routines

/--
What the dispatch of an IRP changes. The record that it takes from `g_FreeAddrList` holds no IRP.
-/
structure Dispatched (irp : Nat) (s s' : State) : Prop where
  pending : s'.list gPendingAddrList = s.list gPendingAddrList
  pIrp : ∀ r, r ∈ s.list gPendingAddrList ∨ (∃ t, (s.pc t).record = some r) →
    (s'.record r).pIrp = (s.record r).pIrp
  calls : ∃ call, s'.calls = Function.update s.calls irp call
  pc : s'.pc = s.pc
  issued : s'.issued = irp :: s.issued
  parked : s'.parked = s.parked
  completed : s'.completed = s.completed

section Dispatched

variable {s : State} (h : Placed s) {irp file : Nat}

theorem Frame.dispatched {s₁ : State} (hframe : Frame s s₁) (call : Option Call)
    : Dispatched irp s (s₁.pass irp call) := by
  refine ⟨hframe.pending, fun r _ => hframe.pIrp r, ⟨call, ?_⟩, hframe.pc, ?_, hframe.parked,
    hframe.completed⟩
  . exact congrArg (Function.update · irp call) hframe.calls
  . exact congrArg (irp :: ·) hframe.issued

include h

theorem dispatched_tdiOpen {poolAlloc : Bool} {request : Request}
    : Dispatched irp s (tdiOpen poolAlloc s irp request file) := by
  unfold tdiOpen
  cases halloc : tdiAllocOpenConn poolAlloc s with
  | none => exact (Frame.refl s).dispatched _
  | some alloc =>
    obtain ⟨r₀, s₁⟩ := alloc
    obtain ⟨_, _, hs₁⟩ := h.tdiAllocOpenConn halloc
    refine ⟨?_, ?_, ⟨_, congrArg (Function.update · irp _) hs₁.calls⟩, hs₁.pc,
      congrArg (irp :: ·) hs₁.issued, hs₁.parked, hs₁.completed⟩
    . show s₁.list gPendingAddrList = _
      rw [hs₁.list, Function.update_of_ne (by decide)]
    . intro r hr
      have hne : r ≠ r₀ := by
        rintro rfl
        rcases hs₁.fresh with hfree | hnew
        . rcases hr with hmem | ⟨t, ht⟩
          . cases h.mem_unique hfree hmem
          . exact h.custody.off (.thread t) r ht _ hfree
        . rcases hr with hmem | ⟨t, ht⟩
          . exact Nat.ne_of_lt (h.custody.listed _ r hmem) hnew
          . exact Nat.ne_of_lt (h.custody.kept (.thread t) r ht) hnew
      show (Function.update s₁.record r₀ _ r).pIrp = _
      rw [Function.update_of_ne hne, hs₁.record, Function.update_of_ne hne]

theorem dispatched_dispatch {poolAlloc : Bool} {request : Request}
    : Dispatched irp s (dispatch poolAlloc s irp request file) := by
  cases request with
  | openAddress | openConnection => exact dispatched_tdiOpen h
  | associateAddress addressFile =>
    show Dispatched irp s (tdiAssociateAddress s irp file addressFile)
    unfold tdiAssociateAddress
    split
    . next hfind => exact (Frame.remove h (find_mem hfind) (by decide)).dispatched _
    . exact (Frame.refl s).dispatched _
  | setEvent =>
    show Dispatched irp s (tdiSetEvent s irp file)
    unfold tdiSetEvent
    split
    . next hfind => exact (Frame.remove h (find_mem hfind) (by decide)).dispatched _
    . exact (Frame.refl s).dispatched _
  | _ => exact (Frame.refl s).dispatched _

end Dispatched

/-! ### The invariant -/

section Invariant

variable {s s' : State} {t irp r : Nat} {pc : Pc}

@[simp]
theorem pc_goto_self : (s.goto t pc).pc t = pc := Function.update_self _ _ _

theorem pc_goto_of_ne {t' : Nat} (ht : t' ≠ t) : (s.goto t pc).pc t' = s.pc t' :=
  Function.update_of_ne ht _ _

theorem Waiting.same (h : Waiting s) (hwaits : ∀ r, s'.Waits r ↔ s.Waits r)
    (hpIrp : ∀ r, s.Waits r → (s'.record r).pIrp = (s.record r).pIrp) (hparked : s'.parked = s.parked)
    (hcompleted : s'.completed = s.completed) (hissued : ∀ irp ∈ s.issued, irp ∈ s'.issued)
    : Waiting s' := by
  refine ⟨?_, ?_, ?_, ?_, ?_, ?_⟩
  . intro r hr
    have hr' := (hwaits r).mp hr
    rw [hpIrp r hr', hparked, hcompleted]
    exact h.waiting r hr'
  . intro r r' irp hr hr' hirp hirp'
    rw [hwaits] at hr hr'
    rw [hpIrp r hr] at hirp
    rw [hpIrp r' hr'] at hirp'
    exact h.unique r r' irp hr hr' hirp hirp'
  . intro irp hmem hno
    rw [hparked] at hmem
    rw [hcompleted] at hno
    obtain ⟨r, hr, hirp⟩ := h.kept irp hmem hno
    exact ⟨r, (hwaits r).mpr hr, (hpIrp r hr).trans hirp⟩
  . rw [hcompleted]
    exact h.completed
  . rw [hcompleted, hparked]
    exact h.ended
  . rw [hparked]
    exact fun irp hmem => hissued irp (h.issued irp hmem)

theorem waits_congr (hpending : s'.list gPendingAddrList = s.list gPendingAddrList)
    (hpc : s'.pc addrThread = s.pc addrThread) (r : Nat)
    : s'.Waits r ↔ s.Waits r := by
  unfold State.Waits
  rw [hpending, hpc]

theorem parked_init (record : Nat → TdiOpenConn) : Parked (init record) := by
  have hno : ∀ r, ¬ (init record).Waits r := by
    rintro r (hr | hr)
    . exact absurd hr List.not_mem_nil
    . cases hr
  refine ⟨⟨fun r hr => absurd hr (hno r), fun r _ _ hr => absurd hr (hno r), ?_, List.nodup_nil, ?_, ?_⟩,
    ⟨?_, ?_, ?_, ?_, ?_⟩⟩
  . exact fun irp hirp => absurd hirp List.not_mem_nil
  . exact fun irp hirp => absurd hirp List.not_mem_nil
  . exact fun irp hirp => absurd hirp List.not_mem_nil
  . exact fun irp call hcall => by cases hcall
  . exact fun t irp hirp => by cases hirp
  . exact fun t t' irp hirp => by cases hirp
  . exact fun t irp r hpc => by cases hpc
  . exact fun t head r hpc => by cases hpc

theorem Parked.dispatched (h : Parked s) (hnew : irp ∉ s.issued)
    (hs' : Dispatched irp s s')
    : Parked s' := by
  obtain ⟨hwaiting, hcarried⟩ := h
  obtain ⟨call, hcalls⟩ := hs'.calls
  have hissued : ∀ {i}, i ∈ s.issued → i ∈ s'.issued ∧ i ≠ irp := by
    intro i hi
    rw [hs'.issued]
    exact ⟨List.mem_cons_of_mem irp hi, fun heq => hnew (heq ▸ hi)⟩
  refine ⟨hwaiting.same (waits_congr hs'.pending (congrFun hs'.pc _)) ?_ hs'.parked hs'.completed
    fun i hi => (hissued hi).1, ⟨?_, ?_, ?_, ?_, ?_⟩⟩
  . rintro r (hr | hr)
    . exact hs'.pIrp r (Or.inl hr)
    . exact hs'.pIrp r (Or.inr ⟨addrThread, by rw [hr]; rfl⟩)
  . intro i call' hcall'
    rw [hs'.parked]
    by_cases hi : i = irp
    . rw [hi, hs'.issued]
      exact ⟨List.mem_cons_self, fun hmem => hnew (hwaiting.issued irp hmem)⟩
    . rw [hcalls, Function.update_of_ne hi] at hcall'
      exact ⟨(hissued (hcarried.calls i call' hcall').1).1, (hcarried.calls i call' hcall').2⟩
  . intro t i hi
    rw [hs'.pc] at hi
    obtain ⟨hmem, hparked, hnone⟩ := hcarried.threads t i hi
    rw [hs'.parked, hcalls, Function.update_of_ne (hissued hmem).2]
    exact ⟨(hissued hmem).1, hparked, hnone⟩
  . rw [hs'.pc]
    exact hcarried.alone
  . intro t i r hpc
    rw [hs'.pc] at hpc
    rw [hs'.pIrp r (Or.inr ⟨t, by rw [hpc]; rfl⟩)]
    exact hcarried.inserts t i r hpc
  . rw [hs'.pc]
    exact hcarried.tails

theorem Parked.routine (h : Parked s) {c : Completion} {call : Call} (hcall : s.calls irp = some call)
    (ht : t ≠ addrThread) (hs' : Routine t irp (s.answer c irp call) s')
    : Parked s' := by
  obtain ⟨hwaiting, hcarried⟩ := h
  obtain ⟨s₁, pc, hframe, rfl, hleaves⟩ := hs'
  have hpc : ∀ {t'}, t' ≠ t → (s₁.goto t pc).pc t' = s.pc t' := fun ht' => by
    rw [pc_goto_of_ne ht', hframe.pc]
    rfl
  have hcalls : (s₁.goto t pc).calls = Function.update s.calls irp none := hframe.calls
  have hissued : (s₁.goto t pc).issued = s.issued := hframe.issued
  have hparked : (s₁.goto t pc).parked = s.parked := hframe.parked
  have hleft : ∀ {i}, pc.irp = some i → i = irp := by
    intro i hi
    cases pc with
    | park irp' r listen =>
      cases hi
      exact hleaves
    | insertPending => exact hleaves.elim
    | _ => cases hi
  refine ⟨hwaiting.same (waits_congr hframe.pending (hpc ht.symm)) (fun r _ => hframe.pIrp r) hparked
    hframe.completed fun i hi => hissued ▸ hi, ⟨?_, ?_, ?_, ?_, ?_⟩⟩
  . intro i call' hcall'
    rw [hissued, hparked]
    by_cases hi : i = irp
    . rw [hcalls, hi, Function.update_self] at hcall'
      cases hcall'
    . rw [hcalls, Function.update_of_ne hi] at hcall'
      exact hcarried.calls i call' hcall'
  . intro t' i hi
    rw [hissued, hparked, hcalls]
    by_cases ht' : t' = t
    . rw [ht', pc_goto_self] at hi
      rw [hleft hi, Function.update_self]
      exact ⟨(hcarried.calls irp call hcall).1, (hcarried.calls irp call hcall).2, rfl⟩
    . rw [hpc ht'] at hi
      obtain ⟨hmem, hno, hnone⟩ := hcarried.threads t' i hi
      refine ⟨hmem, hno, ?_⟩
      by_cases heq : i = irp
      . rw [heq, Function.update_self]
      . rw [Function.update_of_ne heq, hnone]
  . have hother : ∀ {t'}, t' ≠ t → ((s₁.goto t pc).pc t').irp ≠ some irp := by
      intro t' ht' hi
      rw [hpc ht'] at hi
      cases hcall.symm.trans (hcarried.threads t' irp hi).2.2
    intro t₁ t₂ i h₁ h₂
    by_cases ht₁ : t₁ = t
    . by_cases ht₂ : t₂ = t
      . exact ht₁.trans ht₂.symm
      . rw [ht₁, pc_goto_self] at h₁
        exact absurd (hleft h₁ ▸ h₂) (hother ht₂)
    . by_cases ht₂ : t₂ = t
      . rw [ht₂, pc_goto_self] at h₂
        exact absurd (hleft h₂ ▸ h₁) (hother ht₁)
      . rw [hpc ht₁] at h₁
        rw [hpc ht₂] at h₂
        exact hcarried.alone t₁ t₂ i h₁ h₂
  . intro t' i r hi
    by_cases ht' : t' = t
    . rw [ht', pc_goto_self] at hi
      rw [hi] at hleaves
      exact hleaves.elim
    . rw [hpc ht'] at hi
      exact (hframe.pIrp r).trans (hcarried.inserts t' i r hi)
  . intro t' head r hi
    by_cases ht' : t' = t
    . rw [ht', pc_goto_self] at hi
      rw [hi] at hleaves
      exact hleaves
    . rw [hpc ht'] at hi
      exact hcarried.tails t' head r hi

end Invariant

end Ansfw.OpenConn
