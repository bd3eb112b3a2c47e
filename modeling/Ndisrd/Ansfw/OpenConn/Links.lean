import Ndisrd.Ansfw.OpenConn.Associations

/-!
This module contains what the completion routines of the six operations on addresses and connections do to
the associations.
-/

namespace Ansfw.OpenConn

open ListHead ListEntry

section Completions

variable {s s' : State} {t irp a : Nat} {c : Completion} {call : Call}

theorem Hands.completed (h : Hands s) (hplaced : Placed s)
    (hroutine : Routine t irp (s.answer c irp call) s')
    (hfile : ∀ r, (s'.record r).pFileObject = (s.record r).pFileObject)
    (hrecord : ∀ r, r ∉ s.list gTcpAddrList → ¬ s.IsAddress r → s'.record r = s.record r)
    (hclosing : ∀ file, s'.pc t = .findPending file → ∀ r, s.Parking r →
      (s.record r).pFileObject ≠ file)
    (hparking : ∀ r, (s'.pc t).parking = some r → ∀ t' file, s.pc t' = .findPending file →
      (s.record r).pFileObject ≠ file)
    : Hands s' := by
  have hsub : ∀ {i call'}, s'.calls i = some call' → s.calls i = some call' ∧ i ≠ irp := by
    intro i call' hi
    rw [hroutine.calls] at hi
    by_cases heq : i = irp
    . rw [heq, show (s.answer c irp call).calls irp = none from Function.update_self _ _ _] at hi
      cases hi
    . exact ⟨(Function.update_of_ne heq _ _).symm.trans hi, heq⟩
  have hpc : ∀ {t'}, t' ≠ t → s'.pc t' = s.pc t' := fun ht' => hroutine.pc_of_ne ht'
  have hleaves := hroutine.leaves
  refine ⟨?_, ?_, ?_, ?_, ?_, ?_⟩
  . exact fun i call' hi => h.requests i call' (hsub hi).1
  . intro i call' hi
    rw [hroutine.issued]
    exact h.issued i call' (hsub hi).1
  . intro i call' addressFile r hi hrequest hr
    rw [hfile]
    exact h.taken i call' addressFile r (hsub hi).1 hrequest hr
  . intro i call' r hi hrequest hr
    have hi' := (hsub hi).1
    rw [hrecord r]
    . exact h.fresh i call' r hi' hrequest hr
    . exact not_mem_of_call hplaced hi' hr
    . rintro (hopen | ⟨j, call₂, addressFile, hj, hassociate, hr₂⟩)
      . exact not_mem_of_call hplaced hi' hr hopen
      . cases call_unique hplaced hi' hr hj hr₂
        cases hi'.symm.trans hj
        rw [hassociate] at hrequest
        rcases hrequest with hno | hno
        . cases hno
        . cases hno
  . intro t' head r ht'
    by_cases heq : t' = t
    . rw [← heq, ht'] at hleaves
      exact hleaves
    . rw [hpc heq] at ht'
      exact h.tails t' head r ht'
  . intro t' file ht' r hr
    rw [hfile]
    have hparkingOf : s.Parking r ∨ (s'.pc t).parking = some r := by
      rcases hr with hr | ⟨t₁, ht₁⟩
      . rw [hroutine.pending] at hr
        exact Or.inl (Or.inl hr)
      . by_cases heq : t₁ = t
        . exact Or.inr (heq ▸ ht₁)
        . rw [hpc heq] at ht₁
          exact Or.inl (Or.inr ⟨t₁, ht₁⟩)
    by_cases heq : t' = t
    . rw [heq] at ht'
      rcases hparkingOf with hr | hr
      . exact hclosing file ht' r hr
      . rw [ht'] at hr
        cases hr
    . rw [hpc heq] at ht'
      rcases hparkingOf with hr | hr
      . exact h.closing t' file ht' r hr
      . exact hparking r hr t' file ht'

-- Most routines neither park a record nor look for one on `g_PendingAddrList`.
theorem Hands.finished (h : Hands s) (hplaced : Placed s)
    (hroutine : Routine t irp (s.answer c irp call) s')
    (hfile : ∀ r, (s'.record r).pFileObject = (s.record r).pFileObject)
    (hrecord : ∀ r, r ∉ s.list gTcpAddrList → ¬ s.IsAddress r → s'.record r = s.record r)
    (hpc : s'.pc t = .idle ∨ ∃ head r, s'.pc t = .insertTail head r)
    : Hands s' := by
  apply h.completed hplaced hroutine hfile hrecord
  . intro file hclosing
    rcases hpc with hpc | ⟨head, r, hpc⟩
    . cases hpc.symm.trans hclosing
    . cases hpc.symm.trans hclosing
  . intro r hparking
    rcases hpc with hpc | ⟨head, r, hpc⟩
    . rw [hpc] at hparking
      cases hparking
    . rw [hpc] at hparking
      cases hparking

theorem isAddress_completed (hcall : s.calls irp = some call)
    (hroutine : Routine t irp (s.answer c irp call) s') (ha : s.IsAddress a)
    (hopen : a ∈ s.list gOpenAddrList → a ∈ s'.list gOpenAddrList)
    (hcontext : ∀ addressFile, call.request = .associateAddress addressFile → call.context = some a →
      a ∈ s'.list gOpenAddrList)
    : s'.IsAddress a := by
  rcases ha with ha | ⟨i, call', addressFile, hi, hrequest, ha⟩
  . exact Or.inl (hopen ha)
  . by_cases heq : i = irp
    . cases hcall.symm.trans (heq ▸ hi)
      exact Or.inl (hcontext addressFile hrequest ha)
    . refine Or.inr ⟨i, call', addressFile, ?_, hrequest, ha⟩
      rw [hroutine.calls]
      exact (Function.update_of_ne heq _ _).trans hi

theorem used_completed (hidle : s.pc t = .idle) (hroutine : Routine t irp (s.answer c irp call) s')
    (hknown : s'.nextRecord = s.nextRecord)
    (hfree : ∀ r ∈ s.list gFreeAddrList, r ∈ s'.list gFreeAddrList) (ha : s'.Used a)
    : s.Used a := by
  obtain ⟨hlt, hno⟩ := ha
  unfold State.Known at hlt
  rw [hknown] at hlt
  refine ⟨hlt, ?_⟩
  rintro (hmem | ⟨t', ht'⟩)
  . exact hno (Or.inl (hfree a hmem))
  . apply hno
    refine Or.inr ⟨t', ?_⟩
    rw [hroutine.pc_of_ne]
    . exact ht'
    . rintro rfl
      cases hidle.symm.trans ht'

-- What a routine that only adds to the lists makes of a graph.
theorem graph_completed (hcall : s.calls irp = some call) (hidle : s.pc t = .idle)
    (hroutine : Routine t irp (s.answer c irp call) s')
    (hgraph : Graph (· ∈ s.list gTcpAddrList) s.IsAddress s.Used s'.record s'.objects)
    (hknown : s'.nextRecord = s.nextRecord)
    (htcp : s'.list gTcpAddrList = s.list gTcpAddrList)
    (hfree : ∀ r ∈ s.list gFreeAddrList, r ∈ s'.list gFreeAddrList)
    (hopen : ∀ r ∈ s.list gOpenAddrList, r ∈ s'.list gOpenAddrList)
    (hcontext : ∀ addressFile r, call.request = .associateAddress addressFile →
      call.context = some r → r ∈ s'.list gOpenAddrList)
    : s'.Graph := by
  unfold State.Graph
  rw [htcp]
  apply hgraph.mono
  . exact fun a ha => isAddress_completed hcall hroutine ha (hopen a) fun f hf hr => hcontext f a hf hr
  . exact fun a ha => used_completed hidle hroutine hknown hfree ha

theorem objects_answer (hc : c.success = true)
    : (s.answer c irp call).objects = transport s.objects call := if_pos hc

theorem objects_answer_of_failed (hc : c.success = false)
    : (s.answer c irp call).objects = s.objects := if_neg (by rw [hc]; exact Bool.false_ne_true)

theorem graph_answer (irp : Nat) {conn addr used : Nat → Prop} {record : Nat → TdiOpenConn}
    (hgraph : Graph conn addr used record s.objects)
    (hserved : c.success = true → Graph conn addr used record (transport s.objects call))
    : Graph conn addr used record (s.answer c irp call).objects := by
  cases hc : c.success with
  | false =>
    rw [objects_answer_of_failed hc]
    exact hgraph
  | true =>
    rw [objects_answer hc]
    exact hserved hc

variable (hplaced : Placed s) (h : Associated s) (hcall : s.calls irp = some call)
variable (hidle : s.pc t = .idle)
include hplaced h hcall hidle

-- A routine that changes no record leaves this graph.
theorem associated_stay
    (hgraph : Graph (· ∈ s.list gTcpAddrList) s.IsAddress s.Used s.record (s.answer c irp call).objects)
    (hcontext : ∀ addressFile r, call.request = .associateAddress addressFile → call.context ≠ some r)
    : Associated (s.answer c irp call) := by
  have hroutine : Routine t irp (s.answer c irp call) (s.answer c irp call) := .stay hidle (.refl _)
  constructor
  . exact graph_completed hcall hidle hroutine hgraph rfl rfl (fun _ hr => hr) (fun _ hr => hr)
      fun f r hf hr => absurd hr (hcontext f r hf)
  . exact h.hands.finished hplaced hroutine (fun _ => rfl) (fun _ _ _ => rfl) (Or.inl hidle)

theorem associated_fails (hc : c.success = false)
    (hother : ∀ addressFile, call.request ≠ .associateAddress addressFile)
    : Associated (s.answer c irp call) := by
  apply associated_stay hplaced h hcall hidle ?_ fun f r hf => absurd hf (hother f)
  rw [objects_answer_of_failed hc]
  exact h.graph

theorem associated_insert {head : ListHead} {r : Nat}
    (hhead : head = gOpenAddrList ∨ head = gFreeAddrList)
    (hgraph : Graph (· ∈ s.list gTcpAddrList) s.IsAddress s.Used s.record (s.answer c irp call).objects)
    (hr : (s.answer c irp call).Loose r)
    (hcontext : ∀ addressFile a, call.request = .associateAddress addressFile →
      call.context = some a → head = gOpenAddrList ∧ a = r)
    : Associated ((s.answer c irp call).insert head r) := by
  have hplaced₀ : Placed (s.answer c irp call) := hplaced.answer
  have hne : head ≠ gPendingAddrList ∧ gTcpAddrList ≠ head := by
    rcases hhead with rfl | rfl
    . decide
    . decide
  have hroutine : Routine t irp (s.answer c irp call) ((s.answer c irp call).insert head r) :=
    .stay hidle (.insert hplaced₀ hr hne.1)
  have hmem : ∀ head', ∀ a ∈ s.list head', a ∈ ((s.answer c irp call).insert head r).list head' :=
    fun head' a ha => (hplaced₀.mem_insert_iff hr).mpr (Or.inl ha)
  constructor
  . refine graph_completed hcall hidle hroutine hgraph rfl (hplaced₀.list_insert_of_ne hr hne.2)
      (hmem _) (hmem _) ?_
    intro f a hf ha
    obtain ⟨rfl, rfl⟩ := hcontext f a hf ha
    exact (hplaced₀.mem_insert_iff hr).mpr (Or.inr ⟨rfl, rfl⟩)
  . exact h.hands.finished hplaced hroutine (fun _ => rfl) (fun _ _ _ => rfl) (Or.inl hidle)

variable (hdevice : c.sameDevice = true)
variable (hserved : c.success = true → Served s call)
include hdevice hserved

theorem associated_openAddress (hrequest : call.request = .openAddress)
    : Associated (tdiOpenAddressComplete c (s.answer c irp call) t irp call.context) := by
  have hplaced₀ : Placed (s.answer c irp call) := hplaced.answer
  have hother : ∀ addressFile, call.request ≠ .associateAddress addressFile := fun _ hno => by
    cases hrequest.symm.trans hno
  unfold Served at hserved
  rw [hrequest] at hserved
  have hgraph : Graph (· ∈ s.list gTcpAddrList) s.IsAddress s.Used s.record
      (s.answer c irp call).objects := by
    refine graph_answer irp h.graph fun hc => ?_
    unfold transport
    rw [hrequest]
    exact h.graph.opened (hserved hc).1 .address
  cases hcontext : call.context with
  | none => exact associated_stay hplaced h hcall hidle hgraph fun f r hf => absurd hf (hother f)
  | some r =>
    have hr := hplaced.loose_answer (c := c) hcall hcontext
    rw [tdiOpenAddressComplete]
    split
    . next hc =>
      rw [hdevice, Bool.true_and] at hc
      split
      . exact associated_insert hplaced h hcall hidle (Or.inl rfl) hgraph hr fun f a hf =>
          absurd hf (hother f)
      . have hroutine : Routine t irp (s.answer c irp call)
            ((s.answer c irp call).goto t (.park irp r false)) := .leave (.refl _) rfl
        constructor
        . exact graph_completed hcall hidle hroutine hgraph rfl rfl (fun _ ha => ha) (fun _ ha => ha)
            fun f a hf => absurd hf (hother f)
        . apply h.hands.completed hplaced hroutine (fun _ => rfl) (fun _ _ _ => rfl)
          . intro file hpc
            rw [pc_goto_self] at hpc
            cases hpc
          . intro a ha t' file ht'
            rw [pc_goto_self] at ha
            cases ha
            rw [(h.hands.fresh irp call r hcall (Or.inl hrequest) hcontext).2.2]
            rintro rfl
            exact (hserved hc).2 t' ht'
    . exact associated_insert hplaced h hcall hidle (Or.inr rfl) hgraph hr fun f a hf =>
        absurd hf (hother f)

theorem associated_openConnection (hrequest : call.request = .openConnection)
    : Associated (tdiOpenConnectionComplete c (s.answer c irp call) call.context) := by
  have hplaced₀ : Placed (s.answer c irp call) := hplaced.answer
  have hother : ∀ addressFile, call.request ≠ .associateAddress addressFile := fun _ hno => by
    cases hrequest.symm.trans hno
  unfold Served at hserved
  rw [hrequest] at hserved
  have hgraph : Graph (· ∈ s.list gTcpAddrList) s.IsAddress s.Used s.record
      (s.answer c irp call).objects := by
    refine graph_answer irp h.graph fun hc => ?_
    unfold transport
    rw [hrequest]
    exact h.graph.opened (hserved hc) (.connection none)
  cases hcontext : call.context with
  | none => exact associated_stay hplaced h hcall hidle hgraph fun f r hf => absurd hf (hother f)
  | some r =>
    have hr := hplaced.loose_answer (c := c) hcall hcontext
    obtain ⟨_, hfree, hfile⟩ := h.hands.fresh irp call r hcall (Or.inr hrequest) hcontext
    rw [tdiOpenConnectionComplete]
    split
    . next hc =>
      rw [hdevice, Bool.true_and] at hc
      have hroutine : Routine t irp (s.answer c irp call) ((s.answer c irp call).insert gTcpAddrList r) :=
        .stay hidle (.insert hplaced₀ hr (by decide))
      have hmem : ∀ {head' a}, a ∈ ((s.answer c irp call).insert gTcpAddrList r).list head' ↔
          a ∈ s.list head' ∨ head' = gTcpAddrList ∧ a = r := hplaced₀.mem_insert_iff hr
      constructor
      . have hinsert : Graph (fun a => a ∈ s.list gTcpAddrList ∨ a = r) s.IsAddress s.Used s.record
            (s.answer c irp call).objects := by
          have hclosed := hserved hc
          rw [← hfile] at hclosed
          have hgraph' := h.graph.insertConnection hclosed hfree
          rw [objects_answer hc]
          unfold transport
          rw [hrequest]
          rwa [hfile] at hgraph'
        have htcp : (fun a => a ∈ ((s.answer c irp call).insert gTcpAddrList r).list gTcpAddrList) =
            fun a => a ∈ s.list gTcpAddrList ∨ a = r := by
          funext a
          rw [hmem, and_iff_right rfl]
        unfold State.Graph
        rw [htcp]
        apply hinsert.mono
        . exact fun a ha => isAddress_completed hcall hroutine ha (fun ha => hmem.mpr (Or.inl ha))
            fun f hf => absurd hf (hother f)
        . exact fun a ha => used_completed hidle hroutine rfl (fun _ ha => hmem.mpr (Or.inl ha)) ha
      . exact h.hands.finished hplaced hroutine (fun _ => rfl) (fun _ _ _ => rfl) (Or.inl hidle)
    . exact associated_insert hplaced h hcall hidle (Or.inr rfl) hgraph hr fun f a hf =>
        absurd hf (hother f)

theorem associated_associateAddress {addressFile : Nat}
    (hrequest : call.request = .associateAddress addressFile)
    : Associated (tdiAssociateAddressComplete c (s.answer c irp call) call.file call.context) := by
  have hplaced₀ : Placed (s.answer c irp call) := hplaced.answer
  unfold Served at hserved
  rw [hrequest] at hserved
  have hgraph : Graph (· ∈ s.list gTcpAddrList) s.IsAddress s.Used s.record
      (s.answer c irp call).objects := by
    refine graph_answer irp h.graph fun hc => ?_
    unfold transport
    rw [hrequest]
    exact h.graph.associated (hserved hc).1 (some addressFile)
  cases hcontext : call.context with
  | none =>
    exact associated_stay hplaced h hcall hidle hgraph fun f r _ hr => by
      cases hcontext.symm.trans hr
  | some r =>
    have hr := hplaced.loose_answer (c := c) hcall hcontext
    have haddress : s.IsAddress r := Or.inr ⟨irp, call, addressFile, hcall, hrequest, hcontext⟩
    have hinsert : Associated ((s.answer c irp call).insert gOpenAddrList r) :=
      associated_insert hplaced h hcall hidle (Or.inl rfl) hgraph hr fun f a _ ha => by
        cases hcontext.symm.trans ha
        exact ⟨rfl, rfl⟩
    rw [tdiAssociateAddressComplete]
    split
    . next hc =>
      rw [hdevice, Bool.true_and] at hc
      split
      . next tcpObj hfind =>
        have hmem : tcpObj ∈ s.list gTcpAddrList := find_mem hfind
        have hfile : (s.record tcpObj).pFileObject = call.file := find_file hfind
        have hne : r ≠ tcpObj := fun heq => haddress.not_mem hplaced (heq ▸ hmem)
        let s₁ := ((s.answer c irp call).setPAddrObj tcpObj (some r)).setPTcpObj r (some tcpObj)
        have hplaced₁ : Placed s₁ := hplaced₀.setRecord.setRecord
        have hframe : Frame (s.answer c irp call) s₁ := Frame.setPAddrObj.trans .setPTcpObj
        have hroutine : Routine t irp (s.answer c irp call) (s₁.insert gOpenAddrList r) :=
          .stay hidle (hframe.trans (.insert hplaced₁ hr (by decide)))
        have hlinked : Graph (· ∈ s.list gTcpAddrList) s.IsAddress s.Used s₁.record s₁.objects := by
          refine hgraph.link ?_ ?_ ?_ ?_ ?_ hmem ?_ haddress ?_
          . intro b
            rw [pFileObject_setPTcpObj, pFileObject_setPAddrObj]
            rfl
          . rw [pAddrObj_setPTcpObj, pAddrObj_setPAddrObj, if_pos rfl]
          . intro b hb
            rw [pAddrObj_setPTcpObj, pAddrObj_setPAddrObj, if_neg hb]
            rfl
          . rw [pTcpObj_setPTcpObj, if_pos rfl]
          . intro b hb
            rw [pTcpObj_setPTcpObj, if_neg hb, pTcpObj_setPAddrObj]
            rfl
          . cases hlink : (s.record tcpObj).pAddrObj with
            | none => rfl
            | some b =>
              have hagree := h.graph.agree tcpObj b hmem hlink
              rw [hfile, (hserved hc).1] at hagree
              cases hagree
          . show (s.answer c irp call).objects (s.record tcpObj).pFileObject = _
            rw [objects_answer hc, hfile, h.hands.taken irp call addressFile r hcall hrequest hcontext]
            unfold transport
            rw [hrequest]
            exact Function.update_self _ _ _
        have hsub : ∀ head, ∀ a ∈ s.list head, a ∈ (s₁.insert gOpenAddrList r).list head :=
          fun head a ha => (hplaced₁.mem_insert_iff hr).mpr (Or.inl ha)
        constructor
        . refine graph_completed hcall hidle hroutine hlinked rfl
            (hplaced₁.list_insert_of_ne hr (by decide)) (hsub _) (hsub _) ?_
          intro f a _ ha
          cases hcontext.symm.trans ha
          exact (hplaced₁.mem_insert_iff hr).mpr (Or.inr ⟨rfl, rfl⟩)
        . refine h.hands.finished hplaced hroutine ?_ ?_ (Or.inl hidle)
          . intro b
            show (s₁.record b).pFileObject = _
            rw [pFileObject_setPTcpObj, pFileObject_setPAddrObj]
            rfl
          . intro b htcp hb
            have hbr : b ≠ r := fun heq => hb (heq ▸ haddress)
            have hbc : b ≠ tcpObj := fun heq => htcp (heq ▸ hmem)
            exact (Function.update_of_ne hbr _ _).trans (Function.update_of_ne hbc _ _)
      . exact hinsert
    . exact hinsert

omit hdevice hserved in
-- The pointers of a connection and its address are cleared, and the transport has cleared its own.
theorem associated_unlink {tcpObj : Nat} (hmem : tcpObj ∈ s.list gTcpAddrList)
    (hfile : (s.record tcpObj).pFileObject = call.file)
    (hrequest : call.request = .disAssociateAddress)
    (hframe : Frame (s.answer c irp call) s') (hlinks : s'.links = s.links)
    (hnext : s'.nextRecord = s.nextRecord)
    (hobjects : s'.objects = Function.update s.objects call.file (.connection none))
    (hfiles : ∀ b, (s'.record b).pFileObject = (s.record b).pFileObject)
    (hpAddrObj : ∀ b, (s'.record b).pAddrObj = if b = tcpObj then none else (s.record b).pAddrObj)
    (hpTcpObj : ∀ b d, (s'.record b).pTcpObj = some d →
      (s.record b).pTcpObj = some d ∧ (s.record tcpObj).pAddrObj ≠ some b)
    (hrecord : ∀ b, b ∉ s.list gTcpAddrList → ¬ s.IsAddress b → s'.record b = s.record b)
    : Associated s' := by
  have hlist : s'.list = s.list := by
    funext head
    show s'.links.toList s'.nextRecord head = _
    rw [hlinks, hnext]
    rfl
  have hroutine : Routine t irp (s.answer c irp call) s' := .stay hidle hframe
  have hunlink : Graph (· ∈ s.list gTcpAddrList) s.IsAddress s.Used s'.record s.objects := by
    refine h.graph.unlink hfiles ?_ (fun b d hbd => (hpTcpObj b d hbd).1) ?_
    . intro d b hdb
      rw [hpAddrObj] at hdb
      split at hdb
      . cases hdb
      . exact hdb
    . intro b d hb hbd
      obtain ⟨hold, hno⟩ := hpTcpObj b d hbd
      rw [hpAddrObj, if_neg]
      rintro rfl
      exact hno (h.graph.back b d hb hold).2
  have hgraph : Graph (· ∈ s.list gTcpAddrList) s.IsAddress s.Used s'.record s'.objects := by
    rw [hobjects]
    apply hunlink.disAssociated
    intro d hd heq
    rw [hfiles, ← hfile] at heq
    rw [hpAddrObj, if_pos (h.graph.files d tcpObj hd hmem heq)]
  constructor
  . apply graph_completed hcall hidle hroutine hgraph hnext (congrFun hlist _)
    . rw [hlist]
      exact fun a ha => ha
    . rw [hlist]
      exact fun a ha => ha
    . exact fun f a hf => by cases hrequest.symm.trans hf
  . refine h.hands.finished hplaced hroutine hfiles hrecord (Or.inl ?_)
    rw [hframe.pc]
    exact hidle

omit hserved in
theorem associated_disAssociateAddress (hrequest : call.request = .disAssociateAddress)
    : Associated (tdiDisAssociateAddressComplete c (s.answer c irp call) call.file) := by
  have hother : ∀ addressFile, call.request ≠ .associateAddress addressFile := fun _ hno => by
    cases hrequest.symm.trans hno
  unfold tdiDisAssociateAddressComplete
  split
  . next hc =>
    rw [hdevice, Bool.true_and] at hc
    have hobjects : (s.answer c irp call).objects =
        Function.update s.objects call.file (.connection none) := by
      rw [objects_answer hc]
      unfold transport
      rw [hrequest]
    split
    . next tcpObj hfind =>
      have hmem : tcpObj ∈ s.list gTcpAddrList := find_mem hfind
      have hfile : (s.record tcpObj).pFileObject = call.file := find_file hfind
      split
      . next addrObj hlink =>
        have haddress := h.graph.target tcpObj addrObj hmem hlink
        apply associated_unlink hplaced h hcall hidle hmem hfile hrequest
          (Frame.setPTcpObj.trans .setPAddrObj) rfl rfl hobjects
        . intro b
          rw [pFileObject_setPAddrObj, pFileObject_setPTcpObj]
          rfl
        . intro b
          rw [pAddrObj_setPAddrObj, pAddrObj_setPTcpObj]
          rfl
        . intro b d hbd
          rw [pTcpObj_setPAddrObj, pTcpObj_setPTcpObj] at hbd
          split at hbd
          . cases hbd
          . next hne =>
            refine ⟨hbd, fun heq => ?_⟩
            cases hlink.symm.trans heq
            exact hne rfl
        . intro b htcp hb
          have hbr : b ≠ addrObj := fun heq => hb (heq ▸ haddress)
          have hbc : b ≠ tcpObj := fun heq => htcp (heq ▸ hmem)
          exact (Function.update_of_ne hbc _ _).trans (Function.update_of_ne hbr _ _)
      . next hlink =>
        apply associated_unlink hplaced h hcall hidle hmem hfile hrequest .setPAddrObj rfl rfl hobjects
        . intro b
          rw [pFileObject_setPAddrObj]
          rfl
        . intro b
          rw [pAddrObj_setPAddrObj]
          rfl
        . intro b d hbd
          rw [pTcpObj_setPAddrObj] at hbd
          refine ⟨hbd, fun heq => ?_⟩
          cases hlink.symm.trans heq
        . intro b htcp hb
          have hbc : b ≠ tcpObj := fun heq => htcp (heq ▸ hmem)
          exact Function.update_of_ne hbc _ _
    . next hnone =>
      apply associated_stay hplaced h hcall hidle ?_ fun f r hf => absurd hf (hother f)
      rw [hobjects]
      apply h.graph.disAssociated
      exact fun d hd heq => absurd heq (file_ne_of_find hnone hd)
  . next hc =>
    rw [hdevice, Bool.true_and, Bool.not_eq_true] at hc
    exact associated_fails hplaced h hcall hidle hc hother

omit hdevice hserved in
-- A connection goes to `g_FreeAddrList`, after the pointer of its address to it is cleared.
theorem associated_removeConnection {s₁ : State} {tcpObj : Nat} (hmem : tcpObj ∈ s.list gTcpAddrList)
    (hfile : (s.record tcpObj).pFileObject = call.file) (hrequest : call.request = .closeConnection)
    (hplaced₁ : Placed s₁) (hframe : Frame (s.answer c irp call) s₁) (hlist : s₁.list = s.list)
    (hnext : s₁.nextRecord = s.nextRecord)
    (hobjects : s₁.objects = Function.update s.objects call.file .closed)
    (hfiles : ∀ b, (s₁.record b).pFileObject = (s.record b).pFileObject)
    (hpAddrObj : ∀ b, (s₁.record b).pAddrObj = (s.record b).pAddrObj)
    (hpTcpObj : ∀ b d, (s₁.record b).pTcpObj = some d →
      (s.record b).pTcpObj = some d ∧ (s.record tcpObj).pAddrObj ≠ some b)
    (hrecord : ∀ b, ¬ s.IsAddress b → s₁.record b = s.record b)
    : Associated ((s₁.remove tcpObj).goto t (.insertTail gFreeAddrList tcpObj)) := by
  have hmem₁ : tcpObj ∈ s₁.list gTcpAddrList := hlist ▸ hmem
  have hroutine : Routine t irp (s.answer c irp call)
      ((s₁.remove tcpObj).goto t (.insertTail gFreeAddrList tcpObj)) :=
    .leave (hframe.trans (.remove hplaced₁ hmem₁ (by decide))) (Or.inl rfl)
  have hlists : ∀ {head a}, a ∈ ((s₁.remove tcpObj).goto t (.insertTail gFreeAddrList tcpObj)).list head ↔
      a ∈ s.list head ∧ a ≠ tcpObj := by
    intro head a
    rw [← hlist]
    exact hplaced₁.mem_remove_iff hmem₁
  have hunlink : Graph (· ∈ s.list gTcpAddrList) s.IsAddress s.Used s₁.record s.objects := by
    refine h.graph.unlink hfiles ?_ (fun b d hbd => (hpTcpObj b d hbd).1) fun b d _ _ => hpAddrObj d
    intro d b hdb
    rwa [hpAddrObj] at hdb
  have hgraph : Graph (fun d => d ∈ s.list gTcpAddrList ∧ d ≠ tcpObj) s.IsAddress s.Used s₁.record
      s₁.objects := by
    rw [hobjects]
    apply hunlink.removeConnection
    . intro b hb hbd
      obtain ⟨hold, hno⟩ := hpTcpObj b tcpObj hbd
      exact hno (h.graph.back b tcpObj hb hold).2
    . intro d hd heq
      rw [hfiles, ← hfile] at heq
      exact h.graph.files d tcpObj hd hmem heq
  have hkeep : ∀ {head a}, head ≠ gTcpAddrList → a ∈ s.list head →
      a ∈ ((s₁.remove tcpObj).goto t (.insertTail gFreeAddrList tcpObj)).list head := by
    intro head a hhead ha
    refine hlists.mpr ⟨ha, ?_⟩
    rintro rfl
    exact hhead (hplaced.mem_unique ha hmem)
  constructor
  . have htcp : (fun a => a ∈ ((s₁.remove tcpObj).goto t
          (.insertTail gFreeAddrList tcpObj)).list gTcpAddrList) =
        fun a => a ∈ s.list gTcpAddrList ∧ a ≠ tcpObj := by
      funext a
      rw [hlists]
    unfold State.Graph
    rw [htcp]
    apply hgraph.mono
    . exact fun a ha => isAddress_completed hcall hroutine ha (hkeep (by decide))
        fun f hf => by cases hrequest.symm.trans hf
    . exact fun a ha => used_completed hidle hroutine hnext (fun r hr => hkeep (by decide) hr) ha
  . exact h.hands.finished hplaced hroutine hfiles (fun b _ hb => hrecord b hb)
      (Or.inr ⟨_, _, pc_goto_self⟩)

omit hserved in
theorem associated_closeConnection (hrequest : call.request = .closeConnection)
    : Associated (tdiCloseConnectionComplete c (s.answer c irp call) t call.file) := by
  have hother : ∀ addressFile, call.request ≠ .associateAddress addressFile := fun _ hno => by
    cases hrequest.symm.trans hno
  have hplaced₀ : Placed (s.answer c irp call) := hplaced.answer
  unfold tdiCloseConnectionComplete
  split
  . next hc =>
    rw [hdevice, Bool.true_and] at hc
    have hobjects : (s.answer c irp call).objects = Function.update s.objects call.file .closed := by
      rw [objects_answer hc]
      unfold transport
      rw [hrequest]
    split
    . next tcpObj hfind =>
      have hmem : tcpObj ∈ s.list gTcpAddrList := find_mem hfind
      have hfile : (s.record tcpObj).pFileObject = call.file := find_file hfind
      split
      . next addrObj hlink =>
        have haddress := h.graph.target tcpObj addrObj hmem hlink
        have hplaced₁ : Placed ((s.answer c irp call).setPTcpObj addrObj none) := hplaced₀.setRecord
        apply associated_removeConnection hplaced h hcall hidle hmem hfile hrequest hplaced₁
          .setPTcpObj rfl rfl hobjects
        . intro b
          rw [pFileObject_setPTcpObj]
          rfl
        . intro b
          rw [pAddrObj_setPTcpObj]
          rfl
        . intro b d hbd
          rw [pTcpObj_setPTcpObj] at hbd
          split at hbd
          . cases hbd
          . next hne =>
            refine ⟨hbd, fun heq => ?_⟩
            cases hlink.symm.trans heq
            exact hne rfl
        . intro b hb
          have hbr : b ≠ addrObj := fun heq => hb (heq ▸ haddress)
          exact Function.update_of_ne hbr _ _
      . next hlink =>
        apply associated_removeConnection hplaced h hcall hidle hmem hfile hrequest hplaced₀ (.refl _)
          rfl rfl hobjects (fun _ => rfl) (fun _ => rfl) ?_ fun _ _ => rfl
        intro b d hbd
        refine ⟨hbd, fun heq => ?_⟩
        cases hlink.symm.trans heq
    . next hnone =>
      apply associated_stay hplaced h hcall hidle ?_ fun f r hf => absurd hf (hother f)
      rw [hobjects]
      exact h.graph.elsewhere (fun d hd => file_ne_of_find hnone hd) .closed
  . next hc =>
    rw [hdevice, Bool.true_and, Bool.not_eq_true] at hc
    exact associated_fails hplaced h hcall hidle hc hother

omit hplaced h hcall hidle hdevice in
theorem graph_closeAddress (irp : Nat) {record : Nat → TdiOpenConn} {used addr : Nat → Prop}
    (hrequest : call.request = .closeAddress) (hc : c.success = true)
    (hgraph : Graph (· ∈ s.list gTcpAddrList) addr used record s.objects)
    (hgone : ∀ d b, d ∈ s.list gTcpAddrList → (record d).pAddrObj = some b →
      (record b).pFileObject ≠ call.file)
    : Graph (· ∈ s.list gTcpAddrList) addr used record (s.answer c irp call).objects := by
  unfold Served at hserved
  rw [hrequest] at hserved
  rw [objects_answer hc]
  unfold transport
  rw [hrequest]
  exact hgraph.closedAddress (hserved hc).1 hgone

omit hdevice in
-- An address goes to `g_FreeAddrList`, after the pointer of its connection to it is cleared.
theorem associated_closeRecord {s₁ : State} {r : Nat} (hrequest : call.request = .closeAddress)
    (hc : c.success = true)
    (hcloses : ∀ conn ∈ s.list gTcpAddrList, ∀ a, (s.record conn).pAddrObj = some a →
      (s.record a).pFileObject = call.file → a = r ∧ (s.record a).pTcpObj = some conn)
    (hmem : r ∈ s.list gOpenAddrList) (hfile : (s.record r).pFileObject = call.file)
    (hframe : Frame (s.answer c irp call) s₁)
    (hlists : ∀ head a, a ∈ s₁.list head ↔ a ∈ s.list head ∧ a ≠ r)
    (hnext : s₁.nextRecord = s.nextRecord)
    (hobjects : s₁.objects = (s.answer c irp call).objects)
    (hfiles : ∀ b, (s₁.record b).pFileObject = (s.record b).pFileObject)
    (hpTcpObj : ∀ b, (s₁.record b).pTcpObj = (s.record b).pTcpObj)
    (hpAddrObj : ∀ d, (s₁.record d).pAddrObj =
      if (s.record r).pTcpObj = some d then none else (s.record d).pAddrObj)
    (hrecord : ∀ b, b ∉ s.list gTcpAddrList → s₁.record b = s.record b)
    : Associated (s₁.goto t (.insertTail gFreeAddrList r)) := by
  have hroutine : Routine t irp (s.answer c irp call) (s₁.goto t (.insertTail gFreeAddrList r)) :=
    .leave hframe (Or.inl rfl)
  have hold : ∀ {d b}, (s₁.record d).pAddrObj = some b →
      (s.record r).pTcpObj ≠ some d ∧ (s.record d).pAddrObj = some b := by
    intro d b hdb
    rw [hpAddrObj] at hdb
    split at hdb
    . cases hdb
    . next hne => exact ⟨hne, hdb⟩
  have hused : s.Used r :=
    ⟨hplaced.custody.listed _ r hmem, not_recycled_of_mem hplaced hmem (by decide)⟩
  have hgone : ∀ d b, d ∈ s.list gTcpAddrList → (s₁.record d).pAddrObj = some b →
      (s₁.record b).pFileObject ≠ call.file := by
    intro d b hd hdb heq
    obtain ⟨hne, hlink⟩ := hold hdb
    rw [hfiles] at heq
    obtain ⟨rfl, hback⟩ := hcloses d hd b hlink heq
    exact hne hback
  have hunlink : Graph (· ∈ s.list gTcpAddrList) s.IsAddress (fun a => s.Used a ∧ a ≠ r) s₁.record
      s.objects := by
    refine (h.graph.mono (fun _ ha => ha) fun a ha => ha.1).unlink hfiles
      (fun d b hdb => (hold hdb).2) (fun b d hbd => (hpTcpObj b).symm.trans hbd) ?_
    rintro b d ⟨hb, hbr⟩ hbd
    rw [hpTcpObj] at hbd
    rw [hpAddrObj, if_neg]
    intro hrd
    cases (h.graph.back b d hb hbd).2.symm.trans (h.graph.back r d hused hrd).2
    exact hbr rfl
  have hforget : Graph (· ∈ s.list gTcpAddrList)
      (s₁.goto t (.insertTail gFreeAddrList r)).IsAddress (fun a => s.Used a ∧ a ≠ r) s₁.record
      s.objects := by
    apply hunlink.forgetAddress
    . intro b hb hbr
      exact isAddress_completed hcall hroutine hb (fun hb => (hlists _ b).mpr ⟨hb, hbr⟩)
        fun f hf => by cases hrequest.symm.trans hf
    . intro d hd hdr
      exact hgone d r hd hdr ((hfiles r).trans hfile)
  have hgraph := graph_closeAddress hserved irp hrequest hc hforget hgone
  constructor
  . have htcp : (fun a => a ∈ (s₁.goto t (.insertTail gFreeAddrList r)).list gTcpAddrList) =
        (· ∈ s.list gTcpAddrList) := by
      funext a
      apply propext
      refine (hlists _ a).trans (and_iff_left_of_imp fun ha => ?_)
      rintro rfl
      cases hplaced.mem_unique ha hmem
    unfold State.Graph
    rw [htcp, show (s₁.goto t (.insertTail gFreeAddrList r)).objects = _ from hobjects]
    apply hgraph.mono (fun _ ha => ha)
    intro a ha
    constructor
    . refine used_completed hidle hroutine hnext (fun b hb => (hlists _ b).mpr ⟨hb, ?_⟩) ha
      rintro rfl
      cases hplaced.mem_unique hb hmem
    . rintro rfl
      exact ha.2 (Or.inr ⟨t, pc_goto_self⟩)
  . exact h.hands.finished hplaced hroutine hfiles (fun b hb _ => hrecord b hb)
      (Or.inr ⟨_, _, pc_goto_self⟩)

theorem associated_closeAddress (hrequest : call.request = .closeAddress)
    (hcloses : c.success = true → ∀ conn ∈ s.list gTcpAddrList, ∀ a,
      (s.record conn).pAddrObj = some a → (s.record a).pFileObject = call.file →
      s.find gOpenAddrList call.file = some a ∧ (s.record a).pTcpObj = some conn)
    : Associated (tdiCloseAddressComplete c (s.answer c irp call) t call.file) := by
  have hother : ∀ addressFile, call.request ≠ .associateAddress addressFile := fun _ hno => by
    cases hrequest.symm.trans hno
  have hplaced₀ : Placed (s.answer c irp call) := hplaced.answer
  unfold tdiCloseAddressComplete
  split
  . next hc =>
    rw [hdevice, Bool.true_and] at hc
    split
    . next r hfind =>
      have hmem : r ∈ s.list gOpenAddrList := find_mem hfind
      have hfile : (s.record r).pFileObject = call.file := find_file hfind
      have hcloses' : ∀ conn ∈ s.list gTcpAddrList, ∀ a, (s.record conn).pAddrObj = some a →
          (s.record a).pFileObject = call.file → a = r ∧ (s.record a).pTcpObj = some conn := by
        intro conn hconn a ha hafile
        obtain ⟨hfound, hback⟩ := hcloses hc conn hconn a ha hafile
        exact ⟨Option.some.inj (hfound.symm.trans hfind), hback⟩
      have hframe := Frame.remove hplaced₀ hmem (by decide)
      have hlists : ∀ head a, a ∈ ((s.answer c irp call).remove r).list head ↔ a ∈ s.list head ∧ a ≠ r :=
        fun head a => hplaced₀.mem_remove_iff hmem
      unfold closeRecord
      dsimp only
      split
      . next tcpObj hlink =>
        have hlink' : (s.record r).pTcpObj = some tcpObj := hlink
        have hused : s.Used r :=
          ⟨hplaced.custody.listed _ r hmem, not_recycled_of_mem hplaced hmem (by decide)⟩
        apply associated_closeRecord hplaced h hcall hidle hserved hrequest hc hcloses' hmem hfile
          (hframe.trans .setPAddrObj) hlists rfl rfl
        . intro b
          rw [pFileObject_setPAddrObj]
          rfl
        . intro b
          rw [pTcpObj_setPAddrObj]
          rfl
        . intro d
          rw [pAddrObj_setPAddrObj, hlink']
          by_cases hd : d = tcpObj
          . rw [if_pos hd, if_pos (congrArg some hd.symm)]
          . rw [if_neg hd, if_neg fun heq => hd (Option.some.inj heq).symm]
            rfl
        . intro b hb
          have hne : b ≠ tcpObj := by
            rintro rfl
            exact hb (h.graph.back r b hused hlink').1
          exact Function.update_of_ne hne _ _
      . next hlink =>
        have hlink' : (s.record r).pTcpObj = none := hlink
        apply associated_closeRecord hplaced h hcall hidle hserved hrequest hc hcloses' hmem hfile
          hframe hlists rfl rfl (fun _ => rfl) (fun _ => rfl) ?_ fun _ _ => rfl
        intro d
        rw [hlink', if_neg fun hno => by cases hno]
        rfl
    . next hnone =>
      have hroutine : Routine t irp (s.answer c irp call)
          ((s.answer c irp call).goto t (.findPending call.file)) := .leave (.refl _) trivial
      have hgone : ∀ d b, d ∈ s.list gTcpAddrList → (s.record d).pAddrObj = some b →
          (s.record b).pFileObject ≠ call.file := by
        intro d b hd hdb hb
        cases hnone.symm.trans (hcloses hc d hd b hdb hb).1
      have hgraph := graph_closeAddress hserved irp hrequest hc h.graph hgone
      unfold Served at hserved
      rw [hrequest] at hserved
      constructor
      . exact graph_completed hcall hidle hroutine hgraph rfl rfl (fun _ ha => ha) (fun _ ha => ha)
          fun f a hf => absurd hf (hother f)
      . apply h.hands.completed hplaced hroutine (fun _ => rfl) (fun _ _ _ => rfl)
        . intro file hpc r hr
          rw [pc_goto_self] at hpc
          cases hpc
          exact (hserved hc).2 r hr
        . intro r hr
          rw [pc_goto_self] at hr
          cases hr
  . next hc =>
    rw [hdevice, Bool.true_and, Bool.not_eq_true] at hc
    exact associated_fails hplaced h hcall hidle hc hother

end Completions

end Ansfw.OpenConn
