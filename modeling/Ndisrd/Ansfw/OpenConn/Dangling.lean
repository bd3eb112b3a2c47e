import Ndisrd.Ansfw.OpenConn.Links

/-!
This module contains the runs of the six operations on addresses and connections: as long as each address
that is closed names the connections that point to it, no pointer between the records dangles.
-/

namespace Ansfw.OpenConn

open ListHead ListEntry

/-! ### The dispatch routines -/

section Dispatch

variable {s s' : State} {irp file r a : Nat} {call : Call}

theorem Hands.dispatched (h : Hands s) (hplaced : Placed s) (hnew : irp ∉ s.issued)
    (hcalls : s'.calls = Function.update s.calls irp (some call))
    (hissued : s'.issued = irp :: s.issued) (hpc : s'.pc = s.pc)
    (hpending : s'.list gPendingAddrList = s.list gPendingAddrList)
    (hassociates : call.request.associates = true)
    (hrecord : ∀ a, s.Known a → a ∉ s.list gFreeAddrList → s'.record a = s.record a)
    (htaken : ∀ addressFile a, call.request = .associateAddress addressFile → call.context = some a →
      (s'.record a).pFileObject = addressFile)
    (hfresh : ∀ r, call.request = .openAddress ∨ call.request = .openConnection →
      call.context = some r → (s'.record r).pTcpObj = none ∧ (s'.record r).pAddrObj = none ∧
      (s'.record r).pFileObject = call.file)
    : Hands s' := by
  have hsub : ∀ {i call'}, s'.calls i = some call' → i ≠ irp ∧ s.calls i = some call' ∨
      i = irp ∧ call' = call := by
    intro i call' hi
    rw [hcalls] at hi
    by_cases heq : i = irp
    . rw [heq, Function.update_self] at hi
      exact Or.inr ⟨heq, (Option.some.inj hi).symm⟩
    . rw [Function.update_of_ne heq] at hi
      exact Or.inl ⟨heq, hi⟩
  have hkept : ∀ {k a}, s.held k = some a → s'.record a = s.record a := fun hk =>
    hrecord _ (hplaced.custody.kept _ _ hk) (hplaced.custody.off _ _ hk _)
  have hcontext : ∀ {i call' a}, s.calls i = some call' → call'.context = some a →
      s'.record a = s.record a := by
    intro i call' a hi ha
    apply hkept (k := .call i)
    show (s.calls i).bind Call.context = some a
    rw [hi]
    exact ha
  refine ⟨?_, ?_, ?_, ?_, ?_, ?_⟩
  . intro i call' hi
    rcases hsub hi with ⟨_, hi⟩ | ⟨_, rfl⟩
    . exact h.requests i call' hi
    . exact hassociates
  . intro i call' hi
    rw [hissued]
    rcases hsub hi with ⟨_, hi⟩ | ⟨rfl, _⟩
    . exact List.mem_cons_of_mem irp (h.issued i call' hi)
    . exact List.mem_cons_self
  . intro i call' addressFile a hi hrequest ha
    rcases hsub hi with ⟨_, hi⟩ | ⟨_, rfl⟩
    . rw [hcontext hi ha]
      exact h.taken i call' addressFile a hi hrequest ha
    . exact htaken addressFile a hrequest ha
  . intro i call' r hi hrequest hr
    rcases hsub hi with ⟨_, hi⟩ | ⟨_, rfl⟩
    . rw [hcontext hi hr]
      exact h.fresh i call' r hi hrequest hr
    . exact hfresh r hrequest hr
  . rw [hpc]
    exact h.tails
  . intro t file ht r hr
    rw [hpc] at ht
    rcases hr with hr | ⟨t', ht'⟩
    . rw [hpending] at hr
      rw [hrecord r (hplaced.custody.listed _ r hr) fun hfree => by cases hplaced.mem_unique hr hfree]
      exact h.closing t file ht r (Or.inl hr)
    . rw [hpc] at ht'
      have hheld : s.held (.thread t') = some r := by
        show (s.pc t').record = some r
        cases hpc' : s.pc t' with
        | park | insertPending =>
          rw [hpc'] at ht'
          exact ht'
        | _ =>
          rw [hpc'] at ht'
          cases ht'
      rw [hkept hheld]
      exact h.closing t file ht r (Or.inr ⟨t', ht'⟩)

theorem isAddress_dispatched (h : Hands s) (hnew : irp ∉ s.issued)
    (hcalls : s'.calls = Function.update s.calls irp (some call))
    (hopen : a ∈ s.list gOpenAddrList → a ∈ s'.list gOpenAddrList ∨
      ∃ addressFile, call.request = .associateAddress addressFile ∧ call.context = some a)
    (ha : s.IsAddress a)
    : s'.IsAddress a := by
  rcases ha with ha | ⟨i, call', addressFile, hi, hrequest, ha⟩
  . rcases hopen ha with ha | ⟨addressFile, hrequest, ha⟩
    . exact Or.inl ha
    . refine Or.inr ⟨irp, call, addressFile, ?_, hrequest, ha⟩
      rw [hcalls, Function.update_self]
  . refine Or.inr ⟨i, call', addressFile, ?_, hrequest, ha⟩
    rw [hcalls, Function.update_of_ne]
    . exact hi
    . rintro rfl
      exact hnew (h.issued i call' hi)

variable (hplaced : Placed s) (h : Associated s) (hnew : irp ∉ s.issued)
include hplaced h hnew

theorem associated_pass (hassociates : call.request.associates = true) (hcontext : call.context = none)
    : Associated (s.pass irp (some call)) := by
  constructor
  . apply h.graph.mono
    . exact fun a ha => isAddress_dispatched h.hands hnew rfl Or.inl ha
    . exact fun a ha => ha
  . refine h.hands.dispatched hplaced hnew rfl rfl rfl rfl hassociates (fun _ _ _ => rfl) ?_ ?_
    . exact fun f a _ ha => by cases hcontext.symm.trans ha
    . exact fun r _ hr => by cases hcontext.symm.trans hr

theorem associated_tdiAssociateAddress {addressFile : Nat}
    : Associated (tdiAssociateAddress s irp file addressFile) := by
  unfold tdiAssociateAddress
  split
  . next r hfind =>
    have hmem := find_mem hfind
    have hlists : ∀ head, head ≠ gOpenAddrList → (s.remove r).list head = s.list head :=
      fun head hhead => hplaced.list_remove_of_ne hmem hhead
    have hrecycled : ∀ {a}, s.Recycled a → (s.remove r).Recycled a := by
      rintro a (hfree | ht)
      . left
        rw [hlists gFreeAddrList (by decide)]
        exact hfree
      . exact Or.inr ht
    constructor
    . have htcp : ((s.remove r).pass irp (some ⟨.associateAddress addressFile, file, some r⟩)).list
          gTcpAddrList = s.list gTcpAddrList := hlists gTcpAddrList (by decide)
      unfold State.Graph
      rw [htcp]
      apply h.graph.mono
      . intro a ha
        apply isAddress_dispatched h.hands hnew rfl ?_ ha
        intro ha
        by_cases har : a = r
        . rw [har]
          exact Or.inr ⟨addressFile, rfl, rfl⟩
        . exact Or.inl ((hplaced.mem_remove_iff hmem).mpr ⟨ha, har⟩)
      . exact fun a ha => ⟨ha.1, fun hno => ha.2 (hrecycled hno)⟩
    . refine h.hands.dispatched hplaced hnew rfl rfl rfl (hlists gPendingAddrList (by decide)) rfl
        (fun _ _ _ => rfl) ?_ ?_
      . rintro f a ⟨⟩ ⟨⟩
        have hfile := find_file hfind
        exact hfile
      . rintro a (hno | hno)
        . cases hno
        . cases hno
  . exact associated_pass hplaced h hnew rfl rfl

theorem associated_tdiOpen {poolAlloc : Bool} {request : Request}
    (hrequest : request = .openAddress ∨ request = .openConnection)
    : Associated (tdiOpen poolAlloc s irp request file) := by
  have hassociates : request.associates = true := by
    rcases hrequest with rfl | rfl
    . rfl
    . rfl
  unfold tdiOpen
  cases halloc : tdiAllocOpenConn poolAlloc s with
  | none => exact associated_pass hplaced h hnew hassociates rfl
  | some alloc =>
    obtain ⟨r, s₁⟩ := alloc
    obtain ⟨_, _, hs₁⟩ := hplaced.tdiAllocOpenConn halloc
    have hrecord : ((s₁.setRecord r { s₁.record r with pFileObject := file }).pass irp
        (some ⟨request, file, some r⟩)).record =
        Function.update s.record r { TdiOpenConn.zero with pFileObject := file } := by
      show Function.update s₁.record r { s₁.record r with pFileObject := file } = _
      rw [hs₁.record, Function.update_idem, Function.update_self]
    have hcalls : ((s₁.setRecord r { s₁.record r with pFileObject := file }).pass irp
        (some ⟨request, file, some r⟩)).calls =
        Function.update s.calls irp (some ⟨request, file, some r⟩) :=
      congrArg (Function.update · irp _) hs₁.calls
    have hlists : ∀ head, head ≠ gFreeAddrList → s₁.list head = s.list head := by
      intro head hhead
      rw [hs₁.list, Function.update_of_ne hhead]
    -- The record was free, or was never allocated.
    have hother : ∀ head, head ≠ gFreeAddrList → r ∉ s.list head := by
      intro head hhead hmem
      rcases hs₁.fresh with hfree | rfl
      . exact hhead (hplaced.mem_unique hmem hfree)
      . exact Nat.lt_irrefl _ (hplaced.custody.listed _ _ hmem)
    have hstale : ¬ s.IsAddress r := by
      intro ha
      rcases hs₁.fresh with hfree | rfl
      . exact ha.not_recycled hplaced (Or.inl hfree)
      . exact Nat.lt_irrefl _ (ha.known hplaced)
    constructor
    . have htcp : ((s₁.setRecord r { s₁.record r with pFileObject := file }).pass irp
          (some ⟨request, file, some r⟩)).list gTcpAddrList = s.list gTcpAddrList :=
        hlists gTcpAddrList (by decide)
      have hobjects : ((s₁.setRecord r { s₁.record r with pFileObject := file }).pass irp
          (some ⟨request, file, some r⟩)).objects = s.objects := hs₁.objects
      unfold State.Graph
      rw [htcp, hrecord, hobjects]
      have hzero : Graph (· ∈ s.list gTcpAddrList) s.IsAddress
          ((s₁.setRecord r { s₁.record r with pFileObject := file }).pass irp
            (some ⟨request, file, some r⟩)).Used
          (Function.update s.record r { TdiOpenConn.zero with pFileObject := file }) s.objects := by
        apply h.graph.alloc (hother gTcpAddrList (by decide)) hstale rfl
        rintro a ⟨hknown, hno⟩
        by_cases har : a = r
        . exact Or.inr har
        . refine Or.inl ⟨((hs₁.known a).mp hknown).resolve_right har, ?_⟩
          rintro (hfree | ⟨t, ht⟩)
          . apply hno
            left
            show a ∈ s₁.list gFreeAddrList
            rw [hs₁.list, Function.update_self]
            exact (List.mem_erase_of_ne har).mpr hfree
          . exact hno (Or.inr ⟨t, (congrFun hs₁.pc t).trans ht⟩)
      apply hzero.mono
      . intro a ha
        apply isAddress_dispatched h.hands hnew hcalls ?_ ha
        intro ha
        left
        show a ∈ s₁.list gOpenAddrList
        rw [hlists gOpenAddrList (by decide)]
        exact ha
      . exact fun a ha => ha
    . refine h.hands.dispatched hplaced hnew hcalls (congrArg (irp :: ·) hs₁.issued) hs₁.pc
        (hlists gPendingAddrList (by decide)) hassociates ?_ ?_ ?_
      . intro a hknown hfree
        rw [hrecord, Function.update_of_ne]
        rintro rfl
        rcases hs₁.fresh with hmem | rfl
        . exact hfree hmem
        . exact Nat.lt_irrefl _ hknown
      . rintro f a rfl
        rcases hrequest with hno | hno
        . cases hno
        . cases hno
      . rintro a _ ⟨⟩
        rw [hrecord, Function.update_self]
        exact ⟨rfl, rfl, rfl⟩

theorem associated_dispatch {poolAlloc : Bool} {request : Request}
    (hassociates : request.associates = true)
    : Associated (dispatch poolAlloc s irp request file) := by
  cases request with
  | openAddress => exact associated_tdiOpen hplaced h hnew (Or.inl rfl)
  | openConnection => exact associated_tdiOpen hplaced h hnew (Or.inr rfl)
  | associateAddress addressFile => exact associated_tdiAssociateAddress hplaced h hnew
  | setEvent => cases hassociates
  | _ => exact associated_pass hplaced h hnew hassociates rfl

end Dispatch

/-! ### Between the locks -/

section Advance

variable {s s₁ : State} {t r : Nat} {pc : Pc}

-- What a thread does between two locks adds to the lists, and parks what it had in its hand.
theorem Associated.goto (h : Associated s) (hpc₁ : s₁.pc = s.pc) (hcalls : s₁.calls = s.calls)
    (hissued : s₁.issued = s.issued) (hobjects : s₁.objects = s.objects)
    (hnext : s₁.nextRecord = s.nextRecord)
    (hfile : ∀ r, (s₁.record r).pFileObject = (s.record r).pFileObject)
    (hpTcpObj : ∀ r, (s₁.record r).pTcpObj = (s.record r).pTcpObj)
    (hpAddrObj : ∀ r, (s₁.record r).pAddrObj = (s.record r).pAddrObj)
    (htcp : s₁.list gTcpAddrList = s.list gTcpAddrList)
    (hopen : ∀ r ∈ s.list gOpenAddrList, r ∈ s₁.list gOpenAddrList)
    (hfree : ∀ r ∈ s.list gFreeAddrList, r ∈ s₁.list gFreeAddrList)
    (hpending : ∀ r ∈ s₁.list gPendingAddrList, s.Parking r)
    (htail : ∀ r, s.pc t = .insertTail gFreeAddrList r → r ∈ s₁.list gFreeAddrList)
    (hparking : pc.parking = none ∨ pc.parking = (s.pc t).parking) (hclosing : pc.closing = none)
    (htails : ∀ head r, pc ≠ .insertTail head r)
    : Associated (s₁.goto t pc) := by
  have hother : ∀ {t'}, t' ≠ t → (s₁.goto t pc).pc t' = s.pc t' := fun ht' => by
    rw [pc_goto_of_ne ht', hpc₁]
  constructor
  . have hgraph : Graph (· ∈ s.list gTcpAddrList) s.IsAddress s.Used s₁.record s.objects := by
      apply h.graph.unlink hfile
      . exact fun c a hca => (hpAddrObj c).symm.trans hca
      . exact fun a c hac => (hpTcpObj a).symm.trans hac
      . exact fun a c _ _ => hpAddrObj c
    have hlist : (s₁.goto t pc).list gTcpAddrList = s.list gTcpAddrList := htcp
    unfold State.Graph
    rw [hlist, show (s₁.goto t pc).objects = s.objects from hobjects]
    apply hgraph.mono
    . rintro a (ha | ⟨i, call, addressFile, hi, hrequest, ha⟩)
      . exact Or.inl (hopen a ha)
      . refine Or.inr ⟨i, call, addressFile, ?_, hrequest, ha⟩
        show s₁.calls i = some call
        rw [hcalls]
        exact hi
    . rintro a ⟨hknown, hno⟩
      have hlt : a < s₁.nextRecord := hknown
      rw [hnext] at hlt
      refine ⟨hlt, ?_⟩
      rintro (ha | ⟨t', ht'⟩)
      . exact hno (Or.inl (hfree a ha))
      . by_cases heq : t' = t
        . exact hno (Or.inl (htail a (heq ▸ ht')))
        . exact hno (Or.inr ⟨t', (hother heq).trans ht'⟩)
  . obtain ⟨hrequests, hissued₁, htaken, hfresh, htails₁, hclosing₁⟩ := h.hands
    refine ⟨?_, ?_, ?_, ?_, ?_, ?_⟩
    . show ∀ irp call, s₁.calls irp = some call → _
      rw [hcalls]
      exact hrequests
    . show ∀ irp call, s₁.calls irp = some call → irp ∈ s₁.issued
      rw [hcalls, hissued]
      exact hissued₁
    . intro i call addressFile a hi hrequest ha
      have hi' : s₁.calls i = some call := hi
      rw [hcalls] at hi'
      exact (hfile a).trans (htaken i call addressFile a hi' hrequest ha)
    . intro i call a hi hrequest ha
      have hi' : s₁.calls i = some call := hi
      rw [hcalls] at hi'
      obtain ⟨htcpObj, haddrObj, hfileObj⟩ := hfresh i call a hi' hrequest ha
      exact ⟨(hpTcpObj a).trans htcpObj, (hpAddrObj a).trans haddrObj, (hfile a).trans hfileObj⟩
    . intro t' head a ht'
      by_cases heq : t' = t
      . rw [heq, pc_goto_self] at ht'
        exact absurd ht' (htails head a)
      . rw [hother heq] at ht'
        exact htails₁ t' head a ht'
    . intro t' file ht' a ha
      have hold : s.Parking a := by
        rcases ha with ha | ⟨t₁, ht₁⟩
        . exact hpending a ha
        . by_cases heq : t₁ = t
          . rw [heq, pc_goto_self] at ht₁
            rcases hparking with hnone | hsame
            . cases hnone.symm.trans ht₁
            . exact Or.inr ⟨t, hsame ▸ ht₁⟩
          . rw [hother heq] at ht₁
            exact Or.inr ⟨t₁, ht₁⟩
      by_cases heq : t' = t
      . rw [heq, pc_goto_self] at ht'
        rw [ht'] at hclosing
        cases hclosing
      . rw [hother heq] at ht'
        exact fun hfileObj => hclosing₁ t' file ht' a hold ((hfile a).symm.trans hfileObj)

-- No record changes its list.
theorem Associated.quiet (h : Associated s) (hlinks : s₁.links = s.links)
    (hnext : s₁.nextRecord = s.nextRecord) (hpc₁ : s₁.pc = s.pc) (hcalls : s₁.calls = s.calls)
    (hissued : s₁.issued = s.issued) (hobjects : s₁.objects = s.objects)
    (hfields : ∀ r, (s₁.record r).pFileObject = (s.record r).pFileObject ∧
      (s₁.record r).pTcpObj = (s.record r).pTcpObj ∧ (s₁.record r).pAddrObj = (s.record r).pAddrObj)
    (htail : ∀ r, s.pc t ≠ .insertTail gFreeAddrList r)
    (hparking : pc.parking = none ∨ pc.parking = (s.pc t).parking) (hclosing : pc.closing = none)
    (htails : ∀ head r, pc ≠ .insertTail head r)
    : Associated (s₁.goto t pc) := by
  have hlist : s₁.list = s.list := by
    funext head
    show s₁.links.toList s₁.nextRecord head = _
    rw [hlinks, hnext]
    rfl
  refine h.goto hpc₁ hcalls hissued hobjects hnext (fun r => (hfields r).1) (fun r => (hfields r).2.1)
    (fun r => (hfields r).2.2) (congrFun hlist _) ?_ ?_ ?_ (fun r hr => absurd hr (htail r)) hparking
    hclosing htails
  . rw [hlist]
    exact fun r hr => hr
  . rw [hlist]
    exact fun r hr => hr
  . rw [hlist]
    exact fun r hr => Or.inl hr

theorem fields_setRecord {conn : TdiOpenConn} (hfile : conn.pFileObject = (s.record r).pFileObject)
    (hpTcpObj : conn.pTcpObj = (s.record r).pTcpObj) (hpAddrObj : conn.pAddrObj = (s.record r).pAddrObj)
    (a : Nat)
    : ((s.setRecord r conn).record a).pFileObject = (s.record a).pFileObject ∧
        ((s.setRecord r conn).record a).pTcpObj = (s.record a).pTcpObj ∧
        ((s.setRecord r conn).record a).pAddrObj = (s.record a).pAddrObj := by
  by_cases har : a = r
  . rw [har, show (s.setRecord r conn).record r = conn from Function.update_self _ _ _]
    exact ⟨hfile, hpTcpObj, hpAddrObj⟩
  . rw [show (s.setRecord r conn).record a = s.record a from Function.update_of_ne har _ _]
    exact ⟨rfl, rfl, rfl⟩

variable (hplaced : Placed s) (h : Associated s)
include hplaced h

theorem associated_release {head : ListHead} (hr : (s.pc t).record = some r)
    (hhead : head ≠ gTcpAddrList) (hparks : head = gPendingAddrList → s.Parking r)
    (htail : ∀ a, s.pc t = .insertTail gFreeAddrList a → head = gFreeAddrList ∧ a = r)
    {parked : List Nat} (hpc : pc = .idle ∨ pc = .removeHead ∨ pc = .setEvent)
    : Associated ({ s.insert head r with parked := parked }.goto t pc) := by
  have hmem : ∀ {head' a}, a ∈ (s.insert head r).list head' ↔
      a ∈ s.list head' ∨ head' = head ∧ a = r :=
    hplaced.drop.mem_insert_iff (hplaced.loose_drop hr (show Pc.record .idle = none from rfl))
  refine h.goto rfl rfl rfl rfl rfl (fun _ => rfl) (fun _ => rfl) (fun _ => rfl) ?_
    (fun a ha => hmem.mpr (Or.inl ha)) (fun a ha => hmem.mpr (Or.inl ha)) ?_ ?_ ?_ ?_ ?_
  . show (s.insert head r).list gTcpAddrList = _
    rw [hplaced.list_release head hr, Function.update_of_ne hhead.symm]
  . intro a ha
    rcases hmem.mp ha with ha | ⟨heq, rfl⟩
    . exact Or.inl ha
    . exact hparks heq.symm
  . intro a ha
    obtain ⟨heq, rfl⟩ := htail a ha
    exact hmem.mpr (Or.inr ⟨heq.symm, rfl⟩)
  . rcases hpc with rfl | rfl | rfl
    . exact Or.inl rfl
    . exact Or.inl rfl
    . exact Or.inl rfl
  . rcases hpc with rfl | rfl | rfl
    . rfl
    . rfl
    . rfl
  . rcases hpc with rfl | rfl | rfl
    . exact fun _ _ hno => by cases hno
    . exact fun _ _ hno => by cases hno
    . exact fun _ _ hno => by cases hno

theorem associated_removeHead (hpc : s.pc t = .removeHead) : Associated (advance s t) := by
  have htail : ∀ r, s.pc t ≠ .insertTail gFreeAddrList r := fun r hno => by cases hpc.symm.trans hno
  unfold advance
  rw [hpc]
  rcases hplaced.custody.family.flink_head gPendingAddrList with ⟨_, hflink⟩ | ⟨r, xs, hlist, hflink⟩
  . simp only [hflink]
    exact h.quiet rfl rfl rfl rfl rfl rfl (fun _ => ⟨rfl, rfl, rfl⟩) htail (Or.inl rfl) rfl
      fun _ _ hno => by cases hno
  . simp only [hflink]
    have hmem : r ∈ s.list gPendingAddrList := by
      rw [hlist]
      exact List.mem_cons_self
    have hkeep : ∀ {head a}, head ≠ gPendingAddrList → a ∈ s.list head → a ∈ (s.remove r).list head := by
      intro head a hhead ha
      refine (hplaced.mem_remove_iff hmem).mpr ⟨ha, ?_⟩
      rintro rfl
      exact hhead (hplaced.mem_unique ha hmem)
    refine h.goto rfl rfl rfl rfl rfl (fun _ => rfl) (fun _ => rfl) (fun _ => rfl)
      (hplaced.list_remove_of_ne hmem (by decide)) (fun a ha => hkeep (by decide) ha)
      (fun a ha => hkeep (by decide) ha) ?_ (fun a ha => absurd ha (htail a)) (Or.inl rfl) rfl
      fun _ _ hno => by cases hno
    exact fun a ha => Or.inl ((hplaced.mem_remove_iff hmem).mp ha).1

theorem associated_addrThreadRelink (hpc : s.pc t = .relink r)
    : Associated (addrThreadRelink s t r) := by
  have htail : ∀ r, s.pc t ≠ .insertTail gFreeAddrList r := fun r hno => by cases hpc.symm.trans hno
  have hrecord : (s.pc t).record = some r := by
    rw [hpc]
    rfl
  unfold addrThreadRelink
  split
  . have hlist := hplaced.list_recycleTwice hpc
    have hremove : ∀ {head}, head ≠ gPendingAddrList → (s.remove r).list head = s.list head := by
      intro head hhead
      rw [hplaced.list_removeTaken (hplaced.removeTwice hpc).1]
      split
      . rw [Function.update_of_ne hhead]
      . rfl
    refine h.goto rfl rfl rfl rfl rfl (fun _ => rfl) (fun _ => rfl) (fun _ => rfl) ?_ ?_ ?_ ?_
      (fun a ha => absurd ha (htail a)) (Or.inl rfl) rfl fun _ _ hno => by cases hno
    . rw [hlist, Function.update_of_ne (by decide), hremove (by decide)]
    . rw [hlist, Function.update_of_ne (by decide), hremove (by decide)]
      exact fun a ha => ha
    . rw [hlist, Function.update_self, hremove (by decide)]
      exact fun a ha => List.mem_append_left _ ha
    . rw [hlist, Function.update_of_ne (by decide),
        hplaced.list_removeTaken (hplaced.removeTwice hpc).1]
      intro a ha
      split at ha
      . rw [Function.update_self] at ha
        cases ha
      . exact Or.inl ha
  . exact associated_release hplaced h hrecord (by decide) (fun hno => by cases hno)
      (fun a ha => absurd ha (htail a)) (Or.inr (Or.inl rfl))

omit hplaced in
theorem find_none_of_closing {file : Nat} (hpc : s.pc t = .findPending file)
    : s.find gPendingAddrList file = none := by
  apply List.find?_eq_none.mpr
  intro r hr heq
  exact h.hands.closing t file hpc r (Or.inl hr) (of_decide_eq_true heq)

theorem associated_advance : Associated (advance s t) := by
  cases hpc : s.pc t with
  | idle =>
    simp only [advance, hpc]
    split
    . refine h.quiet rfl rfl rfl rfl rfl rfl (fun _ => ⟨rfl, rfl, rfl⟩) ?_ (Or.inl rfl) rfl
        fun _ _ hno => by cases hno
      exact fun r hno => by cases hpc.symm.trans hno
    . exact h
  | park irp r listen =>
    simp only [advance, hpc]
    refine h.quiet rfl rfl rfl rfl rfl rfl (fields_setRecord rfl rfl rfl) ?_ ?_ rfl
      fun _ _ hno => by cases hno
    . exact fun r hno => by cases hpc.symm.trans hno
    . right
      rw [hpc]
      rfl
  | insertPending irp r =>
    simp only [advance, hpc]
    apply associated_release hplaced h
    . rw [hpc]
      rfl
    . decide
    . exact fun _ => Or.inr ⟨t, by rw [hpc]; rfl⟩
    . exact fun a hno => by cases hpc.symm.trans hno
    . exact Or.inr (Or.inr rfl)
  | setEvent =>
    simp only [advance, hpc]
    refine h.quiet rfl rfl rfl rfl rfl rfl (fun _ => ⟨rfl, rfl, rfl⟩) ?_ (Or.inl rfl) rfl
      fun _ _ hno => by cases hno
    exact fun r hno => by cases hpc.symm.trans hno
  | insertTail head r =>
    have hhead : head ≠ gTcpAddrList ∧ head ≠ gPendingAddrList := by
      rcases h.hands.tails t head r hpc with rfl | rfl
      . decide
      . decide
    simp only [advance, hpc]
    apply associated_release hplaced h
    . rw [hpc]
      rfl
    . exact hhead.1
    . exact fun hno => absurd hno hhead.2
    . intro a ha
      cases hpc.symm.trans ha
      exact ⟨rfl, rfl⟩
    . exact Or.inl rfl
  | findPending file =>
    simp only [advance, hpc, find_none_of_closing h hpc]
    refine h.quiet rfl rfl rfl rfl rfl rfl (fun _ => ⟨rfl, rfl, rfl⟩) ?_ (Or.inl rfl) rfl
      fun _ _ hno => by cases hno
    exact fun r hno => by cases hpc.symm.trans hno
  | removeHead => exact associated_removeHead hplaced h hpc
  | completeRequest r =>
    simp only [advance, hpc]
    refine h.quiet rfl rfl rfl rfl rfl rfl (fun _ => ⟨rfl, rfl, rfl⟩) ?_ (Or.inl rfl) rfl
      fun _ _ hno => by cases hno
    exact fun r hno => by cases hpc.symm.trans hno
  | clear r =>
    simp only [advance, hpc]
    refine h.quiet rfl rfl rfl rfl rfl rfl (fields_setRecord rfl rfl rfl) ?_ (Or.inl rfl) rfl
      fun _ _ hno => by cases hno
    exact fun r hno => by cases hpc.symm.trans hno
  | relink r =>
    have hrelink := associated_addrThreadRelink hplaced h hpc
    simpa only [advance, hpc] using hrelink

end Advance

/-! ### Runs -/

/--
The operations on addresses and connections, and what the transport completes with success.
-/
def Transported (s : State) : Event → Prop
  | .dispatch _ request _ _ => request.associates = true
  | .complete _ irp c =>
    c.sameDevice = true ∧ (c.success = true → ∀ call ∈ s.calls irp, Served s call)
  | .advance _ => True

/--
An address that is closed is on `g_OpenAddrList`, and its `m_pTcpObj` names every connection that points
to it.
-/
def ClosesLinked (s : State) : Event → Prop
  | .dispatch .. => True
  | .complete _ irp c => ∀ call ∈ s.calls irp, call.request = .closeAddress → c.success = true →
      ∀ conn ∈ s.list gTcpAddrList, ∀ a ∈ (s.record conn).pAddrObj,
        (s.record a).pFileObject = call.file →
        s.find gOpenAddrList call.file = some a ∧ (s.record a).pTcpObj = some conn
  | .advance _ => True

instance (s : State) : DecidablePred (ClosesLinked s)
  | .dispatch .. => .isTrue trivial
  | .complete _ irp c =>
    inferInstanceAs (Decidable (∀ call ∈ s.calls irp, call.request = .closeAddress →
      c.success = true → ∀ conn ∈ s.list gTcpAddrList, ∀ a ∈ (s.record conn).pAddrObj,
        (s.record a).pFileObject = call.file →
        s.find gOpenAddrList call.file = some a ∧ (s.record a).pTcpObj = some conn))
  | .advance _ => .isTrue trivial

theorem associated_init (record : Nat → TdiOpenConn) : Associated (init record) := by
  have hno : ∀ {head a}, a ∉ (init record).list head := List.not_mem_nil
  constructor
  . refine ⟨?_, ?_, ?_, ?_, ?_⟩
    . exact fun a c ha => absurd ha.1 (Nat.not_lt_zero a)
    . exact fun c a hc => absurd hc hno
    . exact fun c a hc => absurd hc hno
    . exact fun c hc => absurd hc hno
    . exact fun c c' hc => absurd hc hno
  . refine ⟨?_, ?_, ?_, ?_, ?_, ?_⟩
    . exact fun irp call hcall => by cases hcall
    . exact fun irp call hcall => by cases hcall
    . exact fun irp call f a hcall => by cases hcall
    . exact fun irp call r hcall => by cases hcall
    . exact fun t head r hpc => by cases hpc
    . exact fun t file hpc => by cases hpc

theorem associated_completeCall {s : State} {t irp : Nat} {c : Completion} {call : Call}
    (hplaced : Placed s) (h : Associated s) (hcall : s.calls irp = some call) (hidle : s.pc t = .idle)
    (hdevice : c.sameDevice = true) (hserved : c.success = true → Served s call)
    (hcloses : call.request = .closeAddress → c.success = true → ∀ conn ∈ s.list gTcpAddrList,
      ∀ a ∈ (s.record conn).pAddrObj, (s.record a).pFileObject = call.file →
      s.find gOpenAddrList call.file = some a ∧ (s.record a).pTcpObj = some conn)
    : Associated (completeCall c (s.answer c irp call) t irp call) := by
  have hassociates := h.hands.requests irp call hcall
  unfold completeCall
  cases hrequest : call.request with
  | openAddress => exact associated_openAddress hplaced h hcall hidle hdevice hserved hrequest
  | openConnection => exact associated_openConnection hplaced h hcall hidle hdevice hserved hrequest
  | associateAddress addressFile =>
    exact associated_associateAddress hplaced h hcall hidle hdevice hserved hrequest
  | disAssociateAddress => exact associated_disAssociateAddress hplaced h hcall hidle hdevice hrequest
  | closeAddress =>
    exact associated_closeAddress hplaced h hcall hidle hdevice hserved hrequest (hcloses hrequest)
  | closeConnection => exact associated_closeConnection hplaced h hcall hidle hdevice hrequest
  | setEvent | listen | connect =>
    rw [hrequest] at hassociates
    cases hassociates

-- Without `TDI_LISTEN` and `TDI_CONNECT`, every record is unlinked from the list that it is on.
theorem unlinks_of_associated {s : State} {e : Event} (h : Associated s) : Unlinks s e := by
  cases e with
  | dispatch irp request file poolAlloc => trivial
  | complete t irp c =>
    intro call hcall hrequest
    have hassociates := h.hands.requests irp call hcall
    rcases hrequest with hrequest | hrequest
    . rw [hrequest] at hassociates
      cases hassociates
    . rw [hrequest] at hassociates
      cases hassociates
  | advance t =>
    intro file hfile
    apply find_none_of_closing h (t := t)
    cases hpc : s.pc t with
    | findPending file' =>
      rw [hpc] at hfile
      cases hfile
      rfl
    | _ =>
      rw [hpc] at hfile
      cases hfile

theorem associated_step {s : State} {e : Event} (hplaced : Placed s) (h : Associated s)
    (hallowed : Allowed s e) (htransported : Transported s e) (hcloses : ClosesLinked s e)
    : Associated (step s e) := by
  cases e with
  | dispatch irp request file poolAlloc =>
    exact associated_dispatch hplaced h hallowed htransported
  | complete t irp c =>
    show Associated (complete c s t irp)
    unfold complete
    cases hcall : s.calls irp with
    | none => exact h
    | some call =>
      exact associated_completeCall hplaced h hcall hallowed.1 htransported.1
        (fun hc => htransported.2 hc call hcall) (hcloses call hcall)
  | advance t => exact associated_advance hplaced h

structure Consistent (s : State) : Prop where
  placed : Placed s
  associated : Associated s

theorem run_linked (record : Nat → TdiOpenConn) {es : List Event}
    (hallowed : Run.Along step Allowed (init record) es)
    (htransported : Run.Along step Transported (init record) es)
    (hcloses : Run.Along step ClosesLinked (init record) es)
    : Linked (Run.run step (init record) es) := by
  have hconsistent : Consistent (Run.run step (init record) es) := by
    apply Run.inv_run ?_ ⟨placed_init record, associated_init record⟩
      ((hallowed.and htransported).and hcloses)
    rintro s e ⟨hplaced, h⟩ ⟨⟨hallowed, htransported⟩, hcloses⟩
    exact ⟨placed_step hplaced hallowed (unlinks_of_associated h),
      associated_step hplaced h hallowed htransported hcloses⟩
  exact hconsistent.associated.linked hconsistent.placed

/-! ### The close of an address -/

-- The address of the connections is closed.
def closeAssociated (files : List Nat) : List Event :=
  associate files ++
    [.dispatch 8 .closeAddress 1 true, .complete 1 8 ⟨true, true, true⟩, .advance 1]

theorem run_linked_one
    : let s := Run.run step (init fun _ => .zero) (closeAssociated [2])
      s.list gTcpAddrList = [1] ∧ s.list gFreeAddrList = [0] ∧ Linked s := by
  refine ⟨by decide, by decide, run_linked _ (by decide) ?_ (by decide)⟩
  simp only [closeAssociated, associate, List.flatMap_cons, List.flatMap_nil, List.cons_append,
    List.nil_append, Run.along_cons, Run.along_nil]
  refine ⟨rfl, ⟨rfl, ?_⟩, rfl, ⟨rfl, ?_⟩, rfl, ⟨rfl, ?_⟩, rfl, ⟨rfl, ?_⟩, trivial, trivial⟩
  . rintro _ call ⟨⟩
    exact ⟨rfl, fun t hno => by cases hno⟩
  . rintro _ call ⟨⟩
    exact rfl
  . rintro _ call ⟨⟩
    exact ⟨rfl, rfl⟩
  . rintro _ call ⟨⟩
    refine ⟨rfl, ?_⟩
    rintro r (hr | ⟨t, ht⟩)
    . exact absurd hr List.not_mem_nil
    . cases ht

-- The address names its last connection only. The first one keeps its pointer to the record.
theorem not_linked_two
    : let s := Run.run step (init fun _ => .zero) (closeAssociated [2, 3])
      Run.Along step Allowed (init fun _ => .zero) (closeAssociated [2, 3]) ∧
        Run.Along step Transported (init fun _ => .zero) (closeAssociated [2, 3]) ∧ ¬ Linked s := by
  intro s
  refine ⟨by decide, ?_, fun h => (h.pAddrObj 1 (by decide) 0 rfl).2 (Or.inl (by decide))⟩
  simp only [closeAssociated, associate, List.flatMap_cons, List.flatMap_nil, List.cons_append,
    List.nil_append, Run.along_cons, Run.along_nil]
  refine ⟨rfl, ⟨rfl, ?_⟩, rfl, ⟨rfl, ?_⟩, rfl, ⟨rfl, ?_⟩, rfl, ⟨rfl, ?_⟩, rfl, ⟨rfl, ?_⟩, rfl, ⟨rfl, ?_⟩,
    trivial, trivial⟩
  . rintro _ call ⟨⟩
    exact ⟨rfl, fun t hno => by cases hno⟩
  . rintro _ call ⟨⟩
    exact rfl
  . rintro _ call ⟨⟩
    exact ⟨rfl, rfl⟩
  . rintro _ call ⟨⟩
    exact rfl
  . rintro _ call ⟨⟩
    exact ⟨rfl, rfl⟩
  . rintro _ call ⟨⟩
    refine ⟨rfl, ?_⟩
    rintro r (hr | ⟨t, ht⟩)
    . exact absurd hr List.not_mem_nil
    . cases ht

end Ansfw.OpenConn
