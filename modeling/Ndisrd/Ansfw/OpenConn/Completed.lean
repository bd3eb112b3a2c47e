import Ndisrd.Ansfw.OpenConn.Parked

/-!
This module contains the runs of the parked IRPs: as long as the records are unlinked from the lists that
they are on, `addrThread` completes each parked IRP at most once, and none is lost.
-/

namespace Ansfw.OpenConn

open ListHead ListEntry

/-! ### What the threads do between the locks -/

section Advance

variable {s s₁ : State} {t irp r : Nat} {pc : Pc}

theorem Carried.goto (h : Carried s) (hpc : s₁.pc = s.pc) (hcalls : s₁.calls = s.calls)
    (hissued : s₁.issued = s.issued) (hparked : s₁.parked = s.parked)
    (hirp : pc.irp = none ∨ pc.irp = (s.pc t).irp)
    (hpIrp : ∀ t' irp r, t' ≠ t → s.pc t' = .insertPending irp r →
      (s₁.record r).pIrp = (s.record r).pIrp)
    (hinserts : ∀ irp r, pc = .insertPending irp r → (s₁.record r).pIrp = some irp)
    (htails : ∀ head r, pc ≠ .insertTail head r)
    : Carried (s₁.goto t pc) := by
  have hother : ∀ {t'}, t' ≠ t → (s₁.goto t pc).pc t' = s.pc t' := fun ht' => by
    rw [pc_goto_of_ne ht', hpc]
  have hsub : ∀ {t' i}, ((s₁.goto t pc).pc t').irp = some i → (s.pc t').irp = some i := by
    intro t' i hi
    by_cases ht' : t' = t
    . rw [ht', pc_goto_self] at hi
      rcases hirp with hnone | hsame
      . cases hnone.symm.trans hi
      . rw [ht', ← hsame, hi]
    . rwa [hother ht'] at hi
  refine ⟨?_, ?_, fun t₁ t₂ i h₁ h₂ => h.alone t₁ t₂ i (hsub h₁) (hsub h₂), ?_, ?_⟩
  . show ∀ irp call, s₁.calls irp = some call → irp ∈ s₁.issued ∧ irp ∉ s₁.parked
    rw [hcalls, hissued, hparked]
    exact h.calls
  . intro t' i hi
    show i ∈ s₁.issued ∧ i ∉ s₁.parked ∧ s₁.calls i = none
    rw [hcalls, hissued, hparked]
    exact h.threads t' i (hsub hi)
  . intro t' i r hi
    by_cases ht' : t' = t
    . rw [ht', pc_goto_self] at hi
      exact hinserts i r hi
    . rw [hother ht'] at hi
      exact (hpIrp t' i r ht' hi).trans (h.inserts t' i r hi)
  . intro t' head r hi
    by_cases ht' : t' = t
    . rw [ht', pc_goto_self] at hi
      exact absurd hi (htails head r)
    . rw [hother ht'] at hi
      exact h.tails t' head r hi

theorem waits_iff_of_ne (hpc : ∀ r, s.pc addrThread ≠ .completeRequest r) (r : Nat)
    : s.Waits r ↔ r ∈ s.list gPendingAddrList := or_iff_left (hpc r)

-- A step that touches no IRP.
theorem Parked.quiet (h : Parked s) (hframe : Frame s s₁) (hirp : pc.irp = none)
    (hpc : ∀ r, pc ≠ .completeRequest r) (hold : ∀ r, s.pc t ≠ .completeRequest r)
    (htails : ∀ head r, pc ≠ .insertTail head r)
    : Parked (s₁.goto t pc) := by
  constructor
  . refine h.waiting.same ?_ (fun r _ => hframe.pIrp r) hframe.parked hframe.completed ?_
    . intro r
      show r ∈ s₁.list gPendingAddrList ∨ (s₁.goto t pc).pc addrThread = .completeRequest r ↔ _
      rw [hframe.pending]
      by_cases ht : addrThread = t
      . rw [ht, pc_goto_self, or_iff_left (hpc r)]
        rw [← ht] at hold
        exact (waits_iff_of_ne hold r).symm
      . rw [pc_goto_of_ne ht, hframe.pc]
        rfl
    . show ∀ i ∈ s.issued, i ∈ s₁.issued
      rw [hframe.issued]
      exact fun i hi => hi
  . refine h.carried.goto hframe.pc hframe.calls hframe.issued hframe.parked (Or.inl hirp)
      (fun _ _ r _ _ => hframe.pIrp r) ?_ htails
    rintro i r rfl
    cases hirp

variable (hplaced : Placed s)
include hplaced

-- Another thread holds another record.
theorem held_ne {t' r' : Nat} (ht' : t' ≠ t) (hr : (s.pc t).record = some r)
    (hr' : (s.pc t').record = some r')
    : r' ≠ r := by
  rintro rfl
  exact ht' (Holder.thread.inj (hplaced.custody.once (.thread t') (.thread t) r' hr' hr))

variable (h : Parked s)
include h

theorem Parked.park {c : TdiOpenConn} {listen : Bool} (hpc : s.pc t = .park irp r listen)
    (hc : c.pIrp = some irp)
    : Parked ((s.setRecord r c).goto t (.insertPending irp r)) := by
  have hrecord : (s.pc t).record = some r := by
    rw [hpc]
    rfl
  have ht : addrThread ≠ t := by
    have hrole := hplaced.roles t
    rw [hpc] at hrole
    exact Ne.symm hrole
  have hne : ∀ {r'}, r' ≠ r → ((s.setRecord r c).record r').pIrp = (s.record r').pIrp := fun hr' =>
    congrArg TdiOpenConn.pIrp (Function.update_of_ne hr' _ _)
  constructor
  . refine h.waiting.same (waits_congr rfl (pc_goto_of_ne ht)) ?_ rfl rfl fun i hi => hi
    rintro r' (hr' | hr')
    . exact hne fun heq => hplaced.custody.off (.thread t) r hrecord _ (heq ▸ hr')
    . exact hne (held_ne hplaced ht hrecord (by rw [hr']; rfl))
  . refine h.carried.goto rfl rfl rfl rfl ?_ ?_ ?_ ?_
    . right
      rw [hpc]
      rfl
    . intro t' i r' ht' hpc'
      exact hne (held_ne hplaced ht' hrecord (by rw [hpc']; rfl))
    . rintro i r' ⟨⟩
      rw [← hc]
      exact congrArg TdiOpenConn.pIrp (Function.update_self _ _ _)
    . exact fun _ _ hno => by cases hno

theorem Parked.insertPending (hpc : s.pc t = .insertPending irp r)
    : Parked ({ s.insert gPendingAddrList r with parked := irp :: s.parked }.goto t .setEvent) := by
  have ht : addrThread ≠ t := by
    have hrole := hplaced.roles t
    rw [hpc] at hrole
    exact Ne.symm hrole
  have hrecord : (s.pc t).record = some r := by
    rw [hpc]
    rfl
  have hirp : (s.pc t).irp = some irp := by
    rw [hpc]
    rfl
  obtain ⟨hwaiting, hcarried⟩ := h
  obtain ⟨hissued, hnew, hcall⟩ := hcarried.threads t irp hirp
  have hpIrp := hcarried.inserts t irp r hpc
  let s' := { s.insert gPendingAddrList r with parked := irp :: s.parked }.goto t .setEvent
  have hwaits : ∀ {a}, s'.Waits a ↔ s.Waits a ∨ a = r := by
    intro a
    have hlist : s'.list gPendingAddrList = s.list gPendingAddrList ++ [r] := by
      have heq := congrFun (hplaced.list_release gPendingAddrList hrecord) gPendingAddrList
      rwa [Function.update_self] at heq
    unfold State.Waits
    rw [hlist, show s'.pc addrThread = s.pc addrThread from pc_goto_of_ne ht, List.mem_append,
      List.mem_singleton]
    exact or_right_comm
  have hold : ∀ {a}, s.Waits a → (s.record a).pIrp ≠ some irp := by
    intro a ha heq
    obtain ⟨i, hi, hmem, _⟩ := hwaiting.waiting a ha
    cases hi.symm.trans heq
    exact hnew hmem
  have hfresh : some irp ∉ s.completed := fun hmem => hnew (hwaiting.ended irp hmem)
  constructor
  . refine ⟨?_, ?_, ?_, hwaiting.completed, ?_, ?_⟩
    . intro a ha
      rcases hwaits.mp ha with ha | rfl
      . obtain ⟨i, hi, hmem, hno⟩ := hwaiting.waiting a ha
        exact ⟨i, hi, List.mem_cons_of_mem irp hmem, hno⟩
      . exact ⟨irp, hpIrp, List.mem_cons_self, hfresh⟩
    . intro a b i ha hb hai hbi
      rcases hwaits.mp ha with hwa | ha
      . rcases hwaits.mp hb with hwb | hb
        . exact hwaiting.unique a b i hwa hwb hai hbi
        . cases hpIrp.symm.trans (hb ▸ hbi)
          exact absurd hai (hold hwa)
      . rcases hwaits.mp hb with hwb | hb
        . cases hpIrp.symm.trans (ha ▸ hai)
          exact absurd hbi (hold hwb)
        . exact ha.trans hb.symm
    . intro i hi hno
      rcases List.mem_cons.mp hi with rfl | hi
      . exact ⟨r, hwaits.mpr (Or.inr rfl), hpIrp⟩
      . obtain ⟨a, ha, hai⟩ := hwaiting.kept i hi hno
        exact ⟨a, hwaits.mpr (Or.inl ha), hai⟩
    . exact fun i hi => List.mem_cons_of_mem irp (hwaiting.ended i hi)
    . intro i hi
      rcases List.mem_cons.mp hi with rfl | hi
      . exact hissued
      . exact hwaiting.issued i hi
  . have hquiet : Carried (s.goto t .setEvent) := by
      refine hcarried.goto rfl rfl rfl rfl (Or.inl rfl) (fun _ _ _ _ _ => rfl) ?_ ?_
      . exact fun _ _ hno => by cases hno
      . exact fun _ _ hno => by cases hno
    refine ⟨?_, ?_, hquiet.alone, hquiet.inserts, hquiet.tails⟩
    . intro i call hi
      obtain ⟨hmem, hno⟩ := hquiet.calls i call hi
      refine ⟨hmem, List.not_mem_cons_of_ne_of_not_mem ?_ hno⟩
      rintro rfl
      cases hcall.symm.trans hi
    . intro t' i hi
      obtain ⟨hmem, hno, hnone⟩ := hquiet.threads t' i hi
      refine ⟨hmem, List.not_mem_cons_of_ne_of_not_mem ?_ hno, hnone⟩
      rintro rfl
      by_cases ht' : t' = t
      . rw [ht', pc_goto_self] at hi
        cases hi
      . rw [pc_goto_of_ne ht'] at hi
        exact ht' (hcarried.alone t' t i hi hirp)

theorem Parked.removeHead (hpc : s.pc t = .removeHead) : Parked (advance s t) := by
  have ht : addrThread = t := by
    have hrole := hplaced.roles t
    rw [hpc] at hrole
    exact hrole.symm
  have hold : ∀ r, s.pc t ≠ .completeRequest r := fun r hno => by cases hpc.symm.trans hno
  unfold advance
  rw [hpc]
  rcases hplaced.custody.family.flink_head gPendingAddrList with ⟨_, hflink⟩ | ⟨r, xs, hlist, hflink⟩
  . simp only [hflink]
    exact h.quiet (.refl s) rfl (fun _ hno => by cases hno) hold fun _ _ hno => by cases hno
  . simp only [hflink]
    have hmem : r ∈ s.list gPendingAddrList := by
      rw [hlist]
      exact List.mem_cons_self
    constructor
    . refine h.waiting.same ?_ (fun _ _ => rfl) rfl rfl fun _ hi => hi
      intro a
      have hrest : ((s.remove r).goto t (.completeRequest r)).list gPendingAddrList = xs := by
        have heq := congrFun (hplaced.list_remove hmem) gPendingAddrList
        rw [Function.update_self, hlist, List.erase_cons_head] at heq
        exact heq
      rw [← ht] at hold
      rw [waits_iff_of_ne hold, hlist, List.mem_cons]
      unfold State.Waits
      rw [hrest, ht, pc_goto_self]
      constructor
      . rintro (ha | ha)
        . exact Or.inr ha
        . cases ha
          exact Or.inl rfl
      . rintro (rfl | ha)
        . exact Or.inr rfl
        . exact Or.inl ha
    . refine h.carried.goto rfl rfl rfl rfl (Or.inl rfl) (fun _ _ _ _ _ => rfl) ?_ ?_
      . exact fun _ _ hno => by cases hno
      . exact fun _ _ hno => by cases hno

theorem Parked.completeRequest (hpc : s.pc t = .completeRequest r)
    : Parked ({ s with completed := (s.record r).pIrp :: s.completed }.goto t (.clear r)) := by
  have ht : addrThread = t := by
    have hrole := hplaced.roles t
    rw [hpc] at hrole
    exact hrole.symm
  obtain ⟨hwaiting, hcarried⟩ := h
  have hr : s.Waits r := Or.inr (ht ▸ hpc)
  have hoff : r ∉ s.list gPendingAddrList := by
    apply hplaced.custody.off (.thread t) r
    show (s.pc t).record = some r
    rw [hpc]
    rfl
  obtain ⟨irp, hirp, hparked, hno⟩ := hwaiting.waiting r hr
  rw [hirp]
  have hwaits : ∀ {a}, ({ s with completed := some irp :: s.completed }.goto t (.clear r)).Waits a ↔
      a ∈ s.list gPendingAddrList := by
    intro a
    apply or_iff_left
    rw [ht, pc_goto_self]
    exact fun hno => by cases hno
  constructor
  . refine ⟨?_, ?_, ?_, List.nodup_cons.mpr ⟨hno, hwaiting.completed⟩, ?_, hwaiting.issued⟩
    . intro a ha
      have hmem := hwaits.mp ha
      obtain ⟨i, hi, hip, hic⟩ := hwaiting.waiting a (Or.inl hmem)
      refine ⟨i, hi, hip, List.not_mem_cons_of_ne_of_not_mem ?_ hic⟩
      rintro ⟨⟩
      exact hoff (hwaiting.unique a r irp (Or.inl hmem) hr hi hirp ▸ hmem)
    . exact fun a b i ha hb => hwaiting.unique a b i (Or.inl (hwaits.mp ha)) (Or.inl (hwaits.mp hb))
    . intro i hi hic
      obtain ⟨hne, hic⟩ := List.ne_and_not_mem_of_not_mem_cons hic
      obtain ⟨a, ha, hai⟩ := hwaiting.kept i hi hic
      rcases ha with ha | ha
      . exact ⟨a, hwaits.mpr ha, hai⟩
      . rw [ht, hpc] at ha
        cases ha
        exact absurd (hai.symm.trans hirp) hne
    . intro i hi
      rcases List.mem_cons.mp hi with heq | hi
      . cases heq
        exact hparked
      . exact hwaiting.ended i hi
  . refine hcarried.goto rfl rfl rfl rfl (Or.inl rfl) (fun _ _ _ _ _ => rfl) ?_ ?_
    . exact fun _ _ hno => by cases hno
    . exact fun _ _ hno => by cases hno

theorem Parked.clear {c : TdiOpenConn} (hpc : s.pc t = .clear r)
    : Parked ((s.setRecord r c).goto t (.relink r)) := by
  have ht : addrThread = t := by
    have hrole := hplaced.roles t
    rw [hpc] at hrole
    exact hrole.symm
  have hrecord : (s.pc t).record = some r := by
    rw [hpc]
    rfl
  have hne : ∀ {r'}, r' ≠ r → ((s.setRecord r c).record r').pIrp = (s.record r').pIrp := fun hr' =>
    congrArg TdiOpenConn.pIrp (Function.update_of_ne hr' _ _)
  have hold : ∀ r, s.pc addrThread ≠ .completeRequest r := fun r hno => by
    rw [ht, hpc] at hno
    cases hno
  constructor
  . refine h.waiting.same ?_ ?_ rfl rfl fun i hi => hi
    . intro a
      rw [waits_iff_of_ne hold]
      apply or_iff_left
      rw [ht, pc_goto_self]
      exact fun hno => by cases hno
    . intro a ha
      rw [waits_iff_of_ne hold] at ha
      exact hne fun heq => hplaced.custody.off (.thread t) r hrecord _ (heq ▸ ha)
  . refine h.carried.goto rfl rfl rfl rfl (Or.inl rfl) ?_ ?_ ?_
    . intro t' i r' ht' hpc'
      exact hne (held_ne hplaced ht' hrecord (by rw [hpc']; rfl))
    . exact fun _ _ hno => by cases hno
    . exact fun _ _ hno => by cases hno

theorem Parked.addrThreadRelink (hpc : s.pc t = .relink r)
    (hrelink : s.addrObject (s.record r).pFileObject ≠ none →
      s.links.flink (.entry r) = .head gPendingAddrList → s.list gPendingAddrList = [])
    : Parked (addrThreadRelink s t r) := by
  have hquiet : ∀ {s₁}, Frame s s₁ → Parked (s₁.goto t .removeHead) := by
    intro s₁ hframe
    refine h.quiet hframe rfl (fun _ hno => by cases hno) ?_ fun _ _ hno => by cases hno
    exact fun r hno => by cases hpc.symm.trans hno
  unfold OpenConn.addrThreadRelink
  split
  . next addrObj hfind =>
    apply hquiet
    refine ⟨?_, fun _ => rfl, rfl, rfl, rfl, rfl, rfl⟩
    have hsome : s.addrObject (s.record r).pFileObject ≠ none := by
      rw [hfind]
      exact fun hno => by cases hno
    rw [hplaced.list_recycleTwice hpc, Function.update_of_ne (by decide),
      hplaced.list_removeTaken (hplaced.removeTwice hpc).1]
    split
    . next hflink => rw [Function.update_self, hrelink hsome hflink]
    . rfl
  . apply hquiet
    refine ⟨?_, fun _ => rfl, rfl, rfl, rfl, rfl, rfl⟩
    rw [hplaced.list_release gOpenAddrList (by rw [hpc]; rfl), Function.update_of_ne (by decide)]

theorem Parked.advance
    (hpending : ∀ file, s.pc t = .findPending file → s.find gPendingAddrList file = none)
    (hrelink : ∀ r, s.pc t = .relink r → s.addrObject (s.record r).pFileObject ≠ none →
      s.links.flink (.entry r) = .head gPendingAddrList → s.list gPendingAddrList = [])
    : Parked (advance s t) := by
  have hquiet : ∀ {s₁ pc}, Frame s s₁ → pc = .idle ∨ pc = .removeHead →
      (∀ r, s.pc t ≠ .completeRequest r) → Parked (s₁.goto t pc) := by
    rintro s₁ pc hframe (rfl | rfl) hold
    . exact h.quiet hframe rfl (fun _ hno => by cases hno) hold fun _ _ hno => by cases hno
    . exact h.quiet hframe rfl (fun _ hno => by cases hno) hold fun _ _ hno => by cases hno
  have hevent : ∀ event, Frame s { s with gAddrThreadEvent := event } := fun _ =>
    ⟨rfl, fun _ => rfl, rfl, rfl, rfl, rfl, rfl⟩
  cases hpc : s.pc t with
  | idle =>
    simp only [OpenConn.advance, hpc]
    split
    . exact hquiet (hevent false) (Or.inr rfl) fun r hno => by cases hpc.symm.trans hno
    . exact h
  | park irp r listen =>
    have hparked := h.park hplaced hpc (c := { s.record r with
      pIrp := some irp, flPending := true, flListen := (s.record r).flListen || listen }) rfl
    simpa only [OpenConn.advance, hpc] using hparked
  | insertPending irp r =>
    have hparked := h.insertPending hplaced hpc
    simpa only [OpenConn.advance, hpc] using hparked
  | setEvent =>
    simp only [OpenConn.advance, hpc]
    exact hquiet (hevent true) (Or.inl rfl) fun r hno => by cases hpc.symm.trans hno
  | insertTail head r =>
    have hhead : gPendingAddrList ≠ head := by
      rcases h.carried.tails t head r hpc with rfl | rfl
      . decide
      . decide
    have hrecord : (s.pc t).record = some r := by
      rw [hpc]
      rfl
    simp only [OpenConn.advance, hpc]
    refine hquiet ⟨?_, fun _ => rfl, rfl, rfl, rfl, rfl, rfl⟩ (Or.inl rfl) fun r hno => by
      cases hpc.symm.trans hno
    rw [hplaced.list_release head hrecord, Function.update_of_ne hhead]
  | findPending file =>
    simp only [OpenConn.advance, hpc, hpending file hpc]
    exact hquiet (.refl s) (Or.inl rfl) fun r hno => by cases hpc.symm.trans hno
  | removeHead => exact h.removeHead hplaced hpc
  | completeRequest r =>
    have hparked := h.completeRequest hplaced hpc
    simpa only [OpenConn.advance, hpc] using hparked
  | clear r =>
    have hparked := h.clear hplaced hpc (c := { s.record r with
      pIrp := none, flPending := false, flListen := false })
    simpa only [OpenConn.advance, hpc] using hparked
  | relink r =>
    have hparked := h.addrThreadRelink hplaced hpc (hrelink r hpc)
    simpa only [OpenConn.advance, hpc] using hparked

end Advance

/-! ### Runs -/

/--
When `addrThread` finds another record for the file of the one that it took from `g_PendingAddrList`, it
unlinks that one again. What was parked since it was the only one on the list would be lost.
-/
def Relinked (s : State) (r : Nat) : Prop :=
  s.addrObject (s.record r).pFileObject ≠ none →
    s.links.flink (.entry r) = .head gPendingAddrList → s.list gPendingAddrList = []

-- The record that `addrThread` is about to put back.
def Pc.relinking : Pc → Option Nat
  | .relink r => some r
  | _ => none

def Relinks (s : State) : Event → Prop
  | .dispatch .. => True
  | .complete .. => True
  | .advance t => ∀ r ∈ (s.pc t).relinking, Relinked s r

instance (s : State) (r : Nat) : Decidable (Relinked s r) :=
  inferInstanceAs (Decidable (_ → _ → s.list gPendingAddrList = []))

instance (s : State) : DecidablePred (Relinks s)
  | .dispatch .. => .isTrue trivial
  | .complete .. => .isTrue trivial
  | .advance t => inferInstanceAs (Decidable (∀ r ∈ (s.pc t).relinking, Relinked s r))

/--
Every parked IRP is completed at most once, and until then is the one of a record on
`g_PendingAddrList` or of the record that `addrThread` holds.
-/
def OnceAndKept (s : State) : Prop :=
  ∀ irp ∈ s.parked, s.completed.count (some irp) ≤ 1 ∧
    (some irp ∉ s.completed → ∃ r, s.Waits r ∧ (s.record r).pIrp = some irp)

theorem Parked.onceAndKept {s : State} (h : Parked s) : OnceAndKept s := fun irp hirp =>
  ⟨List.nodup_iff_count_le_one.mp h.waiting.completed _, h.waiting.kept irp hirp⟩

structure Reached (s : State) : Prop where
  placed : Placed s
  parked : Parked s

theorem reached_step {s : State} {e : Event} (h : Reached s) (hallowed : Allowed s e)
    (hunlinks : Unlinks s e) (hrelinks : Relinks s e)
    : Reached (step s e) := by
  refine ⟨placed_step h.placed hallowed hunlinks, ?_⟩
  cases e with
  | dispatch irp request file poolAlloc =>
    exact h.parked.dispatched hallowed (dispatched_dispatch h.placed)
  | complete t irp c =>
    show Parked (complete c s t irp)
    unfold complete
    cases hcall : s.calls irp with
    | none => exact h.parked
    | some call =>
      exact h.parked.routine hcall hallowed.2 (routine_completeCall h.placed.answer hallowed.1
        (fun r hr => h.placed.loose_answer hcall hr) (hunlinks call hcall))
  | advance t =>
    exact h.parked.advance h.placed (fun file hpc => hunlinks file (by rw [hpc]; rfl))
      fun r hpc => hrelinks r (by rw [hpc]; rfl)

theorem run_onceAndKept (record : Nat → TdiOpenConn) {es : List Event}
    (hallowed : Run.Along step Allowed (init record) es)
    (hunlinks : Run.Along step Unlinks (init record) es)
    (hrelinks : Run.Along step Relinks (init record) es)
    : OnceAndKept (Run.run step (init record) es) := by
  have hreached : Reached (Run.run step (init record) es) := by
    apply Run.inv_run ?_ ⟨placed_init record, parked_init record⟩ ((hallowed.and hunlinks).and hrelinks)
    exact fun s e hs he => reached_step hs he.1.1 he.1.2 he.2
  exact hreached.parked.onceAndKept

/-! ### Two completions on one address -/

-- What `addrThread` does when one record is pending.
def addrThreadRun : List Event := List.replicate 6 (.advance addrThread)

-- The second routine takes the record from `g_PendingAddrList` and overwrites its `m_pIrp`.
def twoListens : List Event :=
  associate [2, 3] ++
    [.dispatch 8 .listen 2 true, .dispatch 9 .listen 3 true,
      .complete 1 8 ⟨true, true, false⟩, .advance 1, .advance 1, .advance 1,
      .complete 2 9 ⟨true, true, false⟩, .advance 2, .advance 2, .advance 2] ++ addrThreadRun

theorem not_onceAndKept_twoListens
    : Run.Along step Allowed (init fun _ => .zero) twoListens ∧
        ¬ OnceAndKept (Run.run step (init fun _ => .zero) twoListens) := by
  refine ⟨by decide, fun h => ?_⟩
  obtain ⟨r, hr | hr, _⟩ := (h 8 (by decide)).2 (by decide)
  . exact absurd hr List.not_mem_nil
  . cases hr

def listenOnce : List Event :=
  associate [2] ++
    [.dispatch 8 .listen 2 true, .complete 1 8 ⟨true, true, false⟩, .advance 1, .advance 1,
      .advance 1] ++ addrThreadRun

theorem run_onceAndKept_listenOnce
    : let s := Run.run step (init fun _ => .zero) listenOnce
      s.parked = [8] ∧ s.completed = [some 8] ∧ OnceAndKept s :=
  ⟨rfl, rfl, run_onceAndKept _ (by decide) (by decide) (by decide)⟩

end Ansfw.OpenConn
