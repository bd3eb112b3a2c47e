import Ndisrd.Ansfltr.Packets.Impl

/-!
This module contains the invariant of the packets: the counter, the list and the holders of a packet
agree in every state, and its memory is freed once, behind the last of them.
-/

open Holders

namespace Ansfltr

@[simp]
theorem setPacket_self (packet : Nat → PacketHeader) (p : Nat) (header : PacketHeader)
    : setPacket packet p header p = header := if_pos rfl

theorem setPacket_of_ne {p q : Nat} (h : q ≠ p) (packet : Nat → PacketHeader) (header : PacketHeader)
    : setPacket packet p header q = packet q := if_neg h

theorem pAdapter_setPacket_references (packet : Nat → PacketHeader) (p : Nat) (references : Int)
    (q : Nat)
    : (setPacket packet p { packet p with references } q).pAdapter = (packet q).pAdapter := by
  by_cases hq : q = p
  . simp [hq]
  . rw [setPacket_of_ne hq]

theorem sourceHandle_setPacket_references (packet : Nat → PacketHeader) (p : Nat) (references : Int)
    (q : Nat)
    : (setPacket packet p { packet p with references } q).sourceHandle = (packet q).sourceHandle := by
  by_cases hq : q = p
  . simp [hq]
  . rw [setPacket_of_ne hq]

-- How often `FLTFreeCloneRequest` has come to its end for a packet, or is on the way there.
def PacketState.endings (s : PacketState) (p : Nat) : Nat :=
  s.dropped.count p + s.unlinked.count p + s.freeNdisData.count p

structure PacketInv (s : PacketState) : Prop where
  references : ∀ p ∈ s.created, (s.packet p).references = held s.holders p
  holders : s.holders.Nodup
  fresh : ∀ p, p ∉ s.created → held s.holders p = 0 ∧ s.endings p = 0
  ended : ∀ p ∈ s.created, s.endings p = if held s.holders p = 0 then 1 else 0
  listed : s.gPacketsList.Nodup ∧
    ∀ p, p ∈ s.gPacketsList ↔ 0 < held s.holders p ∨ p ∈ s.dropped
  sending : ∀ x ∈ s.sending, x.1 ∈ s.holders ∧ (∀ n filterHandle, x.1.2 ≠ .ndis n filterHandle) ∧
    x.2 = (s.packet x.1.1).sourceHandle
  ndis : ∀ p n filterHandle, (p, .ndis n filterHandle) ∈ s.holders →
    filterHandle = (s.packet p).sourceHandle
  adapter : ∀ p ∈ s.created, ∀ a, (s.packet p).pAdapter = some a → a = (s.packet p).sourceHandle
  closed : ∀ a ∈ s.closed, ∀ p ∈ s.gPacketsList, (s.packet p).pAdapter ≠ some a

theorem packetInv_init (packet : Nat → PacketHeader) : PacketInv (PacketState.init packet) := by
  constructor <;> simp [PacketState.init, PacketState.endings]

namespace PacketInv

variable {s : PacketState} (h : PacketInv s)
include h

theorem created_of_held {p : Nat} {holder : Holder} (hmem : (p, holder) ∈ s.holders)
    : p ∈ s.created := by
  by_contra hnot
  have := held_pos hmem
  have := (h.fresh p hnot).1
  omega

theorem created_of_listed {p : Nat} (hmem : p ∈ s.gPacketsList) : p ∈ s.created := by
  by_contra hnot
  obtain ⟨hheld, hended⟩ := h.fresh p hnot
  rcases (h.listed.2 p).mp hmem with hpos | hdropped
  . omega
  . have := List.count_pos_iff.mpr hdropped
    unfold PacketState.endings at hended
    omega

-- The memory of a packet that is on the list, or has a holder, is still there.
theorem not_freed {p : Nat} (hmem : p ∈ s.gPacketsList) : p ∉ s.freeNdisData := by
  intro hfreed
  have hend := h.ended p (h.created_of_listed hmem)
  have hcount := List.count_pos_iff.mpr hfreed
  unfold PacketState.endings at hend
  rcases (h.listed.2 p).mp hmem with hpos | hdropped
  . rw [if_neg (by omega)] at hend
    omega
  . have := List.count_pos_iff.mpr hdropped
    split at hend
    . omega
    . omega

/-! ### New packets and new references -/

theorem create {p pFilter : Nat} (hp : p ∉ s.created) (hopen : pFilter ∉ s.closed)
    : PacketInv (createPacket s p pFilter) := by
  obtain ⟨hheld, hended⟩ := h.fresh p hp
  have hnotlisted : p ∉ s.gPacketsList := fun hmem => hp (h.created_of_listed hmem)
  have hother : ∀ {q}, q ∈ s.created → q ≠ p := by
    rintro q hq rfl
    exact hp hq
  refine ⟨?_, ?_, ?_, ?_, ⟨?_, ?_⟩, ?_, ?_, ?_, ?_⟩
  . intro q hq
    rcases List.mem_cons.mp hq with rfl | hq
    . simp [createPacket, hheld]
    . have := h.references q hq
      simpa [createPacket, setPacket_of_ne (hother hq), (hother hq).symm] using this
  . exact List.nodup_cons.mpr ⟨(held_eq_zero_iff _ p).mp hheld .handler, h.holders⟩
  . intro q hq
    have hne : q ≠ p := fun heq => hq (heq ▸ List.mem_cons_self)
    have := h.fresh q (fun hmem => hq (List.mem_cons_of_mem p hmem))
    simpa [createPacket, PacketState.endings, hne.symm] using this
  . intro q hq
    rcases List.mem_cons.mp hq with rfl | hq
    . simpa [createPacket, PacketState.endings] using hended
    . have := h.ended q hq
      simpa [createPacket, PacketState.endings, (hother hq).symm] using this
  . simpa [createPacket, List.nodup_append] using ⟨h.listed.1, fun q hq heq => hnotlisted (heq ▸ hq)⟩
  . intro q
    have := h.listed.2 q
    by_cases hq : p = q
    . simp [createPacket, hq]
    . simp only [createPacket, List.mem_append, List.mem_singleton, held_cons, if_neg hq, Nat.add_zero,
        this]
      exact ⟨fun hor => hor.resolve_right fun heq => hq heq.symm, Or.inl⟩
  . intro x hx
    obtain ⟨hmem, hparty, heq⟩ := h.sending x hx
    refine ⟨List.mem_cons_of_mem _ hmem, hparty, ?_⟩
    rw [heq]
    exact congrArg _ (setPacket_of_ne (hother (h.created_of_held hmem)) _ _).symm
  . intro q n filterHandle hmem
    rcases List.mem_cons.mp hmem with heq | hmem
    . cases heq
    . rw [h.ndis q n filterHandle hmem]
      exact congrArg _ (setPacket_of_ne (hother (h.created_of_held hmem)) _ _).symm
  . intro q hq a ha
    rcases List.mem_cons.mp hq with rfl | hq
    . simp only [createPacket, setPacket_self, Option.some.injEq] at ha ⊢
      exact ha.symm
    . simp only [createPacket, setPacket_of_ne (hother hq)] at ha ⊢
      exact h.adapter q hq a ha
  . intro a ha q hq
    rcases List.mem_append.mp hq with hq | hq
    . have := h.closed a ha q hq
      simpa [createPacket, setPacket_of_ne (hother (h.created_of_listed hq))] using this
    . rw [List.mem_singleton.mp hq]
      simp only [createPacket, setPacket_self]
      rintro ⟨⟩
      exact hopen ha

theorem clone {p : Nat} {newHolder : Holder} (hheld : 0 < held s.holders p)
    (hnew : (p, newHolder) ∉ s.holders)
    (hndis : ∀ n filterHandle, newHolder = .ndis n filterHandle →
      filterHandle = (s.packet p).sourceHandle)
    : PacketInv (fltCloneRequest s p newHolder) := by
  have hsource : ∀ q, ((fltCloneRequest s p newHolder).packet q).sourceHandle =
      (s.packet q).sourceHandle :=
    sourceHandle_setPacket_references s.packet p _
  have hadapter : ∀ q, ((fltCloneRequest s p newHolder).packet q).pAdapter =
      (s.packet q).pAdapter :=
    pAdapter_setPacket_references s.packet p _
  refine ⟨?_, ?_, ?_, ?_, ⟨h.listed.1, ?_⟩, ?_, ?_, ?_, ?_⟩
  . intro q hq
    have := h.references q hq
    by_cases hqp : q = p
    . subst hqp
      simp [fltCloneRequest, this]
    . simp [fltCloneRequest, setPacket_of_ne hqp, this, Ne.symm hqp]
  . exact List.nodup_cons.mpr ⟨hnew, h.holders⟩
  . intro q hq
    have hfresh := h.fresh q hq
    have hqp : p ≠ q := by
      rintro rfl
      omega
    simpa [fltCloneRequest, PacketState.endings, hqp] using hfresh
  . intro q hq
    have := h.ended q hq
    by_cases hqp : p = q
    . subst hqp
      rw [if_neg (by omega)] at this
      simpa [fltCloneRequest, PacketState.endings] using this
    . simpa [fltCloneRequest, PacketState.endings, hqp] using this
  . intro q
    have := h.listed.2 q
    by_cases hqp : p = q
    . subst hqp
      have hlisted : p ∈ s.gPacketsList := this.mpr (Or.inl hheld)
      simp [fltCloneRequest, hlisted]
    . simpa [fltCloneRequest, hqp] using this
  . intro x hx
    obtain ⟨hmem, hparty, heq⟩ := h.sending x hx
    exact ⟨List.mem_cons_of_mem _ hmem, hparty, heq.trans (hsource _).symm⟩
  . intro q n filterHandle hmem
    rw [hsource]
    rcases List.mem_cons.mp hmem with heq | hmem
    . cases heq
      exact hndis n filterHandle rfl
    . exact h.ndis q n filterHandle hmem
  . intro q hq a ha
    rw [hadapter] at ha
    rw [hsource]
    exact h.adapter q hq a ha
  . intro a ha q hq
    rw [hadapter]
    exact h.closed a ha q hq

/-! ### References given back -/

theorem free {p : Nat} {holder : Holder} (hmem : (p, holder) ∈ s.holders)
    (hbusy : ∀ filterHandle, ((p, holder), filterHandle) ∉ s.sending)
    : PacketInv (fltFreeCloneRequest { s with holders := s.holders.erase (p, holder) } p) := by
  have hcreated := h.created_of_held hmem
  have hreferences := h.references p hcreated
  have hheld := held_erase hmem
  have hpos := held_pos hmem
  have hpheld := hheld p
  rw [if_pos rfl] at hpheld
  -- the counter reaches zero with the last holder
  have hzero : (s.packet p).references - 1 = 0 ↔ held (s.holders.erase (p, holder)) p = 0 := by omega
  have hother : ∀ q, p ≠ q → held (s.holders.erase (p, holder)) q = held s.holders q := by
    intro q hq
    have := hheld q
    rw [if_neg hq] at this
    exact this
  have hsource := sourceHandle_setPacket_references s.packet p ((s.packet p).references - 1)
  have hadapter := pAdapter_setPacket_references s.packet p ((s.packet p).references - 1)
  have hended := h.ended p hcreated
  rw [if_neg (by omega)] at hended
  refine ⟨?_, ?_, ?_, ?_, ⟨h.listed.1, ?_⟩, ?_, ?_, ?_, ?_⟩
  . intro q hq
    by_cases hqp : q = p
    . subst hqp
      simp only [fltFreeCloneRequest, setPacket_self]
      omega
    . have := h.references q hq
      simpa [fltFreeCloneRequest, setPacket_of_ne hqp, hother q (Ne.symm hqp)] using this
  . exact h.holders.sublist List.erase_sublist
  . intro q hq
    have hfresh := h.fresh q hq
    have hqp : p ≠ q := by
      rintro rfl
      exact hq hcreated
    simp only [fltFreeCloneRequest, PacketState.endings, hother q hqp] at hfresh ⊢
    split
    . simpa [hqp] using hfresh
    . exact hfresh
  . intro q hq
    by_cases hqp : p = q
    . subst hqp
      simp only [fltFreeCloneRequest, PacketState.endings, hzero] at hended ⊢
      split
      . rw [List.count_cons_self]
        omega
      . omega
    . have := h.ended q hq
      simp only [fltFreeCloneRequest, PacketState.endings, hother q hqp] at this ⊢
      rw [← this]
      split
      . rw [List.count_cons_of_ne hqp]
      . rfl
  . intro q
    have := h.listed.2 q
    by_cases hqp : p = q
    . subst hqp
      have hlisted : p ∈ s.gPacketsList := this.mpr (Or.inl hpos)
      simp only [fltFreeCloneRequest, hlisted, true_iff, hzero]
      split
      . exact Or.inr List.mem_cons_self
      . omega
    . simp only [fltFreeCloneRequest, hother q hqp, this]
      split
      . rw [List.mem_cons]
        exact or_congr_right ⟨Or.inr, fun hor => hor.resolve_left (Ne.symm hqp)⟩
      . exact Iff.rfl
  . intro x hx
    obtain ⟨hxmem, hparty, heq⟩ := h.sending x hx
    refine ⟨(List.mem_erase_of_ne ?_).mpr hxmem, hparty, heq.trans (hsource _).symm⟩
    intro heq
    exact hbusy x.2 (heq ▸ hx)
  . intro q n filterHandle hq
    exact (h.ndis q n filterHandle (List.mem_of_mem_erase hq)).trans (hsource q).symm
  . intro q hq a ha
    exact (h.adapter q hq a ((hadapter q).symm.trans ha)).trans (hsource q).symm
  . intro a ha q hq
    exact fun heq => h.closed a ha q hq ((hadapter q).symm.trans heq)

theorem complete {p n filterHandle : Nat} (hmem : (p, .ndis n filterHandle) ∈ s.holders)
    : PacketInv (filterComplete s p n filterHandle) := by
  have hours := h.ndis p n filterHandle hmem
  unfold filterComplete
  simp only [hours, if_true]
  rw [← hours]
  apply h.free hmem
  intro f hbusy
  exact (h.sending _ hbusy).2.1 n filterHandle rfl

theorem unlink {p : Nat} (hp : p ∈ s.dropped) : PacketInv (unlinkPacket s p) := by
  have hended : ∀ q, (unlinkPacket s p).endings q = s.endings q := by
    intro q
    have := count_move hp s.unlinked q
    simp only [unlinkPacket, PacketState.endings]
    omega
  have hlisted : p ∈ s.gPacketsList := (h.listed.2 p).mpr (Or.inr hp)
  have hend := h.ended p (h.created_of_listed hlisted)
  refine ⟨h.references, h.holders, ?_, ?_, ⟨h.listed.1.erase p, ?_⟩, h.sending, h.ndis, h.adapter, ?_⟩
  . intro q hq
    rw [hended]
    exact h.fresh q hq
  . intro q hq
    rw [hended]
    exact h.ended q hq
  . intro q
    have hpos := List.count_pos_iff.mpr hp
    by_cases hq : p = q
    . subst hq
      have hgone : p ∉ s.dropped.erase p := by
        intro hagain
        have := List.count_pos_iff.mpr hagain
        rw [List.count_erase_self] at this
        unfold PacketState.endings at hend
        split at hend
        . omega
        . omega
      have hheld : ¬0 < held s.holders p := by
        intro hheld
        rw [if_neg (by omega)] at hend
        unfold PacketState.endings at hend
        omega
      simp [unlinkPacket, h.listed.1.mem_erase_iff, hgone, hheld]
    . have := h.listed.2 q
      simpa [unlinkPacket, List.mem_erase_of_ne (Ne.symm hq)] using this
  . intro a ha q hq
    exact h.closed a ha q (List.mem_of_mem_erase hq)

theorem freeData {p : Nat} (hp : p ∈ s.unlinked) : PacketInv (freePacket s p) := by
  have hended : ∀ q, (freePacket s p).endings q = s.endings q := by
    intro q
    have := count_move hp s.freeNdisData q
    simp only [freePacket, PacketState.endings]
    omega
  refine ⟨h.references, h.holders, ?_, ?_, h.listed, h.sending, h.ndis, h.adapter, h.closed⟩
  . intro q hq
    rw [hended]
    exact h.fresh q hq
  . intro q hq
    rw [hended]
    exact h.ended q hq

/-! ### Sending, and the adapters -/

theorem sendRead {p : Nat} {holder : Holder} (hmem : (p, holder) ∈ s.holders)
    (hparty : ∀ n filterHandle, holder ≠ .ndis n filterHandle)
    : PacketInv (sendPacketRead s p holder) := by
  unfold sendPacketRead
  split
  next filterHandle hadapter =>
    refine ⟨h.references, h.holders, h.fresh, h.ended, h.listed, ?_, h.ndis, h.adapter, h.closed⟩
    intro x hx
    rcases List.mem_cons.mp hx with rfl | hx
    . exact ⟨hmem, hparty, h.adapter p (h.created_of_held hmem) filterHandle hadapter⟩
    . exact h.sending x hx
  next => exact h

theorem sendHandOff {p n filterHandle : Nat} {holder : Holder}
    (hsending : ((p, holder), filterHandle) ∈ s.sending) (hnew : (p, .ndis n filterHandle) ∉ s.holders)
    : PacketInv (sendPacketHandOff s p holder filterHandle n) := by
  obtain ⟨hmem, hparty, hsource⟩ := h.sending _ hsending
  have hclone : PacketInv (fltCloneRequest s p (.ndis n filterHandle)) := by
    apply h.clone (held_pos hmem) hnew
    intro n' f heq
    cases heq
    exact hsource
  refine ⟨hclone.references, hclone.holders, hclone.fresh, hclone.ended, hclone.listed, ?_,
    hclone.ndis, hclone.adapter, hclone.closed⟩
  intro x hx
  exact hclone.sending x (List.mem_of_mem_erase hx)

theorem attach (pFilter : Nat) : PacketInv { s with closed := s.closed.filter (· ≠ pFilter) } := by
  refine ⟨h.references, h.holders, h.fresh, h.ended, h.listed, h.sending, h.ndis, h.adapter, ?_⟩
  intro a ha
  exact h.closed a (List.mem_of_mem_filter ha)

end PacketInv

theorem foldl_markPacket (pAdapter : Nat) (list : List Nat) (packet : Nat → PacketHeader) (q : Nat)
    : list.foldl (markPacket pAdapter) packet q =
        if q ∈ list ∧ (packet q).pAdapter = some pAdapter then
          { packet q with pAdapter := none }
        else
          packet q := by
  induction list generalizing packet with
  | nil => simp
  | cons p list ih =>
    rw [List.foldl_cons, ih]
    by_cases hq : q = p
    . subst hq
      by_cases ha : (packet q).pAdapter = some pAdapter
      . simp [markPacket, ha]
      . simp [markPacket, ha]
    . simp [markPacket, hq]

theorem PacketInv.closeAdapter {s : PacketState} (h : PacketInv s) (pAdapter : Nat)
    : PacketInv { closeAdapter s pAdapter with closed := pAdapter :: s.closed } := by
  have hpacket := foldl_markPacket pAdapter s.gPacketsList s.packet
  have hreferences : ∀ q, ((Ansfltr.closeAdapter s pAdapter).packet q).references =
      (s.packet q).references := by
    intro q
    simp only [Ansfltr.closeAdapter, hpacket]
    split
    . rfl
    . rfl
  have hsource : ∀ q, ((Ansfltr.closeAdapter s pAdapter).packet q).sourceHandle =
      (s.packet q).sourceHandle := by
    intro q
    simp only [Ansfltr.closeAdapter, hpacket]
    split
    . rfl
    . rfl
  have hadapter : ∀ q a, ((Ansfltr.closeAdapter s pAdapter).packet q).pAdapter = some a →
      (s.packet q).pAdapter = some a ∧ (q ∈ s.gPacketsList → a ≠ pAdapter) := by
    intro q a ha
    simp only [Ansfltr.closeAdapter, hpacket] at ha
    split at ha
    next => cases ha
    next hnot =>
      refine ⟨ha, fun hmem heq => ?_⟩
      rw [heq] at ha
      exact hnot ⟨hmem, ha⟩
  refine ⟨?_, h.holders, h.fresh, h.ended, h.listed, ?_, ?_, ?_, ?_⟩
  . intro q hq
    rw [hreferences]
    exact h.references q hq
  . intro x hx
    rw [hsource]
    exact h.sending x hx
  . intro q n filterHandle hq
    rw [hsource]
    exact h.ndis q n filterHandle hq
  . intro q hq a ha
    rw [hsource]
    exact h.adapter q hq a (hadapter q a ha).1
  . intro a ha q hq heq
    obtain ⟨hold, hne⟩ := hadapter q a heq
    rcases List.mem_cons.mp ha with rfl | ha
    . exact hne hq rfl
    . exact h.closed a ha q hq hold

/-! ### Runs -/

theorem packetInv_step (s : PacketState) (e : PacketEvent) (h : PacketInv s) (he : e.Allowed s)
    : PacketInv (packetStep s e) := by
  cases e with
  | attach pFilter => exact h.attach pFilter
  | create p pFilter => exact h.create he.1 he.2
  | clone p holder n =>
    apply h.clone (held_pos he.1) he.2
    rintro _ _ ⟨⟩
  | sendRead p holder => exact h.sendRead he.1 he.2
  | sendHandOff p holder filterHandle n => exact h.sendHandOff he.1 (he.2 filterHandle)
  | free p holder => exact h.free he.1 he.2.2
  | complete p n filterHandle => exact h.complete he
  | unlink p => exact h.unlink he
  | freeData p => exact h.freeData he
  | closeAdapter pAdapter => exact h.closeAdapter pAdapter

/--
What holds of the packets in every state of every run. For a packet whose last holder has released it,
`FreeNdisData` has run, or the thread of that release is still on the way to it; where it is not, it has run
exactly once.
-/
structure PacketsSound (s : PacketState) : Prop where
  references : ∀ p ∈ s.created, (s.packet p).references = held s.holders p
  listed : ∀ p ∈ s.created, 0 < (s.packet p).references → p ∈ s.gPacketsList
  freedOnce : ∀ p, s.freeNdisData.count p ≤ 1
  freedLast : ∀ p ∈ s.freeNdisData, held s.holders p = 0 ∧ p ∉ s.gPacketsList
  freed : ∀ p ∈ s.created, held s.holders p = 0 →
    p ∈ s.freeNdisData ∨ p ∈ s.dropped ∨ p ∈ s.unlinked
  settled : ∀ p ∈ s.created, held s.holders p = 0 → p ∉ s.dropped → p ∉ s.unlinked →
    s.freeNdisData.count p = 1
  closed : ∀ a ∈ s.closed, ∀ p ∈ s.gPacketsList, (s.packet p).pAdapter ≠ some a

theorem PacketInv.endings_le {s : PacketState} (h : PacketInv s) (p : Nat) : s.endings p ≤ 1 := by
  by_cases hp : p ∈ s.created
  . rw [h.ended p hp]
    split
    . omega
    . omega
  . rw [(h.fresh p hp).2]
    omega

theorem PacketInv.sound {s : PacketState} (h : PacketInv s) : PacketsSound s := by
  refine ⟨h.references, ?_, ?_, ?_, ?_, ?_, h.closed⟩
  . intro p hp hpos
    rw [h.references p hp] at hpos
    exact (h.listed.2 p).mpr (Or.inl (by omega))
  . intro p
    have := h.endings_le p
    unfold PacketState.endings at this
    omega
  . intro p hp
    refine ⟨?_, fun hlisted => h.not_freed hlisted hp⟩
    have hcount := List.count_pos_iff.mpr hp
    by_contra hheld
    have hlisted : p ∈ s.gPacketsList := (h.listed.2 p).mpr (Or.inl (by omega))
    exact h.not_freed hlisted hp
  . intro p hp hheld
    have hended := h.ended p hp
    rw [if_pos hheld, PacketState.endings] at hended
    rw [← List.count_pos_iff, ← List.count_pos_iff, ← List.count_pos_iff]
    omega
  . intro p hp hheld hdropped hunlinked
    have hended := h.ended p hp
    rw [if_pos hheld, PacketState.endings, List.count_eq_zero.mpr hdropped,
      List.count_eq_zero.mpr hunlinked] at hended
    omega

theorem packetsSound_run (packet : Nat → PacketHeader) (es : List PacketEvent)
    (hes : Run.Along packetStep (fun s e => e.Allowed s) (PacketState.init packet) es)
    : PacketsSound (Run.run packetStep (PacketState.init packet) es) := by
  have h : PacketInv (Run.run packetStep (PacketState.init packet) es) :=
    Run.inv_run packetInv_step (packetInv_init packet) hes
  exact h.sound

theorem packetsSound_sent
    : PacketsSound (Run.run packetStep (PacketState.init fun _ => ⟨0, none, 0⟩)
        [.create 1 5, .sendRead 1 .handler, .sendHandOff 1 .handler 5 0, .free 1 .handler,
          .closeAdapter 5, .complete 1 0 5, .unlink 1, .freeData 1]) := by
  apply packetsSound_run
  simp [PacketEvent.Allowed, packetStep, PacketState.init, createPacket, sendPacketRead, setPacket,
    sendPacketHandOff, fltCloneRequest, fltFreeCloneRequest, closeAdapter, markPacket, filterComplete,
    unlinkPacket]

end Ansfltr
