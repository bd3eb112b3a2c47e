import Ndisrd.Ansfltr.Descriptors.Impl

/-!
This module contains the account of the descriptors of an adapter: whatever allocations fail and however
receptions, transfers and sends overlap, each packet and buffer descriptor in use belongs to a transfer in
the list or to a send that NDIS has kept, and none is freed twice.
-/

namespace Ansfltr.Descriptors

open State

/-- What one call of `PtTransferDataComplete` does. -/
inductive Completion (s : State) (packet : Nat) : State → Prop where
  | noInstance (h : s.adapter.miniportHandle = false) : Completion s packet s
  /-- The completion is passed up. -/
  | passed (h : s.adapter.pendingTransfertData = []) : Completion s packet (s.ndisMTransferDataComplete packet)
  /-- A completion of a protocol above, while there is a transfer of this driver. -/
  | dropped (h : s.adapter.pendingTransfertData ≠ [])
    (hother : ∀ pHKPacket ∈ s.adapter.pendingTransfertData, pHKPacket.address ≠ packet) : Completion s packet s
  | own (before : List NdishkPacket) (pHKPacket : NdishkPacket) (behind : List NdishkPacket)
    (h : s.adapter.pendingTransfertData = before ++ pHKPacket :: behind) (haddress : pHKPacket.address = packet) :
    Completion s packet { s with
      adapter := { s.adapter with pendingTransfertData := before ++ behind }
      pool := s.pool.free packet }

theorem find_eraseP {p : NdishkPacket → Bool} {l : List NdishkPacket} {pHKPacket : NdishkPacket}
    (h : l.find? p = some pHKPacket)
    : ∃ before behind, l = before ++ pHKPacket :: behind ∧ l.eraseP p = before ++ behind := by
  obtain ⟨hp, before, behind, rfl, hbefore⟩ := List.find?_eq_some_iff_append.mp h
  refine ⟨before, behind, rfl, ?_⟩
  have hnot : ∀ b ∈ before, ¬p b = true := by simpa using hbefore
  rw [List.eraseP_append_right _ hnot, List.eraseP_cons_of_pos hp]

theorem completion_ptTransferDataComplete (s : State) (packet : Nat) (status : NtStatus)
    (bytesTransferred : Nat) (memory : Option (Nat → UInt8))
    : Completion s packet (ptTransferDataComplete s packet status bytesTransferred memory).state := by
  rw [ptTransferDataComplete, Ansfltr.ptTransferDataComplete]
  split
  . next hhandle => exact .noInstance (by simpa using hhandle)
  split
  . next hempty => exact .passed hempty
  next hempty =>
  split
  . next hfind =>
    apply Completion.dropped hempty
    intro pHKPacket hmem
    simpa using List.find?_eq_none.mp hfind pHKPacket hmem
  . next pHKPacket hfind =>
    obtain ⟨before, behind, hlist, herase⟩ := find_eraseP hfind
    have haddress : pHKPacket.address = packet := by simpa using List.find?_some hfind
    have hown := Completion.own before pHKPacket behind hlist haddress
    rw [← herase] at hown
    split
    . exact hown
    split
    . exact hown
    . exact hown

/-! ### Who owns the descriptors -/

def listed (pHKPacket : NdishkPacket) : Nat × Nat := (pHKPacket.address, pHKPacket.chain.length)

def owned (s : State) : List (Nat × Nat) :=
  s.adapter.pendingTransfertData.map listed ++ s.sends.map fun packet => (packet, 1)

/--
`done` is the packet of a call that is about to complete its transfer.
-/
structure Inv (done : Option Nat) (s : State) : Prop where
  accounts : s.pool.Accounts (owned s)
  handle : s.adapter.miniportHandle = true ∨
    s.adapter.pendingTransfertData = [] ∧ s.calls = [] ∧ s.below = []
  calls : ∀ call ∈ s.calls, ∃ pHKPacket ∈ s.adapter.pendingTransfertData,
    pHKPacket.address = call.1 ∧ pHKPacket.nTransferDataStatus = NtStatus.success
  callsNodup : (s.calls.map Prod.fst).Nodup
  inList : ∀ pHKPacket ∈ s.adapter.pendingTransfertData,
    pHKPacket.nTransferDataStatus = NtStatus.pending ∨ pHKPacket.address ∈ s.calls.map Prod.fst ∨
      done = some pHKPacket.address
  apart : ∀ packet ∈ s.below, packet ∉ s.pool.objects.map Prod.fst

theorem inv_init (localAddress currentAddress : List UInt8) (mediumWan : Bool)
    : Inv none (init localAddress currentAddress mediumWan) where
  accounts := Pool.accounts_empty
  handle := .inr ⟨rfl, rfl, rfl⟩
  calls := nofun
  callsNodup := List.nodup_nil
  inList := nofun
  apart := nofun

namespace Inv

variable {s s' : State} {done : Option Nat} {packet : Nat}

theorem mono (h : Inv none s) (done : Option Nat) : Inv done s where
  accounts := h.accounts
  handle := h.handle
  calls := h.calls
  callsNodup := h.callsNodup
  inList := by
    intro pHKPacket hmem
    rcases h.inList pHKPacket hmem with hpending | hcall | hdone
    . exact .inl hpending
    . exact .inr (.inl hcall)
    . cases hdone
  apart := h.apart

theorem mem_objects (h : Inv done s) {pHKPacket : NdishkPacket}
    (hmem : pHKPacket ∈ s.adapter.pendingTransfertData)
    : pHKPacket.address ∈ s.pool.objects.map Prod.fst := by
  rw [(h.accounts.perm.map Prod.fst).mem_iff, owned, List.map_append]
  apply List.mem_append_left
  rw [List.map_map]
  exact List.mem_map.mpr ⟨pHKPacket, hmem, rfl⟩

theorem nodup_addresses (h : Inv done s)
    : (s.adapter.pendingTransfertData.map NdishkPacket.address).Nodup := by
  have hnodup := h.accounts.nodup
  rw [owned, List.map_append, List.map_map] at hnodup
  exact (List.nodup_append.mp hnodup).1

theorem eq_of_address (h : Inv done s) {p q : NdishkPacket} (hp : p ∈ s.adapter.pendingTransfertData)
    (hq : q ∈ s.adapter.pendingTransfertData) (haddress : p.address = q.address) : p = q :=
  List.inj_on_of_nodup_map h.nodup_addresses hp hq haddress

/--
The packet of a transfer that goes, with the rest of the list.
-/
theorem owned_perm {before behind : List NdishkPacket} {pHKPacket : NdishkPacket}
    (hlist : s.adapter.pendingTransfertData = before ++ pHKPacket :: behind)
    : (owned s).Perm (listed pHKPacket :: ((before ++ behind).map listed ++
        s.sends.map fun packet => (packet, 1))) := by
  rw [owned, hlist, ← List.cons_append]
  apply List.Perm.append_right
  rw [← List.map_cons]
  exact List.perm_middle.map listed

theorem complete (h : Inv (some packet) s) (hcalls : packet ∉ s.calls.map Prod.fst)
    (hs' : Completion s packet s') : Inv none s' := by
  cases hs' with
  | noInstance hhandle =>
    rcases h.handle with hset | hnone
    . rw [hhandle] at hset
      cases hset
    . exact { h with inList := by simp [hnone.1] }
  | passed hempty =>
    exact ⟨h.accounts, h.handle, h.calls, h.callsNodup, by simp [ndisMTransferDataComplete, hempty], h.apart⟩
  | dropped hpending hother =>
    refine { h with inList := ?_ }
    intro pHKPacket hmem
    rcases h.inList pHKPacket hmem with hstatus | hcall | hdone
    . exact .inl hstatus
    . exact .inr (.inl hcall)
    . exact absurd (Option.some.inj hdone).symm (hother pHKPacket hmem)
  | own before pHKPacket behind hlist haddress =>
    have hsub : ∀ q ∈ before ++ behind, q ∈ s.adapter.pendingTransfertData := by
      intro q hq
      rw [hlist]
      simp only [List.mem_append, List.mem_cons] at hq ⊢
      tauto
    have hmem : pHKPacket ∈ s.adapter.pendingTransfertData := by
      rw [hlist]
      exact List.mem_append_right before List.mem_cons_self
    have hne : ∀ q ∈ before ++ behind, q.address ≠ packet := by
      have hnodup := h.nodup_addresses
      rw [hlist, List.map_append, List.map_cons] at hnodup
      have hnodup := (List.nodup_cons.mp (List.nodup_middle.mp hnodup)).1
      intro q hq hqa
      apply hnodup
      rw [← List.map_append, haddress, ← hqa]
      exact List.mem_map_of_mem hq
    have haccounts := h.accounts.reorder (owned_perm hlist)
    rw [listed, haddress] at haccounts
    constructor
    . exact haccounts.free
    . refine .inl (h.handle.resolve_right ?_)
      rintro ⟨hnil, -⟩
      rw [hnil] at hmem
      exact List.not_mem_nil hmem
    . intro call hcall
      obtain ⟨q, hq, hqa, hstatus⟩ := h.calls call hcall
      refine ⟨q, ?_, hqa, hstatus⟩
      rw [hlist] at hq
      simp only [List.mem_append, List.mem_cons] at hq ⊢
      rcases hq with hq | rfl | hq
      . exact .inl hq
      . exact absurd (List.mem_map.mpr ⟨call, hcall, hqa.symm.trans haddress⟩) hcalls
      . exact .inr hq
    . exact h.callsNodup
    . intro q hq
      rcases h.inList q (hsub q hq) with hstatus | hcall | hdone
      . exact .inl hstatus
      . exact .inr (.inl hcall)
      . exact absurd (Option.some.inj hdone).symm (hne q hq)
    . intro other hother hin
      obtain ⟨object, hobject, rfl⟩ := List.mem_map.mp hin
      exact h.apart _ hother (List.mem_map_of_mem (Pool.mem_of_mem_free hobject))

theorem not_calling_of_ownPending (h : Inv done s) (hown : OwnPending s packet)
    : packet ∉ s.calls.map Prod.fst := by
  obtain ⟨pHKPacket, hmem, rfl, hpending⟩ := hown
  intro hcall
  obtain ⟨call, hcall, haddress⟩ := List.mem_map.mp hcall
  obtain ⟨q, hq, hqa, hsuccess⟩ := h.calls call hcall
  rw [h.eq_of_address hq hmem (hqa.trans haddress), hpending] at hsuccess
  exact absurd hsuccess (by decide)

theorem not_calling_of_below (h : Inv done s) (hbelow : packet ∈ s.below)
    : packet ∉ s.calls.map Prod.fst := by
  intro hcall
  obtain ⟨call, hmem, rfl⟩ := List.mem_map.mp hcall
  obtain ⟨q, hq, hqa, -⟩ := h.calls call hmem
  exact h.apart _ hbelow (hqa ▸ h.mem_objects hq)

/--
NDIS fills packets of the list and completes transfers of the protocols above.
-/
theorem fill (h : Inv done s) (packet : Nat) (bytes : List UInt8) {below : List Nat} (hbelow : below ⊆ s.below)
    : Inv done { s with adapter := fillPending s.adapter packet bytes, below := below } := by
  let fillOne (p : NdishkPacket) : NdishkPacket := if p.address = packet then p.fill bytes else p
  have haddress : ∀ p, (fillOne p).address = p.address := by
    intro p
    simp only [fillOne]
    split <;> rfl
  have hstatus : ∀ p, (fillOne p).nTransferDataStatus = p.nTransferDataStatus := by
    intro p
    simp only [fillOne]
    split <;> rfl
  have hlisted : listed ∘ fillOne = listed := by
    funext p
    simp only [Function.comp, fillOne]
    split <;> rfl
  have howned : owned { s with adapter := fillPending s.adapter packet bytes, below := below } = owned s := by
    rw [owned, owned, fillPending, List.map_map]
    exact congrArg (fun f => s.adapter.pendingTransfertData.map f ++ s.sends.map fun p => (p, 1)) hlisted
  constructor
  . rw [howned]
    exact h.accounts
  . rcases h.handle with hhandle | ⟨hpending, hcalls, hnone⟩
    . exact .inl hhandle
    . refine .inr ⟨?_, hcalls, List.eq_nil_of_subset_nil (hnone ▸ hbelow)⟩
      rw [fillPending, hpending]
      rfl
  . intro call hcall
    obtain ⟨q, hq, hqa, hsuccess⟩ := h.calls call hcall
    exact ⟨fillOne q, List.mem_map_of_mem hq, (haddress q).trans hqa, (hstatus q).trans hsuccess⟩
  . exact h.callsNodup
  . intro p hp
    obtain ⟨q, hq, rfl⟩ := List.mem_map.mp hp
    have hin := h.inList q hq
    rw [← haddress q, ← hstatus q] at hin
    exact hin
  . exact fun other hother => h.apart other (hbelow hother)

theorem ndisTransferDataComplete (h : Inv none s) {transfer : Transfer} (memory : Option (Nat → UInt8))
    (hpacket : packet ∈ s.below ∨ OwnPending s packet)
    : Inv none (ndisTransferDataComplete s packet transfer memory).state := by
  have hcalls : packet ∉ s.calls.map Prod.fst :=
    hpacket.elim h.not_calling_of_below h.not_calling_of_ownPending
  have hfilled := h.fill packet transfer.bytes (List.erase_subset (a := packet))
  exact (hfilled.mono (some packet)).complete hcalls (completion_ptTransferDataComplete _ _ _ _ _)

theorem withPool (h : Inv done s) {pool : Pool Nat} (haccounts : pool.Accounts (owned s))
    : Inv done { s with pool := pool } where
  accounts := haccounts
  handle := h.handle
  calls := h.calls
  callsNodup := h.callsNodup
  inList := h.inList
  apart := by
    intro packet hbelow hin
    have hkeys := (haccounts.perm.trans h.accounts.perm.symm).map Prod.fst
    exact h.apart packet hbelow (hkeys.mem_iff.mp hin)

theorem ptReceive (h : Inv none s) (ind : Indication) {received : Option (Nat × (Nat → UInt8))}
    (hfresh : ∀ address iBuffer, received = some (address, iBuffer) → Fresh s address) (buffer : Bool)
    : Inv none (ptReceive s ind received buffer).state := by
  rw [Descriptors.ptReceive.eq_def]
  split
  . exact h
  next hready =>
  split
  . exact h
  split
  . exact h
  split
  . exact h
  next address iBuffer =>
  obtain ⟨hunused, hbelow, -⟩ := hfresh address iBuffer rfl
  have haccounts := h.accounts.alloc hunused
  dsimp only
  split
  . exact h.withPool haccounts.free
  . have hattached := haccounts.attach
    constructor
    . exact hattached
    . simp only [Bool.or_eq_true, Bool.not_eq_true', not_or, Bool.not_eq_false] at hready
      exact .inl hready.1
    . intro call hcall
      rcases List.mem_cons.mp hcall with rfl | hcall
      . exact ⟨_, List.mem_cons_self, rfl, rfl⟩
      . obtain ⟨q, hq, hqa, hsuccess⟩ := h.calls call hcall
        exact ⟨q, List.mem_cons_of_mem _ hq, hqa, hsuccess⟩
    . rw [List.map_cons, List.nodup_cons]
      refine ⟨?_, h.callsNodup⟩
      intro hcall
      obtain ⟨call, hmem, hca⟩ := List.mem_map.mp hcall
      obtain ⟨q, hq, hqa, -⟩ := h.calls call hmem
      have hobject := h.mem_objects hq
      rw [hqa.trans hca] at hobject
      exact hunused hobject
    . intro q hq
      rcases List.mem_cons.mp hq with rfl | hq
      . exact .inr (.inl List.mem_cons_self)
      . rcases h.inList q hq with hstatus | hcall | hdone
        . exact .inl hstatus
        . exact .inr (.inl (List.mem_cons_of_mem _ hcall))
        . cases hdone
    . intro packet hpacket hin
      rw [Pool.keys_attach] at hin
      rcases List.mem_cons.mp hin with rfl | hin
      . exact hbelow hpacket
      . exact h.apart packet hpacket hin

theorem endCall (h : Inv none s) {call : Nat × Indication} (hcall : call ∈ s.calls)
    : let s' := { s with calls := s.calls.eraseP fun other => other.1 = call.1 }
      Inv (some call.1) s' ∧ call.1 ∉ s'.calls.map Prod.fst := by
  obtain ⟨other, before, behind, -, hother, hlist, herase⟩ :=
    List.exists_of_eraseP (p := fun other => decide (other.1 = call.1)) hcall (by simp)
  have hother : other.1 = call.1 := by simpa using hother
  have hsub : ∀ c ∈ before ++ behind, c ∈ s.calls := by
    intro c hc
    rw [hlist]
    simp only [List.mem_append, List.mem_cons] at hc ⊢
    tauto
  have hnodup := h.callsNodup
  rw [hlist, List.map_append, List.map_cons, List.nodup_middle, ← List.map_append] at hnodup
  obtain ⟨hnot, hnodup⟩ := List.nodup_cons.mp hnodup
  dsimp only
  rw [herase]
  refine ⟨⟨h.accounts, ?_, fun c hc => h.calls c (hsub c hc), hnodup, ?_, h.apart⟩, hother ▸ hnot⟩
  . refine .inl (h.handle.resolve_right ?_)
    rintro ⟨-, hnil, -⟩
    rw [hnil] at hcall
    exact List.not_mem_nil hcall
  . intro q hq
    rcases h.inList q hq with hstatus | hin | hdone
    . exact .inl hstatus
    . rw [hlist, List.map_append, List.map_cons, List.mem_append, List.mem_cons, or_left_comm,
        ← List.mem_append, ← List.map_append] at hin
      rcases hin with heq | hin
      . exact .inr (.inr (congrArg some (hother.symm.trans heq.symm)))
      . exact .inr (.inl hin)
    . cases hdone

/--
The residual's buffer is chained to the packet in the list, and NDIS fills it.
-/
theorem transfer (h : Inv (some packet) s) (hnot : packet ∉ s.calls.map Prod.fst)
    {pHKPacket : NdishkPacket} (hmem : pHKPacket ∈ s.adapter.pendingTransfertData)
    (haddress : pHKPacket.address = packet) (ind : Indication) (transfer : Transfer)
    : Inv (some packet) { s with
        pool := s.pool.attach packet
        adapter := { s.adapter with
          pendingTransfertData := s.adapter.pendingTransfertData.map fun pHKPacket =>
            if pHKPacket.address = packet then transferData ind transfer pHKPacket else pHKPacket } } := by
  let transferred (p : NdishkPacket) : NdishkPacket :=
    if p.address = packet then transferData ind transfer p else p
  have htransferred : ∀ p, (transferred p).address = p.address := by
    intro p
    simp only [transferred]
    split <;> rfl
  have hself : listed (transferred pHKPacket) = (packet, pHKPacket.chain.length + 1) := by
    simp only [transferred, if_pos haddress]
    exact Prod.ext haddress rfl
  obtain ⟨before, behind, hlist⟩ := List.append_of_mem hmem
  have hother : ∀ q ∈ before ++ behind, transferred q = q := by
    have hnodup := h.nodup_addresses
    rw [hlist, List.map_append, List.map_cons, List.nodup_middle, ← List.map_append] at hnodup
    intro q hq
    apply if_neg
    intro hqa
    apply (List.nodup_cons.mp hnodup).1
    rw [haddress, ← hqa]
    exact List.mem_map_of_mem hq
  have hlist' : s.adapter.pendingTransfertData.map transferred =
      before ++ transferred pHKPacket :: behind := by
    have hbefore := List.map_congr_left fun q hq => hother q (List.mem_append_left behind hq)
    have hbehind := List.map_congr_left fun q hq => hother q (List.mem_append_right before hq)
    rw [hlist, List.map_append, List.map_cons, hbefore, hbehind, List.map_id', List.map_id']
  have haccounts := h.accounts.reorder (owned_perm hlist)
  rw [listed, haddress] at haccounts
  have hperm := owned_perm (s := { s with
    pool := s.pool.attach packet
    adapter := { s.adapter with
      pendingTransfertData := s.adapter.pendingTransfertData.map transferred } }) hlist'
  rw [hself] at hperm
  constructor
  . exact haccounts.attach.reorder hperm.symm
  . refine .inl (h.handle.resolve_right ?_)
    rintro ⟨hnil, -⟩
    rw [hnil] at hmem
    exact List.not_mem_nil hmem
  . intro call hcall
    obtain ⟨q, hq, hqa, hsuccess⟩ := h.calls call hcall
    have hne : q.address ≠ packet := by
      rintro rfl
      exact hnot (List.mem_map.mpr ⟨call, hcall, hqa.symm⟩)
    exact ⟨q, List.mem_map.mpr ⟨q, hq, if_neg hne⟩, hqa, hsuccess⟩
  . exact h.callsNodup
  . intro p hp
    obtain ⟨q, hq, rfl⟩ := List.mem_map.mp hp
    by_cases hqa : q.address = packet
    . exact .inr (.inr (congrArg some (hqa.symm.trans (htransferred q).symm)))
    . rw [if_neg hqa]
      exact h.inList q hq
  . intro other hother hin
    rw [Pool.keys_attach] at hin
    exact h.apart other hother hin

theorem finish (h : Inv (some packet) s)
    (hpending : ∀ p ∈ s.adapter.pendingTransfertData, p.address = packet →
      p.nTransferDataStatus = NtStatus.pending) : Inv none s := by
  refine { h with inList := ?_ }
  intro q hq
  rcases h.inList q hq with hstatus | hin | hdone
  . exact .inl hstatus
  . exact .inr (.inl hin)
  . exact .inl (hpending q hq (Option.some.inj hdone).symm)

theorem ptReceiveEnd (h : Inv none s) {address : Nat} {ind : Indication} (hcall : (address, ind) ∈ s.calls)
    (residualBuffer : Bool) (transfer : Transfer) (memory : Option (Nat → UInt8))
    : Inv none (ptReceiveEnd s address ind residualBuffer transfer memory).state := by
  obtain ⟨hended, hnot⟩ := h.endCall hcall
  obtain ⟨pHKPacket, hmem, haddress, -⟩ := h.calls _ hcall
  rw [Descriptors.ptReceiveEnd]
  split
  . exact hended.complete hnot (completion_ptTransferDataComplete _ _ _ _ _)
  split
  . obtain ⟨other, before, behind, -, hother, hlist, herase⟩ :=
      List.exists_of_eraseP (p := fun p => decide (p.address = address)) hmem (by simpa using haddress)
    have hown := Completion.own (s := { s with calls := s.calls.eraseP fun other => other.1 = address })
      before other behind hlist (by simpa using hother)
    rw [← herase] at hown
    exact hended.complete hnot hown
  . have htransfer := hended.transfer hnot hmem haddress ind transfer
    dsimp only
    split
    . exact htransfer.complete hnot (completion_ptTransferDataComplete _ _ _ _ _)
    . next hpending =>
      apply htransfer.finish
      intro p hp hpa
      obtain ⟨q, -, rfl⟩ := List.mem_map.mp hp
      split at hpa
      . next hqa =>
        rw [if_pos hqa]
        exact not_not.mp hpending
      . next hqa => exact absurd hpa hqa

theorem mpTransferData (h : Inv none s) (hhandle : s.adapter.miniportHandle = true)
    (hfresh : Fresh s packet) (status : NtStatus) : Inv none (mpTransferData s packet status).1 := by
  rw [Descriptors.mpTransferData]
  split
  . exact h
  split
  . refine { h with handle := .inl hhandle, apart := ?_ }
    intro other hother
    rcases List.mem_cons.mp hother with rfl | hother
    . exact hfresh.1
    . exact h.apart other hother
  . exact h

theorem ufSendPacketToProtocol (h : Inv none s) {sent : Option Nat}
    (hfresh : ∀ packet, sent = some packet → Fresh s packet) (allocateBuffer : Bool)
    : Inv none (ufSendPacketToProtocol s sent allocateBuffer) := by
  rw [Descriptors.ufSendPacketToProtocol.eq_def]
  split
  . split
    . exact h
    . next packet =>
      have haccounts := h.accounts.alloc (hfresh packet rfl).1
      dsimp only
      split
      . exact h.withPool haccounts.free
      . exact h.withPool haccounts.attach.free
  . exact h

theorem ufSendPacketToAdapter (h : Inv none s) (bufferSize : Nat) {sent : Option Nat}
    (hfresh : ∀ packet, sent = some packet → Fresh s packet) (allocateBuffer : Bool) (ndisSend : NtStatus)
    : Inv none (ufSendPacketToAdapter s bufferSize sent allocateBuffer ndisSend) := by
  rw [Descriptors.ufSendPacketToAdapter.eq_def]
  split
  . split
    . exact h
    split
    . exact h
    . next packet =>
      obtain ⟨hunused, hbelow, -⟩ := hfresh packet rfl
      have haccounts := h.accounts.alloc hunused
      dsimp only
      split
      . exact h.withPool haccounts.free
      split
      . exact h.withPool haccounts.attach.free
      . refine ⟨haccounts.attach.reorder List.perm_middle.symm, h.handle, h.calls, h.callsNodup, h.inList, ?_⟩
        intro other hother hin
        rw [Pool.keys_attach] at hin
        rcases List.mem_cons.mp hin with rfl | hin
        . exact hbelow hother
        . exact h.apart other hother hin
  . exact h

theorem ptSendComplete (h : Inv none s) (hsent : packet ∈ s.sends) : Inv none (ptSendComplete s packet) := by
  have hperm : (owned s).Perm ((packet, 1) :: owned { s with sends := s.sends.erase packet }) := by
    have hsends := (List.perm_cons_erase hsent).map fun p => (p, 1)
    exact (hsends.append_left _).trans List.perm_middle
  have haccounts := (h.accounts.reorder hperm).free
  refine ⟨haccounts, h.handle, h.calls, h.callsNodup, h.inList, ?_⟩
  intro other hother hin
  obtain ⟨object, hobject, rfl⟩ := List.mem_map.mp hin
  exact h.apart _ hother (List.mem_map_of_mem (Pool.mem_of_mem_free hobject))

theorem step (h : Inv none s) {e : Event} (he : Allowed s e) : Inv none (step s e) := by
  cases e with
  | mpInitialize => exact { h with handle := .inl rfl }
  | power mpDeviceStateD0 ptDeviceStateD0 => exact { h with }
  | ptUnbindAdapter => exact { h with }
  | ptReceive ind packet buffer => exact h.ptReceive ind he buffer
  | ptReceiveEnd address ind residualBuffer transfer memory =>
    exact h.ptReceiveEnd he residualBuffer transfer memory
  | ndisTransferDataComplete packet transfer memory => exact h.ndisTransferDataComplete memory he.2
  | mpTransferData packet status => exact h.mpTransferData he.1 he.2 status
  | ufSendPacketToProtocol packet allocateBuffer => exact h.ufSendPacketToProtocol he allocateBuffer
  | ufSendPacketToAdapter bufferSize packet allocateBuffer ndisSend =>
    exact h.ufSendPacketToAdapter bufferSize he allocateBuffer ndisSend
  | ptSendComplete packet => exact h.ptSendComplete he

end Inv

theorem inv_run (localAddress currentAddress : List UInt8) (mediumWan : Bool) {es : List Event}
    (hes : Run.Along step Allowed (init localAddress currentAddress mediumWan) es)
    : Inv none (Run.run step (init localAddress currentAddress mediumWan) es) := by
  have hstep : ∀ s e, Inv none s → Allowed s e → Inv none (step s e) := fun _ _ hs he => hs.step he
  exact Run.inv_run hstep (inv_init localAddress currentAddress mediumWan) hes

theorem parts_owned (s : State)
    : ((owned s).map Prod.snd).sum =
      (s.adapter.pendingTransfertData.map fun pHKPacket => pHKPacket.chain.length).sum + s.sends.length := by
  have hsends : ((s.sends.map fun packet => (packet, 1)).map Prod.snd).sum = s.sends.length := by
    rw [List.map_map, List.sum_eq_card_nsmul _ 1 (by simp)]
    simp
  rw [owned, List.map_append, List.sum_append, hsends, List.map_map]
  rfl

theorem packets_owned (s : State)
    : (owned s).map Prod.fst = s.adapter.pendingTransfertData.map NdishkPacket.address ++ s.sends := by
  rw [owned, List.map_append, List.map_map, List.map_map]
  exact congrArg _ (List.map_id' s.sends)

/--
The packets in use are those of the list and those NDIS has kept to send, and with no call of `PtReceive`,
no transfer and no send under way nothing is in use.
-/
theorem descriptors_run (localAddress currentAddress : List UInt8) (mediumWan : Bool) {es : List Event}
    (hes : Run.Along step Allowed (init localAddress currentAddress mediumWan) es)
    : let s := Run.run step (init localAddress currentAddress mediumWan) es
      s.pool.fault = false ∧
      (s.pool.objects.map Prod.fst).Nodup ∧
      (s.pool.objects.map Prod.fst).Perm
        (s.adapter.pendingTransfertData.map NdishkPacket.address ++ s.sends) ∧
      s.pool.parts =
        (s.adapter.pendingTransfertData.map fun pHKPacket => pHKPacket.chain.length).sum + s.sends.length ∧
      (s.calls = [] → s.sends = [] → (∀ packet, ¬OwnPending s packet) →
        s.pool.objects = [] ∧ s.pool.parts = 0) := by
  have hinv := inv_run localAddress currentAddress mediumWan hes
  dsimp only
  generalize Run.run step (init localAddress currentAddress mediumWan) es = s at hinv ⊢
  have hkeys := hinv.accounts.perm.map Prod.fst
  have hparts := hinv.accounts.parts.trans (parts_owned s)
  refine ⟨hinv.accounts.fault, hkeys.nodup_iff.mpr hinv.accounts.nodup, packets_owned s ▸ hkeys, hparts, ?_⟩
  intro hcalls hsends hidle
  have hlist : s.adapter.pendingTransfertData = [] := by
    apply List.eq_nil_iff_forall_not_mem.mpr
    intro pHKPacket hmem
    rcases hinv.inList pHKPacket hmem with hpending | hcall | hdone
    . exact hidle pHKPacket.address ⟨pHKPacket, hmem, rfl, hpending⟩
    . rw [hcalls] at hcall
      exact List.not_mem_nil hcall
    . cases hdone
  have howned : owned s = [] := by rw [owned, hlist, hsends]; rfl
  constructor
  . exact (howned ▸ hinv.accounts.perm).eq_nil
  . rw [hparts, hlist, hsends]
    rfl

/-- A frame of which the adapter below shows half the data. -/
def splitFrame : Indication := ⟨List.replicate 14 0, List.replicate 60 5, 30⟩

-- The residual of the frame comes later, and a packet is sent in the meantime.
def overlapping : List Event :=
  [.mpInitialize, .ptReceive splitFrame (some (7, fun _ => 0)) true,
    .ptReceiveEnd 7 splitFrame true ⟨NtStatus.pending, []⟩ none,
    .ufSendPacketToAdapter 60 (some 8) true NtStatus.pending,
    .ndisTransferDataComplete 7 ⟨NtStatus.success, List.replicate 30 5⟩ none, .ptSendComplete 8]

theorem descriptors_overlapping
    : (Run.run step (init [] (List.replicate 6 1) false) overlapping).pool.objects = [] ∧
      (Run.run step (init [] (List.replicate 6 1) false) overlapping).pool.parts = 0 := by
  have hes : Run.Along step Allowed (init [] (List.replicate 6 1) false) overlapping := by
    refine ⟨trivial, ?_, List.mem_cons_self, ?_, ⟨by decide, .inr ?_⟩, List.mem_cons_self, trivial⟩
    . rintro _ _ ⟨rfl⟩
      exact ⟨by decide, by decide, by decide⟩
    . rintro _ ⟨rfl⟩
      exact ⟨by decide, by decide, by decide⟩
    . exact ⟨_, List.mem_cons_self, rfl, rfl⟩
  obtain ⟨-, -, -, -, hidle⟩ := descriptors_run [] (List.replicate 6 1) false hes
  exact hidle rfl rfl nofun

end Ansfltr.Descriptors
