import Ndisrd.Ansfltr.Descriptors.Ledger

/-!
This module contains when a protocol above is told that its transfer has ended. `PtTransferDataComplete`
takes a completion for one of this driver as soon as a packet of this driver is in the list.
-/

namespace Ansfltr.Descriptors

open State

/--
Each transfer that a protocol above waits for is still under way below.
-/
def Informed (s : State) : Prop := s.waiting ⊆ s.below

/-- A transfer of a protocol above ends while none of this driver is in the list. -/
def Timely (s : State) : Event → Prop
  | .ndisTransferDataComplete packet _ _ => packet ∈ s.below → s.adapter.pendingTransfertData = []
  | _ => True

namespace Completion

variable {s s' : State} {packet : Nat}

theorem below_eq (h : Completion s packet s') : s'.below = s.below := by
  cases h with
  | noInstance => rfl
  | passed => rfl
  | dropped => rfl
  | own => rfl

theorem waiting_of_listed (h : Completion s packet s') (hlist : s.adapter.pendingTransfertData ≠ [])
    : s'.waiting = s.waiting := by
  cases h with
  | noInstance => rfl
  | passed hempty => exact absurd hempty hlist
  | dropped => rfl
  | own => rfl

theorem waiting_of_empty (h : Completion s packet s') (hlist : s.adapter.pendingTransfertData = [])
    (hhandle : s.adapter.miniportHandle = true) : s'.waiting = s.waiting.erase packet := by
  cases h with
  | noInstance hnone =>
    rw [hhandle] at hnone
    cases hnone
  | passed => rfl
  | dropped hpending => exact absurd hlist hpending
  | own before pHKPacket behind hown =>
    rw [hlist] at hown
    exact absurd hown.symm (by simp)

end Completion

structure TransferInv (s : State) : Prop where
  inv : Inv none s
  belowNodup : s.below.Nodup
  waitingNodup : s.waiting.Nodup
  subset : s.below ⊆ s.waiting

namespace TransferInv

variable {s : State}

theorem of_eq (h : TransferInv s) {s' : State} (hinv : Inv none s') (hbelow : s'.below = s.below)
    (hwaiting : s'.waiting = s.waiting) : TransferInv s' where
  inv := hinv
  belowNodup := hbelow ▸ h.belowNodup
  waitingNodup := hwaiting ▸ h.waitingNodup
  subset := by
    rw [hbelow, hwaiting]
    exact h.subset

/--
A completion that NDIS brings.
-/
theorem ndisTransferDataComplete (h : TransferInv s) {packet : Nat} (transfer : Transfer)
    (memory : Option (Nat → UInt8)) (hpacket : packet ∈ s.below ∨ OwnPending s packet)
    : let s' := (ndisTransferDataComplete s packet transfer memory).state
      s'.below = s.below.erase packet ∧
        s'.waiting = if packet ∈ s.below ∧ s.adapter.pendingTransfertData = [] then
          s.waiting.erase packet else s.waiting := by
  have hcompletion := completion_ptTransferDataComplete { s with
    adapter := fillPending s.adapter packet transfer.bytes
    below := s.below.erase packet } packet transfer.status transfer.bytes.length memory
  refine ⟨hcompletion.below_eq, ?_⟩
  split
  . next hpassed =>
    apply hcompletion.waiting_of_empty
    . simp [fillPending, hpassed.2]
    . refine h.inv.handle.resolve_right ?_
      rintro ⟨-, -, hnone⟩
      rw [hnone] at hpassed
      exact List.not_mem_nil hpassed.1
  . next hkept =>
    apply hcompletion.waiting_of_listed
    intro hempty
    have hlist : s.adapter.pendingTransfertData = [] := by simpa [fillPending] using hempty
    rcases hpacket with hbelow | ⟨pHKPacket, hmem, -⟩
    . exact hkept ⟨hbelow, hlist⟩
    . rw [hlist] at hmem
      exact List.not_mem_nil hmem

theorem transfers_ptReceiveEnd (h : TransferInv s) {address : Nat} {ind : Indication}
    (hcall : (address, ind) ∈ s.calls) (residualBuffer : Bool) (transfer : Transfer)
    (memory : Option (Nat → UInt8))
    : let s' := (ptReceiveEnd s address ind residualBuffer transfer memory).state
      s'.below = s.below ∧ s'.waiting = s.waiting := by
  obtain ⟨pHKPacket, hmem, -⟩ := h.inv.calls _ hcall
  have hlist := List.ne_nil_of_mem hmem
  dsimp only
  rw [ptReceiveEnd]
  split
  . have hcompletion := completion_ptTransferDataComplete { s with
      calls := s.calls.eraseP fun call => call.1 = address } address NtStatus.success 0 memory
    exact ⟨hcompletion.below_eq, hcompletion.waiting_of_listed hlist⟩
  split
  . exact ⟨rfl, rfl⟩
  dsimp only
  split
  . constructor
    . exact (completion_ptTransferDataComplete _ _ _ _ _).below_eq
    . apply (completion_ptTransferDataComplete _ _ _ _ _).waiting_of_listed
      simpa using hlist
  . exact ⟨rfl, rfl⟩

theorem transfers_ptReceive (ind : Indication) (packet : Option (Nat × (Nat → UInt8))) (buffer : Bool)
    : (ptReceive s ind packet buffer).state.below = s.below ∧
      (ptReceive s ind packet buffer).state.waiting = s.waiting := by
  rw [ptReceive.eq_def]
  split
  . exact ⟨rfl, rfl⟩
  split
  . exact ⟨rfl, rfl⟩
  split
  . exact ⟨rfl, rfl⟩
  split
  . exact ⟨rfl, rfl⟩
  dsimp only
  split
  . exact ⟨rfl, rfl⟩
  . exact ⟨rfl, rfl⟩

theorem transfers_ufSendPacketToProtocol (packet : Option Nat) (allocateBuffer : Bool)
    : (ufSendPacketToProtocol s packet allocateBuffer).below = s.below ∧
      (ufSendPacketToProtocol s packet allocateBuffer).waiting = s.waiting := by
  rw [ufSendPacketToProtocol.eq_def]
  split
  . split
    . exact ⟨rfl, rfl⟩
    . dsimp only
      split <;> exact ⟨rfl, rfl⟩
  . exact ⟨rfl, rfl⟩

theorem transfers_ufSendPacketToAdapter (bufferSize : Nat) (packet : Option Nat) (allocateBuffer : Bool)
    (ndisSend : NtStatus)
    : (ufSendPacketToAdapter s bufferSize packet allocateBuffer ndisSend).below = s.below ∧
      (ufSendPacketToAdapter s bufferSize packet allocateBuffer ndisSend).waiting = s.waiting := by
  rw [ufSendPacketToAdapter.eq_def]
  split
  . split
    . exact ⟨rfl, rfl⟩
    split
    . exact ⟨rfl, rfl⟩
    . dsimp only
      split
      . exact ⟨rfl, rfl⟩
      split <;> exact ⟨rfl, rfl⟩
  . exact ⟨rfl, rfl⟩

/--
What a step does to the transfers of the protocols above.
-/
inductive TransferStep (s : State) (e : Event) : State → Prop where
  | same {s' : State} (hbelow : s'.below = s.below) (hwaiting : s'.waiting = s.waiting)
    (htimely : Timely s e) : TransferStep s e s'
  | started {s' : State} (packet : Nat) (hnew : packet ∉ s.below ∧ packet ∉ s.waiting)
    (hbelow : s'.below = packet :: s.below) (hwaiting : s'.waiting = packet :: s.waiting)
    (htimely : Timely s e) : TransferStep s e s'
  | ended {s' : State} (packet : Nat) (hpacket : packet ∈ s.below)
    (hbelow : s'.below = s.below.erase packet) (hwaiting : s'.waiting = s.waiting.erase packet)
    (htimely : Timely s e) : TransferStep s e s'
  | lost {s' : State} (packet : Nat) (hpacket : packet ∈ s.below)
    (hbelow : s'.below = s.below.erase packet) (hwaiting : s'.waiting = s.waiting)
    (htimely : ¬Timely s e) : TransferStep s e s'

theorem transferStep_step (h : TransferInv s) {e : Event} (he : Allowed s e)
    : TransferStep s e (step s e) := by
  cases e with
  | mpInitialize => exact .same rfl rfl trivial
  | power mpDeviceStateD0 ptDeviceStateD0 => exact .same rfl rfl trivial
  | ptUnbindAdapter => exact .same rfl rfl trivial
  | ptReceive ind packet buffer =>
    obtain ⟨hbelow, hwaiting⟩ := transfers_ptReceive (s := s) ind packet buffer
    exact .same hbelow hwaiting trivial
  | ptReceiveEnd address ind residualBuffer transfer memory =>
    obtain ⟨hbelow, hwaiting⟩ := h.transfers_ptReceiveEnd he residualBuffer transfer memory
    exact .same hbelow hwaiting trivial
  | ndisTransferDataComplete packet transfer memory =>
    obtain ⟨hbelow, hwaiting⟩ := h.ndisTransferDataComplete transfer memory he.2
    by_cases hpacket : packet ∈ s.below
    . by_cases hlist : s.adapter.pendingTransfertData = []
      . rw [if_pos ⟨hpacket, hlist⟩] at hwaiting
        exact .ended packet hpacket hbelow hwaiting fun _ => hlist
      . rw [if_neg fun hboth => hlist hboth.2] at hwaiting
        exact .lost packet hpacket hbelow hwaiting fun htimely => hlist (htimely hpacket)
    . rw [if_neg fun hboth => hpacket hboth.1] at hwaiting
      rw [List.erase_of_not_mem hpacket] at hbelow
      exact .same hbelow hwaiting fun hin => absurd hin hpacket
  | mpTransferData packet status =>
    have hnew := he.2.2
    rw [step, mpTransferData]
    split
    . exact .same rfl rfl trivial
    split
    . exact .started packet hnew rfl rfl trivial
    . exact .same rfl rfl trivial
  | ufSendPacketToProtocol packet allocateBuffer =>
    obtain ⟨hbelow, hwaiting⟩ := transfers_ufSendPacketToProtocol (s := s) packet allocateBuffer
    exact .same hbelow hwaiting trivial
  | ufSendPacketToAdapter bufferSize packet allocateBuffer ndisSend =>
    obtain ⟨hbelow, hwaiting⟩ :=
      transfers_ufSendPacketToAdapter (s := s) bufferSize packet allocateBuffer ndisSend
    exact .same hbelow hwaiting trivial
  | ptSendComplete packet => exact .same rfl rfl trivial

theorem step (h : TransferInv s) {e : Event} (he : Allowed s e) : TransferInv (step s e) := by
  have hinv := h.inv.step he
  cases h.transferStep_step he with
  | same hbelow hwaiting => exact h.of_eq hinv hbelow hwaiting
  | started packet hnew hbelow hwaiting =>
    refine ⟨hinv, ?_, ?_, ?_⟩
    . exact hbelow ▸ List.nodup_cons.mpr ⟨hnew.1, h.belowNodup⟩
    . exact hwaiting ▸ List.nodup_cons.mpr ⟨hnew.2, h.waitingNodup⟩
    . rw [hbelow, hwaiting]
      exact List.cons_subset_cons packet h.subset
  | ended packet hpacket hbelow hwaiting =>
    refine ⟨hinv, hbelow ▸ h.belowNodup.erase packet, hwaiting ▸ h.waitingNodup.erase packet, ?_⟩
    intro other hother
    rw [hbelow, h.belowNodup.mem_erase_iff] at hother
    rw [hwaiting, h.waitingNodup.mem_erase_iff]
    exact ⟨hother.1, h.subset hother.2⟩
  | lost packet hpacket hbelow hwaiting =>
    refine ⟨hinv, hbelow ▸ h.belowNodup.erase packet, hwaiting ▸ h.waitingNodup, ?_⟩
    rw [hbelow, hwaiting]
    exact List.Subset.trans (List.erase_subset (a := packet)) h.subset

theorem informed_step_iff (h : TransferInv s) {e : Event} (he : Allowed s e) (hinformed : Informed s)
    : Informed (Descriptors.step s e) ↔ Timely s e := by
  cases h.transferStep_step he with
  | same hbelow hwaiting htimely =>
    refine iff_of_true ?_ htimely
    rw [Informed, hbelow, hwaiting]
    exact hinformed
  | started packet hnew hbelow hwaiting htimely =>
    refine iff_of_true ?_ htimely
    rw [Informed, hbelow, hwaiting]
    exact List.cons_subset_cons packet hinformed
  | ended packet hpacket hbelow hwaiting htimely =>
    refine iff_of_true ?_ htimely
    intro other hother
    rw [hwaiting, h.waitingNodup.mem_erase_iff] at hother
    rw [hbelow, h.belowNodup.mem_erase_iff]
    exact ⟨hother.1, hinformed hother.2⟩
  | lost packet hpacket hbelow hwaiting htimely =>
    refine iff_of_false ?_ htimely
    rw [Informed, hbelow, hwaiting]
    intro hsubset
    exact h.belowNodup.not_mem_erase (hsubset (h.subset hpacket))

end TransferInv

theorem transferInv_init (localAddress currentAddress : List UInt8) (mediumWan : Bool)
    : TransferInv (init localAddress currentAddress mediumWan) where
  inv := inv_init localAddress currentAddress mediumWan
  belowNodup := List.nodup_nil
  waitingNodup := List.nodup_nil
  subset := List.Subset.refl []

/--
The protocols above are told of the end of each of their transfers exactly in the runs in which none of
these ends while a packet of this driver is in the list.
-/
theorem informed_run_iff (localAddress currentAddress : List UInt8) (mediumWan : Bool) {es : List Event}
    (hes : Run.Along step Allowed (init localAddress currentAddress mediumWan) es)
    : Run.Along step (fun s e => Informed (step s e)) (init localAddress currentAddress mediumWan) es ↔
      Run.Along step Timely (init localAddress currentAddress mediumWan) es := by
  have hstep : ∀ s e, TransferInv s → Allowed s e → TransferInv (step s e) := fun _ _ hs he => hs.step he
  have hpost : ∀ s e, TransferInv s → Allowed s e → Informed s → (Informed (step s e) ↔ Timely s e) :=
    fun _ _ hs he hinformed => hs.informed_step_iff he hinformed
  exact Run.along_post_iff hstep hpost (transferInv_init localAddress currentAddress mediumWan)
    (List.Subset.refl []) hes

/-- A transfer of a protocol above, begun and ended with no frame in between. -/
def transferAbove : List Event :=
  [.mpInitialize, .mpTransferData 9 NtStatus.pending,
    .ndisTransferDataComplete 9 ⟨NtStatus.success, []⟩ none]

theorem informed_transferAbove
    : Run.Along step (fun s e => Informed (step s e)) (init [] (List.replicate 6 1) false)
        transferAbove := by
  have hes : Run.Along step Allowed (init [] (List.replicate 6 1) false) transferAbove := by
    refine ⟨trivial, ⟨rfl, by decide, by decide, by decide⟩, ⟨by decide, .inl List.mem_cons_self⟩, trivial⟩
  refine (informed_run_iff [] (List.replicate 6 1) false hes).mpr ?_
  exact ⟨trivial, trivial, fun _ => rfl, trivial⟩

-- A frame comes in between whose residual is still to come.
def transferOverlapped : List Event :=
  [.mpInitialize, .mpTransferData 9 NtStatus.pending, .ptReceive splitFrame (some (7, fun _ => 0)) true,
    .ptReceiveEnd 7 splitFrame true ⟨NtStatus.pending, []⟩ none,
    .ndisTransferDataComplete 9 ⟨NtStatus.success, []⟩ none]

example : (Run.run step (init [] (List.replicate 6 1) false) transferOverlapped).waiting = [9] := by decide

end Ansfltr.Descriptors
