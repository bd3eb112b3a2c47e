import Ndisrd.Shared.Basic

/-!
This module contains `SendPacket` of both platforms: what it returns, and whether it comes to the call
that hands the packet to NDIS.
-/

namespace Ansfltr

structure Sent where
  status : NtStatus
  -- `NdisFSendNetBufferLists` and `NdisFIndicateReceiveNetBufferLists`, `NdisSend` and
  -- `NdisMIndicateReceivePacket`
  handed : Bool

namespace Vista

structure FltModuleContext where
  -- zero for `NULL`
  filterHandle : Nat

def sendPacket (pAdapter : Option FltModuleContext) : Sent :=
  let filterHandle := pAdapter.elim 0 FltModuleContext.filterHandle
  if filterHandle ≠ 0 then
    ⟨NtStatus.success, true⟩
  else
    ⟨NtStatus.invalidParameter, false⟩

end Vista

namespace Nt

structure AdapterEntry where
  mpDeviceStateD0 : Bool
  unbindingInProcess : Bool

/--
A packet, with what `NdisAllocatePacket`, `NdisAllocateBuffer` and `NdisSend` have for it.
-/
structure Packet where
  pAdapter : Option AdapterEntry
  direction : Direction
  bufferSize : Nat
  allocatePacket : Bool
  allocateBuffer : Bool
  ndisSend : NtStatus

def ufSendPacketToProtocol (pPacket : Packet) (pAdapter : AdapterEntry) : Sent :=
  if pAdapter.mpDeviceStateD0 && !pAdapter.unbindingInProcess then
    if !pPacket.allocatePacket then
      ⟨NtStatus.insufficientResources, false⟩
    else if !pPacket.allocateBuffer then
      ⟨NtStatus.insufficientResources, false⟩
    else
      ⟨NtStatus.success, true⟩
  else
    ⟨NtStatus.notFound, false⟩

def ufSendPacketToAdapter (pPacket : Packet) (pAdapter : AdapterEntry) : Sent :=
  if pAdapter.mpDeviceStateD0 && !pAdapter.unbindingInProcess then
    if !(decide (pPacket.bufferSize ≤ maxEtherSize) && decide (0 < pPacket.bufferSize)) then
      ⟨NtStatus.bufferOverflow, false⟩
    else if !pPacket.allocatePacket then
      ⟨NtStatus.insufficientResources, false⟩
    else if !pPacket.allocateBuffer then
      ⟨NtStatus.insufficientResources, false⟩
    else if pPacket.ndisSend ≠ NtStatus.pending then
      ⟨pPacket.ndisSend, true⟩
    else
      ⟨NtStatus.success, true⟩
  else
    ⟨NtStatus.notFound, false⟩

def sendPacket (pPacket : Packet) : Sent :=
  match pPacket.pAdapter with
  | none => ⟨NtStatus.unsuccessful, false⟩
  | some pAdapter =>
    match pPacket.direction with
    | .inbound => ufSendPacketToProtocol pPacket pAdapter
    | .out => ufSendPacketToAdapter pPacket pAdapter

end Nt

inductive SendState where
  | vista (pAdapter : Option Vista.FltModuleContext)
  | nt (pPacket : Nt.Packet)

def sendPacket : SendState → Sent
  | .vista pAdapter => Vista.sendPacket pAdapter
  | .nt pPacket => Nt.sendPacket pPacket

/-! ### When the packet gets to NDIS -/

def Nt.Packet.FitsAdapter (pPacket : Nt.Packet) : Prop :=
  0 < pPacket.bufferSize ∧ pPacket.bufferSize ≤ maxEtherSize

/--
The adapter is there, powered and bound, the resources are, and the packet is one that it takes.
-/
def SendState.Open : SendState → Prop
  | .vista pAdapter => ∃ a, pAdapter = some a ∧ a.filterHandle ≠ 0
  | .nt pPacket =>
    (∃ a, pPacket.pAdapter = some a ∧ a.mpDeviceStateD0 = true ∧ a.unbindingInProcess = false) ∧
      pPacket.allocatePacket = true ∧ pPacket.allocateBuffer = true ∧
      (pPacket.direction = .out → pPacket.FitsAdapter)

theorem Vista.handed_sendPacket_iff (pAdapter : Option FltModuleContext)
    : (sendPacket pAdapter).handed = true ↔ ∃ a, pAdapter = some a ∧ a.filterHandle ≠ 0 := by
  cases pAdapter with
  | none => simp [sendPacket]
  | some a =>
    by_cases hhandle : a.filterHandle = 0
    . simp [sendPacket, hhandle]
    . simp [sendPacket, hhandle]

theorem Nt.handed_ufSendPacketToProtocol_iff (pPacket : Packet) (pAdapter : AdapterEntry)
    : (ufSendPacketToProtocol pPacket pAdapter).handed = true ↔
        (pAdapter.mpDeviceStateD0 = true ∧ pAdapter.unbindingInProcess = false) ∧
          pPacket.allocatePacket = true ∧ pPacket.allocateBuffer = true := by
  unfold ufSendPacketToProtocol
  repeat' split
  all_goals simp_all

theorem Nt.handed_ufSendPacketToAdapter_iff (pPacket : Packet) (pAdapter : AdapterEntry)
    : (ufSendPacketToAdapter pPacket pAdapter).handed = true ↔
        (pAdapter.mpDeviceStateD0 = true ∧ pAdapter.unbindingInProcess = false) ∧
          pPacket.allocatePacket = true ∧ pPacket.allocateBuffer = true ∧ pPacket.FitsAdapter := by
  have hfits : (decide (pPacket.bufferSize ≤ maxEtherSize) && decide (0 < pPacket.bufferSize)) = true ↔
      pPacket.FitsAdapter := by
    rw [Bool.and_eq_true, decide_eq_true_iff, decide_eq_true_iff, And.comm]
    rfl
  unfold ufSendPacketToAdapter
  rw [← hfits]
  generalize (decide (pPacket.bufferSize ≤ maxEtherSize) && decide (0 < pPacket.bufferSize)) = fits
  clear hfits
  repeat' split
  all_goals simp_all

theorem Nt.handed_sendPacket_iff (pPacket : Packet)
    : (sendPacket pPacket).handed = true ↔ (SendState.nt pPacket).Open := by
  obtain ⟨pAdapter, direction, bufferSize, allocatePacket, allocateBuffer, ndisSend⟩ := pPacket
  cases pAdapter with
  | none => simp [sendPacket, SendState.Open]
  | some a =>
    cases direction with
    | inbound => simp [sendPacket, SendState.Open, handed_ufSendPacketToProtocol_iff]
    | out => simp [sendPacket, SendState.Open, handed_ufSendPacketToAdapter_iff]

theorem handed_sendPacket_iff (s : SendState) : (sendPacket s).handed = true ↔ s.Open := by
  cases s with
  | vista pAdapter => exact Vista.handed_sendPacket_iff pAdapter
  | nt pPacket => exact Nt.handed_sendPacket_iff pPacket

/--
`SendPacket` itself says when the packet does not get to NDIS.
-/
theorem handed_of_sendPacket_success {s : SendState} (h : (sendPacket s).status = NtStatus.success)
    : (sendPacket s).handed = true := by
  revert h
  cases s with
  | vista pAdapter =>
    unfold sendPacket Vista.sendPacket
    simp only
    split
    . exact fun _ => rfl
    . exact fun h => absurd h (by decide)
  | nt pPacket =>
    unfold sendPacket Nt.sendPacket Nt.ufSendPacketToProtocol Nt.ufSendPacketToAdapter
    simp only
    repeat' split
    all_goals first
      | exact fun _ => rfl
      | exact fun h => absurd h (by decide)

end Ansfltr
