import Ndisrd.Lib.Pool
import Ndisrd.Ansfltr.Receive.Impl
import Ndisrd.Ansfltr.SendPacket

/-!
This module contains the data path of an adapter of the NT filter with the packet and buffer descriptors
that it takes from its two pools: `PtReceive`, taken apart where another completion can come in between,
`PtTransferDataComplete`, `UF_SendPacketToProtocol`, `UF_SendPacketToAdapter` and `PtSendComplete`, and the
transfers that the protocols above start with `MPTransferData`.
-/

namespace Ansfltr.Descriptors

/--
`pool` are the packets of `m_hPacketPool` that are allocated, with the buffers of `m_hBufferPool` chained to
them. `calls` are the calls of `PtReceive` that have put their packet in the list and go on, `sends` the
packets that `NdisSend` has kept. `below` are the packets of the protocols above for which the adapter below
still has to complete a transfer, `waiting` those whose completion the protocols above wait for.
-/
structure State where
  adapter : Adapt
  ptDeviceStateD0 : Bool
  unbindingInProcess : Bool
  pool : Pool Nat
  calls : List (Nat × Indication)
  sends : List Nat
  below : List Nat
  waiting : List Nat

/-- An adapter below is bound, and its instance above not yet initialised. -/
def init (localAddress currentAddress : List UInt8) (mediumWan : Bool) : State where
  adapter := {
    miniportHandle := false
    mpDeviceStateD0 := true
    mediumWan := mediumWan
    localAddress := localAddress
    currentAddress := currentAddress
    pendingTransfertData := []
  }
  ptDeviceStateD0 := true
  unbindingInProcess := false
  pool := Pool.empty
  calls := []
  sends := []
  below := []
  waiting := []

namespace State

variable (s : State)

def ufFreePacketAndBuffers (packet : Nat) : State := { s with pool := s.pool.free packet }

def ndisMTransferDataComplete (packet : Nat) : State := { s with waiting := s.waiting.erase packet }

/--
What the calls out of `PtTransferDataComplete` and `PtReceive` do to the descriptors and the transfers.
-/
def perform (s : State) (effects : List ReceiveEffect) : State :=
  match effects with
  | [] => s
  | .freePacketAndBuffers packet :: effects => perform (s.ufFreePacketAndBuffers packet) effects
  | .transferDataComplete packet _ _ :: effects => perform (s.ndisMTransferDataComplete packet) effects
  | .ethIndicateReceive :: effects => perform s effects
  | .fltInjectRequest _ :: effects => perform s effects

end State

/--
What a call leaves, and what it has called.
-/
structure Outcome where
  state : State
  effects : List ReceiveEffect

variable (s : State)

def ptTransferDataComplete (packet : Nat) (status : NtStatus) (bytesTransferred : Nat)
    (memory : Option (Nat → UInt8))
    : Outcome :=
  let done := Ansfltr.ptTransferDataComplete s.adapter packet status bytesTransferred memory
  ⟨{ s with adapter := done.1 }.perform done.2, done.2⟩

/-- `PtReceive` up to the packet in the list. -/
def ptReceive (ind : Indication) (packet : Option (Nat × (Nat → UInt8))) (buffer : Bool) : Outcome :=
  let oldReceive (s : State) (effects : List ReceiveEffect) : Outcome :=
    ⟨s.perform effects, effects ++ [.ethIndicateReceive]⟩
  if !s.adapter.miniportHandle || !s.adapter.mpDeviceStateD0 then
    ⟨s, []⟩
  else if isLoopback s.adapter ind then
    oldReceive s []
  else if ind.header.length + ind.packetSize > maxEtherSize then
    oldReceive s []
  else
    match packet with
    | none => oldReceive s []
    | some (address, iBuffer) =>
      let s := { s with pool := s.pool.alloc address }
      if !buffer then
        oldReceive s [.freePacketAndBuffers address]
      else
        let pHKPacket := gather ind address iBuffer
        let s := { s with
          pool := s.pool.attach address
          adapter := { s.adapter with
            pendingTransfertData := pHKPacket :: s.adapter.pendingTransfertData }
          calls := (address, ind) :: s.calls }
        ⟨s, []⟩

/-- The rest of `PtReceive`, with the transfer of the residual. -/
def ptReceiveEnd (address : Nat) (ind : Indication) (residualBuffer : Bool) (transfer : Transfer)
    (memory : Option (Nat → UInt8))
    : Outcome :=
  let s := { s with calls := s.calls.eraseP fun call => call.1 = address }
  if ind.nResidualSize = 0 then
    ptTransferDataComplete s address NtStatus.success 0 memory
  else if !residualBuffer then
    let s := { s with
      adapter := { s.adapter with
        pendingTransfertData :=
          s.adapter.pendingTransfertData.eraseP fun pHKPacket => pHKPacket.address = address } }
    ⟨s.ufFreePacketAndBuffers address, [.freePacketAndBuffers address, .ethIndicateReceive]⟩
  else
    let s := { s with
      pool := s.pool.attach address
      adapter := { s.adapter with
        pendingTransfertData := s.adapter.pendingTransfertData.map fun pHKPacket =>
          if pHKPacket.address = address then transferData ind transfer pHKPacket else pHKPacket } }
    if transfer.status ≠ NtStatus.pending then
      ptTransferDataComplete s address transfer.status transfer.bytes.length memory
    else
      ⟨s, []⟩

/--
NDIS completes a transfer that had been pending, of this driver or of a protocol above.
-/
def ndisTransferDataComplete (packet : Nat) (transfer : Transfer) (memory : Option (Nat → UInt8))
    : Outcome :=
  let s := { s with
    adapter := fillPending s.adapter packet transfer.bytes
    below := s.below.erase packet }
  ptTransferDataComplete s packet transfer.status transfer.bytes.length memory

/--
`MPTransferData`, with the status of `NdisTransferData`.
-/
def mpTransferData (packet : Nat) (status : NtStatus) : State × NtStatus :=
  if !(s.adapter.mpDeviceStateD0 && s.ptDeviceStateD0) then
    (s, NtStatus.unsuccessful)
  else if status = NtStatus.pending then
    ({ s with below := packet :: s.below, waiting := packet :: s.waiting }, status)
  else
    (s, status)

def adapterEntry : Nt.AdapterEntry := ⟨s.adapter.mpDeviceStateD0, s.unbindingInProcess⟩

/--
`UF_SendPacketToProtocol`, with the packet that `NdisAllocatePacket` has.
-/
def ufSendPacketToProtocol (packet : Option Nat) (allocateBuffer : Bool) : State :=
  if s.adapter.mpDeviceStateD0 && !s.unbindingInProcess then
    match packet with
    | none => s
    | some packet =>
      let s := { s with pool := s.pool.alloc packet }
      if !allocateBuffer then
        s.ufFreePacketAndBuffers packet
      else
        let s := { s with pool := s.pool.attach packet }
        s.ufFreePacketAndBuffers packet
  else
    s

def ufSendPacketToAdapter (bufferSize : Nat) (packet : Option Nat) (allocateBuffer : Bool)
    (ndisSend : NtStatus)
    : State :=
  if s.adapter.mpDeviceStateD0 && !s.unbindingInProcess then
    if !(decide (bufferSize ≤ maxEtherSize) && decide (0 < bufferSize)) then
      s
    else
      match packet with
      | none => s
      | some packet =>
        let s := { s with pool := s.pool.alloc packet }
        if !allocateBuffer then
          s.ufFreePacketAndBuffers packet
        else
          let s := { s with pool := s.pool.attach packet }
          if ndisSend ≠ NtStatus.pending then
            s.ufFreePacketAndBuffers packet
          else
            { s with sends := packet :: s.sends }
  else
    s

def ptSendComplete (packet : Nat) : State :=
  { s with sends := s.sends.erase packet }.ufFreePacketAndBuffers packet

inductive Event where
  | mpInitialize
  /-- `OID_PNP_SET_POWER` and `NetEventSetPower`. -/
  | power (mpDeviceStateD0 ptDeviceStateD0 : Bool)
  | ptUnbindAdapter
  | ptReceive (ind : Indication) (packet : Option (Nat × (Nat → UInt8))) (buffer : Bool)
  | ptReceiveEnd (address : Nat) (ind : Indication) (residualBuffer : Bool) (transfer : Transfer)
    (memory : Option (Nat → UInt8))
  | ndisTransferDataComplete (packet : Nat) (transfer : Transfer) (memory : Option (Nat → UInt8))
  | mpTransferData (packet : Nat) (status : NtStatus)
  | ufSendPacketToProtocol (packet : Option Nat) (allocateBuffer : Bool)
  | ufSendPacketToAdapter (bufferSize : Nat) (packet : Option Nat) (allocateBuffer : Bool)
    (ndisSend : NtStatus)
  | ptSendComplete (packet : Nat)

def step (s : State) : Event → State
  | .mpInitialize => { s with adapter := { s.adapter with miniportHandle := true } }
  | .power mpDeviceStateD0 ptDeviceStateD0 =>
    { s with
      adapter := { s.adapter with mpDeviceStateD0 := mpDeviceStateD0 }
      ptDeviceStateD0 := ptDeviceStateD0 }
  | .ptUnbindAdapter => { s with unbindingInProcess := true }
  | .ptReceive ind packet buffer => (ptReceive s ind packet buffer).state
  | .ptReceiveEnd address ind residualBuffer transfer memory =>
    (ptReceiveEnd s address ind residualBuffer transfer memory).state
  | .ndisTransferDataComplete packet transfer memory =>
    (ndisTransferDataComplete s packet transfer memory).state
  | .mpTransferData packet status => (mpTransferData s packet status).1
  | .ufSendPacketToProtocol packet allocateBuffer => ufSendPacketToProtocol s packet allocateBuffer
  | .ufSendPacketToAdapter bufferSize packet allocateBuffer ndisSend =>
    ufSendPacketToAdapter s bufferSize packet allocateBuffer ndisSend
  | .ptSendComplete packet => ptSendComplete s packet

/-! ### What NDIS keeps to -/

/-- A packet that is not in use, neither of the pool nor of a protocol above. -/
def Fresh (packet : Nat) : Prop :=
  packet ∉ s.pool.objects.map Prod.fst ∧ packet ∉ s.below ∧ packet ∉ s.waiting

def OwnPending (packet : Nat) : Prop :=
  ∃ pHKPacket ∈ s.adapter.pendingTransfertData, pHKPacket.address = packet ∧
    pHKPacket.nTransferDataStatus = NtStatus.pending

/--
Packets that are allocated are not in use, and what is completed had been pending.
-/
def Allowed (s : State) : Event → Prop
  | .mpInitialize => True
  | .power _ _ => True
  | .ptUnbindAdapter => True
  | .ptReceive _ packet _ => ∀ address iBuffer, packet = some (address, iBuffer) → Fresh s address
  | .ptReceiveEnd address ind _ _ _ => (address, ind) ∈ s.calls
  | .ndisTransferDataComplete packet transfer _ =>
    transfer.status ≠ NtStatus.pending ∧ (packet ∈ s.below ∨ OwnPending s packet)
  | .mpTransferData packet _ => s.adapter.miniportHandle = true ∧ Fresh s packet
  | .ufSendPacketToProtocol packet _ => ∀ address, packet = some address → Fresh s address
  | .ufSendPacketToAdapter _ packet _ _ => ∀ address, packet = some address → Fresh s address
  | .ptSendComplete packet => packet ∈ s.sends

/-! ### Against the undivided functions -/

/-- What the protocols above have sent and NDIS keeps, is what `UF_SendPacketToAdapter` has handed to it. -/
theorem sends_ufSendPacketToAdapter (bufferSize : Nat) (packet : Option Nat) (allocateBuffer : Bool)
    (ndisSend : NtStatus)
    : (ufSendPacketToAdapter s bufferSize packet allocateBuffer ndisSend).sends =
      if (Nt.ufSendPacketToAdapter ⟨some (adapterEntry s), .out, bufferSize, packet.isSome, allocateBuffer,
          ndisSend⟩ (adapterEntry s)).handed = true ∧ ndisSend = NtStatus.pending then
        packet.toList ++ s.sends
      else
        s.sends := by
  rw [ufSendPacketToAdapter.eq_def, Nt.ufSendPacketToAdapter]
  have hentry : ((adapterEntry s).mpDeviceStateD0 && !(adapterEntry s).unbindingInProcess) =
    (s.adapter.mpDeviceStateD0 && !s.unbindingInProcess) := rfl
  rw [hentry]
  split
  . split
    . simp
    cases packet with
    | none => simp
    | some packet =>
      cases allocateBuffer with
      | false => rfl
      | true =>
        by_cases hsend : ndisSend = NtStatus.pending
        . simp [hsend]
        . simp [hsend, State.ufFreePacketAndBuffers]
  . simp

theorem adapter_perform (effects : List ReceiveEffect) : (s.perform effects).adapter = s.adapter := by
  induction effects generalizing s with
  | nil => rfl
  | cons effect effects ih =>
    cases effect with
    | ethIndicateReceive => exact ih s
    | transferDataComplete packet status bytesTransferred => exact ih (s.ndisMTransferDataComplete packet)
    | fltInjectRequest pBuffer => exact ih s
    | freePacketAndBuffers packet => exact ih (s.ufFreePacketAndBuffers packet)

theorem adapter_ptTransferDataComplete (packet : Nat) (status : NtStatus) (bytesTransferred : Nat)
    (memory : Option (Nat → UInt8))
    : (ptTransferDataComplete s packet status bytesTransferred memory).state.adapter =
      (Ansfltr.ptTransferDataComplete s.adapter packet status bytesTransferred memory).1 :=
  adapter_perform _ _

theorem ptReceiveEnd_undivided (s : State) {address : Nat} {iBuffer : Nat → UInt8} (ind : Indication)
    (alloc : Allocations) (transfer : Transfer) {pending : List NdishkPacket}
    (hlist : s.adapter.pendingTransfertData = gather ind address iBuffer :: pending)
    (hfresh : ∀ pHKPacket ∈ pending, pHKPacket.address ≠ address)
    : let ended := ptReceiveEnd s address ind alloc.residualBuffer transfer alloc.memory
      let a := { s.adapter with pendingTransfertData := pending }
      let whole : Received :=
        if ind.nResidualSize = 0 then
          endReceive a (gather ind address iBuffer) alloc.memory
        else if !alloc.residualBuffer then
          ⟨NtStatus.success, a, [.freePacketAndBuffers address, .ethIndicateReceive]⟩
        else
          endReceive a (transferData ind transfer (gather ind address iBuffer)) alloc.memory
      ended.state.adapter = whole.adapter ∧ ended.effects = whole.effects := by
  have haddress : (gather ind address iBuffer).address = address := rfl
  dsimp only
  rw [ptReceiveEnd]
  split
  . have hadapter : { s.adapter with pendingTransfertData := gather ind address iBuffer :: pending } =
        s.adapter := by
      rw [← hlist]
    have hne : NtStatus.success ≠ NtStatus.pending := by decide
    have hsuccess : (gather ind address iBuffer).nTransferDataStatus ≠ NtStatus.pending := hne
    rw [endReceive, if_pos hsuccess]
    simp only [hadapter]
    exact ⟨adapter_ptTransferDataComplete _ _ _ _ _, rfl⟩
  split
  . have herase : (s.adapter.pendingTransfertData.eraseP fun pHKPacket => pHKPacket.address = address) =
        pending := by
      rw [hlist, List.eraseP_cons_of_pos (by simp [haddress])]
    simp only [herase]
    exact ⟨rfl, trivial⟩
  . have hmap : (s.adapter.pendingTransfertData.map fun pHKPacket =>
        if pHKPacket.address = address then transferData ind transfer pHKPacket else pHKPacket) =
          transferData ind transfer (gather ind address iBuffer) :: pending := by
      rw [hlist, List.map_cons, if_pos haddress,
        List.map_congr_left fun pHKPacket hmem => if_neg (hfresh pHKPacket hmem), List.map_id']
    have hstatus : (transferData ind transfer (gather ind address iBuffer)).nTransferDataStatus =
      transfer.status := rfl
    rw [endReceive, hstatus]
    simp only [hmap]
    split
    . exact ⟨adapter_ptTransferDataComplete _ _ _ _ _, rfl⟩
    . exact ⟨rfl, rfl⟩

/--
With nothing in between, the two parts are `PtReceive`.
-/
theorem ptReceive_undivided (s : State) (ind : Indication) (alloc : Allocations) (transfer : Transfer)
    (hfresh : ∀ address iBuffer, alloc.packet = some (address, iBuffer) →
      ∀ pHKPacket ∈ s.adapter.pendingTransfertData, pHKPacket.address ≠ address)
    : let begun := ptReceive s ind alloc.packet alloc.buffer
      let whole := Ansfltr.ptReceive s.adapter ind alloc transfer
      (begun.state.adapter = whole.adapter ∧ begun.effects = whole.effects) ∨
        ∃ address, begun.state.calls = (address, ind) :: s.calls ∧ begun.effects = [] ∧
          let ended := ptReceiveEnd begun.state address ind alloc.residualBuffer transfer alloc.memory
          ended.state.adapter = whole.adapter ∧ ended.effects = whole.effects := by
  dsimp only
  rw [ptReceive.eq_def, Ansfltr.ptReceive]
  split
  . exact .inl ⟨rfl, rfl⟩
  split
  . exact .inl ⟨rfl, rfl⟩
  split
  . exact .inl ⟨rfl, rfl⟩
  cases hpacket : alloc.packet with
  | none => exact .inl ⟨rfl, rfl⟩
  | some memory =>
    obtain ⟨address, iBuffer⟩ := memory
    dsimp only
    split
    . exact .inl ⟨adapter_perform _ _, rfl⟩
    . refine .inr ⟨address, rfl, rfl, ?_⟩
      exact ptReceiveEnd_undivided _ ind alloc transfer rfl (hfresh address iBuffer hpacket)

end Ansfltr.Descriptors
