import Ndisrd.Ansfltr.DataPath.Impl
import Ndisrd.Ansfltr.Receive.Lemmas

/-!
This module contains what becomes of the frames that are sent: which packets of an array `MPSendPackets` gives
to NDIS, with what bytes and flags, and how it completes each of them.
-/

namespace Ansfltr.DataPath

def NdisPacket.frame (p : NdisPacket) : List UInt8 := p.buffers.flatten

/-- The packet that holds a frame in `memory`. -/
def Packet.ofFrame (direction : Direction) (frame : List UInt8) (memory : Nat → UInt8)
    (flags : BitVec 32) : Packet where
  direction := direction
  bufferSize := frame.length
  buffer := Memory.store memory 0 frame
  flags := flags

variable {ι : Type}

def Clients.approve (clients : Clients ι) (pPacket : Packet) : Bool :=
  clients.fltInstancesList.all fun i => clients.requestCallback i pPacket = NtStatus.success

/-- The adapter is there, powered and bound, the resources are, and the size is one that it sends. -/
def Ndis.takes (ndis : Ndis) (direction : Direction) (size : Nat) : Bool :=
  ndis.pAdapter.any (fun a => a.mpDeviceStateD0 && !a.unbindingInProcess) &&
    ndis.allocatePacket.isSome && ndis.allocateBuffer &&
    (decide (direction = .inbound) || (decide (size ≤ maxEtherSize) && decide (0 < size)))

/-- The call that hands a frame to NDIS. -/
def Call.handing (direction : Direction) (frame : List UInt8) (flags : BitVec 32) : Call ι :=
  match direction with
  | .inbound => .ndisMIndicateReceivePacket frame flags
  | .out => .ndisSend frame flags

def Call.sent : Call ι → Option (List UInt8 × BitVec 32)
  | .ndisSend frame flags => some (frame, flags)
  | _ => none

def Call.requested : Call ι → Option Packet
  | .requestCallback _ pPacket => some pPacket
  | _ => none

def Call.completed : Call ι → Option (Nat × NtStatus)
  | .ndisMSendComplete packet status => some (packet, status)
  | _ => none

/-! ### One packet -/

theorem ndisQueryPacketLength_eq (p : NdisPacket) : p.ndisQueryPacketLength = p.frame.length := by
  rw [NdisPacket.ndisQueryPacketLength, NdisPacket.frame]
  induction p.buffers with
  | nil => rfl
  | cons b buffers ih => rw [List.foldr_cons, ih, List.flatten_cons, List.length_append]

theorem read_eq_ofFrame (p : NdisPacket) (memory : Nat → UInt8)
    : p.read memory = Packet.ofFrame .out p.frame memory p.flags := by
  have hframe : p.buffers.flatten = p.frame := rfl
  rw [NdisPacket.read, ufReadOnPacket_eq, hframe, List.drop_zero, ndisQueryPacketLength_eq,
    List.take_of_length_le (Nat.le_refl _)]
  rfl

theorem load_ofFrame (direction : Direction) (frame : List UInt8) (memory : Nat → UInt8)
    (flags : BitVec 32)
    : Memory.load (Packet.ofFrame direction frame memory flags).buffer 0
        (Packet.ofFrame direction frame memory flags).bufferSize = frame := by
  apply Memory.load_store

section SendPacket

variable (ndis : Ndis) (pPacket : Packet)

def Ndis.entry : Nt.Packet :=
  ⟨ndis.pAdapter, pPacket.direction, pPacket.bufferSize, ndis.allocatePacket.isSome,
    ndis.allocateBuffer, ndis.ndisSend⟩

theorem ufSendPacketToProtocol_calls (a : Nt.AdapterEntry)
    : (ufSendPacketToProtocol (ι := ι) ndis pPacket a).2 =
        if (a.mpDeviceStateD0 && !a.unbindingInProcess) && ndis.allocatePacket.isSome &&
            ndis.allocateBuffer then
          [.ndisMIndicateReceivePacket (Memory.load pPacket.buffer 0 pPacket.bufferSize) pPacket.flags]
        else
          [] := by
  rw [ufSendPacketToProtocol]
  cases a.mpDeviceStateD0 && !a.unbindingInProcess with
  | false => rfl
  | true =>
    cases ndis.allocatePacket with
    | none => rfl
    | some iBuffer =>
      cases ndis.allocateBuffer with
      | false => rfl
      | true => rfl

-- The bytes go through the `m_IBuffer` of the packet that is sent.
theorem ufSendPacketToAdapter_calls (a : Nt.AdapterEntry)
    : (ufSendPacketToAdapter (ι := ι) ndis pPacket a).2 =
        if (a.mpDeviceStateD0 && !a.unbindingInProcess) && ndis.allocatePacket.isSome &&
            ndis.allocateBuffer &&
            (decide (pPacket.bufferSize ≤ maxEtherSize) && decide (0 < pPacket.bufferSize)) then
          [.ndisSend (Memory.load pPacket.buffer 0 pPacket.bufferSize) pPacket.flags]
        else
          [] := by
  rw [ufSendPacketToAdapter]
  cases a.mpDeviceStateD0 && !a.unbindingInProcess with
  | false => rfl
  | true =>
    cases decide (pPacket.bufferSize ≤ maxEtherSize) && decide (0 < pPacket.bufferSize) with
    | false =>
      rw [Bool.and_false]
      rfl
    | true =>
      cases ndis.allocatePacket with
      | none => rfl
      | some iBuffer =>
        cases ndis.allocateBuffer with
        | false => rfl
        | true =>
          have hstored := Memory.load_store iBuffer 0 (Memory.load pPacket.buffer 0 pPacket.bufferSize)
          rw [Memory.length_load] at hstored
          by_cases hpending : ndis.ndisSend = NtStatus.pending
          . simp [hpending, hstored]
          . simp [hpending, hstored]

theorem sendPacket_calls
    : (sendPacket (ι := ι) ndis pPacket).2 =
        if ndis.takes pPacket.direction pPacket.bufferSize then
          [Call.handing pPacket.direction (Memory.load pPacket.buffer 0 pPacket.bufferSize) pPacket.flags]
        else
          [] := by
  rw [sendPacket, Ndis.takes]
  cases ndis.pAdapter with
  | none => rfl
  | some a =>
    cases pPacket.direction with
    | inbound =>
      simp only [ufSendPacketToProtocol_calls]
      simp [Call.handing]
    | out =>
      simp only [ufSendPacketToAdapter_calls]
      simp [Call.handing]

/-- The adapter takes the packets that the model without bytes hands over, with the same status. -/
theorem sendPacket_entry
    : Nt.sendPacket (ndis.entry pPacket) =
        ⟨(sendPacket (ι := ι) ndis pPacket).1, ndis.takes pPacket.direction pPacket.bufferSize⟩ := by
  rw [sendPacket, Nt.sendPacket, Ndis.takes, Ndis.entry]
  cases ndis.pAdapter with
  | none => rfl
  | some a =>
    cases pPacket.direction with
    | inbound =>
      simp only [ufSendPacketToProtocol, Nt.ufSendPacketToProtocol, Option.any_some]
      cases a.mpDeviceStateD0 && !a.unbindingInProcess with
      | false => rfl
      | true =>
        cases ndis.allocatePacket with
        | none => rfl
        | some iBuffer =>
          cases ndis.allocateBuffer with
          | false => rfl
          | true => rfl
    | out =>
      simp only [ufSendPacketToAdapter, Nt.ufSendPacketToAdapter, Option.any_some]
      cases a.mpDeviceStateD0 && !a.unbindingInProcess with
      | false => rfl
      | true =>
        cases decide (pPacket.bufferSize ≤ maxEtherSize) && decide (0 < pPacket.bufferSize) with
        | false => simp
        | true =>
          cases ndis.allocatePacket with
          | none => rfl
          | some iBuffer =>
            cases ndis.allocateBuffer with
            | false => rfl
            | true =>
              by_cases hpending : ndis.ndisSend = NtStatus.pending
              . simp [hpending]
              . simp [hpending]

end SendPacket

/-! ### The clients -/

section FLTInjectRequest

variable (clients : Clients ι) (ndis : Ndis) (pPacket : Packet)

theorem approve_iff
    : clients.approve pPacket = true ↔
        ∀ i ∈ clients.fltInstancesList, clients.requestCallback i pPacket = NtStatus.success := by
  simp [Clients.approve]

variable [DecidableEq ι]

/-- The instances are called with the packet, and `SendPacket` is, if all of them approve. -/
theorem fltInjectRequest_calls
    : ∃ is, is <+: clients.fltInstancesList ∧
        (fltInjectRequest clients ndis pPacket).2 =
          (is.map fun i => .requestCallback i pPacket) ++
            if clients.approve pPacket then (sendPacket ndis pPacket).2 else [] := by
  have hflatten : ∀ is : List ι,
      (is.flatMap fun i => [[Call.requestCallback i pPacket]]).flatten =
        is.map fun i => Call.requestCallback i pPacket := by
    intro is
    induction is with
    | nil => rfl
    | cons i is ih =>
      rw [List.flatMap_cons, List.flatten_append, ih]
      rfl
  rw [fltInjectRequest, Ansfltr.fltInjectRequest, Chain.after]
  by_cases happrove : clients.approve pPacket = true
  . refine ⟨clients.fltInstancesList, List.prefix_refl _, ?_⟩
    have hall := (approve_iff clients pPacket).mp happrove
    rw [Chain.callWhile_log_of_good NtStatus.success _ hall]
    simp only [if_true, List.flatten_append, hflatten, happrove, List.flatten_cons, List.flatten_nil,
      List.append_nil]
  . obtain ⟨is, his, hlog⟩ := Chain.callWhile_log_prefix NtStatus.success
      (fun i => (clients.requestCallback i pPacket, [[Call.requestCallback i pPacket]]))
      clients.fltInstancesList
    refine ⟨is, his, ?_⟩
    have hbad : ¬(Chain.callWhile NtStatus.success
        (fun i => (clients.requestCallback i pPacket, [[Call.requestCallback i pPacket]]))
        clients.fltInstancesList).1 = NtStatus.success := by
      rw [Chain.callWhile_good_iff]
      exact fun hall => happrove ((approve_iff clients pPacket).mpr hall)
    simp only [if_neg hbad, hlog, hflatten, if_neg happrove, List.append_nil]

theorem filterMap_fltInjectRequest {α : Type} (observe : Call ι → Option α)
    (hcallback : ∀ i p, observe (.requestCallback i p) = none)
    : (fltInjectRequest clients ndis pPacket).2.filterMap observe =
        if clients.approve pPacket && ndis.takes pPacket.direction pPacket.bufferSize then
          [Call.handing pPacket.direction (Memory.load pPacket.buffer 0 pPacket.bufferSize)
            pPacket.flags].filterMap observe
        else
          [] := by
  obtain ⟨is, _, hcalls⟩ := fltInjectRequest_calls clients ndis pPacket
  have hnone : (is.map fun i => Call.requestCallback i pPacket).filterMap observe = [] := by
    rw [List.filterMap_map, List.filterMap_eq_nil_iff]
    exact fun i _ => hcallback i pPacket
  rw [hcalls, List.filterMap_append, hnone, List.nil_append, sendPacket_calls]
  cases clients.approve pPacket with
  | false => rfl
  | true =>
    cases ndis.takes pPacket.direction pPacket.bufferSize with
    | false => rfl
    | true => rfl

theorem requested_fltInjectRequest
    : ∀ q ∈ (fltInjectRequest clients ndis pPacket).2.filterMap Call.requested, q = pPacket := by
  obtain ⟨is, _, hcalls⟩ := fltInjectRequest_calls clients ndis pPacket
  intro q hq
  obtain ⟨call, hcall, hrequested⟩ := List.mem_filterMap.mp hq
  rw [hcalls, sendPacket_calls] at hcall
  rcases List.mem_append.mp hcall with hcallback | hsent
  . obtain ⟨i, _, rfl⟩ := List.mem_map.mp hcallback
    injection hrequested with hq
    exact hq.symm
  . split at hsent
    . split at hsent
      . rw [List.mem_singleton] at hsent
        rw [hsent] at hrequested
        unfold Call.handing at hrequested
        cases hdirection : pPacket.direction with
        | inbound =>
          rw [hdirection] at hrequested
          cases hrequested
        | out =>
          rw [hdirection] at hrequested
          cases hrequested
      . cases hsent
    . cases hsent

end FLTInjectRequest

/-! ### An array of packets -/

variable [DecidableEq ι]

/-- The frame gets through: the adapter is powered, there is memory, all clients approve. -/
def Turn.passes (turn : Turn ι) (p : NdisPacket) : Bool :=
  turn.mpDeviceStateD0 &&
    turn.memory.any fun memory =>
      turn.clients.approve (Packet.ofFrame .out p.frame memory p.flags) &&
        turn.ndis.takes .out p.frame.length

def Turn.status (turn : Turn ι) : NtStatus :=
  if !turn.mpDeviceStateD0 then
    NtStatus.unsuccessful
  else if turn.memory.isNone then
    NtStatus.insufficientResources
  else
    NtStatus.success

theorem mpSendPacket_powered (clients : Clients ι) (ndis : Ndis) (memory : Nat → UInt8) (p : NdisPacket)
    : mpSendPacket ⟨true, some memory, clients, ndis⟩ p =
        (fltInjectRequest clients ndis (Packet.ofFrame .out p.frame memory p.flags)).2 ++
          [.ndisMSendComplete p.address NtStatus.success] := by
  rw [← read_eq_ofFrame]
  rfl

theorem sent_mpSendPacket (turn : Turn ι) (p : NdisPacket)
    : (mpSendPacket turn p).filterMap Call.sent =
        if turn.passes p then [(p.frame, p.flags)] else [] := by
  obtain ⟨mpDeviceStateD0, memory, clients, ndis⟩ := turn
  cases mpDeviceStateD0 with
  | false => rfl
  | true =>
    cases memory with
    | none => rfl
    | some memory =>
      rw [mpSendPacket_powered, List.filterMap_append,
        filterMap_fltInjectRequest clients ndis _ Call.sent (fun _ _ => rfl), load_ofFrame]
      exact List.append_nil _

theorem completed_mpSendPacket (turn : Turn ι) (p : NdisPacket)
    : (mpSendPacket turn p).filterMap Call.completed = [(p.address, turn.status)] := by
  obtain ⟨mpDeviceStateD0, memory, clients, ndis⟩ := turn
  cases mpDeviceStateD0 with
  | false => rfl
  | true =>
    cases memory with
    | none => rfl
    | some memory =>
      rw [mpSendPacket_powered, List.filterMap_append,
        filterMap_fltInjectRequest clients ndis _ Call.completed (fun _ _ => rfl)]
      split
      . rfl
      . rfl

theorem requested_mpSendPacket (turn : Turn ι) (p : NdisPacket)
    : ∀ q ∈ (mpSendPacket turn p).filterMap Call.requested,
        ∃ memory, q = Packet.ofFrame .out p.frame memory p.flags := by
  obtain ⟨mpDeviceStateD0, memory, clients, ndis⟩ := turn
  intro q hq
  cases mpDeviceStateD0 with
  | false => cases hq
  | true =>
    cases memory with
    | none => cases hq
    | some memory =>
      rw [mpSendPacket_powered, List.filterMap_append, List.mem_append] at hq
      rcases hq with hq | hq
      . refine ⟨memory, ?_⟩
        exact requested_fltInjectRequest clients ndis _ q hq
      . cases hq

theorem mpSendPackets_loop (packetArray : List NdisPacket) (turns : Nat → Turn ι) (tmpNum : Nat)
    : ∀ counter calls, counter + tmpNum = packetArray.length →
        Loop.Ends (mpSendPacketsTurn packetArray turns) (tmpNum, counter, calls)
          (some (calls ++ ((packetArray.drop counter).zipIdx counter).flatMap
            fun p => mpSendPacket (turns p.2) p.1)) := by
  induction tmpNum with
  | zero =>
    intro counter calls hcounter
    apply Loop.Ends.done
    rw [mpSendPacketsTurn, List.drop_eq_nil_of_le (by omega)]
    simp
  | succ tmpNum ih =>
    intro counter calls hcounter
    have hlt : counter < packetArray.length := by omega
    have hturn : mpSendPacketsTurn packetArray turns (tmpNum + 1, counter, calls) =
        .goOn (tmpNum, counter + 1, calls ++ mpSendPacket (turns counter) packetArray[counter]) := by
      simp only [mpSendPacketsTurn, List.getElem?_eq_getElem hlt]
    apply Loop.Ends.goOn hturn
    rw [List.drop_eq_getElem_cons hlt, List.zipIdx_cons, List.flatMap_cons, ← List.append_assoc]
    apply ih
    omega

/--
`MPSendPackets` completes each packet of the array once, in order, and sends, in order, the frames and the
flags of exactly those that get through. The clients see nothing but these frames.
-/
theorem mpSendPackets_run (packetArray : List NdisPacket) (turns : Nat → Turn ι)
    : ∃ calls, Loop.Ends (mpSendPacketsTurn packetArray turns) (packetArray.length, 0, [])
          (some calls) ∧
        calls.filterMap Call.completed =
          (packetArray.zipIdx.map fun p => (p.1.address, (turns p.2).status)) ∧
        calls.filterMap Call.sent =
          (packetArray.zipIdx.filter fun p => (turns p.2).passes p.1).map
            (fun p => (p.1.frame, p.1.flags)) ∧
        ∀ q ∈ calls.filterMap Call.requested,
          ∃ p ∈ packetArray, ∃ memory, q = Packet.ofFrame .out p.frame memory p.flags := by
  refine ⟨_, mpSendPackets_loop packetArray turns packetArray.length 0 [] (Nat.zero_add _), ?_, ?_, ?_⟩
  . rw [List.nil_append, List.drop_zero, List.filterMap_flatMap]
    simp only [completed_mpSendPacket]
    rw [List.map_eq_flatMap]
  . rw [List.nil_append, List.drop_zero, List.filterMap_flatMap]
    simp only [sent_mpSendPacket]
    generalize packetArray.zipIdx = ps
    induction ps with
    | nil => rfl
    | cons p ps ih =>
      rw [List.flatMap_cons, ih, List.filter_cons]
      split
      . rfl
      . rfl
  . rw [List.nil_append, List.drop_zero, List.filterMap_flatMap]
    intro q hq
    obtain ⟨⟨p, i⟩, hp, hq⟩ := List.mem_flatMap.mp hq
    exact ⟨p, List.fst_mem_of_mem_zipIdx hp, requested_mpSendPacket (turns i) p q hq⟩

end Ansfltr.DataPath
