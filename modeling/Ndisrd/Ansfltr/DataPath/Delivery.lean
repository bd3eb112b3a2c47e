import Ndisrd.Ansfltr.DataPath.Frames

/-!
This module contains what becomes of the frames that are received: which ones get to the protocols, through the
clients or past them, over any run of indications and of transfers that end later.
-/

namespace Ansfltr.DataPath

variable {ι : Type} [DecidableEq ι]

/-- A call of NDIS, with the clients and the adapter as they are, and the flags left in new memory. -/
structure Reception (ι : Type) where
  event : AdapterEvent
  clients : Clients ι
  ndis : Ndis
  flags : BitVec 32

def receiveEvent (a : Adapt) : AdapterEvent → Adapt × List ReceiveEffect
  | .receive ind alloc transfer =>
    let received := ptReceive a ind alloc transfer
    (received.adapter, received.effects)
  | .transferComplete packet transfer memory => ndisTransferDataComplete a packet transfer memory

def Reception.perform (r : Reception ι) (effects : List ReceiveEffect) : List (Call ι) :=
  effects.flatMap (performReceive r.clients r.ndis r.flags)

def receptionStep (s : Adapt × List (Call ι)) (r : Reception ι) : Adapt × List (Call ι) :=
  ((receiveEvent s.1 r.event).1, s.2 ++ r.perform (receiveEvent s.1 r.event).2)

/-! ### What gets to the protocols -/

inductive Delivery where
  -- the indication of the adapter below, as it is
  | original
  | packet (frame : List UInt8) (flags : BitVec 32)

def Call.delivered : Call ι → Option Delivery
  | .ndisMEthIndicateReceive => some .original
  | .ndisMIndicateReceivePacket frame flags => some (.packet frame flags)
  | _ => none

inductive Fate where
  | refused
  | original
  | lost
  | offered (memory : Nat → UInt8)

/--
An adapter without power refuses the indication. A frame of the adapter itself, one that is too large and one
for which the first allocations fail go past the clients. A frame is lost whose residual is not transferred at
once, or for which there is no memory afterwards.
-/
def fate (a : Adapt) (ind : Indication) (alloc : Allocations) (transfer : Transfer) : Fate :=
  if !a.miniportHandle || !a.mpDeviceStateD0 then
    .refused
  else if isLoopback a ind || decide (ind.frame.length > maxEtherSize) || alloc.packet.isNone ||
      !alloc.buffer || (decide (ind.nResidualSize ≠ 0) && !alloc.residualBuffer) then
    .original
  else if ind.nResidualSize ≠ 0 ∧ transfer.status ≠ NtStatus.success then
    .lost
  else
    match alloc.memory with
    | none => .lost
    | some memory => .offered memory

/-- The packet that the clients are asked about. -/
def Reception.offered (a : Adapt) (r : Reception ι) : Option Packet :=
  match r.event with
  | .receive ind alloc transfer =>
    match fate a ind alloc transfer with
    | .offered memory => some (Packet.ofFrame .inbound ind.frame memory r.flags)
    | _ => none
  | .transferComplete _ _ _ => none

def Reception.delivery (a : Adapt) (r : Reception ι) : Option Delivery :=
  match r.event with
  | .receive ind alloc transfer =>
    match fate a ind alloc transfer with
    | .original => some .original
    | .offered memory =>
      if r.clients.approve (Packet.ofFrame .inbound ind.frame memory r.flags) &&
          r.ndis.takes .inbound ind.frame.length then
        some (.packet ind.frame r.flags)
      else
        none
    | _ => none
  | .transferComplete _ _ _ => none

/--
What NDIS promises: the look-ahead is part of the data, and a transfer that succeeds at once brings the
residual.
-/
def Reception.Honest (r : Reception ι) : Prop :=
  ∀ ind alloc transfer, r.event = .receive ind alloc transfer →
    ind.lookAheadBufferSize ≤ ind.packetSize ∧
      (transfer.status = NtStatus.success → transfer.bytes = ind.residual)

/-! ### One call -/

def AllPending (pHKPackets : List NdishkPacket) : Prop :=
  ∀ p ∈ pHKPackets, p.nTransferDataStatus = NtStatus.pending

def inboundPacket (frame : List UInt8) (memory : Nat → UInt8) : FltPacket :=
  ⟨.inbound, frame.length, Memory.store memory 0 frame⟩

section Perform

variable (r : Reception ι)

theorem delivered_inboundPacket (frame : List UInt8) (memory : Nat → UInt8) (address : Nat)
    : (r.perform [.fltInjectRequest (inboundPacket frame memory),
          .freePacketAndBuffers address]).filterMap Call.delivered =
        if r.clients.approve (Packet.ofFrame .inbound frame memory r.flags) &&
            r.ndis.takes .inbound frame.length then
          [.packet frame r.flags]
        else
          [] := by
  have hperform : r.perform [.fltInjectRequest (inboundPacket frame memory),
      .freePacketAndBuffers address] =
        (fltInjectRequest r.clients r.ndis (Packet.ofFrame .inbound frame memory r.flags)).2 :=
    List.append_nil _
  rw [hperform, filterMap_fltInjectRequest r.clients r.ndis _ Call.delivered (fun _ _ => rfl),
    load_ofFrame]
  rfl

theorem requested_inboundPacket (frame : List UInt8) (memory : Nat → UInt8) (address : Nat)
    : ∀ q ∈ (r.perform [.fltInjectRequest (inboundPacket frame memory),
          .freePacketAndBuffers address]).filterMap Call.requested,
        q = Packet.ofFrame .inbound frame memory r.flags := by
  have hperform : r.perform [.fltInjectRequest (inboundPacket frame memory),
      .freePacketAndBuffers address] =
        (fltInjectRequest r.clients r.ndis (Packet.ofFrame .inbound frame memory r.flags)).2 :=
    List.append_nil _
  rw [hperform]
  apply requested_fltInjectRequest

end Perform

-- The packet at the front of the list is the one that is found.
theorem ptTransferDataComplete_front {a : Adapt} (hready : a.miniportHandle = true)
    {pHKPacket : NdishkPacket} {frame : List UInt8}
    (hbytes : pHKPacket.nTransferDataStatus = NtStatus.success →
      pHKPacket.reorder.virtualAddresses.flatten = frame)
    (hlength : pHKPacket.ndisQueryPacketLength = frame.length) (status : NtStatus)
    (bytesTransferred : Nat) (memory : Option (Nat → UInt8))
    : ptTransferDataComplete
          { a with pendingTransfertData := pHKPacket :: a.pendingTransfertData } pHKPacket.address status
          bytesTransferred memory =
        if pHKPacket.nTransferDataStatus ≠ NtStatus.success then
          (a, [.freePacketAndBuffers pHKPacket.address])
        else
          match memory with
          | none => (a, [.freePacketAndBuffers pHKPacket.address])
          | some memory =>
            (a, [.fltInjectRequest (inboundPacket frame memory),
              .freePacketAndBuffers pHKPacket.address]) := by
  obtain ⟨miniportHandle, mpDeviceStateD0, mediumWan, localAddress, currentAddress, pending⟩ := a
  cases hready
  unfold ptTransferDataComplete
  by_cases hsuccess : pHKPacket.nTransferDataStatus = NtStatus.success
  . cases memory with
    | none => simp [hsuccess]
    | some memory =>
      have hread : ufReadOnPacket pHKPacket.reorder.virtualAddresses memory
          pHKPacket.ndisQueryPacketLength 0 = (Memory.store memory 0 frame, frame.length) := by
        rw [ufReadOnPacket_eq, hbytes hsuccess, hlength, List.drop_zero, List.take_length]
      simp [hsuccess, hread, inboundPacket]
  . simp [hsuccess]

/--
What an event does to an adapter that has only pending transfers in its list: it keeps to that, changes nothing
else, and delivers what it should.
-/
structure Settles (a : Adapt) (r : Reception ι) (done : Adapt × List ReceiveEffect) : Prop where
  adapter : ∃ pending, AllPending pending ∧ done.1 = { a with pendingTransfertData := pending }
  delivered : (r.perform done.2).filterMap Call.delivered = (r.delivery a).toList
  requested : ∀ q ∈ (r.perform done.2).filterMap Call.requested, r.offered a = some q

/-- Nothing is called, and nothing is to be delivered. -/
theorem settles_nothing {a : Adapt} {r : Reception ι} {done : Adapt × List ReceiveEffect}
    (hadapter : ∃ pending, AllPending pending ∧ done.1 = { a with pendingTransfertData := pending })
    (hperform : r.perform done.2 = []) (hdelivery : r.delivery a = none)
    : Settles a r done := by
  constructor
  . exact hadapter
  . rw [hperform, hdelivery]
    rfl
  . intro q hq
    rw [hperform] at hq
    cases hq

/-- The packet that `PtReceive` has made of the frame is at its last step. -/
theorem settles_endReceive {a : Adapt} (hready : a.miniportHandle = true)
    (hpending : AllPending a.pendingTransfertData) {r : Reception ι} {ind : Indication}
    {alloc : Allocations} {transfer : Transfer} (hevent : r.event = .receive ind alloc transfer)
    {pHKPacket : NdishkPacket}
    (hbytes : pHKPacket.nTransferDataStatus = NtStatus.success →
      pHKPacket.reorder.virtualAddresses.flatten = ind.frame)
    (hlength : pHKPacket.ndisQueryPacketLength = ind.frame.length)
    (hfate : fate a ind alloc transfer =
      if pHKPacket.nTransferDataStatus ≠ NtStatus.success then
        .lost
      else
        match alloc.memory with
        | none => .lost
        | some memory => .offered memory)
    : Settles a r ((endReceive a pHKPacket alloc.memory).adapter,
        (endReceive a pHKPacket alloc.memory).effects) := by
  have hlost : fate a ind alloc transfer = .lost → r.delivery a = none := by
    intro hlost
    simp only [Reception.delivery, hevent, hlost]
  unfold endReceive
  by_cases hstatus : pHKPacket.nTransferDataStatus = NtStatus.pending
  . have hnot : pHKPacket.nTransferDataStatus ≠ NtStatus.success := by
      rw [hstatus]
      decide
    rw [if_pos hnot] at hfate
    rw [if_neg (not_not_intro hstatus)]
    apply settles_nothing ?_ rfl (hlost hfate)
    exact ⟨pHKPacket :: a.pendingTransfertData, List.forall_mem_cons.mpr ⟨hstatus, hpending⟩, rfl⟩
  . rw [if_pos hstatus]
    simp only [ptTransferDataComplete_front hready hbytes hlength]
    have hadapter : ∃ pending, AllPending pending ∧ a = { a with pendingTransfertData := pending } :=
      ⟨a.pendingTransfertData, hpending, rfl⟩
    by_cases hsuccess : pHKPacket.nTransferDataStatus = NtStatus.success
    . rw [if_neg (not_not_intro hsuccess)] at hfate ⊢
      cases hmemory : alloc.memory with
      | none =>
        rw [hmemory] at hfate
        exact settles_nothing hadapter rfl (hlost hfate)
      | some memory =>
        rw [hmemory] at hfate
        constructor
        . exact hadapter
        . rw [delivered_inboundPacket]
          simp only [Reception.delivery, hevent, hfate]
          split
          . rfl
          . rfl
        . intro q hq
          rw [requested_inboundPacket r _ _ _ q hq]
          simp only [Reception.offered, hevent, hfate]
    . rw [if_pos hsuccess] at hfate ⊢
      exact settles_nothing hadapter rfl (hlost hfate)

/-- The indication is passed on as it is, after what has been allocated is freed. -/
theorem settles_original {a : Adapt} (hpending : AllPending a.pendingTransfertData) {r : Reception ι}
    {ind : Indication} {alloc : Allocations} {transfer : Transfer}
    (hevent : r.event = .receive ind alloc transfer) (hfate : fate a ind alloc transfer = .original)
    {freed : List ReceiveEffect}
    (hfreed : r.perform freed = [])
    : Settles a r (a, freed ++ [.ethIndicateReceive]) := by
  have hperform : r.perform (freed ++ [.ethIndicateReceive]) = [.ndisMEthIndicateReceive] := by
    rw [Reception.perform, List.flatMap_append, ← Reception.perform, hfreed]
    rfl
  constructor
  . exact ⟨a.pendingTransfertData, hpending, rfl⟩
  . simp only [hperform, Reception.delivery, hevent, hfate]
    rfl
  . intro q hq
    rw [hperform] at hq
    cases hq

theorem settles_ptReceive {a : Adapt} (hpending : AllPending a.pendingTransfertData) {r : Reception ι}
    (honest : r.Honest) {ind : Indication} {alloc : Allocations} {transfer : Transfer}
    (hevent : r.event = .receive ind alloc transfer)
    : Settles a r ((ptReceive a ind alloc transfer).adapter, (ptReceive a ind alloc transfer).effects) := by
  obtain ⟨hlook, hresidual⟩ := honest ind alloc transfer hevent
  have hframe : ind.header.length + ind.packetSize = ind.frame.length := List.length_append.symm
  unfold ptReceive
  by_cases hpowered : (!a.miniportHandle || !a.mpDeviceStateD0) = true
  . have hfate : fate a ind alloc transfer = .refused := if_pos hpowered
    simp only [if_pos hpowered]
    apply settles_nothing ⟨a.pendingTransfertData, hpending, rfl⟩ rfl
    simp only [Reception.delivery, hevent, hfate]
  . have hready : a.miniportHandle = true := by
      cases hhandle : a.miniportHandle with
      | true => rfl
      | false => simp [hhandle] at hpowered
    simp only [if_neg hpowered, hframe]
    have horiginal : ∀ freed, r.perform freed = [] →
        (isLoopback a ind || decide (ind.frame.length > maxEtherSize) || alloc.packet.isNone ||
          !alloc.buffer || (decide (ind.nResidualSize ≠ 0) && !alloc.residualBuffer)) = true →
        Settles a r (a, freed ++ [.ethIndicateReceive]) := by
      intro freed hfreed htests
      apply settles_original hpending hevent ?_ hfreed
      rw [fate, if_neg hpowered, if_pos htests]
    by_cases hloopback : isLoopback a ind = true
    . simp only [if_pos hloopback]
      apply horiginal [] rfl
      simp [hloopback]
    . have hother : isLoopback a ind = false := by simpa using hloopback
      simp only [if_neg hloopback]
      by_cases hlarge : ind.frame.length > maxEtherSize
      . simp only [if_pos hlarge]
        apply horiginal [] rfl
        simp only [decide_eq_true hlarge, Bool.or_true, Bool.true_or]
      . have hnotlarge : ind.frame.length ≤ 1514 := Nat.not_lt.mp hlarge
        simp only [if_neg hlarge]
        cases hpacket : alloc.packet with
        | none =>
          apply horiginal [] rfl
          simp [hpacket]
        | some packet =>
          obtain ⟨address, iBuffer⟩ := packet
          simp only
          cases hbuffer : alloc.buffer with
          | false =>
            apply horiginal [.freePacketAndBuffers address] rfl
            simp [hbuffer]
          | true =>
            rw [if_neg (by decide)]
            by_cases hwhole : ind.nResidualSize = 0
            . rw [if_pos hwhole]
              apply settles_endReceive hready hpending hevent
              . exact fun _ => virtualAddresses_gather hwhole address iBuffer
              . exact ndisQueryPacketLength_gather hwhole address iBuffer
              . have hstatus : (gather ind address iBuffer).nTransferDataStatus = NtStatus.success := rfl
                have hnot : ¬(ind.nResidualSize ≠ 0 ∧ transfer.status ≠ NtStatus.success) :=
                  fun hlost => hlost.1 hwhole
                rw [fate, if_neg hpowered, if_neg (by simp [hother, hnotlarge, hpacket, hbuffer, hwhole]),
                  if_neg hnot, hstatus, if_neg (not_not_intro rfl)]
            . rw [if_neg hwhole]
              cases hresidualBuffer : alloc.residualBuffer with
              | false =>
                apply horiginal [.freePacketAndBuffers address] rfl
                simp [hwhole, hresidualBuffer]
              | true =>
                rw [if_neg (by decide)]
                apply settles_endReceive hready hpending hevent
                . intro hsuccess
                  have htransfer : transfer = ⟨NtStatus.success, ind.residual⟩ := by
                    rw [← hresidual hsuccess, ← show transfer.status = NtStatus.success from hsuccess]
                  rw [htransfer]
                  exact virtualAddresses_transferData hlook address iBuffer NtStatus.success
                . exact ndisQueryPacketLength_transferData ind transfer address iBuffer
                . rw [fate, if_neg hpowered, if_neg (by simp [hother, hnotlarge, hpacket, hbuffer,
                    hresidualBuffer])]
                  simp only [hwhole, ne_eq, not_false_eq_true, true_and]
                  rfl

theorem allPending_fillPending {a : Adapt} (hpending : AllPending a.pendingTransfertData) (packet : Nat)
    (bytes : List UInt8)
    : AllPending (fillPending a packet bytes).pendingTransfertData := by
  intro p hp
  obtain ⟨p', hp', rfl⟩ := List.mem_map.mp hp
  split
  . exact hpending p' hp'
  . exact hpending p' hp'

/-- The status of a pending packet is still the one that `NdisTransferData` returned. -/
theorem ptTransferDataComplete_pending {a : Adapt} (hpending : AllPending a.pendingTransfertData)
    (packet : Nat) (status : NtStatus) (bytesTransferred : Nat) (memory : Option (Nat → UInt8))
    : ∃ pending, AllPending pending ∧
        (ptTransferDataComplete a packet status bytesTransferred memory).1 =
          { a with pendingTransfertData := pending } ∧
        ∀ r : Reception ι,
          r.perform (ptTransferDataComplete a packet status bytesTransferred memory).2 = [] := by
  unfold ptTransferDataComplete
  split
  . exact ⟨a.pendingTransfertData, hpending, rfl, fun _ => rfl⟩
  . split
    . exact ⟨a.pendingTransfertData, hpending, rfl, fun _ => rfl⟩
    . split
      . exact ⟨a.pendingTransfertData, hpending, rfl, fun _ => rfl⟩
      next pHKPacket hfind =>
        have hfailed : pHKPacket.nTransferDataStatus ≠ NtStatus.success := by
          rw [hpending pHKPacket (List.mem_of_find?_eq_some hfind)]
          decide
        simp only [if_pos hfailed]
        refine ⟨_, ?_, rfl, fun _ => rfl⟩
        exact fun p hp => hpending p (List.mem_of_mem_eraseP hp)

theorem settles_transferComplete {a : Adapt} (hpending : AllPending a.pendingTransfertData)
    {r : Reception ι} {packet : Nat} {transfer : Transfer} {memory : Option (Nat → UInt8)}
    (hevent : r.event = .transferComplete packet transfer memory)
    : Settles a r (ndisTransferDataComplete a packet transfer memory) := by
  obtain ⟨pending, hall, hadapter, hperform⟩ := ptTransferDataComplete_pending (ι := ι)
    (allPending_fillPending hpending packet transfer.bytes) packet transfer.status transfer.bytes.length
    memory
  refine settles_nothing ?_ (hperform r) ?_
  . exact ⟨pending, hall, hadapter⟩
  . rw [Reception.delivery, hevent]

theorem settles_receiveEvent {a : Adapt} (hpending : AllPending a.pendingTransfertData) {r : Reception ι}
    (honest : r.Honest)
    : Settles a r (receiveEvent a r.event) := by
  cases hevent : r.event with
  | receive ind alloc transfer => exact settles_ptReceive hpending honest hevent
  | transferComplete packet transfer memory => exact settles_transferComplete hpending hevent

/-! ### Runs -/

/-- What has been delivered after the calls `rs` is what they should deliver. -/
structure UpToDate (a : Adapt) (rs : List (Reception ι)) (s : Adapt × List (Call ι)) : Prop where
  adapter : ∃ pending, AllPending pending ∧ s.1 = { a with pendingTransfertData := pending }
  delivered : s.2.filterMap Call.delivered = rs.filterMap fun r => r.delivery a
  requested : ∀ q ∈ s.2.filterMap Call.requested, ∃ r ∈ rs, r.offered a = some q

theorem UpToDate.step {a : Adapt} {rs : List (Reception ι)} {s : Adapt × List (Call ι)}
    (h : UpToDate a rs s) {r : Reception ι} (honest : r.Honest)
    : UpToDate a (rs ++ [r]) (receptionStep s r) := by
  obtain ⟨b, calls⟩ := s
  obtain ⟨⟨pending, hpending, rfl⟩, hdelivered, hrequested⟩ := h
  have hsettles := settles_receiveEvent (a := { a with pendingTransfertData := pending }) hpending honest
  constructor
  . obtain ⟨pending', hpending', hadapter⟩ := hsettles.adapter
    exact ⟨pending', hpending', hadapter⟩
  . rw [receptionStep, List.filterMap_append, List.filterMap_append, hdelivered, hsettles.delivered]
    -- the fate of a frame does not depend on the list
    have hfate : r.delivery { a with pendingTransfertData := pending } = r.delivery a := rfl
    rw [hfate, List.filterMap_cons]
    cases r.delivery a with
    | none => rfl
    | some delivery => rfl
  . intro q hq
    rw [receptionStep, List.filterMap_append, List.mem_append] at hq
    rcases hq with hq | hq
    . obtain ⟨r', hr', hoffered⟩ := hrequested q hq
      exact ⟨r', List.mem_append_left _ hr', hoffered⟩
    . exact ⟨r, List.mem_append_right _ List.mem_cons_self, hsettles.requested q hq⟩

/--
Over any run the protocols get, in order, what each call should deliver: the indications that go past the
clients as they are, and the frames that the clients approve of, with their bytes. The clients are asked about
nothing else.
-/
theorem receive_run (a : Adapt) (hpending : AllPending a.pendingTransfertData) (rs : List (Reception ι))
    (honest : ∀ r ∈ rs, r.Honest)
    : ((Run.run receptionStep (a, []) rs).2.filterMap Call.delivered =
          rs.filterMap fun r => r.delivery a) ∧
        ∀ q ∈ (Run.run receptionStep (a, []) rs).2.filterMap Call.requested,
          ∃ r ∈ rs, r.offered a = some q := by
  have hstart : UpToDate a ([] : List (Reception ι)) (a, []) := by
    constructor
    . exact ⟨a.pendingTransfertData, hpending, rfl⟩
    . rfl
    . intro q hq
      cases hq
  have hstep : ∀ rs' s (r : Reception ι), UpToDate a rs' s → r.Honest →
      UpToDate a (rs' ++ [r]) (receptionStep s r) := fun _ _ _ h hr => h.step hr
  have hrun := Run.inv_run_history hstep hstart (Run.along_of_forall receptionStep honest)
  exact ⟨hrun.delivered, hrun.requested⟩

/--
Two bytes of the first frame are transferred at once. The second one is the adapter's own and is passed on, the
third one is lost: its transfer ends later.
-/
def threeFrames : List (Reception Unit) :=
  let alloc : Allocations := ⟨some (1, fun _ => 0), true, true, some fun _ => 0⟩
  let ndis : Ndis := ⟨some ⟨true, false⟩, some fun _ => 0, true, NtStatus.success⟩
  let clients : Clients Unit := ⟨[()], fun _ _ => NtStatus.success⟩
  [⟨.receive ⟨List.replicate 14 7, [10, 11, 12], 1⟩ alloc ⟨NtStatus.success, [11, 12]⟩, clients, ndis, 0⟩,
    ⟨.receive ⟨List.replicate 14 0, [], 0⟩ alloc ⟨NtStatus.pending, []⟩, clients, ndis, 0⟩,
    ⟨.receive ⟨List.replicate 14 7, [10, 11, 12], 1⟩ alloc ⟨NtStatus.pending, []⟩, clients, ndis, 0⟩,
    ⟨.transferComplete 1 ⟨NtStatus.success, [11, 12]⟩ (some fun _ => 0), clients, ndis, 0⟩]

theorem delivered_threeFrames
    : (Run.run receptionStep (⟨true, true, false, [], List.replicate 6 0, []⟩, []) threeFrames).2.filterMap
          Call.delivered =
        [.packet (List.replicate 14 7 ++ [10, 11, 12]) 0, .original] := by
  refine (receive_run ⟨true, true, false, [], List.replicate 6 0, []⟩ ?_ threeFrames ?_).1.trans ?_
  . intro p hp
    cases hp
  . intro r hr ind alloc transfer hevent
    simp only [threeFrames, List.mem_cons, List.not_mem_nil, or_false] at hr
    rcases hr with rfl | rfl | rfl | rfl
    . injection hevent with hind _ htransfer
      rw [← hind, ← htransfer]
      exact ⟨by decide, fun _ => rfl⟩
    . injection hevent with hind _ htransfer
      rw [← hind, ← htransfer]
      exact ⟨by decide, fun hsuccess => absurd hsuccess (by decide)⟩
    . injection hevent with hind _ htransfer
      rw [← hind, ← htransfer]
      exact ⟨by decide, fun hsuccess => absurd hsuccess (by decide)⟩
    . cases hevent
  . rfl

end Ansfltr.DataPath
