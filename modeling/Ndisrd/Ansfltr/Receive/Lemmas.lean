import Ndisrd.Ansfltr.Receive.Impl

/-!
This module contains what the receive path delivers: the bytes that `UF_ReadOnPacket` reads, and the
frames for which exactly one packet with the frame's bytes is injected.
-/

namespace Ansfltr

theorem ufReadOnPacketLoop_eq (buffers : List (List UInt8)) (n nOffset : Nat) (lpBuffer : Nat → UInt8)
    (numberOfBytesRead : Nat)
    : ufReadOnPacketLoop buffers n nOffset lpBuffer numberOfBytesRead =
        (Memory.store lpBuffer numberOfBytesRead ((buffers.flatten.drop nOffset).take n),
          numberOfBytesRead + ((buffers.flatten.drop nOffset).take n).length) := by
  induction buffers generalizing n nOffset lpBuffer numberOfBytesRead with
  | nil => simp [ufReadOnPacketLoop]
  | cons virtualAddress buffers ih =>
    unfold ufReadOnPacketLoop
    split
    next hdone => simp [hdone.2]
    next hgo =>
      have hlen : (virtualAddress.drop nOffset).length = virtualAddress.length - nOffset :=
        List.length_drop
      simp only [List.flatten_cons, List.drop_append, List.take_append, hlen]
      by_cases hinside : virtualAddress.length > nOffset
      . simp only [if_pos hinside, Nat.sub_self]
        rw [if_neg (by omega), ih]
        have hzero : nOffset - virtualAddress.length = 0 := by omega
        simp only [hzero, List.drop_zero]
        -- the buffer ends the read, or all of it behind the offset is read
        by_cases hlast : virtualAddress.length - nOffset > n
        . have hrest : n - (virtualAddress.length - nOffset) = 0 := by omega
          simp only [if_pos hlast, Nat.sub_self, hrest, List.take_zero, List.append_nil,
            Memory.store_nil, List.length_nil, Nat.add_zero, List.length_take, hlen]
          congr 1
          omega
        . have hwhole : ∀ m, virtualAddress.length - nOffset ≤ m →
              (virtualAddress.drop nOffset).take m = virtualAddress.drop nOffset :=
            fun m hm => List.take_of_length_le (by omega)
          simp only [if_neg hlast, hwhole _ (Nat.le_refl _), hwhole n (by omega), ← Memory.store_append,
            List.length_append, hlen, Nat.add_assoc]
      . simp only [if_neg hinside, Nat.sub_self, or_true, if_true]
        rw [ih]
        have hnone : virtualAddress.drop nOffset = [] := List.drop_eq_nil_of_le (by omega)
        have hzero : virtualAddress.length - nOffset = 0 := by omega
        simp only [hnone, hzero, List.take_nil, List.nil_append, Nat.sub_zero]

/--
`UF_ReadOnPacket` stores the bytes of the packet behind the offset, as many as it is to read and the
packet has.
-/
theorem ufReadOnPacket_eq (buffers : List (List UInt8)) (lpBuffer : Nat → UInt8) (n nOffset : Nat)
    : ufReadOnPacket buffers lpBuffer n nOffset =
        (Memory.store lpBuffer 0 ((buffers.flatten.drop nOffset).take n),
          ((buffers.flatten.drop nOffset).take n).length) := by
  unfold ufReadOnPacket
  split
  next hzero => simp [hzero]
  next => rw [ufReadOnPacketLoop_eq, Nat.zero_add]

/-! ### The bytes of a gathered frame -/

def Indication.frame (ind : Indication) : List UInt8 := ind.header ++ ind.data

theorem Indication.lookAhead_append (ind : Indication) : ind.lookAhead ++ ind.residual = ind.data :=
  List.take_append_drop _ _

theorem Indication.length_residual (ind : Indication) : ind.residual.length = ind.nResidualSize :=
  List.length_drop

theorem NdishkPacket.virtualAddresses_reorder {p : NdishkPacket} {b : NdisBuffer}
    {rest : List NdisBuffer} (h : p.chain = b :: rest)
    : p.reorder.virtualAddresses =
        (rest ++ [b]).map fun b => Memory.load p.iBuffer b.start b.length := by
  unfold virtualAddresses reorder
  rw [h]

theorem virtualAddresses_gather {ind : Indication} (hwhole : ind.nResidualSize = 0)
    (address : Nat) (iBuffer : Nat → UInt8)
    : (gather ind address iBuffer).reorder.virtualAddresses.flatten = ind.frame := by
  have hdata : ind.lookAhead = ind.data := by
    apply List.take_of_length_le
    unfold Indication.nResidualSize Indication.packetSize at hwhole
    omega
  have hlen : ind.header.length + ind.packetSize - ind.nResidualSize = ind.frame.length := by
    rw [hwhole, Indication.frame, List.length_append]
    rfl
  have hbuffer : (gather ind address iBuffer).iBuffer = Memory.store iBuffer 0 ind.frame := by
    rw [Indication.frame, ← Memory.store_append, Nat.zero_add, ← hdata]
    rfl
  rw [NdishkPacket.virtualAddresses_reorder rfl, hbuffer, hlen]
  simp only [List.nil_append, List.map_cons, List.map_nil, List.flatten_cons, List.flatten_nil,
    List.append_nil]
  apply Memory.load_store

section Residual

variable {ind : Indication} (hlook : ind.lookAheadBufferSize ≤ ind.packetSize)
include hlook

theorem iBuffer_transferData (address : Nat) (iBuffer : Nat → UInt8) (status : NtStatus)
    : (transferData ind ⟨status, ind.residual⟩ (gather ind address iBuffer)).iBuffer =
        Memory.store iBuffer 0 ind.frame := by
  have hresidual := ind.length_residual
  have htake : ind.residual.take ind.nResidualSize = ind.residual :=
    List.take_of_length_le (by omega)
  have hdrop : ind.residual.drop ind.nResidualSize = [] := List.drop_eq_nil_of_le (by omega)
  have hlookAhead : ind.lookAhead.length = ind.lookAheadBufferSize := by
    rw [Indication.lookAhead, List.length_take]
    exact Nat.min_eq_left hlook
  have hfill : (transferData ind ⟨status, ind.residual⟩ (gather ind address iBuffer)).iBuffer =
      Memory.store (Memory.store (Memory.store iBuffer 0 ind.header) ind.header.length ind.lookAhead)
        (ind.header.length + ind.lookAheadBufferSize) ind.residual := by
    simp only [transferData, NdishkPacket.fill, fillChain, htake, hdrop, List.take_nil,
      Memory.store_nil, gather]
  calc (transferData ind ⟨status, ind.residual⟩ (gather ind address iBuffer)).iBuffer
    _ = Memory.store (Memory.store (Memory.store iBuffer 0 ind.header) (0 + ind.header.length)
          ind.lookAhead) (0 + (ind.header ++ ind.lookAhead).length) ind.residual := by
      rw [hfill, List.length_append, hlookAhead, Nat.zero_add, Nat.zero_add]
    _ = Memory.store iBuffer 0 ind.frame := by
      rw [Memory.store_append, Memory.store_append, List.append_assoc, ind.lookAhead_append]
      rfl

-- The transfer fills the first buffer of the chain, the reordering puts it behind the other.
theorem virtualAddresses_transferData (address : Nat) (iBuffer : Nat → UInt8) (status : NtStatus)
    : (transferData ind ⟨status, ind.residual⟩
        (gather ind address iBuffer)).reorder.virtualAddresses.flatten = ind.frame := by
  have hfirst : ind.header.length + ind.packetSize - ind.nResidualSize =
      ind.header.length + ind.lookAheadBufferSize := by
    unfold Indication.nResidualSize
    omega
  have hlen : ind.header.length + ind.lookAheadBufferSize + ind.nResidualSize = ind.frame.length := by
    rw [Indication.frame, List.length_append]
    unfold Indication.nResidualSize Indication.packetSize at *
    omega
  rw [NdishkPacket.virtualAddresses_reorder rfl, iBuffer_transferData hlook]
  simp only [gather, hfirst, List.singleton_append, List.map_cons, List.map_nil, List.flatten_cons,
    List.flatten_nil, List.append_nil]
  have hwindows := Memory.load_add (Memory.store iBuffer 0 ind.frame) 0
    (ind.header.length + ind.lookAheadBufferSize) ind.nResidualSize
  rw [Nat.zero_add] at hwindows
  rw [← hwindows, hlen]
  apply Memory.load_store

end Residual

/-! ### What `PtTransferDataComplete` does with the first packet of the list -/

def injected (effects : List ReceiveEffect) : List FltPacket :=
  effects.filterMap fun effect =>
    match effect with
    | .fltInjectRequest pBuffer => some pBuffer
    | _ => none

def HoldsFrame (ind : Indication) (pBuffer : FltPacket) : Prop :=
  Memory.load pBuffer.buffer 0 pBuffer.bufferSize = ind.frame

theorem ptTransferDataComplete_success {a : Adapt} {pHKPacket : NdishkPacket}
    {pending : List NdishkPacket} (hready : a.miniportHandle = true)
    (hpending : a.pendingTransfertData = pHKPacket :: pending)
    (hstatus : pHKPacket.nTransferDataStatus = NtStatus.success) (status : NtStatus)
    (bytesTransferred : Nat) (memory : Nat → UInt8)
    : (ptTransferDataComplete a pHKPacket.address status bytesTransferred (some memory)).2 =
        let read := ufReadOnPacket pHKPacket.reorder.virtualAddresses memory
          pHKPacket.ndisQueryPacketLength 0
        [.fltInjectRequest ⟨.inbound, read.2, read.1⟩, .freePacketAndBuffers pHKPacket.address] := by
  have hfind : a.pendingTransfertData.find? (fun p => p.address = pHKPacket.address) =
      some pHKPacket := by
    rw [hpending]
    exact List.find?_cons_of_pos (by simp)
  have hne : a.pendingTransfertData ≠ [] := by
    rw [hpending]
    exact List.cons_ne_nil _ _
  unfold ptTransferDataComplete
  rw [hready, if_neg (by simp), if_neg hne, hfind]
  simp only [hstatus, ne_eq, not_true_eq_false, if_false]

theorem ptTransferDataComplete_failed {a : Adapt} {packet : Nat} {pHKPacket : NdishkPacket}
    (hready : a.miniportHandle = true)
    (hfind : a.pendingTransfertData.find? (fun p => p.address = packet) = some pHKPacket)
    (hstatus : pHKPacket.nTransferDataStatus ≠ NtStatus.success) (status : NtStatus)
    (bytesTransferred : Nat) (memory : Option (Nat → UInt8))
    : (ptTransferDataComplete a packet status bytesTransferred memory).2 =
        [.freePacketAndBuffers packet] := by
  have hne : a.pendingTransfertData ≠ [] := by
    intro hnil
    rw [hnil] at hfind
    cases hfind
  unfold ptTransferDataComplete
  rw [hready, if_neg (by simp), if_neg hne, hfind]
  simp only [ne_eq, hstatus, not_false_eq_true, if_true]

theorem holdsFrame_of_read {ind : Indication} {pHKPacket : NdishkPacket}
    (hbytes : pHKPacket.reorder.virtualAddresses.flatten = ind.frame)
    (hlength : pHKPacket.ndisQueryPacketLength = ind.frame.length) (memory : Nat → UInt8)
    : let read := ufReadOnPacket pHKPacket.reorder.virtualAddresses memory
        pHKPacket.ndisQueryPacketLength 0
      HoldsFrame ind ⟨.inbound, read.2, read.1⟩ := by
  intro read
  have hread : read = (Memory.store memory 0 ind.frame, ind.frame.length) := by
    simp only [read, ufReadOnPacket_eq, hbytes, hlength, List.drop_zero, List.take_length]
  rw [hread]
  apply Memory.load_store

/-! ### Receive indications -/

/--
The indication reaches `PtReceive` past its tests.
-/
structure Accepted (a : Adapt) (ind : Indication) : Prop where
  miniportHandle : a.miniportHandle = true
  mpDeviceStateD0 : a.mpDeviceStateD0 = true
  loopback : isLoopback a ind = false
  size : ind.header.length + ind.packetSize ≤ maxEtherSize

def succeeding (address : Nat) (iBuffer memory : Nat → UInt8) : Allocations :=
  ⟨some (address, iBuffer), true, true, some memory⟩

theorem ptReceive_of_accepted {a : Adapt} {ind : Indication} (h : Accepted a ind) (address : Nat)
    (iBuffer memory : Nat → UInt8) (transfer : Transfer)
    : ptReceive a ind (succeeding address iBuffer memory) transfer =
        if ind.nResidualSize = 0 then
          endReceive a (gather ind address iBuffer) (some memory)
        else
          endReceive a (transferData ind transfer (gather ind address iBuffer)) (some memory) := by
  have hnotlarge : ¬ind.header.length + ind.packetSize > maxEtherSize := Nat.not_lt.mpr h.size
  unfold ptReceive
  rw [h.miniportHandle, h.mpDeviceStateD0, h.loopback, if_neg (by simp), if_neg (by simp),
    if_neg hnotlarge]
  rfl

theorem endReceive_success {a : Adapt} (hready : a.miniportHandle = true) {ind : Indication}
    {pHKPacket : NdishkPacket} (hstatus : pHKPacket.nTransferDataStatus = NtStatus.success)
    (hbytes : pHKPacket.reorder.virtualAddresses.flatten = ind.frame)
    (hlength : pHKPacket.ndisQueryPacketLength = ind.frame.length) (memory : Nat → UInt8)
    : ∃ pBuffer, HoldsFrame ind pBuffer ∧
        (endReceive a pHKPacket (some memory)).effects =
          [.fltInjectRequest pBuffer, .freePacketAndBuffers pHKPacket.address] := by
  have hnotpending : pHKPacket.nTransferDataStatus ≠ NtStatus.pending := by
    rw [hstatus]
    decide
  refine ⟨_, holdsFrame_of_read hbytes hlength memory, ?_⟩
  unfold endReceive
  rw [if_pos hnotpending]
  exact ptTransferDataComplete_success
    (a := { a with pendingTransfertData := pHKPacket :: a.pendingTransfertData }) hready rfl hstatus _
    _ memory

theorem endReceive_pending (a : Adapt) {pHKPacket : NdishkPacket}
    (hstatus : pHKPacket.nTransferDataStatus = NtStatus.pending) (memory : Option (Nat → UInt8))
    : endReceive a pHKPacket memory =
        ⟨NtStatus.success, { a with pendingTransfertData := pHKPacket :: a.pendingTransfertData },
          []⟩ := by
  unfold endReceive
  rw [if_neg (by simpa using hstatus)]

theorem ndisQueryPacketLength_gather {ind : Indication} (hwhole : ind.nResidualSize = 0)
    (address : Nat) (iBuffer : Nat → UInt8)
    : (gather ind address iBuffer).ndisQueryPacketLength = ind.frame.length := by
  simp [NdishkPacket.ndisQueryPacketLength, gather, hwhole, Indication.frame, Indication.packetSize]

theorem ndisQueryPacketLength_transferData (ind : Indication) (transfer : Transfer) (address : Nat)
    (iBuffer : Nat → UInt8)
    : (transferData ind transfer (gather ind address iBuffer)).ndisQueryPacketLength =
        ind.frame.length := by
  have hsub : ind.nResidualSize ≤ ind.header.length + ind.packetSize := by
    unfold Indication.nResidualSize
    omega
  have hframe : ind.frame.length = ind.header.length + ind.packetSize := List.length_append
  simp only [NdishkPacket.ndisQueryPacketLength, transferData, NdishkPacket.fill, gather,
    List.foldr_cons, List.foldr_nil]
  omega

/-! ### What happens to other packets in between -/

def pendingPacket (a : Adapt) (packet : Nat) : Option NdishkPacket :=
  a.pendingTransfertData.find? fun pHKPacket => pHKPacket.address = packet

structure SameFor (packet : Nat) (a a' : Adapt) : Prop where
  pending : pendingPacket a' packet = pendingPacket a packet
  miniportHandle : a'.miniportHandle = a.miniportHandle

theorem SameFor.refl (packet : Nat) (a : Adapt) : SameFor packet a a := ⟨rfl, rfl⟩

theorem SameFor.trans {packet : Nat} {a b c : Adapt} (h : SameFor packet a b) (h' : SameFor packet b c)
    : SameFor packet a c :=
  ⟨h'.pending.trans h.pending, h'.miniportHandle.trans h.miniportHandle⟩

theorem find_eraseP_other {packet other : Nat} (hne : other ≠ packet) (l : List NdishkPacket)
    : (l.eraseP fun p => p.address = other).find? (fun p => p.address = packet) =
        l.find? fun p => p.address = packet := by
  induction l with
  | nil => rfl
  | cons p l ih =>
    by_cases hp : p.address = other
    . rw [List.eraseP_cons_of_pos (by simpa using hp), List.find?_cons_of_neg]
      simp only [hp, decide_eq_true_eq]
      exact hne
    . rw [List.eraseP_cons_of_neg (by simpa using hp), List.find?_cons, List.find?_cons, ih]

theorem sameFor_ptTransferDataComplete {packet other : Nat} (hne : other ≠ packet) (a : Adapt)
    (status : NtStatus) (bytesTransferred : Nat) (memory : Option (Nat → UInt8))
    : SameFor packet a (ptTransferDataComplete a other status bytesTransferred memory).1 := by
  have herased : SameFor packet a { a with
      pendingTransfertData := a.pendingTransfertData.eraseP fun p => p.address = other } :=
    ⟨find_eraseP_other hne _, rfl⟩
  unfold ptTransferDataComplete
  split
  . exact SameFor.refl packet a
  . split
    . exact SameFor.refl packet a
    . split
      . exact SameFor.refl packet a
      . simp only
        split
        . exact herased
        . split
          . exact herased
          . exact herased

theorem sameFor_endReceive {packet : Nat} {pHKPacket : NdishkPacket}
    (hne : pHKPacket.address ≠ packet) (a : Adapt) (memory : Option (Nat → UInt8))
    : SameFor packet a (endReceive a pHKPacket memory).adapter := by
  have hinsert : SameFor packet a
      { a with pendingTransfertData := pHKPacket :: a.pendingTransfertData } :=
    ⟨List.find?_cons_of_neg (by simpa using hne), rfl⟩
  unfold endReceive
  simp only
  split
  . exact hinsert.trans (sameFor_ptTransferDataComplete hne _ _ _ memory)
  . exact hinsert

theorem sameFor_ptReceive {packet : Nat} (a : Adapt) (ind : Indication) (alloc : Allocations)
    (transfer : Transfer) (hne : ∀ address iBuffer, alloc.packet = some (address, iBuffer) →
      address ≠ packet)
    : SameFor packet a (ptReceive a ind alloc transfer).adapter := by
  unfold ptReceive
  simp only
  split
  . exact SameFor.refl packet a
  . split
    . exact SameFor.refl packet a
    . split
      . exact SameFor.refl packet a
      . split
        . exact SameFor.refl packet a
        next address iBuffer halloc =>
          split
          . exact SameFor.refl packet a
          . split
            . exact sameFor_endReceive (hne address iBuffer halloc) a alloc.memory
            . split
              . exact SameFor.refl packet a
              . exact sameFor_endReceive (hne address iBuffer halloc) a alloc.memory

theorem pendingPacket_fillPending (a : Adapt) (packet other : Nat) (bytes : List UInt8)
    : pendingPacket (fillPending a other bytes) packet =
        (pendingPacket a packet).map fun p => if p.address = other then p.fill bytes else p := by
  unfold pendingPacket fillPending
  rw [List.find?_map]
  congr 2
  funext p
  simp only [Function.comp_apply]
  split
  . rfl
  . rfl

theorem sameFor_step {packet : Nat} (a : Adapt) (e : AdapterEvent) (hne : e.packet ≠ some packet)
    : SameFor packet a (adapterStep a e) := by
  cases e with
  | receive ind alloc transfer =>
    apply sameFor_ptReceive
    intro address iBuffer halloc heq
    apply hne
    simp [AdapterEvent.packet, halloc, heq]
  | transferComplete other transfer memory =>
    have hother : other ≠ packet := fun heq => hne (by simp [AdapterEvent.packet, heq])
    apply SameFor.trans ?_ (sameFor_ptTransferDataComplete hother _ _ _ memory)
    refine ⟨?_, rfl⟩
    rw [pendingPacket_fillPending]
    cases hfind : pendingPacket a packet with
    | none => rfl
    | some p =>
      have hp : p.address = packet := by simpa using List.find?_some hfind
      rw [Option.map_some, if_neg]
      rw [hp]
      exact fun heq => hother heq.symm

theorem sameFor_run {packet : Nat} (a : Adapt) {es : List AdapterEvent}
    (hne : ∀ e ∈ es, e.packet ≠ some packet)
    : SameFor packet a (Run.run adapterStep a es) := by
  have hstep : ∀ b e, SameFor packet a b → e.packet ≠ some packet →
      SameFor packet a (adapterStep b e) := by
    intro b e hb he
    exact hb.trans (sameFor_step b e he)
  exact Run.inv_run hstep (SameFor.refl packet a) (Run.along_of_forall adapterStep hne)

/-! ### The packets that one indication injects -/

/--
Where the transfer of the residual ends: inside `NdisTransferData`, or behind the events that go on in
the meantime.
-/
inductive TransferEnd where
  | inside
  | later (es : List AdapterEvent)

/--
All that is done for one indication, whose residual is transferred whole. Without a residual there is
no transfer.
-/
def indicationEffects (a : Adapt) (ind : Indication) (address : Nat) (iBuffer memory : Nat → UInt8)
    : TransferEnd → List ReceiveEffect
  | .inside =>
    (ptReceive a ind (succeeding address iBuffer memory) ⟨NtStatus.success, ind.residual⟩).effects
  | .later es =>
    let received := ptReceive a ind (succeeding address iBuffer memory) ⟨NtStatus.pending, []⟩
    if ind.nResidualSize = 0 then
      received.effects
    else
      received.effects ++
        (ndisTransferDataComplete (Run.run adapterStep received.adapter es) address
          ⟨NtStatus.success, ind.residual⟩ (some memory)).2

theorem injected_later {a : Adapt} {ind : Indication} (h : Accepted a ind) (address : Nat)
    (iBuffer memory : Nat → UInt8) (hrest : ind.nResidualSize ≠ 0) {es : List AdapterEvent}
    (hes : ∀ e ∈ es, e.packet ≠ some address)
    : injected (indicationEffects a ind address iBuffer memory (.later es)) = [] := by
  unfold indicationEffects
  simp only [if_neg hrest, ptReceive_of_accepted h]
  rw [endReceive_pending a rfl]
  generalize hpkt : transferData ind ⟨NtStatus.pending, []⟩ (gather ind address iBuffer) = pHKPacket
  have haddress : pHKPacket.address = address := by rw [← hpkt]; rfl
  have hstatus : pHKPacket.nTransferDataStatus = NtStatus.pending := by rw [← hpkt]; rfl
  have hsame := sameFor_run { a with pendingTransfertData := pHKPacket :: a.pendingTransfertData } hes
  generalize Run.run adapterStep { a with
    pendingTransfertData := pHKPacket :: a.pendingTransfertData } es = a' at hsame ⊢
  have hpending : pendingPacket a' address = some pHKPacket := by
    rw [hsame.pending]
    exact List.find?_cons_of_pos (by simpa using haddress)
  -- the status in the packet is still the one that `NdisTransferData` returned
  have hfind : pendingPacket (fillPending a' address ind.residual) address =
      some (pHKPacket.fill ind.residual) := by
    rw [pendingPacket_fillPending, hpending, Option.map_some, if_pos haddress]
  have hfailed : (pHKPacket.fill ind.residual).nTransferDataStatus ≠ NtStatus.success := by
    have : (pHKPacket.fill ind.residual).nTransferDataStatus = pHKPacket.nTransferDataStatus := rfl
    rw [this, hstatus]
    decide
  unfold ndisTransferDataComplete
  rw [ptTransferDataComplete_failed (a := fillPending a' address ind.residual)
    (hsame.miniportHandle.trans h.miniportHandle) hfind hfailed]
  rfl

theorem injected_frame {a : Adapt} {ind : Indication} (h : Accepted a ind)
    (hlook : ind.lookAheadBufferSize ≤ ind.packetSize) (address : Nat) (iBuffer memory : Nat → UInt8)
    {transferEnd : TransferEnd} (hwhen : ind.nResidualSize = 0 ∨ transferEnd = .inside)
    : ∃ pBuffer, HoldsFrame ind pBuffer ∧
        injected (indicationEffects a ind address iBuffer memory transferEnd) = [pBuffer] := by
  have hinjected : ∀ packet {effects pBuffer},
      effects = [.fltInjectRequest pBuffer, .freePacketAndBuffers packet] →
        injected effects = [pBuffer] := by
    rintro packet _ pBuffer rfl
    rfl
  by_cases hwhole : ind.nResidualSize = 0
  . obtain ⟨pBuffer, hholds, heffects⟩ := endReceive_success h.miniportHandle rfl
      (virtualAddresses_gather hwhole address iBuffer)
      (ndisQueryPacketLength_gather hwhole address iBuffer) memory
    refine ⟨pBuffer, hholds, hinjected address ?_⟩
    cases transferEnd with
    | inside =>
      unfold indicationEffects
      rw [ptReceive_of_accepted h, if_pos hwhole]
      exact heffects
    | later es =>
      unfold indicationEffects
      simp only [if_pos hwhole, ptReceive_of_accepted h]
      exact heffects
  . rw [hwhen.resolve_left hwhole]
    obtain ⟨pBuffer, hholds, heffects⟩ := endReceive_success h.miniportHandle rfl
      (virtualAddresses_transferData hlook address iBuffer NtStatus.success)
      (ndisQueryPacketLength_transferData ind _ address iBuffer) memory
    refine ⟨pBuffer, hholds, hinjected address ?_⟩
    unfold indicationEffects
    rw [ptReceive_of_accepted h, if_neg hwhole]
    exact heffects

theorem ptReceive_injects_frame_iff (a : Adapt) (ind : Indication) (h : Accepted a ind)
    (hlook : ind.lookAheadBufferSize ≤ ind.packetSize) (address : Nat) (iBuffer memory : Nat → UInt8)
    (transferEnd : TransferEnd)
    (hend : ∀ es, transferEnd = .later es → ∀ e ∈ es, e.packet ≠ some address)
    : (∃ pBuffer, HoldsFrame ind pBuffer ∧
          injected (indicationEffects a ind address iBuffer memory transferEnd) = [pBuffer]) ↔
        ind.nResidualSize = 0 ∨ transferEnd = .inside := by
  constructor
  . rintro ⟨pBuffer, _, hinjected⟩
    by_contra hnot
    rw [not_or] at hnot
    cases transferEnd with
    | inside => exact hnot.2 rfl
    | later es =>
      rw [injected_later h address iBuffer memory hnot.1 (hend es rfl)] at hinjected
      cases hinjected
  . exact injected_frame h hlook address iBuffer memory

theorem ptReceive_injects_frame_inside
    : let a : Adapt := ⟨true, true, false, [], [0, 1, 2, 3, 4, 5], []⟩
      let ind : Indication := ⟨List.replicate 14 7, [10, 11, 12], 1⟩
      ∃ pBuffer, HoldsFrame ind pBuffer ∧
        injected (indicationEffects a ind 1 (fun _ => 0) (fun _ => 0) .inside) = [pBuffer] := by
  apply (ptReceive_injects_frame_iff ⟨true, true, false, [], [0, 1, 2, 3, 4, 5], []⟩
    ⟨List.replicate 14 7, [10, 11, 12], 1⟩ ⟨rfl, rfl, by decide, by decide⟩ (by decide) 1 (fun _ => 0)
    (fun _ => 0) .inside ?_).mpr
  . exact Or.inr rfl
  . rintro es ⟨⟩

/--
Two of three bytes of data are transferred later, and with success: no packet is injected.
-/
theorem ptReceive_later_injects_nothing
    : let a : Adapt := ⟨true, true, false, [], [0, 1, 2, 3, 4, 5], []⟩
      let ind : Indication := ⟨List.replicate 14 7, [10, 11, 12], 1⟩
      Accepted a ind ∧ ind.lookAheadBufferSize ≤ ind.packetSize ∧
        injected (indicationEffects a ind 1 (fun _ => 0) (fun _ => 0) (.later [])) = [] :=
  ⟨⟨rfl, rfl, by decide, by decide⟩, by decide, rfl⟩

end Ansfltr
