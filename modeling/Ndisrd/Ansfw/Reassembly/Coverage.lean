import Ndisrd.Ansfw.Reassembly.Lemmas

/-!
This module contains what the bitmap of a datagram knows about its fragments: which units a fragment
marks, which bytes it carries, and from that when it completes its datagram. Bytes of a datagram are
counted from the start of its IP header.
-/

namespace Ansfw

structure PlainHeader (h : FragHdr) : Prop where
  hdr : h.ipHeaderSize = 20
  min : 20 ≤ h.fullLength
  max : h.fullLength < 65536

def Carries (h : FragHdr) (j : Nat) : Prop := h.offset * 8 + 20 ≤ j ∧ j < h.offset * 8 + h.fullLength

def Marks (h : FragHdr) (u : Nat) : Prop := h.offset ≤ u ∧ u < h.offset + h.fullLength / 8

def headOps (h : FragHdr) : List MemOp :=
  [.copy 0 0 14, .copy 14 14 h.fullLength, .setBits 0 (h.fullLength / 8)]

def tailOps (h : FragHdr) : List MemOp :=
  [.copy 0 0 14, .copy (h.offset * 8 + 34) 34 (h.fullLength - 20),
    .setBits h.offset (h.fullLength / 8)]

def PlacesFragment (h : FragHdr) (ops : List MemOp) : Prop :=
  h.offset = 0 ∧ ops = headOps h ∨ (h.offset = 0 → h.moreFragments = false) ∧ ops = tailOps h

section PlainHeader

variable {h : FragHdr} (hh : PlainHeader h)
include hh

theorem PlainHeader.datasize : h.datasize = h.fullLength - 20 := by
  have := hh.min
  have := hh.max
  rw [FragHdr.datasize, hh.hdr]
  omega

theorem PlainHeader.lastbit : h.lastbit = h.fullLength / 8 := by
  have := hh.min
  have := hh.max
  rw [FragHdr.lastbit, hh.datasize, hh.hdr]
  omega

theorem placesFragment_existingOps {ops : List MemOp} (hops : existingOps h = some ops)
    : PlacesFragment h ops := by
  unfold existingOps at hops
  split at hops
  . next hfirst =>
    injection hops with hops
    refine Or.inl ⟨hfirst.2, ?_⟩
    rw [← hops, hfirst.2]
    rfl
  . next hfirst =>
    split at hops
    . cases hops
    . injection hops with hops
      refine Or.inr ⟨?_, ?_⟩
      . intro hoff
        simpa using fun hmore => hfirst ⟨hmore, hoff⟩
      . rw [← hops, hh.datasize, hh.lastbit, hh.hdr]
        rfl

theorem placesFragment_newOps : PlacesFragment h (newOps h) := by
  unfold newOps
  split
  . next hoff =>
    refine Or.inl ⟨hoff, ?_⟩
    rw [hoff]
    rfl
  . next hoff =>
    refine Or.inr ⟨fun h0 => absurd h0 hoff, ?_⟩
    rw [hh.datasize, hh.hdr]
    rfl

end PlainHeader

def CopiedBy (ops : List MemOp) (i : Nat) : Prop :=
  ∃ dst src len, MemOp.copy dst src len ∈ ops ∧ dst ≤ i ∧ i < dst + len

theorem copiedBy_append (ops ops' : List MemOp) (i : Nat)
    : CopiedBy (ops ++ ops') i ↔ CopiedBy ops i ∨ CopiedBy ops' i := by
  simp only [CopiedBy, List.mem_append, or_and_right, exists_or]

theorem PlacesFragment.copiedBy {h : FragHdr} {ops : List MemOp} (hops : PlacesFragment h ops) {j : Nat}
    (hj : 20 ≤ j)
    : CopiedBy ops (mHdrSize + j) ↔ Carries h j := by
  rcases hops with ⟨hoff, hops⟩ | ⟨_, hops⟩
  . rw [hops]
    simp only [CopiedBy, headOps, Carries, List.mem_cons, MemOp.copy.injEq, List.not_mem_nil,
      reduceCtorEq, or_false, hoff, mHdrSize]
    constructor
    . rintro ⟨dst, src, len, ⟨h1, h2, h3⟩ | ⟨h1, h2, h3⟩, hge, hlt⟩
      . omega
      . omega
    . intro hc
      exact ⟨14, 14, h.fullLength, Or.inr ⟨rfl, rfl, rfl⟩, by omega, by omega⟩
  . rw [hops]
    simp only [CopiedBy, tailOps, Carries, List.mem_cons, MemOp.copy.injEq, List.not_mem_nil,
      reduceCtorEq, or_false, mHdrSize]
    constructor
    . rintro ⟨dst, src, len, ⟨h1, h2, h3⟩ | ⟨h1, h2, h3⟩, hge, hlt⟩
      . omega
      . omega
    . intro hc
      exact ⟨_, _, _, Or.inr ⟨rfl, rfl, rfl⟩, by omega, by omega⟩

theorem PlacesFragment.setAll {h : FragHdr} {ops : List MemOp} (hops : PlacesFragment h ops)
    (b : Bitmap) (u : Nat)
    : (DataList.setAll b ops).bits u = true ↔ b.bits u = true ∨ Marks h u := by
  rcases hops with ⟨hoff, hops⟩ | ⟨_, hops⟩
  . rw [hops]
    simp only [DataList.setAll, headOps, List.foldl_cons, List.foldl_nil, Bitmap.bits_setBits, Marks,
      hoff]
  . rw [hops]
    simp only [DataList.setAll, tailOps, List.foldl_cons, List.foldl_nil, Bitmap.bits_setBits, Marks]

theorem PlacesFragment.copyAll_payload {h : FragHdr} {ops : List MemOp} (hops : PlacesFragment h ops)
    (p : FltPacket) (buf : Nat → UInt8) {j : Nat} (hj : 20 ≤ j)
    : (Carries h j → DataList.copyAll p buf ops (mHdrSize + j) = p.buffer (mHdrSize + j - h.offset * 8)) ∧
        (¬Carries h j → DataList.copyAll p buf ops (mHdrSize + j) = buf (mHdrSize + j)) := by
  rcases hops with ⟨hoff, hops⟩ | ⟨_, hops⟩
  . rw [hops]
    simp only [DataList.copyAll, headOps, List.foldl_cons, List.foldl_nil, Carries, hoff, mHdrSize]
    constructor
    . intro hc
      rw [Buffer.copy_inside (by omega) (by omega)]
      congr 1
      omega
    . intro hc
      rw [Buffer.copy_outside (by omega), Buffer.copy_outside (by omega)]
  . rw [hops]
    simp only [DataList.copyAll, tailOps, List.foldl_cons, List.foldl_nil, Carries, mHdrSize]
    constructor
    . intro hc
      rw [Buffer.copy_inside (by omega) (by omega)]
      congr 1
      omega
    . intro hc
      rw [Buffer.copy_outside (by omega), Buffer.copy_outside (by omega)]

theorem PlacesFragment.copyAll_header {h : FragHdr} {ops : List MemOp} (hops : PlacesFragment h ops)
    (hh : PlainHeader h) (p : FltPacket) (buf : Nat → UInt8) {i : Nat} (hi : mHdrSize ≤ i)
    (hi' : i < mHdrSize + 20)
    : (h.offset = 0 → h.moreFragments = true → DataList.copyAll p buf ops i = p.buffer i) ∧
        (h.offset ≠ 0 → DataList.copyAll p buf ops i = buf i) := by
  have hmin := hh.min
  simp only [mHdrSize] at *
  rcases hops with ⟨hoff, hops⟩ | ⟨hlast, hops⟩
  . rw [hops]
    simp only [DataList.copyAll, headOps, List.foldl_cons, List.foldl_nil]
    constructor
    . intro _ _
      rw [Buffer.copy_inside hi (by omega)]
      congr 1
      omega
    . intro hne
      exact absurd hoff hne
  . rw [hops]
    simp only [DataList.copyAll, tailOps, List.foldl_cons, List.foldl_nil]
    constructor
    . intro hoff hmore
      rw [hlast hoff] at hmore
      cases hmore
    . intro hne
      rw [Buffer.copy_outside (by omega), Buffer.copy_outside (by omega)]

/-! ### The fields of a datagram that a fragment is added to -/

section AddFragment

variable (d : DataList) (r : FwRequest) (h : FragHdr) (ops : List MemOp)

theorem hasKey_addFragment (h' : FragHdr) : (addFragment d r h ops).hasKey h' = d.hasKey h' := by
  rw [addFragment, DataList.write_eq]
  repeat' split
  all_goals rfl

@[simp]
theorem ops_addFragment : (addFragment d r h ops).ops = d.ops ++ ops := by
  rw [addFragment, DataList.write_eq]
  repeat' split
  all_goals rfl

@[simp]
theorem bitMapHeader_addFragment
    : (addFragment d r h ops).bitMapHeader = DataList.setAll d.bitMapHeader ops := by
  rw [addFragment, DataList.write_eq]
  repeat' split
  all_goals rfl

@[simp]
theorem finalbuf_addFragment
    : (addFragment d r h ops).finalbuf = DataList.copyAll r.fltPacket d.finalbuf ops := by
  rw [addFragment, DataList.write_eq]
  repeat' split
  all_goals rfl

@[simp]
theorem bLast_addFragment : (addFragment d r h ops).bLast = (d.bLast || !h.moreFragments) := by
  rw [addFragment, DataList.write_eq]
  split
  . next hmore =>
    split
    . simp [hmore, DataList.copyRequest]
    . simp [hmore]
  . next hmore => simp [hmore]

@[simp]
theorem totallen_addFragment
    : (addFragment d r h ops).totallen = if h.moreFragments then d.totallen else h.totallen := by
  rw [addFragment, DataList.write_eq]
  split
  . next hmore =>
    split
    . rfl
    . rfl
  . next hmore => rfl

end AddFragment

section NewDatagram

variable (id : Nat) (r : FwRequest) (h : FragHdr)

@[simp]
theorem ops_newDatagram : (newDatagram (.zeroed id) r h).ops = newOps h := by
  rw [newDatagram, DataList.write_eq]
  repeat' split
  all_goals rfl

@[simp]
theorem bitMapHeader_newDatagram
    : (newDatagram (.zeroed id) r h).bitMapHeader =
        DataList.setAll ⟨bitsBufferLenght * 8, fun _ => false⟩ (newOps h) := by
  rw [newDatagram, DataList.write_eq]
  repeat' split
  all_goals rfl

@[simp]
theorem finalbuf_newDatagram
    : (newDatagram (.zeroed id) r h).finalbuf =
        DataList.copyAll r.fltPacket (fun _ => 0) (newOps h) := by
  rw [newDatagram, DataList.write_eq]
  repeat' split
  all_goals rfl

theorem hasKey_newDatagram (h' : FragHdr)
    : (newDatagram (.zeroed id) r h).hasKey h' = true ↔
        h.datagrID = h'.datagrID ∧ h.protocol = h'.protocol ∧ h.dest = h'.dest ∧
          h.source = h'.source := by
  rw [newDatagram, DataList.write_eq]
  repeat' split
  all_goals exact decide_eq_true_iff

theorem bLast_newDatagram
    : (newDatagram (.zeroed id) r h).bLast = (decide (h.offset ≠ 0) && !h.moreFragments) := by
  rw [newDatagram, DataList.write_eq]
  split
  . next hoff => simp [hoff, DataList.copyRequest]
  . next hoff =>
    split
    . next hmore => simp [hmore]
    . next hmore => simp [hoff, hmore]

theorem totallen_newDatagram (hoff : h.offset ≠ 0) (hmore : h.moreFragments = false)
    : (newDatagram (.zeroed id) r h).totallen = h.totallen := by
  rw [newDatagram, DataList.write_eq]
  simp [hoff, hmore]

theorem totallen_newDatagram_lt : (newDatagram (.zeroed id) r h).totallen < 65536 := by
  rw [newDatagram, DataList.write_eq]
  have hlt : h.totallen < 65536 := Nat.mod_lt _ (by decide)
  split
  . apply Nat.zero_lt_succ
  . split
    . apply Nat.zero_lt_succ
    . exact hlt

end NewDatagram

/-! ### What a datagram records of its fragments -/

structure Tracked (d : DataList) : Prop where
  plain : ∀ f ∈ d.fragmentsList, PlainHeader (fragHdr f)
  size : d.bitMapHeader.size = 8192
  total : d.totallen < 65536
  bits : ∀ u, d.bitMapHeader.bits u = true ↔ ∃ f ∈ d.fragmentsList, Marks (fragHdr f) u
  copies : ∀ j, 20 ≤ j → (CopiedBy d.ops (mHdrSize + j) ↔ ∃ f ∈ d.fragmentsList, Carries (fragHdr f) j)

theorem tracked_eraseTtl {d : DataList} : Tracked d.eraseTtl ↔ Tracked d :=
  ⟨fun h => ⟨h.plain, h.size, h.total, h.bits, h.copies⟩,
    fun h => ⟨h.plain, h.size, h.total, h.bits, h.copies⟩⟩

theorem Tracked.addFragment {d : DataList} (hd : Tracked d) {r : FwRequest} {ops : List MemOp}
    (hr : PlainHeader (fragHdr r)) (hops : PlacesFragment (fragHdr r) ops)
    : Tracked (Ansfw.addFragment d r (fragHdr r) ops) := by
  refine ⟨?_, ?_, ?_, ?_, ?_⟩
  . intro f hf
    rw [fragmentsList_addFragment] at hf
    rcases List.mem_cons.mp hf with heq | hf
    . rw [heq]
      exact hr
    . exact hd.plain f hf
  . rw [bitMapHeader_addFragment, DataList.size_setAll]
    exact hd.size
  . rw [totallen_addFragment]
    split
    . exact hd.total
    . apply Nat.mod_lt
      decide
  . intro u
    rw [bitMapHeader_addFragment, hops.setAll, hd.bits, fragmentsList_addFragment]
    simp only [List.exists_mem_cons_iff]
    exact or_comm
  . intro j hj
    rw [ops_addFragment, copiedBy_append, hops.copiedBy hj, hd.copies j hj, fragmentsList_addFragment]
    simp only [List.exists_mem_cons_iff]
    exact or_comm

theorem tracked_newDatagram (id : Nat) {r : FwRequest} (hr : PlainHeader (fragHdr r))
    : Tracked (newDatagram (.zeroed id) r (fragHdr r)) := by
  have hops := placesFragment_newOps hr
  refine ⟨?_, ?_, totallen_newDatagram_lt id r _, ?_, ?_⟩
  . intro f hf
    rw [fragmentsList_newDatagram, List.mem_singleton] at hf
    rw [hf]
    exact hr
  . rw [bitMapHeader_newDatagram, DataList.size_setAll]
    rfl
  . intro u
    rw [bitMapHeader_newDatagram, hops.setAll, fragmentsList_newDatagram]
    simp
  . intro j hj
    rw [ops_newDatagram, hops.copiedBy hj, fragmentsList_newDatagram]
    simp

def UnitsArrived (fs : List FwRequest) (total : Nat) : Prop :=
  0 < total / 8 ∧ ∀ u < total / 8, ∃ f ∈ fs, Marks (fragHdr f) u

def totalWith (d : DataList) (h : FragHdr) : Nat := if h.moreFragments then d.totallen else h.totallen

theorem complete_addFragment {d : DataList} (hd : Tracked d) {r : FwRequest} {ops : List MemOp}
    (hr : PlainHeader (fragHdr r)) (hops : PlacesFragment (fragHdr r) ops)
    : Complete (addFragment d r (fragHdr r) ops) = true ↔
        (d.bLast = true ∨ (fragHdr r).moreFragments = false) ∧
          UnitsArrived (r :: d.fragmentsList) (totalWith d (fragHdr r)) := by
  have hnew := hd.addFragment hr hops
  have hlt := hnew.total
  have hbits := hnew.bits
  rw [fragmentsList_addFragment] at hbits
  rw [totallen_addFragment] at hlt
  simp only [Complete, Bool.and_eq_true, bLast_addFragment, Bool.or_eq_true, Bool.not_eq_true',
    Bitmap.areBitsSet_iff, totallen_addFragment, hnew.size, Nat.zero_add, hbits, UnitsArrived,
    totalWith]
  refine and_congr_right fun _ => and_congr_right fun _ => ?_
  apply and_iff_right
  omega

/-! ### Runs -/

structure QueueTracked (s : Reassembly) : Prop where
  intermed : ∀ r ∈ s.intermedQueue, PlainHeader (fragHdr r)
  queue : ∀ d ∈ s.datagrQueue, Tracked d

def PlainEvent : Event → Prop
  | .reassemblePacket r => PlainHeader (fragHdr r)
  | _ => True

theorem queueTracked_initializeReassembly : QueueTracked initializeReassembly := by
  refine ⟨?_, ?_⟩
  . intro r hr
    cases hr
  . intro d hd
    cases hd

theorem QueueTracked.analyze {s : Reassembly} (hs : QueueTracked s) (env : Env) {r : FwRequest}
    (hr : PlainHeader (fragHdr r))
    : ∀ d ∈ (analyze env s r).1.datagrQueue, Tracked d := by
  obtain ⟨s', ops, heq, hana⟩ := analyzed env s r
  rw [heq]
  cases hana with
  | options => exact hs.queue
  | oversize hhdr hq =>
    intro d hd
    exact hs.queue d (hq.mem_others hd)
  | added hhdr hq hops =>
    intro d hd
    rcases hq.mem_updated hd with hd | hd
    . exact hs.queue d hd
    . rw [hd]
      exact (hs.queue _ hq.mem).addFragment hr (placesFragment_existingOps hr hops)
  | completed hhdr hq =>
    intro d hd
    rw [deliver, freeDatagram_datagrQueue] at hd
    exact hs.queue d (hq.mem_others hd)
  | tooLong => exact hs.queue
  | noBuffer => exact hs.queue
  | created hhdr hq =>
    intro d hd
    rcases List.mem_append.mp hd with hd | hd
    . exact hs.queue d hd
    . rw [List.mem_singleton.mp hd]
      exact tracked_newDatagram _ hr

theorem QueueTracked.step (s : Reassembly) (e : Event) (hs : QueueTracked s) (he : PlainEvent e)
    : QueueTracked (step s e) := by
  refine ⟨?_, ?_⟩
  . intro r hr
    rcases step_intermedQueue hr with hr | heq
    . exact hs.intermed r hr
    . rw [heq] at he
      exact he
  . cases e with
    | reassemblePacket r => exact hs.queue
    | intermed env =>
      unfold Ansfw.step
      simp only
      split
      . exact hs.queue
      . next r rest hq =>
        have hmem := hs.intermed
        rw [hq] at hmem
        have hrest : QueueTracked { s with intermedQueue := rest } :=
          ⟨fun r' hr' => hmem r' (List.mem_cons_of_mem r hr'), hs.queue⟩
        exact hrest.analyze env (hmem r List.mem_cons_self)
    | ttlPass =>
      intro d hd
      obtain ⟨d', hd', herase⟩ := ttlDecrementThreadFunc_mem hd
      rw [← tracked_eraseTtl, ← herase, tracked_eraseTtl]
      exact hs.queue d' hd'
    | freeClone id =>
      rw [Ansfw.step, freeCloneRequest_datagrQueue]
      exact hs.queue

end Ansfw
