import Ndisrd.Ansfw.Reassembly.Coverage

/-!
This module contains the delivery of fragmented datagrams: whatever way a datagram is cut into
consecutive fragments and whatever order they are analysed in, it is handed to the clients once.
-/

namespace Ansfw

/-! ### Fragmentation of a datagram -/

structure Datagram where
  ident : Nat
  protocol : Nat
  source : Nat
  dest : Nat
  length : Nat
  payload : Nat → UInt8

structure FragmentOf (D : Datagram) (start len : Nat) (more : Bool) (r : FwRequest) : Prop where
  ident : (fragHdr r).datagrID = D.ident
  protocol : (fragHdr r).protocol = D.protocol
  source : (fragHdr r).source = D.source
  dest : (fragHdr r).dest = D.dest
  hdr : (fragHdr r).ipHeaderSize = 20
  offset : (fragHdr r).offset * 8 = start
  fullLength : (fragHdr r).fullLength = 20 + len
  more : (fragHdr r).moreFragments = more
  bytes : ∀ i < len, r.fltPacket.buffer (mHdrSize + 20 + i) = D.payload (start + i)

def Fragments (D : Datagram) : Nat → List FwRequest → Prop
  | _, [] => False
  | start, [r] => start ≤ D.length ∧ FragmentOf D start (D.length - start) false r
  | start, r :: r' :: rs =>
    ∃ k, 0 < k ∧ FragmentOf D start (8 * k) true r ∧ Fragments D (start + 8 * k) (r' :: rs)

structure Piece (D : Datagram) (r : FwRequest) : Prop where
  ident : (fragHdr r).datagrID = D.ident
  protocol : (fragHdr r).protocol = D.protocol
  source : (fragHdr r).source = D.source
  dest : (fragHdr r).dest = D.dest
  hdr : (fragHdr r).ipHeaderSize = 20
  min : 20 ≤ (fragHdr r).fullLength
  fits : (fragHdr r).offset * 8 + (fragHdr r).fullLength ≤ D.length + 20
  last : (fragHdr r).moreFragments = false →
    (fragHdr r).offset * 8 + (fragHdr r).fullLength = D.length + 20
  bytes : ∀ j, Carries (fragHdr r) j →
    r.fltPacket.buffer (mHdrSize + j - (fragHdr r).offset * 8) = D.payload (j - 20)

structure Pieces (D : Datagram) (frags : List FwRequest) : Prop where
  piece : ∀ f ∈ frags, Piece D f
  units : ∀ u < (D.length + 20) / 8, ∃ f ∈ frags, Marks (fragHdr f) u
  last : frags.countP (fun f => !(fragHdr f).moreFragments) = 1
  lastOffset : ∀ f ∈ frags, (fragHdr f).moreFragments = false → (fragHdr f).offset ≠ 0
  head : ∀ f ∈ frags, ∀ g ∈ frags, (fragHdr f).offset = 0 → (fragHdr g).offset = 0 → f = g

theorem FragmentOf.piece {D : Datagram} {start len : Nat} {more : Bool} {r : FwRequest}
    (h : FragmentOf D start len more r) (hfits : start + len ≤ D.length)
    (hlast : more = false → start + len = D.length)
    : Piece D r := by
  have hoff := h.offset
  have hlen := h.fullLength
  refine ⟨h.ident, h.protocol, h.source, h.dest, h.hdr, by omega, by omega, ?_, ?_⟩
  . intro hmore
    have := hlast (h.more.symm.trans hmore)
    omega
  . intro j hj
    simp only [Carries] at hj
    have hb := h.bytes (j - 20 - start) (by omega)
    rw [show mHdrSize + j - (fragHdr r).offset * 8 = mHdrSize + 20 + (j - 20 - start) by omega, hb]
    congr 1
    omega

section Fragments

variable {D : Datagram}

theorem Fragments.start_le {start : Nat} {frags : List FwRequest} (h : Fragments D start frags)
    : start ≤ D.length := by
  induction start, frags using Fragments.induct with
  | case1 start => exact h.elim
  | case2 start r => exact h.1
  | case3 start r r' rs ih =>
    obtain ⟨k, hk, _, hrest⟩ := h
    have := ih k hrest
    omega

theorem Fragments.piece {start : Nat} {frags : List FwRequest} (h : Fragments D start frags)
    : ∀ f ∈ frags, Piece D f ∧ start ≤ (fragHdr f).offset * 8 := by
  induction start, frags using Fragments.induct with
  | case1 start => exact h.elim
  | case2 start r =>
    obtain ⟨hle, hr⟩ := h
    intro f hf
    rw [List.mem_singleton.mp hf]
    exact ⟨hr.piece (by omega) (fun _ => by omega), Nat.le_of_eq hr.offset.symm⟩
  | case3 start r r' rs ih =>
    obtain ⟨k, hk, hr, hrest⟩ := h
    have hle := hrest.start_le
    intro f hf
    rcases List.mem_cons.mp hf with hf | hf
    . rw [hf]
      exact ⟨hr.piece hle (fun h => by cases h), Nat.le_of_eq hr.offset.symm⟩
    . obtain ⟨hp, hs⟩ := ih k hrest f hf
      exact ⟨hp, by omega⟩

theorem Fragments.units {start : Nat} {frags : List FwRequest} (h : Fragments D start frags)
    : ∀ u, start ≤ u * 8 → u < (D.length + 20) / 8 → ∃ f ∈ frags, Marks (fragHdr f) u := by
  induction start, frags using Fragments.induct with
  | case1 start => exact h.elim
  | case2 start r =>
    obtain ⟨hle, hr⟩ := h
    have hoff := hr.offset
    have hlen := hr.fullLength
    intro u hu hlt
    refine ⟨r, List.mem_singleton_self r, ?_⟩
    simp only [Marks]
    omega
  | case3 start r r' rs ih =>
    obtain ⟨k, hk, hr, hrest⟩ := h
    have hoff := hr.offset
    have hlen := hr.fullLength
    intro u hu hlt
    by_cases hnear : u * 8 < start + 8 * k
    . refine ⟨r, List.mem_cons_self, ?_⟩
      simp only [Marks]
      omega
    . obtain ⟨f, hf, hmark⟩ := ih k hrest u (by omega) hlt
      exact ⟨f, List.mem_cons_of_mem r hf, hmark⟩

theorem Fragments.countP_last {start : Nat} {frags : List FwRequest} (h : Fragments D start frags)
    : frags.countP (fun f => !(fragHdr f).moreFragments) = 1 := by
  induction start, frags using Fragments.induct with
  | case1 start => exact h.elim
  | case2 start r => simp [h.2.more]
  | case3 start r r' rs ih =>
    obtain ⟨k, hk, hr, hrest⟩ := h
    rw [List.countP_cons_of_neg (by simp [hr.more])]
    exact ih k hrest

theorem Fragments.pieces {frags : List FwRequest} (h : Fragments D 0 frags)
    (hlength : 2 ≤ frags.length)
    : Pieces D frags := by
  have hunits : ∀ u < (D.length + 20) / 8, ∃ f ∈ frags, Marks (fragHdr f) u := fun u hu =>
    h.units u (by omega) hu
  have hcount := h.countP_last
  have hpiece := h.piece
  match frags, hlength with
  | r :: r' :: rs, _ =>
    obtain ⟨k, hk, hr, hrest⟩ := h
    -- every fragment behind the first one starts behind offset zero
    have hbehind : ∀ f ∈ r' :: rs, (fragHdr f).offset ≠ 0 := by
      intro f hf
      have := (hrest.piece f hf).2
      omega
    refine ⟨fun f hf => (hpiece f hf).1, hunits, hcount, ?_, ?_⟩
    . intro f hf hlast
      rcases List.mem_cons.mp hf with hf | hf
      . rw [hf, hr.more] at hlast
        cases hlast
      . exact hbehind f hf
    . have hhead : ∀ f ∈ r :: r' :: rs, (fragHdr f).offset = 0 → f = r := by
        intro f hf hoff
        rcases List.mem_cons.mp hf with hf | hf
        . exact hf
        . exact absurd hoff (hbehind f hf)
      intro f hf g hg hf0 hg0
      rw [hhead f hf hf0, hhead g hg hg0]

end Fragments

/-! ### A datagram under assembly -/

def Datagram.HasKey (D : Datagram) (d : DataList) : Prop :=
  d.ID = D.ident ∧ d.protocol = D.protocol ∧ d.destIP = D.dest ∧ d.srcIP = D.source

theorem Piece.hasKey {D : Datagram} {r : FwRequest} (hr : Piece D r) (d : DataList)
    : d.hasKey (fragHdr r) = true ↔ D.HasKey d := by
  rw [DataList.hasKey, decide_eq_true_iff, hr.ident, hr.protocol, hr.source, hr.dest]
  rfl

theorem Piece.plain {D : Datagram} {r : FwRequest} (hr : Piece D r) (hD : D.length + 20 ≤ 65535)
    : PlainHeader (fragHdr r) := by
  have := hr.fits
  exact ⟨hr.hdr, hr.min, by omega⟩

theorem Piece.existingOps {D : Datagram} {r : FwRequest} (hr : Piece D r) (hD : D.length + 20 ≤ 65535)
    : existingOps (fragHdr r) ≠ none := by
  rw [ne_eq, existingOps_eq_none]
  intro h
  have hfits := hr.fits
  have hsize := h.2
  simp only [workBufSize] at hsize
  omega

structure AssembledFrom (D : Datagram) (done : List FwRequest) (d : DataList) : Prop where
  key : D.HasKey d
  tracked : Tracked d
  fragments : ∀ f, f ∈ d.fragmentsList ↔ f ∈ done
  last : d.bLast = true ↔ ∃ f ∈ done, (fragHdr f).moreFragments = false
  total : d.bLast = true → d.totallen = D.length + 20
  payload : ∀ f ∈ done, ∀ j, Carries (fragHdr f) j → d.finalbuf (mHdrSize + j) = D.payload (j - 20)
  header : ∀ f ∈ done, (fragHdr f).offset = 0 →
    ∀ i, mHdrSize ≤ i → i < mHdrSize + 20 → d.finalbuf i = f.fltPacket.buffer i

theorem moreFragments_of_offset {r : FwRequest}
    (hlast : (fragHdr r).moreFragments = false → (fragHdr r).offset ≠ 0)
    (hoff : (fragHdr r).offset = 0)
    : (fragHdr r).moreFragments = true := by
  simpa using fun hmore => hlast hmore hoff

section Assembly

variable {D : Datagram} (hD : D.length + 20 ≤ 65535) {r : FwRequest} (hr : Piece D r)
variable (hlast : (fragHdr r).moreFragments = false → (fragHdr r).offset ≠ 0)
include hD hr hlast

theorem assembledFrom_newDatagram (id : Nat)
    : AssembledFrom D [r] (newDatagram (.zeroed id) r (fragHdr r)) := by
  have hplain := hr.plain hD
  have hops := placesFragment_newOps hplain
  have hbLast := bLast_newDatagram id r (fragHdr r)
  have hsingle : (∃ f ∈ [r], (fragHdr f).moreFragments = false) ↔
      (fragHdr r).moreFragments = false := by simp
  refine ⟨?_, tracked_newDatagram id hplain, ?_, ?_, ?_, ?_, ?_⟩
  . rw [← hr.hasKey, hasKey_newDatagram]
    exact ⟨rfl, rfl, rfl, rfl⟩
  . intro f
    rw [fragmentsList_newDatagram]
  . rw [hsingle, hbLast]
    simp only [Bool.and_eq_true, decide_eq_true_eq, Bool.not_eq_true']
    exact and_iff_right_of_imp hlast
  . rw [hbLast]
    simp only [Bool.and_eq_true, decide_eq_true_eq, Bool.not_eq_true']
    intro ⟨hoff, hmore⟩
    have hend := hr.last hmore
    rw [totallen_newDatagram id r _ hoff hmore, FragHdr.totallen]
    omega
  . intro f hf j hj
    rw [List.mem_singleton.mp hf] at hj
    rw [finalbuf_newDatagram, (hops.copyAll_payload _ _ (by have := hj.1; omega)).1 hj]
    exact hr.bytes j hj
  . intro f hf hoff i hi hi'
    rw [List.mem_singleton.mp hf] at hoff ⊢
    rw [finalbuf_newDatagram, (hops.copyAll_header hplain _ _ hi hi').1 hoff]
    exact moreFragments_of_offset hlast hoff

theorem AssembledFrom.addFragment {done : List FwRequest} {d : DataList} (hd : AssembledFrom D done d)
    {ops : List MemOp} (hops : Ansfw.existingOps (fragHdr r) = some ops)
    (hhead : ∀ f ∈ done, (fragHdr f).offset = 0 → (fragHdr r).offset = 0 → f = r)
    : AssembledFrom D (r :: done) (Ansfw.addFragment d r (fragHdr r) ops) := by
  have hplain := hr.plain hD
  have hplaces := placesFragment_existingOps hplain hops
  refine ⟨?_, hd.tracked.addFragment hplain hplaces, ?_, ?_, ?_, ?_, ?_⟩
  . rw [← hr.hasKey, hasKey_addFragment, hr.hasKey]
    exact hd.key
  . intro f
    rw [fragmentsList_addFragment, List.mem_cons, List.mem_cons, hd.fragments]
  . rw [bLast_addFragment, Bool.or_eq_true, hd.last, Bool.not_eq_true', List.exists_mem_cons_iff]
    exact or_comm
  . rw [bLast_addFragment, totallen_addFragment]
    intro hbLast
    split
    . next hmore =>
      rw [hmore] at hbLast
      exact hd.total (by simpa using hbLast)
    . next hmore =>
      have hend := hr.last (by simpa using hmore)
      rw [FragHdr.totallen]
      omega
  . intro f hf j hj
    have hj20 : 20 ≤ j := by
      have := hj.1
      omega
    rw [finalbuf_addFragment]
    obtain ⟨hin, hout⟩ := hplaces.copyAll_payload r.fltPacket d.finalbuf hj20
    by_cases hc : Carries (fragHdr r) j
    . rw [hin hc]
      exact hr.bytes j hc
    . rw [hout hc]
      rcases List.mem_cons.mp hf with hf | hf
      . rw [hf] at hj
        exact absurd hj hc
      . exact hd.payload f hf j hj
  . intro f hf hoff i hi hi'
    rw [finalbuf_addFragment]
    obtain ⟨hin, hout⟩ := hplaces.copyAll_header hplain r.fltPacket d.finalbuf hi hi'
    by_cases hr0 : (fragHdr r).offset = 0
    . have hfr : f = r := by
        rcases List.mem_cons.mp hf with hf | hf
        . exact hf
        . exact hhead f hf hoff hr0
      rw [hfr]
      exact hin hr0 (moreFragments_of_offset hlast hr0)
    . rw [hout hr0]
      rcases List.mem_cons.mp hf with hf | hf
      . rw [hf] at hoff
        exact absurd hoff hr0
      . exact hd.header f hf hoff i hi hi'

end Assembly

/-! ### The run over the fragments of a datagram -/

def analyzeStep (s : Reassembly) (er : Env × FwRequest) : Reassembly := (analyze er.1 s er.2).1

def Datagram.Absent (D : Datagram) (s : Reassembly) : Prop := ∀ d ∈ s.datagrQueue, ¬D.HasKey d

structure Assembling (D : Datagram) (done : List FwRequest) (inj : List DataList) (s : Reassembly)
    : Prop where
  injected : s.injected = inj
  queued : ∃ before d after, s.datagrQueue = before ++ d :: after ∧
    (∀ x ∈ before ++ after, ¬D.HasKey x) ∧ AssembledFrom D done d
  incomplete : ¬((∃ f ∈ done, (fragHdr f).moreFragments = false) ∧ UnitsArrived done (D.length + 20))

structure Finished (D : Datagram) (inj : List DataList) (s : Reassembly) : Prop where
  injected : s.injected = inj
  queued : ∀ d ∈ s.datagrQueue, D.HasKey d → d.bLast = false

structure DeliveredFrom (D : Datagram) (done : List FwRequest) (d : DataList) : Prop where
  totallen : d.totallen = D.length + 20
  bufferSize : d.fwRequest.fltPacket.bufferSize = D.length + 20 + etherHdrSize
  buffer : d.fwRequest.fltPacket.buffer = d.finalbuf
  payload : ∀ f ∈ done, ∀ j, Carries (fragHdr f) j → d.finalbuf (mHdrSize + j) = D.payload (j - 20)
  header : ∃ f ∈ done, (fragHdr f).offset = 0 ∧
    ∃ buf, d.finalbuf = prepareIpHeader buf (D.length + 20) ∧
      ∀ i, mHdrSize ≤ i → i < mHdrSize + 20 → buf i = f.fltPacket.buffer i

theorem storeWord_other (buffer : Nat → UInt8) (w : Nat) {i j : Nat} (h : j ≠ i ∧ j ≠ i + 1)
    : storeWord buffer i w j = buffer j := by
  rw [storeWord, if_neg h.1, if_neg h.2]

-- Only the total length, the fragment offset and the checksum are written.
theorem prepareIpHeader_other (buf : Nat → UInt8) (totallen : Nat) {i : Nat}
    (hi : i < 16 ∨ 17 < i ∧ i < 20 ∨ 21 < i ∧ i < 24 ∨ 25 < i)
    : prepareIpHeader buf totallen i = buf i := by
  simp only [prepareIpHeader, mHdrSize]
  rw [storeWord_other _ _ (by omega), storeWord_other _ _ (by omega), storeWord_other _ _ (by omega),
    storeWord_other _ _ (by omega)]

theorem prepareIpHeader_payload (buf : Nat → UInt8) (totallen : Nat) {i : Nat} (hi : mHdrSize + 20 ≤ i)
    : prepareIpHeader buf totallen i = buf i := by
  simp only [mHdrSize] at hi
  apply prepareIpHeader_other
  omega

theorem unitsArrived_congr {fs fs' : List FwRequest} (h : ∀ f, f ∈ fs ↔ f ∈ fs') (total : Nat)
    : UnitsArrived fs total ↔ UnitsArrived fs' total := by
  simp only [UnitsArrived, h]

theorem deliveredFrom_assembled {D : Datagram} {done : List FwRequest} {d : DataList}
    (hd : AssembledFrom D done d) (hbLast : d.bLast = true)
    (hunits : UnitsArrived done (D.length + 20)) (r : FwRequest)
    : DeliveredFrom D done (assembled d r) := by
  have htotal := hd.total hbLast
  refine ⟨htotal, ?_, rfl, ?_, ?_⟩
  . rw [← htotal]
    rfl
  . intro f hf j hj
    have hj20 : 20 ≤ j := by
      have := hj.1
      omega
    have hfinal : (assembled d r).finalbuf = prepareIpHeader d.finalbuf d.totallen := rfl
    rw [hfinal, prepareIpHeader_payload _ _ (by omega)]
    exact hd.payload f hf j hj
  . -- unit 0 is marked by a fragment at offset zero only
    obtain ⟨f, hf, hmark⟩ := hunits.2 0 hunits.1
    have hoff : (fragHdr f).offset = 0 := Nat.le_zero.mp hmark.1
    refine ⟨f, hf, hoff, d.finalbuf, ?_, hd.header f hf hoff⟩
    rw [← htotal]
    rfl

section Analyze

variable {D : Datagram} (hD : D.length + 20 ≤ 65535) {s : Reassembly} {inj : List DataList}
variable (env : Env) {r : FwRequest} (hr : Piece D r)
include hD hr

theorem Datagram.Absent.analyze (hs : D.Absent s) (hinj : s.injected = inj)
    (hlast : (fragHdr r).moreFragments = false → (fragHdr r).offset ≠ 0)
    (halloc : CanAlloc env s)
    : Assembling D [r] inj (Ansfw.analyze env s r).1 := by
  have hplain := hr.plain hD
  have hunqueued : Unqueued s r := by
    intro d hd
    have := (hr.hasKey d).not.mpr (hs d hd)
    simpa using this
  have hfits := hr.fits
  obtain ⟨s', ops, heq, hana⟩ := analyzed env s r
  rw [heq]
  cases hana with
  | options hhdr =>
    have := hr.hdr
    omega
  | oversize hhdr hq => exact absurd hunqueued hq.not_unqueued
  | added hhdr hq => exact absurd hunqueued hq.not_unqueued
  | completed hhdr hq => exact absurd hunqueued hq.not_unqueued
  | tooLong hhdr hq hsize =>
    simp only [workBufSize] at hsize
    omega
  | noBuffer hhdr hq hsize hno => exact absurd halloc hno
  | @created id free count hhdr hq hsize halloc =>
    refine ⟨hinj, ⟨s.datagrQueue, _, [], rfl, ?_, assembledFrom_newDatagram hD hr hlast id⟩, ?_⟩
    . rw [List.append_nil]
      exact hs
    . rintro ⟨⟨f, hf, hmore⟩, hunits⟩
      rw [List.mem_singleton.mp hf] at hmore
      obtain ⟨g, hg, hmark⟩ := hunits.2 0 hunits.1
      rw [List.mem_singleton.mp hg] at hmark
      exact hlast hmore (Nat.le_zero.mp hmark.1)

theorem Assembling.analyze {done : List FwRequest} (hs : Assembling D done inj s)
    (hlast : (fragHdr r).moreFragments = false → (fragHdr r).offset ≠ 0)
    (hhead : ∀ f ∈ done, (fragHdr f).offset = 0 → (fragHdr r).offset = 0 → f = r)
    : Assembling D (r :: done) inj (Ansfw.analyze env s r).1 ∨
        (∃ f ∈ r :: done, (fragHdr f).moreFragments = false) ∧
          ∃ d, DeliveredFrom D (r :: done) d ∧ Finished D (inj ++ [d]) (Ansfw.analyze env s r).1 := by
  have hplain := hr.plain hD
  obtain ⟨before, d, after, hqueue, hothers, hd⟩ := hs.queued
  have hkey : ∀ x ∈ before ++ after, x.hasKey (fragHdr r) = false := by
    intro x hx
    have := (hr.hasKey x).not.mpr (hothers x hx)
    simpa using this
  have hq : Queued s r before d after :=
    ⟨hqueue, (hr.hasKey d).mpr hd.key, fun x hx => hkey x (List.mem_append_left after hx)⟩
  have hfrags : ∀ f, f ∈ r :: d.fragmentsList ↔ f ∈ r :: done := by
    intro f
    rw [List.mem_cons, List.mem_cons, hd.fragments]
  obtain ⟨s', ops, heq, hana⟩ := analyzed env s r
  rw [heq]
  cases hana with
  | options hhdr =>
    have := hr.hdr
    omega
  | oversize hhdr hq' hops => exact absurd hops (hr.existingOps hD)
  | added hhdr hq' hops hcomplete =>
    obtain ⟨rfl, rfl, rfl⟩ := hq.unique hq'
    have hnew := hd.addFragment hD hr hlast hops hhead
    refine Or.inl ⟨hs.injected, ⟨before, _, after, rfl, hothers, hnew⟩, ?_⟩
    rintro ⟨hlast', hunits⟩
    have hbLast := hnew.last.mpr hlast'
    have htotal := hnew.total hbLast
    rw [totallen_addFragment] at htotal
    rw [bLast_addFragment, Bool.or_eq_true, Bool.not_eq_true'] at hbLast
    have hc := (complete_addFragment hd.tracked hplain (placesFragment_existingOps hplain hops)).mpr
      ⟨hbLast, by rwa [totalWith, htotal, unitsArrived_congr hfrags]⟩
    rw [hcomplete] at hc
    cases hc
  | @completed before' d' after' ops hhdr hq' hops hcomplete =>
    obtain ⟨rfl, rfl, rfl⟩ := hq.unique hq'
    have hnew := hd.addFragment hD hr hlast hops hhead
    obtain ⟨hbLast, hunits⟩ :=
      (complete_addFragment hd.tracked hplain (placesFragment_existingOps hplain hops)).mp hcomplete
    have hbLast' : (addFragment d r (fragHdr r) ops).bLast = true := by
      rw [bLast_addFragment, Bool.or_eq_true, Bool.not_eq_true']
      exact hbLast
    have htotal := hnew.total hbLast'
    rw [totallen_addFragment] at htotal
    rw [totalWith, htotal, unitsArrived_congr hfrags] at hunits
    refine Or.inr ⟨hnew.last.mp hbLast', _, deliveredFrom_assembled hnew hbLast' hunits r, ?_, ?_⟩
    . rw [deliver, freeDatagram_injected, hs.injected]
    . rw [deliver, freeDatagram_datagrQueue]
      intro x hx hxkey
      exact absurd hxkey (hothers x hx)
  | tooLong hhdr hq' => exact absurd hq' hq.not_unqueued
  | noBuffer hhdr hq' => exact absurd hq' hq.not_unqueued
  | created hhdr hq' => exact absurd hq' hq.not_unqueued

end Analyze

theorem Finished.analyze {D : Datagram} {inj : List DataList} {s : Reassembly} (hs : Finished D inj s)
    (env : Env) {r : FwRequest} (hr : Piece D r) (hmore : (fragHdr r).moreFragments = true)
    : Finished D inj (Ansfw.analyze env s r).1 := by
  obtain ⟨s', ops, heq, hana⟩ := analyzed env s r
  rw [heq]
  have hnew : ∀ {before d after}, Queued s r before d after → ∀ ops,
      (addFragment d r (fragHdr r) ops).bLast = false := by
    intro before d after hq ops
    have hd := hs.queued d hq.mem ((hr.hasKey d).mp hq.key)
    rw [bLast_addFragment, hd, hmore]
    rfl
  cases hana with
  | options => exact hs
  | oversize hhdr hq =>
    exact ⟨hs.injected, fun d hd => hs.queued d (hq.mem_others hd)⟩
  | @added before d after ops hhdr hq hops hcomplete =>
    refine ⟨hs.injected, fun x hx hkey => ?_⟩
    rcases hq.mem_updated hx with hx | hx
    . exact hs.queued x hx hkey
    . rw [hx]
      exact hnew hq ops
  | completed hhdr hq hops hcomplete =>
    rw [Complete, hnew hq, Bool.false_and] at hcomplete
    cases hcomplete
  | tooLong => exact hs
  | noBuffer => exact hs
  | @created id =>
    refine ⟨hs.injected, fun x hx hkey => ?_⟩
    rcases List.mem_append.mp hx with hx | hx
    . exact hs.queued x hx hkey
    . rw [List.mem_singleton.mp hx, bLast_newDatagram, hmore, Bool.not_true, Bool.and_false]

theorem run_finished {D : Datagram} {inj : List DataList}
    {s : Reassembly} (hs : Finished D inj s) {order : List (Env × FwRequest)}
    (horder : ∀ er ∈ order, Piece D er.2 ∧ (fragHdr er.2).moreFragments = true)
    : Finished D inj (Run.run analyzeStep s order) := by
  induction order generalizing s with
  | nil => exact hs
  | cons er order ih =>
    obtain ⟨hr, hmore⟩ := horder er List.mem_cons_self
    exact ih (hs.analyze er.1 hr hmore) (fun er' h => horder er' (List.mem_cons_of_mem er h))

theorem DeliveredFrom.congr {D : Datagram} {done done' : List FwRequest} {d : DataList}
    (h : DeliveredFrom D done d) (hmem : ∀ f, f ∈ done ↔ f ∈ done')
    : DeliveredFrom D done' d := by
  refine ⟨h.totallen, h.bufferSize, h.buffer, fun f hf => h.payload f ((hmem f).mpr hf), ?_⟩
  obtain ⟨f, hf, hrest⟩ := h.header
  exact ⟨f, (hmem f).mp hf, hrest⟩

theorem Pieces.complete {D : Datagram} {frags done : List FwRequest} (hfrags : Pieces D frags)
    (hperm : done.Perm frags)
    : (∃ f ∈ done, (fragHdr f).moreFragments = false) ∧ UnitsArrived done (D.length + 20) := by
  constructor
  . have hpos : 0 < done.countP (fun f => !(fragHdr f).moreFragments) := by
      rw [hperm.countP_eq, hfrags.last]
      apply Nat.one_pos
    obtain ⟨f, hf, hmore⟩ := List.countP_pos_iff.mp hpos
    exact ⟨f, hf, by simpa using hmore⟩
  . refine ⟨by omega, fun u hu => ?_⟩
    obtain ⟨f, hf, hmark⟩ := hfrags.units u hu
    exact ⟨f, hperm.mem_iff.mpr hf, hmark⟩

theorem run_assembling {D : Datagram} (hD : D.length + 20 ≤ 65535) {frags : List FwRequest}
    (hfrags : Pieces D frags) {inj : List DataList} {order : List (Env × FwRequest)}
    : ∀ {done : List FwRequest} {s : Reassembly}, Assembling D done inj s →
        (done ++ order.map Prod.snd).Perm frags →
        ∃ pre er post d,
          order = pre ++ er :: post ∧
          (Run.run analyzeStep s pre).injected = inj ∧
          (Run.run analyzeStep s (pre ++ [er])).injected = inj ++ [d] ∧
          (Run.run analyzeStep s order).injected = inj ++ [d] ∧
          DeliveredFrom D (done ++ (pre ++ [er]).map Prod.snd) d := by
  induction order with
  | nil =>
    intro done s hs hperm
    rw [List.map_nil, List.append_nil] at hperm
    exact absurd (hfrags.complete hperm) hs.incomplete
  | cons er order ih =>
    intro done s hs hperm
    have hmid : (er.2 :: done ++ order.map Prod.snd).Perm frags :=
      List.perm_middle.symm.trans hperm
    have hmem : ∀ f ∈ er.2 :: done, f ∈ frags := fun f hf =>
      hmid.mem_iff.mp (List.mem_append_left _ hf)
    have hr := hfrags.piece er.2 (hmem _ List.mem_cons_self)
    have hlast := hfrags.lastOffset er.2 (hmem _ List.mem_cons_self)
    have hhead : ∀ f ∈ done, (fragHdr f).offset = 0 → (fragHdr er.2).offset = 0 → f = er.2 :=
      fun f hf => hfrags.head f (hmem f (List.mem_cons_of_mem _ hf)) _ (hmem _ List.mem_cons_self)
    rcases hs.analyze hD er.1 hr hlast hhead with hnext | ⟨⟨f, hf, hmore⟩, d, hd, hfin⟩
    . obtain ⟨pre, er', post, d, horder, hpre, hat, hrun, hd⟩ := ih hnext hmid
      refine ⟨er :: pre, er', post, d, ?_, hpre, hat, hrun, ?_⟩
      . rw [horder]
        rfl
      . refine hd.congr fun f => ?_
        simp only [List.cons_append, List.map_cons, List.mem_cons, List.mem_append]
        tauto
    . -- the last fragment has been seen, so the ones that are left all have more fragments to come
      have hrest : ∀ er' ∈ order, Piece D er'.2 ∧ (fragHdr er'.2).moreFragments = true := by
        have hcount := hmid.countP_eq (fun f => !(fragHdr f).moreFragments)
        have hpos : 0 < (er.2 :: done).countP (fun f => !(fragHdr f).moreFragments) :=
          List.countP_pos_iff.mpr ⟨f, hf, by simp [hmore]⟩
        rw [List.countP_append, hfrags.last] at hcount
        have hzero : (order.map Prod.snd).countP (fun f => !(fragHdr f).moreFragments) = 0 := by
          omega
        intro er' her'
        have hmem' := List.mem_map_of_mem (f := Prod.snd) her'
        refine ⟨hfrags.piece _ (hmid.mem_iff.mp (List.mem_append_right _ hmem')), ?_⟩
        simpa using List.countP_eq_zero.mp hzero _ hmem'
      refine ⟨[], er, order, d, rfl, hs.injected, hfin.injected,
        (run_finished hfin hrest).injected, ?_⟩
      refine hd.congr fun f => ?_
      simp [or_comm]

/--
A datagram cut into two or more consecutive fragments is handed to the clients exactly once, whatever
order its fragments are analysed in, with the payload of the fragments analysed so far in its place and
the IP header of the fragment at offset zero.
-/
theorem delivered_once {D : Datagram} (hD : D.length + 20 ≤ 65535) {frags : List FwRequest}
    (hfrags : Fragments D 0 frags) (hlength : 2 ≤ frags.length) {s : Reassembly} (hs : D.Absent s)
    {order : List (Env × FwRequest)} (hperm : (order.map Prod.snd).Perm frags)
    (halloc : Run.Along analyzeStep (fun s er => D.Absent s → CanAlloc er.1 s) s order)
    : ∃ pre er post d,
        order = pre ++ er :: post ∧
        (Run.run analyzeStep s pre).injected = s.injected ∧
        (Run.run analyzeStep s (pre ++ [er])).injected = s.injected ++ [d] ∧
        (Run.run analyzeStep s order).injected = s.injected ++ [d] ∧
        DeliveredFrom D ((pre ++ [er]).map Prod.snd) d := by
  have hpieces := hfrags.pieces hlength
  match order, hperm, halloc with
  | [], hperm, _ =>
    have := hperm.length_eq
    simp at this
    omega
  | er :: order, hperm, halloc =>
    have hmem := hperm.mem_iff.mp (List.mem_cons_self : er.2 ∈ (er :: order).map Prod.snd)
    have hfirst := hs.analyze hD er.1 (hpieces.piece _ hmem) rfl (hpieces.lastOffset _ hmem)
      (halloc.1 hs)
    obtain ⟨pre, er', post, d, horder, hpre, hat, hrun, hd⟩ :=
      run_assembling hD hpieces hfirst hperm
    refine ⟨er :: pre, er', post, d, ?_, hpre, hat, hrun, hd⟩
    rw [horder]
    rfl

def reversedOrder : List (Env × FwRequest) :=
  [(⟨true, 0⟩, greRequest 1 42 28 1), (⟨true, 0⟩, greRequest 0 42 28 0x2000)]

theorem greFrame_payload (size ipLen ipOff i : Nat)
    : (greFrame size ipLen ipOff).buffer (mHdrSize + 20 + i) = 0 := by
  simp only [greFrame, mHdrSize]
  split
  all_goals first | rfl | omega

theorem delivered_once_reversedOrder
    : ∃ d, (Run.run analyzeStep initializeReassembly reversedOrder).injected = [d] ∧
        d.totallen = 36 := by
  let D : Datagram :=
    { ident := 0, protocol := 47, source := 0, dest := 0, length := 16, payload := fun _ => 0 }
  have hfrags : Fragments D 0 [greRequest 0 42 28 0x2000, greRequest 1 42 28 1] := by
    refine ⟨1, Nat.one_pos, ?_, by decide, ?_⟩
    . exact ⟨by decide, by decide, by decide, by decide, by decide, by decide, by decide, by decide,
        fun i _ => greFrame_payload 42 28 0x2000 i⟩
    . exact ⟨by decide, by decide, by decide, by decide, by decide, by decide, by decide, by decide,
        fun i _ => greFrame_payload 42 28 1 i⟩
  have hs : D.Absent initializeReassembly := fun d hd => by cases hd
  have hperm : (reversedOrder.map Prod.snd).Perm [greRequest 0 42 28 0x2000, greRequest 1 42 28 1] :=
    List.Perm.swap _ _ _
  obtain ⟨_, _, _, d, _, _, _, hrun, hd⟩ := delivered_once (by decide) hfrags (by decide) hs hperm
    ⟨fun _ => Or.inr ⟨by decide, rfl⟩, fun _ => Or.inr ⟨by decide, rfl⟩, trivial⟩
  exact ⟨d, hrun, hd.totallen⟩

end Ansfw
