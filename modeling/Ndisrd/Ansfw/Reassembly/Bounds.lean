import Ndisrd.Ansfw.Reassembly.Lemmas
import Ndisrd.Ansfw.TcpIp.Fragment

/-!
This module contains the memory bounds of `Analyze`: exactly when its copies and bitmap updates stay
inside the packet, the work buffer and the bitmap.
-/

open ReqFlags

namespace Ansfw

def MemOp.InBounds (p : FltPacket) : MemOp → Prop
  | .copy dst src len => ∀ i < len, src + i < p.bufferSize ∧ dst + i < workBuf
  | .setBits start len => ∀ i < len, start + i < bitsBufferLenght * 8

def FragmentRequest (r : FwRequest) : Prop :=
  ∃ (isLocalAddress : Nat → Bool) (id pid : Nat) (p : FltPacket),
    r = { (initPacketHeaders isLocalAddress (.allocateRequest id p)).val with pid := pid } ∧
    r.reqFlags.has fragmentedIp = true ∧ r.fltPacket.direction = .inbound

structure CheckedFragment (p : FltPacket) (h : FragHdr) : Prop where
  hdr : 20 ≤ h.ipHeaderSize
  len : h.fullLength + 14 ≤ p.bufferSize
  size : p.bufferSize ≤ 1514
  frag : h.offset = 0 → h.moreFragments = true

theorem FragmentRequest.checked {r : FwRequest} (hr : FragmentRequest r)
    : CheckedFragment r.fltPacket (fragHdr r) := by
  obtain ⟨isLocalAddress, id, pid, p, heq, hflag, hdir⟩ := hr
  rw [heq] at hflag
  obtain ⟨hacc, hoff, hp⟩ := initPacketHeaders_fragmentedIp isLocalAddress id p hflag
  have hpkt : r.fltPacket = p := by
    rw [heq]
    exact hp
  rw [fragHdr, hpkt]
  refine ⟨hacc.hhdr, hacc.hlen, hacc.hmax, ?_⟩
  have hmask : p.ipOff.val % 16384 ≠ 0 := by
    rw [← Nat.and_two_pow_sub_one_eq_mod p.ipOff.val 14]
    exact hoff
  intro hoff
  have hmore : p.ipOff.val / 8192 % 2 = 1 := by
    simp only [FragHdr.offset, FragHdr.ofPacket] at hoff
    omega
  exact decide_eq_true hmore

/--
The fragment leaves `Analyze` with a negative `datasize`: it claims to be shorter than its header, its
offset is not zero, and it passes the size check and finds a work buffer.
-/
def Overruns (env : Env) (s : Reassembly) (r : FwRequest) : Prop :=
  (fragHdr r).ipHeaderSize = 20 ∧ (fragHdr r).fullLength < 20 ∧ (fragHdr r).offset ≠ 0 ∧
    (fragHdr r).offset * 8 + (fragHdr r).fullLength ≤ workBufSize ∧
    (¬Unqueued s r ∨ CanAlloc env s)

section Ops

variable {p : FltPacket} {h : FragHdr} (hc : CheckedFragment p h)
include hc

theorem headOps_inBounds (hoff : h.offset = 0) : ∀ op ∈ [
      MemOp.copy 0 0 mHdrSize,
      .copy (h.offset * 8 + mHdrSize) etherHdrSize h.fullLength,
      .setBits h.offset (h.fullLength / 8)
    ], op.InBounds p := by
  have hlen := hc.len
  have hsize := hc.size
  simp only [List.forall_mem_cons, List.not_mem_nil, false_implies, implies_true, and_true,
    MemOp.InBounds, hoff, mHdrSize, etherHdrSize, workBuf, bitsBufferLenght]
  refine ⟨?_, ?_, ?_⟩
  . intro i hi
    omega
  . intro i hi
    omega
  . intro i hi
    omega

theorem tailOps_inBounds (hhdr : h.ipHeaderSize = 20)
    (hfit : h.offset * 8 + h.fullLength ≤ workBufSize) {bits : Nat} (hbits : bits * 8 ≤ h.datasize + 20)
    : (∀ op ∈ [
      MemOp.copy 0 0 mHdrSize,
      .copy (h.offset * 8 + h.ipHeaderSize + mHdrSize) (etherHdrSize + h.ipHeaderSize) h.datasize,
      .setBits h.offset bits
    ], op.InBounds p) ↔ 20 ≤ h.fullLength := by
  have hlen := hc.len
  have hsize := hc.size
  simp only [List.forall_mem_cons, List.not_mem_nil, false_implies, implies_true, and_true,
    MemOp.InBounds, mHdrSize, etherHdrSize, workBuf, bitsBufferLenght, FragHdr.datasize, hhdr,
    workBufSize] at *
  constructor
  . intro ⟨_, hcopy, _⟩
    by_contra hshort
    -- 2000 is behind every packet and inside the wrapped length
    have := hcopy 2000 (by omega)
    omega
  . intro hge
    refine ⟨?_, ?_, ?_⟩
    . intro i hi
      omega
    . intro i hi
      omega
    . intro i hi
      omega

theorem existingOps_inBounds (hhdr : h.ipHeaderSize = 20) {ops : List MemOp}
    (hops : existingOps h = some ops)
    : (∀ op ∈ ops, op.InBounds p) ↔
        ¬(h.fullLength < 20 ∧ h.offset ≠ 0 ∧ h.offset * 8 + h.fullLength ≤ workBufSize) := by
  unfold existingOps at hops
  split at hops
  . next hfirst =>
    injection hops with hops
    rw [← hops]
    exact iff_of_true (headOps_inBounds hc hfirst.2) (fun hbad => hbad.2.1 hfirst.2)
  . next hfirst =>
    split at hops
    . cases hops
    . next hfit =>
      injection hops with hops
      have hfit := Nat.le_of_not_lt hfit
      have hoff : h.offset ≠ 0 := fun h0 => hfirst ⟨hc.frag h0, h0⟩
      have hbits : h.lastbit * 8 ≤ h.datasize + 20 := by
        simp only [FragHdr.lastbit, hhdr]
        omega
      rw [← hops, tailOps_inBounds hc hhdr hfit hbits]
      constructor
      . intro hge hbad
        omega
      . intro hbad
        by_contra hlt
        exact hbad ⟨by omega, hoff, hfit⟩

theorem newOps_inBounds (hhdr : h.ipHeaderSize = 20)
    (hfit : h.offset * 8 + h.fullLength ≤ workBufSize)
    : (∀ op ∈ newOps h, op.InBounds p) ↔ ¬(h.fullLength < 20 ∧ h.offset ≠ 0) := by
  unfold newOps
  split
  . next hoff =>
    have hhead := headOps_inBounds hc hoff
    rw [hoff] at hhead
    simp only [Nat.zero_mul, Nat.zero_add] at hhead
    rw [hoff]
    exact iff_of_true hhead (fun hbad => hbad.2 rfl)
  . next hoff =>
    have hbits : h.fullLength / 8 * 8 ≤ h.datasize + 20 := by
      have := hc.len
      have := hc.size
      simp only [FragHdr.datasize, hhdr]
      omega
    rw [tailOps_inBounds hc hhdr hfit hbits]
    constructor
    . intro hge hbad
      omega
    . intro hbad
      by_contra hlt
      exact hbad ⟨by omega, hoff⟩

end Ops

theorem analyze_inBounds_iff (env : Env) (s : Reassembly) {r : FwRequest} (hr : FragmentRequest r)
    : (∀ op ∈ (analyze env s r).2, op.InBounds r.fltPacket) ↔ ¬Overruns env s r := by
  have hc := hr.checked
  have hge := hc.hdr
  obtain ⟨s', ops, heq, hana⟩ := analyzed env s r
  rw [heq]
  -- once there is a datagram or a buffer for the fragment, only its own fields decide
  have hfields : (fragHdr r).ipHeaderSize ≤ 20 → ¬Unqueued s r ∨ CanAlloc env s →
      (¬((fragHdr r).fullLength < 20 ∧ (fragHdr r).offset ≠ 0 ∧
        (fragHdr r).offset * 8 + (fragHdr r).fullLength ≤ workBufSize) ↔ ¬Overruns env s r) := by
    intro hhdr hplace
    apply not_congr
    constructor
    . intro ⟨hshort, hoff, hfit⟩
      exact ⟨by omega, hshort, hoff, hfit, hplace⟩
    . intro ⟨_, hshort, hoff, hfit, _⟩
      exact ⟨hshort, hoff, hfit⟩
  cases hana with
  | options hhdr =>
    apply iff_of_true
    . simp
    . intro hbad
      have := hbad.1
      omega
  | oversize hhdr hq hops =>
    apply iff_of_true
    . simp
    . intro hbad
      have := hbad.2.2.2.1
      have := ((existingOps_eq_none _).mp hops).2
      omega
  | added hhdr hq hops hcomplete =>
    rw [existingOps_inBounds hc (by omega) hops]
    exact hfields hhdr (Or.inl hq.not_unqueued)
  | completed hhdr hq hops hcomplete =>
    rw [existingOps_inBounds hc (by omega) hops]
    exact hfields hhdr (Or.inl hq.not_unqueued)
  | tooLong hhdr hq hsize =>
    apply iff_of_true
    . simp
    . intro hbad
      have := hbad.2.2.2.1
      omega
  | noBuffer hhdr hq hsize halloc =>
    apply iff_of_true
    . simp
    . intro hbad
      rcases hbad.2.2.2.2 with h | h
      . exact h hq
      . exact halloc h
  | created hhdr hq hsize halloc =>
    rw [newOps_inBounds hc (by omega) hsize, ← hfields hhdr (Or.inr halloc)]
    apply not_congr
    exact and_congr_right fun _ => (and_iff_left hsize).symm

/-! ### Runs -/

def IntermedChecked (s : Reassembly) : Prop := ∀ r ∈ s.intermedQueue, FragmentRequest r

def FragmentEvent : Event → Prop
  | .reassemblePacket r => FragmentRequest r
  | _ => True

theorem step_intermedChecked (s : Reassembly) (e : Event) (hs : IntermedChecked s)
    (he : FragmentEvent e) : IntermedChecked (step s e) := by
  intro r hr
  rcases step_intermedQueue hr with hr | heq
  . exact hs r hr
  . rw [heq] at he
    exact he

theorem along_onAnalyze_congr {P Q : Env → Reassembly → FwRequest → Prop}
    (hPQ : ∀ env s r, FragmentRequest r → (P env s r ↔ Q env s r)) {es : List Event}
    (hes : ∀ e ∈ es, FragmentEvent e)
    : Run.Along step (OnAnalyze P) initializeReassembly es ↔
        Run.Along step (OnAnalyze Q) initializeReassembly es := by
  have hadm : Run.Along step (fun _ e => FragmentEvent e) initializeReassembly es :=
    Run.along_of_forall step hes
  refine Run.along_congr (fun s e => step_intermedChecked s e) ?_ ?_ hadm
  . intro s e hs _
    cases e with
    | intermed env =>
      unfold OnAnalyze
      simp only
      split
      . exact Iff.rfl
      . next r rest hq =>
        apply hPQ
        apply hs
        rw [hq]
        exact List.mem_cons_self
    | _ => exact Iff.rfl
  . intro r hr
    cases hr

/--
In a run of the reassembly, every copy and every bitmap update of `Analyze` is in bounds if and only if
no fragment overruns.
-/
theorem run_inBounds_iff (es : List Event) (hes : ∀ e ∈ es, FragmentEvent e)
    : Run.Along step (OnAnalyze fun env s r => ∀ op ∈ (analyze env s r).2, op.InBounds r.fltPacket)
          initializeReassembly es ↔
        Run.Along step (OnAnalyze fun env s r => ¬Overruns env s r) initializeReassembly es :=
  along_onAnalyze_congr (fun env s _ hr => analyze_inBounds_iff env s hr) hes

theorem fragmentEvent_analyzeOne {r : FwRequest} (hr : FragmentRequest r)
    : ∀ e ∈ analyzeOne r, FragmentEvent e := by
  intro e he
  simp only [analyzeOne, List.mem_cons, List.not_mem_nil, or_false] at he
  rcases he with rfl | rfl
  . exact hr
  . trivial

theorem analyzeOne_inBounds
    : Run.Along step (OnAnalyze fun env s r => ∀ op ∈ (analyze env s r).2, op.InBounds r.fltPacket)
        initializeReassembly (analyzeOne (greRequest 0 42 28 0x2000)) := by
  have hr : FragmentRequest (greRequest 0 42 28 0x2000) :=
    ⟨fun _ => true, 0, 0, _, rfl, by decide, by decide⟩
  rw [run_inBounds_iff _ (fragmentEvent_analyzeOne hr)]
  refine ⟨trivial, ?_, trivial⟩
  intro hbad
  have hlen : (fragHdr (greRequest 0 42 28 0x2000)).fullLength = 28 := by decide
  have := hbad.2.1
  omega

theorem not_inBounds_zeroLength
    : ¬∀ es : List Event, (∀ e ∈ es, FragmentEvent e) →
        Run.Along step
          (OnAnalyze fun env s r => ∀ op ∈ (analyze env s r).2, op.InBounds r.fltPacket)
          initializeReassembly es := by
  intro h
  have hr : FragmentRequest (greRequest 0 34 0 1) := ⟨fun _ => true, 0, 0, _, rfl, by decide, by decide⟩
  have hrun := h (analyzeOne (greRequest 0 34 0 1)) (fragmentEvent_analyzeOne hr)
  have hana := (analyze_inBounds_iff ⟨true, 0⟩ initializeReassembly hr).mp hrun.2.1
  apply hana
  exact ⟨by decide, by decide, by decide, by decide, Or.inr (Or.inr ⟨by decide, rfl⟩)⟩

end Ansfw
