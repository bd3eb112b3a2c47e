import Ndisrd.Ansfw.Reassembly.Bounds
import Ndisrd.Lib.Undefined

/-!
This module contains the reassembly in memory that ends: a copy of `Analyze` that leaves the work buffer
writes what lies behind the packet over what lies behind `finalbuf`, the rest of the `DATA_LIST` and the next
blocks of the pool. What the lists are from then on is not up to the code.
-/

namespace Ansfw

def MemOp.stays : MemOp → Bool
  | .copy dst _ len => decide (dst + len ≤ workBuf)
  | .setBits start len => decide (start + len ≤ bitsBufferLenght * 8)

def stays (s : Reassembly) : Event → Bool
  | .intermed env =>
    match s.intermedQueue with
    | [] => true
    | pRequest :: rest => (analyze env { s with intermedQueue := rest } pRequest).2.all MemOp.stays
  | _ => true

/--
A step of the reassembly. Where it overruns a work buffer, `behind` tells what has become of the state.
-/
def stepIn (behind : Reassembly → Event → Reassembly) : Reassembly → Event → Reassembly :=
  Undefined.stepOr step stays behind

/--
The fragment claims to be shorter than its header, and `Analyze` copies the wrapped length all the same.
-/
structure Overwrites (env : Env) (s : Reassembly) (r : FwRequest) : Prop where
  hdr : (fragHdr r).ipHeaderSize ≤ 20
  short : (fragHdr r).fullLength < (fragHdr r).ipHeaderSize
  pos : 0 < (fragHdr r).offset * 8 + (fragHdr r).fullLength
  fits : (fragHdr r).offset * 8 + (fragHdr r).fullLength ≤ workBufSize
  queued : ¬Unqueued s r → ¬((fragHdr r).moreFragments = true ∧ (fragHdr r).offset = 0)
  unqueued : Unqueued s r → (fragHdr r).offset ≠ 0 ∧ CanAlloc env s

/-! ### The operations -/

theorem fullLength_fragHdr_lt (r : FwRequest) : (fragHdr r).fullLength < 65536 := ntohs_lt _

section Ops

variable {h : FragHdr} (hfull : h.fullLength < 65536)
include hfull

theorem stays_headOps (hoff : h.offset = 0)
    : [MemOp.copy 0 0 mHdrSize, .copy (h.offset * 8 + mHdrSize) etherHdrSize h.fullLength,
        .setBits h.offset (h.fullLength / 8)].all MemOp.stays = true := by
  simp only [List.all_cons, List.all_nil, MemOp.stays, Bool.and_eq_true, decide_eq_true_eq,
    and_true]
  simp only [hoff, mHdrSize, workBuf, bitsBufferLenght]
  omega

-- The bits are those of `Analyze` for a queued datagram or fewer.
theorem stays_tailOps (hhdr : h.ipHeaderSize ≤ 20) (hfit : h.offset * 8 + h.fullLength ≤ workBufSize)
    {bits : Nat} (hbits : bits ≤ (h.datasize + h.ipHeaderSize) / 8)
    : [MemOp.copy 0 0 mHdrSize,
        .copy (h.offset * 8 + h.ipHeaderSize + mHdrSize) (etherHdrSize + h.ipHeaderSize) h.datasize,
        .setBits h.offset bits].all MemOp.stays = true ↔
        ¬(h.fullLength < h.ipHeaderSize ∧ 0 < h.offset * 8 + h.fullLength) := by
  simp only [List.all_cons, List.all_nil, MemOp.stays, Bool.and_eq_true, decide_eq_true_eq,
    and_true]
  simp only [mHdrSize, workBuf, bitsBufferLenght, workBufSize, FragHdr.datasize] at *
  omega

theorem stays_existingOps {ops : List MemOp} (hhdr : h.ipHeaderSize ≤ 20)
    (hops : existingOps h = some ops)
    : ops.all MemOp.stays = true ↔
        ¬(h.fullLength < h.ipHeaderSize ∧ 0 < h.offset * 8 + h.fullLength ∧
          ¬(h.moreFragments = true ∧ h.offset = 0)) := by
  unfold existingOps at hops
  split at hops
  . next hfirst =>
    injection hops with hops
    rw [← hops]
    exact iff_of_true (stays_headOps hfull hfirst.2) fun hbad => hbad.2.2 hfirst
  . next hfirst =>
    split at hops
    . cases hops
    . next hfit =>
      injection hops with hops
      have hbits : h.lastbit ≤ (h.datasize + h.ipHeaderSize) / 8 := Nat.mod_le _ _
      rw [← hops, stays_tailOps hfull hhdr (Nat.le_of_not_lt hfit) hbits, ← and_assoc,
        and_iff_left hfirst]

theorem stays_newOps (hhdr : h.ipHeaderSize ≤ 20) (hfit : h.offset * 8 + h.fullLength ≤ workBufSize)
    : (newOps h).all MemOp.stays = true ↔ ¬(h.fullLength < h.ipHeaderSize ∧ h.offset ≠ 0) := by
  unfold newOps
  split
  . next hoff =>
    have hhead := stays_headOps hfull hoff
    rw [hoff, Nat.zero_mul, Nat.zero_add] at hhead
    rw [hoff]
    exact iff_of_true hhead fun hbad => hbad.2 rfl
  . next hoff =>
    have hbits : h.fullLength / 8 ≤ (h.datasize + h.ipHeaderSize) / 8 := by
      simp only [FragHdr.datasize]
      omega
    rw [stays_tailOps hfull hhdr hfit hbits]
    omega

end Ops

/-! ### Steps -/

theorem stays_analyze_iff (env : Env) (s : Reassembly) (r : FwRequest)
    : (analyze env s r).2.all MemOp.stays = true ↔ ¬Overwrites env s r := by
  have hfull := fullLength_fragHdr_lt r
  have hexisting : ∀ {before d after ops}, (fragHdr r).ipHeaderSize ≤ 20 → Queued s r before d after →
      existingOps (fragHdr r) = some ops →
      (¬((fragHdr r).fullLength < (fragHdr r).ipHeaderSize ∧
        0 < (fragHdr r).offset * 8 + (fragHdr r).fullLength ∧
        ¬((fragHdr r).moreFragments = true ∧ (fragHdr r).offset = 0)) ↔ ¬Overwrites env s r) := by
    intro before d after ops hhdr hq hops
    apply not_congr
    constructor
    . intro ⟨hshort, hpos, hfirst⟩
      exact ⟨hhdr, hshort, hpos, (fits_of_existingOps hops).resolve_left hfirst, fun _ => hfirst,
        fun hu => absurd hu hq.not_unqueued⟩
    . intro hbad
      exact ⟨hbad.short, hbad.pos, hbad.queued hq.not_unqueued⟩
  obtain ⟨s', ops, heq, hana⟩ := analyzed env s r
  rw [heq]
  cases hana with
  | options hhdr =>
    apply iff_of_true rfl
    intro hbad
    have := hbad.hdr
    omega
  | oversize hhdr hq hops =>
    apply iff_of_true rfl
    intro hbad
    have := hbad.fits
    have := ((existingOps_eq_none _).mp hops).2
    omega
  | tooLong hhdr hq hsize =>
    apply iff_of_true rfl
    intro hbad
    have := hbad.fits
    omega
  | noBuffer hhdr hq hsize halloc =>
    apply iff_of_true rfl
    intro hbad
    exact halloc (hbad.unqueued hq).2
  | created hhdr hq hsize halloc =>
    rw [stays_newOps hfull hhdr hsize]
    apply not_congr
    constructor
    . intro ⟨hshort, hoff⟩
      exact ⟨hhdr, hshort, by omega, hsize, fun hnot => absurd hq hnot, fun _ => ⟨hoff, halloc⟩⟩
    . intro hbad
      exact ⟨hbad.short, (hbad.unqueued hq).1⟩
  | added hhdr hq hops hcomplete =>
    rw [stays_existingOps hfull hhdr hops]
    exact hexisting hhdr hq hops
  | completed hhdr hq hops hcomplete =>
    rw [stays_existingOps hfull hhdr hops]
    exact hexisting hhdr hq hops

theorem stays_iff (s : Reassembly) (e : Event)
    : stays s e = true ↔ OnAnalyze (fun env s r => ¬Overwrites env s r) s e := by
  cases e with
  | intermed env =>
    unfold stays OnAnalyze
    cases s.intermedQueue with
    | nil => exact iff_of_true rfl trivial
    | cons r rest => exact stays_analyze_iff env _ r
  | _ => exact iff_of_true rfl trivial

theorem onAnalyze_and_iff (P Q : Env → Reassembly → FwRequest → Prop) (s : Reassembly) (e : Event)
    : OnAnalyze (fun env s r => P env s r ∧ Q env s r) s e ↔ OnAnalyze P s e ∧ OnAnalyze Q s e := by
  cases e with
  | intermed env =>
    unfold OnAnalyze
    simp only
    split
    . exact (and_iff_left trivial).symm
    . exact Iff.rfl
  | _ => exact (and_iff_left trivial).symm

/-! ### Runs -/

theorem along_stays_iff (s : Reassembly) (es : List Event)
    : Run.Along step (fun s e => stays s e = true) s es ↔
        Run.Along step (OnAnalyze fun env s r => ¬Overwrites env s r) s es := by
  have hcongr : ∀ s e, True → True →
      (stays s e = true ↔ OnAnalyze (fun env s r => ¬Overwrites env s r) s e) :=
    fun s e _ _ => stays_iff s e
  exact Run.along_congr (fun _ _ _ _ => trivial) hcongr trivial
    (Run.along_of_forall step fun _ _ => trivial)

/--
What holds of every run, whatever an overrun makes of the state, holds of the runs in which no fragment
overwrites what is behind its work buffer, if an overrun can make it fail.
-/
theorem forall_behind_iff {P : List Event → Reassembly → Prop}
    (hbad : ∀ es env, ∃ s', ¬P (es ++ [.intermed env]) s') (es : List Event)
    : (∀ behind es', es' <+: es → P es' (Run.run (stepIn behind) initializeReassembly es')) ↔
        (∀ es', es' <+: es → P es' (Run.run step initializeReassembly es')) ∧
          Run.Along step (OnAnalyze fun env s r => ¬Overwrites env s r) initializeReassembly es := by
  rw [← along_stays_iff]
  apply Undefined.forall_wild_iff
  intro es' e hnot
  cases e with
  | intermed env => exact hbad es' env
  | _ => cases hnot

theorem overwrites_iff_overruns {env : Env} {s : Reassembly} {r : FwRequest} (hr : FragmentRequest r)
    : Overwrites env s r ↔ Overruns env s r := by
  have hc := hr.checked
  have hmin := hc.hdr
  constructor
  . intro hbad
    have hhdr := hbad.hdr
    have hshort := hbad.short
    refine ⟨by omega, by omega, ?_, hbad.fits, ?_⟩
    . by_cases hu : Unqueued s r
      . exact (hbad.unqueued hu).1
      . exact fun hoff => hbad.queued hu ⟨hc.frag hoff, hoff⟩
    . by_cases hu : Unqueued s r
      . exact Or.inr (hbad.unqueued hu).2
      . exact Or.inl hu
  . rintro ⟨hhdr, hshort, hoff, hfits, hplace⟩
    refine ⟨by omega, by omega, by omega, hfits, fun _ hfirst => hoff hfirst.2, fun hu => ⟨hoff, ?_⟩⟩
    exact hplace.resolve_left fun hnot => hnot hu

theorem along_overwrites_iff {es : List Event} (hes : ∀ e ∈ es, FragmentEvent e)
    : Run.Along step (OnAnalyze fun env s r => ¬Overwrites env s r) initializeReassembly es ↔
        Run.Along step (OnAnalyze fun env s r => ¬Overruns env s r) initializeReassembly es :=
  along_onAnalyze_congr (fun _ _ _ hr => not_congr (overwrites_iff_overruns hr)) hes

end Ansfw
