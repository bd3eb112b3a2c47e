import Ndisrd.Ansfw.Reassembly.Coverage

/-!
This module contains the completeness of delivered datagrams: exactly when every byte of the payload
that `Verify` hands to the clients was copied from a fragment.
-/

namespace Ansfw

def Whole (d : DataList) : Prop :=
  ∀ i, mHdrSize + 20 ≤ i → i < mHdrSize + d.totallen → CopiedBy d.ops i

-- Byte `j` lies right behind the data of the fragment, where the fragment marks units that it
-- carries no bytes for: the range it sets is computed from its length with the IP header.
def BehindFragment (h : FragHdr) (j : Nat) : Prop :=
  h.offset * 8 + h.fullLength ≤ j ∧ j < (h.offset + h.fullLength / 8) * 8 + 20

/--
With the request all units of its datagram are marked, but a byte right behind one of the fragments is
carried by none of them.
-/
def CompletesWithGap (s : Reassembly) (r : FwRequest) : Prop :=
  ∃ before d after,
    Queued s r before d after ∧
    ((fragHdr r).moreFragments = true ∧ (fragHdr r).offset = 0 ∨
      (fragHdr r).offset * 8 + (fragHdr r).fullLength ≤ workBufSize) ∧
    (d.bLast = true ∨ (fragHdr r).moreFragments = false) ∧
    UnitsArrived (r :: d.fragmentsList) (totalWith d (fragHdr r)) ∧
    ∃ f ∈ r :: d.fragmentsList, ∃ j, BehindFragment (fragHdr f) j ∧ j < totalWith d (fragHdr r) ∧
      ∀ g ∈ r :: d.fragmentsList, ¬Carries (fragHdr g) j

theorem unitsArrived_missing {fs : List FwRequest} {total j : Nat} (hunits : UnitsArrived fs total)
    (hj : 20 ≤ j) (hlt : j < total) (hmissing : ∀ f ∈ fs, ¬Carries (fragHdr f) j)
    : ∃ f ∈ fs, BehindFragment (fragHdr f) j := by
  obtain ⟨f, hf, hmark⟩ := hunits.2 ((j - 20) / 8) (by omega)
  refine ⟨f, hf, ?_⟩
  have hnot := hmissing f hf
  simp only [Carries, Marks, BehindFragment] at *
  omega

theorem whole_iff {d : DataList} (hd : Tracked d) (hunits : UnitsArrived d.fragmentsList d.totallen)
    : Whole d ↔
        ¬∃ f ∈ d.fragmentsList, ∃ j, BehindFragment (fragHdr f) j ∧ j < d.totallen ∧
          ∀ g ∈ d.fragmentsList, ¬Carries (fragHdr g) j := by
  constructor
  . rintro hwhole ⟨f, hf, j, hbehind, hlt, hmissing⟩
    have hmin := (hd.plain f hf).min
    have hj : 20 ≤ j := by
      have := hbehind.1
      omega
    have hcopied := hwhole (mHdrSize + j) (by omega) (by omega)
    obtain ⟨g, hg, hcarries⟩ := (hd.copies j hj).mp hcopied
    exact hmissing g hg hcarries
  . intro hno i hge hlt
    by_contra hnot
    obtain ⟨j, rfl⟩ : ∃ j, i = mHdrSize + j := ⟨i - mHdrSize, by omega⟩
    have hj : 20 ≤ j := by omega
    have hjlt : j < d.totallen := by omega
    -- a byte that was not copied is carried by no fragment, although its unit is marked by one
    have hmissing : ∀ g ∈ d.fragmentsList, ¬Carries (fragHdr g) j := by
      intro g hg hcarries
      exact hnot ((hd.copies j hj).mpr ⟨g, hg, hcarries⟩)
    obtain ⟨f, hf, hbehind⟩ := unitsArrived_missing hunits hj hjlt hmissing
    exact hno ⟨f, hf, j, hbehind, hjlt, hmissing⟩

theorem analyze_injected {s : Reassembly} (hs : QueueTracked s) (env : Env) {r : FwRequest}
    (hr : PlainHeader (fragHdr r))
    : ∃ new, (analyze env s r).1.injected = s.injected ++ new ∧
        ((∀ d ∈ new, Whole d) ↔ ¬CompletesWithGap s r) := by
  obtain ⟨s', ops, heq, hana⟩ := analyzed env s r
  rw [heq]
  -- nothing is handed over and nothing is completed
  have hnone : ¬CompletesWithGap s r → ∃ new, s.injected = s.injected ++ new ∧
      ((∀ d ∈ new, Whole d) ↔ ¬CompletesWithGap s r) := by
    intro hnot
    exact ⟨[], (List.append_nil _).symm, iff_of_true (fun d hd => by cases hd) hnot⟩
  have hqueue : Unqueued s r → ¬CompletesWithGap s r := by
    rintro hu ⟨before, d, after, hq, _⟩
    exact hq.not_unqueued hu
  cases hana with
  | options hhdr =>
    have := hr.hdr
    omega
  | oversize hhdr hq hops =>
    apply hnone
    rintro ⟨before', d', after', hq', hfit, _⟩
    obtain ⟨hfirst, hsize⟩ := (existingOps_eq_none _).mp hops
    rcases hfit with hfit | hfit
    . exact hfirst hfit
    . omega
  | @added before d after ops hhdr hq hops hcomplete =>
    apply hnone
    rintro ⟨before', d', after', hq', _, hlast, hunits, _⟩
    have hd : Tracked d := hs.queue d hq.mem
    rw [← (hq.unique hq').2.1] at hlast hunits
    have := (complete_addFragment hd hr (placesFragment_existingOps hr hops)).mpr ⟨hlast, hunits⟩
    rw [hcomplete] at this
    cases this
  | @completed before d after ops hhdr hq hops hcomplete =>
    have hplaces := placesFragment_existingOps hr hops
    have hd : Tracked d := hs.queue d hq.mem
    obtain ⟨hlast, hunits⟩ := (complete_addFragment hd hr hplaces).mp hcomplete
    have hnew := hd.addFragment hr hplaces
    have htotal : (addFragment d r (fragHdr r) ops).totallen = totalWith d (fragHdr r) :=
      totallen_addFragment d r (fragHdr r) ops
    have hwhole := whole_iff hnew
    rw [fragmentsList_addFragment, htotal] at hwhole
    refine ⟨[assembled (addFragment d r (fragHdr r) ops) r], ?_, ?_⟩
    . rw [deliver, freeDatagram_injected]
    . rw [List.forall_mem_singleton]
      refine Iff.trans (hwhole hunits) (not_congr ?_)
      constructor
      . intro hgap
        exact ⟨before, d, after, hq, fits_of_existingOps hops, hlast, hunits, hgap⟩
      . rintro ⟨before', d', after', hq', _, _, _, hgap⟩
        rw [← (hq.unique hq').2.1] at hgap
        exact hgap
  | tooLong hhdr hq => exact hnone (hqueue hq)
  | noBuffer hhdr hq => exact hnone (hqueue hq)
  | created hhdr hq => exact hnone (hqueue hq)

theorem step_injected (s : Reassembly) (e : Event) (hs : QueueTracked s)
    : ∃ new, (step s e).injected = s.injected ++ new ∧
        ((∀ d ∈ new, Whole d) ↔ OnAnalyze (fun _ s r => ¬CompletesWithGap s r) s e) := by
  have hnone : ∃ new, s.injected = s.injected ++ new ∧ ((∀ d ∈ new, Whole d) ↔ True) :=
    ⟨[], (List.append_nil _).symm, iff_of_true (fun d hd => by cases hd) trivial⟩
  cases e with
  | reassemblePacket r => exact hnone
  | intermed env =>
    unfold step OnAnalyze
    simp only
    split
    . exact hnone
    . next r rest hq =>
      have hmem := hs.intermed
      rw [hq] at hmem
      have hrest : QueueTracked { s with intermedQueue := rest } :=
        ⟨fun r' hr' => hmem r' (List.mem_cons_of_mem r hr'), hs.queue⟩
      exact analyze_injected hrest env (hmem r List.mem_cons_self)
  | ttlPass =>
    obtain ⟨kept, expired, _, heq⟩ := ttlDecrementThreadFunc_spec s
    rw [step, heq]
    exact hnone
  | freeClone id =>
    rw [step, freeCloneRequest_injected]
    exact hnone

theorem run_injected {s : Reassembly} {es : List Event} (hs : QueueTracked s)
    (hes : ∀ e ∈ es, PlainEvent e)
    : (∀ d ∈ (Run.run step s es).injected, Whole d) ↔
        (∀ d ∈ s.injected, Whole d) ∧
          Run.Along step (OnAnalyze fun _ s r => ¬CompletesWithGap s r) s es := by
  induction es generalizing s with
  | nil => simp
  | cons e es ih =>
    obtain ⟨new, hnew, hwhole⟩ := step_injected s e hs
    have hstep := hs.step s e (hes e List.mem_cons_self)
    rw [Run.run_cons, ih hstep (fun e' he' => hes e' (List.mem_cons_of_mem e he')), hnew,
      List.forall_mem_append, hwhole, Run.along_cons, and_assoc]

/--
In a run over fragments with plain headers, every datagram handed to the clients is whole if and only
if no fragment completes a datagram with a gap.
-/
theorem run_whole_iff (es : List Event) (hes : ∀ e ∈ es, PlainEvent e)
    : (∀ d ∈ (Run.run step initializeReassembly es).injected, Whole d) ↔
        Run.Along step (OnAnalyze fun _ s r => ¬CompletesWithGap s r) initializeReassembly es := by
  rw [run_injected queueTracked_initializeReassembly hes]
  exact and_iff_right (fun d hd => by cases hd)

def gapRun : List Event := [
  .reassemblePacket (greRequest 0 42 28 0x2000),
  .reassemblePacket (greRequest 1 42 28 3),
  .intermed ⟨true, 0⟩,
  .intermed ⟨true, 0⟩
]

theorem plainEvent_gapRun : ∀ e ∈ gapRun, PlainEvent e := by
  intro e he
  simp only [gapRun, List.mem_cons, List.not_mem_nil, or_false] at he
  rcases he with rfl | rfl | rfl | rfl
  . exact ⟨by decide, by decide, by decide⟩
  . exact ⟨by decide, by decide, by decide⟩
  . trivial
  . trivial

theorem gapRun_not_whole : ¬∀ d ∈ (Run.run step initializeReassembly gapRun).injected, Whole d := by
  have hrun : (Run.run step initializeReassembly gapRun).injected.map (fun d => (d.totallen, d.ops)) =
      [(52, [.copy 0 0 14, .copy 14 14 28, .setBits 0 3, .copy 0 0 14, .copy 58 34 8, .setBits 3 3])] := by
    decide
  intro h
  generalize (Run.run step initializeReassembly gapRun).injected = ds at h hrun
  obtain ⟨d, rest, rfl, hd, _⟩ := List.map_eq_cons_iff.mp hrun
  simp only [Prod.mk.injEq] at hd
  -- the first byte behind the first fragment
  have hcopied := h d List.mem_cons_self 42 (by decide) (by rw [hd.1]; decide)
  rw [hd.2] at hcopied
  obtain ⟨dst, src, len, hmem, hge, hlt⟩ := hcopied
  simp only [List.mem_cons, MemOp.copy.injEq, List.not_mem_nil, reduceCtorEq, or_false,
    false_or] at hmem
  omega

theorem gapRun_completesWithGap
    : ¬Run.Along step (OnAnalyze fun _ s r => ¬CompletesWithGap s r) initializeReassembly gapRun := by
  rw [← run_whole_iff gapRun plainEvent_gapRun]
  exact gapRun_not_whole

theorem not_whole_gapRun
    : ¬∀ es : List Event, (∀ e ∈ es, PlainEvent e) →
        ∀ d ∈ (Run.run step initializeReassembly es).injected, Whole d := by
  intro h
  exact gapRun_not_whole (h gapRun plainEvent_gapRun)

end Ansfw
