import Ndisrd.Ansfw.Reassembly.Coverage
import Ndisrd.Ansfw.Reassembly.Overrun

/-!
This module contains the length of a datagram under assembly: `Analyze` computes it in 32 bits for its
guard and stores it in 16, and there is one length that passes the one and does not fit into the other.
-/

namespace Ansfw

def FragHdr.endOffset (h : FragHdr) : Nat := h.offset * 8 + h.fullLength

-- The end of the last fragment that came, which is at the head of the list before the earlier ones.
def trueLength (d : DataList) : Option Nat :=
  (d.fragmentsList.find? fun f => !(fragHdr f).moreFragments).map fun f => (fragHdr f).endOffset

def AllArrived (d : DataList) (n : Nat) : Prop := ∀ u < n / 8, ∃ f ∈ d.fragmentsList, Marks (fragHdr f) u

def TrueDelivery (d : DataList) : Prop :=
  ∃ n, trueLength d = some n ∧ d.totallen = n ∧ d.fwRequest.fltPacket.bufferSize = n + etherHdrSize

/--
The lengths that the reassembly works with are the true ones: of a datagram in the queue, which has not
all its units yet, and of one that was delivered, with the size of its buffer.
-/
structure LengthsTrue (s : Reassembly) : Prop where
  queued : ∀ d ∈ s.datagrQueue, ∀ n, trueLength d = some n → d.totallen = n ∧ ¬AllArrived d n
  delivered : ∀ d ∈ s.injected, TrueDelivery d

/--
A last fragment that `Analyze` accepts and whose end is 65536: the guard lets it pass, and the length is
stored as zero.
-/
def Truncates (env : Env) (s : Reassembly) (r : FwRequest) : Prop :=
  (fragHdr r).ipHeaderSize ≤ 20 ∧ (fragHdr r).moreFragments = false ∧ (fragHdr r).endOffset = 65536 ∧
    (¬Unqueued s r ∨ CanAlloc env s)

/-! ### One datagram -/

structure Sized (d : DataList) : Prop where
  size : d.bitMapHeader.size = 8192
  bits : ∀ f ∈ d.fragmentsList, ∀ u, Marks (fragHdr f) u → d.bitMapHeader.bits u = true
  last : d.bLast = (trueLength d).isSome
  total : ∀ n, trueLength d = some n → 8 ≤ n ∧ n ≤ 65536 ∧ d.totallen = n % 65536

section Datagram

variable {d : DataList} {r : FwRequest} {ops : List MemOp}

theorem trueLength_addFragment (d : DataList) (r : FwRequest) (ops : List MemOp)
    : trueLength (addFragment d r (fragHdr r) ops) =
        if (fragHdr r).moreFragments then trueLength d else some (fragHdr r).endOffset := by
  rw [trueLength, fragmentsList_addFragment]
  split
  . next hmore => rw [List.find?_cons_of_neg (by simp [hmore]), trueLength]
  . next hmore =>
    rw [List.find?_cons_of_pos (by simp [hmore])]
    rfl

theorem trueLength_newDatagram (id : Nat) (r : FwRequest)
    : trueLength (newDatagram (.zeroed id) r (fragHdr r)) =
        if (fragHdr r).moreFragments then none else some (fragHdr r).endOffset := by
  rw [trueLength, fragmentsList_newDatagram]
  split
  . next hmore =>
    rw [List.find?_cons_of_neg (by simp [hmore])]
    rfl
  . next hmore =>
    rw [List.find?_cons_of_pos (by simp [hmore])]
    rfl

section CheckedFragment

variable {p : FltPacket} {h : FragHdr} (hc : CheckedFragment p h)
include hc

theorem CheckedFragment.offset_ne_zero (hmore : h.moreFragments = false) : h.offset ≠ 0 := by
  intro hoff
  rw [hc.frag hoff] at hmore
  cases hmore

theorem CheckedFragment.eight_le (hmore : h.moreFragments = false) : 8 ≤ h.endOffset := by
  have hoff := hc.offset_ne_zero hmore
  unfold FragHdr.endOffset
  omega

-- A negative `datasize` only makes the run of bits longer.
theorem CheckedFragment.le_lastbit (hhdr : h.ipHeaderSize ≤ 20) : h.fullLength / 8 ≤ h.lastbit := by
  have hmin := hc.hdr
  have hlen := hc.len
  have hsize := hc.size
  simp only [FragHdr.lastbit, FragHdr.datasize]
  omega

theorem CheckedFragment.setAll_existingOps (hhdr : h.ipHeaderSize ≤ 20)
    (hops : existingOps h = some ops) (b : Bitmap) {u : Nat} (hu : b.bits u = true ∨ Marks h u)
    : (DataList.setAll b ops).bits u = true := by
  have hle := hc.le_lastbit hhdr
  unfold existingOps at hops
  split at hops
  . injection hops with hops
    rw [← hops]
    simp only [DataList.setAll, List.foldl_cons, List.foldl_nil, Bitmap.bits_setBits]
    exact hu
  . split at hops
    . cases hops
    . injection hops with hops
      rw [← hops]
      simp only [DataList.setAll, List.foldl_cons, List.foldl_nil, Bitmap.bits_setBits]
      apply hu.imp_right
      intro hmarks
      exact ⟨hmarks.1, Nat.lt_of_lt_of_le hmarks.2 (Nat.add_le_add_left hle h.offset)⟩

end CheckedFragment

theorem setAll_newOps (h : FragHdr) (b : Bitmap) {u : Nat} (hu : Marks h u)
    : (DataList.setAll b (newOps h)).bits u = true := by
  unfold newOps
  split
  . simp only [DataList.setAll, List.foldl_cons, List.foldl_nil, Bitmap.bits_setBits]
    exact Or.inr hu
  . simp only [DataList.setAll, List.foldl_cons, List.foldl_nil, Bitmap.bits_setBits]
    exact Or.inr hu

theorem Sized.addFragment (hd : Sized d) (hc : CheckedFragment r.fltPacket (fragHdr r))
    (hhdr : (fragHdr r).ipHeaderSize ≤ 20) (hops : existingOps (fragHdr r) = some ops)
    : Sized (Ansfw.addFragment d r (fragHdr r) ops) where
  size := by
    rw [bitMapHeader_addFragment, DataList.size_setAll]
    exact hd.size
  bits := by
    intro f hf u hu
    rw [bitMapHeader_addFragment]
    rw [fragmentsList_addFragment] at hf
    apply hc.setAll_existingOps hhdr hops
    rcases List.mem_cons.mp hf with heq | hf
    . rw [heq] at hu
      exact Or.inr hu
    . exact Or.inl (hd.bits f hf u hu)
  last := by
    rw [bLast_addFragment, trueLength_addFragment, hd.last]
    cases (fragHdr r).moreFragments with
    | true => simp
    | false => simp
  total := by
    intro n hn
    rw [trueLength_addFragment] at hn
    rw [totallen_addFragment]
    cases hmore : (fragHdr r).moreFragments with
    | true =>
      rw [hmore] at hn
      exact hd.total n hn
    | false =>
      rw [hmore] at hn
      injection hn with hn
      have hfits := (fits_of_existingOps hops).resolve_left (fun hfirst => by
        rw [hfirst.1] at hmore
        cases hmore)
      rw [← hn]
      exact ⟨hc.eight_le hmore, hfits, rfl⟩

theorem sized_newDatagram (id : Nat) (hc : CheckedFragment r.fltPacket (fragHdr r))
    (hsize : (fragHdr r).endOffset ≤ workBufSize)
    : Sized (newDatagram (.zeroed id) r (fragHdr r)) where
  size := by
    rw [bitMapHeader_newDatagram, DataList.size_setAll]
    rfl
  bits := by
    intro f hf u hu
    rw [fragmentsList_newDatagram] at hf
    rw [List.mem_singleton.mp hf] at hu
    rw [bitMapHeader_newDatagram]
    exact setAll_newOps _ _ hu
  last := by
    rw [bLast_newDatagram, trueLength_newDatagram]
    cases hmore : (fragHdr r).moreFragments with
    | true => simp
    | false => simp [hc.offset_ne_zero hmore]
  total := by
    intro n hn
    rw [trueLength_newDatagram] at hn
    cases hmore : (fragHdr r).moreFragments with
    | true =>
      rw [hmore] at hn
      cases hn
    | false =>
      rw [hmore] at hn
      injection hn with hn
      rw [totallen_newDatagram id r (fragHdr r) (hc.offset_ne_zero hmore) hmore, ← hn]
      exact ⟨hc.eight_le hmore, hsize, rfl⟩

-- The only fragment of a new datagram marks no unit in front of it.
theorem complete_newDatagram_of_checked (id : Nat) (r : FwRequest)
    : Complete (newDatagram (.zeroed id) r (fragHdr r)) = false := by
  rw [← Bool.not_eq_true, Complete, Bool.and_eq_true, Bitmap.areBitsSet_iff, bLast_newDatagram]
  rintro ⟨hlast, hpos, _, hset⟩
  simp only [Bool.and_eq_true, decide_eq_true_eq] at hlast
  have hbit := hset 0 hpos
  rw [bitMapHeader_newDatagram, newOps, if_neg hlast.1] at hbit
  simp only [DataList.setAll, List.foldl_cons, List.foldl_nil, Bitmap.bits_setBits] at hbit
  rcases hbit with hbit | hbit
  . cases hbit
  . omega

/--
In the queue, the length is true unless it was 65536.
-/
theorem Sized.queued_iff (hd : Sized d) (hincomplete : Complete d = false)
    : (∀ n, trueLength d = some n → d.totallen = n ∧ ¬AllArrived d n) ↔
        trueLength d ≠ some 65536 := by
  constructor
  . intro h hn
    have htotal := (hd.total _ hn).2.2
    rw [(h _ hn).1] at htotal
    omega
  . intro hne n hn
    obtain ⟨hmin, hmax, htotal⟩ := hd.total n hn
    have hn' : n ≠ 65536 := fun heq => hne (heq ▸ hn)
    rw [Nat.mod_eq_of_lt (by omega)] at htotal
    refine ⟨htotal, ?_⟩
    intro hall
    have hcomplete : Complete d = true := by
      rw [Complete, hd.last, hn, Bool.and_eq_true, Bitmap.areBitsSet_iff, htotal, hd.size]
      refine ⟨rfl, by omega, by omega, ?_⟩
      intro u hu
      rw [Nat.zero_add]
      obtain ⟨f, hf, hmarks⟩ := hall u hu
      exact hd.bits f hf u hmarks
    rw [hincomplete] at hcomplete
    cases hcomplete

-- With a length of zero nothing passes `Verify`.
theorem Sized.ne_of_complete (hd : Sized d) (hcomplete : Complete d = true)
    : trueLength d ≠ some 65536 := by
  intro hn
  rw [Complete, Bool.and_eq_true, Bitmap.areBitsSet_iff, (hd.total _ hn).2.2] at hcomplete
  exact absurd hcomplete.2.1 (by decide)

theorem Sized.delivered (hd : Sized d) (hcomplete : Complete d = true) (r : FwRequest)
    : TrueDelivery (assembled d r) := by
  have hlast := hcomplete
  rw [Complete, Bool.and_eq_true, hd.last] at hlast
  obtain ⟨n, hn⟩ := Option.isSome_iff_exists.mp hlast.1
  obtain ⟨_, hmax, htotal⟩ := hd.total n hn
  have hne : n ≠ 65536 := fun heq => hd.ne_of_complete hcomplete (heq ▸ hn)
  have heq : d.totallen = n := by omega
  exact ⟨n, hn, heq, congrArg (· + etherHdrSize) heq⟩

theorem trueLength_eraseTtl : trueLength d.eraseTtl = trueLength d := rfl

theorem sized_eraseTtl : Sized d.eraseTtl ↔ Sized d :=
  ⟨fun h => ⟨h.size, h.bits, h.last, h.total⟩, fun h => ⟨h.size, h.bits, h.last, h.total⟩⟩

end Datagram

/-! ### Runs -/

structure Unfinished (d : DataList) : Prop where
  sized : Sized d
  incomplete : Complete d = false

theorem unfinished_eraseTtl {d : DataList} : Unfinished d.eraseTtl ↔ Unfinished d :=
  ⟨fun h => ⟨sized_eraseTtl.mp h.sized, h.incomplete⟩,
    fun h => ⟨sized_eraseTtl.mpr h.sized, h.incomplete⟩⟩

structure AllSized (s : Reassembly) : Prop where
  intermed : IntermedChecked s
  queue : ∀ d ∈ s.datagrQueue, Unfinished d
  injected : ∀ d ∈ s.injected, TrueDelivery d

theorem allSized_initializeReassembly : AllSized initializeReassembly := by
  refine ⟨?_, ?_, ?_⟩
  . intro r hr
    cases hr
  . intro d hd
    cases hd
  . intro d hd
    cases hd

theorem AllSized.analyze {s : Reassembly} (hs : AllSized s) (env : Env) {r : FwRequest}
    (hr : FragmentRequest r)
    : AllSized (Ansfw.analyze env s r).1 := by
  have hc := hr.checked
  have hintermed : IntermedChecked (Ansfw.analyze env s r).1 := by
    intro r' hr'
    rw [analyze_intermedQueue] at hr'
    exact hs.intermed r' hr'
  obtain ⟨s', ops, heq, hana⟩ := analyzed env s r
  rw [heq] at hintermed ⊢
  cases hana with
  | options => exact hs
  | oversize hhdr hq =>
    exact ⟨hintermed, fun d hd => hs.queue d (hq.mem_others hd), hs.injected⟩
  | @added before d after ops hhdr hq hops hcomplete =>
    refine ⟨hintermed, ?_, hs.injected⟩
    intro x hx
    rcases hq.mem_updated hx with hx | hx
    . exact hs.queue x hx
    . rw [hx]
      exact ⟨(hs.queue d hq.mem).sized.addFragment hc hhdr hops, hcomplete⟩
  | @completed before d after ops hhdr hq hops hcomplete =>
    refine ⟨hintermed, ?_, ?_⟩
    . rw [deliver, freeDatagram_datagrQueue]
      intro x hx
      exact hs.queue x (hq.mem_others hx)
    . rw [deliver, freeDatagram_injected]
      intro x hx
      rcases List.mem_append.mp hx with hx | hx
      . exact hs.injected x hx
      . rw [List.mem_singleton.mp hx]
        exact ((hs.queue d hq.mem).sized.addFragment hc hhdr hops).delivered hcomplete r
  | tooLong => exact hs
  | noBuffer => exact hs
  | @created id free count hhdr hq hsize =>
    refine ⟨hintermed, ?_, hs.injected⟩
    intro d hd
    rcases List.mem_append.mp hd with hd | hd
    . exact hs.queue d hd
    . rw [List.mem_singleton.mp hd]
      exact ⟨sized_newDatagram id hc hsize, complete_newDatagram_of_checked id r⟩

theorem AllSized.step (s : Reassembly) (e : Event) (hs : AllSized s) (he : FragmentEvent e)
    : AllSized (Ansfw.step s e) := by
  have hintermed := step_intermedChecked s e hs.intermed he
  cases e with
  | reassemblePacket r => exact ⟨hintermed, hs.queue, hs.injected⟩
  | intermed env =>
    unfold Ansfw.step
    simp only
    split
    . exact hs
    . next r rest hq =>
      have hmem := hs.intermed
      rw [IntermedChecked, hq] at hmem
      have hrest : AllSized { s with intermedQueue := rest } :=
        ⟨fun r' hr' => hmem r' (List.mem_cons_of_mem r hr'), hs.queue, hs.injected⟩
      exact hrest.analyze env (hmem r List.mem_cons_self)
  | ttlPass =>
    refine ⟨hintermed, ?_, ?_⟩
    . intro d hd
      obtain ⟨d', hd', herase⟩ := ttlDecrementThreadFunc_mem hd
      rw [← unfinished_eraseTtl, ← herase, unfinished_eraseTtl]
      exact hs.queue d' hd'
    . obtain ⟨kept, expired, _, heq⟩ := ttlDecrementThreadFunc_spec s
      rw [Ansfw.step, heq]
      exact hs.injected
  | freeClone id =>
    refine ⟨hintermed, ?_, ?_⟩
    . rw [Ansfw.step, freeCloneRequest_datagrQueue]
      exact hs.queue
    . rw [Ansfw.step, freeCloneRequest_injected]
      exact hs.injected

theorem AllSized.lengthsTrue_iff {s : Reassembly} (hs : AllSized s)
    : LengthsTrue s ↔ ∀ d ∈ s.datagrQueue, trueLength d ≠ some 65536 := by
  have hqueued : ∀ d ∈ s.datagrQueue, ((∀ n, trueLength d = some n → d.totallen = n ∧ ¬AllArrived d n) ↔
      trueLength d ≠ some 65536) := by
    intro d hd
    exact (hs.queue d hd).sized.queued_iff (hs.queue d hd).incomplete
  constructor
  . intro h d hd
    exact (hqueued d hd).mp (h.queued d hd)
  . intro h
    exact ⟨fun d hd => (hqueued d hd).mpr (h d hd), hs.injected⟩

theorem truncates_iff {env : Env} {s : Reassembly} {r : FwRequest}
    (hhdr : (fragHdr r).ipHeaderSize ≤ 20) (hplace : ¬Unqueued s r ∨ CanAlloc env s)
    : Truncates env s r ↔ (fragHdr r).moreFragments = false ∧ (fragHdr r).endOffset = 65536 := by
  constructor
  . intro ⟨_, hmore, hend, _⟩
    exact ⟨hmore, hend⟩
  . intro ⟨hmore, hend⟩
    exact ⟨hhdr, hmore, hend, hplace⟩

theorem not_truncates_of_lt {env : Env} {s : Reassembly} {r : FwRequest}
    (hsize : workBufSize < (fragHdr r).endOffset)
    : ¬Truncates env s r := by
  intro hbad
  rw [hbad.2.2.1] at hsize
  exact absurd hsize (Nat.lt_irrefl _)

section Analyze

variable {s : Reassembly} (hs : AllSized s) (hsound : LengthsTrue s) (env : Env) {r : FwRequest}
include hs hsound

theorem AllSized.lengthsTrue_analyze_iff (hr : FragmentRequest r)
    : LengthsTrue (Ansfw.analyze env s r).1 ↔ ¬Truncates env s r := by
  have hc := hr.checked
  rw [(hs.analyze env hr).lengthsTrue_iff]
  rw [hs.lengthsTrue_iff] at hsound
  -- the length of the datagram that the fragment goes to, from the length it had
  have hlast : ∀ {n : Option Nat}, n ≠ some 65536 →
      ((if (fragHdr r).moreFragments then n else some (fragHdr r).endOffset) ≠ some 65536 ↔
        ¬((fragHdr r).moreFragments = false ∧ (fragHdr r).endOffset = 65536)) := by
    intro n hn
    cases (fragHdr r).moreFragments with
    | true => simpa using hn
    | false => simp
  obtain ⟨s', ops, heq, hana⟩ := analyzed env s r
  rw [heq]
  cases hana with
  | options hhdr =>
    apply iff_of_true hsound
    intro hbad
    have := hbad.1
    omega
  | oversize hhdr hq hops =>
    apply iff_of_true
    . intro d hd
      exact hsound d (hq.mem_others hd)
    . exact not_truncates_of_lt ((existingOps_eq_none _).mp hops).2
  | @added before d after ops hhdr hq hops hcomplete =>
    rw [truncates_iff hhdr (Or.inl hq.not_unqueued), ← hlast (hsound d hq.mem),
      ← trueLength_addFragment d r ops]
    constructor
    . intro h
      exact h _ (List.mem_append_right before List.mem_cons_self)
    . intro h x hx
      rcases hq.mem_updated hx with hx | hx
      . exact hsound x hx
      . rw [hx]
        exact h
  | @completed before d after ops hhdr hq hops hcomplete =>
    apply iff_of_true
    . simp only [deliver, freeDatagram_datagrQueue]
      intro x hx
      exact hsound x (hq.mem_others hx)
    . rw [truncates_iff hhdr (Or.inl hq.not_unqueued), ← hlast (hsound d hq.mem),
        ← trueLength_addFragment d r ops]
      exact ((hs.queue d hq.mem).sized.addFragment hc hhdr hops).ne_of_complete hcomplete
  | tooLong hhdr hq hsize => exact iff_of_true hsound (not_truncates_of_lt hsize)
  | noBuffer hhdr hq hsize halloc =>
    apply iff_of_true hsound
    intro hbad
    rcases hbad.2.2.2 with h | h
    . exact h hq
    . exact halloc h
  | @created id free count hhdr hq hsize halloc =>
    rw [truncates_iff hhdr (Or.inr halloc), ← hlast (Option.some_ne_none 65536).symm,
      ← trueLength_newDatagram id r]
    constructor
    . intro h
      exact h _ (List.mem_append_right _ (List.mem_singleton.mpr rfl))
    . intro h x hx
      rcases List.mem_append.mp hx with hx | hx
      . exact hsound x hx
      . rw [List.mem_singleton.mp hx]
        exact h

end Analyze

theorem AllSized.lengthsTrue_step_iff (s : Reassembly) (e : Event) (hs : AllSized s)
    (he : FragmentEvent e) (hsound : LengthsTrue s)
    : LengthsTrue (Ansfw.step s e) ↔ OnAnalyze (fun env s r => ¬Truncates env s r) s e := by
  cases e with
  | reassemblePacket r => exact iff_of_true ⟨hsound.queued, hsound.delivered⟩ trivial
  | intermed env =>
    unfold Ansfw.step OnAnalyze
    simp only
    split
    . exact iff_of_true hsound trivial
    . next r rest hq =>
      have hmem := hs.intermed
      rw [IntermedChecked, hq] at hmem
      have hrest : AllSized { s with intermedQueue := rest } :=
        ⟨fun r' hr' => hmem r' (List.mem_cons_of_mem r hr'), hs.queue, hs.injected⟩
      have hsound' : LengthsTrue { s with intermedQueue := rest } :=
        ⟨hsound.queued, hsound.delivered⟩
      exact hrest.lengthsTrue_analyze_iff hsound' env (hmem r List.mem_cons_self)
  | ttlPass =>
    apply iff_of_true _ trivial
    rw [(AllSized.step s .ttlPass hs he).lengthsTrue_iff]
    rw [hs.lengthsTrue_iff] at hsound
    intro d hd
    obtain ⟨d', hd', herase⟩ := ttlDecrementThreadFunc_mem hd
    rw [← trueLength_eraseTtl, ← herase]
    exact hsound d' hd'
  | freeClone id =>
    apply iff_of_true _ trivial
    rw [(AllSized.step s (.freeClone id) hs he).lengthsTrue_iff, Ansfw.step,
      freeCloneRequest_datagrQueue]
    exact hs.lengthsTrue_iff.mp hsound

theorem lengthsTrue_initializeReassembly : LengthsTrue initializeReassembly := by
  rw [allSized_initializeReassembly.lengthsTrue_iff]
  intro d hd
  cases hd

theorem along_lengthsTrue_iff {es : List Event} (hes : ∀ e ∈ es, FragmentEvent e)
    : Run.Along step (fun s e => LengthsTrue (step s e)) initializeReassembly es ↔
        Run.Along step (OnAnalyze fun env s r => ¬Truncates env s r) initializeReassembly es := by
  have hadm : Run.Along step (fun _ e => FragmentEvent e) initializeReassembly es :=
    Run.along_of_forall step hes
  exact Run.along_post_iff AllSized.step AllSized.lengthsTrue_step_iff allSized_initializeReassembly
    lengthsTrue_initializeReassembly hadm

-- The length was written over.
theorem not_lengthsTrue_overwritten
    : ¬LengthsTrue { initializeReassembly with
        datagrQueue := [{ DataList.zeroed 0 with fragmentsList := [greRequest 0 42 28 3] }] } := by
  intro h
  have htotal := (h.queued _ List.mem_cons_self 52 (by decide)).1
  revert htotal
  decide

/--
The lengths are true at every moment of a run, whatever an overrun makes of the state, if and only if no last
fragment that is accepted ends at 65536 and no fragment overruns.
-/
theorem run_lengthsTrue_iff (es : List Event) (hes : ∀ e ∈ es, FragmentEvent e)
    : (∀ behind es', es' <+: es → LengthsTrue (Run.run (stepIn behind) initializeReassembly es')) ↔
        Run.Along step (OnAnalyze fun env s r => ¬Truncates env s r ∧ ¬Overruns env s r)
          initializeReassembly es := by
  have hboth := Run.along_and_iff step (OnAnalyze fun env s r => ¬Truncates env s r)
    (OnAnalyze fun env s r => ¬Overruns env s r) initializeReassembly es
  simp only [← onAnalyze_and_iff] at hboth
  have hdefined := forall_behind_iff (P := fun _ => LengthsTrue)
    (fun _ _ => ⟨_, not_lengthsTrue_overwritten⟩) es
  rw [hdefined, hboth, ← along_lengthsTrue_iff hes, along_overwrites_iff hes,
    Run.forall_prefix_iff_along step lengthsTrue_initializeReassembly]

theorem fragmentEvent_lastFirstRun : ∀ e ∈ lastFirstRun, FragmentEvent e := by
  intro e he
  simp only [lastFirstRun, List.mem_cons, List.not_mem_nil, or_false] at he
  rcases he with rfl | rfl | rfl | rfl
  . exact ⟨fun _ => true, 0, 0, _, rfl, by decide, by decide⟩
  . exact ⟨fun _ => true, 1, 0, _, rfl, by decide, by decide⟩
  . trivial
  . trivial

theorem lengthsTrue_lastFirstRun
    : (∀ behind, LengthsTrue (Run.run (stepIn behind) initializeReassembly lastFirstRun)) ∧
        (Run.run step initializeReassembly lastFirstRun).injected.map
          (fun d => (d.totallen, d.fwRequest.fltPacket.bufferSize)) = [(36, 50)] := by
  refine ⟨fun behind => ?_, by decide⟩
  refine (run_lengthsTrue_iff lastFirstRun fragmentEvent_lastFirstRun).mpr ?_ behind _ (List.prefix_refl _)
  have hfirst : (fragHdr (greRequest 0 42 28 1)).fullLength = 28 := by decide
  have hsecond : (fragHdr (greRequest 1 42 28 0x2000)).fullLength = 28 := by decide
  have hend : (fragHdr (greRequest 0 42 28 1)).endOffset = 36 := by decide
  have hmore : (fragHdr (greRequest 1 42 28 0x2000)).moreFragments = true := by decide
  refine ⟨trivial, trivial, ⟨?_, ?_⟩, ⟨?_, ?_⟩, trivial⟩
  . intro hbad
    have := hbad.2.2.1
    omega
  . intro hbad
    have := hbad.2.1
    omega
  . intro hbad
    exact absurd (hmore.symm.trans hbad.2.1) (by decide)
  . intro hbad
    have := hbad.2.1
    omega

theorem not_lengthsTrue_lastUnit
    : ¬∀ behind es, (∀ e ∈ es, FragmentEvent e) →
        ∀ es', es' <+: es → LengthsTrue (Run.run (stepIn behind) initializeReassembly es') := by
  intro h
  have hr : FragmentRequest (greRequest 0 38 24 8189) :=
    ⟨fun _ => true, 0, 0, _, rfl, by decide, by decide⟩
  have hes := fragmentEvent_analyzeOne hr
  have hrun := (run_lengthsTrue_iff _ hes).mp fun behind => h behind _ hes
  apply hrun.2.1.1
  exact ⟨by decide, by decide, by decide, Or.inr (Or.inr ⟨by decide, rfl⟩)⟩

end Ansfw
