import Mathlib.Data.List.TakeDrop
import Mathlib.Data.List.TakeWhile
import Mathlib.Data.List.Perm.Basic
import Ndisrd.Ansfw.Reassembly.Impl

/-!
This module contains the specification of the steps of the reassembly: which fields of a datagram its
operations change, what a call of `Analyze` can do, and what a pass of the TTL thread does.
-/

namespace Ansfw

namespace DataList

/-! What a list of operations does to the buffer and to the bitmap of a datagram. -/

def copyAll (p : FltPacket) (finalbuf : Nat → UInt8) (ops : List MemOp) : Nat → UInt8 :=
  ops.foldl (fun buf op =>
    match op with
    | .copy dst src len => Buffer.copy buf dst p.buffer src len
    | .setBits _ _ => buf) finalbuf

def setAll (bitMapHeader : Bitmap) (ops : List MemOp) : Bitmap :=
  ops.foldl (fun bits op =>
    match op with
    | .copy _ _ _ => bits
    | .setBits start len => bits.setBits start len) bitMapHeader

theorem write_eq (d : DataList) (p : FltPacket) (ops : List MemOp)
    : d.write p ops =
        { d with
          finalbuf := copyAll p d.finalbuf ops
          bitMapHeader := setAll d.bitMapHeader ops
          ops := d.ops ++ ops } := by
  induction ops generalizing d with
  | nil =>
    rw [List.append_nil]
    rfl
  | cons op ops ih =>
    have hcons : d.write p (op :: ops) = (d.perform p op).write p ops := rfl
    rw [hcons, ih]
    cases op with
    | copy dst src len => simp [perform, copyAll, setAll]
    | setBits start len => simp [perform, copyAll, setAll]

theorem size_setAll (b : Bitmap) (ops : List MemOp) : (setAll b ops).size = b.size := by
  induction ops generalizing b with
  | nil => rfl
  | cons op ops ih =>
    cases op with
    | copy dst src len => exact ih b
    | setBits start len => exact ih (b.setBits start len)

end DataList

theorem existingOps_eq_none (h : FragHdr)
    : existingOps h = none ↔
        ¬(h.moreFragments = true ∧ h.offset = 0) ∧ workBufSize < h.offset * 8 + h.fullLength := by
  unfold existingOps
  split
  . next hfirst => simp [hfirst]
  . next hfirst =>
    split
    . next hsize => exact iff_of_true rfl ⟨hfirst, hsize⟩
    . next hsize => exact iff_of_false (by simp) (fun hbad => hsize hbad.2)

theorem fits_of_existingOps {h : FragHdr} {ops : List MemOp} (hops : existingOps h = some ops)
    : (h.moreFragments = true ∧ h.offset = 0) ∨ h.offset * 8 + h.fullLength ≤ workBufSize := by
  have hsome : existingOps h ≠ none := by simp [hops]
  rw [ne_eq, existingOps_eq_none] at hsome
  by_cases hfirst : h.moreFragments = true ∧ h.offset = 0
  . exact Or.inl hfirst
  . exact Or.inr (by_contra fun hsize => hsome ⟨hfirst, by omega⟩)

@[simp]
theorem fragmentsList_addFragment (d : DataList) (r : FwRequest) (h : FragHdr) (ops : List MemOp)
    : (addFragment d r h ops).fragmentsList = r :: d.fragmentsList := by
  rw [addFragment, DataList.write_eq]
  repeat' split
  all_goals rfl

@[simp]
theorem fragmentsList_newDatagram (d : DataList) (r : FwRequest) (h : FragHdr)
    : (newDatagram d r h).fragmentsList = [r] := by
  rw [newDatagram, DataList.write_eq]
  repeat' split
  all_goals rfl

@[simp]
theorem fragmentsList_assembled (d : DataList) (r : FwRequest)
    : (assembled d r).fragmentsList = d.fragmentsList := rfl

def Complete (d : DataList) : Bool := d.bLast && d.bitMapHeader.areBitsSet 0 (d.totallen / 8)

def CanAlloc (env : Env) (s : Reassembly) : Prop :=
  s.freeDatagramWorkBufList ≠ [] ∨ s.allocCounter ≤ maxWorkBufferCount ∧ env.poolAlloc = true

theorem ruleAllocDatagramWorkBuffer_isSome (env : Env) (s : Reassembly)
    : (s.ruleAllocDatagramWorkBuffer env).isSome = true ↔ CanAlloc env s := by
  unfold Reassembly.ruleAllocDatagramWorkBuffer CanAlloc
  split
  . next d rest hfree => simp [hfree]
  . next hfree =>
    split
    . next hcount =>
      simp [hfree] at *
      omega
    . next hcount =>
      have : s.allocCounter ≤ maxWorkBufferCount := by omega
      split
      . next hpool => simpa [hfree, hpool] using this
      . next hpool => simp [hfree, hpool]

theorem ruleAllocDatagramWorkBuffer_some {env : Env} {s s' : Reassembly} {d : DataList}
    (h : s.ruleAllocDatagramWorkBuffer env = some (d, s'))
    : ∃ id free count,
        d = .zeroed id ∧
          s' = { s with freeDatagramWorkBufList := free, allocCounter := count } := by
  unfold Reassembly.ruleAllocDatagramWorkBuffer at h
  split at h
  . next d' rest hfree =>
    injection h with h
    injection h with hd hs
    exact ⟨d'.id, rest, s.allocCounter, hd.symm, hs.symm⟩
  . next hfree =>
    split at h
    . cases h
    . split at h
      . injection h with h
        injection h with hd hs
        exact ⟨s.allocCounter, s.freeDatagramWorkBufList, s.allocCounter + 1, hd.symm, hs.symm⟩
      . cases h

theorem freeDatagram_intermedQueue (s : Reassembly) (d : DataList)
    : (s.freeDatagram d).intermedQueue = s.intermedQueue := by
  unfold Reassembly.freeDatagram
  simp only
  split
  . rfl
  . rfl

theorem freeDatagram_datagrQueue (s : Reassembly) (d : DataList)
    : (s.freeDatagram d).datagrQueue = s.datagrQueue := by
  unfold Reassembly.freeDatagram
  simp only
  split
  . rfl
  . rfl

theorem freeDatagram_injected (s : Reassembly) (d : DataList)
    : (s.freeDatagram d).injected = s.injected := by
  unfold Reassembly.freeDatagram
  simp only
  split
  . rfl
  . rfl

theorem freeCloneRequest_intermedQueue (s : Reassembly) (id : Nat)
    : (freeCloneRequest s id).intermedQueue = s.intermedQueue := by
  unfold freeCloneRequest
  split
  . rw [freeDatagram_intermedQueue]
  . rfl

theorem freeCloneRequest_datagrQueue (s : Reassembly) (id : Nat)
    : (freeCloneRequest s id).datagrQueue = s.datagrQueue := by
  unfold freeCloneRequest
  split
  . rw [freeDatagram_datagrQueue]
  . rfl

theorem freeCloneRequest_injected (s : Reassembly) (id : Nat)
    : (freeCloneRequest s id).injected = s.injected := by
  unfold freeCloneRequest
  split
  . rw [freeDatagram_injected]
  . rfl

/-! ### What a call of `Analyze` can do -/

section Analyzed

variable (env : Env) (s : Reassembly) (r : FwRequest)

structure Queued (before : List DataList) (d : DataList) (after : List DataList) : Prop where
  queue : s.datagrQueue = before ++ d :: after
  key : d.hasKey (fragHdr r) = true
  first : ∀ d' ∈ before, d'.hasKey (fragHdr r) = false

def Unqueued : Prop := ∀ d ∈ s.datagrQueue, d.hasKey (fragHdr r) = false

theorem Queued.mem {s : Reassembly} {r : FwRequest} {before d after} (h : Queued s r before d after)
    : d ∈ s.datagrQueue := by
  rw [h.queue]
  exact List.mem_append_right before List.mem_cons_self

theorem Queued.not_unqueued {s : Reassembly} {r : FwRequest} {before d after}
    (h : Queued s r before d after) : ¬Unqueued s r := by
  intro hu
  have := hu d h.mem
  rw [h.key] at this
  cases this

theorem Queued.mem_others {s : Reassembly} {r : FwRequest} {before d after x}
    (h : Queued s r before d after) (hx : x ∈ before ++ after)
    : x ∈ s.datagrQueue := by
  rw [h.queue]
  exact List.mem_append.mpr ((List.mem_append.mp hx).imp_right (List.mem_cons_of_mem d))

theorem Queued.mem_updated {s : Reassembly} {r : FwRequest} {before d d' after x}
    (h : Queued s r before d after) (hx : x ∈ before ++ d' :: after)
    : x ∈ s.datagrQueue ∨ x = d' := by
  rcases List.mem_append.mp hx with hx | hx
  . exact Or.inl (h.mem_others (List.mem_append_left after hx))
  . rcases List.mem_cons.mp hx with hx | hx
    . exact Or.inr hx
    . exact Or.inl (h.mem_others (List.mem_append_right before hx))

theorem Queued.unique {s : Reassembly} {r : FwRequest} {before before' d d' after after'}
    (h : Queued s r before d after) (h' : Queued s r before' d' after')
    : before = before' ∧ d = d' ∧ after = after' := by
  have hspan : ∀ {b d a}, Queued s r b d a →
      s.datagrQueue.takeWhile (fun d => !d.hasKey (fragHdr r)) = b ∧
        s.datagrQueue.dropWhile (fun d => !d.hasKey (fragHdr r)) = d :: a := by
    intro b d a hq
    have hb : ∀ x ∈ b, (fun d : DataList => !d.hasKey (fragHdr r)) x = true := by
      intro x hx
      simp [hq.first x hx]
    rw [hq.queue, List.takeWhile_append_of_pos hb, List.dropWhile_append_of_pos hb,
      List.takeWhile_cons_of_neg (by simp [hq.key]), List.dropWhile_cons_of_neg (by simp [hq.key]),
      List.append_nil]
    exact ⟨rfl, rfl⟩
  obtain ⟨htake, hdrop⟩ := hspan h
  obtain ⟨htake', hdrop'⟩ := hspan h'
  have hcons := hdrop.symm.trans hdrop'
  injection hcons with hd ha
  exact ⟨htake.symm.trans htake', hd, ha⟩

inductive Analyzed : Reassembly → List MemOp → Prop where
  | options (hhdr : 20 < (fragHdr r).ipHeaderSize) : Analyzed s []
  | oversize {before d after} (hhdr : (fragHdr r).ipHeaderSize ≤ 20)
      (hq : Queued s r before d after) (hops : existingOps (fragHdr r) = none)
      : Analyzed
          ({ s with datagrQueue := before ++ after }.ruleRecycleDatagramWorkBuffer
            { d with fragmentsList := r :: d.fragmentsList }) []
  | added {before d after ops} (hhdr : (fragHdr r).ipHeaderSize ≤ 20)
      (hq : Queued s r before d after) (hops : existingOps (fragHdr r) = some ops)
      (hcomplete : Complete (addFragment d r (fragHdr r) ops) = false)
      : Analyzed
          { s with datagrQueue := before ++ addFragment d r (fragHdr r) ops :: after } ops
  | completed {before d after ops} (hhdr : (fragHdr r).ipHeaderSize ≤ 20)
      (hq : Queued s r before d after) (hops : existingOps (fragHdr r) = some ops)
      (hcomplete : Complete (addFragment d r (fragHdr r) ops) = true)
      : Analyzed
          (deliver env { s with datagrQueue := before ++ after }
            (assembled (addFragment d r (fragHdr r) ops) r)) ops
  | tooLong (hhdr : (fragHdr r).ipHeaderSize ≤ 20) (hq : Unqueued s r)
      (hsize : workBufSize < (fragHdr r).offset * 8 + (fragHdr r).fullLength)
      : Analyzed s []
  | noBuffer (hhdr : (fragHdr r).ipHeaderSize ≤ 20) (hq : Unqueued s r)
      (hsize : (fragHdr r).offset * 8 + (fragHdr r).fullLength ≤ workBufSize)
      (halloc : ¬CanAlloc env s)
      : Analyzed s []
  | created {id free count} (hhdr : (fragHdr r).ipHeaderSize ≤ 20) (hq : Unqueued s r)
      (hsize : (fragHdr r).offset * 8 + (fragHdr r).fullLength ≤ workBufSize)
      (halloc : CanAlloc env s)
      : Analyzed
          { s with
            datagrQueue := s.datagrQueue ++ [newDatagram (.zeroed id) r (fragHdr r)]
            freeDatagramWorkBufList := free
            allocCounter := count } (newOps (fragHdr r))

theorem span_queued
    : (∃ before d after,
        s.datagrQueue.span (fun d => !d.hasKey (fragHdr r)) = (before, d :: after) ∧
          Queued s r before d after) ∨
      (∃ before,
        s.datagrQueue.span (fun d => !d.hasKey (fragHdr r)) = (before, []) ∧ Unqueued s r) := by
  rw [List.span_eq_takeWhile_dropWhile]
  have happ := List.takeWhile_append_dropWhile
    (p := fun d : DataList => !d.hasKey (fragHdr r)) (l := s.datagrQueue)
  cases hdrop : s.datagrQueue.dropWhile (fun d => !d.hasKey (fragHdr r)) with
  | nil =>
    refine Or.inr ⟨_, rfl, ?_⟩
    intro d hd
    have := List.dropWhile_eq_nil_iff.mp hdrop d hd
    simpa using this
  | cons d after =>
    refine Or.inl ⟨_, d, after, rfl, ?_, ?_, ?_⟩
    . rw [hdrop] at happ
      exact happ.symm
    . have := List.head_dropWhile_not (p := fun d : DataList => !d.hasKey (fragHdr r))
        (l := s.datagrQueue) (by simp [hdrop])
      simpa [hdrop] using this
    . intro d' hd'
      have := List.mem_takeWhile_imp hd'
      simpa using this

theorem analyzed_fst_snd : Analyzed env s r (analyze env s r).1 (analyze env s r).2 := by
  unfold analyze
  simp only
  split
  . next hhdr => exact .options hhdr
  . next hhdr =>
    have hhdr : (fragHdr r).ipHeaderSize ≤ 20 := by omega
    rcases span_queued s r with ⟨before, d, after, hspan, hq⟩ | ⟨before, hspan, hq⟩
    . rw [hspan]
      simp only [analyzeExisting]
      split
      . next hops => exact .oversize hhdr hq hops
      . next ops hops =>
        simp only [verify]
        split
        . next hlast =>
          split
          . next hbits => exact .completed hhdr hq hops (by simp [Complete, hlast, hbits])
          . next hbits => exact .added hhdr hq hops (by simp [Complete, hbits])
        . next hlast => exact .added hhdr hq hops (by simp [Complete, hlast])
    . rw [hspan]
      simp only [analyzeNew]
      split
      . next hsize => exact .tooLong hhdr hq hsize
      . next hsize =>
        have hsize := Nat.le_of_not_lt hsize
        have hsome := ruleAllocDatagramWorkBuffer_isSome env s
        split
        . next halloc =>
          rw [halloc] at hsome
          exact .noBuffer hhdr hq hsize (by simpa using hsome)
        . next d s' halloc =>
          rw [halloc] at hsome
          obtain ⟨id, free, count, hd, hs⟩ := ruleAllocDatagramWorkBuffer_some halloc
          subst hd
          subst hs
          exact .created hhdr hq hsize (by simpa using hsome)

theorem analyzed : ∃ s' ops, analyze env s r = (s', ops) ∧ Analyzed env s r s' ops :=
  ⟨_, _, rfl, analyzed_fst_snd env s r⟩

end Analyzed

theorem analyze_intermedQueue (env : Env) (s : Reassembly) (r : FwRequest)
    : (analyze env s r).1.intermedQueue = s.intermedQueue := by
  obtain ⟨s', ops, heq, hana⟩ := analyzed env s r
  rw [heq]
  cases hana with
  | completed => exact freeDatagram_intermedQueue _ _
  | _ => rfl

/-! ### What a pass of the TTL thread does -/

def DataList.eraseTtl (d : DataList) : DataList := { d with ttl := 0 }

theorem ttlLoop_spec (s : Reassembly) (seen rest : List DataList)
    : ∃ kept expired,
        ((seen ++ rest).map DataList.eraseTtl).Perm ((kept ++ expired).map DataList.eraseTtl) ∧
        ttlLoop s seen rest =
          { s with
            datagrQueue := kept
            freeDatagramWorkBufList := s.freeDatagramWorkBufList ++ expired
            released := s.released ++ expired.flatMap DataList.fragmentsList } := by
  induction s, seen, rest using ttlLoop.induct with
  | case1 s seen =>
    refine ⟨seen, [], ?_, ?_⟩
    . simp
    . simp [ttlLoop]
  | case2 s seen d rest httl ih =>
    obtain ⟨kept, expired, hperm, heq⟩ := ih
    refine ⟨kept, d :: expired, ?_, ?_⟩
    . simp only [List.nil_append, List.map_append, List.map_cons] at *
      exact (List.perm_middle.trans (hperm.cons _)).trans List.perm_middle.symm
    . rw [ttlLoop, if_pos httl, heq]
      simp [Reassembly.releaseFragments, Reassembly.ruleRecycleDatagramWorkBuffer]
  | case3 s seen d rest httl ih =>
    obtain ⟨kept, expired, hperm, heq⟩ := ih
    refine ⟨kept, expired, ?_, ?_⟩
    . simpa [DataList.eraseTtl] using hperm
    . rw [ttlLoop, if_neg httl, heq]

theorem ttlDecrementThreadFunc_spec (s : Reassembly)
    : ∃ kept expired,
        (s.datagrQueue.map DataList.eraseTtl).Perm ((kept ++ expired).map DataList.eraseTtl) ∧
        ttlDecrementThreadFunc s =
          { s with
            datagrQueue := kept
            freeDatagramWorkBufList := s.freeDatagramWorkBufList ++ expired
            released := s.released ++ expired.flatMap DataList.fragmentsList } :=
  ttlLoop_spec s [] s.datagrQueue

theorem ttlDecrementThreadFunc_mem {s : Reassembly} {d : DataList}
    (h : d ∈ (ttlDecrementThreadFunc s).datagrQueue)
    : ∃ d' ∈ s.datagrQueue, d'.eraseTtl = d.eraseTtl := by
  obtain ⟨kept, expired, hperm, heq⟩ := ttlDecrementThreadFunc_spec s
  rw [heq] at h
  have hmem : d.eraseTtl ∈ (kept ++ expired).map DataList.eraseTtl :=
    List.mem_map_of_mem (List.mem_append_left expired h)
  exact List.mem_map.mp (hperm.mem_iff.mpr hmem)

/-! ### The intermediate queue -/

theorem step_intermedQueue {s : Reassembly} {e : Event} {r : FwRequest}
    (h : r ∈ (step s e).intermedQueue)
    : r ∈ s.intermedQueue ∨ e = .reassemblePacket r := by
  cases e with
  | reassemblePacket r' =>
    rcases List.mem_append.mp h with h | h
    . exact Or.inl h
    . rw [List.mem_singleton.mp h]
      exact Or.inr rfl
  | intermed env =>
    unfold step at h
    simp only at h
    split at h
    . exact Or.inl h
    . next r' rest hq =>
      rw [analyze_intermedQueue] at h
      rw [hq]
      exact Or.inl (List.mem_cons_of_mem r' h)
  | ttlPass =>
    obtain ⟨kept, expired, _, heq⟩ := ttlDecrementThreadFunc_spec s
    rw [step, heq] at h
    exact Or.inl h
  | freeClone id =>
    rw [step, freeCloneRequest_intermedQueue] at h
    exact Or.inl h

/-! ### Fragments to try the steps on -/

def greFrame (size ipLen ipOff : Nat) : FltPacket where
  direction := .inbound
  bufferSize := size
  buffer i :=
    match i with
    | 12 => 0x08
    | 14 => 0x45
    | 16 => UInt8.ofNat (ipLen / 256)
    | 17 => UInt8.ofNat ipLen
    | 20 => UInt8.ofNat (ipOff / 256)
    | 21 => UInt8.ofNat ipOff
    | 22 => 64
    | 23 => 47
    | _ => 0

def greRequest (id size ipLen ipOff : Nat) : FwRequest :=
  { (initPacketHeaders (fun _ => true) (.allocateRequest id (greFrame size ipLen ipOff))).val with
    pid := 0 }

-- A fragment of another datagram.
def otherRequest (id size ipLen ipOff : Nat) : FwRequest :=
  let frame := greFrame size ipLen ipOff
  { (initPacketHeaders (fun _ => true)
      (.allocateRequest id { frame with buffer := Function.update frame.buffer 19 1 })).val with
    pid := 0 }

def analyzeOne (r : FwRequest) : List Event := [.reassemblePacket r, .intermed ⟨true, 0⟩]

/-- A datagram of two fragments, the last of which comes first. -/
def lastFirstRun : List Event := [
  .reassemblePacket (greRequest 0 42 28 1),
  .reassemblePacket (greRequest 1 42 28 0x2000),
  .intermed ⟨true, 0⟩,
  .intermed ⟨true, 0⟩
]

end Ansfw
