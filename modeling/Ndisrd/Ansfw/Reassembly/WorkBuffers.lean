import Ndisrd.Ansfw.Reassembly.Overrun

/-!
This module contains where the work buffers of the reassembly are: each of them is in the datagram
queue, in the free list or with the clients, and the counter knows how many there are.
-/

namespace Ansfw

def DataList.countId (i : Nat) (ds : List DataList) : Nat := (ds.map DataList.id).count i

open DataList (countId)

section CountId

variable (i : Nat)

@[simp]
theorem countId_nil : countId i [] = 0 := rfl

@[simp]
theorem countId_cons (d : DataList) (ds : List DataList)
    : countId i (d :: ds) = countId i ds + if d.id = i then 1 else 0 := by
  simp only [countId, List.map_cons, List.count_cons, beq_iff_eq]

@[simp]
theorem countId_append (ds ds' : List DataList)
    : countId i (ds ++ ds') = countId i ds + countId i ds' := by
  rw [countId, List.map_append, List.count_append]
  rfl

theorem countId_perm {ds ds' : List DataList}
    (h : (ds.map DataList.eraseTtl).Perm (ds'.map DataList.eraseTtl))
    : countId i ds = countId i ds' := by
  have hid : ∀ l : List DataList, countId i l = (l.map DataList.eraseTtl).countP (·.id == i) := by
    intro l
    rw [countId, List.count, List.countP_map, List.countP_map]
    rfl
  rw [hid, hid]
  exact h.countP_eq _

theorem countId_pos {d : DataList} {ds : List DataList} (h : d ∈ ds) : 0 < countId d.id ds :=
  List.count_pos_iff.mpr (List.mem_map_of_mem h)

end CountId

theorem id_addFragment (d : DataList) (r : FwRequest) (h : FragHdr) (ops : List MemOp)
    : (addFragment d r h ops).id = d.id := by
  rw [addFragment, DataList.write_eq]
  repeat' split
  all_goals rfl

theorem id_newDatagram (d : DataList) (r : FwRequest) (h : FragHdr)
    : (newDatagram d r h).id = d.id := by
  rw [newDatagram, DataList.write_eq]
  repeat' split
  all_goals rfl

/-! ### The places of a work buffer -/

/--
In how many places the work buffer `i` is.
-/
def placesOf (s : Reassembly) (i : Nat) : Nat :=
  countId i s.datagrQueue + countId i s.freeDatagramWorkBufList + countId i s.delivered

structure OnePlace (s : Reassembly) : Prop where
  places : ∀ i, placesOf s i = if i < s.allocCounter then 1 else 0
  held : ∀ d ∈ s.delivered, 0 < d.references
  limit : s.allocCounter ≤ maxWorkBufferCount + 1

theorem onePlace_initializeReassembly : OnePlace initializeReassembly := by
  refine ⟨fun i => ?_, ?_, Nat.zero_le _⟩
  . simp [placesOf, initializeReassembly]
  . intro d hd
    cases hd

-- Only the places count, not what is in the buffers.
theorem OnePlace.moved {s s' : Reassembly} (hs : OnePlace s)
    (hplaces : ∀ i, placesOf s' i = placesOf s i) (hcount : s'.allocCounter = s.allocCounter)
    (hheld : ∀ d ∈ s'.delivered, 0 < d.references)
    : OnePlace s' := by
  refine ⟨fun i => ?_, hheld, ?_⟩
  . rw [hplaces, hs.places, hcount]
  . rw [hcount]
    exact hs.limit

theorem allocCounter_freeDatagram (s : Reassembly) (d : DataList)
    : (s.freeDatagram d).allocCounter = s.allocCounter := by
  unfold Reassembly.freeDatagram
  simp only
  split
  . rfl
  . rfl

theorem placesOf_freeDatagram (s : Reassembly) (d : DataList) (i : Nat)
    : placesOf (s.freeDatagram d) i = placesOf s i + if d.id = i then 1 else 0 := by
  unfold Reassembly.freeDatagram
  simp only
  split
  . simp only [placesOf, Reassembly.ruleRecycleDatagramWorkBuffer, Reassembly.releaseFragments,
      countId_append, countId_cons, countId_nil]
    omega
  . simp only [placesOf, countId_append, countId_cons, countId_nil]
    omega

theorem held_freeDatagram {s : Reassembly} (hs : ∀ d ∈ s.delivered, 0 < d.references) (d : DataList)
    : ∀ d' ∈ (s.freeDatagram d).delivered, 0 < d'.references := by
  unfold Reassembly.freeDatagram
  simp only
  split
  . exact hs
  . next hne =>
    refine List.forall_mem_append.mpr ⟨hs, List.forall_mem_singleton.mpr ?_⟩
    exact Nat.pos_of_ne_zero hne

/-! ### The steps of the reassembly -/

section Analyze

variable {s : Reassembly} (hs : OnePlace s) (env : Env) (r : FwRequest)
include hs

theorem OnePlace.analyzeExisting {before d after} (hq : s.datagrQueue = before ++ d :: after)
    (h : FragHdr)
    : OnePlace (Ansfw.analyzeExisting env s before d after r h).1 := by
  have hplaces : ∀ i, placesOf s i =
      placesOf { s with datagrQueue := before ++ after } i + if d.id = i then 1 else 0 := by
    intro i
    simp only [placesOf, hq, countId_append, countId_cons]
    omega
  -- the datagram goes on in its place of the queue
  have hkept : ∀ d' : DataList, d'.id = d.id →
      OnePlace { s with datagrQueue := before ++ d' :: after } := by
    intro d' hid
    refine hs.moved (fun i => ?_) rfl hs.held
    rw [hplaces]
    simp only [placesOf, countId_append, countId_cons, hid]
    omega
  unfold Ansfw.analyzeExisting
  split
  . refine hs.moved (fun i => ?_) rfl hs.held
    rw [hplaces]
    simp only [placesOf, Reassembly.ruleRecycleDatagramWorkBuffer, countId_append, countId_cons,
      countId_nil]
    omega
  . next ops hops =>
    have hid := id_addFragment d r h ops
    simp only [verify]
    split
    . split
      . refine hs.moved (fun i => ?_) ?_ ?_
        . rw [deliver, placesOf_freeDatagram, hplaces]
          simp only [assembled, hid]
          rfl
        . rw [deliver, allocCounter_freeDatagram]
        . rw [deliver]
          apply held_freeDatagram
          exact hs.held
      . exact hkept _ hid
    . exact hkept _ hid

theorem OnePlace.ruleAllocDatagramWorkBuffer {d : DataList} {s' : Reassembly}
    (halloc : s.ruleAllocDatagramWorkBuffer env = some (d, s')) {d' : DataList} (hid : d'.id = d.id)
    : OnePlace { s' with datagrQueue := s'.datagrQueue ++ [d'] } := by
  unfold Reassembly.ruleAllocDatagramWorkBuffer at halloc
  split at halloc
  . next pDataBuffer rest hfree =>
    injection halloc with halloc
    injection halloc with hd hs'
    subst hd hs'
    refine hs.moved (fun i => ?_) rfl hs.held
    simp only [placesOf, hfree, countId_append, countId_cons, countId_nil, hid, DataList.zeroed]
    omega
  . next hfree =>
    split at halloc
    . cases halloc
    . next hcount =>
      split at halloc
      . injection halloc with halloc
        injection halloc with hd hs'
        subst hd hs'
        refine ⟨fun i => ?_, hs.held, Nat.succ_le_succ (Nat.le_of_not_lt hcount)⟩
        have hplaces := hs.places i
        simp only [placesOf, countId_append, countId_cons, countId_nil, hid, DataList.zeroed] at *
        -- the new buffer takes the next number
        by_cases hi : s.allocCounter = i
        . rw [if_neg (by omega)] at hplaces
          rw [if_pos hi, if_pos (by omega)]
          omega
        . rw [if_neg hi, Nat.add_zero]
          by_cases hlt : i < s.allocCounter
          . rw [if_pos hlt] at hplaces
            rw [if_pos (by omega)]
            omega
          . rw [if_neg hlt] at hplaces
            rw [if_neg (by omega)]
            omega
      . cases halloc

theorem OnePlace.analyze : OnePlace (Ansfw.analyze env s r).1 := by
  unfold Ansfw.analyze
  simp only
  split
  . exact hs
  . rcases span_queued s r with ⟨before, d, after, hspan, hq⟩ | ⟨before, hspan, hq⟩
    . rw [hspan]
      exact hs.analyzeExisting env r hq.queue _
    . rw [hspan]
      simp only [analyzeNew]
      split
      . exact hs
      . split
        . exact hs
        . next d s' halloc => exact hs.ruleAllocDatagramWorkBuffer env halloc (id_newDatagram d r _)

end Analyze

theorem OnePlace.ttlDecrementThreadFunc {s : Reassembly} (hs : OnePlace s)
    : OnePlace (Ansfw.ttlDecrementThreadFunc s) := by
  obtain ⟨kept, expired, hperm, heq⟩ := ttlDecrementThreadFunc_spec s
  rw [heq]
  refine hs.moved (fun i => ?_) rfl hs.held
  have hqueue := countId_perm i hperm
  rw [countId_append] at hqueue
  simp only [placesOf, countId_append, hqueue]
  omega

theorem OnePlace.freeCloneRequest {s : Reassembly} (hs : OnePlace s) (id : Nat)
    : OnePlace (Ansfw.freeCloneRequest s id) := by
  unfold Ansfw.freeCloneRequest
  split
  . next before d after hspan =>
    have hdelivered : s.delivered = before ++ d :: after := by
      have happ := List.takeWhile_append_dropWhile
        (p := fun d : DataList => decide (d.id ≠ id)) (l := s.delivered)
      rw [List.span_eq_takeWhile_dropWhile, Prod.mk.injEq] at hspan
      rw [← happ, hspan.1, hspan.2]
    have hheld := hs.held
    rw [hdelivered, List.forall_mem_append, List.forall_mem_cons] at hheld
    refine hs.moved (fun i => ?_) ?_ ?_
    . rw [placesOf_freeDatagram]
      simp only [placesOf, hdelivered, countId_append, countId_cons]
      omega
    . rw [allocCounter_freeDatagram]
    . exact held_freeDatagram (List.forall_mem_append.mpr ⟨hheld.1, hheld.2.2⟩) d
  . exact hs

theorem OnePlace.step (s : Reassembly) (e : Event) (hs : OnePlace s) : OnePlace (Ansfw.step s e) := by
  cases e with
  | reassemblePacket r => exact ⟨hs.places, hs.held, hs.limit⟩
  | intermed env =>
    unfold Ansfw.step
    simp only
    split
    . exact hs
    . next r rest hq =>
      exact OnePlace.analyze (s := { s with intermedQueue := rest })
        ⟨hs.places, hs.held, hs.limit⟩ env r
  | ttlPass => exact hs.ttlDecrementThreadFunc
  | freeClone id => exact hs.freeCloneRequest id

theorem OnePlace.run (es : List Event) : OnePlace (Run.run Ansfw.step initializeReassembly es) := by
  have hes : Run.Along Ansfw.step (fun _ _ => True) initializeReassembly es :=
    Run.along_of_forall Ansfw.step fun _ _ => trivial
  exact Run.inv_run (fun s e hs _ => hs.step s e) onePlace_initializeReassembly hes

/-! ### How many there are -/

theorem length_of_counts {l : List Nat} {n : Nat} (h : ∀ i, l.count i = if i < n then 1 else 0)
    : l.length = n := by
  have hperm : l.Perm (List.range n) := by
    rw [List.perm_iff_count]
    intro i
    rw [h, List.count_range]
  rw [hperm.length_eq, List.length_range]

theorem OnePlace.total {s : Reassembly} (hs : OnePlace s)
    : s.allocCounter =
        s.datagrQueue.length + s.freeDatagramWorkBufList.length + s.delivered.length := by
  have hlength := length_of_counts
    (l := (s.datagrQueue ++ s.freeDatagramWorkBufList ++ s.delivered).map DataList.id)
    (n := s.allocCounter) (fun i => by
      rw [← hs.places i, placesOf, ← countId_append, ← countId_append]
      rfl)
  rw [List.length_map, List.length_append, List.length_append] at hlength
  exact hlength.symm

/--
Each work buffer that was ever allocated is in exactly one place: in the datagram queue, in the free list, or
with clients that have references to it. The allocation counter is their number.
-/
structure EachInOnePlace (s : Reassembly) : Prop where
  place : ∀ i < s.allocCounter,
    countId i s.datagrQueue + countId i s.freeDatagramWorkBufList + countId i s.delivered = 1
  allocated : ∀ d ∈ s.datagrQueue ++ s.freeDatagramWorkBufList ++ s.delivered, d.id < s.allocCounter
  held : ∀ d ∈ s.delivered, 0 < d.references
  total : s.allocCounter =
    s.datagrQueue.length + s.freeDatagramWorkBufList.length + s.delivered.length
  limit : s.allocCounter ≤ maxWorkBufferCount + 1

theorem OnePlace.eachInOnePlace {s : Reassembly} (hs : OnePlace s) : EachInOnePlace s where
  place := by
    intro i hi
    have hplaces := hs.places i
    rw [if_pos hi] at hplaces
    exact hplaces
  allocated := by
    intro d hd
    have hpos := countId_pos hd
    rw [countId_append, countId_append] at hpos
    have hplaces := hs.places d.id
    by_contra hlt
    rw [if_neg hlt, placesOf] at hplaces
    omega
  held := hs.held
  total := hs.total
  limit := hs.limit

-- A list that comes back to the same work buffer.
theorem not_eachInOnePlace_circular
    : ¬EachInOnePlace { initializeReassembly with
        datagrQueue := [.zeroed 0, .zeroed 0], allocCounter := 2 } := by
  intro h
  exact absurd (h.place 0 (by decide)) (by decide)

/--
In a run, each work buffer is in exactly one place at every moment, whatever an overrun makes of the lists, if
and only if no fragment overwrites what is behind the work buffer.
-/
theorem run_onePlace_iff (es : List Event)
    : (∀ behind es', es' <+: es → EachInOnePlace (Run.run (stepIn behind) initializeReassembly es')) ↔
        Run.Along step (OnAnalyze fun env s r => ¬Overwrites env s r) initializeReassembly es := by
  have hiff := forall_behind_iff (P := fun _ => EachInOnePlace)
    (fun _ _ => ⟨_, not_eachInOnePlace_circular⟩) es
  have hdefined : ∀ es', es' <+: es → EachInOnePlace (Run.run step initializeReassembly es') :=
    fun es' _ => (OnePlace.run es').eachInOnePlace
  rw [hiff, and_iff_right hdefined]

/--
Two datagrams are in the queue, the work buffer of the second right before that of the first. A fragment of the
second one, which claims to be of no length, is copied over the links of the first.
-/
def overrunRun : List Event := [
  .reassemblePacket (greRequest 0 42 28 0x2000),
  .reassemblePacket (otherRequest 1 42 28 0x2000),
  .reassemblePacket (otherRequest 2 34 0 0x2FA0),
  .intermed ⟨true, 0⟩,
  .intermed ⟨true, 0⟩,
  .intermed ⟨true, 0⟩
]

-- Behind the first datagram there is none any more.
def linkLost (s : Reassembly) (e : Event) : Reassembly :=
  { step s e with datagrQueue := (step s e).datagrQueue.take 1 }

theorem fragmentEvent_overrunRun : ∀ e ∈ overrunRun, FragmentEvent e := by
  intro e he
  simp only [overrunRun, List.mem_cons, List.not_mem_nil, or_false] at he
  rcases he with rfl | rfl | rfl | rfl | rfl | rfl
  . exact ⟨fun _ => true, 0, 0, _, rfl, by decide, by decide⟩
  . exact ⟨fun _ => true, 1, 0, _, rfl, by decide, by decide⟩
  . exact ⟨fun _ => true, 2, 0, _, rfl, by decide, by decide⟩
  . trivial
  . trivial
  . trivial

theorem not_onePlace_overrunRun
    : ¬∀ behind es, (∀ e ∈ es, FragmentEvent e) →
        ∀ es', es' <+: es → EachInOnePlace (Run.run (stepIn behind) initializeReassembly es') := by
  intro h
  have hrun := h linkLost overrunRun fragmentEvent_overrunRun overrunRun (List.prefix_refl _)
  have hplace := hrun.place 1 (by decide)
  revert hplace
  decide

end Ansfw
