import Ndisrd.Ansfltr.Completions.Impl

/-!
This module contains who gets a `NET_BUFFER_LIST` back: what the loops of the two handlers call for a chain,
and that over a whole run every list is given back once and every packet is released once.
-/

namespace Ansfltr.Completions

open SinglyLinked (Path)

def giveBack : Direction → List Nat → Call
  | .out => .sendNetBufferListsComplete
  | .inbound => .returnNetBufferLists

variable (pFilter : FilterModule)

/-- What is called for a list that comes back. -/
def returned (header : Nat → Header) (giveBack : List Nat → Call) (nbl : Nat) : List Call :=
  if (header nbl).sourceHandle = pFilter.filterHandle then
    if (header nbl).pool = pFilter.netBufferListPool then
      [.fltFreeCloneRequest (header nbl).packet]
    else
      []
  else
    [giveBack [nbl]]

/--
Whatever becomes of the links of the lists that are given away, the loop comes to each list of the chain once.
-/
theorem ends_completeTurn (header : Nat → Header) (giveBack : List Nat → Call)
    (after : Nat → Option Nat) {next : Nat → Option Nat} {p : Option Nat} {chain : List Nat}
    (hlinked : Path next p chain none) (calls : List Call)
    : Loop.Ends (completeTurn pFilter header giveBack after) (p, next, calls)
        (calls ++ chain.flatMap (returned pFilter header giveBack)) := by
  induction chain generalizing p next calls with
  | nil =>
    obtain rfl := hlinked
    apply Loop.Ends.done
    simp [completeTurn]
  | cons nbl chain ih =>
    have hnot := (List.nodup_cons.mp (SinglyLinked.path_nodup hlinked)).1
    obtain ⟨rfl, hrest⟩ := hlinked
    have hupdate : ∀ q, Path (Function.update next nbl q) (next nbl) chain none :=
      fun q => (SinglyLinked.path_update (l := ⟨none, next⟩) hnot).mpr hrest
    rw [List.flatMap_cons, ← List.append_assoc]
    by_cases hown : (header nbl).sourceHandle = pFilter.filterHandle
    . by_cases hpool : (header nbl).pool = pFilter.netBufferListPool
      . have hends := ih (hupdate (after nbl)) (calls ++ returned pFilter header giveBack nbl)
        refine Loop.Ends.goOn ?_ hends
        simp [completeTurn, returned, hown, hpool]
      . have hends := ih hrest (calls ++ returned pFilter header giveBack nbl)
        refine Loop.Ends.goOn ?_ hends
        simp [completeTurn, returned, hown, hpool]
    . have hends := ih (hupdate (after nbl)) (calls ++ returned pFilter header giveBack nbl)
      refine Loop.Ends.goOn ?_ hends
      simp [completeTurn, returned, hown]

/-! ### Runs -/

def step (s : State) : Event → State × List Call
  | .filterState running => ({ s with running := running }, [])
  | .instances instancesListEmpty => ({ s with instancesListEmpty := instancesListEmpty }, [])
  | .allocate nbl header => ({ s with header := Function.update s.header nbl header }, [])
  | .filterSendNetBufferLists b => filterSendNetBufferLists s b
  | .filterReceiveNetBufferLists b resources => filterReceiveNetBufferLists s b resources
  | .sendPacket direction _ nbl => sendPacket s direction nbl
  | .filterSendNetBufferListsComplete b _ =>
    (comeBack s .out b.chain, b.chain.flatMap (returned pFilter s.header (giveBack .out)))
  | .filterReturnNetBufferLists b _ =>
    (comeBack s .inbound b.chain, b.chain.flatMap (returned pFilter s.header (giveBack .inbound)))

theorem follows_step
    : Simulation.Follows (step pFilter) (Performs pFilter) Eq (Allowed pFilter) := by
  rintro s _ e rfl -
  refine ⟨(step pFilter s e).1, ?_, rfl⟩
  intro o
  have hloop : ∀ direction (b : Batch) after (o : State × List Call),
      (∃ calls, Loop.Ends (completeTurn pFilter s.header (giveBack direction) after)
            (b.netBufferLists, b.next, []) calls ∧
          o = (comeBack s direction b.chain, calls)) ↔
        o = (comeBack s direction b.chain,
          b.chain.flatMap (returned pFilter s.header (giveBack direction))) := by
    intro direction b after o
    have hends := ends_completeTurn pFilter s.header (giveBack direction) after b.linked []
    constructor
    . rintro ⟨calls, hcalls, rfl⟩
      rw [hcalls.unique hends]
      rfl
    . rintro rfl
      exact ⟨_, hends, rfl⟩
  cases e with
  | filterSendNetBufferListsComplete b after => apply hloop .out b after
  | filterReturnNetBufferLists b after => apply hloop .inbound b after
  | _ => apply Iff.rfl

/-- The lists that NDIS has to get back for an event. -/
def Event.taken : Event → List (Direction × Nat)
  | .filterSendNetBufferLists b => b.chain.map (Prod.mk .out)
  | .filterReceiveNetBufferLists b resources =>
    if resources then [] else b.chain.map (Prod.mk .inbound)
  | _ => []

def Call.given : Call → List (Direction × Nat)
  | .sendNetBufferListsComplete netBufferLists => netBufferLists.map (Prod.mk .out)
  | .returnNetBufferLists netBufferLists => netBufferLists.map (Prod.mk .inbound)
  | _ => []

/-- The packet whose list goes to NDIS with a reference. -/
def Event.handedOff : Event → List Nat
  | .sendPacket _ pPacket _ => [pPacket]
  | _ => []

def Call.released : Call → List Nat
  | .fltFreeCloneRequest pPacket => [pPacket]
  | _ => []

/-- NDIS still has the list of another driver, or lists of the packet. -/
def foreign (s : State) (l : Direction × Nat) : Nat :=
  s.ndis.countP fun l' => l' = l ∧ (s.header l'.2).sourceHandle ≠ pFilter.filterHandle

def ofPacket (s : State) (pPacket : Nat) : Nat :=
  s.ndis.countP fun l => s.header l.2 = pFilter.own pPacket

structure Inv (s : State) : Prop where
  nodup : (s.ndis.map Prod.snd).Nodup
  header : ∀ l ∈ s.ndis,
    (s.header l.2).sourceHandle ≠ pFilter.filterHandle ∨ ∃ pPacket, s.header l.2 = pFilter.own pPacket

section Returned

variable (header : Nat → Header) (direction : Direction) (chain : List Nat)

theorem count_given (l : Direction × Nat)
    : ((chain.flatMap (returned pFilter header (giveBack direction))).flatMap Call.given).count l =
        (chain.map (Prod.mk direction)).countP
          fun l' => l' = l ∧ (header l'.2).sourceHandle ≠ pFilter.filterHandle := by
  induction chain with
  | nil => rfl
  | cons nbl chain ih =>
    rw [List.flatMap_cons, List.flatMap_append, List.count_append, ih, List.map_cons, List.countP_cons,
      Nat.add_comm]
    congr 1
    by_cases hown : (header nbl).sourceHandle = pFilter.filterHandle
    . by_cases hpool : (header nbl).pool = pFilter.netBufferListPool
      . simp [returned, hown, hpool, Call.given]
      . simp [returned, hown, hpool]
    . cases direction with
      | out => simp [returned, hown, giveBack, Call.given, List.count_singleton]
      | inbound => simp [returned, hown, giveBack, Call.given, List.count_singleton]

theorem count_released {chain : List Nat}
    (hheader : ∀ nbl ∈ chain, (header nbl).sourceHandle ≠ pFilter.filterHandle ∨
      ∃ pPacket, header nbl = pFilter.own pPacket) (pPacket : Nat)
    : ((chain.flatMap (returned pFilter header (giveBack direction))).flatMap Call.released).count
          pPacket =
        (chain.map (Prod.mk direction)).countP fun l => header l.2 = pFilter.own pPacket := by
  induction chain with
  | nil => rfl
  | cons nbl chain ih =>
    obtain ⟨hnbl, hchain⟩ := List.forall_mem_cons.mp hheader
    rw [List.flatMap_cons, List.flatMap_append, List.count_append, ih hchain, List.map_cons,
      List.countP_cons, Nat.add_comm]
    congr 1
    rcases hnbl with hforeign | ⟨own, hown⟩
    . have hne : header nbl ≠ pFilter.own pPacket := by
        intro heq
        rw [heq] at hforeign
        exact hforeign rfl
      cases direction with
      | out => simp [returned, hforeign, giveBack, Call.released, hne]
      | inbound => simp [returned, hforeign, giveBack, Call.released, hne]
    . have hsource : (header nbl).sourceHandle = pFilter.filterHandle := by rw [hown]; rfl
      have hpool : (header nbl).pool = pFilter.netBufferListPool := by rw [hown]; rfl
      have hpacket : (header nbl).packet = own := by rw [hown]; rfl
      have hsame : header nbl = pFilter.own pPacket ↔ own = pPacket := by
        rw [hown]
        simp [FilterModule.own]
      simp [returned, hsource, hpool, hpacket, Call.released, hsame, List.count_singleton]

end Returned

/-- What comes back and what stays are together what there was. -/
theorem countP_comeBack {s : State} (h : Inv pFilter s) {direction : Direction} {chain : List Nat}
    (hnodup : chain.Nodup) (hmem : ∀ nbl ∈ chain, (direction, nbl) ∈ s.ndis) (p : Direction × Nat → Bool)
    : s.ndis.countP p =
        (chain.map (Prod.mk direction)).countP p + (comeBack s direction chain).ndis.countP p := by
  have hchain : (chain.map (Prod.mk direction)).Nodup :=
    hnodup.map fun a b hab => (Prod.mk.inj hab).2
  have hperm : (s.ndis.filter fun l => l ∈ chain.map (Prod.mk direction)).Perm
      (chain.map (Prod.mk direction)) := by
    apply (List.perm_ext_iff_of_nodup (h.nodup.of_map.filter _) hchain).mpr
    intro l
    rw [List.mem_filter, decide_eq_true_iff, and_iff_right_iff_imp]
    intro hl
    obtain ⟨nbl, hnbl, rfl⟩ := List.mem_map.mp hl
    exact hmem nbl hnbl
  have hsplit := List.countP_eq_countP_filter_add s.ndis p fun l => l ∈ chain.map (Prod.mk direction)
  rw [hsplit, hperm.countP_eq, comeBack]
  congr 2
  apply List.filter_congr
  intro l _
  rw [decide_not]

/-! ### One event -/

namespace Inv

variable {pFilter}
variable {s : State} (h : Inv pFilter s)
include h

theorem handIn {direction : Direction} {chain : List Nat} (hnodup : chain.Nodup)
    (hforeign : ∀ nbl ∈ chain,
      (s.header nbl).sourceHandle ≠ pFilter.filterHandle ∧ nbl ∉ s.ndis.map Prod.snd)
    : Inv pFilter { s with ndis := chain.map (Prod.mk direction) ++ s.ndis } where
  nodup := by
    have hsnd : (chain.map (Prod.mk direction)).map Prod.snd = chain := by
      rw [List.map_map]
      apply List.map_id
    rw [List.map_append, hsnd, List.nodup_append']
    refine ⟨hnodup, h.nodup, ?_⟩
    intro nbl hnbl
    apply (hforeign nbl hnbl).2
  header := by
    intro l hl
    rcases List.mem_append.mp hl with hl | hl
    . obtain ⟨nbl, hnbl, rfl⟩ := List.mem_map.mp hl
      exact .inl (hforeign nbl hnbl).1
    . apply h.header l hl

theorem sendPacket {direction : Direction} {pPacket nbl : Nat} (hown : s.header nbl = pFilter.own pPacket)
    (hnbl : nbl ∉ s.ndis.map Prod.snd)
    : Inv pFilter { s with ndis := (direction, nbl) :: s.ndis } where
  nodup := List.nodup_cons.mpr ⟨hnbl, h.nodup⟩
  header := List.forall_mem_cons.mpr ⟨.inr ⟨pPacket, hown⟩, h.header⟩

theorem comeBack (direction : Direction) (chain : List Nat)
    : Inv pFilter (comeBack s direction chain) where
  nodup := h.nodup.sublist (List.filter_sublist.map Prod.snd)
  header := fun l hl => h.header l (List.mem_of_mem_filter hl)

omit h in
theorem header_allocate {nbl : Nat} (hnbl : nbl ∉ s.ndis.map Prod.snd) (header : Header)
    {l : Direction × Nat} (hl : l ∈ s.ndis)
    : Function.update s.header nbl header l.2 = s.header l.2 := by
  apply Function.update_of_ne
  rintro rfl
  exact hnbl (List.mem_map_of_mem hl)

theorem allocate {nbl : Nat} (hnbl : nbl ∉ s.ndis.map Prod.snd) (header : Header)
    : Inv pFilter { s with header := Function.update s.header nbl header } where
  nodup := h.nodup
  header := by
    intro l hl
    simp only [header_allocate hnbl header hl]
    apply h.header l hl

theorem step {e : Event} (he : Allowed pFilter s e) : Inv pFilter (step pFilter s e).1 := by
  cases e with
  | filterState running => exact ⟨h.nodup, h.header⟩
  | instances instancesListEmpty => exact ⟨h.nodup, h.header⟩
  | allocate nbl header => apply h.allocate he
  | filterSendNetBufferLists b =>
    simp only [Completions.step, filterSendNetBufferLists]
    split
    . apply h.handIn (SinglyLinked.path_nodup b.linked) he
    . exact h
  | filterReceiveNetBufferLists b resources =>
    simp only [Completions.step, filterReceiveNetBufferLists]
    split
    . cases resources with
      | true => exact h
      | false => apply h.handIn (SinglyLinked.path_nodup b.linked) he
    . split
      . exact h
      . exact h
  | sendPacket direction pPacket nbl =>
    cases direction with
    | out => apply h.sendPacket he.1 he.2
    | inbound => apply h.sendPacket he.1 he.2
  | filterSendNetBufferListsComplete b after => apply h.comeBack
  | filterReturnNetBufferLists b after => apply h.comeBack

omit h in
theorem countP_foreign {direction : Direction} {chain : List Nat}
    (hforeign : ∀ nbl ∈ chain,
      (s.header nbl).sourceHandle ≠ pFilter.filterHandle ∧ nbl ∉ s.ndis.map Prod.snd) (l : Direction × Nat)
    : ((chain.map (Prod.mk direction)).countP fun l' =>
        l' = l ∧ (s.header l'.2).sourceHandle ≠ pFilter.filterHandle) =
          (chain.map (Prod.mk direction)).count l := by
  apply List.countP_congr
  intro l' hl'
  obtain ⟨nbl, hnbl, rfl⟩ := List.mem_map.mp hl'
  simp [(hforeign nbl hnbl).1]

omit h in
theorem countP_own {direction : Direction} {chain : List Nat}
    (hforeign : ∀ nbl ∈ chain,
      (s.header nbl).sourceHandle ≠ pFilter.filterHandle ∧ nbl ∉ s.ndis.map Prod.snd) (pPacket : Nat)
    : ((chain.map (Prod.mk direction)).countP fun l => s.header l.2 = pFilter.own pPacket) = 0 := by
  apply List.countP_eq_zero.mpr
  intro l hl
  obtain ⟨nbl, hnbl, rfl⟩ := List.mem_map.mp hl
  rw [decide_eq_true_iff]
  intro hown
  apply (hforeign nbl hnbl).1
  rw [hown]
  rfl

theorem balance_given {e : Event} (he : Allowed pFilter s e) (l : Direction × Nat)
    : e.taken.count l + foreign pFilter s l =
        ((Completions.step pFilter s e).2.flatMap Call.given).count l +
          foreign pFilter (Completions.step pFilter s e).1 l := by
  cases e with
  | filterState running => rfl
  | instances instancesListEmpty => rfl
  | allocate nbl header =>
    simp only [Event.taken, Completions.step, foreign, List.flatMap_nil]
    congr 1
    apply List.countP_congr
    intro l' hl'
    simp only [header_allocate he header hl']
  | filterSendNetBufferLists b =>
    simp only [Completions.step, filterSendNetBufferLists]
    split
    . simp only [Event.taken, foreign, List.countP_append, countP_foreign he]
      simp [Call.given]
    . simp [Event.taken, Call.given]
  | filterReceiveNetBufferLists b resources =>
    simp only [Completions.step, filterReceiveNetBufferLists]
    split
    . cases resources with
      | true => simp [Event.taken, Call.given]
      | false =>
        simp only [Event.taken, foreign, Bool.false_eq_true, if_false, List.countP_append,
          countP_foreign he]
        simp [Call.given]
    . cases resources with
      | true => simp [Event.taken]
      | false => simp [Event.taken, Call.given]
  | sendPacket direction pPacket nbl =>
    have hown : (s.header nbl).sourceHandle = pFilter.filterHandle := by
      rw [he.1]
      rfl
    have hstays : foreign pFilter { s with ndis := (direction, nbl) :: s.ndis } l =
        foreign pFilter s l := by
      apply List.countP_cons_of_neg
      simp [hown]
    cases direction with
    | out => simp [Event.taken, Completions.step, Completions.sendPacket, Call.given, hstays]
    | inbound => simp [Event.taken, Completions.step, Completions.sendPacket, Call.given, hstays]
  | filterSendNetBufferListsComplete b after =>
    simp only [Event.taken, Completions.step, count_given, foreign, List.count_nil, Nat.zero_add]
    apply countP_comeBack pFilter h (SinglyLinked.path_nodup b.linked) he
  | filterReturnNetBufferLists b after =>
    simp only [Event.taken, Completions.step, count_given, foreign, List.count_nil, Nat.zero_add]
    apply countP_comeBack pFilter h (SinglyLinked.path_nodup b.linked) he

theorem balance_released {e : Event} (he : Allowed pFilter s e) (pPacket : Nat)
    : e.handedOff.count pPacket + ofPacket pFilter s pPacket =
        ((Completions.step pFilter s e).2.flatMap Call.released).count pPacket +
          ofPacket pFilter (Completions.step pFilter s e).1 pPacket := by
  cases e with
  | filterState running => rfl
  | instances instancesListEmpty => rfl
  | allocate nbl header =>
    simp only [Event.handedOff, Completions.step, ofPacket, List.flatMap_nil]
    congr 1
    apply List.countP_congr
    intro l hl
    simp only [header_allocate he header hl]
  | filterSendNetBufferLists b =>
    simp only [Completions.step, filterSendNetBufferLists]
    split
    . simp only [Event.handedOff, ofPacket, List.countP_append, countP_own he]
      simp [Call.released]
    . simp [Event.handedOff, Call.released]
  | filterReceiveNetBufferLists b resources =>
    simp only [Completions.step, filterReceiveNetBufferLists]
    split
    . cases resources with
      | true => simp [Event.handedOff, Call.released]
      | false =>
        simp only [Event.handedOff, ofPacket, Bool.false_eq_true, if_false, List.countP_append,
          countP_own he]
        simp [Call.released]
    . cases resources with
      | true => simp [Event.handedOff]
      | false => simp [Event.handedOff, Call.released]
  | sendPacket direction own nbl =>
    have hsame : s.header nbl = pFilter.own pPacket ↔ own = pPacket := by
      rw [he.1]
      simp [FilterModule.own]
    have hgoes : ofPacket pFilter { s with ndis := (direction, nbl) :: s.ndis } pPacket =
        ofPacket pFilter s pPacket + [own].count pPacket := by
      rw [ofPacket, List.countP_cons]
      congr 1
      simp only [decide_eq_true_iff, hsame, List.count_singleton, beq_iff_eq]
    cases direction with
    | out =>
      simp [Event.handedOff, Completions.step, Completions.sendPacket, Call.released, hgoes, Nat.add_comm]
    | inbound =>
      simp [Event.handedOff, Completions.step, Completions.sendPacket, Call.released, hgoes, Nat.add_comm]
  | filterSendNetBufferListsComplete b after =>
    have hheader := fun nbl hnbl => h.header (Direction.out, nbl) (he nbl hnbl)
    simp only [Event.handedOff, Completions.step, count_released pFilter s.header .out hheader, ofPacket,
      List.count_nil, Nat.zero_add]
    apply countP_comeBack pFilter h (SinglyLinked.path_nodup b.linked) he
  | filterReturnNetBufferLists b after =>
    have hheader := fun nbl hnbl => h.header (Direction.inbound, nbl) (he nbl hnbl)
    simp only [Event.handedOff, Completions.step, count_released pFilter s.header .inbound hheader,
      ofPacket, List.count_nil, Nat.zero_add]
    apply countP_comeBack pFilter h (SinglyLinked.path_nodup b.linked) he

end Inv

/--
However NDIS groups the lists that it gives back, and whatever becomes of them then: each call ends, every
list of another driver gets back as often as it was handed in, or NDIS has it, and a packet is released as
often as its list was handed on, or NDIS has that.
-/
theorem givenBack_run (header : Nat → Header) {es : List Event}
    (hes : Run.Along (Simulation.next (step pFilter)) (Allowed pFilter) (init header) es)
    : ∃ results s',
        (∀ results' s'', Simulation.Performed (Performs pFilter) (init header) es results' s'' ↔
          results' = results ∧ s'' = s') ∧
        (∀ l, (es.flatMap Event.taken).count l =
          (results.flatMap fun calls => calls.flatMap Call.given).count l + foreign pFilter s' l) ∧
        ∀ pPacket, (es.flatMap Event.handedOff).count pPacket =
          (results.flatMap fun calls => calls.flatMap Call.released).count pPacket +
            ofPacket pFilter s' pPacket := by
  obtain ⟨s', hperformed, rfl⟩ :=
    Simulation.performed_iff (step pFilter) (follows_step pFilter) (Eq.refl (init header)) hes
  have hinit : Inv pFilter (init header) := by
    constructor
    . apply List.nodup_nil
    . intro l hl
      cases hl
  have hstep : ∀ s e, Inv pFilter s → Allowed pFilter s e → Inv pFilter (step pFilter s e).1 :=
    fun _ _ h he => h.step he
  refine ⟨_, _, hperformed, ?_, ?_⟩
  . intro l
    have hbalance := Simulation.balance_run Event.taken (fun calls => calls.flatMap Call.given)
      (foreign pFilter) hstep (fun _ _ l h he => h.balance_given he l) hinit hes l
    have hnone : foreign pFilter (init header) l = 0 := rfl
    rw [hnone, Nat.add_zero] at hbalance
    exact hbalance
  . intro pPacket
    have hbalance := Simulation.balance_run Event.handedOff (fun calls => calls.flatMap Call.released)
      (ofPacket pFilter) hstep (fun _ _ l h he => h.balance_released he l) hinit hes pPacket
    have hnone : ofPacket pFilter (init header) pPacket = 0 := rfl
    rw [hnone, Nat.add_zero] at hbalance
    exact hbalance

/-! ### A run -/

def someModule : FilterModule := ⟨1, 2⟩

def someHeader (nbl : Nat) : Header := if nbl = 20 then someModule.own 5 else ⟨nbl, 9, 0⟩

def twoLists : Batch where
  netBufferLists := some 10
  next := fun nbl => if nbl = 10 then some 11 else none
  chain := [10, 11]
  linked := ⟨rfl, rfl, rfl⟩

def mixedLists : Batch where
  netBufferLists := some 11
  next := fun nbl => if nbl = 11 then some 20 else if nbl = 20 then some 10 else none
  chain := [11, 20, 10]
  linked := ⟨rfl, rfl, rfl, rfl⟩

-- Two lists are passed on, a packet of a client goes behind them, and all come back in one chain.
def passedOn : List Event := [
  .filterState true,
  .filterSendNetBufferLists twoLists,
  .instances false,
  .sendPacket .out 5 20,
  .filterSendNetBufferListsComplete mixedLists fun nbl => some (nbl + 1)]

theorem allowed_passedOn
    : Run.Along (Simulation.next (step someModule)) (Allowed someModule) (init someHeader) passedOn := by
  simp [passedOn, Simulation.next, step, Allowed, init, filterSendNetBufferLists, sendPacket, someModule,
    someHeader, twoLists, mixedLists, FilterModule.own]

theorem givenBack_passedOn
    : ∃ results s',
        (∀ results' s'',
          Simulation.Performed (Performs someModule) (init someHeader) passedOn results' s'' ↔
            results' = results ∧ s'' = s') ∧
        (∀ l, (passedOn.flatMap Event.taken).count l =
          (results.flatMap fun calls => calls.flatMap Call.given).count l + foreign someModule s' l) ∧
        ∀ pPacket, (passedOn.flatMap Event.handedOff).count pPacket =
          (results.flatMap fun calls => calls.flatMap Call.released).count pPacket +
            ofPacket someModule s' pPacket :=
  givenBack_run someModule someHeader allowed_passedOn

end Ansfltr.Completions
