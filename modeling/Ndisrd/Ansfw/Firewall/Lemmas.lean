import Ndisrd.Ansfw.Firewall.Life

/-!
This module contains the frame of a step of the pending requests: a thread that does something for one
IRP leaves what the state says of the other IRPs as it is.
-/

namespace Ansfw.Firewall

/--
The state `s'` differs from `s` at most in what concerns the thread `t`, the IRP `i`, and its record `r`.
-/
structure Touch (t i : Nat) (r : Option Nat) (s s' : State) : Prop where
  pc : ∀ t', t' ≠ t → s'.pc t' = s.pc t'
  routine : ∀ j, j ≠ i → (s'.irp j).cancelRoutine = (s.irp j).cancelRoutine
  given : ∀ j, j ≠ i → s'.given j = s.given j
  stillGiven : ∀ statusFail, s.given i = some statusFail → s'.given i = some statusFail
  finished : ∀ j, j ≠ i → s'.finished j = s.finished j
  allocated : ∀ j, j ≠ i → s'.allocated j = s.allocated j
  recycled : ∀ j, j ≠ i → s'.recycled j = s.recycled j
  record : ∀ r', r ≠ some r' → s'.record r' = s.record r'
  references : ∀ r', r ≠ some r' → s'.references r' = s.references r'
  pending : ∀ r', r ≠ some r' → (r' ∈ s'.gPendingRequestList ↔ r' ∈ s.gPendingRequestList)
  clones : ∀ r', r ≠ some r' → (r' ∈ s'.clones ↔ r' ∈ s.clones)
  free : ∀ r', r ≠ some r' → r' ∈ s'.gFreeRequestList → r' ∈ s.gFreeRequestList
  nextRecord : s.nextRecord ≤ s'.nextRecord

section Frame

variable {s s' : State} {t i j : Nat} {r : Option Nat} {p : Phase}

theorem IrpOk.frame (h : IrpOk s j p) (hT : Touch t i r s s') (hj : j ≠ i)
    (hr : ∀ r', p.record = some r' → r ≠ some r')
    (hrecord : ∀ t' r', (s.pc t').record = some r' → s.madeFor r' = j → p.record = some r')
    (howner : p.owner = some t → (s'.pc t).irp s'.madeFor = some j)
    (hholds : ∀ r' hs c, p = .request r' hs c → t ∈ hs → (s'.pc t).holds r')
    : IrpOk s' j p := by
  have hgiven := hT.given j hj
  refine ⟨?_, ?_, ?_, ?_, ?_, ?_, ?_, ?_⟩
  . rw [hgiven]
    exact h.given
  . rw [hT.routine j hj]
    exact h.routine
  . rw [hT.finished j hj, hgiven]
    exact h.finished
  . rw [hT.recycled j hj, hT.allocated j hj]
    exact h.returned
  . rw [hT.allocated j hj]
    exact h.early
  . intro r' hr'
    have hne := hr r' hr'
    have hrec := h.record r' hr'
    have hsame := hT.record r' hne
    refine ⟨?_, ?_, ⟨?_, ?_⟩, ?_, ?_, ?_, ?_⟩
    . rw [hT.recycled j hj, hT.allocated j hj]
      exact hrec.logs
    . rw [State.madeFor, hsame]
      exact hrec.madeFor
    . intro hfree
      exact hrec.used.1 (hT.free r' hne hfree)
    . exact Nat.lt_of_lt_of_le hrec.used.2 hT.nextRecord
    . rw [hgiven, hsame]
      exact hrec.statusFail
    . rw [hsame]
      exact hrec.pointer
    . rw [hT.pending r' hne]
      exact hrec.listed
    . rw [hT.clones r' hne]
      exact hrec.parked
  . intro t' ht'
    by_cases hcase : t' = t
    . rw [hcase] at ht' ⊢
      exact howner ht'
    . have hold := h.owner t' ht'
      rw [hT.pc t' hcase]
      rw [← hold]
      apply Pc.irp_congr
      intro r' hr'
      have hmade : (s.pc t').irp s.madeFor = _ := Pc.irp_eq_of_record hr'
      rw [hold] at hmade
      injection hmade with hmade
      exact congrArg TdiConnRequest.madeFor (hT.record r' (hr r' (hrecord t' r' hr' hmade.symm)))
  . intro r' hs c hp
    have hreq := h.request r' hs c hp
    have hne : r ≠ some r' := by
      apply hr
      rw [hp]
      rfl
    refine ⟨hreq.nodup, hreq.pos, ?_, ?_, hreq.owner⟩
    . rw [hT.references r' hne]
      exact hreq.references
    . intro t' ht'
      by_cases hcase : t' = t
      . rw [hcase] at ht' ⊢
        exact hholds r' hs c hp ht'
      . rw [hT.pc t' hcase]
        exact hreq.holds t' ht'

variable {phase : Nat → Phase}

theorem Inv.record_of_pc (h : Inv s phase) {r' : Nat} (hr : (s.pc t).record = some r')
    : (phase (s.madeFor r')).record = some r' :=
  (h.threads t _ (Pc.irp_eq_of_record hr)).record hr

theorem Inv.holder_pc (h : Inv s phase) {r' : Nat} {hs : List Nat} {c : Carrier}
    (hp : phase j = .request r' hs c) (ht : t ∈ hs)
    : (s.pc t).irp s.madeFor = some j := by
  have hok := h.irps j
  have hholds := (hok.request r' hs c hp).holds t ht
  have hmade : s.madeFor r' = j := (hok.record r' (by rw [hp]; rfl)).madeFor
  rw [Pc.irp_eq_of_record (Pc.record_of_holds hholds), hmade]

end Frame

/--
What a step of the thread `t` has to show for itself: the phase of its IRP `i` gets `p'`, and the lists
still hold only records in use.
-/
structure Move (phase : Nat → Phase) (t i : Nat) (r : Option Nat) (p' : Phase) (s s' : State) : Prop where
  touch : Touch t i r s s'
  own : ∀ j, (s.pc t).irp s.madeFor = some j → j = i
  record : ∀ r' j, (phase j).record = some r' → (r = some r' ↔ j = i)
  irp : IrpOk s' i p'
  others : ∀ t', t' ≠ t → ∀ pc : Pc, pc.At t' (phase i) → pc.At t' p'
  at_ : ∀ j, (s'.pc t).irp s'.madeFor = some j → j = i ∧ (s'.pc t).At t p'
  asks : ∀ j statusFail, s'.pc t = .tdiAllocateRequest j statusFail → s'.given j = some statusFail
  lock : (s'.pc t).locking = true ↔ s'.gPendingRequestListLock = some t
  othersLock : ∀ t', t' ≠ t →
    (s'.gPendingRequestListLock = some t' ↔ s.gPendingRequestListLock = some t')
  walk : ∀ reqOn, s'.pc t = .tdiGetRequest reqOn → reqOn <:+ s'.gPendingRequestList
  othersWalk : s'.gPendingRequestList = s.gPendingRequestList ∨
    ∀ t', t' ≠ t → s.gPendingRequestListLock ≠ some t'
  pending : s'.gPendingRequestList.Nodup
  cloned : s'.clones.Nodup
  inUse : ∀ r', r = some r' → r' ∈ s'.gPendingRequestList ∨ r' ∈ s'.clones →
    s'.madeFor r' = i ∧ p'.record = some r'
  free : s'.gFreeRequestList.Nodup ∧
    ∀ r', r = some r' → r' ∈ s'.gFreeRequestList → r' < s'.nextRecord
  wake : Wake s' (Function.update phase i p')

theorem Inv.move {phase : Nat → Phase} {t i : Nat} {r : Option Nat} {p' : Phase} {s s' : State}
    (h : Inv s phase) (hm : Move phase t i r p' s s')
    : Inv s' (Function.update phase i p') := by
  have hT := hm.touch
  have hused : ∀ {r'}, (phase (s.madeFor r')).record = some r' → r ≠ some r' →
      s'.madeFor r' = s.madeFor r' ∧
        (Function.update phase i p' (s'.madeFor r')).record = some r' := by
    intro r' hr' hne
    have hmade : s'.madeFor r' = s.madeFor r' :=
      congrArg TdiConnRequest.madeFor (hT.record r' hne)
    have hother : s.madeFor r' ≠ i := fun heq => hne ((hm.record r' _ hr').mpr heq)
    rw [hmade, Function.update_of_ne hother]
    exact ⟨rfl, hr'⟩
  refine ⟨?_, ?_, ?_, ?_, ?_, ⟨hm.pending, ?_⟩, ⟨hm.cloned, ?_⟩, ⟨hm.free.1, ?_⟩, hm.wake⟩
  . intro j
    by_cases hj : j = i
    . rw [hj, Function.update_self]
      exact hm.irp
    . rw [Function.update_of_ne hj]
      apply (h.irps j).frame hT hj
      . intro r' hr' heq
        exact hj ((hm.record r' j hr').mp heq)
      . intro t' r' hr' hmade
        rw [← hmade]
        exact h.record_of_pc hr'
      . intro howner
        exact absurd (hm.own j ((h.irps j).owner t howner)) hj
      . intro r' hs c hp ht
        exact absurd (hm.own j (h.holder_pc hp ht)) hj
  . intro t' j ht'
    by_cases hcase : t' = t
    . rw [hcase] at ht' ⊢
      obtain ⟨hj, hat⟩ := hm.at_ j ht'
      rw [hj, Function.update_self]
      exact hat
    . rw [hT.pc t' hcase] at ht' ⊢
      have hsame : (s.pc t').irp s'.madeFor = (s.pc t').irp s.madeFor := by
        apply Pc.irp_congr
        intro r' hr'
        have hrec := h.record_of_pc hr'
        by_cases hne : r = some r'
        . have hmade := (hm.record r' _ hrec).mp hne
          have hat := hm.others t' hcase _ (by rw [← hmade]; exact h.threads t' _ (Pc.irp_eq_of_record hr'))
          have hrec' := (hm.irp.record r' (hat.record hr')).madeFor
          rw [hrec', hmade]
        . exact congrArg TdiConnRequest.madeFor (hT.record r' hne)
      rw [hsame] at ht'
      have hat := h.threads t' j ht'
      by_cases hj : j = i
      . rw [hj, Function.update_self]
        rw [hj] at hat
        exact hm.others t' hcase _ hat
      . rw [Function.update_of_ne hj]
        exact hat
  . intro t' j statusFail ht'
    by_cases hcase : t' = t
    . rw [hcase] at ht'
      exact hm.asks j statusFail ht'
    . rw [hT.pc t' hcase] at ht'
      have hgiven := h.asks t' j statusFail ht'
      by_cases hj : j = i
      . rw [hj] at hgiven ⊢
        exact hT.stillGiven statusFail hgiven
      . rw [hT.given j hj]
        exact hgiven
  . intro t'
    by_cases hcase : t' = t
    . rw [hcase]
      exact hm.lock
    . rw [hT.pc t' hcase, hm.othersLock t' hcase]
      exact h.lock t'
  . intro t' reqOn ht'
    by_cases hcase : t' = t
    . rw [hcase] at ht'
      exact hm.walk reqOn ht'
    . rw [hT.pc t' hcase] at ht'
      have hsuffix := h.walk t' reqOn ht'
      rcases hm.othersWalk with heq | hlock
      . rw [heq]
        exact hsuffix
      . exact absurd ((h.lock t').mp (by rw [ht']; rfl)) (hlock t' hcase)
  . intro r' hr'
    by_cases hne : r = some r'
    . obtain ⟨hmade, hrec⟩ := hm.inUse r' hne (Or.inl hr')
      rw [hmade, Function.update_self]
      exact hrec
    . exact (hused (h.pending.2 r' ((hT.pending r' hne).mp hr')) hne).2
  . intro r' hr'
    by_cases hne : r = some r'
    . obtain ⟨hmade, hrec⟩ := hm.inUse r' hne (Or.inr hr')
      rw [hmade, Function.update_self]
      exact hrec
    . exact (hused (h.cloned.2 r' ((hT.clones r' hne).mp hr')) hne).2
  . intro r' hr'
    by_cases hne : r = some r'
    . exact hm.free.2 r' hne hr'
    . exact Nat.lt_of_lt_of_le (h.free.2 r' (hT.free r' hne hr')) hT.nextRecord

/--
The state `s'` differs from `s` at most in where the thread `t` is, in the lock, in the event, and in
cancel flags.
-/
structure Same (t : Nat) (s s' : State) : Prop where
  pc : ∀ t', t' ≠ t → s'.pc t' = s.pc t'
  routine : ∀ j, (s'.irp j).cancelRoutine = (s.irp j).cancelRoutine
  record : s'.record = s.record
  references : s'.references = s.references
  pending : s'.gPendingRequestList = s.gPendingRequestList
  clones : s'.clones = s.clones
  free : s'.gFreeRequestList = s.gFreeRequestList
  nextRecord : s'.nextRecord = s.nextRecord
  given : s'.given = s.given
  finished : s'.finished = s.finished
  allocated : s'.allocated = s.allocated
  recycled : s'.recycled = s.recycled

theorem Same.touch {t : Nat} {s s' : State} (h : Same t s s') (i : Nat) : Touch t i none s s' := by
  refine ⟨h.pc, ?_, ?_, ?_, ?_, ?_, ?_, ?_, ?_, ?_, ?_, ?_, ?_⟩
  . intro j _
    exact h.routine j
  . intro j _
    rw [h.given]
  . intro statusFail
    rw [h.given]
    exact id
  . intro j _
    rw [h.finished]
  . intro j _
    rw [h.allocated]
  . intro j _
    rw [h.recycled]
  . intro r' _
    rw [h.record]
  . intro r' _
    rw [h.references]
  . intro r' _
    rw [h.pending]
  . intro r' _
    rw [h.clones]
  . intro r' _
    rw [h.free]
    exact id
  . exact Nat.le_of_eq h.nextRecord.symm

/--
What a step has to show that leaves the phases of all IRPs as they are.
-/
structure Stay (phase : Nat → Phase) (t : Nat) (s s' : State) : Prop where
  same : Same t s s'
  owner : ∀ j, (phase j).owner = some t → (s'.pc t).irp s'.madeFor = some j
  holds : ∀ j r hs c, phase j = .request r hs c → t ∈ hs → (s'.pc t).holds r
  at_ : ∀ j, (s'.pc t).irp s'.madeFor = some j → (s'.pc t).At t (phase j)
  asks : ∀ j statusFail, s'.pc t = .tdiAllocateRequest j statusFail → s'.given j = some statusFail
  lock : (s'.pc t).locking = true ↔ s'.gPendingRequestListLock = some t
  othersLock : ∀ t', t' ≠ t →
    (s'.gPendingRequestListLock = some t' ↔ s.gPendingRequestListLock = some t')
  walk : ∀ reqOn, s'.pc t = .tdiGetRequest reqOn → reqOn <:+ s'.gPendingRequestList
  wake : Wake s' phase

theorem Inv.stay {phase : Nat → Phase} {t : Nat} {s s' : State} (h : Inv s phase)
    (hm : Stay phase t s s')
    : Inv s' phase := by
  have hS := hm.same
  have hmade : s'.madeFor = s.madeFor := by
    funext r
    rw [State.madeFor, hS.record]
  refine ⟨?_, ?_, ?_, ?_, ?_, ?_, ?_, ?_, hm.wake⟩
  . intro j
    apply (h.irps j).frame (hS.touch (j + 1)) (Nat.succ_ne_self j).symm
    . intro r' _ heq
      cases heq
    . intro t' r' hr' hj
      rw [← hj]
      exact h.record_of_pc hr'
    . exact hm.owner j
    . exact hm.holds j
  . intro t' j ht'
    by_cases hcase : t' = t
    . rw [hcase] at ht' ⊢
      exact hm.at_ j ht'
    . rw [hS.pc t' hcase, hmade] at ht'
      rw [hS.pc t' hcase]
      exact h.threads t' j ht'
  . intro t' j statusFail ht'
    by_cases hcase : t' = t
    . rw [hcase] at ht'
      exact hm.asks j statusFail ht'
    . rw [hS.pc t' hcase] at ht'
      rw [hS.given]
      exact h.asks t' j statusFail ht'
  . intro t'
    by_cases hcase : t' = t
    . rw [hcase]
      exact hm.lock
    . rw [hS.pc t' hcase, hm.othersLock t' hcase]
      exact h.lock t'
  . intro t' reqOn ht'
    by_cases hcase : t' = t
    . rw [hcase] at ht'
      exact hm.walk reqOn ht'
    . rw [hS.pc t' hcase] at ht'
      rw [hS.pending]
      exact h.walk t' reqOn ht'
  . rw [hS.pending, hmade]
    exact h.pending
  . rw [hS.clones, hmade]
    exact h.cloned
  . rw [hS.free, hS.nextRecord]
    exact h.free

/-! ### The wake-up -/

-- What a step has to show of its thread for the event to be set in time.
theorem Wake.step {phase : Nat → Phase} {s s' : State} {t i : Nat} {p' : Phase} (h : Wake s phase)
    (hpc : ∀ t', t' ≠ t → s'.pc t' = s.pc t')
    (hevent : s.gFwThreadEvent = true →
      s'.gFwThreadEvent = true ∨ t = fwThread ∧ ∀ r, (s'.pc t).Ahead r)
    (hsignals : (s.pc t).signals = true → (s'.pc t).signals = true ∨ s'.gFwThreadEvent = true)
    (hahead : t = fwThread → ∀ j r, phase j = .armed r → (s.pc t).Ahead r → (s'.pc t).Ahead r)
    (hnew : ∀ r, p' = .armed r → phase i = .armed r ∨ (s'.pc t).signals = true)
    : Wake s' (Function.update phase i p') := by
  have hold : ∀ j r, phase j = .armed r →
      s'.gFwThreadEvent = true ∨ (s'.pc fwThread).Ahead r ∨ ∃ t, (s'.pc t).signals = true := by
    intro j r hj
    rcases h j r hj with hset | hfw | ⟨t', ht'⟩
    . rcases hevent hset with hset | ⟨heq, hall⟩
      . exact Or.inl hset
      . rw [heq] at hall
        exact Or.inr (Or.inl (hall r))
    . by_cases hcase : fwThread = t
      . rw [hcase] at hfw ⊢
        exact Or.inr (Or.inl (hahead hcase.symm j r hj hfw))
      . rw [hpc fwThread hcase]
        exact Or.inr (Or.inl hfw)
    . by_cases hcase : t' = t
      . rw [hcase] at ht'
        rcases hsignals ht' with hsig | hset
        . exact Or.inr (Or.inr ⟨t, hsig⟩)
        . exact Or.inl hset
      . refine Or.inr (Or.inr ⟨t', ?_⟩)
        rw [hpc t' hcase]
        exact ht'
  intro j r hj
  by_cases hcase : j = i
  . rw [hcase, Function.update_self] at hj
    rcases hnew r hj with hi | hsig
    . exact hold i r hi
    . exact Or.inr (Or.inr ⟨t, hsig⟩)
  . rw [Function.update_of_ne hcase] at hj
    exact hold j r hj

theorem Wake.stay {phase : Nat → Phase} {s s' : State} {t : Nat} (h : Wake s phase)
    (hpc : ∀ t', t' ≠ t → s'.pc t' = s.pc t')
    (hevent : s.gFwThreadEvent = true →
      s'.gFwThreadEvent = true ∨ t = fwThread ∧ ∀ r, (s'.pc t).Ahead r)
    (hsignals : (s.pc t).signals = true → (s'.pc t).signals = true ∨ s'.gFwThreadEvent = true)
    (hahead : t = fwThread → ∀ j r, phase j = .armed r → (s.pc t).Ahead r → (s'.pc t).Ahead r)
    : Wake s' phase := by
  have hstep : Wake s' (Function.update phase 0 (phase 0)) :=
    h.step hpc hevent hsignals hahead (fun r hr => Or.inl hr)
  rwa [Function.update_eq_self] at hstep

/-! ### What the operations touch -/

namespace Touch

variable {t i : Nat} {r : Option Nat} {s s' : State}

theorem refl (t i : Nat) (r : Option Nat) (s : State) : Touch t i r s s :=
  ⟨fun _ _ => rfl, fun _ _ => rfl, fun _ _ => rfl, fun _ => id, fun _ _ => rfl, fun _ _ => rfl,
    fun _ _ => rfl, fun _ _ => rfl, fun _ _ => rfl, fun _ _ => Iff.rfl, fun _ _ => Iff.rfl,
    fun _ _ => id, Nat.le_refl _⟩

variable (h : Touch t i r s s')
include h

theorem goto (pc : Pc) : Touch t i r s (s'.goto t pc) := by
  refine { h with pc := ?_ }
  intro t' ht'
  simp only [State.goto, Function.update_of_ne ht']
  exact h.pc t' ht'

theorem ioSetCancelRoutine (cancelRoutine : Bool)
    : Touch t i r s (s'.ioSetCancelRoutine i cancelRoutine) := by
  refine { h with routine := ?_ }
  intro j hj
  simp only [State.ioSetCancelRoutine, Function.update_of_ne hj]
  exact h.routine j hj

theorem finish (f : Finish) : Touch t i r s (s'.finish i f) := by
  refine { h with finished := ?_ }
  intro j hj
  simp only [State.finish, Function.update_of_ne hj]
  exact h.finished j hj

theorem lock (gPendingRequestListLock : Option Nat)
    : Touch t i r s { s' with gPendingRequestListLock } := { h with }

theorem event (gFwThreadEvent : Bool) : Touch t i r s { s' with gFwThreadEvent } := { h with }

end Touch

namespace Touch

variable {t i r : Nat} {s s' : State} (h : Touch t i (some r) s s')
include h

theorem pendingAppend
    : Touch t i (some r) s
        { s' with gPendingRequestList := s'.gPendingRequestList ++ [r] } := by
  refine { h with pending := ?_ }
  intro r' hne
  rw [List.mem_append, List.mem_singleton, ← h.pending r' hne]
  exact or_iff_left fun heq => hne (congrArg some heq.symm)

theorem pendingErase
    : Touch t i (some r) s
        { s' with gPendingRequestList := s'.gPendingRequestList.erase r } := by
  refine { h with pending := ?_ }
  intro r' hne
  rw [List.mem_erase_of_ne (fun heq => hne (congrArg some heq.symm)), ← h.pending r' hne]

theorem clonesCons : Touch t i (some r) s { s' with clones := r :: s'.clones } := by
  refine { h with clones := ?_ }
  intro r' hne
  rw [List.mem_cons, ← h.clones r' hne]
  exact or_iff_right fun heq => hne (congrArg some heq.symm)

theorem clonesErase : Touch t i (some r) s { s' with clones := s'.clones.erase r } := by
  refine { h with clones := ?_ }
  intro r' hne
  rw [List.mem_erase_of_ne (fun heq => hne (congrArg some heq.symm)), ← h.clones r' hne]

theorem setPIrp (pIrp : Option Nat) : Touch t i (some r) s (s'.setPIrp r pIrp) := by
  refine { h with record := ?_ }
  intro r' hne
  simp only [State.setPIrp, Function.update_of_ne (fun heq => hne (congrArg some heq.symm))]
  exact h.record r' hne

theorem setReferences (references : Int) : Touch t i (some r) s (s'.setReferences r references) := by
  refine { h with references := ?_ }
  intro r' hne
  simp only [State.setReferences, Function.update_of_ne (fun heq => hne (congrArg some heq.symm))]
  exact h.references r' hne

theorem recycle (hmade : s'.madeFor r = i) : Touch t i (some r) s (s'.recycle r) := by
  refine { h with recycled := ?_, free := ?_ }
  . intro j hj
    rw [State.madeFor] at hmade
    simp only [State.recycle, hmade, Function.update_of_ne hj]
    exact h.recycled j hj
  . intro r' hne hr'
    rcases List.mem_append.mp hr' with hr' | hr'
    . exact h.free r' hne hr'
    . exact absurd (congrArg some (List.mem_singleton.mp hr').symm) hne

theorem fill (statusFail : NtStatus) : Touch t i (some r) s (s'.fill r i statusFail) := by
  refine { h with allocated := ?_, record := ?_ }
  . intro j hj
    simp only [State.fill, Function.update_of_ne hj]
    exact h.allocated j hj
  . intro r' hne
    simp only [State.fill, Function.update_of_ne (fun heq => hne (congrArg some heq.symm))]
    exact h.record r' hne

end Touch

end Ansfw.Firewall
