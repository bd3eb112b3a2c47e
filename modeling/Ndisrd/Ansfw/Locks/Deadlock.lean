import Ndisrd.Ansfw.Locks.Impl
import Ndisrd.Ansfw.Reassembly.Lemmas

/-!
This module contains the lock order of the drivers: which locks each thread holds when it takes another
one, the two sections that take the locks in opposite orders, and that there is no deadlock as long as
these two are never open at once.
-/

namespace Ansfw

open Lock (Nests Disciplined State)

def Discipline : Thread → Set SpinLock → SpinLock → Prop
  | .reassembly, held, .intermedQueue => held = ∅
  | .reassembly, held, .datagrQueue => held = {.intermedQueue}
  | .reassembly, held, _ => held = {.datagrQueue, .intermedQueue}
  | .ttl, held, .datagrQueue => held = ∅
  | .ttl, held, .freeDatagramWorkBufList => held = {.datagrQueue}
  | .ttl, held, .packet => held = {.datagrQueue}
  | .ttl, _, _ => False
  | .arrival _, held, .packet => held = ∅ ∨ held = {.fltInstances}
  | .arrival _, held, .fltInstances => held = ∅
  | .arrival _, held, .fwInstances => held = {.fltInstances}
  | .arrival _, held, .intermedQueue => held = {.fltInstances}
  | .arrival _, _, _ => False

/-! ### The passes keep the discipline -/

section Nests

variable {P : Set SpinLock → SpinLock → Prop} {held : Set SpinLock}

theorem nests_locked_nil {l : SpinLock} (hfresh : l ∉ held) (hP : P held l)
    : Nests P held (locked l []) held :=
  Nests.critical hfresh hP Nests.nil

variable (d : Drivers) (rel : Releases)

theorem nests_fwFreeCloneRequest (hfresh : .packet ∉ held) (hP : P held .packet) (packet : Nat)
    : Nests P held (Locks.fwFreeCloneRequest d rel packet) held := by
  unfold Locks.fwFreeCloneRequest Locks.fltFreeCloneRequest
  split
  . split
    . exact nests_locked_nil hfresh hP
    . apply Nests.nil
  . apply Nests.nil

theorem nests_releaseFragments (hfresh : .packet ∉ held) (hP : P held .packet)
    (fragments : List FwRequest)
    : Nests P held (Locks.releaseFragments d rel fragments) held :=
  Nests.flatMap fun r _ => nests_fwFreeCloneRequest d rel hfresh hP r.id

theorem nests_fltInjectRequest {pInstance : Option FltInstance} {packet : Nat}
    (hfresh : .fltInstances ∉ held) (hP : P held .fltInstances)
    (hcalls : ∀ i ∈ Chain.after pInstance d.fltInstancesList,
      Nests P (insert .fltInstances held) (Locks.callInstance d rel packet i)
        (insert .fltInstances held))
    (hpacket : .packet ∉ held) (hPpacket : P held .packet)
    : Nests P held (Locks.fltInjectRequest d rel pInstance packet) held := by
  unfold Locks.fltInjectRequest
  apply Nests.seq
  . apply Nests.critical hfresh hP
    obtain ⟨xs, hpref, hlog⟩ := Chain.callWhile_log_prefix NtStatus.success
      (fun i => ((callInstance d packet i).1, Locks.callInstance d rel packet i))
      (Chain.after pInstance d.fltInstancesList)
    rw [hlog]
    exact Nests.flatMap fun i hi => hcalls i (hpref.subset hi)
  . unfold Locks.sendPacket
    split
    . split
      . exact nests_locked_nil hpacket hPpacket
      . apply Nests.nil
    . apply Nests.nil

end Nests

section Passes

variable (d : Drivers) (rel : Releases)

theorem nests_requestCallback (n packet : Nat)
    : Nests (Discipline (.arrival n)) {.fltInstances} (Locks.requestCallback d rel packet)
        {.fltInstances} := by
  unfold Locks.requestCallback
  apply Nests.seq
  . exact nests_locked_nil (by simp) rfl
  . split
    . apply Nests.nil
    . split
      . apply Nests.nil
      . split
        . apply nests_locked_nil
          . simp
          . rfl
        . apply Nests.seq
          . apply nests_locked_nil
            . simp
            . rfl
          . apply nests_fwFreeCloneRequest
            . simp
            . exact Or.inr rfl

theorem nests_packetArrival (n packet : Nat)
    : Nests (Discipline (.arrival n)) ∅ (packetArrival d rel packet) ∅ := by
  have hnil : Nests (Discipline (.arrival n)) ∅ (locked .packet []) ∅ :=
    nests_locked_nil (Set.notMem_empty _) (Or.inl rfl)
  refine Nests.seq (Nests.seq hnil ?_) ?_
  . refine nests_fltInjectRequest d rel (Set.notMem_empty _) rfl ?_ (Set.notMem_empty _) (Or.inl rfl)
    intro i _
    rw [insert_empty_eq]
    cases i with
    | ansfw => exact nests_requestCallback d rel n packet
    | other j => exact Nests.nil
  . unfold Locks.fltFreeCloneRequest
    split
    . exact hnil
    . apply Nests.nil

theorem nests_ttlLoop (seen rest : List DataList)
    : Nests (Discipline .ttl) {.datagrQueue} (Locks.ttlLoop d rel seen rest) {.datagrQueue} := by
  induction seen, rest using Locks.ttlLoop.induct with
  | case1 seen =>
    rw [Locks.ttlLoop]
    apply Nests.nil
  | case2 seen dl rest httl ih =>
    rw [Locks.ttlLoop, if_pos httl]
    apply Nests.seq
    . apply Nests.seq
      . apply nests_releaseFragments
        . simp
        . rfl
      . apply nests_locked_nil
        . simp
        . rfl
    . exact ih
  | case3 seen dl rest httl ih =>
    rw [Locks.ttlLoop, if_neg httl]
    exact ih

theorem nests_ttlDecrementThread (s : Reassembly)
    : Nests (Discipline .ttl) ∅ (ttlDecrementThread d rel s) ∅ := by
  refine Nests.critical (Set.notMem_empty _) rfl ?_
  rw [insert_empty_eq]
  apply nests_ttlLoop

theorem nests_fwInjectRequest (hd : d.fltInstancesList.Nodup) (pInstance : Option Nat)
    (pRequest : InjectedRequest)
    : Nests (Discipline .reassembly) {.datagrQueue, .intermedQueue}
        (Locks.fwInjectRequest d rel pInstance pRequest) {.datagrQueue, .intermedQueue} := by
  have hflt : ∀ packet, Nests (Discipline .reassembly) {.datagrQueue, .intermedQueue}
      (Locks.fltInjectRequest d rel (some .ansfw) packet) {.datagrQueue, .intermedQueue} := by
    intro packet
    refine nests_fltInjectRequest d rel (by simp) rfl ?_ (by simp) rfl
    intro i hi
    cases i with
    -- behind `ansfw` no instance takes a lock, so `g_FltInstancesLock` is the innermost one here
    | ansfw => exact absurd hi (Chain.not_mem_after_of_nodup hd .ansfw)
    | other j => exact Nests.nil
  unfold Locks.fwInjectRequest
  apply Nests.seq
  . apply nests_locked_nil
    . simp
    . rfl
  . repeat' split
    . apply Nests.nil
    . exact Nests.flatMap fun packet _ => hflt packet
    . apply Nests.nil
    . apply hflt
    . apply Nests.nil
    . apply Nests.nil

theorem nests_freeDatagram (env : Env) (dl : DataList)
    : Nests (Discipline .reassembly) {.datagrQueue, .intermedQueue} (Locks.freeDatagram d rel env dl)
        {.datagrQueue, .intermedQueue} := by
  unfold Locks.freeDatagram
  split
  . apply Nests.seq
    . apply nests_releaseFragments
      . simp
      . rfl
    . apply nests_locked_nil
      . simp
      . rfl
  . apply Nests.nil

theorem nests_analyze (hd : d.fltInstancesList.Nodup) (env : Env) (s : Reassembly) (r : FwRequest)
    : Nests (Discipline .reassembly) {.intermedQueue} (Locks.analyze d rel env s r)
        {.intermedQueue} := by
  unfold Locks.analyze
  simp only
  split
  . apply Nests.nil
  . refine Nests.critical (by simp) rfl ?_
    split
    . unfold Locks.analyzeExisting
      split
      . apply nests_locked_nil
        . simp
        . rfl
      . split
        . unfold Locks.verify
          split
          . apply Nests.seq
            . exact nests_fwInjectRequest d rel hd none _
            . apply nests_freeDatagram
          . apply Nests.nil
        . apply Nests.nil
    . unfold Locks.analyzeNew
      split
      . apply Nests.nil
      . apply nests_locked_nil
        . simp
        . rfl

theorem nests_pass {i : Thread} {ops : List LockOp} (h : Pass i ops)
    : Nests (Discipline i) ∅ ops ∅ := by
  cases h with
  | @reassembly calls hcalls =>
    refine Nests.critical (Set.notMem_empty _) rfl ?_
    rw [insert_empty_eq]
    exact Nests.flatMap fun c hc =>
      nests_analyze c.drivers c.releases (hcalls c hc).instances c.env c.reassembly c.pRequest
  | ttl d rel s => exact nests_ttlDecrementThread d rel s
  | arrival n d rel packet => exact nests_packetArrival d rel n packet

end Passes

/-! ### The only deadlock -/

-- Either of the two locks that are taken in both orders can come first.
def lockRank (intermed flt : Nat) : SpinLock → Nat
  | .intermedQueue => intermed
  | .datagrQueue => intermed + 1
  | .fltInstances => flt
  | _ => 3

section Deadlock

variable {s : LockState} (hs : Disciplined Discipline s)
include hs

theorem not_deadlock_of_lockRank (intermed flt : Nat) (hintermed : intermed ≤ 1) (hflt : flt ≤ 2)
    (hreassembly : s.Wants .reassembly .fltInstances → intermed + 1 < flt)
    (harrival : ∀ n, s.Wants (.arrival n) .intermedQueue → flt < intermed)
    : ¬s.Deadlock := by
  refine Lock.not_deadlock_of_rank (lockRank intermed flt) ?_
  intro i k hk l hwants
  have hheld := hs.wants hwants
  generalize s.Holds i = held at hk hheld
  cases i with
  | reassembly =>
    have hclimb : l = .fltInstances → intermed + 1 < flt := fun h => hreassembly (h ▸ hwants)
    cases l with
    | _ =>
      simp only [Discipline] at hheld
      subst hheld
      revert hk
      cases k <;> simp [lockRank] at * <;> omega
  | ttl =>
    cases l with
    | datagrQueue | freeDatagramWorkBufList | packet =>
      simp only [Discipline] at hheld
      subst hheld
      revert hk
      cases k <;> simp [lockRank] <;> omega
    | _ => exact hheld.elim
  | arrival n =>
    have hclimb : l = .intermedQueue → flt < intermed := fun h => harrival n (h ▸ hwants)
    cases l with
    | packet =>
      rcases hheld with rfl | rfl
      . cases hk
      . rw [Set.mem_singleton_iff.mp hk]
        simp only [lockRank]
        omega
    | fltInstances | fwInstances | intermedQueue =>
      simp only [Discipline] at hheld
      subst hheld
      revert hk
      cases k <;> simp [lockRank] at * <;> omega
    | _ => exact hheld.elim

theorem not_deadlock_of_reassembly (h : ¬s.Wants .reassembly .fltInstances) : ¬s.Deadlock := by
  apply not_deadlock_of_lockRank hs 1 0
  . decide
  . decide
  . intro hwants
    exact absurd hwants h
  . intro n _
    decide

theorem not_deadlock_of_arrival (h : ∀ n, ¬s.Wants (.arrival n) .intermedQueue) : ¬s.Deadlock := by
  apply not_deadlock_of_lockRank hs 0 2
  . decide
  . decide
  . intro _
    decide
  . intro n hwants
    exact absurd hwants (h n)

theorem owner_intermedQueue (h : s.Wants .reassembly .fltInstances)
    : s.owner .intermedQueue = some .reassembly := by
  have hheld : s.Holds .reassembly = {.datagrQueue, .intermedQueue} := hs.wants h
  rw [← State.mem_holds, hheld]
  simp

-- The only deadlock: the reassembly thread injects a datagram under `g_slIntermedQueueLock` and
-- waits for `g_FltInstancesLock`, which an arriving fragment holds that waits for
-- `g_slIntermedQueueLock`.
theorem deadlock_iff
    : s.Deadlock ↔
        s.Wants .reassembly .fltInstances ∧
          ∃ n, s.owner .fltInstances = some (.arrival n) ∧ s.Wants (.arrival n) .intermedQueue := by
  constructor
  . intro hdead
    refine ⟨by_contra fun h => not_deadlock_of_reassembly hs h hdead, ?_⟩
    by_contra h
    refine not_deadlock_of_arrival hs (fun n hwants => h ⟨n, ?_, hwants⟩) hdead
    have hheld : s.Holds (.arrival n) = {.fltInstances} := hs.wants hwants
    rw [← State.mem_holds, hheld]
    apply Set.mem_singleton
  . intro ⟨hreassembly, n, howner, harrival⟩
    have hintermed := owner_intermedQueue hs hreassembly
    exact ⟨.reassembly, .tail (.single ⟨_, hreassembly, howner⟩) ⟨_, harrival, hintermed⟩⟩

end Deadlock

/-! ### Runs -/

def Injecting (s : LockState) : Prop := s.Ahead .reassembly .intermedQueue .fltInstances

def Queueing (s : LockState) (n : Nat) : Prop := s.Ahead (.arrival n) .fltInstances .intermedQueue

/--
The step does not enter one of the two sections while the other one is open.
-/
structure Apart (s : LockState) (e : LockEvent) : Prop where
  injecting : Lock.Enters s e .reassembly .intermedQueue .fltInstances → ∀ n, ¬Queueing s n
  queueing : ∀ n, Lock.Enters s e (.arrival n) .fltInstances .intermedQueue → ¬Injecting s

structure SectionsApart (s : LockState) : Prop where
  disciplined : Disciplined Discipline s
  apart : Injecting s → ∀ n, ¬Queueing s n

theorem sectionsApart_initial : SectionsApart Lock.initial := by
  refine ⟨Lock.disciplined_initial, fun h => ?_⟩
  cases h.1

theorem SectionsApart.step {s : LockState} {e : LockEvent} (hs : SectionsApart s)
    (he : IsPass e ∧ Apart s e)
    : SectionsApart (Lock.step s e) := by
  obtain ⟨hpass, hin, hout⟩ := he
  have hnested : Lock.StartsNested Discipline e := by
    cases e with
    | start i ops => exact nests_pass hpass
    | next i => trivial
  refine ⟨Lock.disciplined_step hs.disciplined hnested, fun hinjecting n hqueueing => ?_⟩
  rcases Lock.ahead_step hs.disciplined hinjecting with hi | hi
  . rcases Lock.ahead_step hs.disciplined hqueueing with hq | hq
    . exact hs.apart hi n hq
    . exact hout n hq hi
  . rcases Lock.ahead_step hs.disciplined hqueueing with hq | hq
    . exact hin hi n hq
    . cases hi.1.symm.trans hq.1

theorem SectionsApart.not_deadlock {s : LockState} (hs : SectionsApart s) : ¬s.Deadlock := by
  rw [deadlock_iff hs.disciplined]
  intro ⟨hreassembly, n, howner, harrival⟩
  have hintermed := owner_intermedQueue hs.disciplined hreassembly
  obtain ⟨rest, htodo⟩ := hreassembly
  obtain ⟨rest', htodo'⟩ := harrival
  refine hs.apart ⟨hintermed, ?_⟩ n ⟨howner, ?_⟩
  . rw [htodo]
    apply List.mem_cons_self
  . rw [htodo']
    apply List.mem_cons_self

/--
In a run whose threads never enter one of the two sections while the other one is open, no state has a
cycle of threads waiting for each other's locks.
-/
theorem run_not_deadlock {es : List LockEvent} (hes : ∀ e ∈ es, IsPass e)
    (h : Run.Along Lock.step Apart Lock.initial es)
    : ∀ es', es' <+: es → ¬(Run.run Lock.step Lock.initial es').Deadlock := by
  intro es' hpref
  obtain ⟨rest, rfl⟩ := hpref
  rw [Run.along_append] at h
  have hpass : Run.Along Lock.step (fun _ e => IsPass e) Lock.initial es' :=
    Run.along_of_forall _ fun e he => hes e (List.mem_append_left rest he)
  exact (Run.inv_run (fun _ _ hs he => hs.step he) sectionsApart_initial (hpass.and h.1)).not_deadlock

def oneClient : Drivers where
  fwInstancesList := [0]
  clientStatus := fun _ => NtStatus.success
  fltInstancesList := [.ansfw]
  instanceStatus := fun _ _ => NtStatus.success
  bFltConnected := true
  allocateRequest := true
  fragment := fun _ => true

def keepsPackets : Releases := ⟨false, fun _ => false, fun _ => true⟩

def halfReassembled : List Event := [
  .reassemblePacket (greRequest 0 42 28 0x2000),
  .reassemblePacket (greRequest 1 42 28 1),
  .intermed ⟨true, 0⟩
]

def completingCall : AnalyzeCall where
  drivers := oneClient
  releases := keepsPackets
  env := ⟨true, 0⟩
  reassembly := { Run.run step initializeReassembly halfReassembled with intermedQueue := [] }
  pRequest := greRequest 1 42 28 1

theorem valid_completingCall : completingCall.Valid :=
  ⟨by decide, halfReassembled, [], rfl, rfl⟩

def crossingRun : List LockEvent := [
  .start .reassembly (intermedThreadFunc [completingCall]),
  .next .reassembly, .next .reassembly, .next .reassembly, .next .reassembly,
  .start (.arrival 0) (packetArrival oneClient keepsPackets 2),
  .next (.arrival 0), .next (.arrival 0), .next (.arrival 0), .next (.arrival 0), .next (.arrival 0)
]

theorem pass_completingCall : Pass .reassembly (intermedThreadFunc [completingCall]) :=
  .reassembly (List.forall_mem_singleton.mpr valid_completingCall)

theorem isPass_crossingRun : ∀ e ∈ crossingRun, IsPass e := by
  simp [crossingRun, IsPass, pass_completingCall, Pass.arrival]

def uncrossedRun : List LockEvent := [
  .start .reassembly (intermedThreadFunc [completingCall]), .next .reassembly,
  .start (.arrival 0) (packetArrival oneClient keepsPackets 2), .next (.arrival 0)
]

theorem isPass_uncrossedRun : ∀ e ∈ uncrossedRun, IsPass e := by
  simp [uncrossedRun, IsPass, pass_completingCall, Pass.arrival]

theorem run_not_deadlock_uncrossedRun
    : ¬(Run.run Lock.step Lock.initial uncrossedRun).Deadlock := by
  refine run_not_deadlock isPass_uncrossedRun ?_ uncrossedRun (List.prefix_refl _)
  refine ⟨⟨fun h => ?_, fun n h => ?_⟩, ⟨fun h n hq => ?_, fun n h => ?_⟩,
    ⟨fun h => ?_, fun n h => ?_⟩, ⟨fun h => ?_, fun n h => ?_⟩, trivial⟩
  . cases h.1
  . cases h.1
  . cases hq.1
  . cases h.1
  . cases h.1
  . cases h.1
  . cases h.1
  . obtain ⟨h1, _, rest, htodo, _⟩ := h
    cases h1
    cases htodo

theorem not_deadlock_crossingRun
    : ¬∀ es : List LockEvent, (∀ e ∈ es, IsPass e) →
        ∀ es', es' <+: es → ¬(Run.run Lock.step Lock.initial es').Deadlock := by
  have hlocks : intermedThreadFunc [completingCall] = [
      .acquire .intermedQueue, .acquire .datagrQueue, .acquire .fwInstances, .release .fwInstances,
      .acquire .fltInstances, .release .fltInstances, .acquire .fltInstances, .release .fltInstances,
      .acquire .freeDatagramWorkBufList, .release .freeDatagramWorkBufList, .release .datagrQueue,
      .release .intermedQueue] := by
    decide
  have hreassembly : (Run.run Lock.step Lock.initial crossingRun).Wants .reassembly .fltInstances := by
    rw [crossingRun, hlocks]
    exact ⟨_, rfl⟩
  have harrival : (Run.run Lock.step Lock.initial crossingRun).Wants (.arrival 0) .intermedQueue := by
    rw [crossingRun, hlocks]
    exact ⟨_, rfl⟩
  have hflt : (Run.run Lock.step Lock.initial crossingRun).owner .fltInstances = some (.arrival 0) := by
    rw [crossingRun, hlocks]
    rfl
  have hintermed : (Run.run Lock.step Lock.initial crossingRun).owner .intermedQueue =
      some .reassembly := by
    rw [crossingRun, hlocks]
    rfl
  intro h
  exact h crossingRun isPass_crossingRun crossingRun (List.prefix_refl _)
    ⟨.reassembly, .tail (.single ⟨_, hreassembly, hflt⟩) ⟨_, harrival, hintermed⟩⟩

end Ansfw
