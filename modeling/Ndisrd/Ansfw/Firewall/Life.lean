import Ndisrd.Ansfw.Firewall.Impl

/-!
This module contains the life of an IRP that is given to `tdiConnectionOk`: the phases it passes
through, who has to do something for it in each, and what the state says of it meanwhile.
-/

namespace Ansfw.Firewall

-- Who carries a `FW_REQUEST` on, after its record is off the pending list.
inductive Carrier where
  | thread (t : Nat)
  | clone
  -- the IRP is chained, and the pointer to it not yet cleared
  | clearing (t : Nat)
  | gone (chained : Bool)

inductive Phase where
  | ungiven
  | allocate (t : Nat)
  | inserting (t r : Nat)
  | inserted (t r : Nat)
  | armed (r : Nat)
  | cancelling (t r : Nat)
  | completing (t : Nat)
  | dispatch (t r : Nat)
  | request (r : Nat) (holders : List Nat) (carrier : Carrier)
  | disposing (t r : Nat) (chained : Bool)
  | recycling (t r : Nat)
  | finished

namespace Carrier

def owner : Carrier → Option Nat
  | thread t => some t
  | clearing t => some t
  | _ => none

def clones : Carrier → Nat
  | clone => 1
  | _ => 0

def isFinished : Carrier → Bool
  | clearing _ => true
  | gone chained => chained
  | _ => false

def pointer : Carrier → Bool
  | gone chained => !chained
  | _ => true

end Carrier

namespace Phase

def record : Phase → Option Nat
  | inserting _ r => some r
  | inserted _ r => some r
  | armed r => some r
  | cancelling _ r => some r
  | dispatch _ r => some r
  | request r _ _ => some r
  | disposing _ r _ => some r
  | recycling _ r => some r
  | _ => none

-- The thread that has to do something for the IRP, besides the holders of a `FW_REQUEST`.
def owner : Phase → Option Nat
  | allocate t => some t
  | inserting t _ => some t
  | inserted t _ => some t
  | cancelling t _ => some t
  | completing t => some t
  | dispatch t _ => some t
  | disposing t _ _ => some t
  | recycling t _ => some t
  | _ => none

def isArmed : Phase → Bool
  | armed _ => true
  | _ => false

def listed : Phase → Bool
  | inserted _ _ => true
  | armed _ => true
  | cancelling _ _ => true
  | _ => false

def parked : Phase → Bool
  | request _ _ .clone => true
  | _ => false

def isFinished : Phase → Bool
  | request _ _ carrier => carrier.isFinished
  | disposing _ _ chained => chained
  | recycling _ _ => true
  | finished => true
  | _ => false

-- Whether `m_pIrp` of the record points to the IRP, where that matters.
def pointer : Phase → Option Bool
  | request _ _ carrier => some carrier.pointer
  | disposing _ _ chained => some !chained
  | recycling _ _ => none
  | _ => some true

def early : Phase → Bool
  | ungiven => true
  | allocate _ => true
  | _ => false

-- The caller has set the cancel routine, for the record `r`.
def Past (r : Nat) : Phase → Prop
  | ungiven => False
  | allocate _ => False
  | inserting _ _ => False
  | inserted _ _ => False
  | armed r' => r' = r
  | _ => True

end Phase

/-! ### The threads -/

namespace Pc

-- The IRP for which the thread has something to do, by itself or through its record.
def irp (madeFor : Nat → Nat) : Pc → Option Nat
  | tdiAllocateRequest irp _ => some irp
  | tdiPendIrp irp _ => some irp
  | setCancelRoutine irp _ => some irp
  | testCancel irp _ => some irp
  | resetCancelRoutine irp _ => some irp
  | releaseLock irp cancelled => if cancelled then some irp else none
  | completeCancelled irp => some irp
  | tdiCancelIrp irp => some irp
  | dispatch r => some (madeFor r)
  | processRequest r => some (madeFor r)
  | injectLoopbackRequest r => some (madeFor r)
  | tdiChainIrp r => some (madeFor r)
  | clearIrp r => some (madeFor r)
  | fwFreeCloneRequest r => some (madeFor r)
  | freeLoopbackRequest r => some (madeFor r)
  | tdiRecycleRequest r => some (madeFor r)
  | _ => none

def record : Pc → Option Nat
  | dispatch r => some r
  | processRequest r => some r
  | injectLoopbackRequest r => some r
  | tdiChainIrp r => some r
  | clearIrp r => some r
  | fwFreeCloneRequest r => some r
  | freeLoopbackRequest r => some r
  | tdiRecycleRequest r => some r
  | _ => none

def locking : Pc → Bool
  | setCancelRoutine _ _ => true
  | testCancel _ _ => true
  | resetCancelRoutine _ _ => true
  | releaseLock _ _ => true
  | tdiGetRequest _ => true
  | _ => false

-- The thread holds a reference to the `FW_REQUEST`.
def holds (r : Nat) : Pc → Prop
  | processRequest r' => r' = r
  | injectLoopbackRequest r' => r' = r
  | tdiChainIrp r' => r' = r
  | clearIrp r' => r' = r
  | fwFreeCloneRequest r' => r' = r
  | _ => False

-- The thread is on its way to `KeSetEvent`.
def signals : Pc → Bool
  | setCancelRoutine _ _ => true
  | testCancel _ _ => true
  | resetCancelRoutine _ _ => true
  | releaseLock _ _ => true
  | completeCancelled _ => true
  | setEvent => true
  | tdiCancelIrp _ => true
  | _ => false

-- `fwThread` has not yet been at the record in this pass, or makes another one.
def Ahead (r : Nat) : Pc → Prop
  | acquireLock => True
  | tdiGetRequest reqOn => r ∈ reqOn
  | dispatch _ => True
  | processRequest _ => True
  | injectLoopbackRequest _ => True
  | tdiChainIrp _ => True
  | clearIrp _ => True
  | fwFreeCloneRequest _ => True
  | freeLoopbackRequest _ => True
  | tdiRecycleRequest _ => True
  | _ => False

/--
The phase of the IRP of a thread that is about to do something for it.
-/
def At (t : Nat) (p : Phase) : Pc → Prop
  | tdiAllocateRequest _ _ => p = .allocate t
  | tdiPendIrp _ r => p = .inserting t r
  | setCancelRoutine _ r => p = .inserted t r
  | testCancel _ r => p.Past r ∧ p.owner ≠ some t
  | resetCancelRoutine _ r => p.Past r ∧ p.owner ≠ some t
  | releaseLock _ cancelled => cancelled = true → p = .completing t
  | completeCancelled _ => p = .completing t
  | tdiCancelIrp _ => ∃ r, p = .cancelling t r
  | dispatch r => p = .dispatch t r
  | processRequest r => ∃ hs, p = .request r hs (.thread t) ∧ t ∈ hs
  | injectLoopbackRequest r => ∃ hs, p = .request r hs (.thread t) ∧ t ∈ hs
  | tdiChainIrp r => ∃ hs, p = .request r hs (.thread t) ∧ t ∈ hs
  | clearIrp r => ∃ hs, p = .request r hs (.clearing t) ∧ t ∈ hs
  | fwFreeCloneRequest r => ∃ hs c, p = .request r hs c ∧ t ∈ hs ∧ c.owner ≠ some t
  | freeLoopbackRequest r => ∃ chained, p = .disposing t r chained
  | tdiRecycleRequest r => p = .recycling t r
  | _ => True

theorem At.record {t r : Nat} {p : Phase} {pc : Pc} (h : At t p pc) (hr : pc.record = some r)
    : p.record = some r := by
  cases pc with
  | dispatch _ | tdiRecycleRequest _ =>
    cases hr
    rw [show p = _ from h]
    rfl
  | processRequest _ | injectLoopbackRequest _ | tdiChainIrp _ | clearIrp _ =>
    cases hr
    obtain ⟨hs, hp, _⟩ := h
    rw [hp]
    rfl
  | fwFreeCloneRequest _ =>
    cases hr
    obtain ⟨hs, c, hp, _⟩ := h
    rw [hp]
    rfl
  | freeLoopbackRequest _ =>
    cases hr
    obtain ⟨chained, hp⟩ := h
    rw [hp]
    rfl
  | _ => cases hr

theorem irp_eq_of_record {madeFor : Nat → Nat} {pc : Pc} {r : Nat} (hr : pc.record = some r)
    : pc.irp madeFor = some (madeFor r) := by
  cases pc <;> cases hr <;> rfl

theorem irp_congr {madeFor madeFor' : Nat → Nat} {pc : Pc}
    (h : ∀ r, pc.record = some r → madeFor' r = madeFor r)
    : pc.irp madeFor' = pc.irp madeFor := by
  cases pc with
  | dispatch _ | processRequest _ | injectLoopbackRequest _ | tdiChainIrp _ | clearIrp _
  | fwFreeCloneRequest _ | freeLoopbackRequest _ | tdiRecycleRequest _ =>
    exact congrArg some (h _ rfl)
  | _ => rfl

theorem record_of_holds {pc : Pc} {r : Nat} (h : pc.holds r) : pc.record = some r := by
  cases pc with
  | processRequest _ | injectLoopbackRequest _ | tdiChainIrp _ | clearIrp _ | fwFreeCloneRequest _ =>
    cases h
    rfl
  | _ => cases h

end Pc

/-! ### What the state says of an IRP -/

-- The ways in which an IRP may be finished.
def Proper (given : Option NtStatus) (f : Finish) : Prop :=
  f = .chained ∨ f = .completed .cancelled ∨ ∃ statusFail, given = some statusFail ∧
    f = .completed statusFail

abbrev State.madeFor (s : State) (r : Nat) : Nat := (s.record r).madeFor

structure RecordOk (s : State) (i : Nat) (p : Phase) (r : Nat) : Prop where
  logs : s.allocated i = [r] ∧ s.recycled i = []
  madeFor : s.madeFor r = i
  used : r ∉ s.gFreeRequestList ∧ r < s.nextRecord
  statusFail : s.given i = some (s.record r).statusFail
  pointer : ∀ b, p.pointer = some b → (s.record r).pIrp = if b then some i else none
  listed : r ∈ s.gPendingRequestList ↔ p.listed = true
  parked : r ∈ s.clones ↔ p.parked = true

structure RequestOk (s : State) (r : Nat) (holders : List Nat) (carrier : Carrier) : Prop where
  nodup : holders.Nodup
  pos : 0 < holders.length + carrier.clones
  references : s.references r = (holders.length + carrier.clones : Nat)
  holds : ∀ t ∈ holders, (s.pc t).holds r
  owner : ∀ t, carrier.owner = some t → t ∈ holders

structure IrpOk (s : State) (i : Nat) (p : Phase) : Prop where
  given : s.given i = none ↔ p = .ungiven
  routine : (s.irp i).cancelRoutine = p.isArmed
  finished : if p.isFinished then ∃ f, s.finished i = [f] ∧ Proper (s.given i) f else s.finished i = []
  returned : p.record = none → s.recycled i = s.allocated i ∧ (s.allocated i).length ≤ 1
  early : p.early = true → s.allocated i = []
  record : ∀ r, p.record = some r → RecordOk s i p r
  owner : ∀ t, p.owner = some t → (s.pc t).irp s.madeFor = some i
  request : ∀ r holders carrier, p = .request r holders carrier → RequestOk s r holders carrier

def Wake (s : State) (phase : Nat → Phase) : Prop :=
  ∀ i r, phase i = .armed r →
    s.gFwThreadEvent = true ∨ (s.pc fwThread).Ahead r ∨ ∃ t, (s.pc t).signals = true

/--
The invariant, with the phase that every IRP is in.
-/
structure Inv (s : State) (phase : Nat → Phase) : Prop where
  irps : ∀ i, IrpOk s i (phase i)
  threads : ∀ t i, (s.pc t).irp s.madeFor = some i → (s.pc t).At t (phase i)
  asks : ∀ t i statusFail, s.pc t = .tdiAllocateRequest i statusFail → s.given i = some statusFail
  lock : ∀ t, (s.pc t).locking = true ↔ s.gPendingRequestListLock = some t
  walk : ∀ t reqOn, s.pc t = .tdiGetRequest reqOn → reqOn <:+ s.gPendingRequestList
  pending : s.gPendingRequestList.Nodup ∧
    ∀ r ∈ s.gPendingRequestList, (phase (s.madeFor r)).record = some r
  cloned : s.clones.Nodup ∧ ∀ r ∈ s.clones, (phase (s.madeFor r)).record = some r
  free : s.gFreeRequestList.Nodup ∧ ∀ r ∈ s.gFreeRequestList, r < s.nextRecord
  wake : Wake s phase

end Ansfw.Firewall
