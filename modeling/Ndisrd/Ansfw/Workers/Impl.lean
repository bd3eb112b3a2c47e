import Mathlib.Logic.Function.Basic
import Ndisrd.Lib.Run

/-!
This module contains the three worker threads with a queue and an auto-reset event each, and the threads
that insert in their queues: `IntermedThreadFunc` of `reassembly.c`, `addrThread` of `nt/openConn.c` and
`fwThread` of `nt/Firewall.c`. The loops of the three are one loop with parameters.
-/

namespace Ansfw.Workers

structure Worker where
  -- the lock of the queue is released while an entry is worked on
  dropsLock : Bool
  -- the entries are IRPs that can be cancelled while they are queued
  cancellable : Bool
  -- entries are taken out when their address is closed
  closable : Bool
  -- the stop flag is tested after the wait, too
  testsAfterWait : Bool

-- `g_leIntermedQueueHead`, `g_ThreadEvent`. `Analyze` is called with the lock held.
def intermedThreadFunc : Worker where
  dropsLock := false
  cancellable := false
  closable := false
  testsAfterWait := false

-- `g_PendingAddrList`, `g_AddrThreadEvent`
def addrThread : Worker where
  dropsLock := true
  cancellable := false
  closable := true
  testsAfterWait := true

-- `g_PendingRequestList`, `g_FwThreadEvent`
def fwThread : Worker where
  dropsLock := true
  cancellable := true
  closable := false
  testsAfterWait := true

/--
What the worker does next. A walk has the part of the queue that is before it.
-/
inductive WorkerPc where
  | testStop
  | keWaitForSingleObject
  | acquireLock
  | walk (rest : List Nat)
  | work (x : Nat)
  | terminated
  deriving DecidableEq

/--
What another thread does next. Entries are numbered in the order of the calls that insert them.
-/
inductive Pc where
  | idle
  -- `ReassemblePacket`, `tdiPendIrp`, the completion routines that park an IRP
  | insertTail (x : Nat)
  | setCancelRoutine (x : Nat)
  | testCancel (x : Nat)
  | resetCancelRoutine (x : Nat)
  | releaseLock (x : Nat)
  | setEvent (x : Nat)
  -- `IoCancelIrp`
  | exchangeCancelRoutine (x : Nat)
  | tdiCancelIrp (x : Nat)
  -- `TDIH_TdiCloseAddressComplete`
  | closeAddress (x : Nat)
  -- the `KeSetEvent` of those that insert nothing
  | wake
  deriving DecidableEq

inductive Holder where
  | worker
  | thread (t : Nat)
  deriving DecidableEq

structure State where
  queue : List Nat
  lock : Option Holder
  event : Bool
  stop : Bool
  worker : WorkerPc
  pc : Nat → Pc
  cancel : Nat → Bool
  -- the cancel routine is either `tdiCancelIrp` or null
  cancelRoutine : Nat → Bool
  -- the calls from here on have not been made
  next : Nat

-- The cancel flag of an IRP may be set before it gets here.
def init (cancel : Nat → Bool) : State where
  queue := []
  lock := none
  event := false
  stop := false
  worker := .testStop
  pc _ := .idle
  cancel := cancel
  cancelRoutine _ := false
  next := 0

namespace State

variable (s : State)

def goto (t : Nat) (pc : Pc) : State := { s with pc := Function.update s.pc t pc }

def ioSetCancelRoutine (x : Nat) (cancelRoutine : Bool) : State :=
  { s with cancelRoutine := Function.update s.cancelRoutine x cancelRoutine }

def removeEntryList (x : Nat) : State := { s with queue := s.queue.filter fun y => y ≠ x }

end State

variable (w : Worker) (s : State) (t : Nat)

/-! The steps of the threads. One that waits for the lock or for the event does nothing meanwhile. -/

def stepInsert (x : Nat) : State :=
  match s.lock with
  | some _ => s
  | none =>
    { s with lock := some (.thread t), queue := s.queue ++ [x] }.goto t
      (if w.cancellable then .setCancelRoutine x else .releaseLock x)

def stepResetCancelRoutine (x : Nat) : State :=
  if s.cancelRoutine x then
    ((s.ioSetCancelRoutine x false).removeEntryList x).goto t (.releaseLock x)
  else
    s.goto t (.releaseLock x)

def stepExchangeCancelRoutine (x : Nat) : State :=
  if s.cancelRoutine x then
    (s.ioSetCancelRoutine x false).goto t (.tdiCancelIrp x)
  else
    s.goto t .idle

-- One hold of the lock, in which the entry is taken out.
def stepRemove (x : Nat) (pc : Pc) : State :=
  match s.lock with
  | some _ => s
  | none => (s.removeEntryList x).goto t pc

def advance : State :=
  match s.pc t with
  | .idle => s
  | .insertTail x => stepInsert w s t x
  | .setCancelRoutine x => (s.ioSetCancelRoutine x true).goto t (.testCancel x)
  | .testCancel x => s.goto t (if s.cancel x then .resetCancelRoutine x else .releaseLock x)
  | .resetCancelRoutine x => stepResetCancelRoutine s t x
  | .releaseLock x => { s with lock := none }.goto t (.setEvent x)
  | .setEvent _ => { s with event := true }.goto t .idle
  | .exchangeCancelRoutine x => stepExchangeCancelRoutine s t x
  | .tdiCancelIrp x => stepRemove s t x .wake
  | .closeAddress x => stepRemove s t x .idle
  | .wake => { s with event := true }.goto t .idle

/-! The steps of the worker. -/

def stepWait : State :=
  if s.event then
    { s with
      event := false
      worker := if w.testsAfterWait && s.stop then .terminated else .acquireLock }
  else
    s

def stepAcquireLock : State :=
  match s.lock with
  | some _ => s
  | none => { s with lock := some .worker, worker := .walk s.queue }

-- An IRP that `tdiGetRequest` does not get stays in the queue.
def stepWalk : List Nat → State
  | [] => { s with lock := none, worker := .testStop }
  | x :: rest =>
    if w.cancellable && !s.cancelRoutine x then
      { s with worker := .walk rest }
    else
      let s := (s.ioSetCancelRoutine x false).removeEntryList x
      if w.dropsLock then
        { s with lock := none, worker := .work x }
      else
        { s with worker := .walk s.queue }

def advanceWorker : State :=
  match s.worker with
  | .testStop => { s with worker := if s.stop then .terminated else .keWaitForSingleObject }
  | .keWaitForSingleObject => stepWait w s
  | .acquireLock => stepAcquireLock s
  | .walk rest => stepWalk w s rest
  | .work _ => { s with worker := .acquireLock }
  | .terminated => s

inductive Event where
  | insert (t : Nat)
  | cancel (t x : Nat)
  | close (t x : Nat)
  | stop (t : Nat)
  | advance (t : Nat)
  | advanceWorker

def step (s : State) : Event → State
  | .insert t => { s with next := s.next + 1 }.goto t (.insertTail s.next)
  | .cancel t x =>
    { s with cancel := Function.update s.cancel x true }.goto t (.exchangeCancelRoutine x)
  | .close t x => s.goto t (.closeAddress x)
  | .stop t => { s with stop := true }.goto t .wake
  | .advance t => advance w s t
  | .advanceWorker => advanceWorker w s

/--
A call is made by a thread that is doing nothing else, and only entries that allow it are cancelled or
closed.
-/
def Allowed (s : State) : Event → Prop
  | .insert t => s.pc t = .idle
  | .cancel t _ => s.pc t = .idle ∧ w.cancellable = true
  | .close t _ => s.pc t = .idle ∧ w.closable = true
  | .stop t => s.pc t = .idle
  | .advance _ => True
  | .advanceWorker => True

end Ansfw.Workers
