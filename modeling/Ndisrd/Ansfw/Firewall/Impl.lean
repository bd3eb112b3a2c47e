import Mathlib.Logic.Function.Basic
import Ndisrd.Lib.Run
import Ndisrd.Shared.Basic

/-!
This module contains the pending requests of `nt/Firewall.c`: the threads that pend, cancel, dequeue and
dispose of the IRPs of local connects, each as a sequence of the accesses that other threads can see.
-/

namespace Ansfw.Firewall

structure Irp where
  cancel : Bool
  -- the cancel routine is either `tdiCancelIrp` or null
  cancelRoutine : Bool

/--
`TDI_CONN_REQUEST`. `madeFor` is the IRP the record was filled for, which `pIrp` no longer says once it
is null.
-/
structure TdiConnRequest where
  pIrp : Option Nat
  statusFail : NtStatus
  madeFor : Nat

inductive Finish where
  | chained
  | completed (status : NtStatus)
  deriving DecidableEq

/--
What a thread does next. The names are those of the functions it is in, or of what they call.
-/
inductive Pc where
  | idle
  -- `tdiConnectionOk` and `tdiPendIrp`
  | tdiAllocateRequest (irp : Nat) (statusFail : NtStatus)
  | tdiPendIrp (irp request : Nat)
  | setCancelRoutine (irp request : Nat)
  | testCancel (irp request : Nat)
  | resetCancelRoutine (irp request : Nat)
  | releaseLock (irp : Nat) (cancelled : Bool)
  | completeCancelled (irp : Nat)
  | setEvent
  -- `IoCancelIrp`
  | exchangeCancelRoutine (irp : Nat)
  | tdiCancelIrp (irp : Nat)
  -- `fwThread`, with the part of the list that is before it
  | acquireLock
  | tdiGetRequest (reqOn : List Nat)
  | dispatch (request : Nat)
  -- `FWInjectRequest` and `FWFreeCloneRequest`
  | processRequest (request : Nat)
  | injectLoopbackRequest (request : Nat)
  | tdiChainIrp (request : Nat)
  | clearIrp (request : Nat)
  | fwFreeCloneRequest (request : Nat)
  | freeLoopbackRequest (request : Nat)
  | tdiRecycleRequest (request : Nat)
  deriving DecidableEq

/--
The state. A `FW_REQUEST` is named by the record it points to, and only its counter is kept. `clones`
are the requests that a client has cloned for later. The last fields record what happened to each IRP:
the `m_StatusFail` it came with, how it was finished, and the records it got and gave back.
-/
structure State where
  irp : Nat → Irp
  record : Nat → TdiConnRequest
  references : Nat → Int
  gPendingRequestList : List Nat
  gPendingRequestListLock : Option Nat
  gFreeRequestList : List Nat
  -- the records from here on were never allocated
  nextRecord : Nat
  gFwThreadEvent : Bool
  pc : Nat → Pc
  clones : List Nat
  given : Nat → Option NtStatus
  finished : Nat → List Finish
  allocated : Nat → List Nat
  recycled : Nat → List Nat

-- The cancel flag of an IRP may be set before it gets here.
def init (cancel : Nat → Bool) (record : Nat → TdiConnRequest) (references : Nat → Int) : State where
  irp i := ⟨cancel i, false⟩
  record := record
  references := references
  gPendingRequestList := []
  gPendingRequestListLock := none
  gFreeRequestList := []
  nextRecord := 0
  gFwThreadEvent := false
  pc _ := .idle
  clones := []
  given _ := none
  finished _ := []
  allocated _ := []
  recycled _ := []

def fwThread : Nat := 0

inductive Answer where
  | approve
  | reject
  -- The client clones the request and returns a failure status.
  | defer

/--
What the code does not decide itself: the allocations, whether a client is connected, and what the
clients that are asked make of the request.
-/
structure Env where
  poolAlloc : Bool
  clientConnected : Bool
  allocFwRequest : Bool
  answer : Answer

namespace State

variable (s : State)

def goto (t : Nat) (pc : Pc) : State := { s with pc := Function.update s.pc t pc }

def ioSetCancelRoutine (irp : Nat) (cancelRoutine : Bool) : State :=
  { s with irp := Function.update s.irp irp { s.irp irp with cancelRoutine } }

def finish (irp : Nat) (f : Finish) : State :=
  { s with finished := Function.update s.finished irp (s.finished irp ++ [f]) }

def setPIrp (request : Nat) (pIrp : Option Nat) : State :=
  { s with record := Function.update s.record request { s.record request with pIrp } }

def recycle (request : Nat) : State :=
  let madeFor := (s.record request).madeFor
  { s with
    gFreeRequestList := s.gFreeRequestList ++ [request]
    recycled := Function.update s.recycled madeFor (s.recycled madeFor ++ [request]) }

def setReferences (request : Nat) (references : Int) : State :=
  { s with references := Function.update s.references request references }

-- `RtlCopyMemory` of the caller's record into the new one.
def fill (request irp : Nat) (statusFail : NtStatus) : State :=
  { s with
    record := Function.update s.record request ⟨some irp, statusFail, irp⟩
    allocated := Function.update s.allocated irp (s.allocated irp ++ [request]) }

def allocate (poolAlloc : Bool) : Option (Nat × State) :=
  match s.gFreeRequestList with
  | request :: rest => some (request, { s with gFreeRequestList := rest })
  | [] =>
    if poolAlloc then
      some (s.nextRecord, { s with nextRecord := s.nextRecord + 1 })
    else
      none

-- `fwThread` starts over at the head of the list.
def return_ (t : Nat) : State := s.goto t (if t = fwThread then .acquireLock else .idle)

end State

-- The walk of `tdiCancelIrp`, one hold of the lock.
def cancelWalk (s : State) (irp : Nat) : State :=
  let removed := s.gPendingRequestList.filter fun r => (s.record r).pIrp = some irp
  let s := { s with
    gPendingRequestList := s.gPendingRequestList.filter fun r => (s.record r).pIrp ≠ some irp }
  removed.foldl State.recycle s

variable (env : Env) (s : State) (t : Nat)

/-! The steps of the threads. One that waits for the lock or for the event does nothing meanwhile. -/

def stepAllocate (irp : Nat) (statusFail : NtStatus) : State :=
  match s.allocate env.poolAlloc with
  | some (request, s) => (s.fill request irp statusFail).goto t (.tdiPendIrp irp request)
  | none => (s.finish irp .chained).goto t .idle

def stepPend (irp request : Nat) : State :=
  match s.gPendingRequestListLock with
  | some _ => s
  | none =>
    let s := { s with
      gPendingRequestListLock := some t
      gPendingRequestList := s.gPendingRequestList ++ [request] }
    s.goto t (.setCancelRoutine irp request)

def stepResetCancelRoutine (irp request : Nat) : State :=
  if (s.irp irp).cancelRoutine then
    let s := s.ioSetCancelRoutine irp false
    let s := { s with gPendingRequestList := s.gPendingRequestList.erase request }
    (s.recycle request).goto t (.releaseLock irp true)
  else
    s.goto t (.releaseLock irp false)

def stepReleaseLock (irp : Nat) (cancelled : Bool) : State :=
  let s := { s with gPendingRequestListLock := none }
  s.goto t (if cancelled then .completeCancelled irp else .setEvent)

def stepExchangeCancelRoutine (irp : Nat) : State :=
  if (s.irp irp).cancelRoutine then
    (s.ioSetCancelRoutine irp false).goto t (.tdiCancelIrp irp)
  else
    s.goto t .idle

def stepCancelIrp (irp : Nat) : State :=
  match s.gPendingRequestListLock with
  | some _ => s
  | none => (cancelWalk s irp).goto t (.completeCancelled irp)

def stepAcquireLock : State :=
  match s.gPendingRequestListLock with
  | some _ => s
  | none => { s with gPendingRequestListLock := some t }.goto t (.tdiGetRequest s.gPendingRequestList)

-- A record whose IRP the thread does not get stays in the list.
def stepGetRequest : List Nat → State
  | [] => { s with gPendingRequestListLock := none }.goto t .idle
  | request :: reqOn =>
    match (s.record request).pIrp with
    | some irp =>
      if (s.irp irp).cancelRoutine then
        let s := s.ioSetCancelRoutine irp false
        let s := { s with
          gPendingRequestList := s.gPendingRequestList.erase request
          gPendingRequestListLock := none }
        s.goto t (.dispatch request)
      else
        s.goto t (.tdiGetRequest reqOn)
    | none => s.goto t (.tdiGetRequest reqOn)

def chainIrp (request : Nat) : State :=
  match (s.record request).pIrp with
  | some irp => s.finish irp .chained
  | none => s

def stepDispatch (request : Nat) : State :=
  if env.clientConnected && env.allocFwRequest then
    (s.setReferences request 1).goto t (.processRequest request)
  else
    (chainIrp s request).goto t (.tdiRecycleRequest request)

def stepProcessRequest (request : Nat) : State :=
  match env.answer with
  | .approve => s.goto t (.injectLoopbackRequest request)
  | .reject => s.goto t (.fwFreeCloneRequest request)
  | .defer =>
    let s := { s with clones := request :: s.clones }
    (s.setReferences request (s.references request + 1)).goto t (.fwFreeCloneRequest request)

def stepInjectLoopbackRequest (request : Nat) : State :=
  match (s.record request).pIrp with
  | some _ => s.goto t (.tdiChainIrp request)
  | none => s.goto t (.fwFreeCloneRequest request)

def stepFreeCloneRequest (request : Nat) : State :=
  let references := s.references request - 1
  let s := s.setReferences request references
  if references = 0 then
    s.goto t (.freeLoopbackRequest request)
  else
    s.return_ t

def stepFreeLoopbackRequest (request : Nat) : State :=
  match (s.record request).pIrp with
  | some irp =>
    let s := s.finish irp (.completed (s.record request).statusFail)
    (s.setPIrp request none).goto t (.tdiRecycleRequest request)
  | none => s.goto t (.tdiRecycleRequest request)

def advance : State :=
  match s.pc t with
  | .idle =>
    if t = fwThread ∧ s.gFwThreadEvent then
      { s with gFwThreadEvent := false }.goto t .acquireLock
    else
      s
  | .tdiAllocateRequest irp statusFail => stepAllocate env s t irp statusFail
  | .tdiPendIrp irp request => stepPend s t irp request
  | .setCancelRoutine irp request =>
    (s.ioSetCancelRoutine irp true).goto t (.testCancel irp request)
  | .testCancel irp request =>
    s.goto t (if (s.irp irp).cancel then .resetCancelRoutine irp request else .releaseLock irp false)
  | .resetCancelRoutine irp request => stepResetCancelRoutine s t irp request
  | .releaseLock irp cancelled => stepReleaseLock s t irp cancelled
  | .completeCancelled irp => (s.finish irp (.completed .cancelled)).goto t .setEvent
  | .setEvent => { s with gFwThreadEvent := true }.goto t .idle
  | .exchangeCancelRoutine irp => stepExchangeCancelRoutine s t irp
  | .tdiCancelIrp irp => stepCancelIrp s t irp
  | .acquireLock => stepAcquireLock s t
  | .tdiGetRequest reqOn => stepGetRequest s t reqOn
  | .dispatch request => stepDispatch env s t request
  | .processRequest request => stepProcessRequest env s t request
  | .injectLoopbackRequest request => stepInjectLoopbackRequest s t request
  | .tdiChainIrp request => (chainIrp s request).goto t (.clearIrp request)
  | .clearIrp request => (s.setPIrp request none).goto t (.fwFreeCloneRequest request)
  | .fwFreeCloneRequest request => stepFreeCloneRequest s t request
  | .freeLoopbackRequest request => stepFreeLoopbackRequest s t request
  | .tdiRecycleRequest request => (s.recycle request).return_ t

inductive Event where
  | tdiConnectionOk (t irp : Nat) (statusFail : NtStatus)
  | ioCancelIrp (t irp : Nat)
  -- A client comes back to a request it has cloned, and injects or only frees it.
  | resume (t request : Nat) (inject : Bool)
  | advance (t : Nat) (env : Env)

def step (s : State) : Event → State
  | .tdiConnectionOk t irp statusFail =>
    { s with given := Function.update s.given irp (some statusFail) }.goto t
      (.tdiAllocateRequest irp statusFail)
  | .ioCancelIrp t irp =>
    { s with irp := Function.update s.irp irp { s.irp irp with cancel := true } }.goto t
      (.exchangeCancelRoutine irp)
  | .resume t request inject =>
    { s with clones := s.clones.erase request }.goto t
      (if inject then .processRequest request else .fwFreeCloneRequest request)
  | .advance t env => advance env s t

/--
What the parties keep to: a call is made by a thread that is doing nothing else, an IRP is given once,
and a client comes back once for each clone.
-/
def Allowed (s : State) : Event → Prop
  | .tdiConnectionOk t irp _ => s.pc t = .idle ∧ t ≠ fwThread ∧ s.given irp = none
  | .ioCancelIrp t _ => s.pc t = .idle ∧ t ≠ fwThread
  | .resume t request _ => s.pc t = .idle ∧ t ≠ fwThread ∧ request ∈ s.clones
  | .advance _ _ => True

end Ansfw.Firewall
