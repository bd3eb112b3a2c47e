import Ndisrd.Lib.Run
import Ndisrd.Shared.Basic

/-!
This module contains the link of `ansfw` to `ansfltr`: how it is set up and taken down, and how
`AllocateRequest` and `FWFreeCloneRequest` take and release references to packets through it meanwhile.
-/

namespace Ansfw.FilterLink

/--
`FLT_FUNCTIONS`: which of the pointers are not null.
-/
structure FltFunctions where
  registerCallbacks : Bool
  deregisterCallbacks : Bool
  injectRequest : Bool
  cloneRequest : Bool
  freeCloneRequest : Bool
  deriving DecidableEq

namespace FltFunctions

def zero : FltFunctions := ⟨false, false, false, false, false⟩

-- What `ansfltr` answers to `IOCTL_OBTAIN_FILTER_FUNCTIONS`.
def filled : FltFunctions := ⟨true, true, true, true, true⟩

end FltFunctions

/--
What `RegisterFilterCallbacks` or `DeregisterFilterCallbacks` is to do next.
-/
inductive ControlPc where
  | idle
  | obtainFilterFunctions
  | registerCallbacks
  | setConnected
  | resetConnected
  | deregisterCallbacks
  | zeroFunctions
  deriving DecidableEq

/--
What `AllocateRequest`, and the last `FWFreeCloneRequest` of a request, are to do next. A call through a
null pointer is the end of everything.
-/
inductive RequestPc where
  | testConnected
  | testCloneRequest
  | live
  | freeTestConnected
  | freeTestInjectRequest
  | callFreeCloneRequest
  | freed
  | crashed
  deriving DecidableEq

/--
An `FW_REQUEST` of `RequestCallback`. The last fields follow what no variable of the driver says: how
often the request took and released its packet, what `g_bFltConnected` was when `AllocateRequest` and the
last `FWFreeCloneRequest` tested it, and whether the latter found the table filled from then on.
-/
structure Request where
  references : Int
  pc : RequestPc
  cloned : Nat
  released : Nat
  connectedAtAllocate : Bool
  connectedAtFree : Bool
  filledAtFree : Bool

def Request.allocated : Request := ⟨1, .testConnected, 0, 0, false, false, false⟩

def Request.Ended (r : Request) : Prop := r.pc = .freed ∨ r.pc = .crashed

/--
`pFltInstance` says whether the instance is in the list of `ansfltr`, and `callback` which request the
thread has made that is inside `RequestCallback`: `ansfltr` calls it under the lock of that list.
-/
structure State where
  fltFunctions : FltFunctions
  pFltInstance : Bool
  bFltConnected : Bool
  control : ControlPc
  callback : Option Nat
  request : Nat → Option Request

def init : State := ⟨FltFunctions.zero, false, false, .idle, none, fun _ => none⟩

def State.setRequest (s : State) (id : Nat) (r : Request) : State :=
  { s with request := fun j => if j = id then some r else s.request j }

/--
The next step of the thread in `RegisterFilterCallbacks` or `DeregisterFilterCallbacks`. `status` is what
`ansfltr` answers where it is asked.
-/
def controlStep (s : State) (status : NtStatus) : State :=
  match s.control with
  | .idle => s
  | .obtainFilterFunctions =>
    if status.ntSuccess then
      { s with fltFunctions := FltFunctions.filled, control := .registerCallbacks }
    else
      { s with control := .idle }
  | .registerCallbacks =>
    if s.fltFunctions.registerCallbacks && status.ntSuccess then
      { s with pFltInstance := true, control := .setConnected }
    else
      { s with control := .idle }
  | .setConnected => { s with bFltConnected := true, control := .idle }
  | .resetConnected =>
    { s with
      bFltConnected := false
      control :=
        if s.bFltConnected && s.fltFunctions.deregisterCallbacks then .deregisterCallbacks
        else .zeroFunctions }
  | .deregisterCallbacks => { s with pFltInstance := false, control := .zeroFunctions }
  | .zeroFunctions => { s with fltFunctions := FltFunctions.zero, control := .idle }

/--
The next step of `AllocateRequest` or of the last `FWFreeCloneRequest`.
-/
def requestStep (s : State) (r : Request) : Request :=
  match r.pc with
  | .testConnected =>
    { r with
      connectedAtAllocate := s.bFltConnected
      pc := if s.bFltConnected then .testCloneRequest else .live }
  | .testCloneRequest =>
    { r with
      cloned := if s.fltFunctions.cloneRequest then r.cloned + 1 else r.cloned
      pc := .live }
  | .freeTestConnected =>
    { r with
      connectedAtFree := s.bFltConnected
      pc := if s.bFltConnected then .freeTestInjectRequest else .freed }
  -- It is the pointer of another function that is tested.
  | .freeTestInjectRequest =>
    { r with
      filledAtFree := decide (s.fltFunctions = FltFunctions.filled)
      pc := if s.fltFunctions.injectRequest then .callFreeCloneRequest else .freed }
  | .callFreeCloneRequest =>
    { r with
      filledAtFree := r.filledAtFree && decide (s.fltFunctions = FltFunctions.filled)
      released := if s.fltFunctions.freeCloneRequest then r.released + 1 else r.released
      pc := if s.fltFunctions.freeCloneRequest then .freed else .crashed }
  | .live => r
  | .freed => r
  | .crashed => r

def fwCloneRequest (r : Request) : Request := { r with references := r.references + 1 }

-- Up to the test of the counter.
def fwFreeCloneRequest (r : Request) : Request :=
  { r with
    references := r.references - 1
    pc := if r.references - 1 = 0 then .freeTestConnected else r.pc }

inductive Event where
  | registerFilterCallbacks
  | deregisterFilterCallbacks
  | control (status : NtStatus)
  | requestCallback (id : Nat)
  | callbackReturns
  | advance (id : Nat)
  | clone (id : Nat)
  | free (id : Nat)

def step (s : State) : Event → State
  | .registerFilterCallbacks => { s with control := .obtainFilterFunctions }
  | .deregisterFilterCallbacks => { s with control := .resetConnected }
  | .control status => controlStep s status
  | .requestCallback id => { s.setRequest id Request.allocated with callback := some id }
  | .callbackReturns => { s with callback := none }
  | .advance id =>
    match s.request id with
    | some r => s.setRequest id (requestStep s r)
    | none => s
  | .clone id =>
    match s.request id with
    | some r => s.setRequest id (fwCloneRequest r)
    | none => s
  | .free id =>
    match s.request id with
    | some r => s.setRequest id (fwFreeCloneRequest r)
    | none => s

def State.allocating (s : State) (id : Nat) : Prop :=
  ∃ r, s.request id = some r ∧ (r.pc = .testConnected ∨ r.pc = .testCloneRequest)

/--
What the threads keep to. The driver registers when it is not registered, one call after the other;
`ansfltr` needs its lock to insert and remove the instance, and calls only instances in its list; a
callback returns behind its allocation; and a request is used by who has a reference to it.
-/
def Event.Allowed (s : State) : Event → Prop
  | .registerFilterCallbacks => s.control = .idle ∧ s.pFltInstance = false
  | .deregisterFilterCallbacks => s.control = .idle
  | .control _ => s.control = .registerCallbacks ∨ s.control = .deregisterCallbacks → s.callback = none
  | .requestCallback id => s.pFltInstance = true ∧ s.callback = none ∧ s.request id = none
  | .callbackReturns => ∀ id, s.callback = some id → ¬s.allocating id
  | .advance _ => True
  | .clone id => ∃ r, s.request id = some r ∧ r.pc = .live
  | .free id => ∃ r, s.request id = some r ∧ r.pc = .live

end Ansfw.FilterLink
