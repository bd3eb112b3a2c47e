import Ndisrd.Lib.Run
import Ndisrd.Ansfltr.Requests.Impl

/-!
This module contains the threads between which a request of the NT driver is handed over: the call of
`MPQueryInformation` or `MPSetInformation`, the adapter below, `PtPnPNetEventSetPower` and
`PtUnbindAdapter`. One step is one hold of the lock of the adapter, or what lies between two holds.
-/

namespace Ansfltr.Requests.Threads

/--
The arguments of `MPQueryInformation` or `MPSetInformation`.
-/
structure Call where
  requestType : RequestType
  oid : Oid
  informationBuffer : Nat → UInt8
  informationBufferLength : Nat

/--
A call of `PtRequestComplete`, before it clears `OutstandingRequests` or behind it.
-/
inductive CompletePc where
  | clearOutstanding (status : NtStatus)
  | complete (status : NtStatus)

inductive HandlerPc where
  | idle
  | testOid (call : Call)
  | testUnbinding (call : Call)
  | fillRequest (call : Call)
  | postRequest (call : Call)
  | ndisRequest
  | ptRequestComplete (pc : CompletePc)
  | endSet (status : NtStatus)

inductive LowerPc where
  | idle
  | ptRequestComplete (pc : CompletePc)

inductive PowerPc where
  | idle
  | setState (prevDeviceState deviceState : DevicePowerState)
  | waitOutstanding
  | takeQueued
  | ndisRequest
  | ptRequestComplete (pc : CompletePc)

inductive UnbindPc where
  | idle
  | ptRequestComplete (pc : CompletePc)
  | closing

/--
`awaiting` is the request that NDIS has given to the miniport and that is not done, `posted` how many
requests the adapter below has, and `faulty` tells that NDIS was given an answer it did not wait for.
-/
structure State where
  adapt : Adapt
  awaiting : Option RequestType
  faulty : Bool
  posted : Nat
  handler : HandlerPc
  lower : LowerPc
  power : PowerPc
  unbind : UnbindPc

def init (address : Nat) : State where
  adapt := mpInitialize (ptBindAdapter address)
  awaiting := none
  faulty := false
  posted := 0
  handler := .idle
  lower := .idle
  power := .idle
  unbind := .idle

/-! ### `PtRequestComplete` -/

/--
Up to where `OutstandingRequests` is cleared. The request is gone if it was an internal one.
-/
def clearOutstanding (a : Adapt) (status : NtStatus) : Adapt × Bool :=
  if a.internalRequest ≠ [] then
    if a.request.address ∈ a.internalRequest then
      ({ a with internalRequest := a.internalRequest.erase a.request.address }, false)
    else if status = NtStatus.success then
      let filtered := rfFilterRequestCompleteHandler a a.request
      ({ filtered.1 with request := filtered.2, outstandingRequests := false }, true)
    else
      ({ a with outstandingRequests := false }, true)
  else
    ({ a with outstandingRequests := false }, true)

-- The rest of it, which leaves `OutstandingRequests` alone.
def complete (a : Adapt) (status : NtStatus) : Adapt × List RequestEffect :=
  let completed := completeRequest a a.request status
  ({ completed.1 with outstandingRequests := a.outstandingRequests }, completed.2)

namespace State

variable (s : State)

-- An answer to NDIS, by a return or by a call.
def done (requestType : RequestType) : State :=
  if s.awaiting = some requestType then
    { s with awaiting := none }
  else
    { s with faulty := true }

def effect (s : State) : RequestEffect → State
  | .freeRequest _ => s
  | .queryInformationComplete _ _ => s.done .queryInformation
  | .setInformationComplete _ => s.done .setInformation

def ptRequestComplete : CompletePc → State × Option CompletePc
  | .clearOutstanding status =>
    let cleared := clearOutstanding s.adapt status
    ({ s with adapt := cleared.1 }, if cleared.2 then some (.complete status) else none)
  | .complete status =>
    let completed := complete s.adapt status
    (completed.2.foldl effect { s with adapt := completed.1 }, none)

end State

/-! ### The handlers -/

variable (s : State)

def testOid (call : Call) : State :=
  match call.requestType, call.oid with
  | .queryInformation, .pnpQueryPower => { s with handler := .idle }.done call.requestType
  | .queryInformation, .genSupportedGuids => { s with handler := .idle }.done call.requestType
  | .queryInformation, .tcpTaskOffload => { s with handler := .idle }.done call.requestType
  | .setInformation, .pnpSetPower =>
    let setPower := mpProcessSetPowerOid s.adapt call.informationBuffer call.informationBufferLength
    { s with adapt := setPower.1, handler := .idle }.done call.requestType
  | _, _ => { s with handler := .testUnbinding call }

def testUnbinding (call : Call) : State :=
  if s.adapt.unbindingInProcess then
    { s with handler := .idle }.done call.requestType
  else
    { s with handler := .fillRequest call }

def fillRequest (call : Call) : State :=
  if s.adapt.mpDeviceState > ndisDeviceStateD0 then
    { s with handler := .idle }.done call.requestType
  else
    { s with
      adapt := { s.adapt with
        request := { s.adapt.request with
          requestType := call.requestType
          oid := call.oid
          informationBuffer := call.informationBuffer
          informationBufferLength := call.informationBufferLength } }
      handler := .postRequest call }

def postRequest (call : Call) : State :=
  if s.adapt.unbindingInProcess then
    { s with handler := .idle }.done call.requestType
  else if s.adapt.ptDeviceState > ndisDeviceStateD0 ∧ s.adapt.standingBy = false then
    { s with adapt := { s.adapt with queuedRequest := true }, handler := .idle }
  else if s.adapt.standingBy then
    { s with handler := .idle }.done call.requestType
  else
    { s with adapt := { s.adapt with outstandingRequests := true }, handler := .ndisRequest }

-- `none` stands for `NDIS_STATUS_PENDING`.
def handlerNdisRequest : Option Answer → State
  | none => { s with posted := s.posted + 1, handler := .idle }
  | some answer =>
    let adapt := { s.adapt with request := s.adapt.request.answer answer }
    match s.adapt.request.requestType with
    | .queryInformation =>
      { s with adapt := adapt, handler := .ptRequestComplete (.clearOutstanding answer.status) }
    | .setInformation => { s with adapt := adapt, handler := .endSet answer.status }

def endSet : State :=
  { s with
    adapt := { s.adapt with
      bytesReadOrWritten := s.adapt.request.bytesDone
      bytesNeeded := s.adapt.request.bytesNeeded
      outstandingRequests := false }
    handler := .idle }.done .setInformation

def handlerStep (answer : Option Answer) : State :=
  match s.handler with
  | .idle => s
  | .testOid call => testOid s call
  | .testUnbinding call => testUnbinding s call
  | .fillRequest call => fillRequest s call
  | .postRequest call => postRequest s call
  | .ndisRequest => handlerNdisRequest s answer
  | .ptRequestComplete pc =>
    let completed := s.ptRequestComplete pc
    { completed.1 with handler := completed.2.elim .idle .ptRequestComplete }
  | .endSet _ => endSet s

/-! ### The other threads -/

-- The adapter below is done with a request it has.
def lowerAnswer (answer : Answer) : State :=
  match s.lower, s.posted with
  | .idle, posted + 1 =>
    { s with
      adapt := { s.adapt with request := s.adapt.request.answer answer }
      posted := posted
      lower := .ptRequestComplete (.clearOutstanding answer.status) }
  | _, _ => s

def lowerStep : State :=
  match s.lower with
  | .idle => s
  | .ptRequestComplete pc =>
    let completed := s.ptRequestComplete pc
    { completed.1 with lower := completed.2.elim .idle .ptRequestComplete }

def setState (prevDeviceState deviceState : DevicePowerState) : State :=
  let a := { s.adapt with ptDeviceState := deviceState }
  if deviceState > ndisDeviceStateD0 then
    let standingBy := if prevDeviceState = ndisDeviceStateD0 then true else a.standingBy
    { s with adapt := { a with standingBy := standingBy }, power := .waitOutstanding }
  else
    let standingBy := if prevDeviceState > ndisDeviceStateD0 then false else a.standingBy
    if a.queuedRequest then
      { s with
        adapt := { a with standingBy := standingBy, queuedRequest := false, outstandingRequests := true }
        power := .ndisRequest }
    else
      { s with adapt := { a with standingBy := standingBy }, power := .idle }

def takeQueued : State :=
  if s.adapt.queuedRequest then
    { s with
      adapt := { s.adapt with queuedRequest := false }
      power := .ptRequestComplete (.clearOutstanding NtStatus.unsuccessful) }
  else
    { s with power := .idle }

def powerNdisRequest : Option Answer → State
  | none => { s with posted := s.posted + 1, power := .idle }
  | some answer =>
    { s with
      adapt := { s.adapt with request := s.adapt.request.answer answer }
      power := .ptRequestComplete (.clearOutstanding answer.status) }

def powerStep (answer : Option Answer) : State :=
  match s.power with
  | .idle => s
  | .setState prevDeviceState deviceState => setState s prevDeviceState deviceState
  | .waitOutstanding => if s.adapt.outstandingRequests then s else { s with power := .takeQueued }
  | .takeQueued => takeQueued s
  | .ndisRequest => powerNdisRequest s answer
  | .ptRequestComplete pc =>
    let completed := s.ptRequestComplete pc
    { completed.1 with power := completed.2.elim .idle .ptRequestComplete }

-- The first hold of `PtUnbindAdapter`.
def ptUnbindAdapter : State :=
  let a := { s.adapt with unbindingInProcess := true }
  if a.queuedRequest then
    { s with
      adapt := { a with queuedRequest := false }
      unbind := .ptRequestComplete (.clearOutstanding NtStatus.unsuccessful) }
  else
    { s with adapt := a, unbind := .closing }

def unbindStep : State :=
  match s.unbind with
  | .idle => ptUnbindAdapter s
  | .ptRequestComplete pc =>
    let completed := s.ptRequestComplete pc
    { completed.1 with unbind := completed.2.elim .closing .ptRequestComplete }
  | .closing => s

/-! ### Runs -/

inductive Event where
  -- NDIS gives the next request when the last one is done
  | request (call : Call)
  | handler (answer : Option Answer)
  | lowerAnswer (answer : Answer)
  | lower
  -- NDIS notifies of one power event at a time
  | setPower (deviceState : DevicePowerState)
  | power (answer : Option Answer)
  | unbind

def step (s : State) : Event → State
  | .request call =>
    match s.awaiting, s.handler with
    | none, .idle => { s with awaiting := some call.requestType, handler := .testOid call }
    | _, _ => s
  | .handler answer => handlerStep s answer
  | .lowerAnswer answer => lowerAnswer s answer
  | .lower => lowerStep s
  | .setPower deviceState =>
    match s.power with
    | .idle => { s with power := .setState s.adapt.ptDeviceState deviceState }
    | _ => s
  | .power answer => powerStep s answer
  | .unbind => unbindStep s

end Ansfltr.Requests.Threads
