import Ndisrd.Lib.Memory
import Ndisrd.Shared.Basic

/-!
This module contains the requests of the NT driver: how `MPQueryInformation` and `MPSetInformation` pass
a request to the adapter below, and how `PtRequestComplete` completes it to the protocols above.
-/

namespace Ansfltr.Requests

def max8023Length : Nat := 1500

-- Nothing assigns the variable.
def gDwMTUDecrement : Nat := 0

def ndisStatusNotSupported : NtStatus := 0xC00000BB#32

def ndisStatusInvalidLength : NtStatus := 0xC0010014#32

inductive Oid where
  | genMaximumFrameSize
  | genMaximumTotalSize
  | genMacOptions
  | genSupportedGuids
  | tcpTaskOffload
  | pnpCapabilities
  | pnpSetPower
  | pnpQueryPower
  | currentAddress8023
  | other (oid : Nat)
  deriving DecidableEq

inductive RequestType where
  | queryInformation
  | setInformation
  deriving DecidableEq

/--
`NDIS_REQUEST`, of which `QUERY_INFORMATION` and `SET_INFORMATION` have one layout. `address` is where it
lies, and `informationBuffer` what its buffer holds.
-/
structure NdisRequest where
  address : Nat
  requestType : RequestType
  oid : Oid
  informationBuffer : Nat → UInt8
  informationBufferLength : Nat
  bytesDone : Nat
  bytesNeeded : Nat

namespace NdisRequest

def loadUshort (r : NdisRequest) : Nat := wordOfBytes (r.informationBuffer 0) (r.informationBuffer 1)

def loadUlong (r : NdisRequest) : Nat :=
  dwordOfBytes (r.informationBuffer 0) (r.informationBuffer 1) (r.informationBuffer 2)
    (r.informationBuffer 3)

def store (r : NdisRequest) (start : Nat) (l : List UInt8) : NdisRequest :=
  { r with informationBuffer := Memory.store r.informationBuffer start l }

def storeUshort (r : NdisRequest) (value : Nat) : NdisRequest :=
  r.store 0 [UInt8.ofNat value, UInt8.ofNat (value / 256)]

end NdisRequest

/-- `NDIS_DEVICE_POWER_STATE`. -/
abbrev DevicePowerState := Nat

def ndisDeviceStateUnspecified : DevicePowerState := 0

def ndisDeviceStateD0 : DevicePowerState := 1

/--
The fields of `ADAPT` that requests read. `internalRequest` has the addresses of the `m_NdisRequest` of
the entries of `m_InternalRequest`, and `bytesReadOrWritten` and `bytesNeeded` what lies where the two
pointers show.
-/
structure Adapt where
  internalRequest : List Nat
  currentAddress : List UInt8
  usMTU : Nat
  request : NdisRequest
  bytesNeeded : Nat
  bytesReadOrWritten : Nat
  outstandingRequests : Bool
  queuedRequest : Bool
  standingBy : Bool
  unbindingInProcess : Bool
  mpDeviceState : DevicePowerState
  ptDeviceState : DevicePowerState

-- What `PtBindAdapter` leaves: memory that is zeroed, and an empty list.
def ptBindAdapter (address : Nat) : Adapt where
  internalRequest := []
  currentAddress := List.replicate etherAddrLength 0
  usMTU := 0
  request := ⟨address, .queryInformation, .other 0, fun _ => 0, 0, 0, 0⟩
  bytesNeeded := 0
  bytesReadOrWritten := 0
  outstandingRequests := false
  queuedRequest := false
  standingBy := false
  unbindingInProcess := false
  mpDeviceState := ndisDeviceStateUnspecified
  ptDeviceState := ndisDeviceStateUnspecified

def mpInitialize (a : Adapt) : Adapt :=
  { a with mpDeviceState := ndisDeviceStateD0, ptDeviceState := ndisDeviceStateD0 }

/-! ### Completion -/

inductive RequestEffect where
  | freeRequest (address : Nat)
  | queryInformationComplete (ndisRequest : NdisRequest) (status : NtStatus)
  | setInformationComplete (status : NtStatus)

def rfFilterRequestCompleteHandler (a : Adapt) (ndisRequest : NdisRequest) : Adapt × NdisRequest :=
  match ndisRequest.oid with
  | .genMaximumFrameSize =>
    let mtu :=
      if ndisRequest.loadUshort > max8023Length then max8023Length else ndisRequest.loadUshort
    ({ a with usMTU := mtu }, ndisRequest.storeUshort (mtu - gDwMTUDecrement))
  | .genMaximumTotalSize =>
    let mtu := if ndisRequest.loadUshort > maxEtherSize then maxEtherSize else ndisRequest.loadUshort
    (a, ndisRequest.storeUshort (mtu - gDwMTUDecrement))
  | .currentAddress8023 =>
    ({ a with currentAddress := Memory.load ndisRequest.informationBuffer 0 etherAddrLength },
      ndisRequest)
  | _ => (a, ndisRequest)

-- The size of `NDIS_PNP_CAPABILITIES`: its flags, and the three states at 4, 8 and 12.
def ndisPnpCapabilitiesSize : Nat := 16

def mpQueryPNPCapabilities (a : Adapt) (ndisRequest : NdisRequest) : Adapt × NdisRequest × NtStatus :=
  if a.request.informationBufferLength ≥ ndisPnpCapabilitiesSize then
    ({ a with
        bytesReadOrWritten := ndisPnpCapabilitiesSize
        bytesNeeded := 0
        mpDeviceState := ndisDeviceStateD0
        ptDeviceState := ndisDeviceStateD0 },
      ndisRequest.store 4 (List.replicate 12 (UInt8.ofNat ndisDeviceStateUnspecified)),
      NtStatus.success)
  else
    ({ a with bytesNeeded := ndisPnpCapabilitiesSize }, ndisRequest, NtStatus.insufficientResources)

-- What `PtRequestComplete` does for `OID_PNP_CAPABILITIES`.
def pnpCapabilities (a : Adapt) (oid : Oid) (ndisRequest : NdisRequest) (status : NtStatus)
    : Adapt × NdisRequest × NtStatus :=
  if oid = .pnpCapabilities ∧ status = NtStatus.success then
    mpQueryPNPCapabilities a ndisRequest
  else
    (a, ndisRequest, status)

-- And for `OID_GEN_MAC_OPTIONS`: `NDIS_MAC_OPTION_NO_LOOPBACK` is a bit of the lowest byte.
def macOptions (oid : Oid) (ndisRequest : NdisRequest) (status : NtStatus) : NdisRequest :=
  if oid = .genMacOptions ∧ status = NtStatus.success then
    ndisRequest.store 0 [ndisRequest.informationBuffer 0 &&& 0xF7]
  else
    ndisRequest

/--
`PtRequestComplete` behind the search of `m_InternalRequest`.
-/
def completeRequest (a : Adapt) (ndisRequest : NdisRequest) (status : NtStatus)
    : Adapt × List RequestEffect :=
  let oid := a.request.oid
  let a := { a with outstandingRequests := false }
  match ndisRequest.requestType with
  | .queryInformation =>
    let (a, ndisRequest, status) := pnpCapabilities a oid ndisRequest status
    ({ a with
        bytesReadOrWritten := ndisRequest.bytesDone
        bytesNeeded := ndisRequest.bytesNeeded },
      [.queryInformationComplete (macOptions oid ndisRequest status) status])
  | .setInformation =>
    ({ a with
        bytesReadOrWritten := ndisRequest.bytesDone
        bytesNeeded := ndisRequest.bytesNeeded },
      [.setInformationComplete status])

def ptRequestComplete (a : Adapt) (ndisRequest : NdisRequest) (status : NtStatus)
    : Adapt × List RequestEffect :=
  if a.internalRequest ≠ [] then
    if ndisRequest.address ∈ a.internalRequest then
      ({ a with internalRequest := a.internalRequest.erase ndisRequest.address },
        [.freeRequest ndisRequest.address])
    else if status = NtStatus.success then
      let filtered := rfFilterRequestCompleteHandler a ndisRequest
      completeRequest filtered.1 filtered.2 status
    else
      completeRequest a ndisRequest status
  else
    completeRequest a ndisRequest status

/-! ### Requests from above -/

/--
What is left to do for a request: nothing, for it returned a status at once, to wait until the adapter
below is powered up, or `NdisRequest`.
-/
inductive Posting where
  | returned (status : NtStatus)
  | queued
  | ndisRequest

/--
The common end of `MPQueryInformation` and `MPSetInformation`.
-/
def postRequest (a : Adapt) (requestType : RequestType) (oid : Oid) (informationBuffer : Nat → UInt8)
    (informationBufferLength : Nat)
    : Adapt × Posting :=
  if a.unbindingInProcess then
    (a, .returned NtStatus.unsuccessful)
  else if a.mpDeviceState > ndisDeviceStateD0 then
    (a, .returned NtStatus.unsuccessful)
  else
    let a := { a with
      request := { a.request with
        requestType := requestType
        oid := oid
        informationBuffer := informationBuffer
        informationBufferLength := informationBufferLength } }
    if a.ptDeviceState > ndisDeviceStateD0 ∧ a.standingBy = false then
      ({ a with queuedRequest := true }, .queued)
    else if a.standingBy then
      (a, .returned NtStatus.unsuccessful)
    else
      ({ a with outstandingRequests := true }, .ndisRequest)

def mpQueryInformation (a : Adapt) (oid : Oid) (informationBuffer : Nat → UInt8)
    (informationBufferLength : Nat)
    : Adapt × Posting :=
  match oid with
  | .pnpQueryPower => (a, .returned NtStatus.success)
  | .genSupportedGuids => (a, .returned ndisStatusNotSupported)
  | .tcpTaskOffload => (a, .returned ndisStatusNotSupported)
  | oid => postRequest a .queryInformation oid informationBuffer informationBufferLength

def mpProcessSetPowerOid (a : Adapt) (informationBuffer : Nat → UInt8) (informationBufferLength : Nat)
    : Adapt × NtStatus :=
  if informationBufferLength < 4 then
    (a, ndisStatusInvalidLength)
  else
    let newDeviceState : DevicePowerState :=
      dwordOfBytes (informationBuffer 0) (informationBuffer 1) (informationBuffer 2)
        (informationBuffer 3)
    if a.mpDeviceState > ndisDeviceStateD0 ∧ newDeviceState ≠ ndisDeviceStateD0 then
      (a, NtStatus.unsuccessful)
    else
      let a :=
        if a.mpDeviceState = ndisDeviceStateD0 ∧ newDeviceState > ndisDeviceStateD0 then
          { a with standingBy := true }
        else a
      let a :=
        if a.mpDeviceState > ndisDeviceStateD0 ∧ newDeviceState = ndisDeviceStateD0 then
          { a with standingBy := false }
        else a
      ({ a with mpDeviceState := newDeviceState }, NtStatus.success)

/-- Nothing else of the adapter changes. -/
theorem mpProcessSetPowerOid_frame (a : Adapt) (informationBuffer : Nat → UInt8)
    (informationBufferLength : Nat)
    : ∃ mpDeviceState standingBy,
        (mpProcessSetPowerOid a informationBuffer informationBufferLength).1 =
          { a with mpDeviceState, standingBy } := by
  unfold mpProcessSetPowerOid
  split
  . exact ⟨_, _, rfl⟩
  . dsimp only
    split
    . exact ⟨_, _, rfl⟩
    . dsimp only
      split
      . split
        . exact ⟨_, _, rfl⟩
        . exact ⟨_, _, rfl⟩
      . split
        . exact ⟨_, _, rfl⟩
        . exact ⟨_, _, rfl⟩

def mpSetInformation (a : Adapt) (oid : Oid) (informationBuffer : Nat → UInt8)
    (informationBufferLength : Nat)
    : Adapt × Posting :=
  match oid with
  | .pnpSetPower =>
    let setPower := mpProcessSetPowerOid a informationBuffer informationBufferLength
    (setPower.1, .returned setPower.2)
  | oid => postRequest a .setInformation oid informationBuffer informationBufferLength

/-! ### Runs -/

/--
What the adapter below makes of a request: its status, and what it writes.
-/
structure Answer where
  status : NtStatus
  written : List UInt8
  bytesDone : Nat
  bytesNeeded : Nat

def NdisRequest.answer (r : NdisRequest) (answer : Answer) : NdisRequest :=
  { r.store 0 answer.written with bytesDone := answer.bytesDone, bytesNeeded := answer.bytesNeeded }

/--
A request that is done, as the adapter below answers it, or as it is completed to the protocols above.
-/
structure Report where
  request : NdisRequest
  status : NtStatus

/--
The adapter with its surroundings: whether the adapter below has the request, what it answered, and the
queries that were completed to the protocols above.
-/
structure Machine where
  adapt : Adapt
  posted : Bool
  answered : List Report
  completed : List Report

def start (address : Nat) : Machine := ⟨ptBindAdapter address, false, [], []⟩

def RequestEffect.reports : RequestEffect → List Report
  | .queryInformationComplete ndisRequest status => [⟨ndisRequest, status⟩]
  | _ => []

namespace Machine

def complete (m : Machine) (status : NtStatus) : Machine :=
  let completed := ptRequestComplete m.adapt m.adapt.request status
  { m with
    adapt := completed.1
    completed := m.completed ++ completed.2.flatMap RequestEffect.reports }

def answer (m : Machine) (answer : Answer) : Machine :=
  let request := m.adapt.request.answer answer
  { m with
    adapt := { m.adapt with request := request }
    posted := false
    answered := m.answered ++ [⟨request, answer.status⟩] }

-- `NdisRequest` with `PtRequestComplete` behind it, where `none` stands for `NDIS_STATUS_PENDING`.
def ndisRequest (m : Machine) : Option Answer → Machine
  | none => { m with posted := true }
  | some answer => (m.answer answer).complete answer.status

def failQueued (m : Machine) : Machine :=
  if m.adapt.queuedRequest then
    complete { m with adapt := { m.adapt with queuedRequest := false } } NtStatus.unsuccessful
  else m

end Machine

inductive Event where
  | mpInitialize
  | mpQueryInformation (oid : Oid) (informationBuffer : Nat → UInt8) (informationBufferLength : Nat)
    (answer : Option Answer)
  | mpSetInformation (oid : Oid) (informationBuffer : Nat → UInt8) (informationBufferLength : Nat)
    (answer : Option Answer)
  | ptRequestComplete (answer : Answer)
  | ptUnbindAdapter
  | ptPnPNetEventSetPower (deviceState : DevicePowerState) (answer : Option Answer)
  | noOutstandingRequests

/--
`PtPnPNetEventSetPower`, up to where it waits for the outstanding requests if the adapter below goes to
a low power state.
-/
def ptPnPNetEventSetPower (m : Machine) (deviceState : DevicePowerState) (answer : Option Answer)
    : Machine :=
  let prevDeviceState := m.adapt.ptDeviceState
  let a := { m.adapt with ptDeviceState := deviceState }
  if deviceState > ndisDeviceStateD0 then
    let standingBy := if prevDeviceState = ndisDeviceStateD0 then true else a.standingBy
    { m with adapt := { a with standingBy := standingBy } }
  else
    let standingBy := if prevDeviceState > ndisDeviceStateD0 then false else a.standingBy
    let a := { a with standingBy := standingBy }
    if a.queuedRequest then
      Machine.ndisRequest
        { m with adapt := { a with queuedRequest := false, outstandingRequests := true } } answer
    else
      { m with adapt := a }

def step (m : Machine) : Event → Machine
  | .mpInitialize => { m with adapt := mpInitialize m.adapt }
  | .mpQueryInformation oid informationBuffer informationBufferLength answer =>
    let posting := mpQueryInformation m.adapt oid informationBuffer informationBufferLength
    let m := { m with adapt := posting.1 }
    match posting.2 with
    | .ndisRequest => m.ndisRequest answer
    | _ => m
  | .mpSetInformation oid informationBuffer informationBufferLength answer =>
    let posting := mpSetInformation m.adapt oid informationBuffer informationBufferLength
    let m := { m with adapt := posting.1 }
    match posting.2, answer with
    | .ndisRequest, none => { m with posted := true }
    | .ndisRequest, some answer =>
      let m := m.answer answer
      { m with adapt := { m.adapt with
          bytesReadOrWritten := m.adapt.request.bytesDone
          bytesNeeded := m.adapt.request.bytesNeeded
          outstandingRequests := false } }
    | _, _ => m
  | .ptRequestComplete answer =>
    if m.posted then (m.answer answer).complete answer.status else m
  | .ptUnbindAdapter =>
    Machine.failQueued { m with adapt := { m.adapt with unbindingInProcess := true } }
  | .ptPnPNetEventSetPower deviceState answer => ptPnPNetEventSetPower m deviceState answer
  | .noOutstandingRequests => m.failQueued

end Ansfltr.Requests
