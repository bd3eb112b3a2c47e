import Ndisrd.Ansfltr.Requests.Impl
import Ndisrd.Lib.Run

/-!
This module contains the status indications of the NT driver: what `PtStatus` passes up or keeps back while
an edge of the adapter is powered down, and what `MPProcessSetPowerOid` makes up for.
-/

namespace Ansfltr.MediaStatus

open Requests

def ndisStatusWanLineUp : NtStatus := 0x40010008#32

def ndisStatusWanLineDown : NtStatus := 0x40010009#32

def ndisStatusMediaConnect : NtStatus := 0x4001000B#32

def ndisStatusMediaDisconnect : NtStatus := 0x4001000C#32

def IsMedia (generalStatus : NtStatus) : Prop :=
  generalStatus = ndisStatusMediaConnect ∨ generalStatus = ndisStatusMediaDisconnect

instance (generalStatus : NtStatus) : Decidable (IsMedia generalStatus) :=
  inferInstanceAs (Decidable (_ ∨ _))

/--
`NDIS_WAN_LINE_UP`. `networkMask` and `ip` are the second and third `ULONG` of its protocol buffer.
-/
structure LineUp where
  linkSpeed : Nat
  maximumTotalSize : Nat
  remoteAddress : List UInt8
  localAddress : List UInt8
  networkMask : Nat
  ip : Nat

/--
The fields of `ADAPT` that indications use, with those of the requests.
-/
structure Adapt extends Requests.Adapt where
  miniportHandle : Bool
  lastIndicatedStatus : NtStatus
  latestUnIndicateStatus : NtStatus
  remoteAddress : List UInt8
  localAddress : List UInt8
  linkSpeed : Nat
  lastIndicatedNetworkMask : Nat
  lastIndicatedIP : Nat

-- What `PtBindAdapter` leaves of them.
def ptBindAdapter (address : Nat) : Adapt where
  toAdapt := Requests.ptBindAdapter address
  miniportHandle := false
  lastIndicatedStatus := 0
  latestUnIndicateStatus := 0
  remoteAddress := List.replicate etherAddrLength 0
  localAddress := List.replicate etherAddrLength 0
  linkSpeed := 0
  lastIndicatedNetworkMask := 0
  lastIndicatedIP := 0

def mpInitialize (a : Adapt) : Adapt :=
  { a with
    toAdapt := Requests.mpInitialize a.toAdapt
    miniportHandle := true
    lastIndicatedStatus := ndisStatusMediaConnect }

/-- A call of `NdisMIndicateStatus`, with the record if it is one of a line. -/
structure Indication where
  generalStatus : NtStatus
  lineUp : Option LineUp

-- The fields that come with a line. `none` stands for the status buffer of any other status.
def lineStatus (a : Adapt) (generalStatus : NtStatus) : Option LineUp → Adapt × Option LineUp
  | some lineUp =>
    if generalStatus = ndisStatusWanLineUp then
      ({ a with
          remoteAddress := lineUp.remoteAddress
          linkSpeed := lineUp.linkSpeed
          lastIndicatedNetworkMask := lineUp.networkMask
          lastIndicatedIP := lineUp.ip
          usMTU := lineUp.maximumTotalSize % 0x10000 },
        some { lineUp with maximumTotalSize := lineUp.maximumTotalSize - gDwMTUDecrement })
    else
      (a, some lineUp)
  | none =>
    if generalStatus = ndisStatusWanLineDown then
      ({ a with
          remoteAddress := List.replicate etherAddrLength 0
          localAddress := List.replicate etherAddrLength 0
          lastIndicatedIP := 0
          lastIndicatedNetworkMask := 0 },
        none)
    else
      (a, none)

-- The local address is taken from a line that is passed up.
def takeLocalAddress (a : Adapt) (generalStatus : NtStatus) : Option LineUp → Adapt
  | some lineUp =>
    if generalStatus = ndisStatusWanLineUp then { a with localAddress := lineUp.localAddress } else a
  | none => a

def Adapt.On (a : Adapt) : Prop :=
  a.miniportHandle = true ∧ a.mpDeviceState = ndisDeviceStateD0 ∧ a.ptDeviceState = ndisDeviceStateD0

instance (a : Adapt) : Decidable a.On := inferInstanceAs (Decidable (_ ∧ _ ∧ _))

def ptStatus (a : Adapt) (generalStatus : NtStatus) (statusBuffer : Option LineUp)
    : Adapt × List Indication :=
  let (a, statusBuffer) := lineStatus a generalStatus statusBuffer
  if a.On then
    let a := if IsMedia generalStatus then { a with lastIndicatedStatus := generalStatus } else a
    (takeLocalAddress a generalStatus statusBuffer, [⟨generalStatus, statusBuffer⟩])
  else if a.miniportHandle ∧ IsMedia generalStatus then
    ({ a with latestUnIndicateStatus := generalStatus }, [])
  else
    (a, [])

/--
`OID_PNP_SET_POWER` is the part of the requests, followed by what was not indicated.
-/
def mpProcessSetPowerOid (a : Adapt) (informationBuffer : Nat → UInt8) (informationBufferLength : Nat)
    : Adapt × List Indication × NtStatus :=
  let setPower := Requests.mpProcessSetPowerOid a.toAdapt informationBuffer informationBufferLength
  let a := { a with toAdapt := setPower.1 }
  if setPower.2 = NtStatus.success then
    if a.standingBy = false then
      if a.lastIndicatedStatus ≠ a.latestUnIndicateStatus then
        ({ a with lastIndicatedStatus := a.latestUnIndicateStatus },
          [⟨a.latestUnIndicateStatus, none⟩], setPower.2)
      else
        (a, [], setPower.2)
    else
      ({ a with latestUnIndicateStatus := a.lastIndicatedStatus }, [], setPower.2)
  else
    (a, [], setPower.2)

-- The state of the lower edge in `PtPnPNetEventSetPower`.
def setPowerState (a : Adapt) (deviceState : DevicePowerState) : Adapt :=
  let prevDeviceState := a.ptDeviceState
  let standingBy :=
    if deviceState > ndisDeviceStateD0 then
      if prevDeviceState = ndisDeviceStateD0 then true else a.standingBy
    else
      if prevDeviceState > ndisDeviceStateD0 then false else a.standingBy
  { a with ptDeviceState := deviceState, standingBy := standingBy }

-- `OID_PNP_CAPABILITIES`, which is refused while the upper edge is powered down.
def queryPnpCapabilities (a : Adapt) (ndisRequest : NdisRequest) : Adapt :=
  if a.mpDeviceState > ndisDeviceStateD0 then a
  else { a with toAdapt := (mpQueryPNPCapabilities a.toAdapt ndisRequest).1 }

/-! ### Runs -/

/--
The adapter, what the protocols above were told, and the last media status of the adapter below.
-/
structure State where
  adapt : Adapt
  indicated : List Indication
  media : NtStatus

inductive Event where
  | mpInitialize
  | status (generalStatus : NtStatus) (statusBuffer : Option LineUp)
  | setPowerOid (informationBuffer : Nat → UInt8) (informationBufferLength : Nat)
  | setPower (deviceState : DevicePowerState)
  | queryPnpCapabilities (ndisRequest : NdisRequest)

def init (address : Nat) : State := ⟨ptBindAdapter address, [], ndisStatusMediaConnect⟩

def step (s : State) : Event → State
  | .mpInitialize => { s with adapt := mpInitialize s.adapt }
  | .status generalStatus statusBuffer =>
    let status := ptStatus s.adapt generalStatus statusBuffer
    { adapt := status.1
      indicated := s.indicated ++ status.2
      media := if IsMedia generalStatus then generalStatus else s.media }
  | .setPowerOid informationBuffer informationBufferLength =>
    let setPower := mpProcessSetPowerOid s.adapt informationBuffer informationBufferLength
    { s with adapt := setPower.1, indicated := s.indicated ++ setPower.2.1 }
  | .setPower deviceState => { s with adapt := setPowerState s.adapt deviceState }
  | .queryPnpCapabilities ndisRequest => { s with adapt := queryPnpCapabilities s.adapt ndisRequest }

end Ansfltr.MediaStatus
