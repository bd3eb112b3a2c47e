import Mathlib.Logic.Function.Basic
import Ndisrd.Shared.Basic
import Ndisrd.Lib.Run

/-!
This module contains the control device of the NT filter: `PtRegisterDevice` and `PtDeregisterDevice` of
`nt/ndisrd.c`, called by the threads that initialise and halt the miniport instances. One step is one hold
of `GlobalLock`, or one access to the device between two holds.
-/

namespace Ansfltr.ControlDevice

inductive DeviceState where
  | ready
  | creating
  | deleting
  deriving DecidableEq, Repr

/--
Where the calls for an instance stand. An instance that is halted may be initialised again.
-/
inductive Pc where
  | absent
  -- `PtRegisterDevice`
  | waitReady
  | ndisMRegisterDevice
  | endCreating
  | running
  -- `PtDeregisterDevice`
  | testHandle
  | ndisMDeregisterDevice (ndisDeviceHandle : Nat)
  | clearHandle
  | endDeleting
  deriving DecidableEq, Repr

/--
`devices` are the device objects that NDIS has made of calls of `NdisMRegisterDevice` and not deleted.
-/
structure State where
  miniportCount : Nat
  controlDeviceState : DeviceState
  ndisDeviceHandle : Option Nat
  devices : List Nat
  pc : Nat → Pc

def init : State where
  miniportCount := 0
  controlDeviceState := .ready
  ndisDeviceHandle := none
  devices := []
  pc _ := .absent

namespace State

variable (s : State)

def goto (t : Nat) (pc : Pc) : State := { s with pc := Function.update s.pc t pc }

end State

variable (s : State) (t : Nat)

-- The test of the loop, and what follows it in the same hold.
def awaitReady : State :=
  if s.controlDeviceState ≠ .ready then
    s.goto t .waitReady
  else
    { s with controlDeviceState := .creating }.goto t .ndisMRegisterDevice

def ptRegisterDevice : State :=
  let s := { s with miniportCount := s.miniportCount + 1 }
  if 1 = s.miniportCount then
    awaitReady s t
  else
    s.goto t .running

-- `device` is the handle of the new device, if NDIS makes one.
def ndisMRegisterDevice (device : Option Nat) : State :=
  match device with
  | some device =>
    { s with ndisDeviceHandle := some device, devices := device :: s.devices }.goto t .endCreating
  | none => s.goto t .endCreating

def endCreating : State := { s with controlDeviceState := .ready }.goto t .running

def ptDeregisterDevice : State :=
  let s := { s with miniportCount := s.miniportCount - 1 }
  if 0 = s.miniportCount then
    { s with controlDeviceState := .deleting }.goto t .testHandle
  else
    s.goto t .absent

def testHandle : State :=
  match s.ndisDeviceHandle with
  | some ndisDeviceHandle => s.goto t (.ndisMDeregisterDevice ndisDeviceHandle)
  | none => s.goto t .endDeleting

def ndisMDeregisterDevice (ndisDeviceHandle : Nat) : State :=
  { s with devices := s.devices.erase ndisDeviceHandle }.goto t .clearHandle

def clearHandle : State := { s with ndisDeviceHandle := none }.goto t .endDeleting

def endDeleting : State := { s with controlDeviceState := .ready }.goto t .absent

/--
A thread takes its next step. Only `NdisMRegisterDevice` has an outcome.
-/
structure Event where
  thread : Nat
  device : Option Nat

def step (s : State) (e : Event) : State :=
  match s.pc e.thread with
  | .absent => ptRegisterDevice s e.thread
  | .waitReady => awaitReady s e.thread
  | .ndisMRegisterDevice => ndisMRegisterDevice s e.thread e.device
  | .endCreating => endCreating s e.thread
  | .running => ptDeregisterDevice s e.thread
  | .testHandle => testHandle s e.thread
  | .ndisMDeregisterDevice ndisDeviceHandle => ndisMDeregisterDevice s e.thread ndisDeviceHandle
  | .clearHandle => clearHandle s e.thread
  | .endDeleting => endDeleting s e.thread

end Ansfltr.ControlDevice
