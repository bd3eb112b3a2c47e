import Ndisrd.Lib.Acquisition
import Ndisrd.Ansfw.DriverEntry.Impl

/-!
This module contains the start-up of the firewall driver on both platforms with everything it acquires
and releases, and the calls to the system at which it can fail.
-/

namespace Ansfw.Unwinding

open Acquisition
open DriverEntry (Device Callout Worker Platform)

inductive Resource where
| fltFileObject
| filterCallbacks
| fwRequestsLookasideList
| netAddressesLookasideList
| pnpHandlers
| connectionsLookasideList
| thread (worker : Worker)
| targetFileObject (device : Device)
| filterDevice (device : Device)
| attachment (device : Device)
| wfpDevice
| bfeSubscription
| injectionHandle
| engine
| transaction
| callout (callout : Callout)
-- the provider, the sublayer, the callouts and the filters that a committed transaction has added
| engineObjects
deriving DecidableEq

/--
The calls that may fail. For those of the filtering platform that may find what they add already there,
this is taken for success, as the code has it.
-/
inductive Call where
| ioGetFltDeviceObjectPointer
| ioBuildDeviceIoControlRequest
| ioCallDriver
-- whether the table of functions has an entry for it
| hasRegisterCallbacks
| hasDeregisterCallbacks
| fltRegisterCallbacks
| psCreateSystemThread (worker : Worker)
| obReferenceObjectByHandle (worker : Worker)
| ioGetDeviceObjectPointer (device : Device)
| ioCreateDevice (device : Device)
| ioAttachDeviceToDeviceStack (device : Device)
| tdiRegisterPnPHandlers
| ioCreateWfpDevice
| fwpmBfeStateSubscribeChanges
| fwpsInjectionHandleCreate
| fwpmEngineOpen
| fwpmTransactionBegin
| fwpmProviderAdd
| fwpmSubLayerAdd
| fwpsCalloutRegister (callout : Callout)
| fwpmCalloutAdd (callout : Callout)
| fwpmFilterAdd (callout : Callout)
| fwpmTransactionCommit
-- the second one, of `UnregisterCallouts`
| fwpmEngineReopen

structure CurrState where
  trace : List (Effect Resource)
  tdiPNPHandler : Bool
  fltConnected : Bool
  hChanges : Bool
  threadObj : Worker → Bool

def CurrState.acquire (s : CurrState) (resource : Resource) : CurrState :=
  { s with trace := s.trace ++ [.acquire resource] }

def CurrState.release (s : CurrState) (resource : Resource) : CurrState :=
  { s with trace := s.trace ++ [.release resource] }

def initState : CurrState := ⟨[], false, false, false, fun _ => false⟩

section Steps

variable (answers : Call → Bool)

def obtainFilterFunctions (s : CurrState) : Bool × CurrState :=
  if !answers .ioGetFltDeviceObjectPointer then
    (false, s)
  else if !answers .ioBuildDeviceIoControlRequest then
    (false, (s.acquire .fltFileObject).release .fltFileObject)
  else
    (answers .ioCallDriver, (s.acquire .fltFileObject).release .fltFileObject)

def registerFilterCallbacks (s : CurrState) : Bool × CurrState :=
  let obtained := obtainFilterFunctions answers s
  if obtained.1 && answers .hasRegisterCallbacks then
    if answers .fltRegisterCallbacks then
      (true, { (obtained.2.acquire .filterCallbacks).acquire .fwRequestsLookasideList with
        fltConnected := true })
    else
      (false, obtained.2)
  else
    obtained

def deregisterFilterCallbacks (s : CurrState) : CurrState :=
  let s' := if s.fltConnected && answers .hasDeregisterCallbacks then s.release .filterCallbacks else s
  { s' with fltConnected := false }.release .fwRequestsLookasideList

def registerIpMonitor (s : CurrState) : Bool × CurrState :=
  let s := s.acquire .netAddressesLookasideList
  if answers .tdiRegisterPnPHandlers then
    (true, { s.acquire .pnpHandlers with tdiPNPHandler := true })
  else
    (false, s.release .netAddressesLookasideList)

def deregisterIpMonitor (s : CurrState) : CurrState :=
  let s' := if s.tdiPNPHandler then { s.release .pnpHandlers with tdiPNPHandler := false } else s
  s'.release .netAddressesLookasideList

/--
A thread of `InitializeReassembly`: an object that cannot be referenced is forgotten.
-/
def startThread (worker : Worker) (s : CurrState) : CurrState :=
  if answers (.psCreateSystemThread worker) then
    { s.acquire (.thread worker) with
      threadObj := Function.update s.threadObj worker (answers (.obReferenceObjectByHandle worker)) }
  else
    s

def initializeReassembly (s : CurrState) : CurrState :=
  startThread answers .ttlDecrement (startThread answers .intermed s)

/--
A thread is told to end in any case, and waited for if there is an object to wait for.
-/
def stopThread (worker : Worker) (s : CurrState) : CurrState :=
  if s.threadObj worker then
    { s.release (.thread worker) with threadObj := Function.update s.threadObj worker false }
  else
    s

def uninitializeReassembly (s : CurrState) : CurrState :=
  stopThread .intermed (stopThread .ttlDecrement s)

/--
A thread of `initAddrThread` or `tdiInitFirewall`: its object is referenced where it was not created.
-/
def startTdiThread (worker : Worker) (s : CurrState) : CurrState :=
  if answers (.psCreateSystemThread worker) then
    s.acquire (.thread worker)
  else
    { s with
      threadObj := Function.update s.threadObj worker (answers (.obReferenceObjectByHandle worker)) }

def initAddrThread (s : CurrState) : CurrState := startTdiThread answers .addr s

def tdiInitFirewall (s : CurrState) : CurrState := startTdiThread answers .fw s

def filterAttach (device : Device) (s : CurrState) : Bool × CurrState :=
  if !answers (.ioGetDeviceObjectPointer device) then
    (false, s)
  else
    let s := s.acquire (.targetFileObject device)
    if !answers (.ioCreateDevice device) then
      (false, s.release (.targetFileObject device))
    else
      let s := s.acquire (.filterDevice device)
      if !answers (.ioAttachDeviceToDeviceStack device) then
        (false, (s.release (.filterDevice device)).release (.targetFileObject device))
      else
        (true, s.acquire (.attachment device))

def attachToStack (s : CurrState) : Bool × CurrState :=
  let tcp := filterAttach answers .tcp s
  if !tcp.1 then
    tcp
  else
    let udp := filterAttach answers .udp tcp.2
    if !udp.1 then
      udp
    else
      (true, (filterAttach answers .rawIp (filterAttach answers .ip udp.2).2).2)

def initializeConnections (s : CurrState) : CurrState := s.acquire .connectionsLookasideList

def uninitializeConnections (s : CurrState) : CurrState := s.release .connectionsLookasideList

def registerCalloutForLayer (callout : Callout) (s : CurrState) : Bool × CurrState :=
  if !answers (.fwpsCalloutRegister callout) then
    (false, s)
  else if !answers (.fwpmCalloutAdd callout) then
    (false, s.acquire (.callout callout))
  else
    (answers (.fwpmFilterAdd callout), s.acquire (.callout callout))

def registerCalloutsForLayers : List Callout → CurrState → Bool × CurrState
  | [], s => (true, s)
  | callout :: callouts, s =>
    let registered := registerCalloutForLayer answers callout s
    if !registered.1 then registered else registerCalloutsForLayers callouts registered.2

def layers : List Callout := [.aleAuthConnect, .aleResourceAssignment, .aleFlowEstablished, .outboundTransport]

/--
Closing the engine ends a transaction that could not be committed.
-/
def registerCallouts (s : CurrState) : Bool × CurrState :=
  if !answers .fwpsInjectionHandleCreate then
    (false, s)
  else
    let s := s.acquire .injectionHandle
    if !answers .fwpmEngineOpen then
      (false, s.release .injectionHandle)
    else
      let s := s.acquire .engine
      if !answers .fwpmTransactionBegin then
        (false, (s.release .engine).release .injectionHandle)
      else
        let s := s.acquire .transaction
        if !answers .fwpmProviderAdd || !answers .fwpmSubLayerAdd then
          (false, ((s.release .transaction).release .engine).release .injectionHandle)
        else
          let registered := registerCalloutsForLayers answers layers s
          let s := registered.2.release .transaction
          if !registered.1 then
            (false, (s.release .engine).release .injectionHandle)
          else if answers .fwpmTransactionCommit then
            (true, (s.acquire .engineObjects).release .engine)
          else
            (false, s.release .engine)

def initializeWfpFilter (bfeRunning : Bool) (s : CurrState) : Bool × CurrState :=
  if !answers .ioCreateWfpDevice then
    (false, s)
  else
    let s := s.acquire .wfpDevice
    if bfeRunning then
      registerCallouts answers s
    else if answers .fwpmBfeStateSubscribeChanges then
      (true, { s.acquire .bfeSubscription with hChanges := true })
    else
      (false, s)

def unregisterCallouts (s : CurrState) : CurrState :=
  let s :=
    if answers .fwpmEngineReopen then
      ((s.acquire .engine).release .engineObjects).release .engine
    else
      s
  ((((s.release (.callout .aleFlowEstablished)).release (.callout .outboundTransport)).release
    (.callout .aleResourceAssignment)).release (.callout .aleAuthConnect)).release .injectionHandle

def uninitializeWfpFilter (s : CurrState) : CurrState :=
  let s := unregisterCallouts answers s
  let s := if s.hChanges then { s.release .bfeSubscription with hChanges := false } else s
  s.release .wfpDevice

def driverEntryNt : Bool × CurrState :=
  let registered := registerFilterCallbacks answers initState
  if !registered.1 then
    registered
  else
    let s := initializeReassembly answers registered.2
    let s := initAddrThread answers s
    let s := tdiInitFirewall answers s
    let attached := attachToStack answers s
    if !attached.1 then
      (false, deregisterFilterCallbacks answers (deregisterIpMonitor attached.2))
    else
      (true, (registerIpMonitor answers attached.2).2)

def driverEntryVista (bfeRunning : Bool) : Bool × CurrState :=
  let monitor := registerIpMonitor answers initState
  if !monitor.1 then
    monitor
  else
    let s := initializeConnections monitor.2
    let filter := initializeWfpFilter answers bfeRunning s
    if !filter.1 then
      (false, uninitializeConnections (deregisterIpMonitor filter.2))
    else
      let s := initializeReassembly answers filter.2
      let registered := registerFilterCallbacks answers s
      if !registered.1 then
        let s := uninitializeReassembly (deregisterIpMonitor registered.2)
        (false, uninitializeConnections (uninitializeWfpFilter answers s))
      else
        registered

def driverEntry : Platform → Bool × CurrState
  | .nt => driverEntryNt answers
  | .vista bfeRunning => driverEntryVista answers bfeRunning

end Steps

end Ansfw.Unwinding
