import Ndisrd.Lib.Startup

/-!
This module contains the start-up of the firewall driver on both platforms, in the order of its
statements, and the lists, queues and lookaside lists that each of its handlers uses.
-/

namespace Ansfw.DriverEntry

open Startup (Act)

inductive Device where
| tcp
| udp
| ip
| rawIp
deriving DecidableEq

inductive Callout where
| aleAuthConnect
| aleResourceAssignment
| aleFlowEstablished
| outboundTransport
deriving DecidableEq

inductive Worker where
| intermed
| ttlDecrement
| addr
| fw
deriving DecidableEq

inductive Fact where
-- lists, queues and lookaside lists that are initialised
| fwRequestsLookasideList
| fwInstancesList
| freeDatagramWorkBufList
| datagrQueue
| intermedQueue
| connectionsList
| connectionsLookasideList
| freeAddrList
| openAddrList
| pendingAddrList
| tcpAddrList
| pendingRequestList
| freeRequestList
| netAddressesLookasideList
| netAddressesList
-- what is registered, attached or created, and may call from then on
| filterCallbacks
| pnpHandlers
| bfeCallback
| callout (callout : Callout)
| attached (device : Device)
| thread (worker : Worker)
-- what calls leave behind for others: a client in the list, a fragment in the queue
| client
| fragment
deriving DecidableEq

inductive Platform where
| nt
| vista (bfeRunning : Bool)
deriving DecidableEq

def uses (facts : List Fact) : List (Act Fact) := facts.map .use

def establishes (facts : List Fact) : List (Act Fact) := facts.map .establish

def registerFilterCallbacks : List Fact := [.filterCallbacks, .fwRequestsLookasideList, .fwInstancesList]

def initializeReassembly : List Fact :=
  [.freeDatagramWorkBufList, .datagrQueue, .intermedQueue, .thread .intermed, .thread .ttlDecrement]

def initLists : List Fact := [.freeAddrList, .openAddrList, .pendingAddrList, .tcpAddrList]

def initAddrThread : List Fact := [.thread .addr]

def tdiInitFirewall : List Fact := [.pendingRequestList, .freeRequestList, .thread .fw]

def attachToStack : List Fact := [.attached .tcp, .attached .udp, .attached .ip, .attached .rawIp]

def registerIpMonitor : List Fact := [.netAddressesLookasideList, .netAddressesList, .pnpHandlers]

def initializeConnections : List Fact := [.connectionsList, .connectionsLookasideList]

def registerCallouts : List Fact :=
  [.callout .aleAuthConnect, .callout .aleResourceAssignment, .callout .aleFlowEstablished,
    .callout .outboundTransport]

def initializeWfpFilter (bfeRunning : Bool) : List Fact :=
  if bfeRunning then registerCallouts else [.bfeCallback]

def driverEntry : Platform → List (Act Fact)
  | .nt => establishes <|
    registerFilterCallbacks ++ initializeReassembly ++ initLists ++ initAddrThread ++ tdiInitFirewall ++
      attachToStack ++ registerIpMonitor
  | .vista bfeRunning => establishes <|
    registerIpMonitor ++ initializeConnections ++ initializeWfpFilter bfeRunning ++
      initializeReassembly ++ registerFilterCallbacks

def isLoopback (addr : ℕ) : Bool := addr &&& 0x000000ff = 0x0000007f

def isLocalAddress (addr : ℕ) : List Fact := if isLoopback addr then [] else [.netAddressesList]

/--
A packet with what `RequestCallback` finds on its way: whether a client is connected and the allocation
succeeds, whether it is an inbound IP packet that passes `ruleValidateIP`, and an inbound fragment.
-/
structure Packet where
  connected : Bool
  allocated : Bool
  inboundIp : Bool
  destAddr : ℕ
  fragment : Bool

def initPacketHeaders (packet : Packet) : List Fact :=
  if packet.inboundIp then isLocalAddress packet.destAddr else []

def getPidFromLocalInfo : Platform → Fact
  | .nt => .openAddrList
  | .vista _ => .connectionsList

def reassemblePacket : List (Act Fact) := [.use .intermedQueue, .establish .fragment]

def processRequest : List Fact := [.fwInstancesList]

def fwFreeCloneRequest : List Fact := [.fwRequestsLookasideList]

def requestCallback (platform : Platform) (packet : Packet) : List (Act Fact) :=
  if !packet.connected then
    uses [.fwInstancesList]
  else if !packet.allocated then
    uses [.fwInstancesList, .fwRequestsLookasideList]
  else
    uses ([.fwInstancesList, .fwRequestsLookasideList] ++ initPacketHeaders packet ++
        [getPidFromLocalInfo platform]) ++
      if packet.fragment then
        reassemblePacket
      else
        uses (processRequest ++ fwFreeCloneRequest)

def fwRegisterRequestCallback (allocated : Bool) : List (Act Fact) :=
  if allocated then [.use .fwInstancesList, .establish .client] else []

inductive TdiRoutine where
| openAddress
| closeAddress
| openConnection
| closeConnection
| associateAddress
| disAssociateAddress
| listen
| setEvent
| ipDispatch
deriving DecidableEq

/--
The lists that a routine and its completion routine go through.
-/
def TdiRoutine.touches : TdiRoutine → List Fact
  | .openAddress => [.freeAddrList, .openAddrList, .pendingAddrList]
  | .closeAddress => [.openAddrList, .pendingAddrList, .freeAddrList]
  | .openConnection => [.freeAddrList, .tcpAddrList]
  | .closeConnection => [.tcpAddrList, .freeAddrList]
  | .associateAddress => [.openAddrList, .tcpAddrList]
  | .disAssociateAddress => [.tcpAddrList]
  | .listen => [.tcpAddrList, .openAddrList, .pendingAddrList]
  | .setEvent => [.openAddrList, .pendingAddrList]
  | .ipDispatch => [.openAddrList, .freeAddrList]

inductive SendRoutine where
| connect
| udpSendDatagram
deriving DecidableEq

/--
The lists that a routine goes through behind `IsLocalAddress`, its completion routines included.
-/
def SendRoutine.touches : SendRoutine → List Fact
  | .connect =>
    [.freeRequestList, .pendingRequestList, .tcpAddrList, .openAddrList, .freeAddrList, .pendingAddrList]
  | .udpSendDatagram => [.freeRequestList, .pendingRequestList]

/--
A connect or send request: whether its stack is bogus, whether its file object is a connection with an
address object, the process of the address object (0 when there is none), and where it goes.
-/
structure TdiSend where
  bogusStack : Bool
  ofConnection : Bool
  pid : ℕ
  destAddr : ℕ

def TdiSend.asksForAddress (send : TdiSend) : Bool := !send.bogusStack && send.pid != 0

def tdiSend (send : TdiSend) (used : List Fact) : List Fact :=
  if send.bogusStack then
    []
  else
    [.tcpAddrList] ++ (if send.ofConnection then [] else [.openAddrList]) ++
      (if send.pid != 0 then isLocalAddress send.destAddr else []) ++ used

def addConnection (updated : Bool) : List Fact :=
  if updated then [.connectionsList] else [.connectionsList, .connectionsLookasideList]

def getConnection : List Fact := [.connectionsList]

def removeConnection (found : Bool) : List Fact :=
  if found then [.connectionsList, .connectionsLookasideList] else [.connectionsList]

/--
A packet with what `OutboundTransportV4Classify` finds on its way: whether it is blocked for good, was
injected by the driver itself, goes to an address of the list, and whether the allocations succeed.
-/
structure OutboundPacket where
  blocked : Bool
  injectedBySelf : Bool
  remoteAddr : ℕ
  listed : Bool
  allocated : Bool

def OutboundPacket.goesOn (packet : OutboundPacket) : Bool :=
  !packet.blocked && !packet.injectedBySelf && (isLoopback packet.remoteAddr || packet.listed) &&
    packet.allocated

def outboundTransportV4Classify (packet : OutboundPacket) : List Fact :=
  (if packet.blocked || packet.injectedBySelf then [] else isLocalAddress packet.remoteAddr) ++
    if packet.goesOn then [.connectionsList] ++ processRequest else []

def clientPnPAddNetAddress (allocated : Bool) : List Fact :=
  if allocated then [.netAddressesLookasideList, .netAddressesList] else [.netAddressesLookasideList]

def clientPnPDelNetAddress : List Fact := [.netAddressesList]

/--
The list that a thread looks into whenever it wakes up.
-/
def Worker.looksInto : Worker → Fact
  | .intermed => .intermedQueue
  | .ttlDecrement => .datagrQueue
  | .addr => .pendingAddrList
  | .fw => .pendingRequestList

/--
The lists that a thread goes through with what it finds.
-/
def Worker.touches : Worker → List Fact
  | .intermed =>
    [.intermedQueue, .datagrQueue, .freeDatagramWorkBufList, .fwInstancesList, .fwRequestsLookasideList]
  | .ttlDecrement => [.datagrQueue, .freeDatagramWorkBufList, .fwRequestsLookasideList]
  | .addr => [.pendingAddrList, .openAddrList, .tcpAddrList, .freeAddrList]
  | .fw => [.pendingRequestList, .freeRequestList, .fwInstancesList, .fwRequestsLookasideList]

/--
What must have been left behind for a thread to find anything.
-/
def Worker.fedBy : Worker → List Fact
  | .intermed => [.fragment]
  | .ttlDecrement => [.fragment]
  | .addr => []
  | .fw => []

inductive Handler where
| requestCallback (packet : Packet)
| fwRegisterRequestCallback (allocated : Bool)
| tdi (device : Device) (routine : TdiRoutine) (used : List Fact)
| tdiSend (device : Device) (routine : SendRoutine) (send : TdiSend) (used : List Fact)
| aleAuthConnectV4Classify (updated : Bool)
| aleResourceAssignmentV4Classify (updated : Bool)
| aleFlowEstablishedV4Classify
| aleFlowEstablishedV4Delete (found : Bool)
| outboundTransportV4Classify (packet : OutboundPacket)
| bfeSubscribeWithoutDeviceCallback (running : Bool)
| clientPnPAddNetAddress (allocated : Bool)
| clientPnPDelNetAddress
| worker (worker : Worker) (used : List Fact)

def path (platform : Platform) : Handler → List (Act Fact)
  | .requestCallback packet => requestCallback platform packet
  | .fwRegisterRequestCallback allocated => fwRegisterRequestCallback allocated
  | .tdi _ _ used => uses used
  | .tdiSend _ _ send used => uses (tdiSend send used)
  | .aleAuthConnectV4Classify updated => uses (addConnection updated)
  | .aleResourceAssignmentV4Classify updated => uses (addConnection updated)
  | .aleFlowEstablishedV4Classify => uses getConnection
  | .aleFlowEstablishedV4Delete found => uses (removeConnection found)
  | .outboundTransportV4Classify packet => uses (outboundTransportV4Classify packet)
  | .bfeSubscribeWithoutDeviceCallback running => if running then establishes registerCallouts else []
  | .clientPnPAddNetAddress allocated => uses (clientPnPAddNetAddress allocated)
  | .clientPnPDelNetAddress => uses clientPnPDelNetAddress
  | .worker worker used => uses ([worker.looksInto] ++ used)

/--
What may call by now. `IsClientConnected` finds a client once there is one; a list head that nobody has
initialised yet does not point to itself and looks like one with clients too.
-/
def Opens (known : List Fact) : Handler → Prop
  | .requestCallback packet =>
    .filterCallbacks ∈ known ∧
      (packet.connected → .client ∈ known ∨ Fact.fwInstancesList ∉ known)
  | .fwRegisterRequestCallback _ => True
  | .tdi device routine used => .attached device ∈ known ∧ used ⊆ routine.touches
  | .tdiSend device routine _ used => .attached device ∈ known ∧ used ⊆ routine.touches
  | .aleAuthConnectV4Classify _ => .callout .aleAuthConnect ∈ known
  | .aleResourceAssignmentV4Classify _ => .callout .aleResourceAssignment ∈ known
  | .aleFlowEstablishedV4Classify => .callout .aleFlowEstablished ∈ known
  | .aleFlowEstablishedV4Delete _ => .callout .aleFlowEstablished ∈ known
  | .outboundTransportV4Classify _ => .callout .outboundTransport ∈ known
  | .bfeSubscribeWithoutDeviceCallback _ => .bfeCallback ∈ known
  | .clientPnPAddNetAddress _ => .pnpHandlers ∈ known
  | .clientPnPDelNetAddress => .pnpHandlers ∈ known
  | .worker worker used =>
    .thread worker ∈ known ∧ used ⊆ worker.touches ∧ (used ≠ [] → worker.fedBy ⊆ known)

abbrev CurrState := Startup.CurrState Fact

abbrev Event := Startup.Event Handler

def initState (platform : Platform) : CurrState := Startup.initState (driverEntry platform)

abbrev step (platform : Platform) : CurrState → Event → CurrState := Startup.step (path platform)

abbrev Allowed : CurrState → Event → Prop := Startup.Allowed Opens

abbrev Sound : CurrState → Event → Prop := Startup.Sound

/--
The run, and each of its beginnings with the calls that are under way going on from there, uses no list
before it is initialised.
-/
abbrev SoundThroughout (platform : Platform) : List Event → Prop :=
  Onward.SoundThroughout (step platform) Allowed Sound Startup.GoesOn (initState platform)

instance (known : List Fact) (c : Handler) : Decidable (Opens known c) := by
  cases c <;> unfold Opens <;> infer_instance

end Ansfw.DriverEntry
