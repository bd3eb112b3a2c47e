import Ndisrd.Lib.Passes
import Ndisrd.Lib.Run
import Ndisrd.Ansfw.TcpIp.Impl

/-!
This module contains the connection table of the Vista driver, in the order of its list, and the WFP
callbacks that register connections in it and take them out again.
-/

namespace Ansfw

/--
What a caller of the table names a connection by. In `AddConnection` these are five arguments, in
`GetPidFromLocalInfo` five fields of the `FW_PID_REQUEST`.
-/
structure FiveTuple where
  ipProto : Nat
  localAddr : Nat
  localPort : Nat
  remoteAddr : Nat
  remotePort : Nat
  deriving DecidableEq, Repr

/--
`CONNECTION`, with the address at which it is allocated.
-/
structure Connection where
  address : Nat
  pid : Nat
  localAddr : Nat
  localPort : Nat
  remoteAddr : Nat
  remotePort : Nat
  ipProto : Nat
  deriving DecidableEq, Repr

namespace Connection

/-! The tests that the loops over the table make of a record. -/

def binds (t : FiveTuple) (c : Connection) : Bool :=
  c.ipProto == t.ipProto && c.localPort == t.localPort &&
    (c.localAddr == 0 || c.localAddr == t.localAddr) && c.remotePort == 0 && c.remoteAddr == 0

-- `GetConnection` makes this test too.
def getpid1 (t : FiveTuple) (c : Connection) : Bool :=
  c.localPort == t.localPort && c.ipProto == t.ipProto && c.localAddr == t.localAddr &&
    c.remotePort == t.remotePort && c.remoteAddr == t.remoteAddr

def getpid2 (t : FiveTuple) (c : Connection) : Bool :=
  c.localPort == t.localPort && c.ipProto == t.ipProto &&
    (c.localAddr == 0 || c.localAddr == t.localAddr) && c.remotePort == t.remotePort &&
    c.remoteAddr == t.remoteAddr

def getpid3 (t : FiveTuple) (c : Connection) : Bool :=
  c.localPort == t.localPort && c.ipProto == t.ipProto && c.localAddr == t.localAddr &&
    c.remotePort == 0 && c.remoteAddr == 0

def getpid4 (t : FiveTuple) (c : Connection) : Bool :=
  c.localPort == t.localPort && c.ipProto == t.ipProto &&
    (c.localAddr == 0 || c.localAddr == t.localAddr) && c.remotePort == 0 && c.remoteAddr == 0

def rawProto (t : FiveTuple) (c : Connection) : Bool :=
  c.ipProto == t.ipProto && c.remoteAddr == t.remoteAddr

def rawAny (t : FiveTuple) (c : Connection) : Bool :=
  c.ipProto == 255 && c.remoteAddr == t.remoteAddr

def tuple (c : Connection) : FiveTuple :=
  ⟨c.ipProto, c.localAddr, c.localPort, c.remoteAddr, c.remotePort⟩

-- The local address stays what it was.
def rewrite (pid : Nat) (t : FiveTuple) (c : Connection) : Connection :=
  { c with remoteAddr := t.remoteAddr, remotePort := t.remotePort, pid := pid }

def create (address pid : Nat) (t : FiveTuple) : Connection where
  address := address
  pid := pid
  localAddr := t.localAddr
  localPort := t.localPort
  remoteAddr := t.remoteAddr
  remotePort := t.remotePort
  ipProto := t.ipProto

end Connection

def updateConnection (pid : Nat) (t : FiveTuple) : List Connection → Option (Nat × List Connection)
  | [] => none
  | c :: connections =>
    if c.binds t then
      some (c.address, c.rewrite pid t :: connections)
    else
      match updateConnection pid t connections with
      | some (address, connections') => some (address, c :: connections')
      | none => none

/--
`AddConnection`: the pointer it returns and the table it leaves. `allocated` is what the lookaside list
has for a new record.
-/
def addConnection (allocated : Option Nat) (pid : Nat) (t : FiveTuple) (connections : List Connection)
    : Option Nat × List Connection :=
  match updateConnection pid t connections with
  | some (address, connections') => (some address, connections')
  | none =>
    match allocated with
    | some address => (some address, Connection.create address pid t :: connections)
    | none => (none, connections)

def getConnection (t : FiveTuple) (connections : List Connection) : Option Connection :=
  connections.find? (Connection.getpid1 t)

def removeConnection (pRemovingConnection : Nat) : List Connection → List Connection
  | [] => []
  | c :: connections =>
    if c.address = pRemovingConnection then
      connections
    else
      c :: removeConnection pRemovingConnection connections

def getpidPasses (t : FiveTuple) : List (Connection → Bool) :=
  if t.ipProto = ipprotoTcp ∨ t.ipProto = ipprotoUdp then
    [Connection.getpid1 t, Connection.getpid2 t, Connection.getpid3 t, Connection.getpid4 t]
  else
    [Connection.rawProto t, Connection.rawAny t]

def getPidFromLocalInfo (request : FiveTuple) (connections : List Connection) : Nat :=
  match Passes.lookup (getpidPasses request) connections with
  | some pConnection => pConnection.pid
  | none => 0

/-! ### The WFP callbacks -/

/--
The fixed values of an ALE layer, in host byte order, with the two process ids from which a callback
takes the one that it registers.
-/
structure AleValues where
  currentProcessId : Nat
  processId : Nat
  ipProtocol : Nat
  ipLocalAddress : Nat
  ipLocalPort : Nat
  ipRemoteAddress : Nat
  ipRemotePort : Nat

namespace AleValues

def pid (v : AleValues) : Nat :=
  let pid := v.currentProcessId % 0x100000000
  if pid ≠ 0 then pid else v.processId

def tuple (v : AleValues) : FiveTuple :=
  ⟨v.ipProtocol, htonl v.ipLocalAddress, htons v.ipLocalPort, htonl v.ipRemoteAddress,
    htons v.ipRemotePort⟩

-- A resource assignment has no remote endpoint yet.
def localTuple (v : AleValues) : FiveTuple :=
  ⟨v.ipProtocol, htonl v.ipLocalAddress, htons v.ipLocalPort, 0, 0⟩

end AleValues

/--
The table, and the flows that have one of its records as their context.
-/
structure WfpState where
  connections : List Connection
  flows : List (Nat × Nat)

def WfpState.empty : WfpState := ⟨[], []⟩

inductive WfpEvent where
  | resourceAssignment (v : AleValues) (allocated : Nat)
  | authConnect (v : AleValues) (allocated : Nat)
  | flowEstablished (v : AleValues) (flowHandle : Option Nat)
  | flowDelete (flowHandle : Nat)

def aleResourceAssignmentV4Classify (s : WfpState) (v : AleValues) (allocated : Nat) : WfpState :=
  { s with connections := (addConnection (some allocated) v.pid v.localTuple s.connections).2 }

def aleAuthConnectV4Classify (s : WfpState) (v : AleValues) (allocated : Nat) : WfpState :=
  { s with connections := (addConnection (some allocated) v.pid v.tuple s.connections).2 }

def aleFlowEstablishedV4Classify (s : WfpState) (v : AleValues) (flowHandle : Option Nat) : WfpState :=
  match getConnection v.tuple s.connections, flowHandle with
  | some pConnection, some flowHandle =>
    { s with flows := (flowHandle, pConnection.address) :: s.flows }
  | _, _ => s

def aleFlowEstablishedV4Delete (s : WfpState) (flowHandle : Nat) : WfpState :=
  match s.flows.find? fun flow => flow.1 == flowHandle with
  | some flow => ⟨removeConnection flow.2 s.connections, s.flows.erase flow⟩
  | none => s

def wfpStep (s : WfpState) : WfpEvent → WfpState
  | .resourceAssignment v allocated => aleResourceAssignmentV4Classify s v allocated
  | .authConnect v allocated => aleAuthConnectV4Classify s v allocated
  | .flowEstablished v flowHandle => aleFlowEstablishedV4Classify s v flowHandle
  | .flowDelete flowHandle => aleFlowEstablishedV4Delete s flowHandle

/--
What the system promises of an event: a new record is not allocated where the table has one, and a flow
is established once.
-/
def WfpEvent.Allowed (s : WfpState) : WfpEvent → Prop
  | .resourceAssignment _ allocated => allocated ∉ s.connections.map Connection.address
  | .authConnect _ allocated => allocated ∉ s.connections.map Connection.address
  | .flowEstablished _ flowHandle => ∀ h, flowHandle = some h → h ∉ s.flows.map Prod.fst
  | .flowDelete flowHandle => flowHandle ∈ s.flows.map Prod.fst

end Ansfw
