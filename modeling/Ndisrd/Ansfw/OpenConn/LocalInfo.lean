import Ndisrd.Ansfw.Connections.Impl

/-!
This module contains the lookup of the NT driver: `g_OpenAddrList` with what the records say about
endpoints and processes, in the order of the list, and `GetPidFromLocalInfo` of `openConn.c`.
-/

namespace Ansfw.OpenConn

/--
The fields of `TDI_OPEN_CONN` that a lookup in `g_OpenAddrList` reads.
-/
structure OpenAddr where
  pFileObject : Nat
  pid : Nat
  ipProto : Nat
  localAddr : Nat
  localPort : Nat
  remoteAddr : Nat
  remotePort : Nat
  deriving DecidableEq, Repr

namespace OpenAddr

def firstPass (request : FiveTuple) (connOn : OpenAddr) : Bool :=
  connOn.localPort == request.localPort && connOn.ipProto == request.ipProto &&
    connOn.localAddr == request.localAddr && connOn.remotePort == request.remotePort &&
    connOn.remoteAddr == request.remoteAddr

def secondPass (request : FiveTuple) (connOn : OpenAddr) : Bool :=
  connOn.localPort == request.localPort && connOn.ipProto == request.ipProto &&
    (connOn.localAddr == 0 || connOn.localAddr == request.localAddr) &&
    connOn.remotePort == request.remotePort && connOn.remoteAddr == request.remoteAddr

-- Here the remote endpoint of the record does not matter.
def thirdPass (request : FiveTuple) (connOn : OpenAddr) : Bool :=
  connOn.localPort == request.localPort && connOn.ipProto == request.ipProto &&
    (connOn.localAddr == 0 || connOn.localAddr == request.localAddr)

def rawPass (request : FiveTuple) (connOn : OpenAddr) : Bool :=
  connOn.ipProto == request.ipProto && connOn.remoteAddr == request.remoteAddr

def rawSecondPass (request : FiveTuple) (connOn : OpenAddr) : Bool :=
  connOn.ipProto == 255 && connOn.remoteAddr == request.remoteAddr

end OpenAddr

def openAddrPasses (request : FiveTuple) : List (OpenAddr → Bool) :=
  if request.ipProto = ipprotoTcp ∨ request.ipProto = ipprotoUdp then
    [OpenAddr.firstPass request, OpenAddr.secondPass request, OpenAddr.thirdPass request]
  else
    [OpenAddr.rawPass request, OpenAddr.rawSecondPass request]

-- Without a match `m_Pid` stays what `GetPacketPid` has put there.
def getPidFromLocalInfo (request : FiveTuple) (gOpenAddrList : List OpenAddr) : Nat :=
  match Passes.lookup (openAddrPasses request) gOpenAddrList with
  | some connOn => connOn.pid
  | none => 0

end Ansfw.OpenConn
