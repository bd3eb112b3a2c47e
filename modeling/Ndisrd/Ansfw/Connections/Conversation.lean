import Ndisrd.Ansfw.Connections.PacketPid
import Ndisrd.Ansfw.OpenConn.LocalInfo

/-!
This module contains the two directions of a conversation: which process the tables of the two drivers
give for a packet and for the answer to it.
-/

namespace Ansfw

/--
An incoming packet from where the outgoing packet `r` goes to, to where that comes from.
-/
structure Answer (r answer : FwRequest) : Prop where
  outgoing : r.fltPacket.direction = .out
  incoming : answer.fltPacket.direction = .inbound
  ipProto : answer.ipProto = r.ipProto
  sourceAddr : answer.sourceAddr = r.destAddr
  sourcePort : answer.sourcePort = r.destPort
  destAddr : answer.destAddr = r.sourceAddr
  destPort : answer.destPort = r.sourcePort

/-! ### The process of a peer -/

section Peer

variable {α : Type} (ipProto remoteAddr pid : α → Nat)

/--
The process that a table has for the packets of a protocol without ports to or from a peer. The records
of the protocol itself come before those of all protocols, and 0 is no process.
-/
def peerPid (proto addr : Nat) (table : List α) : Nat :=
  let own := table.filter fun x => ipProto x == proto
  let any := table.filter fun x => ipProto x == 255
  ((own ++ any).find? fun x => remoteAddr x == addr).elim 0 pid

theorem peerPid_eq_lookup (proto addr : Nat) (table : List α)
    : peerPid ipProto remoteAddr pid proto addr table =
        (Passes.lookup [fun x => ipProto x == proto && remoteAddr x == addr,
          fun x => ipProto x == 255 && remoteAddr x == addr] table).elim 0 pid := by
  simp only [peerPid, Passes.lookup, List.find?_append, List.find?_filter, Bool.decide_and,
    Bool.decide_eq_true]
  cases table.find? fun x => ipProto x == proto && remoteAddr x == addr with
  | some x => rfl
  | none =>
    cases table.find? fun x => ipProto x == 255 && remoteAddr x == addr with
    | some x => rfl
    | none => rfl

end Peer

def Connection.peerPid (proto addr : Nat) (connections : List Connection) : Nat :=
  Ansfw.peerPid Connection.ipProto Connection.remoteAddr Connection.pid proto addr connections

def OpenConn.OpenAddr.peerPid (proto addr : Nat) (gOpenAddrList : List OpenConn.OpenAddr) : Nat :=
  Ansfw.peerPid OpenConn.OpenAddr.ipProto OpenConn.OpenAddr.remoteAddr OpenConn.OpenAddr.pid proto addr
    gOpenAddrList

abbrev HasPorts (ipProto : Nat) : Prop := ipProto = ipprotoTcp ∨ ipProto = ipprotoUdp

theorem getPidFromLocalInfo_of_noPorts (request : FiveTuple) (h : ¬HasPorts request.ipProto)
    (connections : List Connection)
    : getPidFromLocalInfo request connections =
        Connection.peerPid request.ipProto request.remoteAddr connections := by
  rw [Connection.peerPid, peerPid_eq_lookup, getPidFromLocalInfo, getpidPasses, if_neg h]
  show _ = (Passes.lookup [Connection.rawProto request, Connection.rawAny request] connections).elim _ _
  cases Passes.lookup [Connection.rawProto request, Connection.rawAny request] connections with
  | some pConnection => rfl
  | none => rfl

theorem OpenConn.getPidFromLocalInfo_of_noPorts (request : FiveTuple) (h : ¬HasPorts request.ipProto)
    (gOpenAddrList : List OpenConn.OpenAddr)
    : OpenConn.getPidFromLocalInfo request gOpenAddrList =
        OpenConn.OpenAddr.peerPid request.ipProto request.remoteAddr gOpenAddrList := by
  rw [OpenAddr.peerPid, peerPid_eq_lookup, OpenConn.getPidFromLocalInfo, openAddrPasses, if_neg h]
  show _ = (Passes.lookup [OpenAddr.rawPass request, OpenAddr.rawSecondPass request]
    gOpenAddrList).elim _ _
  cases Passes.lookup [OpenAddr.rawPass request, OpenAddr.rawSecondPass request] gOpenAddrList with
  | some connOn => rfl
  | none => rfl

/-! ### What the two packets ask for -/

section Answer

variable {r answer : FwRequest} (h : Answer r answer)
include h

theorem Answer.pidRequest_of_ports (hports : HasPorts r.ipProto)
    : pidRequest answer = pidRequest r := by
  have hr : ¬(r.ipProto ≠ ipprotoTcp ∧ r.ipProto ≠ ipprotoUdp) := by
    rintro ⟨htcp, hudp⟩
    exact hports.elim htcp hudp
  have hin : answer.fltPacket.direction ≠ .out := by
    rw [h.incoming]
    decide
  rw [pidRequest, pidRequest, h.ipProto, if_neg hr, if_neg hr, if_neg hin, if_pos h.outgoing,
    h.sourceAddr, h.sourcePort, h.destAddr, h.destPort]

-- Without ports both ask for the address that the packet goes to.
theorem Answer.pidRequest_of_noPorts (hports : ¬HasPorts r.ipProto)
    : pidRequest r = ⟨r.ipProto, r.sourceAddr, 0, r.destAddr, 0⟩ ∧
        pidRequest answer = ⟨r.ipProto, r.destAddr, 0, r.sourceAddr, 0⟩ := by
  have hr : r.ipProto ≠ ipprotoTcp ∧ r.ipProto ≠ ipprotoUdp := not_or.mp hports
  constructor
  . exact pidRequest_of_other hr
  . rw [pidRequest_of_other (h.ipProto ▸ hr), h.ipProto, h.sourceAddr, h.destAddr]

theorem Answer.pid_eq_iff (table : FiveTuple → Nat) (peerPid : Nat → Nat)
    (htable : ∀ localAddr remoteAddr, ¬HasPorts r.ipProto →
      table ⟨r.ipProto, localAddr, 0, remoteAddr, 0⟩ = peerPid remoteAddr)
    : (getPacketPid table answer).pid = (getPacketPid table r).pid ↔
        HasPorts r.ipProto ∨ peerPid r.sourceAddr = peerPid r.destAddr := by
  show table (pidRequest answer) = table (pidRequest r) ↔ _
  by_cases hports : HasPorts r.ipProto
  . rw [h.pidRequest_of_ports hports]
    exact iff_of_true rfl (Or.inl hports)
  . obtain ⟨hr, hanswer⟩ := h.pidRequest_of_noPorts hports
    rw [hr, hanswer, htable _ _ hports, htable _ _ hports, or_iff_right hports]

end Answer

/--
A packet and the answer to it get the same process from either table if and only if the protocol has
ports or the table has the same process for the two ends as peers.
-/
theorem sameProcess_iff (connections : List Connection) (gOpenAddrList : List OpenConn.OpenAddr)
    {r answer : FwRequest} (h : Answer r answer)
    : ((getPacketPid (getPidFromLocalInfo · connections) answer).pid =
          (getPacketPid (getPidFromLocalInfo · connections) r).pid ↔
        HasPorts r.ipProto ∨
          Connection.peerPid r.ipProto r.sourceAddr connections =
            Connection.peerPid r.ipProto r.destAddr connections) ∧
      ((getPacketPid (OpenConn.getPidFromLocalInfo · gOpenAddrList) answer).pid =
          (getPacketPid (OpenConn.getPidFromLocalInfo · gOpenAddrList) r).pid ↔
        HasPorts r.ipProto ∨
          OpenConn.OpenAddr.peerPid r.ipProto r.sourceAddr gOpenAddrList =
            OpenConn.OpenAddr.peerPid r.ipProto r.destAddr gOpenAddrList) := by
  constructor
  . apply h.pid_eq_iff _ (Connection.peerPid r.ipProto · connections)
    intro localAddr remoteAddr hports
    exact getPidFromLocalInfo_of_noPorts ⟨_, localAddr, 0, remoteAddr, 0⟩ hports connections
  . apply h.pid_eq_iff _ (OpenConn.OpenAddr.peerPid r.ipProto · gOpenAddrList)
    intro localAddr remoteAddr hports
    exact OpenConn.getPidFromLocalInfo_of_noPorts ⟨_, localAddr, 0, remoteAddr, 0⟩ hports gOpenAddrList

/-! A host that pings another one, and the reply. -/

def pingRequest : FwRequest :=
  { FwRequest.allocateRequest 0 ⟨.out, 42, fun _ => 0⟩ with
    ipProto := ipprotoIcmp, sourceAddr := 0x0100A8C0, destAddr := 0x0200A8C0 }

def pingReply : FwRequest :=
  { FwRequest.allocateRequest 1 ⟨.inbound, 42, fun _ => 0⟩ with
    ipProto := ipprotoIcmp, sourceAddr := 0x0200A8C0, destAddr := 0x0100A8C0 }

theorem answer_pingReply : Answer pingRequest pingReply := ⟨rfl, rfl, rfl, rfl, rfl, rfl, rfl⟩

def pingConnections : List Connection := [⟨0, 7, 0x0100A8C0, 0, 0x0200A8C0, 0, ipprotoIcmp⟩]

def pingAddrList : List OpenConn.OpenAddr := [⟨0, 7, ipprotoIcmp, 0, 0, 0x0200A8C0, 0⟩]

-- Both ends of the ping are peers of process 7, and a third one is a peer of process 8.
def peerConnections : List Connection :=
  [⟨0, 8, 0x0100A8C0, 0, 0x0300A8C0, 0, ipprotoIcmp⟩, ⟨1, 7, 0x0200A8C0, 0, 0x0100A8C0, 0, ipprotoIcmp⟩,
    ⟨2, 7, 0x0100A8C0, 0, 0x0200A8C0, 0, ipprotoIcmp⟩]

def peerAddrList : List OpenConn.OpenAddr :=
  [⟨0, 8, ipprotoIcmp, 0, 0, 0x0300A8C0, 0⟩, ⟨1, 7, ipprotoIcmp, 0, 0, 0x0100A8C0, 0⟩,
    ⟨2, 7, ipprotoIcmp, 0, 0, 0x0200A8C0, 0⟩]

theorem sameProcess_pingReply
    : (getPacketPid (getPidFromLocalInfo · peerConnections) pingReply).pid =
          (getPacketPid (getPidFromLocalInfo · peerConnections) pingRequest).pid ∧
        (getPacketPid (OpenConn.getPidFromLocalInfo · peerAddrList) pingReply).pid =
          (getPacketPid (OpenConn.getPidFromLocalInfo · peerAddrList) pingRequest).pid := by
  obtain ⟨hconnections, haddrs⟩ := sameProcess_iff peerConnections peerAddrList answer_pingReply
  exact ⟨hconnections.mpr (Or.inr (by decide)), haddrs.mpr (Or.inr (by decide))⟩

theorem not_sameProcess_pingReply
    : ¬∀ connections gOpenAddrList r answer, Answer r answer →
        (getPacketPid (getPidFromLocalInfo · connections) answer).pid =
            (getPacketPid (getPidFromLocalInfo · connections) r).pid ∧
          (getPacketPid (OpenConn.getPidFromLocalInfo · gOpenAddrList) answer).pid =
            (getPacketPid (OpenConn.getPidFromLocalInfo · gOpenAddrList) r).pid := by
  intro h
  have hsame := (h pingConnections pingAddrList pingRequest pingReply answer_pingReply).1
  revert hsame
  decide

end Ansfw
