import Ndisrd.Ansfw.Connections.Impl

/-!
This module contains `GetPacketPid`: how a packet asks for the process it belongs to. The table that
answers, that of either driver, is a parameter.
-/

namespace Ansfw

-- `m_Flags` is left out, no `GetPidFromLocalInfo` reads it.
def pidRequest (pFwPacket : FwRequest) : FiveTuple :=
  if pFwPacket.ipProto ≠ ipprotoTcp ∧ pFwPacket.ipProto ≠ ipprotoUdp then
    ⟨pFwPacket.ipProto, pFwPacket.sourceAddr, 0, pFwPacket.destAddr, 0⟩
  else if pFwPacket.fltPacket.direction = .out then
    ⟨pFwPacket.ipProto, pFwPacket.sourceAddr, pFwPacket.sourcePort, pFwPacket.destAddr,
      pFwPacket.destPort⟩
  else
    ⟨pFwPacket.ipProto, pFwPacket.destAddr, pFwPacket.destPort, pFwPacket.sourceAddr,
      pFwPacket.sourcePort⟩

theorem pidRequest_flag (r : FwRequest) (f : ReqFlags) : pidRequest (r.flag f) = pidRequest r := rfl

theorem pidRequest_of_other {r : FwRequest} (h : r.ipProto ≠ ipprotoTcp ∧ r.ipProto ≠ ipprotoUdp)
    : pidRequest r = ⟨r.ipProto, r.sourceAddr, 0, r.destAddr, 0⟩ := if_pos h

def getPacketPid (getPidFromLocalInfo : FiveTuple → Nat) (pFwPacket : FwRequest) : FwRequest :=
  { pFwPacket with pid := getPidFromLocalInfo (pidRequest pFwPacket) }

end Ansfw
