import Ndisrd.Ansfw.TcpIp.Bounds

/-!
This module contains what is known of the packets that `InitPacketHeaders` marks as fragments.
-/

open ReqFlags

namespace Ansfw

variable (isLocalAddress : Nat → Bool) (id : Nat) (p : FltPacket)

theorem refuse_fragmentedIp (r : FwRequest) {f : ReqFlags}
    (hf : (stopProcessing ||| f).has fragmentedIp = false)
    : (r.refuse f).reqFlags.has fragmentedIp = r.reqFlags.has fragmentedIp := by
  rw [FwRequest.refuse, FwRequest.reqFlags_flag, has_or, hf, Bool.or_false]

theorem ruleValidateTransport_fragmentedIp (r : FwRequest)
    : (ruleValidateTransport r).val.reqFlags.has fragmentedIp = r.reqFlags.has fragmentedIp := by
  simp only [ruleValidateTransport, Logged.bind_val, Logged.ite_val, Logged.pure_val,
    ruleValidateUDP_val, ruleValidateTCP_val, ruleValidateICMP_val]
  repeat' split
  all_goals first | rfl | exact refuse_fragmentedIp _ (by decide)

theorem markRouted_fragmentedIp (r : FwRequest)
    : (markRouted isLocalAddress r).val.reqFlags.has fragmentedIp = r.reqFlags.has fragmentedIp := by
  have h : routed.has fragmentedIp = false := by decide
  cases markRouted_val isLocalAddress r with
  | inl heq => rw [heq]
  | inr heq => rw [heq, FwRequest.reqFlags_flag, has_or, h, Bool.or_false]

theorem markRouted_fltPacket (r : FwRequest)
    : (markRouted isLocalAddress r).val.fltPacket = r.fltPacket := by
  cases markRouted_val isLocalAddress r with
  | inl heq => rw [heq]
  | inr heq => rw [heq, FwRequest.fltPacket_flag]

theorem ruleValidateArp_fragmentedIp (r : FwRequest)
    : (ruleValidateArp r).val.reqFlags.has fragmentedIp = r.reqFlags.has fragmentedIp := by
  have harp : arp.has fragmentedIp = false := by decide
  simp only [ruleValidateArp, Logged.bind_val, Logged.ite_val, Logged.pure_val]
  repeat' split
  -- every branch refuses the packet but the last one, which marks it as ARP
  all_goals first
    | rw [FwRequest.reqFlags_flag, has_or, harp, Bool.or_false]
    | apply refuse_fragmentedIp _ (by decide)

theorem ethernetRequest_fragmentedIp : (ethernetRequest id p).reqFlags.has fragmentedIp = false :=
  has_zero _

theorem initPacketHeaders_val
    : (initPacketHeaders isLocalAddress (.allocateRequest id p)).val =
        if p.bufferSize < sizeofEtherHeader ∨ maxEtherSize < p.bufferSize then
          (FwRequest.allocateRequest id p).refuse notEthernet
        else if (p.loadWord 12).val = nethPIp then
          (initIpHeaders isLocalAddress (ethernetRequest id p)).val
        else if (p.loadWord 12).val = nethPArp then
          (ruleValidateArp (ethernetRequest id p)).val
        else
          (ethernetRequest id p).refuse notEthernet := by
  simp only [initPacketHeaders, Logged.ite_val, Logged.bind_val, Logged.pure_val]
  rfl

theorem initIpHeaders_val (h : AcceptedIp p)
    : (initIpHeaders isLocalAddress (ethernetRequest id p)).val =
        (ruleValidateTransport (markRouted isLocalAddress
          (ruleValidateIP (ethernetRequest id p)).val).val).val := by
  simp [initIpHeaders, (validated_ruleValidateIP id p h).reqFlags]

theorem initPacketHeaders_of_acceptedIp (h : AcceptedIp p)
    : (initPacketHeaders isLocalAddress (.allocateRequest id p)).val =
        (initIpHeaders isLocalAddress (ethernetRequest id p)).val := by
  have hsize : ¬(p.bufferSize < sizeofEtherHeader ∨ maxEtherSize < p.bufferSize) := by
    have := h.hmin
    have := h.hmax
    simp only [sizeofIphdr, mHdrSize, sizeofEtherHeader] at *
    omega
  rw [initPacketHeaders_val, if_neg hsize, if_pos h.hproto]

theorem initPacketHeaders_fragmentedIp
    (h : (initPacketHeaders isLocalAddress (.allocateRequest id p)).val.reqFlags.has fragmentedIp = true)
    : AcceptedIp p ∧ p.ipOff.val &&& ipOffmask ≠ 0 ∧
        (initPacketHeaders isLocalAddress (.allocateRequest id p)).val.fltPacket = p := by
  have hzero : (FwRequest.allocateRequest id p).reqFlags.has fragmentedIp = false := has_zero _
  revert h
  rw [initPacketHeaders_val]
  split
  . rw [refuse_fragmentedIp _ (by decide), hzero]
    intro h
    cases h
  . next hsize =>
    split
    . next hproto =>
      by_cases hacc : AcceptedIp p
      . have hip := ruleValidateIP_val (ethernetRequest id p) hacc
        rw [initIpHeaders_val isLocalAddress id p hacc, ruleValidateTransport_fragmentedIp,
          markRouted_fragmentedIp,
          (ruleValidateTransport_kept _).2, markRouted_fltPacket, hip, has_or,
          ethernetRequest_fragmentedIp, Bool.false_or]
        intro h
        exact ⟨hacc, (p.has_fragmentedIp_fragFlag).mp h, rfl⟩
      . have hmax : p.bufferSize ≤ maxEtherSize := by omega
        obtain ⟨o, hr⟩ := ruleValidateIP_refuses (ethernetRequest id p) hmax hproto hacc
        have hinit : (initIpHeaders isLocalAddress (ethernetRequest id p)).val =
            (ruleValidateIP (ethernetRequest id p)).val := by
          simp [initIpHeaders, hr]
        rw [hinit, hr, refuse_fragmentedIp _ (by decide), ethernetRequest_fragmentedIp]
        intro h
        cases h
    . split
      . rw [ruleValidateArp_fragmentedIp, ethernetRequest_fragmentedIp]
        intro h
        cases h
      . rw [refuse_fragmentedIp _ (by decide), ethernetRequest_fragmentedIp]
        intro h
        cases h

end Ansfw
