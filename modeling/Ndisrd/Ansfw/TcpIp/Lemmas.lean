import Ndisrd.Ansfw.TcpIp.Impl

/-!
This module contains the specification of the header analysis: what each validator reads, when it
refuses a packet and where it makes the request point, and from that the bounds of
`InitPacketHeaders`.
-/

open ReqFlags

namespace FltPacket

theorem ipHdrLen_le (p : FltPacket) : p.ipHdrLen.val ≤ 60 := by
  simp only [ipHdrLen, Logged.bind_val, Logged.pure_val]
  omega

theorem ipLen_lt (p : FltPacket) : p.ipLen.val < 65536 := ntohs_lt _

theorem ipP_lt (p : FltPacket) : p.ipP.val < 256 := p.loadByte_lt _

theorem transportLen_val (p : FltPacket)
    : p.transportLen.val = (p.ipLen.val + 65536 - p.ipHdrLen.val) % 65536 := rfl

theorem transportLen_of_le {p : FltPacket} (h : p.ipHdrLen.val ≤ p.ipLen.val)
    : p.transportLen.val = p.ipLen.val - p.ipHdrLen.val := by
  have := p.ipLen_lt
  rw [transportLen_val]
  omega

theorem transportLen_of_lt {p : FltPacket} (h : p.ipLen.val < p.ipHdrLen.val)
    : p.transportLen.val = 65536 + p.ipLen.val - p.ipHdrLen.val := by
  have := p.ipHdrLen_le
  rw [transportLen_val]
  omega

variable (p : FltPacket) (n : Nat)

@[simp]
theorem within_ipHdrLen : p.ipHdrLen.Within n ↔ 14 < n := by
  simp [ipHdrLen]

@[simp]
theorem within_ipLen : p.ipLen.Within n ↔ 17 < n := by
  simp [ipLen]

@[simp]
theorem within_ipOff : p.ipOff.Within n ↔ 21 < n := by
  simp [ipOff]

@[simp]
theorem within_ipP : p.ipP.Within n ↔ 23 < n := by
  simp [ipP]

@[simp]
theorem within_ipSrc : p.ipSrc.Within n ↔ 29 < n := by
  simp [ipSrc]

@[simp]
theorem within_ipDst : p.ipDst.Within n ↔ 33 < n := by
  simp [ipDst]

@[simp]
theorem within_transportLen : p.transportLen.Within n ↔ 17 < n := by
  simp only [transportLen, Logged.within_bind, within_ipLen, within_ipHdrLen, Logged.within_pure,
    and_true]
  omega

def fragFlag : ReqFlags := if p.ipOff.val &&& ipOffmask ≠ 0 then fragmentedIp else 0#32

@[simp]
theorem has_stopProcessing_fragFlag : p.fragFlag.has stopProcessing = false := by
  unfold fragFlag
  split
  . decide
  . decide

theorem has_fragmentedIp_fragFlag
    : p.fragFlag.has fragmentedIp = true ↔ p.ipOff.val &&& ipOffmask ≠ 0 := by
  unfold fragFlag
  split
  . next h => exact iff_of_true (by decide) h
  . next h => exact iff_of_false (by simp) h

/-! What the validators look at behind the IP header. -/

def transportAt : Nat := mHdrSize + p.ipHdrLen.val

def udpLength : Nat := ntohs (p.loadWord (p.transportAt + 4)).val

def tcpHdrLen : Nat := (p.loadByte (p.transportAt + 12)).val / 16 * 4

def tcpFlags : Nat := (p.loadByte (p.transportAt + 13)).val

abbrev UdpMalformed : Prop := p.transportLen.val < p.udpLength ∨ p.udpLength < sizeofUdphdr

abbrev TcpMalformed : Prop :=
  p.tcpHdrLen < sizeofTcphdr ∨ p.transportLen.val < p.tcpHdrLen ∨ maxTcpHeaderSize < p.tcpHdrLen

abbrev TcpFlagsInvalid : Prop := Ansfw.ufValidTCPFlags (Ansfw.maskTCPFlags p.tcpFlags) = false

abbrev IcmpMalformed : Prop := maxIcmpPacketSize < p.transportLen.val ∧ p.direction = .inbound

end FltPacket

namespace Ansfw

variable (r : FwRequest)

theorem ruleValidateIP_within : (ruleValidateIP r).Within r.fltPacket.bufferSize := by
  simp only [ruleValidateIP, Logged.within_bind, Logged.within_ite, Logged.within_pure]
  simp
  omega

theorem ruleValidateArp_within : (ruleValidateArp r).Within r.fltPacket.bufferSize := by
  simp only [ruleValidateArp, Logged.within_bind, Logged.within_ite, Logged.within_pure]
  simp
  omega

theorem markRouted_within (isLocalAddress : Nat → Bool) (h : 33 < r.fltPacket.bufferSize)
    : (markRouted isLocalAddress r).Within r.fltPacket.bufferSize := by
  simp only [markRouted, Logged.within_bind, Logged.within_ite, Logged.within_pure]
  simp [h]

structure AcceptedIp (p : FltPacket) : Prop where
  hproto : (p.loadWord 12).val = nethPIp
  hmin : sizeofIphdr + mHdrSize ≤ p.bufferSize
  hmax : p.bufferSize ≤ maxEtherSize
  hlen : p.ipLen.val + mHdrSize ≤ p.bufferSize
  hhdr : sizeofIphdr ≤ p.ipHdrLen.val

theorem ruleValidateIP_val (h : AcceptedIp r.fltPacket)
    : (ruleValidateIP r).val =
        { r with
          pIp := some mHdrSize
          ipProto := r.fltPacket.ipP.val
          sourceAddr := r.fltPacket.ipSrc.val
          destAddr := r.fltPacket.ipDst.val
          reqFlags := r.reqFlags ||| r.fltPacket.fragFlag } := by
  have hp := r.fltPacket.ipP_lt
  have h1 : ¬(r.fltPacket.bufferSize < sizeofIphdr + mHdrSize) := by have := h.hmin; omega
  have h2 : ¬(r.fltPacket.bufferSize < r.fltPacket.ipLen.val + mHdrSize) := by have := h.hlen; omega
  have h3 : ¬(r.fltPacket.ipHdrLen.val < sizeofIphdr) := by have := h.hhdr; omega
  have h4 : ¬(ipprotoMax ≤ r.fltPacket.ipP.val) := by simp; omega
  simp only [ruleValidateIP, Logged.bind_val, Logged.ite_val, Logged.pure_val, h1, h2, h3, h4, if_false]
  unfold FltPacket.fragFlag
  split
  . rfl
  . rw [BitVec.or_zero]

theorem ruleValidateIP_refuses (hmax : r.fltPacket.bufferSize ≤ maxEtherSize)
    (hproto : (r.fltPacket.loadWord 12).val = nethPIp) (h : ¬AcceptedIp r.fltPacket)
    : ∃ o, (ruleValidateIP r).val = { r with pIp := o }.refuse malformedIp := by
  simp only [ruleValidateIP, Logged.bind_val, Logged.ite_val, Logged.pure_val]
  split
  . exact ⟨r.pIp, rfl⟩
  . next h1 =>
    refine ⟨some mHdrSize, ?_⟩
    split
    . rfl
    . next h2 =>
      split
      . rfl
      . next h3 =>
        exact absurd ⟨hproto, by omega, hmax, by omega, by omega⟩ h

/-! ### The transport validators -/

section Transport

variable (hmin : sizeofIphdr + mHdrSize ≤ r.fltPacket.bufferSize)
include hmin

theorem ruleValidateUDP_within_iff
    : (ruleValidateUDP r).Within r.fltPacket.bufferSize ↔
        (r.fltPacket.transportLen.val < sizeofUdphdr ∨
          r.fltPacket.transportAt + 5 < r.fltPacket.bufferSize) := by
  simp only [ruleValidateUDP, Logged.within_bind, Logged.within_ite, Logged.within_pure]
  simp [FltPacket.transportAt] at *
  omega

theorem ruleValidateTCP_within_iff
    : (ruleValidateTCP r).Within r.fltPacket.bufferSize ↔
        (r.fltPacket.transportLen.val < sizeofTcphdr ∨
          r.fltPacket.transportAt + 12 < r.fltPacket.bufferSize ∧
            (r.fltPacket.TcpMalformed ∨
              r.fltPacket.transportAt + 13 < r.fltPacket.bufferSize)) := by
  simp only [ruleValidateTCP, Logged.within_bind, Logged.within_ite, Logged.within_pure]
  simp [FltPacket.transportAt, FltPacket.TcpMalformed, FltPacket.tcpHdrLen] at *
  omega

theorem ruleValidateICMP_within_iff
    : (ruleValidateICMP r).Within r.fltPacket.bufferSize ↔
        (r.fltPacket.transportLen.val < sizeofIcmphdr ∨ r.fltPacket.IcmpMalformed ∨
          r.fltPacket.transportAt + 1 < r.fltPacket.bufferSize) := by
  simp only [ruleValidateICMP, Logged.within_bind, Logged.within_ite, Logged.within_pure]
  simp [FltPacket.transportAt, FltPacket.IcmpMalformed] at *
  by_cases hd : r.fltPacket.direction = .inbound
  . simp [hd]
    omega
  . simp [hd]
    omega

end Transport

/-! What each validator makes of the request. -/

theorem ruleValidateUDP_val
    : (ruleValidateUDP r).val =
        if r.fltPacket.transportLen.val < sizeofUdphdr then
          r.refuse malformedUdp
        else if r.fltPacket.UdpMalformed then
          { r with pUdp := some r.fltPacket.transportAt }.refuse malformedUdp
        else
          { r with
            pUdp := some r.fltPacket.transportAt
            sourcePort := (r.fltPacket.loadWord r.fltPacket.transportAt).val
            destPort := (r.fltPacket.loadWord (r.fltPacket.transportAt + 2)).val } := by
  simp only [ruleValidateUDP, Logged.bind_val, Logged.ite_val, Logged.pure_val]
  exact if_congr Iff.rfl rfl (if_congr Iff.rfl rfl rfl)

theorem ruleValidateTCP_val
    : (ruleValidateTCP r).val =
        if r.fltPacket.transportLen.val < sizeofTcphdr then
          r.refuse malformedTcp
        else if r.fltPacket.TcpMalformed then
          { r with pTcp := some r.fltPacket.transportAt }.refuse malformedTcp
        else if r.fltPacket.TcpFlagsInvalid then
          { r with pTcp := some r.fltPacket.transportAt }.refuse invalidTcpFlags
        else
          { r with
            pTcp := some r.fltPacket.transportAt
            sourcePort := (r.fltPacket.loadWord r.fltPacket.transportAt).val
            destPort := (r.fltPacket.loadWord (r.fltPacket.transportAt + 2)).val } := by
  simp only [ruleValidateTCP, Logged.bind_val, Logged.ite_val, Logged.pure_val]
  simp only [Bool.not_eq_true']
  exact if_congr Iff.rfl rfl (if_congr Iff.rfl rfl (if_congr Iff.rfl rfl rfl))

theorem ruleValidateICMP_val
    : (ruleValidateICMP r).val =
        if r.fltPacket.transportLen.val < sizeofIcmphdr then
          r.refuse malformedIcmp
        else if r.fltPacket.IcmpMalformed then
          { r with pIcmp := some r.fltPacket.transportAt }.refuse malformedIcmp
        else
          { r with
            pIcmp := some r.fltPacket.transportAt
            sourcePort := r.sourcePort / 256 * 256 + (r.fltPacket.loadByte r.fltPacket.transportAt).val
            destPort :=
              r.destPort / 256 * 256 + (r.fltPacket.loadByte (r.fltPacket.transportAt + 1)).val } := by
  simp only [ruleValidateICMP, Logged.bind_val, Logged.ite_val, Logged.pure_val]
  exact if_congr Iff.rfl rfl (if_congr Iff.rfl rfl rfl)

end Ansfw
