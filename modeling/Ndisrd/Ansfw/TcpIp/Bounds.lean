import Ndisrd.Ansfw.TcpIp.Lemmas

/-!
This module contains the bounds of `InitPacketHeaders`: exactly when all of its reads are inside the
buffer and the headers it finds are inside the datagram.
-/

open ReqFlags

namespace Ansfw

def Inside (p : FltPacket) (start len : Nat) : Prop :=
  mHdrSize ≤ start ∧ start + len ≤ mHdrSize + p.ipLen.val

structure HeadersInside (r : FwRequest) : Prop where
  ip : ∀ o, r.pIp = some o → Inside r.fltPacket o r.fltPacket.ipHdrLen.val
  udp : ∀ o, r.pUdp = some o → Inside r.fltPacket o sizeofUdphdr
  tcp : ∀ o, r.pTcp = some o → Inside r.fltPacket o ((r.fltPacket.loadByte (o + 12)).val / 16 * 4)
  icmp : ∀ o, r.pIcmp = some o → Inside r.fltPacket o sizeofIcmphdr

def TransportRefused (p : FltPacket) : Prop :=
  (p.ipP.val = ipprotoUdp ∧ p.transportAt + 5 < p.bufferSize ∧ p.UdpMalformed) ∨
  (p.ipP.val = ipprotoTcp ∧ p.transportAt + 12 < p.bufferSize ∧
    (p.TcpMalformed ∨ p.transportAt + 13 < p.bufferSize ∧ p.TcpFlagsInvalid)) ∨
  (p.ipP.val = ipprotoIcmp ∧ p.IcmpMalformed)

structure Validated (p : FltPacket) (r : FwRequest) : Prop where
  fltPacket : r.fltPacket = p
  reqFlags : r.reqFlags.has stopProcessing = false
  pIp : r.pIp = some mHdrSize
  pUdp : r.pUdp = none
  pTcp : r.pTcp = none
  pIcmp : r.pIcmp = none

variable (isLocalAddress : Nat → Bool) (id : Nat) (p : FltPacket)

theorem markRouted_val (r : FwRequest)
    : (markRouted isLocalAddress r).val = r ∨ (markRouted isLocalAddress r).val = r.flag routed := by
  simp only [markRouted, Logged.bind_val, Logged.ite_val, Logged.pure_val]
  split
  . split
    . exact Or.inr rfl
    . exact Or.inl rfl
  . exact Or.inl rfl

def ethernetRequest : FwRequest :=
  { FwRequest.allocateRequest id p with pEthernet := some 0 }

theorem validated_ruleValidateIP (h : AcceptedIp p)
    : Validated p (ruleValidateIP (ethernetRequest id p)).val := by
  rw [ruleValidateIP_val (ethernetRequest id p) h]
  refine ⟨rfl, ?_, rfl, rfl, rfl, rfl⟩
  simp [ethernetRequest, FwRequest.allocateRequest]

theorem Validated.flag_routed {r : FwRequest} (h : Validated p r) : Validated p (r.flag routed) := by
  refine ⟨h.fltPacket, ?_, h.pIp, h.pUdp, h.pTcp, h.pIcmp⟩
  rw [FwRequest.reqFlags_flag, has_or, h.reqFlags]
  decide

theorem initIpHeaders_of_accepted (h : AcceptedIp p)
    : ∃ r, Validated p r ∧
        (initIpHeaders isLocalAddress (ethernetRequest id p)).val = (ruleValidateTransport r).val ∧
        ((initIpHeaders isLocalAddress (ethernetRequest id p)).Within p.bufferSize ↔
          (ruleValidateTransport r).Within p.bufferSize) := by
  have hv := validated_ruleValidateIP id p h
  have hip := ruleValidateIP_within (ethernetRequest id p)
  generalize hr1 : (ruleValidateIP (ethernetRequest id p)).val = r1 at hv
  have hroute : (markRouted isLocalAddress r1).Within p.bufferSize := by
    have hmin : 33 < r1.fltPacket.bufferSize := by
      rw [hv.fltPacket]
      exact h.hmin
    have := markRouted_within r1 isLocalAddress hmin
    rwa [hv.fltPacket] at this
  refine ⟨(markRouted isLocalAddress r1).val, ?_, ?_, ?_⟩
  . cases markRouted_val isLocalAddress r1 with
    | inl heq =>
      rw [heq]
      exact hv
    | inr heq =>
      rw [heq]
      exact hv.flag_routed
  . simp [initIpHeaders, hr1, hv.reqFlags]
  . simp only [initIpHeaders, Logged.within_bind, Logged.within_ite, hr1, hv.reqFlags]
    constructor
    . intro hw
      exact (hw.2.2 (by simp)).2
    . intro hw
      exact ⟨hip, by simp, fun _ => ⟨hroute, hw⟩⟩

section Transport

variable {p}
variable {r : FwRequest} (hr : Validated p r)
include hr

theorem validated_min (hp : AcceptedIp p) : sizeofIphdr + mHdrSize ≤ r.fltPacket.bufferSize := by
  rw [hr.fltPacket]
  exact hp.hmin

theorem ruleValidateTransport_within (hp : AcceptedIp p) (h : p.ipHdrLen.val ≤ p.ipLen.val)
    : (ruleValidateTransport r).Within p.bufferSize := by
  have hmin := validated_min hr hp
  have hT := FltPacket.transportLen_of_le h
  have hlen := hp.hlen
  have hudp := ruleValidateUDP_within_iff r hmin
  have htcp := ruleValidateTCP_within_iff r hmin
  have hicmp := ruleValidateICMP_within_iff r hmin
  simp only [hr.fltPacket, hT, FltPacket.transportAt, mHdrSize, sizeofIphdr, sizeofUdphdr,
    sizeofTcphdr, sizeofIcmphdr] at *
  simp only [ruleValidateTransport, Logged.within_bind, Logged.within_ite, hr.fltPacket,
    FltPacket.within_ipP, Logged.within_pure]
  refine ⟨by omega, ?_⟩
  refine ⟨fun _ => hudp.mpr (by omega), fun _ => ⟨fun _ => htcp.mpr ?_, fun _ => ⟨fun _ => ?_, by simp⟩⟩⟩
  . by_cases hs : p.ipLen.val - p.ipHdrLen.val < 20
    . exact Or.inl hs
    . exact Or.inr ⟨by omega, Or.inr (by omega)⟩
  . by_cases hs : p.ipLen.val - p.ipHdrLen.val < 8
    . exact hicmp.mpr (Or.inl hs)
    . exact hicmp.mpr (Or.inr (Or.inr (by omega)))

theorem Validated.headersInside (h : p.ipHdrLen.val ≤ p.ipLen.val) : HeadersInside r := by
  refine ⟨?_, ?_, ?_, ?_⟩
  . rw [hr.fltPacket, hr.pIp]
    rintro o ⟨⟩
    exact ⟨Nat.le_refl _, by omega⟩
  . simp [hr.pUdp]
  . simp [hr.pTcp]
  . simp [hr.pIcmp]

theorem ruleValidateTransport_inside (h : p.ipHdrLen.val ≤ p.ipLen.val)
    (hstop : (ruleValidateTransport r).val.reqFlags.has stopProcessing = false)
    : HeadersInside (ruleValidateTransport r).val := by
  have hin := hr.headersInside h
  have hfltPacket := hr.fltPacket
  subst hfltPacket
  have hT := FltPacket.transportLen_of_le h
  revert hstop
  simp only [ruleValidateTransport, Logged.bind_val, Logged.ite_val, Logged.pure_val]
  split
  . rw [ruleValidateUDP_val]
    split
    . simp
    . next h1 =>
      split
      . simp
      . intro _
        refine { hin with udp := ?_ }
        simp [Inside, FltPacket.transportAt] at *
        omega
  . split
    . rw [ruleValidateTCP_val]
      split
      . simp
      . next h1 =>
        split
        . simp
        . next h2 =>
          split
          . simp
          . intro _
            refine { hin with tcp := ?_ }
            simp [Inside, FltPacket.transportAt, FltPacket.TcpMalformed, FltPacket.tcpHdrLen] at *
            omega
    . split
      . rw [ruleValidateICMP_val]
        split
        . simp
        . next h1 =>
          split
          . simp
          . intro _
            refine { hin with icmp := ?_ }
            simp [Inside, FltPacket.transportAt] at *
            omega
      . intro _
        exact hin

/-! When each validator refuses a datagram that is long enough for it. -/

theorem ruleValidateUDP_stop (h : ¬(p.transportLen.val < sizeofUdphdr))
    : (ruleValidateUDP r).val.reqFlags.has stopProcessing = true ↔ p.UdpMalformed := by
  rw [ruleValidateUDP_val, hr.fltPacket, if_neg h]
  split
  . next hm => exact iff_of_true (by simp) hm
  . next hm => exact iff_of_false (by simp [hr.reqFlags]) hm

theorem ruleValidateTCP_stop (h : ¬(p.transportLen.val < sizeofTcphdr))
    : (ruleValidateTCP r).val.reqFlags.has stopProcessing = true ↔
        p.TcpMalformed ∨ p.TcpFlagsInvalid := by
  rw [ruleValidateTCP_val, hr.fltPacket, if_neg h]
  split
  . next hm => exact iff_of_true (by simp) (Or.inl hm)
  . next hm =>
    split
    . next hf => exact iff_of_true (by simp) (Or.inr hf)
    . next hf => exact iff_of_false (by simp [hr.reqFlags]) (not_or.mpr ⟨hm, hf⟩)

theorem ruleValidateICMP_stop (h : ¬(p.transportLen.val < sizeofIcmphdr))
    : (ruleValidateICMP r).val.reqFlags.has stopProcessing = true ↔ p.IcmpMalformed := by
  rw [ruleValidateICMP_val, hr.fltPacket, if_neg h]
  split
  . next hm => exact iff_of_true (by simp) hm
  . next hm => exact iff_of_false (by simp [hr.reqFlags]) hm

theorem ruleValidateTransport_short (hp : AcceptedIp p) (h : p.ipLen.val < p.ipHdrLen.val)
    : (ruleValidateTransport r).Within p.bufferSize ∧
        (ruleValidateTransport r).val.reqFlags.has stopProcessing = true ↔
      TransportRefused p := by
  have hmin := validated_min hr hp
  have hT := FltPacket.transportLen_of_lt h
  have hH := p.ipHdrLen_le
  have hnu : ¬(p.transportLen.val < sizeofUdphdr) := by simp; omega
  have hnt : ¬(p.transportLen.val < sizeofTcphdr) := by simp; omega
  have hni : ¬(p.transportLen.val < sizeofIcmphdr) := by simp; omega
  have hP : (p.ipP).Within p.bufferSize := by
    have := hp.hmin
    simp at *
    omega
  simp only [ruleValidateTransport, Logged.bind_val, Logged.ite_val, Logged.within_bind,
    Logged.within_ite, hr.fltPacket, hP, true_and, TransportRefused]
  by_cases hu : p.ipP.val = ipprotoUdp
  . have hw := ruleValidateUDP_within_iff r hmin
    simp only [hr.fltPacket, hnu, false_or] at hw
    rw [if_pos hu, ruleValidateUDP_stop hr hnu, hu]
    simp [hw]
  . by_cases ht : p.ipP.val = ipprotoTcp
    . have hw := ruleValidateTCP_within_iff r hmin
      simp only [hr.fltPacket, hnt, false_or] at hw
      rw [if_neg hu, if_pos ht, ruleValidateTCP_stop hr hnt, ht]
      simp [hw, and_assoc, ← or_and_left]
    . by_cases hi : p.ipP.val = ipprotoIcmp
      . have hw := ruleValidateICMP_within_iff r hmin
        simp only [hr.fltPacket, hni, false_or] at hw
        rw [if_neg hu, if_neg ht, if_pos hi, ruleValidateICMP_stop hr hni, hw]
        constructor
        . rintro ⟨_, hm⟩
          exact Or.inr (Or.inr ⟨hi, hm⟩)
        . rintro (⟨hp, _⟩ | ⟨hp, _⟩ | ⟨_, hm⟩)
          . exact absurd hp hu
          . exact absurd hp ht
          . refine ⟨⟨fun hp => absurd hp hu, fun _ => ⟨fun hp => absurd hp ht, fun _ => ?_⟩⟩, hm⟩
            exact ⟨fun _ => Or.inl hm, fun hp => absurd hi hp⟩
      . rw [if_neg hu, if_neg ht, if_neg hi]
        apply iff_of_false
        . simp [hr.reqFlags]
        . rintro (⟨hp, _⟩ | ⟨hp, _⟩ | ⟨hp, _⟩)
          . exact hu hp
          . exact ht hp
          . exact hi hp

end Transport

/-! ### The bounds of `InitPacketHeaders` -/

def HeadersChecked (p : FltPacket) (m : Logged FwRequest) : Prop :=
  m.Within p.bufferSize ∧
    (m.val.reqFlags.has stopProcessing = false → HeadersInside m.val)

theorem headersChecked_of_stop {m : Logged FwRequest} (hw : m.Within p.bufferSize)
    (hs : m.val.reqFlags.has stopProcessing = true) : HeadersChecked p m := by
  refine ⟨hw, fun h => ?_⟩
  rw [hs] at h
  cases h

theorem headersChecked_ruleValidateArp
    : HeadersChecked p (ruleValidateArp (ethernetRequest id p)) := by
  refine ⟨ruleValidateArp_within (ethernetRequest id p), fun _ => ?_⟩
  have hnone : ∀ r : FwRequest, r.pIp = none → r.pUdp = none → r.pTcp = none → r.pIcmp = none →
      HeadersInside r := by
    intro r h1 h2 h3 h4
    exact ⟨by simp [h1], by simp [h2], by simp [h3], by simp [h4]⟩
  have harp : ∃ o f, (ruleValidateArp (ethernetRequest id p)).val =
      { (ethernetRequest id p) with pArp := o, reqFlags := f } := by
    simp only [ruleValidateArp, Logged.bind_val, Logged.ite_val, Logged.pure_val]
    repeat' split
    all_goals exact ⟨_, _, rfl⟩
  obtain ⟨o, f, h⟩ := harp
  rw [h]
  exact hnone _ rfl rfl rfl rfl

theorem headersChecked_of_not_acceptedIp (hmax : p.bufferSize ≤ maxEtherSize)
    (hproto : (p.loadWord 12).val = nethPIp) (h : ¬AcceptedIp p)
    : HeadersChecked p (initIpHeaders isLocalAddress (ethernetRequest id p)) := by
  obtain ⟨o, hr⟩ := ruleValidateIP_refuses (ethernetRequest id p) hmax hproto h
  have hs : (ruleValidateIP (ethernetRequest id p)).val.reqFlags.has stopProcessing = true := by
    rw [hr]
    simp
  have hw := ruleValidateIP_within (ethernetRequest id p)
  apply headersChecked_of_stop
  . simp only [initIpHeaders, Logged.within_bind, Logged.within_ite, hs]
    exact ⟨hw, by simp, fun h => absurd trivial h⟩
  . simp [initIpHeaders, hs]

theorem ruleValidateTransport_kept (r : FwRequest)
    : (ruleValidateTransport r).val.pIp = r.pIp ∧
        (ruleValidateTransport r).val.fltPacket = r.fltPacket := by
  simp only [ruleValidateTransport, Logged.bind_val, Logged.ite_val, Logged.pure_val,
    ruleValidateUDP_val, ruleValidateTCP_val, ruleValidateICMP_val]
  repeat' split
  all_goals exact ⟨rfl, rfl⟩

theorem headersChecked_of_acceptedIp (h : AcceptedIp p)
    : HeadersChecked p (initIpHeaders isLocalAddress (ethernetRequest id p)) ↔
        p.ipHdrLen.val ≤ p.ipLen.val ∨ TransportRefused p := by
  obtain ⟨r, hr, hval, hwithin⟩ := initIpHeaders_of_accepted isLocalAddress id p h
  rw [HeadersChecked, hval, hwithin]
  by_cases hle : p.ipHdrLen.val ≤ p.ipLen.val
  . exact iff_of_true
      ⟨ruleValidateTransport_within hr h hle, ruleValidateTransport_inside hr hle⟩ (Or.inl hle)
  . have hlt : p.ipLen.val < p.ipHdrLen.val := Nat.lt_of_not_le hle
    rw [or_iff_right hle, ← ruleValidateTransport_short hr h hlt]
    refine and_congr_right fun _ => ?_
    -- the IP header alone already sticks out of such a datagram
    have hout : ¬HeadersInside (ruleValidateTransport r).val := by
      intro hin
      have hkept := ruleValidateTransport_kept r
      have := (hin.ip mHdrSize (hkept.1.trans hr.pIp)).2
      rw [hkept.2, hr.fltPacket] at this
      omega
    constructor
    . intro himp
      by_contra hstop
      exact hout (himp (by simpa using hstop))
    . intro hstop hstop'
      rw [hstop] at hstop'
      cases hstop'

/--
`InitPacketHeaders` reads only inside the buffer, and the headers it finds lie inside the datagram,
unless the datagram claims to be shorter than its own header and the transport validator, which takes
its length for close to `65536`, goes through with it or reads behind the buffer.
-/
theorem headersChecked_initPacketHeaders
    : HeadersChecked p (initPacketHeaders isLocalAddress (.allocateRequest id p)) ↔
        (AcceptedIp p → p.ipHdrLen.val ≤ p.ipLen.val ∨ TransportRefused p) := by
  have hfltPacket : (FwRequest.allocateRequest id p).fltPacket = p := rfl
  unfold initPacketHeaders
  simp only [hfltPacket]
  split
  . next hsize =>
    have hna : ¬AcceptedIp p := by
      intro h
      have := h.hmin
      have := h.hmax
      simp at *
      omega
    exact iff_of_true (headersChecked_of_stop p (by simp) (by simp)) (fun h => absurd h hna)
  . next hsize =>
    have hmin : sizeofEtherHeader ≤ p.bufferSize := by omega
    have hmax : p.bufferSize ≤ maxEtherSize := by omega
    have hbind : ∀ f : Nat → Logged FwRequest,
        HeadersChecked p (p.loadWord 12 >>= f) ↔ HeadersChecked p (f (p.loadWord 12).val) := by
      intro f
      have h12 : (p.loadWord 12).Within p.bufferSize := by
        simp at *
        omega
      simp only [HeadersChecked, Logged.within_bind, Logged.bind_val, h12, true_and]
    rw [hbind]
    split
    . next hproto =>
      by_cases h : AcceptedIp p
      . rw [forall_prop_of_true h]
        exact headersChecked_of_acceptedIp isLocalAddress id p h
      . exact iff_of_true
          (headersChecked_of_not_acceptedIp isLocalAddress id p hmax hproto h)
          (fun h' => absurd h' h)
    . next hproto =>
      have hna : ¬AcceptedIp p := fun h => hproto h.hproto
      apply iff_of_true
      . split
        . apply headersChecked_ruleValidateArp
        . apply headersChecked_of_stop
          . simp
          . simp
      . exact fun h => absurd h hna

def zeroLengthFrame : FltPacket where
  direction := .inbound
  bufferSize := 34
  -- `ip_len` is 0, and the destination port and the checksum would lie behind the buffer
  buffer i :=
    ([0, 0, 0, 0, 0, 0, 0, 0, 0, 0, 0, 0, 0x08, 0x00, 0x45, 0, 0, 0, 0, 0, 0, 0, 64, 17]).getD i 0

theorem not_headersChecked_zeroLengthFrame
    : ¬HeadersChecked zeroLengthFrame
        (initPacketHeaders (fun _ => true) (.allocateRequest 0 zeroLengthFrame)) := by
  have hread : 38 ∈ (initPacketHeaders (fun _ => true) (.allocateRequest 0 zeroLengthFrame)).reads := by
    decide
  intro h
  have := h.1 38 hread
  simp [zeroLengthFrame] at this

end Ansfw
