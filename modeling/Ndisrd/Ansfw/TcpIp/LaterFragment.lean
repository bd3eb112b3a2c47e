import Ndisrd.Ansfw.TcpIp.Fragment
import Ndisrd.Ansfw.Connections.PacketPid

/-!
This module contains what `InitPacketHeaders` and `GetPacketPid` make of a fragment that is not the
first one of its datagram: it has no transport header, but its payload is read as one.
-/

open ReqFlags

namespace FltPacket

structure LaterFragment (p : FltPacket) : Prop where
  hproto : (p.loadWord 12).val = nethPIp
  offset : p.ipOff.val % 0x2000 ≠ 0

/--
Packets that agree in their MAC and IP headers and differ at most behind them.
-/
structure SameHeaders (p q : FltPacket) : Prop where
  direction : q.direction = p.direction
  bufferSize : q.bufferSize = p.bufferSize
  bytes : ∀ i < mHdrSize + max sizeofIphdr p.ipHdrLen.val, q.buffer i = p.buffer i

section SameHeaders

variable {p q : FltPacket} (h : SameHeaders p q)
include h

theorem SameHeaders.byte {i : Nat} (hi : i < 34) : q.buffer i = p.buffer i := by
  apply h.bytes
  simp only [mHdrSize, sizeofIphdr]
  omega

theorem SameHeaders.loadByte {i : Nat} (hi : i < 34) : (q.loadByte i).val = (p.loadByte i).val := by
  simp only [FltPacket.loadByte, h.byte hi]

theorem SameHeaders.loadWord {i : Nat} (hi : i < 33) : (q.loadWord i).val = (p.loadWord i).val := by
  simp only [FltPacket.loadWord, h.byte (show i < 34 by omega), h.byte (show i + 1 < 34 by omega)]

theorem SameHeaders.loadDword {i : Nat} (hi : i < 31)
    : (q.loadDword i).val = (p.loadDword i).val := by
  simp only [FltPacket.loadDword, h.byte (show i < 34 by omega), h.byte (show i + 1 < 34 by omega),
    h.byte (show i + 2 < 34 by omega), h.byte (show i + 3 < 34 by omega)]

theorem SameHeaders.ipHdrLen : q.ipHdrLen.val = p.ipHdrLen.val := by
  simp only [FltPacket.ipHdrLen, Logged.bind_val, Logged.pure_val, h.loadByte (show mHdrSize < 34 by decide)]

theorem SameHeaders.ipLen : q.ipLen.val = p.ipLen.val := by
  simp only [FltPacket.ipLen, Logged.bind_val, Logged.pure_val,
    h.loadWord (show mHdrSize + 2 < 33 by decide)]

theorem SameHeaders.ipOff : q.ipOff.val = p.ipOff.val := by
  simp only [FltPacket.ipOff, Logged.bind_val, Logged.pure_val,
    h.loadWord (show mHdrSize + 6 < 33 by decide)]

theorem SameHeaders.ipP : q.ipP.val = p.ipP.val := h.loadByte (by decide)

theorem SameHeaders.ipSrc : q.ipSrc.val = p.ipSrc.val := h.loadDword (by decide)

theorem SameHeaders.ipDst : q.ipDst.val = p.ipDst.val := h.loadDword (by decide)

end SameHeaders

def HasTransport (p : FltPacket) : Prop :=
  p.ipP.val = ipprotoUdp ∨ p.ipP.val = ipprotoTcp ∨ p.ipP.val = ipprotoIcmp

end FltPacket

namespace Ansfw

open FltPacket (LaterFragment SameHeaders HasTransport)

theorem SameHeaders.acceptedIp {p q : FltPacket} (h : SameHeaders p q)
    : AcceptedIp q ↔ AcceptedIp p := by
  have hproto := h.loadWord (show 12 < 33 by decide)
  have hsize := h.bufferSize
  have hlen := h.ipLen
  have hhdr := h.ipHdrLen
  constructor
  . intro hq
    exact ⟨hproto ▸ hq.hproto, hsize ▸ hq.hmin, hsize ▸ hq.hmax, by have := hq.hlen; omega,
      hhdr ▸ hq.hhdr⟩
  . intro hp
    exact ⟨hproto ▸ hp.hproto, hsize ▸ hp.hmin, hsize ▸ hp.hmax, by have := hp.hlen; omega,
      hhdr ▸ hp.hhdr⟩

def transportFlags : List ReqFlags := [malformedUdp, malformedTcp, invalidTcpFlags, malformedIcmp]

theorem forall_mem_transportFlags {P : ReqFlags → Prop}
    : (∀ f ∈ transportFlags, P f) ↔
        P malformedUdp ∧ P malformedTcp ∧ P invalidTcpFlags ∧ P malformedIcmp := by
  simp [transportFlags]

/--
Nothing of a transport header was found, and nothing was found wrong with one. `m_Type` and `m_Code`
are parts of the two ports.
-/
structure NoTransport (r : FwRequest) : Prop where
  sourcePort : r.sourcePort = 0
  destPort : r.destPort = 0
  pTcp : r.pTcp = none
  pUdp : r.pUdp = none
  pIcmp : r.pIcmp = none
  flags : ∀ f ∈ transportFlags, r.reqFlags.has f = false

variable (isLocalAddress : Nat → Bool) (getPidFromLocalInfo : FiveTuple → Nat) (id : Nat)

def analysed (p : FltPacket) : FwRequest :=
  getPacketPid getPidFromLocalInfo (initPacketHeaders isLocalAddress (.allocateRequest id p)).val

structure PayloadUnread (p : FltPacket) : Prop where
  noTransport : NoTransport (analysed isLocalAddress getPidFromLocalInfo id p)
  sameFor : ∀ q, SameHeaders p q →
    let r := analysed isLocalAddress getPidFromLocalInfo id p
    let r' := analysed isLocalAddress getPidFromLocalInfo id q
    r'.sourcePort = r.sourcePort ∧ r'.destPort = r.destPort ∧ r'.reqFlags = r.reqFlags ∧
      r'.pid = r.pid

/-! ### Packets that no transport validator sees -/

theorem markRouted_eq (r : FwRequest)
    : (markRouted isLocalAddress r).val =
        if r.fltPacket.direction = .inbound ∧ isLocalAddress r.fltPacket.ipDst.val = false then
          r.flag routed
        else
          r := by
  simp only [markRouted, Logged.bind_val, Logged.ite_val, Logged.pure_val, Bool.not_eq_true']
  by_cases hin : r.fltPacket.direction = .inbound
  . simp [hin]
  . simp [hin]

theorem ruleValidateTransport_of_other {r : FwRequest} (h : ¬HasTransport r.fltPacket)
    : (ruleValidateTransport r).val = r := by
  have hudp : ¬r.fltPacket.ipP.val = ipprotoUdp := fun hp => h (Or.inl hp)
  have htcp : ¬r.fltPacket.ipP.val = ipprotoTcp := fun hp => h (Or.inr (Or.inl hp))
  have hicmp : ¬r.fltPacket.ipP.val = ipprotoIcmp := fun hp => h (Or.inr (Or.inr hp))
  simp only [ruleValidateTransport, Logged.bind_val, Logged.pure_val, if_neg hudp, if_neg htcp,
    if_neg hicmp]

/--
The flags of a packet of which only the headers up to the IP header are looked at, and what it asks for
its process by.
-/
def headerView (p : FltPacket) : ReqFlags × FiveTuple :=
  if p.bufferSize < sizeofEtherHeader ∨ maxEtherSize < p.bufferSize then
    (stopProcessing ||| notEthernet, ⟨0, 0, 0, 0, 0⟩)
  else if p.bufferSize < sizeofIphdr + mHdrSize ∨ p.bufferSize < p.ipLen.val + mHdrSize ∨
      p.ipHdrLen.val < sizeofIphdr then
    (stopProcessing ||| malformedIp, ⟨0, 0, 0, 0, 0⟩)
  else
    (if p.direction = .inbound ∧ isLocalAddress p.ipDst.val = false then
        p.fragFlag ||| routed
      else
        p.fragFlag,
      ⟨p.ipP.val, p.ipSrc.val, 0, p.ipDst.val, 0⟩)

theorem SameHeaders.headerView {p q : FltPacket} (h : SameHeaders p q)
    : headerView isLocalAddress q = headerView isLocalAddress p := by
  unfold Ansfw.headerView FltPacket.fragFlag
  rw [h.bufferSize, h.ipLen, h.ipHdrLen, h.direction, h.ipDst, h.ipSrc, h.ipP, h.ipOff]

structure Unparsed (p : FltPacket) (r : FwRequest) : Prop where
  noTransport : NoTransport r
  view : (r.reqFlags, pidRequest r) = headerView isLocalAddress p

theorem NoTransport.flag {r : FwRequest} (hr : NoTransport r) {f : ReqFlags}
    (hf : ∀ f' ∈ transportFlags, f.has f' = false)
    : NoTransport (r.flag f) := by
  refine ⟨hr.sourcePort, hr.destPort, hr.pTcp, hr.pUdp, hr.pIcmp, fun f' hf' => ?_⟩
  rw [FwRequest.reqFlags_flag, has_or, hr.flags f' hf', hf f' hf']
  rfl

theorem NoTransport.refuse {r : FwRequest} (hr : NoTransport r) {f : ReqFlags}
    (hf : f = notEthernet ∨ f = malformedIp)
    : NoTransport (r.refuse f) := by
  apply hr.flag
  rcases hf with rfl | rfl
  . exact forall_mem_transportFlags.mpr ⟨by decide, by decide, by decide, by decide⟩
  . exact forall_mem_transportFlags.mpr ⟨by decide, by decide, by decide, by decide⟩

theorem view_refuse {r : FwRequest} (hflags : r.reqFlags = 0#32) (hproto : r.ipProto = 0)
    (hsource : r.sourceAddr = 0) (hdest : r.destAddr = 0) (f : ReqFlags)
    : ((r.refuse f).reqFlags, pidRequest (r.refuse f)) =
        (stopProcessing ||| f, ⟨0, 0, 0, 0, 0⟩) := by
  have hother : r.ipProto ≠ ipprotoTcp ∧ r.ipProto ≠ ipprotoUdp := by
    rw [hproto]
    decide
  rw [FwRequest.refuse, FwRequest.reqFlags_flag, hflags, BitVec.zero_or, pidRequest_flag,
    pidRequest_of_other hother, hproto, hsource, hdest]

theorem noTransport_of_zero {r : FwRequest} (hr : r.reqFlags = 0#32) (hsource : r.sourcePort = 0)
    (hdest : r.destPort = 0) (htcp : r.pTcp = none) (hudp : r.pUdp = none) (hicmp : r.pIcmp = none)
    : NoTransport r := by
  refine ⟨hsource, hdest, htcp, hudp, hicmp, fun f _ => ?_⟩
  rw [hr, has_zero]

theorem fragFlag_noTransport (p : FltPacket)
    : ∀ f ∈ transportFlags, p.fragFlag.has f = false := by
  unfold FltPacket.fragFlag
  split
  . exact forall_mem_transportFlags.mpr ⟨by decide, by decide, by decide, by decide⟩
  . exact fun f _ => has_zero f

section Unparsed

variable {p : FltPacket} (hproto : (p.loadWord 12).val = nethPIp)
include hproto

theorem acceptedIp_iff
    : AcceptedIp p ↔
        ¬(p.bufferSize < sizeofEtherHeader ∨ maxEtherSize < p.bufferSize) ∧
          ¬(p.bufferSize < sizeofIphdr + mHdrSize ∨ p.bufferSize < p.ipLen.val + mHdrSize ∨
            p.ipHdrLen.val < sizeofIphdr) := by
  constructor
  . intro h
    have hmin := h.hmin
    have hmax := h.hmax
    have hlen := h.hlen
    have hhdr := h.hhdr
    simp only [sizeofIphdr, mHdrSize, sizeofEtherHeader] at *
    omega
  . intro ⟨hsize, hbad⟩
    exact ⟨hproto, by omega, by omega, by omega, by omega⟩

theorem unparsed_refused (h : ¬AcceptedIp p)
    : Unparsed isLocalAddress p (initPacketHeaders isLocalAddress (.allocateRequest id p)).val := by
  rw [initPacketHeaders_val]
  by_cases hsize : p.bufferSize < sizeofEtherHeader ∨ maxEtherSize < p.bufferSize
  . rw [if_pos hsize]
    refine ⟨(noTransport_of_zero rfl rfl rfl rfl rfl rfl).refuse (Or.inl rfl), ?_⟩
    rw [headerView, if_pos hsize]
    exact view_refuse rfl rfl rfl rfl notEthernet
  . have hmalformed := fun hok => h ((acceptedIp_iff hproto).mpr ⟨hsize, hok⟩)
    rw [if_neg hsize, if_pos hproto]
    obtain ⟨o, hr⟩ := ruleValidateIP_refuses (ethernetRequest id p)
      (by simp only [ethernetRequest, FwRequest.allocateRequest]; omega) hproto h
    have hinit : (initIpHeaders isLocalAddress (ethernetRequest id p)).val =
        { ethernetRequest id p with pIp := o }.refuse malformedIp := by
      simp [initIpHeaders, hr]
    rw [hinit]
    refine ⟨(noTransport_of_zero rfl rfl rfl rfl rfl rfl).refuse (Or.inr rfl), ?_⟩
    rw [headerView, if_neg hsize, if_pos (Decidable.not_not.mp hmalformed)]
    exact view_refuse rfl rfl rfl rfl malformedIp

theorem unparsed_other (h : AcceptedIp p) (hother : ¬HasTransport p)
    : Unparsed isLocalAddress p (initPacketHeaders isLocalAddress (.allocateRequest id p)).val := by
  have hview := (acceptedIp_iff hproto).mp h
  have hpid : p.ipP.val ≠ ipprotoTcp ∧ p.ipP.val ≠ ipprotoUdp :=
    ⟨fun hp => hother (Or.inr (Or.inl hp)), fun hp => hother (Or.inl hp)⟩
  have hip := ruleValidateIP_val (ethernetRequest id p) h
  have hflags : (ruleValidateIP (ethernetRequest id p)).val.reqFlags = p.fragFlag := by
    rw [hip, ethernetRequest, FwRequest.allocateRequest, BitVec.zero_or]
  have hrequest : pidRequest (ruleValidateIP (ethernetRequest id p)).val =
      ⟨p.ipP.val, p.ipSrc.val, 0, p.ipDst.val, 0⟩ := by
    rw [hip]
    exact pidRequest_of_other hpid
  have hzero : NoTransport (ruleValidateIP (ethernetRequest id p)).val := by
    rw [hip]
    refine ⟨rfl, rfl, rfl, rfl, rfl, fun f hf => ?_⟩
    rw [has_or, fragFlag_noTransport _ f hf, ethernetRequest, FwRequest.allocateRequest, has_zero]
    rfl
  have hpacket : (ruleValidateIP (ethernetRequest id p)).val.fltPacket = p := by
    rw [hip]
    rfl
  have hrouted := markRouted_fltPacket isLocalAddress (ruleValidateIP (ethernetRequest id p)).val
  rw [initPacketHeaders_of_acceptedIp isLocalAddress id p h, initIpHeaders_val isLocalAddress id p h,
    ruleValidateTransport_of_other (by rwa [hrouted, hpacket]), markRouted_eq, hpacket]
  split
  . next hroute =>
    refine ⟨hzero.flag ?_, ?_⟩
    . exact forall_mem_transportFlags.mpr ⟨by decide, by decide, by decide, by decide⟩
    . rw [headerView, if_neg hview.1, if_neg hview.2, if_pos hroute, FwRequest.reqFlags_flag, hflags,
        pidRequest_flag, hrequest]
  . next hroute =>
    refine ⟨hzero, ?_⟩
    rw [headerView, if_neg hview.1, if_neg hview.2, if_neg hroute, hflags, hrequest]

theorem unparsed (h : ¬(AcceptedIp p ∧ HasTransport p))
    : Unparsed isLocalAddress p (initPacketHeaders isLocalAddress (.allocateRequest id p)).val := by
  by_cases hacc : AcceptedIp p
  . exact unparsed_other isLocalAddress id hproto hacc fun hT => h ⟨hacc, hT⟩
  . exact unparsed_refused isLocalAddress id hproto hacc

end Unparsed

theorem payloadUnread_of_unparsed {p : FltPacket} (hproto : (p.loadWord 12).val = nethPIp)
    (h : ¬(AcceptedIp p ∧ HasTransport p))
    : PayloadUnread isLocalAddress getPidFromLocalInfo id p := by
  have hp := unparsed isLocalAddress id hproto h
  refine ⟨⟨hp.noTransport.sourcePort, hp.noTransport.destPort, hp.noTransport.pTcp,
    hp.noTransport.pUdp, hp.noTransport.pIcmp, hp.noTransport.flags⟩, ?_⟩
  intro q hsame
  have hprotoq : (q.loadWord 12).val = nethPIp := (hsame.loadWord (by decide)).trans hproto
  have hacc := SameHeaders.acceptedIp hsame
  have hT : HasTransport q ↔ HasTransport p := by
    rw [HasTransport, HasTransport, hsame.ipP]
  have hq := unparsed isLocalAddress id hprotoq (by rwa [hacc, hT])
  have hview := hq.view.trans ((SameHeaders.headerView isLocalAddress hsame).trans hp.view.symm)
  injection hview with hflags hpid
  refine ⟨?_, ?_, hflags, congrArg getPidFromLocalInfo hpid⟩
  . exact hq.noTransport.sourcePort.trans hp.noTransport.sourcePort.symm
  . exact hq.noTransport.destPort.trans hp.noTransport.destPort.symm

/-! ### Packets that a transport validator sees -/

theorem not_noTransport_refuse {r : FwRequest} {f : ReqFlags} (hf : f ∈ transportFlags)
    (hself : (stopProcessing ||| f).has f = true)
    : ¬NoTransport (r.refuse f) := by
  intro h
  have hno := h.flags f hf
  rw [FwRequest.refuse, FwRequest.reqFlags_flag, has_or, hself, Bool.or_true] at hno
  cases hno

theorem not_noTransport_ruleValidateTransport {r : FwRequest} (h : HasTransport r.fltPacket)
    : ¬NoTransport (ruleValidateTransport r).val := by
  have hmem : ∀ f, f ∈ transportFlags ↔
      f = malformedUdp ∨ f = malformedTcp ∨ f = invalidTcpFlags ∨ f = malformedIcmp := by
    simp [transportFlags]
  rcases h with hudp | htcp | hicmp
  . simp only [ruleValidateTransport, Logged.bind_val, if_pos hudp, ruleValidateUDP_val]
    repeat' split
    . exact not_noTransport_refuse ((hmem _).mpr (Or.inl rfl)) (by decide)
    . exact not_noTransport_refuse ((hmem _).mpr (Or.inl rfl)) (by decide)
    . exact fun hno => Option.some_ne_none _ hno.pUdp
  . have hudp : ¬r.fltPacket.ipP.val = ipprotoUdp := by
      rw [htcp]
      decide
    simp only [ruleValidateTransport, Logged.bind_val, if_neg hudp, if_pos htcp, ruleValidateTCP_val]
    repeat' split
    . exact not_noTransport_refuse ((hmem _).mpr (Or.inr (Or.inl rfl))) (by decide)
    . exact not_noTransport_refuse ((hmem _).mpr (Or.inr (Or.inl rfl))) (by decide)
    . exact not_noTransport_refuse ((hmem _).mpr (Or.inr (Or.inr (Or.inl rfl)))) (by decide)
    . exact fun hno => Option.some_ne_none _ hno.pTcp
  . have hudp : ¬r.fltPacket.ipP.val = ipprotoUdp := by
      rw [hicmp]
      decide
    have htcp : ¬r.fltPacket.ipP.val = ipprotoTcp := by
      rw [hicmp]
      decide
    simp only [ruleValidateTransport, Logged.bind_val, if_neg hudp, if_neg htcp, if_pos hicmp,
      ruleValidateICMP_val]
    repeat' split
    . exact not_noTransport_refuse ((hmem _).mpr (Or.inr (Or.inr (Or.inr rfl)))) (by decide)
    . exact not_noTransport_refuse ((hmem _).mpr (Or.inr (Or.inr (Or.inr rfl)))) (by decide)
    . exact fun hno => Option.some_ne_none _ hno.pIcmp

theorem not_noTransport_of_accepted {p : FltPacket} (h : AcceptedIp p) (hT : HasTransport p)
    : ¬NoTransport (initPacketHeaders isLocalAddress (.allocateRequest id p)).val := by
  have hip := ruleValidateIP_val (ethernetRequest id p) h
  have hpacket : (ruleValidateIP (ethernetRequest id p)).val.fltPacket = p := by
    rw [hip]
    rfl
  rw [initPacketHeaders_of_acceptedIp isLocalAddress id p h, initIpHeaders_val isLocalAddress id p h]
  apply not_noTransport_ruleValidateTransport
  rwa [markRouted_fltPacket, hpacket]

/--
The payload of a later fragment is left unread, and has no influence on what is known of the packet, if
and only if the packet is refused before its protocol is looked at or has none of the three protocols
with a validator.
-/
theorem payloadUnread_iff {p : FltPacket} (hp : LaterFragment p)
    : PayloadUnread isLocalAddress getPidFromLocalInfo id p ↔ ¬(AcceptedIp p ∧ HasTransport p) := by
  constructor
  . intro h ⟨hacc, hT⟩
    have hno := h.noTransport
    exact not_noTransport_of_accepted isLocalAddress id hacc hT
      ⟨hno.sourcePort, hno.destPort, hno.pTcp, hno.pUdp, hno.pIcmp, hno.flags⟩
  . exact payloadUnread_of_unparsed isLocalAddress getPidFromLocalInfo id hp.hproto

-- An outgoing fragment at offset 8 whose payload looks like a UDP header from port 53.
def laterFrame (protocol : Nat) : FltPacket where
  direction := .out
  bufferSize := 42
  buffer i :=
    match i with
    | 12 => 0x08
    | 14 => 0x45
    | 17 => 28
    | 21 => 1
    | 23 => UInt8.ofNat protocol
    | 35 => 53
    | 39 => 8
    | _ => 0

theorem payloadUnread_laterFrame
    : PayloadUnread (fun _ => true) (fun _ => 0) 0 (laterFrame 47) := by
  rw [payloadUnread_iff (fun _ => true) (fun _ => 0) 0 ⟨by decide, by decide⟩]
  intro ⟨_, hT⟩
  unfold HasTransport at hT
  revert hT
  decide

theorem not_payloadUnread_laterFrame
    : ¬∀ p : FltPacket, LaterFragment p → PayloadUnread (fun _ => true) (fun _ => 0) 0 p := by
  intro h
  have hport := (h (laterFrame 17) ⟨by decide, by decide⟩).noTransport.sourcePort
  revert hport
  decide

end Ansfw
