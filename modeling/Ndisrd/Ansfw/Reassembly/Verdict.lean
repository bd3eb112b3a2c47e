import Ndisrd.Ansfw.TcpIp.Fragment
import Ndisrd.Ansfw.Reassembly.Delivery
import Ndisrd.Ansfw.Reassembly.Queue

/-!
This module contains what the clients are told about a reassembled datagram: the ports and flags that
were found on its first fragment, and exactly when they are those of the whole datagram.
-/

open ReqFlags

namespace Ansfw

/-! ### The transport header of a datagram -/

namespace Datagram

variable (D : Datagram)

def word (i : Nat) : Nat := wordOfBytes (D.payload i) (D.payload (i + 1))

def udpLength : Nat := ntohs (D.word 4)

def tcpHdrLen : Nat := (D.payload 12).toNat / 16 * 4

def tcpFlags : Nat := (D.payload 13).toNat

def transportHdrLen : Nat := if D.protocol = ipprotoTcp then D.tcpHdrLen else 8

inductive WellFormed : Prop where
  | udp (hproto : D.protocol = ipprotoUdp) (hmin : sizeofUdphdr ≤ D.udpLength)
      (hmax : D.udpLength ≤ D.length) : WellFormed
  | tcp (hproto : D.protocol = ipprotoTcp) (hmin : sizeofTcphdr ≤ D.tcpHdrLen)
      (hmax : D.tcpHdrLen ≤ maxTcpHeaderSize) (hlen : D.tcpHdrLen ≤ D.length)
      (hflags : ufValidTCPFlags (maskTCPFlags D.tcpFlags) = true) : WellFormed
  | icmp (hproto : D.protocol = ipprotoIcmp) (hmin : sizeofIcmphdr ≤ D.length)
      (hmax : D.length ≤ maxIcmpPacketSize) : WellFormed

-- `m_Type` and `m_Code` share their place with the low bytes of the two ports.
def PortsOf (r : FwRequest) : Prop :=
  if D.protocol = ipprotoIcmp then
    r.sourcePort % 256 = (D.payload 0).toNat ∧ r.destPort % 256 = (D.payload 1).toNat
  else
    r.sourcePort = D.word 0 ∧ r.destPort = D.word 2

def key : Nat × Nat × Nat × Nat := (D.ident, D.protocol, D.dest, D.source)

theorem hasKey_iff (d : DataList) : D.HasKey d ↔ d.key = D.key := by
  simp only [HasKey, DataList.key, key, Prod.mk.injEq]

end Datagram

theorem Piece.key_eq {D : Datagram} {r : FwRequest} (hr : Piece D r) : (fragHdr r).key = D.key := by
  simp only [FragHdr.key, Datagram.key, hr.ident, hr.protocol, hr.dest, hr.source]

def refusals : List ReqFlags := [stopProcessing, malformedIp, malformedUdp, malformedTcp, malformedIcmp]

def Clean (r : FwRequest) : Prop := ∀ f ∈ refusals, r.reqFlags.has f = false

structure Verdict (D : Datagram) (r : FwRequest) : Prop where
  ports : D.PortsOf r
  clean : Clean r

theorem forall_mem_refusals {P : ReqFlags → Prop}
    : (∀ f ∈ refusals, P f) ↔
        P stopProcessing ∧ P malformedIp ∧ P malformedUdp ∧ P malformedTcp ∧ P malformedIcmp := by
  simp [refusals]

theorem clean_of_zero {r : FwRequest} (h : r.reqFlags = 0#32) : Clean r := by
  intro f hf
  rw [h, has_zero]

theorem Clean.or {r r' : FwRequest} (hr : Clean r) {f : ReqFlags}
    (hf : ∀ g ∈ refusals, f.has g = false) (hflags : r'.reqFlags = r.reqFlags ||| f)
    : Clean r' := by
  intro g hg
  rw [hflags, has_or, hr g hg, hf g hg]
  rfl

theorem not_clean_refuse (r : FwRequest) (f : ReqFlags) : ¬Clean (r.refuse f) := by
  intro h
  have hstop := h stopProcessing List.mem_cons_self
  rw [FwRequest.has_stopProcessing_refuse] at hstop
  cases hstop

/-! ### The validators on a packet with the first bytes of a datagram -/

/--
A packet with a 20-byte header, `len` bytes of payload, and the first `n` bytes of the payload of `D`
behind its header.
-/
structure StartsLike (D : Datagram) (n len : Nat) (p : FltPacket) : Prop where
  hdr : p.ipHdrLen.val = 20
  protocol : p.ipP.val = D.protocol
  length : p.ipLen.val = 20 + len
  bytes : ∀ i < n, p.buffer (34 + i) = D.payload i

namespace StartsLike

variable {D : Datagram} {n len : Nat} {p : FltPacket} (hp : StartsLike D n len p)
include hp

theorem transportLen : p.transportLen.val = len := by
  have hhdr := hp.hdr
  have hlen := hp.length
  rw [FltPacket.transportLen_of_le (by omega)]
  omega

theorem transportAt : p.transportAt = 34 := by
  rw [FltPacket.transportAt, hp.hdr, mHdrSize]

theorem loadByte {i : Nat} (hi : i < n) : (p.loadByte (34 + i)).val = (D.payload i).toNat := by
  rw [FltPacket.loadByte, hp.bytes i hi]

theorem loadWord {i : Nat} (hi : i + 1 < n) : (p.loadWord (34 + i)).val = D.word i := by
  rw [FltPacket.loadWord, Datagram.word, hp.bytes i (by omega), Nat.add_assoc, hp.bytes (i + 1) hi]

theorem ports (hn : 4 ≤ n)
    : (p.loadWord 34).val = D.word 0 ∧ (p.loadWord 36).val = D.word 2 := by
  have hsource := hp.loadWord (show 0 + 1 < n by omega)
  have hdest := hp.loadWord (show 2 + 1 < n by omega)
  exact ⟨hsource, hdest⟩

theorem udpLength (hn : 8 ≤ n) : p.udpLength = D.udpLength := by
  rw [FltPacket.udpLength, hp.transportAt, hp.loadWord (by omega), Datagram.udpLength]

theorem tcpHdrLen (hn : 20 ≤ n) : p.tcpHdrLen = D.tcpHdrLen := by
  rw [FltPacket.tcpHdrLen, hp.transportAt, hp.loadByte (by omega), Datagram.tcpHdrLen]

theorem tcpFlags (hn : 20 ≤ n) : p.tcpFlags = D.tcpFlags := by
  rw [FltPacket.tcpFlags, hp.transportAt, hp.loadByte (by omega), Datagram.tcpFlags]

end StartsLike

section Validators

variable {D : Datagram} {n len : Nat} {r : FwRequest} (hp : StartsLike D n len r.fltPacket)
variable (hclean : Clean r) (hlen : n ≤ len)
include hp hclean hlen

theorem verdict_ruleValidateUDP (hproto : D.protocol = ipprotoUdp) (hn : 8 ≤ n)
    (hmin : sizeofUdphdr ≤ D.udpLength)
    : Verdict D (ruleValidateUDP r).val ↔ D.udpLength ≤ len := by
  have hicmp : D.protocol ≠ ipprotoIcmp := by
    rw [hproto]
    decide
  have hshort : ¬(len < sizeofUdphdr) := by
    simp only [sizeofUdphdr]
    omega
  simp only [ruleValidateUDP_val, FltPacket.UdpMalformed, hp.transportLen, hp.udpLength hn,
    if_neg hshort]
  split
  . next hbad =>
    apply iff_of_false
    . intro hv
      exact not_clean_refuse _ _ hv.clean
    . omega
  . next hgood =>
    apply iff_of_true
    . refine ⟨?_, hclean⟩
      rw [Datagram.PortsOf, if_neg hicmp, hp.transportAt]
      exact hp.ports (by omega)
    . omega

theorem verdict_ruleValidateTCP (hproto : D.protocol = ipprotoTcp) (hn : D.tcpHdrLen ≤ n)
    (hmin : sizeofTcphdr ≤ D.tcpHdrLen) (hmax : D.tcpHdrLen ≤ maxTcpHeaderSize)
    (hflags : ufValidTCPFlags (maskTCPFlags D.tcpFlags) = true)
    : Verdict D (ruleValidateTCP r).val := by
  have hicmp : D.protocol ≠ ipprotoIcmp := by
    rw [hproto]
    decide
  simp only [sizeofTcphdr] at hmin
  have hshort : ¬(len < sizeofTcphdr) := by
    simp only [sizeofTcphdr]
    omega
  have hgood : ¬(D.tcpHdrLen < sizeofTcphdr ∨ len < D.tcpHdrLen ∨ maxTcpHeaderSize < D.tcpHdrLen) := by
    simp only [sizeofTcphdr]
    omega
  have hvalid : ¬(ufValidTCPFlags (maskTCPFlags D.tcpFlags) = false) := by
    rw [hflags]
    decide
  have hhdr := hp.tcpHdrLen (by omega)
  have hfl := hp.tcpFlags (by omega)
  simp only [ruleValidateTCP_val, FltPacket.TcpMalformed, FltPacket.TcpFlagsInvalid, hp.transportLen,
    hhdr, hfl, if_neg hshort, if_neg hgood, if_neg hvalid]
  refine ⟨?_, hclean⟩
  rw [Datagram.PortsOf, if_neg hicmp, hp.transportAt]
  exact hp.ports (by omega)

theorem verdict_ruleValidateICMP (hproto : D.protocol = ipprotoIcmp) (hn : 8 ≤ n)
    (hmax : len ≤ maxIcmpPacketSize)
    : Verdict D (ruleValidateICMP r).val := by
  have hshort : ¬(len < sizeofIcmphdr) := by
    simp only [sizeofIcmphdr]
    omega
  have hgood : ¬(maxIcmpPacketSize < len ∧ r.fltPacket.direction = .inbound) := by
    omega
  simp only [ruleValidateICMP_val, FltPacket.IcmpMalformed, hp.transportLen, if_neg hshort,
    if_neg hgood]
  refine ⟨?_, hclean⟩
  have htype := hp.loadByte (show 0 < n by omega)
  have hcode := hp.loadByte (show 1 < n by omega)
  rw [Datagram.PortsOf, if_pos hproto, hp.transportAt]
  simp only
  rw [htype, hcode]
  have := (D.payload 0).toNat_lt
  have := (D.payload 1).toNat_lt
  omega

theorem verdict_ruleValidateTransport (hwf : D.WellFormed) (hn : D.transportHdrLen ≤ n)
    (hmax : len ≤ D.length)
    : Verdict D (ruleValidateTransport r).val ↔ (D.protocol = ipprotoUdp → D.udpLength ≤ len) := by
  simp only [ruleValidateTransport, Logged.bind_val, Logged.ite_val, hp.protocol]
  unfold Datagram.transportHdrLen at hn
  cases hwf with
  | udp hproto hmin _ =>
    rw [hproto, if_neg (by decide)] at hn
    rw [hproto, if_pos rfl, forall_prop_of_true rfl]
    exact verdict_ruleValidateUDP hp hclean hlen hproto hn hmin
  | tcp hproto hmin hmax' _ hflags =>
    rw [hproto, if_pos rfl] at hn
    rw [hproto, if_neg (by decide), if_pos rfl]
    apply iff_of_true
    . exact verdict_ruleValidateTCP hp hclean hlen hproto hn hmin hmax' hflags
    . intro h
      cases h
  | icmp hproto _ hmax' =>
    rw [hproto, if_neg (by decide)] at hn
    rw [hproto, if_neg (by decide), if_neg (by decide), if_pos rfl]
    apply iff_of_true
    . exact verdict_ruleValidateICMP hp hclean hlen hproto hn (by omega)
    . intro h
      cases h

end Validators

/-! ### Fragments as `RequestCallback` hands them over -/

def Received (isLocalAddress : Nat → Bool) (r : FwRequest) : Prop :=
  ∃ id p pid,
    p.direction = .inbound ∧
      r = { (initPacketHeaders isLocalAddress (.allocateRequest id p)).val with pid := pid } ∧
      r.reqFlags.has fragmentedIp = true

theorem clean_markRouted (isLocalAddress : Nat → Bool) {r : FwRequest} (hr : Clean r)
    : Clean (markRouted isLocalAddress r).val := by
  cases markRouted_val isLocalAddress r with
  | inl heq =>
    rw [heq]
    exact hr
  | inr heq =>
    rw [heq]
    apply hr.or _ (FwRequest.reqFlags_flag r routed)
    rw [forall_mem_refusals]
    decide

theorem clean_ruleValidateIP (id : Nat) {p : FltPacket} (h : AcceptedIp p)
    : Clean (ruleValidateIP (ethernetRequest id p)).val := by
  have hzero : Clean (ethernetRequest id p) := clean_of_zero rfl
  rw [ruleValidateIP_val _ h]
  apply hzero.or _ rfl
  unfold FltPacket.fragFlag
  split
  . rw [forall_mem_refusals]
    decide
  . intro g _
    rw [has_zero]

theorem Received.validated {isLocalAddress : Nat → Bool} {r : FwRequest}
    (hr : Received isLocalAddress r)
    : ∃ r', r'.fltPacket = r.fltPacket ∧ Clean r' ∧
        ∀ D, Verdict D r ↔ Verdict D (ruleValidateTransport r').val := by
  obtain ⟨id, p, pid, _, heq, hfrag⟩ := hr
  rw [heq] at hfrag
  obtain ⟨hacc, _, hpacket⟩ := initPacketHeaders_fragmentedIp isLocalAddress id p hfrag
  refine ⟨_, ?_, clean_markRouted isLocalAddress (clean_ruleValidateIP id hacc), ?_⟩
  . rw [heq, markRouted_fltPacket, ruleValidateIP_val _ hacc]
    exact hpacket.symm
  . intro D
    rw [← initIpHeaders_val isLocalAddress id p hacc,
      ← initPacketHeaders_of_acceptedIp isLocalAddress id p hacc, heq]
    exact ⟨fun h => ⟨h.ports, h.clean⟩, fun h => ⟨h.ports, h.clean⟩⟩

theorem Piece.startsLike {D : Datagram} {r : FwRequest} (hr : Piece D r)
    (hoff : (fragHdr r).offset = 0)
    : StartsLike D ((fragHdr r).fullLength - 20) ((fragHdr r).fullLength - 20) r.fltPacket := by
  refine ⟨hr.hdr, hr.protocol, ?_, ?_⟩
  . have hmin := hr.min
    have hlen : r.fltPacket.ipLen.val = (fragHdr r).fullLength := rfl
    omega
  . intro i hi
    have hcarries : Carries (fragHdr r) (20 + i) := by
      simp only [Carries, hoff]
      omega
    have hbyte := hr.bytes (20 + i) hcarries
    rw [hoff, Nat.zero_mul, Nat.sub_zero, Nat.add_sub_cancel_left, ← Nat.add_assoc] at hbyte
    exact hbyte

theorem verdict_received {isLocalAddress : Nat → Bool} {D : Datagram} {r : FwRequest}
    (hwf : D.WellFormed) (hr : Piece D r) (hreceived : Received isLocalAddress r)
    (hoff : (fragHdr r).offset = 0) (hhdr : D.transportHdrLen + 20 ≤ (fragHdr r).fullLength)
    : Verdict D r ↔ (D.protocol = ipprotoUdp → D.udpLength + 20 ≤ (fragHdr r).fullLength) := by
  obtain ⟨r', hpacket, hclean, hverdict⟩ := hreceived.validated
  have hfits := hr.fits
  have hmin := hr.min
  have hstarts := hr.startsLike hoff
  rw [← hpacket] at hstarts
  rw [hverdict, verdict_ruleValidateTransport hstarts hclean (Nat.le_refl _) hwf (by omega) (by omega)]
  refine forall_congr' fun _ => ?_
  omega

/-! ### What a datagram takes over from its first fragment -/

structure Copied (d : DataList) (f : FwRequest) : Prop where
  sourcePort : d.fwRequest.sourcePort = f.sourcePort
  destPort : d.fwRequest.destPort = f.destPort
  reqFlags : d.fwRequest.reqFlags = f.reqFlags

theorem copied_newDatagram (id : Nat) (r : FwRequest) {h : FragHdr} (hoff : h.offset = 0)
    : Copied (newDatagram (.zeroed id) r h) r := by
  rw [newDatagram, DataList.write_eq]
  simp only [if_pos hoff]
  exact ⟨rfl, rfl, rfl⟩

theorem copied_addFragment (d : DataList) (r : FwRequest) {h : FragHdr} (ops : List MemOp)
    (hmore : h.moreFragments = true) (hoff : h.offset = 0)
    : Copied (addFragment d r h ops) r := by
  rw [addFragment, DataList.write_eq]
  simp only [if_pos hmore, if_pos hoff]
  exact ⟨rfl, rfl, rfl⟩

theorem Copied.addFragment {d : DataList} {f : FwRequest} (hd : Copied d f) (r : FwRequest)
    {h : FragHdr} (ops : List MemOp) (hoff : h.offset ≠ 0)
    : Copied (Ansfw.addFragment d r h ops) f := by
  rw [Ansfw.addFragment, DataList.write_eq]
  simp only [if_neg hoff]
  split
  . exact ⟨hd.sourcePort, hd.destPort, hd.reqFlags⟩
  . exact ⟨hd.sourcePort, hd.destPort, hd.reqFlags⟩

theorem Copied.verdict_assembled {d : DataList} {f : FwRequest} (hd : Copied d f) (D : Datagram)
    (r : FwRequest)
    : Verdict D (assembled d r).fwRequest ↔ Verdict D f := by
  have hflags : (assembled d r).fwRequest.reqFlags = f.reqFlags ||| reassembled := by
    rw [← hd.reqFlags]
    rfl
  have hsource : (assembled d r).fwRequest.sourcePort = f.sourcePort := hd.sourcePort
  have hdest : (assembled d r).fwRequest.destPort = f.destPort := hd.destPort
  have hports : D.PortsOf (assembled d r).fwRequest ↔ D.PortsOf f := by
    simp only [Datagram.PortsOf, hsource, hdest]
  constructor
  . intro hv
    refine ⟨hports.mp hv.ports, ?_⟩
    intro g hg
    have hclean := hv.clean g hg
    rw [hflags, has_or, Bool.or_eq_false_iff] at hclean
    exact hclean.1
  . intro hv
    refine ⟨hports.mpr hv.ports, ?_⟩
    apply hv.clean.or _ hflags
    rw [forall_mem_refusals]
    decide

structure Gathered (D : Datagram) (frags : List FwRequest) (d : DataList) : Prop where
  assembledFrom : AssembledFrom D d.fragmentsList d
  mem : ∀ f ∈ d.fragmentsList, f ∈ frags
  copied : ∀ f ∈ d.fragmentsList, (fragHdr f).offset = 0 → Copied d f

theorem Gathered.of_eraseTtl {D : Datagram} {frags : List FwRequest} {d d' : DataList}
    (hd : Gathered D frags d) (heq : d.eraseTtl = d'.eraseTtl)
    : Gathered D frags d' := by
  have hkeep : Gathered D frags d.eraseTtl :=
    ⟨{ hd.assembledFrom with tracked := tracked_eraseTtl.mpr hd.assembledFrom.tracked }, hd.mem,
      fun f hf hoff => ⟨(hd.copied f hf hoff).sourcePort, (hd.copied f hf hoff).destPort,
        (hd.copied f hf hoff).reqFlags⟩⟩
  rw [heq] at hkeep
  exact ⟨{ hkeep.assembledFrom with tracked := tracked_eraseTtl.mp hkeep.assembledFrom.tracked }, hkeep.mem,
    fun f hf hoff => ⟨(hkeep.copied f hf hoff).sourcePort, (hkeep.copied f hf hoff).destPort,
      (hkeep.copied f hf hoff).reqFlags⟩⟩

section Gathering

variable {D : Datagram} (hD : D.length + 20 ≤ 65535) {frags : List FwRequest}
variable (hfrags : Pieces D frags) {r : FwRequest} (hr : r ∈ frags)
include hD hfrags hr

theorem gathered_newDatagram (id : Nat) : Gathered D frags (newDatagram (.zeroed id) r (fragHdr r)) := by
  have hnew := assembledFrom_newDatagram hD (hfrags.piece r hr) (hfrags.lastOffset r hr) id
  refine ⟨?_, ?_, ?_⟩
  . rw [fragmentsList_newDatagram]
    exact hnew
  . intro f hf
    rw [fragmentsList_newDatagram] at hf
    rw [List.mem_singleton.mp hf]
    exact hr
  . intro f hf hoff
    rw [fragmentsList_newDatagram] at hf
    rw [List.mem_singleton.mp hf] at hoff ⊢
    exact copied_newDatagram id r hoff

theorem Gathered.addFragment {d : DataList} (hd : Gathered D frags d) {ops : List MemOp}
    (hops : existingOps (fragHdr r) = some ops)
    : Gathered D frags (Ansfw.addFragment d r (fragHdr r) ops) := by
  have hhead : ∀ f ∈ d.fragmentsList, (fragHdr f).offset = 0 → (fragHdr r).offset = 0 → f = r := by
    intro f hf hf0 hr0
    exact hfrags.head f (hd.mem f hf) r hr hf0 hr0
  have hnew := hd.assembledFrom.addFragment hD (hfrags.piece r hr) (hfrags.lastOffset r hr) hops hhead
  refine ⟨?_, ?_, ?_⟩
  . rw [fragmentsList_addFragment]
    exact hnew
  . intro f hf
    rw [fragmentsList_addFragment] at hf
    rcases List.mem_cons.mp hf with hf | hf
    . rw [hf]
      exact hr
    . exact hd.mem f hf
  . intro f hf hoff
    rw [fragmentsList_addFragment] at hf
    by_cases hr0 : (fragHdr r).offset = 0
    . have hfr : f = r := by
        rcases List.mem_cons.mp hf with hf | hf
        . exact hf
        . exact hhead f hf hoff hr0
      rw [hfr]
      exact copied_addFragment d r ops (moreFragments_of_offset (hfrags.lastOffset r hr) hr0) hr0
    . rcases List.mem_cons.mp hf with hf | hf
      . rw [hf] at hoff
        exact absurd hoff hr0
      . exact (hd.copied f hf hoff).addFragment r ops hr0

end Gathering

/-! ### The assembled datagram -/

theorem ntohs_ntohs {n : Nat} (h : n < 65536) : ntohs (ntohs n) = n := by
  have hhigh : n / 256 % 256 = n / 256 := by omega
  have hhigh' : (n % 256 * 256 + n / 256) % 256 = n / 256 := by omega
  have hlow : (n % 256 * 256 + n / 256) / 256 % 256 = n % 256 := by omega
  rw [ntohs, ntohs, hhigh, hhigh', hlow]
  omega

theorem wordOfBytes_storeWord (buffer : Nat → UInt8) (i : Nat) {w : Nat} (hw : w < 65536)
    : wordOfBytes (storeWord buffer i w i) (storeWord buffer i w (i + 1)) = w := by
  have hlow : storeWord buffer i w i = UInt8.ofNat (w % 256) := if_pos rfl
  have hhigh : storeWord buffer i w (i + 1) = UInt8.ofNat (w / 256) := by
    rw [storeWord, if_neg (Nat.succ_ne_self i), if_pos rfl]
  rw [hlow, hhigh, wordOfBytes, UInt8.toNat_ofNat', UInt8.toNat_ofNat']
  omega

theorem prepareIpHeader_totallen (buf : Nat → UInt8) {totallen : Nat} (h : totallen < 65536)
    : ntohs (wordOfBytes (prepareIpHeader buf totallen 16) (prepareIpHeader buf totallen 17)) =
        totallen := by
  have hstored : ∀ i, i = 16 ∨ i = 17 →
      prepareIpHeader buf totallen i = storeWord (storeWord buf 24 0) 16 (ntohs totallen) i := by
    intro i hi
    simp only [prepareIpHeader, mHdrSize]
    rw [storeWord_other _ _ (by omega), storeWord_other _ _ (by omega)]
  rw [hstored 16 (Or.inl rfl), hstored 17 (Or.inr rfl), wordOfBytes_storeWord _ 16 (ntohs_lt _),
    ntohs_ntohs h]

theorem DeliveredFrom.startsLike {D : Datagram} {done : List FwRequest} {d : DataList}
    (hd : DeliveredFrom D done d) (hD : D.length + 20 ≤ 65535) (hpieces : ∀ f ∈ done, Piece D f)
    {f : FwRequest} (hf : f ∈ done) (hoff : (fragHdr f).offset = 0)
    : StartsLike D ((fragHdr f).fullLength - 20) D.length d.fwRequest.fltPacket := by
  obtain ⟨g, hg, _, buf, hfinal, hbuf⟩ := hd.header
  have hg' := hpieces g hg
  have hbuffer := hd.buffer
  refine ⟨?_, ?_, ?_, ?_⟩
  . have hhdr : (g.fltPacket.loadByte 14).val % 16 * 4 = 20 := hg'.hdr
    have hbyte : d.fwRequest.fltPacket.buffer 14 = g.fltPacket.buffer 14 := by
      rw [hbuffer, hfinal, prepareIpHeader_other _ _ (by omega), hbuf 14 (by decide) (by decide)]
    rw [FltPacket.loadByte, ← hbyte] at hhdr
    exact hhdr
  . have hproto : (g.fltPacket.loadByte 23).val = D.protocol := hg'.protocol
    have hbyte : d.fwRequest.fltPacket.buffer 23 = g.fltPacket.buffer 23 := by
      rw [hbuffer, hfinal, prepareIpHeader_other _ _ (by omega), hbuf 23 (by decide) (by decide)]
    rw [FltPacket.loadByte, ← hbyte] at hproto
    exact hproto
  . have htotal := prepareIpHeader_totallen buf (show D.length + 20 < 65536 by omega)
    rw [← hfinal, ← hbuffer] at htotal
    rw [Nat.add_comm 20]
    exact htotal
  . intro i hi
    have hcarries : Carries (fragHdr f) (20 + i) := by
      simp only [Carries, hoff]
      omega
    have hbyte := hd.payload f hf (20 + i) hcarries
    rw [Nat.add_sub_cancel_left, ← Nat.add_assoc] at hbyte
    rw [hbuffer]
    exact hbyte

structure HandedOver (D : Datagram) (frags : List FwRequest) (d : DataList) : Prop where
  head : ∃ f ∈ frags, (fragHdr f).offset = 0 ∧ (Verdict D d.fwRequest ↔ Verdict D f) ∧
    StartsLike D ((fragHdr f).fullLength - 20) D.length d.fwRequest.fltPacket

theorem Gathered.handedOver {D : Datagram} {frags : List FwRequest} {d : DataList}
    (hd : Gathered D frags d) (hD : D.length + 20 ≤ 65535) (hfrags : Pieces D frags)
    (hcomplete : Complete d = true) (r : FwRequest)
    : HandedOver D frags (assembled d r) := by
  have hasm := hd.assembledFrom
  have hlt := hasm.tracked.total
  simp only [Complete, Bool.and_eq_true, Bitmap.areBitsSet_iff, Nat.zero_add] at hcomplete
  obtain ⟨hlast, hpos, _, hset⟩ := hcomplete
  have hunits : UnitsArrived d.fragmentsList (D.length + 20) := by
    rw [← hasm.total hlast]
    exact ⟨hpos, fun u hu => (hasm.tracked.bits u).mp (hset u hu)⟩
  have hdelivered := deliveredFrom_assembled hasm hlast hunits r
  -- unit 0 is marked by a fragment at offset zero only
  obtain ⟨f, hf, hmark⟩ := hunits.2 0 hunits.1
  have hoff : (fragHdr f).offset = 0 := Nat.le_zero.mp hmark.1
  refine ⟨f, hd.mem f hf, hoff, (hd.copied f hf hoff).verdict_assembled D r, ?_⟩
  apply hdelivered.startsLike hD _ hf hoff
  intro g hg
  exact hfrags.piece g (hd.mem g hg)

/-! ### Runs -/

structure GatheredRun (D : Datagram) (frags : List FwRequest) (s : Reassembly) : Prop where
  intermed : ∀ r ∈ s.intermedQueue, (fragHdr r).key = D.key → r ∈ frags
  queue : ∀ d ∈ s.datagrQueue, d.key = D.key → Gathered D frags d
  injected : ∀ d ∈ s.injected, d.key = D.key → HandedOver D frags d

def FragmentsAre (D : Datagram) (frags : List FwRequest) : Event → Prop
  | .reassemblePacket r => (fragHdr r).key = D.key → r ∈ frags
  | _ => True

theorem gatheredRun_initializeReassembly (D : Datagram) (frags : List FwRequest)
    : GatheredRun D frags initializeReassembly := by
  refine ⟨?_, ?_, ?_⟩
  . intro r hr
    cases hr
  . intro d hd
    cases hd
  . intro d hd
    cases hd

section GatheredRun

variable {D : Datagram} (hD : D.length + 20 ≤ 65535) {frags : List FwRequest}
variable (hfrags : Pieces D frags)
include hD hfrags

theorem GatheredRun.analyze {s : Reassembly} (hs : GatheredRun D frags s) (env : Env) {r : FwRequest}
    (hr : (fragHdr r).key = D.key → r ∈ frags)
    : GatheredRun D frags (Ansfw.analyze env s r).1 := by
  obtain ⟨s', ops, heq, hana⟩ := analyzed env s r
  rw [heq]
  have hadd : ∀ {before d after ops}, Queued s r before d after → existingOps (fragHdr r) = some ops →
      d.key = D.key → Gathered D frags (addFragment d r (fragHdr r) ops) := by
    intro before d after ops hq hops hkey
    have hrkey := ((d.hasKey_iff _).mp hq.key).symm.trans hkey
    exact (hs.queue d hq.mem hkey).addFragment hD hfrags (hr hrkey) hops
  cases hana with
  | options => exact hs
  | oversize hhdr hq =>
    exact ⟨hs.intermed, fun d hd => hs.queue d (hq.mem_others hd), hs.injected⟩
  | @added before d after ops hhdr hq hops hcomplete =>
    refine ⟨hs.intermed, ?_, hs.injected⟩
    intro x hx hkey
    rcases hq.mem_updated hx with hx | hx
    . exact hs.queue x hx hkey
    . rw [hx, key_addFragment] at hkey
      rw [hx]
      exact hadd hq hops hkey
  | @completed before d after ops hhdr hq hops hcomplete =>
    refine ⟨?_, ?_, ?_⟩
    . rw [deliver, freeDatagram_intermedQueue]
      exact hs.intermed
    . rw [deliver, freeDatagram_datagrQueue]
      intro x hx
      exact hs.queue x (hq.mem_others hx)
    . rw [deliver, freeDatagram_injected]
      intro x hx hkey
      rcases List.mem_append.mp hx with hx | hx
      . exact hs.injected x hx hkey
      . rw [List.mem_singleton.mp hx] at hkey ⊢
        have hdkey : d.key = D.key := by
          rw [← key_addFragment d r (fragHdr r) ops]
          exact hkey
        exact (hadd hq hops hdkey).handedOver hD hfrags hcomplete r
  | tooLong => exact hs
  | noBuffer => exact hs
  | @created id free count hhdr hq =>
    refine ⟨hs.intermed, ?_, hs.injected⟩
    intro d hd hkey
    rcases List.mem_append.mp hd with hd | hd
    . exact hs.queue d hd hkey
    . rw [List.mem_singleton.mp hd] at hkey ⊢
      rw [key_newDatagram] at hkey
      exact gathered_newDatagram hD hfrags (hr hkey) id

theorem GatheredRun.step (s : Reassembly) (e : Event) (hs : GatheredRun D frags s)
    (he : FragmentsAre D frags e)
    : GatheredRun D frags (Ansfw.step s e) := by
  cases e with
  | reassemblePacket r =>
    refine ⟨?_, hs.queue, hs.injected⟩
    intro r' hr'
    rcases List.mem_append.mp hr' with hr' | hr'
    . exact hs.intermed r' hr'
    . rw [List.mem_singleton.mp hr']
      exact he
  | intermed env =>
    unfold Ansfw.step
    simp only
    split
    . exact hs
    . next r rest hq =>
      have hmem := hs.intermed
      rw [hq] at hmem
      have hrest : GatheredRun D frags { s with intermedQueue := rest } :=
        ⟨fun r' hr' => hmem r' (List.mem_cons_of_mem r hr'), hs.queue, hs.injected⟩
      exact hrest.analyze hD hfrags env (hmem r List.mem_cons_self)
  | ttlPass =>
    obtain ⟨kept, expired, _, heq⟩ := ttlDecrementThreadFunc_spec s
    refine ⟨?_, ?_, ?_⟩
    . rw [Ansfw.step, heq]
      exact hs.intermed
    . intro d hd hkey
      obtain ⟨d', hd', herase⟩ := ttlDecrementThreadFunc_mem hd
      apply Gathered.of_eraseTtl _ herase
      apply hs.queue d' hd'
      rw [← key_eraseTtl, herase, key_eraseTtl]
      exact hkey
    . rw [Ansfw.step, heq]
      exact hs.injected
  | freeClone id =>
    refine ⟨?_, ?_, ?_⟩
    . rw [Ansfw.step, freeCloneRequest_intermedQueue]
      exact hs.intermed
    . rw [Ansfw.step, freeCloneRequest_datagrQueue]
      exact hs.queue
    . rw [Ansfw.step, freeCloneRequest_injected]
      exact hs.injected

end GatheredRun

def FirstHolds (frags : List FwRequest) (n : Nat) : Prop :=
  ∀ f ∈ frags, (fragHdr f).offset = 0 → n + 20 ≤ (fragHdr f).fullLength

/--
What the clients are told about a delivered datagram, ports and flags, is what the validator finds on
the assembled datagram, if and only if the first fragment of a UDP datagram holds all that its length
field counts.
-/
theorem verdict_delivered_iff {isLocalAddress : Nat → Bool} {D : Datagram}
    (hD : D.length + 20 ≤ 65535) (hwf : D.WellFormed) {frags : List FwRequest}
    (hfrags : Fragments D 0 frags) (hlength : 2 ≤ frags.length)
    (hreceived : ∀ f ∈ frags, Received isLocalAddress f) (hheader : FirstHolds frags D.transportHdrLen)
    {es : List Event}
    (hes : ∀ r, .reassemblePacket r ∈ es → (fragHdr r).key = D.key → r ∈ frags)
    {d : DataList} (hd : d ∈ (Run.run step initializeReassembly es).injected) (hkey : d.key = D.key)
    : Verdict D (ruleValidateTransport (.allocateRequest d.id d.fwRequest.fltPacket)).val ∧
        (Verdict D d.fwRequest ↔ (D.protocol = ipprotoUdp → FirstHolds frags D.udpLength)) := by
  have hpieces := hfrags.pieces hlength
  have hevents : ∀ e ∈ es, FragmentsAre D frags e := by
    intro e he
    cases e with
    | reassemblePacket r => exact hes r he
    | _ => trivial
  have hrun := Run.inv_run (GatheredRun.step hD hpieces) (gatheredRun_initializeReassembly D frags)
    (Run.along_of_forall step hevents)
  obtain ⟨f, hf, hoff, hverdict, hstarts⟩ := (hrun.injected d hd hkey).head
  have hpiece := hpieces.piece f hf
  have hhdr := hheader f hf hoff
  have hfits := hpiece.fits
  constructor
  . have hwhole : StartsLike D ((fragHdr f).fullLength - 20) D.length
        (FwRequest.allocateRequest d.id d.fwRequest.fltPacket).fltPacket := hstarts
    rw [verdict_ruleValidateTransport hwhole (clean_of_zero rfl) (by omega) hwf (by omega)
      (Nat.le_refl _)]
    intro hproto
    cases hwf with
    | udp _ _ hmax => exact hmax
    | tcp hproto' =>
      rw [hproto] at hproto'
      cases hproto'
    | icmp hproto' =>
      rw [hproto] at hproto'
      cases hproto'
  . rw [hverdict, verdict_received hwf hpiece (hreceived f hf) hoff hhdr]
    refine forall_congr' fun _ => ?_
    constructor
    . intro hle g hg hoff'
      rw [hpieces.head g hg f hf hoff' hoff]
      exact hle
    . intro hfirst
      exact hfirst f hf hoff

def udpFrame (ipOff udpLen : Nat) : FltPacket where
  direction := .inbound
  bufferSize := 42
  buffer i :=
    match i with
    | 23 => 17
    | 39 => UInt8.ofNat udpLen
    | _ => (greFrame 42 28 ipOff).buffer i

def udpRequest (id ipOff udpLen : Nat) : FwRequest :=
  { (initPacketHeaders (fun _ => true) (.allocateRequest id (udpFrame ipOff udpLen))).val with
    pid := 0 }

def udpDatagram (udpLen : Nat) : Datagram where
  ident := 0
  protocol := 17
  source := 0
  dest := 0
  length := 16
  payload i := if i = 5 then UInt8.ofNat udpLen else 0

def udpFragments (udpLen : Nat) : List FwRequest := [udpRequest 0 0x2000 udpLen, udpRequest 1 1 0]

def udpRun (udpLen : Nat) : List Event :=
  (udpFragments udpLen).map .reassemblePacket ++ [.intermed ⟨true, 0⟩, .intermed ⟨true, 0⟩]

theorem mem_udpFragments_of_udpRun {udpLen : Nat} {r : FwRequest}
    (h : .reassemblePacket r ∈ udpRun udpLen)
    : r ∈ udpFragments udpLen := by
  simpa [udpRun, udpFragments] using h

theorem fragments_udpFragments {udpLen : Nat} (h : udpLen = 8 ∨ udpLen = 16)
    : Fragments (udpDatagram udpLen) 0 (udpFragments udpLen) := by
  rcases h with rfl | rfl
  all_goals
    refine ⟨1, Nat.one_pos, ?_, by decide, ?_⟩
    . exact ⟨by decide, by decide, by decide, by decide, by decide, by decide, by decide, by decide,
        by decide⟩
    . exact ⟨by decide, by decide, by decide, by decide, by decide, by decide, by decide, by decide,
        by decide⟩

theorem received_udpFragments {udpLen : Nat} (h : udpLen = 8 ∨ udpLen = 16)
    : ∀ f ∈ udpFragments udpLen, Received (fun _ => true) f := by
  intro f hf
  simp only [udpFragments, List.mem_cons, List.not_mem_nil, or_false] at hf
  rcases hf with rfl | rfl
  . refine ⟨0, udpFrame 0x2000 udpLen, 0, rfl, rfl, ?_⟩
    rcases h with rfl | rfl
    . decide
    . decide
  . exact ⟨1, udpFrame 1 0, 0, rfl, rfl, by decide⟩

theorem firstHolds_udpFragments {udpLen : Nat} (h : udpLen = 8 ∨ udpLen = 16)
    : FirstHolds (udpFragments udpLen) 8 := by
  intro f hf _
  simp only [udpFragments, List.mem_cons, List.not_mem_nil, or_false] at hf
  rcases hf with rfl | rfl
  . rcases h with rfl | rfl
    . decide
    . decide
  . decide

theorem verdict_delivered_iff_wholeFirst
    : ∃ d, d ∈ (Run.run step initializeReassembly (udpRun 8)).injected ∧
        d.key = (udpDatagram 8).key ∧ Verdict (udpDatagram 8) d.fwRequest := by
  have hlen : (udpDatagram 8).udpLength = 8 := by decide
  have hfirst := firstHolds_udpFragments (Or.inl rfl)
  have hrun : (Run.run step initializeReassembly (udpRun 8)).injected.map DataList.key =
      [(udpDatagram 8).key] := by
    decide
  generalize hds : (Run.run step initializeReassembly (udpRun 8)).injected = ds at hrun
  obtain ⟨d, rest, rfl, hkey, _⟩ := List.map_eq_cons_iff.mp hrun
  refine ⟨d, List.mem_cons_self, hkey, ?_⟩
  apply (verdict_delivered_iff (by decide) (.udp rfl (by decide) (by decide))
    (fragments_udpFragments (Or.inl rfl)) (by decide) (received_udpFragments (Or.inl rfl)) hfirst
    (fun r hr _ => mem_udpFragments_of_udpRun hr) (by rw [hds]; exact List.mem_cons_self) hkey).2.mpr
  intro _
  rw [hlen]
  exact hfirst

theorem not_verdict_udpRun
    : ¬∀ (isLocalAddress : Nat → Bool) (D : Datagram) (frags : List FwRequest) (es : List Event)
        (d : DataList),
        D.length + 20 ≤ 65535 → D.WellFormed → Fragments D 0 frags → 2 ≤ frags.length →
        (∀ f ∈ frags, Received isLocalAddress f) → FirstHolds frags D.transportHdrLen →
        (∀ r, .reassemblePacket r ∈ es → (fragHdr r).key = D.key → r ∈ frags) →
        d ∈ (Run.run step initializeReassembly es).injected → d.key = D.key →
        Verdict D d.fwRequest := by
  intro h
  have hrun : (Run.run step initializeReassembly (udpRun 16)).injected.map
      (fun d => (d.key, d.fwRequest.reqFlags.has stopProcessing)) = [((0, 17, 0, 0), true)] := by
    decide
  generalize hds : (Run.run step initializeReassembly (udpRun 16)).injected = ds at hrun
  obtain ⟨d, rest, rfl, hd, _⟩ := List.map_eq_cons_iff.mp hrun
  injection hd with hkey hstop
  have hv := h (fun _ => true) (udpDatagram 16) (udpFragments 16) (udpRun 16) d (by decide)
    (.udp rfl (by decide) (by decide)) (fragments_udpFragments (Or.inr rfl)) (by decide)
    (received_udpFragments (Or.inr rfl)) (firstHolds_udpFragments (Or.inr rfl))
    (fun r hr _ => mem_udpFragments_of_udpRun hr) (by rw [hds]; exact List.mem_cons_self) hkey
  have hclean := hv.clean stopProcessing List.mem_cons_self
  rw [hstop] at hclean
  cases hclean

end Ansfw
