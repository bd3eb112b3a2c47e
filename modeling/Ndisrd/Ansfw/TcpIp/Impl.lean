import Ndisrd.Ansfw.Request

/-!
This module contains the header analysis of `tcpip.c`: `InitPacketHeaders` and the validators it
calls. Each returns the request as it leaves it and logs the offsets of the buffer it reads.
-/

/-! Constants of `iphlp.h`. -/

@[simp]
def nethPIp : Nat := 0x0008
@[simp]
def nethPArp : Nat := 0x0608
@[simp]
def nethPTrail : Nat := 0x0010
@[simp]
def arphrdEther : Nat := 1
@[simp]
def arphrdIeee802 : Nat := 6
@[simp]
def arpopRequest : Nat := 1
@[simp]
def arpopReply : Nat := 2
@[simp]
def ipprotoIcmp : Nat := 1
@[simp]
def ipprotoTcp : Nat := 6
@[simp]
def ipprotoUdp : Nat := 17
@[simp]
def ipprotoMax : Nat := 256
@[simp]
def ipOffmask : Nat := 0x3FFF

@[simp]
def sizeofEtherHeader : Nat := 14
@[simp]
def sizeofIphdr : Nat := 20
@[simp]
def sizeofUdphdr : Nat := 8
@[simp]
def sizeofTcphdr : Nat := 20
@[simp]
def sizeofIcmphdr : Nat := 8
@[simp]
def sizeofArphdr : Nat := 8
@[simp]
def sizeofEtherArp : Nat := 28

namespace TcpFlag

def fin : Nat := 0x01
def syn : Nat := 0x02
def rst : Nat := 0x04
def push : Nat := 0x08
def ack : Nat := 0x10
def urg : Nat := 0x20
def cwr : Nat := 0x40
def ece : Nat := 0x80

end TcpFlag

namespace FltPacket

/-! The fields of the IP header, which starts behind the MAC header. -/

def ipHdrLen (p : FltPacket) : Logged Nat := do
  let b ← p.loadByte mHdrSize
  return b % 16 * 4

def ipLen (p : FltPacket) : Logged Nat := do return ntohs (← p.loadWord (mHdrSize + 2))
def ipId (p : FltPacket) : Logged Nat := do return ntohs (← p.loadWord (mHdrSize + 4))
def ipOff (p : FltPacket) : Logged Nat := do return ntohs (← p.loadWord (mHdrSize + 6))
def ipTtl (p : FltPacket) : Logged Nat := p.loadByte (mHdrSize + 8)
def ipP (p : FltPacket) : Logged Nat := p.loadByte (mHdrSize + 9)
def ipSrc (p : FltPacket) : Logged Nat := p.loadDword (mHdrSize + 12)
def ipDst (p : FltPacket) : Logged Nat := p.loadDword (mHdrSize + 16)

-- The length of what follows the IP header, computed in a `WORD`: it wraps when `ip_len` is
-- smaller than the header length.
def transportLen (p : FltPacket) : Logged Nat := do
  let ipLen ← p.ipLen
  let ipHdrLen ← p.ipHdrLen
  return (ipLen + 65536 - ipHdrLen) % 65536

end FltPacket

open ReqFlags

namespace Ansfw

def ruleValidateIP (pFwPacket : FwRequest) : Logged FwRequest := do
  let p := pFwPacket.fltPacket
  if p.bufferSize < sizeofIphdr + mHdrSize then
    return pFwPacket.refuse malformedIp
  let pFwPacket := { pFwPacket with pIp := some mHdrSize }
  if p.bufferSize < (← p.ipLen) + mHdrSize then
    return pFwPacket.refuse malformedIp
  if (← p.ipHdrLen) < sizeofIphdr then
    return pFwPacket.refuse malformedIp
  if ipprotoMax ≤ (← p.ipP) then
    return pFwPacket.refuse malformedIp
  let pFwPacket := { pFwPacket with
    ipProto := ← p.ipP
    sourceAddr := ← p.ipSrc
    destAddr := ← p.ipDst }
  if (← p.ipOff) &&& ipOffmask ≠ 0 then
    return pFwPacket.flag fragmentedIp
  return pFwPacket

def ruleValidateUDP (pFwPacket : FwRequest) : Logged FwRequest := do
  let p := pFwPacket.fltPacket
  let nUdpLen ← p.transportLen
  if nUdpLen < sizeofUdphdr then
    return pFwPacket.refuse malformedUdp
  let pUdp := mHdrSize + (← p.ipHdrLen)
  let pFwPacket := { pFwPacket with pUdp := some pUdp }
  let length ← do pure (ntohs (← p.loadWord (pUdp + 4)))
  if nUdpLen < length ∨ length < sizeofUdphdr then
    return pFwPacket.refuse malformedUdp
  return { pFwPacket with
    sourcePort := ← p.loadWord pUdp
    destPort := ← p.loadWord (pUdp + 2) }

def ufValidTCPFlags (tcpFlags : Nat) : Bool :=
  tcpFlags ∈ [
    TcpFlag.syn,
    TcpFlag.syn ||| TcpFlag.ack,
    TcpFlag.syn ||| TcpFlag.ack ||| TcpFlag.push,
    TcpFlag.rst,
    TcpFlag.rst ||| TcpFlag.ack,
    TcpFlag.rst ||| TcpFlag.ack ||| TcpFlag.push,
    TcpFlag.fin ||| TcpFlag.ack,
    TcpFlag.ack,
    TcpFlag.ack ||| TcpFlag.push,
    TcpFlag.ack ||| TcpFlag.urg ||| TcpFlag.push,
    TcpFlag.ack ||| TcpFlag.urg,
    TcpFlag.fin ||| TcpFlag.ack ||| TcpFlag.push,
    TcpFlag.fin ||| TcpFlag.ack ||| TcpFlag.urg,
    TcpFlag.fin ||| TcpFlag.ack ||| TcpFlag.urg ||| TcpFlag.push
  ]

-- The complement is the one of a byte.
def maskTCPFlags (thFlags : Nat) : Nat := thFlags &&& (0xFF ^^^ (TcpFlag.ece ||| TcpFlag.cwr))

def ruleValidateTCP (pFwPacket : FwRequest) : Logged FwRequest := do
  let p := pFwPacket.fltPacket
  let nTcpLen ← p.transportLen
  if nTcpLen < sizeofTcphdr then
    return pFwPacket.refuse malformedTcp
  let pTcp := mHdrSize + (← p.ipHdrLen)
  let pFwPacket := { pFwPacket with pTcp := some pTcp }
  -- th_off is the high nibble of its byte
  let thOff ← do pure ((← p.loadByte (pTcp + 12)) / 16 * 4)
  if thOff < sizeofTcphdr ∨ nTcpLen < thOff ∨ maxTcpHeaderSize < thOff then
    return pFwPacket.refuse malformedTcp
  if !ufValidTCPFlags (maskTCPFlags (← p.loadByte (pTcp + 13))) then
    return pFwPacket.refuse invalidTcpFlags
  return { pFwPacket with
    sourcePort := ← p.loadWord pTcp
    destPort := ← p.loadWord (pTcp + 2) }

def ruleValidateICMP (pFwPacket : FwRequest) : Logged FwRequest := do
  let p := pFwPacket.fltPacket
  let nIcmpLen ← p.transportLen
  if nIcmpLen < sizeofIcmphdr then
    return pFwPacket.refuse malformedIcmp
  let pIcmp := mHdrSize + (← p.ipHdrLen)
  let pFwPacket := { pFwPacket with pIcmp := some pIcmp }
  if maxIcmpPacketSize < nIcmpLen ∧ p.direction = .inbound then
    return pFwPacket.refuse malformedIcmp
  let icmpType ← p.loadByte pIcmp
  let icmpCode ← p.loadByte (pIcmp + 1)
  -- m_Type and m_Code are the low bytes of the port fields
  return { pFwPacket with
    sourcePort := pFwPacket.sourcePort / 256 * 256 + icmpType
    destPort := pFwPacket.destPort / 256 * 256 + icmpCode }

def ruleValidateArp (pFwPacket : FwRequest) : Logged FwRequest := do
  let p := pFwPacket.fltPacket
  if p.bufferSize < sizeofArphdr + mHdrSize then
    return pFwPacket.refuse malformedIp
  if p.bufferSize < sizeofEtherArp + mHdrSize then
    return pFwPacket.refuse notEthernet
  let pFwPacket := { pFwPacket with pArp := some mHdrSize }
  let arpHrd ← p.loadWord mHdrSize
  if arpHrd ≠ htons arphrdEther ∧ arpHrd ≠ htons arphrdIeee802 then
    return pFwPacket.refuse notEthernet
  let arpPro ← p.loadWord (mHdrSize + 2)
  if arpPro ≠ nethPIp ∧ arpPro ≠ nethPTrail then
    return pFwPacket.refuse notEthernet
  let arpOp ← p.loadWord (mHdrSize + 6)
  if arpOp ≠ htons arpopRequest ∧ arpOp ≠ htons arpopReply then
    return pFwPacket.refuse notEthernet
  if (← p.loadByte (mHdrSize + 4)) ≠ 6 ∨ (← p.loadByte (mHdrSize + 5)) ≠ 4 then
    return pFwPacket.refuse notEthernet
  return pFwPacket.flag arp

def ruleValidateTransport (pFwPacket : FwRequest) : Logged FwRequest := do
  let ipP ← pFwPacket.fltPacket.ipP
  if ipP = ipprotoUdp then
    ruleValidateUDP pFwPacket
  else if ipP = ipprotoTcp then
    ruleValidateTCP pFwPacket
  else if ipP = ipprotoIcmp then
    ruleValidateICMP pFwPacket
  else
    return pFwPacket

variable (isLocalAddress : Nat → Bool)

-- Marks an inbound packet that is not for one of our own addresses.
def markRouted (pFwPacket : FwRequest) : Logged FwRequest := do
  if pFwPacket.fltPacket.direction = .inbound then
    if !isLocalAddress (← pFwPacket.fltPacket.ipDst) then
      return pFwPacket.flag routed
  return pFwPacket

def initIpHeaders (pFwPacket : FwRequest) : Logged FwRequest := do
  let pFwPacket ← ruleValidateIP pFwPacket
  if pFwPacket.reqFlags.has stopProcessing then
    return pFwPacket
  let pFwPacket ← markRouted isLocalAddress pFwPacket
  ruleValidateTransport pFwPacket

def initPacketHeaders (pFwPacket : FwRequest) : Logged FwRequest := do
  let p := pFwPacket.fltPacket
  if p.bufferSize < sizeofEtherHeader ∨ maxEtherSize < p.bufferSize then
    return pFwPacket.refuse notEthernet
  let pFwPacket := { pFwPacket with pEthernet := some 0 }
  let hProto ← p.loadWord 12
  if hProto = nethPIp then
    initIpHeaders isLocalAddress pFwPacket
  else if hProto = nethPArp then
    ruleValidateArp pFwPacket
  else
    return pFwPacket.refuse notEthernet

end Ansfw
