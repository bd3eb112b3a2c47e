import Ndisrd.Shared.Basic

/-!
This module contains the `FW_REQUEST` record that `ansfw` makes of a packet, and the flag word that
says what was found out about it.
-/

abbrev ReqFlags := BitVec 32

namespace ReqFlags

def stopProcessing : ReqFlags := 0x00000001#32
def notEthernet : ReqFlags := 0x00000002#32
def malformedIp : ReqFlags := 0x00000004#32
def fragmentedIp : ReqFlags := 0x00000010#32
def malformedUdp : ReqFlags := 0x00000020#32
def malformedTcp : ReqFlags := 0x00000080#32
def invalidTcpFlags : ReqFlags := 0x00000200#32
def malformedIcmp : ReqFlags := 0x00000400#32
def routed : ReqFlags := 0x04000000#32
def arp : ReqFlags := 0x08000000#32
def loopback : ReqFlags := 0x10000000#32
def reassembled : ReqFlags := 0x40000000#32

def has (flags f : ReqFlags) : Bool := flags &&& f != 0#32

@[simp]
theorem has_zero (f : ReqFlags) : has 0#32 f = false := by
  simp [has]

@[simp]
theorem has_or (x y f : ReqFlags) : has (x ||| y) f = (has x f || has y f) := by
  have h : (x ||| y) &&& f = (x &&& f) ||| (y &&& f) := BitVec.and_or_distrib_right
  have hor : ∀ a b : BitVec 32, a ||| b = 0#32 ↔ a = 0#32 ∧ b = 0#32 := by
    intro a b
    simp [BitVec.or_eq_zero_iff]
  rw [Bool.eq_iff_iff]
  simp only [has, h, bne_iff_ne, ne_eq, hor, Bool.or_eq_true]
  apply Decidable.not_and_iff_or_not

end ReqFlags

/--
`FW_REQUEST`. The `m_p..` pointers point into the packet's buffer and are kept as offsets in it,
`none` for a null pointer. `id` tells one request object from another.
-/
structure FwRequest where
  id : Nat
  fltPacket : FltPacket
  pid : Nat
  reqFlags : ReqFlags
  ipProto : Nat
  sourceAddr : Nat
  destAddr : Nat
  -- `m_Type` and `m_Code` are the low bytes of these two
  sourcePort : Nat
  destPort : Nat
  pEthernet : Option Nat
  pArp : Option Nat
  pIp : Option Nat
  pTcp : Option Nat
  pUdp : Option Nat
  pIcmp : Option Nat

namespace FwRequest

def allocateRequest (id : Nat) (pFltPacket : FltPacket) : FwRequest where
  id := id
  fltPacket := pFltPacket
  pid := 0
  reqFlags := 0#32
  ipProto := 0
  sourceAddr := 0
  destAddr := 0
  sourcePort := 0
  destPort := 0
  pEthernet := none
  pArp := none
  pIp := none
  pTcp := none
  pUdp := none
  pIcmp := none

def flag (r : FwRequest) (f : ReqFlags) : FwRequest := { r with reqFlags := r.reqFlags ||| f }

@[simp]
theorem reqFlags_flag (r : FwRequest) (f : ReqFlags) : (r.flag f).reqFlags = r.reqFlags ||| f := rfl

@[simp]
theorem fltPacket_flag (r : FwRequest) (f : ReqFlags) : (r.flag f).fltPacket = r.fltPacket := rfl

@[simp]
theorem id_flag (r : FwRequest) (f : ReqFlags) : (r.flag f).id = r.id := rfl

def refuse (r : FwRequest) (f : ReqFlags) : FwRequest := r.flag (ReqFlags.stopProcessing ||| f)

@[simp]
theorem has_stopProcessing_refuse (r : FwRequest) (f : ReqFlags)
    : (r.refuse f).reqFlags.has ReqFlags.stopProcessing = true := by
  have : ReqFlags.has ReqFlags.stopProcessing ReqFlags.stopProcessing = true := by decide
  simp [refuse, this]

@[simp]
theorem fltPacket_refuse (r : FwRequest) (f : ReqFlags) : (r.refuse f).fltPacket = r.fltPacket := rfl

end FwRequest
