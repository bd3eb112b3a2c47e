import Mathlib.Tactic.Common
import Ndisrd.Lib.Logged

/-!
This module contains the types that both drivers share: `NTSTATUS`, the `FLT_PACKET` buffer, and the
little-endian loads and byte swaps through which its headers are read.
-/

/--
A 32-bit status code. The code tests it either for equality with `STATUS_SUCCESS` or with
`NT_SUCCESS`, which is a sign test.
-/
abbrev NtStatus := BitVec 32

namespace NtStatus

def success : NtStatus := 0x00000000#32
def pending : NtStatus := 0x00000103#32
def unsuccessful : NtStatus := 0xC0000001#32
def insufficientResources : NtStatus := 0xC000009A#32
def cancelled : NtStatus := 0xC0000120#32
def bufferOverflow : NtStatus := 0x80000005#32
def invalidParameter : NtStatus := 0xC000000D#32
def notFound : NtStatus := 0xC0000225#32

def ntSuccess (status : NtStatus) : Bool := decide (0 ≤ status.toInt)

@[simp]
theorem ntSuccess_success : ntSuccess success = true := by decide

@[simp]
theorem ntSuccess_unsuccessful : ntSuccess unsuccessful = false := by decide

theorem unsuccessful_ne_success : unsuccessful ≠ success := by decide

theorem insufficientResources_ne_success : insufficientResources ≠ success := by decide

end NtStatus

inductive Direction where
  | out
  | inbound
  deriving DecidableEq, Repr

/-! Constants of `ether.h`. -/

@[simp]
def etherAddrLength : Nat := 6
@[simp]
def maxEtherSize : Nat := 1514
@[simp]
def maxTcpHeaderSize : Nat := 60
@[simp]
def maxIcmpPacketSize : Nat := 2064

@[simp]
def mHdrSize : Nat := 14

/--
A packet as `ansfltr` gathers it: `m_BufferSize` bytes at `m_pBuffer`. The bytes at and behind
`bufferSize` are whatever memory follows the buffer.
-/
structure FltPacket where
  direction : Direction
  bufferSize : Nat
  buffer : Nat → UInt8

def wordOfBytes (b0 b1 : UInt8) : Nat := b0.toNat + 256 * b1.toNat

def dwordOfBytes (b0 b1 b2 b3 : UInt8) : Nat := wordOfBytes b0 b1 + 65536 * wordOfBytes b2 b3

namespace FltPacket

def loadByte (p : FltPacket) (i : Nat) : Logged Nat := ⟨(p.buffer i).toNat, [i]⟩

def loadWord (p : FltPacket) (i : Nat) : Logged Nat :=
  ⟨wordOfBytes (p.buffer i) (p.buffer (i + 1)), [i, i + 1]⟩

def loadDword (p : FltPacket) (i : Nat) : Logged Nat :=
  ⟨dwordOfBytes (p.buffer i) (p.buffer (i + 1)) (p.buffer (i + 2)) (p.buffer (i + 3)),
    [i, i + 1, i + 2, i + 3]⟩

@[simp]
theorem within_loadByte (p : FltPacket) (i n : Nat) : (p.loadByte i).Within n ↔ i < n := by
  simp [Logged.Within, loadByte]

@[simp]
theorem within_loadWord (p : FltPacket) (i n : Nat) : (p.loadWord i).Within n ↔ i + 1 < n := by
  simp only [Logged.Within, loadWord, List.mem_cons, List.not_mem_nil, or_false, forall_eq_or_imp,
    forall_eq]
  omega

@[simp]
theorem within_loadDword (p : FltPacket) (i n : Nat) : (p.loadDword i).Within n ↔ i + 3 < n := by
  simp only [Logged.Within, loadDword, List.mem_cons, List.not_mem_nil, or_false, forall_eq_or_imp,
    forall_eq]
  omega

theorem loadByte_lt (p : FltPacket) (i : Nat) : (p.loadByte i).val < 256 := (p.buffer i).toNat_lt

end FltPacket

def ntohs (netshort : Nat) : Nat := (netshort % 256) * 256 + netshort / 256 % 256

def htons (hostshort : Nat) : Nat := (hostshort % 256) * 256 + hostshort / 256 % 256

def ntohl (netlong : Nat) : Nat :=
  let upper := ntohs (netlong / 65536 % 65536)
  let lower := ntohs (netlong % 65536)
  (0x10000 * lower + upper) % 0x100000000

def htonl (hostlong : Nat) : Nat :=
  let upper := htons (hostlong / 65536 % 65536)
  let lower := htons (hostlong % 65536)
  (0x10000 * lower + upper) % 0x100000000

theorem ntohs_lt (n : Nat) : ntohs n < 65536 := by
  unfold ntohs
  omega
