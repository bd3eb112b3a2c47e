import Ndisrd.Ansfltr.Receive.Lemmas
import Ndisrd.Lib.Loop

/-!
This module contains the loops of `UF_ReadOnPacket` turn by turn, with the variables that they change:
they end, and what they leave is what the recursion along the buffers of `Receive.Impl` computes.
-/

namespace Ansfltr.ReadOnPacket

open Loop (Turn Ends)

-- The tests of the two loops, and the body of the outer one behind the inner one.
inductive Location where
  | outer
  | inner
  | body

/--
`next` are the buffers behind `CurrentBuffer`, `virtualAddress` what `CurrentBuffer` maps.
-/
structure ReadState where
  location : Location
  next : List (List UInt8)
  virtualAddress : List UInt8
  currentLength : Nat
  currentOffset : Nat
  nOffset : Nat
  nNumberOfBytesToRead : Nat
  -- The caller's buffer, and where in it `lpBuffer` has got to.
  buffer : Nat → UInt8
  lpBuffer : Nat
  numberOfBytesRead : Nat

namespace ReadState

def body (s : ReadState) : ReadState :=
  let currentOffset :=
    if s.nOffset ≠ 0 then
      if s.currentLength > s.nOffset then s.nOffset else s.currentLength
    else
      s.currentOffset
  let nOffset := if s.nOffset ≠ 0 then s.nOffset - currentOffset else s.nOffset
  let currentLength := if s.nOffset ≠ 0 then s.currentLength - currentOffset else s.currentLength
  let s := { s with location := .outer, currentOffset, nOffset, currentLength }
  if s.nOffset ≠ 0 then
    { s with currentLength := 0 }
  else if s.currentLength = 0 then
    s
  else
    let amountToMove :=
      if s.currentLength > s.nNumberOfBytesToRead then s.nNumberOfBytesToRead else s.currentLength
    { s with
      buffer := Memory.store s.buffer s.lpBuffer
        ((s.virtualAddress.drop s.currentOffset).take amountToMove)
      lpBuffer := s.lpBuffer + amountToMove
      numberOfBytesRead := s.numberOfBytesRead + amountToMove
      nNumberOfBytesToRead := s.nNumberOfBytesToRead - amountToMove
      currentLength := 0 }

def result (s : ReadState) : (Nat → UInt8) × Nat := (s.buffer, s.numberOfBytesRead)

def turn (s : ReadState) : Turn ReadState ((Nat → UInt8) × Nat) :=
  match s.location with
  | .outer =>
    if s.nOffset ≠ 0 ∨ s.nNumberOfBytesToRead ≠ 0 then
      .goOn { s with location := .inner }
    else
      .done s.result
  | .inner =>
    if s.currentLength = 0 then
      match s.next with
      | [] => .done s.result
      | currentBuffer :: next =>
        .goOn { s with
          next
          virtualAddress := currentBuffer
          currentLength := currentBuffer.length
          currentOffset := 0 }
    else
      .goOn { s with location := .body }
  | .body => .goOn s.body

end ReadState

namespace ReadState

def start (first : List UInt8) (rest : List (List UInt8)) (buffer : Nat → UInt8)
    (nNumberOfBytesToRead nOffset : Nat)
    : ReadState where
  location := .outer
  next := rest
  virtualAddress := first
  currentLength := first.length
  currentOffset := 0
  nOffset := nOffset
  nNumberOfBytesToRead := nNumberOfBytesToRead
  buffer := buffer
  lpBuffer := 0
  numberOfBytesRead := 0

end ReadState

/--
`UF_ReadOnPacket` of the packet with the buffers `first :: rest` ends with these contents of the
caller's buffer, and with this number in `*lpNumberOfBytesRead`.
-/
def ufReadOnPacketEnds (first : List UInt8) (rest : List (List UInt8)) (buffer : Nat → UInt8)
    (nNumberOfBytesToRead nOffset : Nat) (result : (Nat → UInt8) × Nat)
    : Prop :=
  if nNumberOfBytesToRead = 0 then
    result = (buffer, 0)
  else
    Ends ReadState.turn (ReadState.start first rest buffer nNumberOfBytesToRead nOffset) result

/-! ### Invariant and variant -/

variable (buffer : Nat → UInt8) (data : List UInt8)

namespace ReadState

-- The bytes from the start of what is left of the current buffer on.
def pending (s : ReadState) : List UInt8 :=
  (if s.currentLength = 0 then [] else s.virtualAddress) ++ s.next.flatten

/--
What has been written, and what is still to be read behind the offset, are the bytes that are asked for.
The current buffer is used up or has not been touched.
-/
structure Inv (s : ReadState) : Prop where
  untouched : s.currentLength = 0 ∨ s.currentOffset = 0 ∧ s.currentLength = s.virtualAddress.length
  body : s.location = .body → s.currentLength ≠ 0
  written : ∃ written, data = written ++ (s.pending.drop s.nOffset).take s.nNumberOfBytesToRead ∧
    s.buffer = Memory.store buffer 0 written ∧ s.lpBuffer = written.length ∧
    s.numberOfBytesRead = written.length

def variant (s : ReadState) : Nat :=
  6 * s.next.length + (if s.currentLength = 0 then 0 else 3) +
    match s.location with
    | .outer => 2
    | .inner => 1
    | .body => 0

variable {buffer data} {s : ReadState}

theorem pending_of_used (h : s.currentLength = 0) : s.pending = s.next.flatten := by
  rw [pending, if_pos h, List.nil_append]

theorem pending_of_untouched (h : s.currentLength = s.virtualAddress.length)
    : s.pending = s.virtualAddress ++ s.next.flatten := by
  unfold pending
  split
  . next hzero =>
    rw [h, List.length_eq_zero_iff] at hzero
    rw [hzero]
  . rfl

theorem result_of_nothing (h : Inv buffer data s)
    (hnothing : (s.pending.drop s.nOffset).take s.nNumberOfBytesToRead = [])
    : s.result = (Memory.store buffer 0 data, data.length) := by
  obtain ⟨written, hdata, hbuffer, _, hread⟩ := h.written
  rw [hnothing, List.append_nil] at hdata
  rw [result, hbuffer, hread, hdata]

theorem inv_start (first : List UInt8) (rest : List (List UInt8)) (buffer : Nat → UInt8)
    (nNumberOfBytesToRead nOffset : Nat)
    : Inv buffer (((first :: rest).flatten.drop nOffset).take nNumberOfBytesToRead)
        (start first rest buffer nNumberOfBytesToRead nOffset) where
  untouched := Or.inr ⟨rfl, rfl⟩
  body := nofun
  written := by
    refine ⟨[], ?_, (Memory.store_nil _ _).symm, rfl, rfl⟩
    rw [pending_of_untouched rfl]
    rfl

/-! ### The turns -/

-- The offset is not in this buffer: the buffer is skipped, also when the offset is right at its end.
theorem body_of_le (hlength : s.currentLength = s.virtualAddress.length)
    (hoffset : s.nOffset ≠ 0) (hle : s.virtualAddress.length ≤ s.nOffset)
    : s.body = { s with
        location := .outer
        currentOffset := s.virtualAddress.length
        nOffset := s.nOffset - s.virtualAddress.length
        currentLength := 0 } := by
  unfold body
  simp only [hlength, if_pos hoffset, if_neg (Nat.not_lt.mpr hle), Nat.sub_self]
  split
  . rfl
  . rfl

-- The offset is in this buffer: what is behind it is copied, as far as it is asked for.
theorem body_of_lt (hlength : s.currentLength = s.virtualAddress.length) (hcurrent : s.currentOffset = 0)
    (hlt : s.nOffset < s.virtualAddress.length)
    : s.body = { s with
        location := .outer
        currentOffset := s.nOffset
        nOffset := 0
        currentLength := 0
        nNumberOfBytesToRead := s.nNumberOfBytesToRead - (s.virtualAddress.length - s.nOffset)
        buffer := Memory.store s.buffer s.lpBuffer
          ((s.virtualAddress.drop s.nOffset).take s.nNumberOfBytesToRead)
        lpBuffer := s.lpBuffer + ((s.virtualAddress.drop s.nOffset).take s.nNumberOfBytesToRead).length
        numberOfBytesRead := s.numberOfBytesRead +
          ((s.virtualAddress.drop s.nOffset).take s.nNumberOfBytesToRead).length } := by
  have hoffset : (if s.nOffset ≠ 0 then
      if s.virtualAddress.length > s.nOffset then s.nOffset else s.virtualAddress.length
      else s.currentOffset) = s.nOffset := by
    split
    . rfl
    . omega
  have hrest : (if s.nOffset ≠ 0 then s.nOffset - s.nOffset else s.nOffset) = 0 := by
    split
    . omega
    . omega
  have hleft : (if s.nOffset ≠ 0 then s.virtualAddress.length - s.nOffset else
      s.virtualAddress.length) = s.virtualAddress.length - s.nOffset := by
    split
    . rfl
    . omega
  have hlen : (s.virtualAddress.drop s.nOffset).length = s.virtualAddress.length - s.nOffset :=
    List.length_drop
  unfold body
  simp only [hlength, hoffset, hrest, hleft]
  rw [if_neg (by omega), if_neg (by omega)]
  by_cases hlast : s.virtualAddress.length - s.nOffset > s.nNumberOfBytesToRead
  . have hmoved : ((s.virtualAddress.drop s.nOffset).take s.nNumberOfBytesToRead).length =
        s.nNumberOfBytesToRead := by
      rw [List.length_take]
      omega
    have hzero : s.nNumberOfBytesToRead - s.nNumberOfBytesToRead =
        s.nNumberOfBytesToRead - (s.virtualAddress.length - s.nOffset) := by omega
    simp only [if_pos hlast, hmoved, hzero]
  . have hwhole : (s.virtualAddress.drop s.nOffset).take s.nNumberOfBytesToRead =
        s.virtualAddress.drop s.nOffset := List.take_of_length_le (by omega)
    have hmoved : (s.virtualAddress.drop s.nOffset).take (s.virtualAddress.length - s.nOffset) =
        s.virtualAddress.drop s.nOffset := List.take_of_length_le (by omega)
    simp only [if_neg hlast, hwhole, hmoved, hlen]

theorem inv_body (h : Inv buffer data s) (hlocation : s.location = .body) : Inv buffer data s.body := by
  obtain ⟨hcurrent, hlength⟩ := h.untouched.resolve_left (h.body hlocation)
  obtain ⟨written, hdata, hbuffer, hlp, hread⟩ := h.written
  rw [pending_of_untouched hlength] at hdata
  by_cases hlt : s.nOffset < s.virtualAddress.length
  . rw [body_of_lt hlength hcurrent hlt]
    refine ⟨Or.inl rfl, nofun, ?_⟩
    refine ⟨written ++ (s.virtualAddress.drop s.nOffset).take s.nNumberOfBytesToRead, ?_, ?_, ?_, ?_⟩
    . rw [pending_of_used rfl, List.drop_zero, hdata, List.drop_append_of_le_length (by omega),
        List.take_append, List.length_drop, List.append_assoc]
    . simp only [hbuffer, hlp, Memory.store_append_zero]
    . simp only [hlp, List.length_append]
    . simp only [hread, List.length_append]
  . have hoffset : s.nOffset ≠ 0 := by
      have := h.body hlocation
      omega
    rw [body_of_le hlength hoffset (by omega)]
    refine ⟨Or.inl rfl, nofun, written, ?_, hbuffer, hlp, hread⟩
    rw [pending_of_used rfl, hdata, List.drop_append, List.drop_eq_nil_of_le (by omega),
      List.nil_append]

theorem variant_body (h : Inv buffer data s) (hlocation : s.location = .body)
    : s.body.variant < s.variant := by
  have hlength := h.body hlocation
  obtain ⟨hcurrent, hfull⟩ := h.untouched.resolve_left hlength
  have hs : s.variant = 6 * s.next.length + 3 := by
    simp only [variant, if_neg hlength, hlocation, Nat.add_zero]
  by_cases hlt : s.nOffset < s.virtualAddress.length
  . rw [body_of_lt hfull hcurrent hlt, hs]
    simp [variant]
  . rw [body_of_le hfull (by omega) (by omega), hs]
    simp [variant]

theorem inv_turn {s' : ReadState} (h : Inv buffer data s) (hturn : s.turn = .goOn s')
    : Inv buffer data s' ∧ s'.variant < s.variant := by
  unfold turn at hturn
  cases hlocation : s.location with
  | outer =>
    rw [hlocation] at hturn
    simp only at hturn
    split at hturn
    . injection hturn with hturn
      subst hturn
      refine ⟨⟨h.untouched, nofun, h.written⟩, ?_⟩
      simp [variant, hlocation]
    . cases hturn
  | inner =>
    rw [hlocation] at hturn
    simp only at hturn
    split at hturn
    . next hused =>
      cases hnext : s.next with
      | nil =>
        rw [hnext] at hturn
        cases hturn
      | cons currentBuffer next =>
        rw [hnext] at hturn
        injection hturn with hturn
        subst hturn
        have hpending := pending_of_used hused
        refine ⟨⟨Or.inr ⟨rfl, rfl⟩, nofun, ?_⟩, ?_⟩
        . obtain ⟨written, hdata, hrest⟩ := h.written
          refine ⟨written, ?_, hrest⟩
          rw [pending_of_untouched rfl, hdata, hpending, hnext]
          rfl
        . simp only [variant, hlocation, hused, hnext, List.length_cons, if_true]
          split
          . omega
          . omega
    . next hused =>
      injection hturn with hturn
      subst hturn
      refine ⟨⟨h.untouched, fun _ => hused, h.written⟩, ?_⟩
      simp [variant, hlocation, hused]
  | body =>
    rw [hlocation] at hturn
    injection hturn with hturn
    subst hturn
    exact ⟨inv_body h hlocation, variant_body h hlocation⟩

theorem result_turn {r : (Nat → UInt8) × Nat} (h : Inv buffer data s) (hturn : s.turn = .done r)
    : r = (Memory.store buffer 0 data, data.length) := by
  unfold turn at hturn
  cases hlocation : s.location with
  | outer =>
    rw [hlocation] at hturn
    simp only at hturn
    split at hturn
    . cases hturn
    . next hdone =>
      injection hturn with hturn
      rw [← hturn]
      apply result_of_nothing h
      rw [show s.nNumberOfBytesToRead = 0 by omega, List.take_zero]
  | inner =>
    rw [hlocation] at hturn
    simp only at hturn
    split at hturn
    . next hused =>
      cases hnext : s.next with
      | nil =>
        rw [hnext] at hturn
        injection hturn with hturn
        rw [← hturn]
        apply result_of_nothing h
        rw [pending_of_used hused, hnext]
        simp
      | cons currentBuffer next =>
        rw [hnext] at hturn
        cases hturn
    . cases hturn
  | body =>
    rw [hlocation] at hturn
    cases hturn

end ReadState

-- The loops compute the recursion along the buffers.
theorem ufReadOnPacketEnds_iff_ufReadOnPacket (first : List UInt8) (rest : List (List UInt8))
    (nNumberOfBytesToRead nOffset : Nat) (result : (Nat → UInt8) × Nat)
    : ufReadOnPacketEnds first rest buffer nNumberOfBytesToRead nOffset result ↔
        result = ufReadOnPacket (first :: rest) buffer nNumberOfBytesToRead nOffset := by
  unfold ufReadOnPacketEnds
  split
  . next hzero => rw [ufReadOnPacket, if_pos hzero]
  . obtain ⟨r, hends, hr⟩ := Loop.ends_of_variant ReadState.variant
      (fun _ _ => ReadState.inv_turn) (fun _ _ => ReadState.result_turn)
      (ReadState.inv_start first rest buffer nNumberOfBytesToRead nOffset)
    rw [ufReadOnPacket_eq, ← hr]
    constructor
    . intro h
      exact h.unique hends
    . rintro rfl
      exact hends

/--
For every packet with a buffer, `UF_ReadOnPacket` ends, and it leaves in the caller's buffer the bytes
behind the offset, as many as it is to read and the packet has, and their number.
-/
theorem ufReadOnPacketEnds_iff (first : List UInt8) (rest : List (List UInt8))
    (nNumberOfBytesToRead nOffset : Nat) (result : (Nat → UInt8) × Nat)
    : ufReadOnPacketEnds first rest buffer nNumberOfBytesToRead nOffset result ↔
        result = (Memory.store buffer 0 (((first :: rest).flatten.drop nOffset).take
            nNumberOfBytesToRead),
          (((first :: rest).flatten.drop nOffset).take nNumberOfBytesToRead).length) := by
  rw [ufReadOnPacketEnds_iff_ufReadOnPacket, ufReadOnPacket_eq]

end Ansfltr.ReadOnPacket
