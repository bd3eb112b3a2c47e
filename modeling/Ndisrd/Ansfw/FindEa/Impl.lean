import Ndisrd.Lib.Loop
import Ndisrd.Lib.Memory
import Ndisrd.Shared.Basic

/-!
This module contains `FindEA` of `KSUTIL.c` and `TDIH_Create` of `anshlp.c`: the walk along the extended
attributes that come with the opening of a TDI object, in the memory that they are read from.
-/

namespace Ansfw.FindEa

open Loop (Turn Ends)

/-! ### `FILE_FULL_EA_INFORMATION` -/

-- `EaName` is at offset 8, and the structure ends with its first character.
def sizeofEaInformation : Nat := 12

section Entry

variable (mem : Nat → UInt8) (p : Nat)

def nextEntryOffset : Nat := dwordOfBytes (mem p) (mem (p + 1)) (mem (p + 2)) (mem (p + 3))

def eaNameLength : Nat := (mem (p + 5)).toNat

def eaValueLength : Nat := wordOfBytes (mem (p + 6)) (mem (p + 7))

def eaName : List UInt8 := Memory.load mem (p + 8) (eaNameLength mem p)

-- The name is followed by a null character, and that by the value.
def eaValueAddress : Nat := p + 8 + eaNameLength mem p + 1

end Entry

/-! ### `FindEA` -/

-- How many bytes match from the start on.
def rtlCompareMemory : List UInt8 → List UInt8 → Nat
  | source1 :: rest1, source2 :: rest2 =>
    if source1 = source2 then rtlCompareMemory rest1 rest2 + 1 else 0
  | _, _ => 0

structure FindState where
  pFirstEA : Nat
  -- The addresses read so far.
  reads : List Nat

section FindEA

-- Pointers are computed modulo `addressSpace`. `sizeofEa` is what a step of such a pointer is.
variable (addressSpace sizeofEa : Nat) (mem : Nat → UInt8) (pName : List UInt8)

def findEaTurn (s : FindState) : Turn FindState (Option Nat × List Nat) :=
  let pCurrentEA := s.pFirstEA
  let pFirstEA := (pCurrentEA + sizeofEa * nextEntryOffset mem pCurrentEA) % addressSpace
  let test := fun reads =>
    if nextEntryOffset mem pCurrentEA ≠ 0 then
      .goOn { pFirstEA, reads }
    else
      .done (none, reads)
  let reads := s.reads ++
    [pCurrentEA, pCurrentEA + 1, pCurrentEA + 2, pCurrentEA + 3, pCurrentEA + 5]
  if eaNameLength mem pCurrentEA ≠ pName.length then
    test reads
  else
    let reads := reads ++ (List.range pName.length).map (pCurrentEA + 8 + ·)
    if rtlCompareMemory (Memory.load mem (pCurrentEA + 8) pName.length) pName = pName.length then
      .done (some pCurrentEA, reads)
    else
      test reads

/--
`FindEA` ends with this pointer, and with these addresses read.
-/
def findEaEnds (pFirstEA : Option Nat) (result : Option Nat × List Nat) : Prop :=
  match pFirstEA with
  | none => result = (none, [])
  | some p => Ends (findEaTurn addressSpace sizeofEa mem pName) ⟨p, []⟩ result

end FindEA

/-! ### `TDIH_Create` -/

def asciiName (characters : List Char) : List UInt8 := characters.map fun c => UInt8.ofNat c.toNat

def tdiTransportAddress : List UInt8 :=
  asciiName ['T', 'r', 'a', 'n', 's', 'p', 'o', 'r', 't', 'A', 'd', 'd', 'r', 'e', 's', 's']

def tdiConnectionContext : List UInt8 :=
  asciiName ['C', 'o', 'n', 'n', 'e', 'c', 't', 'i', 'o', 'n', 'C', 'o', 'n', 't', 'e', 'x', 't']

inductive CreateOutcome where
  | tdiOpenAddress
  -- With the address that the connection context is at.
  | tdiOpenConnection (connectionContext : Nat)
  | chainRequest
  deriving DecidableEq

def tdihCreateEnds (addressSpace : Nat) (mem : Nat → UInt8) (ea : Option Nat) (outcome : CreateOutcome)
    : Prop :=
  ∃ address, findEaEnds addressSpace sizeofEaInformation mem tdiTransportAddress ea address ∧
    match address.1 with
    | some _ => outcome = .tdiOpenAddress
    | none =>
      ∃ context, findEaEnds addressSpace sizeofEaInformation mem tdiConnectionContext ea context ∧
        match context.1 with
        | some targetEA => outcome = .tdiOpenConnection (eaValueAddress mem targetEA)
        | none => outcome = .chainRequest

end Ansfw.FindEa
