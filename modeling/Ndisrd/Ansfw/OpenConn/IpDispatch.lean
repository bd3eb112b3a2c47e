import Ndisrd.Ansfw.OpenConn.LocalInfo

/-!
This module contains `TDIH_IpDispatch` of `openConn.c`: when a process that sends an ICMP request is
found under the address that the request goes to.
-/

namespace Ansfw.OpenConn

/--
A request for ICMP at the IP device. `systemBuffer` is the address in it, `none` when reading it raises an
exception, and `allocated` what `tdiAllocOpenConn` comes back with.
-/
structure IcmpIrp where
  currentLocation : Nat
  fileObject : Nat
  systemBuffer : Option Nat
  currentProcessId : Nat
  allocated : Bool

def IcmpIrp.addr (irp : IcmpIrp) : Nat := irp.systemBuffer.getD 0

def tdiGetConnObjectFromFileObject (fileobject : Nat) (gOpenAddrList : List OpenAddr) : Option OpenAddr :=
  gOpenAddrList.find? fun connOn => connOn.pFileObject == fileobject

-- The other fields of a new record are zeroed.
def IcmpIrp.record (irp : IcmpIrp) : OpenAddr where
  pFileObject := irp.fileObject
  pid := irp.currentProcessId
  ipProto := ipprotoIcmp
  localAddr := 0
  localPort := 0
  remoteAddr := irp.addr
  remotePort := 0

def tdihIpDispatch (gOpenAddrList : List OpenAddr) (irp : IcmpIrp) : List OpenAddr :=
  -- a bogus stack
  if irp.currentLocation ≤ 1 then
    gOpenAddrList
  else
    match tdiGetConnObjectFromFileObject irp.fileObject gOpenAddrList with
    | some _ => gOpenAddrList
    | none => if irp.allocated then gOpenAddrList ++ [irp.record] else gOpenAddrList

/-! ### Whether the request is found -/

def IcmpIrp.Names (irp : IcmpIrp) (connOn : OpenAddr) : Prop :=
  connOn.ipProto = ipprotoIcmp ∧ connOn.remoteAddr = irp.addr ∧ connOn.pid = irp.currentProcessId

instance (irp : IcmpIrp) (connOn : OpenAddr) : Decidable (irp.Names connOn) :=
  inferInstanceAs (Decidable (_ ∧ _))

/--
What an ICMP packet from `localAddr` to the address asks for.
-/
def IcmpIrp.request (irp : IcmpIrp) (localAddr : Nat) : FiveTuple :=
  ⟨ipprotoIcmp, localAddr, 0, irp.addr, 0⟩

def Recorded (gOpenAddrList : List OpenAddr) (irp : IcmpIrp) : Prop :=
  (∃ connOn ∈ tdihIpDispatch gOpenAddrList irp, irp.Names connOn) ∧
    ∀ localAddr, getPidFromLocalInfo (irp.request localAddr) (tdihIpDispatch gOpenAddrList irp) ≠ 0

-- The first record of an ICMP request to the address.
def icmpRecord (addr : Nat) (gOpenAddrList : List OpenAddr) : Option OpenAddr :=
  gOpenAddrList.find? fun connOn => connOn.ipProto == ipprotoIcmp && connOn.remoteAddr == addr

/--
The file object has no record yet, or there is one for this very request; and no ICMP record without a
process comes first for the address.
-/
def Recordable (gOpenAddrList : List OpenAddr) (irp : IcmpIrp) : Prop :=
  ((1 < irp.currentLocation ∧ tdiGetConnObjectFromFileObject irp.fileObject gOpenAddrList = none) ∨
      ∃ connOn ∈ gOpenAddrList, irp.Names connOn) ∧
    (icmpRecord irp.addr gOpenAddrList).elim irp.currentProcessId OpenAddr.pid ≠ 0

instance (gOpenAddrList : List OpenAddr) (irp : IcmpIrp) : Decidable (Recordable gOpenAddrList irp) :=
  inferInstanceAs (Decidable ((_ ∨ ∃ connOn ∈ gOpenAddrList, irp.Names connOn) ∧ _))

variable {gOpenAddrList : List OpenAddr} {irp : IcmpIrp}

theorem icmpRecord_isSome_of_names (h : ∃ connOn ∈ gOpenAddrList, irp.Names connOn)
    : (icmpRecord irp.addr gOpenAddrList).isSome := by
  obtain ⟨connOn, hmem, hproto, haddr, _⟩ := h
  rw [icmpRecord, List.find?_isSome]
  exact ⟨connOn, hmem, by simp [hproto, haddr]⟩

-- The first pass of the lookup finds a record if there is one, whatever the local address.
theorem getPidFromLocalInfo_request (h : (icmpRecord irp.addr gOpenAddrList).isSome) (localAddr pid : Nat)
    : getPidFromLocalInfo (irp.request localAddr) gOpenAddrList =
        (icmpRecord irp.addr gOpenAddrList).elim pid OpenAddr.pid := by
  obtain ⟨connOn, hfind⟩ := Option.isSome_iff_exists.mp h
  have hlookup : Passes.lookup (openAddrPasses (irp.request localAddr)) gOpenAddrList = some connOn :=
    Passes.lookup_cons_of_find hfind _
  rw [getPidFromLocalInfo, hlookup, hfind]
  rfl

theorem recorded_of_eq {l : List OpenAddr} (h : tdihIpDispatch gOpenAddrList irp = l)
    : Recorded gOpenAddrList irp ↔
        (∃ connOn ∈ l, irp.Names connOn) ∧
          (icmpRecord irp.addr l).elim irp.currentProcessId OpenAddr.pid ≠ 0 := by
  unfold Recorded
  rw [h]
  apply and_congr_right
  intro hnames
  have hpid := getPidFromLocalInfo_request (icmpRecord_isSome_of_names hnames)
  constructor
  . intro hall
    rw [← hpid 0]
    exact hall 0
  . intro hne localAddr
    rw [hpid localAddr irp.currentProcessId]
    exact hne

theorem icmpRecord_append_record
    : (icmpRecord irp.addr (gOpenAddrList ++ [irp.record])).elim irp.currentProcessId OpenAddr.pid =
        (icmpRecord irp.addr gOpenAddrList).elim irp.currentProcessId OpenAddr.pid := by
  have hrecord : [irp.record].find? (fun connOn =>
      connOn.ipProto == ipprotoIcmp && connOn.remoteAddr == irp.addr) = some irp.record :=
    List.find?_cons_of_pos (by simp [IcmpIrp.record])
  unfold icmpRecord
  rw [List.find?_append, hrecord]
  cases gOpenAddrList.find? fun connOn => connOn.ipProto == ipprotoIcmp && connOn.remoteAddr == irp.addr with
  | some connOn => rfl
  | none => rfl

theorem recorded_iff_recordable (hallocated : irp.allocated = true)
    : Recorded gOpenAddrList irp ↔ Recordable gOpenAddrList irp := by
  by_cases hfresh : 1 < irp.currentLocation ∧
      tdiGetConnObjectFromFileObject irp.fileObject gOpenAddrList = none
  . -- a new record
    have hdispatch : tdihIpDispatch gOpenAddrList irp = gOpenAddrList ++ [irp.record] := by
      rw [tdihIpDispatch, if_neg (by omega), hfresh.2]
      exact if_pos hallocated
    have hnames : ∃ connOn ∈ gOpenAddrList ++ [irp.record], irp.Names connOn :=
      ⟨irp.record, by simp, rfl, rfl, rfl⟩
    rw [recorded_of_eq hdispatch, and_iff_right hnames, icmpRecord_append_record, Recordable,
      and_iff_right (Or.inl hfresh)]
  . -- the list stays what it was
    have hdispatch : tdihIpDispatch gOpenAddrList irp = gOpenAddrList := by
      rw [tdihIpDispatch]
      split
      . rfl
      . next hlocation =>
        cases hfind : tdiGetConnObjectFromFileObject irp.fileObject gOpenAddrList with
        | some connOn => rfl
        | none => exact absurd ⟨by omega, hfind⟩ hfresh
    rw [recorded_of_eq hdispatch, Recordable, or_iff_right hfresh]

/--
Along a run of requests whose records can be allocated, every process is found right after its request
if and only if every request is recordable when it comes.
-/
theorem run_recorded_iff (gOpenAddrList : List OpenAddr) (irps : List IcmpIrp)
    (hallocated : ∀ irp ∈ irps, irp.allocated = true)
    : Run.Along tdihIpDispatch Recorded gOpenAddrList irps ↔
        Run.Along tdihIpDispatch Recordable gOpenAddrList irps := by
  have hadm : Run.Along tdihIpDispatch (fun _ irp => irp.allocated = true) gOpenAddrList irps :=
    Run.along_of_forall tdihIpDispatch hallocated
  have hinv : ∀ (_ : List OpenAddr) (irp : IcmpIrp), True → irp.allocated = true → True :=
    fun _ _ _ _ => trivial
  refine Run.along_congr hinv ?_ trivial hadm
  intro gOpenAddrList irp _ hirp
  exact recorded_iff_recordable hirp

-- A tool that opens a handle for each address, and one that uses its handle again.
def icmpIrp (fileObject addr : Nat) : IcmpIrp := ⟨5, fileObject, some addr, 7, true⟩

theorem recorded_twoHandles
    : Run.Along tdihIpDispatch Recorded [] [icmpIrp 1 0x0200A8C0, icmpIrp 2 0x0300A8C0] :=
  (run_recorded_iff [] _ (by decide)).mpr (by decide)

theorem not_recorded_oneHandle
    : ¬∀ gOpenAddrList irps, (∀ irp ∈ irps, irp.allocated = true) →
        Run.Along tdihIpDispatch Recorded gOpenAddrList irps := by
  intro h
  have hirps : ∀ irp ∈ [icmpIrp 1 0x0200A8C0, icmpIrp 1 0x0300A8C0], irp.allocated = true := by decide
  obtain ⟨_, ⟨hnames, _⟩, _⟩ := h [] _ hirps
  revert hnames
  decide

end Ansfw.OpenConn
