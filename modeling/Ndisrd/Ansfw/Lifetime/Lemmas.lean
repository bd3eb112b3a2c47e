import Mathlib.Data.List.Nodup
import Ndisrd.Lib.Run
import Ndisrd.Ansfw.Lifetime.Impl
import Ndisrd.Ansfw.Reassembly.Impl

/-!
This module contains the lifetime of a request: its reference count is the number of its holders, and
the last of them disposes of the request and of what it owns.
-/

open ReqFlags

namespace Ansfw

/-! ### Disposal -/

structure PlainFragment (f : RequestObject) : Prop where
  references : f.references = 1
  loopback : f.reqFlags.has loopback = false
  reassembled : f.reqFlags.has reassembled = false

structure Fresh (r : RequestObject) : Prop where
  references : r.references = 1
  pIrp : r.reqFlags.has loopback = true → r.pIrp = true
  fragments : r.reqFlags.has loopback = false → r.reqFlags.has reassembled = true →
    (∀ f ∈ r.fragmentsList, PlainFragment f) ∧ (r.fragmentsList.map RequestObject.id).Nodup

def disposal (r : RequestObject) : Effect :=
  if r.reqFlags.has loopback = false ∧ r.reqFlags.has reassembled = true then
    .recycleDatagram r.id
  else
    .freeRequest r.id

theorem fwFreeCloneRequest_shared (bFltConnected : Bool) {r : RequestObject} (h : r.references ≠ 1)
    : fwFreeCloneRequest bFltConnected r = [] := by
  have hne : r.references - 1 ≠ 0 := by omega
  cases r
  rw [fwFreeCloneRequest, if_neg hne]

theorem fwFreeCloneRequest_loopback (bFltConnected : Bool) {r : RequestObject} (h : r.references = 1)
    (hkind : r.reqFlags.has loopback = true)
    : fwFreeCloneRequest bFltConnected r = freeLoopbackRequest r := by
  have heq : r.references - 1 = 0 := by omega
  cases r
  rw [fwFreeCloneRequest, if_pos heq, if_pos hkind]

theorem fwFreeCloneRequest_reassembled (bFltConnected : Bool) {r : RequestObject}
    (h : r.references = 1) (hloop : r.reqFlags.has loopback = false)
    (hkind : r.reqFlags.has reassembled = true)
    : fwFreeCloneRequest bFltConnected r =
        freeFragments bFltConnected r.fragmentsList ++ [.recycleDatagram r.id] := by
  have heq : r.references - 1 = 0 := by omega
  cases r
  rw [fwFreeCloneRequest, if_pos heq, if_neg (by simpa using hloop), if_pos hkind]

theorem fwFreeCloneRequest_plain (bFltConnected : Bool) {r : RequestObject} (h : r.references = 1)
    (hloop : r.reqFlags.has loopback = false) (hkind : r.reqFlags.has reassembled = false)
    : fwFreeCloneRequest bFltConnected r =
        (if bFltConnected then [.fltFreeCloneRequest r.id] else []) ++ [.freeRequest r.id] := by
  have heq : r.references - 1 = 0 := by omega
  cases r
  rw [fwFreeCloneRequest, if_pos heq, if_neg (by simpa using hloop), if_neg (by simpa using hkind)]

theorem count_freeFragments (bFltConnected : Bool) {fs : List RequestObject}
    (h : ∀ f ∈ fs, PlainFragment f) (i : Nat)
    : (freeFragments bFltConnected fs).count (.freeRequest i) = (fs.map RequestObject.id).count i ∧
        (freeFragments bFltConnected fs).count (.recycleDatagram i) = 0 := by
  induction fs with
  | nil => exact ⟨rfl, rfl⟩
  | cons f fs ih =>
    obtain ⟨hf, hfs⟩ := List.forall_mem_cons.mp h
    obtain ⟨ih1, ih2⟩ := ih hfs
    rw [freeFragments, fwFreeCloneRequest_plain bFltConnected hf.references hf.loopback hf.reassembled]
    simp only [List.count_append, ih1, ih2, List.map_cons]
    cases bFltConnected with
    | false =>
      by_cases hi : f.id = i
      . simp [hi]
        omega
      . simp [hi]
    | true =>
      by_cases hi : f.id = i
      . simp [hi]
        omega
      . simp [hi]

/-! ### The invariant of a request in use -/

theorem with_references {r : RequestObject} {references : Int} (h : r.references = references)
    : ({ r with references } : RequestObject) = r := by
  cases r
  rw [← h]

def IsInjection (e : Effect) : Prop := ∃ i, e = .fltInjectRequest i

structure UseInv (r : RequestObject) (u : Use) : Prop where
  nodup : u.holders.Nodup
  references : u.request.references = u.holders.length
  same : u.request.id = r.id ∧ u.request.reqFlags = r.reqFlags ∧
    u.request.fragmentsList = r.fragmentsList
  pIrp : r.reqFlags.has loopback = true → u.request.pIrp = decide (u.injected = 0)
  log : ∃ injections,
    (r.reqFlags.has loopback = true →
      injections = if u.injected = 0 then [] else [.tdiChainIrp r.id]) ∧
    (r.reqFlags.has loopback = false → ∀ e ∈ injections, IsInjection e) ∧
    ((u.holders ≠ [] ∧ u.log = injections) ∨
      (u.holders = [] ∧ ∃ bFltConnected,
        u.log = injections ++ fwFreeCloneRequest bFltConnected { u.request with references := 1 }))

theorem useInv_create {r : RequestObject} (hr : Fresh r) : UseInv r (create r) := by
  refine ⟨List.nodup_singleton 0, hr.references, ⟨rfl, rfl, rfl⟩, hr.pIrp, [], ?_, ?_, ?_⟩
  . intro _
    rfl
  . intro _ e he
    cases he
  . exact Or.inl ⟨by simp [create], rfl⟩

section Step

variable {r : RequestObject} {u : Use} (hu : UseInv r u)
include hu

theorem UseInv.injections {holder : Nat} (hmem : holder ∈ u.holders)
    : (r.reqFlags.has loopback = true →
          u.log = if u.injected = 0 then [] else [.tdiChainIrp r.id]) ∧
        (r.reqFlags.has loopback = false → ∀ e ∈ u.log, IsInjection e) := by
  obtain ⟨injections, hloop, hother, hlog⟩ := hu.log
  rcases hlog with ⟨_, hlog⟩ | ⟨hempty, _⟩
  . rw [hlog]
    exact ⟨hloop, hother⟩
  . rw [hempty] at hmem
    cases hmem

theorem UseInv.clone {holder newHolder : Nat} (hc : (HolderCall.clone holder newHolder).Valid u)
    : UseInv r (useStep u (.clone holder newHolder)) := by
  obtain ⟨hloop, hother⟩ := hu.injections hc.1
  refine ⟨List.nodup_cons.mpr ⟨hc.2, hu.nodup⟩, ?_, hu.same, hu.pIrp, u.log, hloop, hother, ?_⟩
  . simp only [useStep, hu.references, List.length_cons]
    omega
  . exact Or.inl ⟨List.cons_ne_nil _ _, rfl⟩

theorem UseInv.inject {holder : Nat} {status : NtStatus} {bFltConnected : Bool}
    (hc : (HolderCall.inject holder status bFltConnected).Valid u)
    : UseInv r (useStep u (.inject holder status bFltConnected)) := by
  obtain ⟨hloop, hother⟩ := hu.injections hc
  obtain ⟨hid, hflags, hfrags⟩ := hu.same
  have hne : u.holders ≠ [] := List.ne_nil_of_mem hc
  have hpIrp := hu.pIrp
  unfold useStep injectRequest
  simp only
  by_cases hstatus : status.ntSuccess = true
  . simp only [hstatus, if_true]
    by_cases hkind : u.request.reqFlags.has loopback = true
    . rw [hflags] at hkind
      rw [if_pos (hflags ▸ hkind)]
      unfold injectLoopbackRequest
      by_cases hzero : u.injected = 0
      . -- the first injection
        have hirp : u.request.pIrp = true := by rw [hpIrp hkind, hzero]; rfl
        rw [if_pos hirp]
        refine ⟨hu.nodup, hu.references, ⟨hid, hflags, hfrags⟩, ?_, _, ?_, ?_, Or.inl ⟨hne, rfl⟩⟩
        . intro _
          rfl
        . intro _
          rw [hloop hkind, if_pos hzero, hid, if_neg (Nat.succ_ne_zero _)]
          rfl
        . intro hno
          rw [hkind] at hno
          cases hno
      . have hirp : ¬(u.request.pIrp = true) := by simp [hpIrp hkind, hzero]
        rw [if_neg hirp]
        refine ⟨hu.nodup, hu.references, ⟨hid, hflags, hfrags⟩, ?_, _, ?_, ?_, Or.inl ⟨hne, rfl⟩⟩
        . intro _
          simp [hpIrp hkind, hzero]
        . intro _
          simp [hloop hkind, hzero]
        . intro hno
          rw [hkind] at hno
          cases hno
    . rw [if_neg hkind]
      rw [hflags, Bool.not_eq_true] at hkind
      have hnot : ¬(r.reqFlags.has loopback = true) := by simp [hkind]
      have hinject : ∀ es : List Effect, (∀ e ∈ es, IsInjection e) →
          UseInv r { u with log := u.log ++ es, injected := u.injected + 1 } := by
        intro es hes
        refine ⟨hu.nodup, hu.references, ⟨hid, hflags, hfrags⟩, fun h => absurd h hnot, _,
          fun h => absurd h hnot, fun h => ?_, Or.inl ⟨hne, rfl⟩⟩
        exact List.forall_mem_append.mpr ⟨hother h, hes⟩
      split
      . apply hinject
        intro e he
        split at he
        . obtain ⟨f, _, rfl⟩ := List.mem_map.mp he
          exact ⟨f.id, rfl⟩
        . cases he
      . apply hinject
        intro e he
        split at he
        . exact ⟨_, List.mem_singleton.mp he⟩
        . cases he
  . -- a later client refuses
    rw [Bool.not_eq_true] at hstatus
    simp only [hstatus, Bool.false_eq_true, if_false, List.append_nil]
    exact ⟨hu.nodup, hu.references, ⟨hid, hflags, hfrags⟩, hpIrp, u.log, hloop, hother,
      Or.inl ⟨hne, rfl⟩⟩

theorem UseInv.free {holder : Nat} {bFltConnected : Bool}
    (hc : (HolderCall.free holder bFltConnected).Valid u)
    : UseInv r (useStep u (.free holder bFltConnected)) := by
  obtain ⟨hloop, hother⟩ := hu.injections hc
  have hmem : holder ∈ u.holders := hc
  have hlen := List.length_erase_of_mem hmem
  have hpos := List.length_pos_of_mem hmem
  refine ⟨hu.nodup.erase holder, ?_, hu.same, hu.pIrp, u.log, hloop, hother, ?_⟩
  . simp only [useStep, hu.references, hlen]
    omega
  . by_cases hlast : u.holders.length = 1
    . -- the last reference
      have hempty : u.holders.erase holder = [] := by
        apply List.length_eq_zero_iff.mp
        omega
      have hrefs : u.request.references = 1 := by
        rw [hu.references, hlast]
        rfl
      refine Or.inr ⟨hempty, bFltConnected, ?_⟩
      simp only [useStep, with_references hrefs]
    . have hrefs : u.request.references ≠ 1 := by
        rw [hu.references]
        omega
      refine Or.inl ⟨?_, ?_⟩
      . intro hempty
        have : (u.holders.erase holder).length = 0 := by
          rw [List.length_eq_zero_iff]
          exact hempty
        omega
      . simp only [useStep]
        rw [fwFreeCloneRequest_shared bFltConnected hrefs, List.append_nil]

end Step

theorem UseInv.step {r : RequestObject} {u : Use} {c : HolderCall} (hu : UseInv r u) (hc : c.Valid u)
    : UseInv r (useStep u c) := by
  cases c with
  | clone holder newHolder => exact hu.clone hc
  | inject holder status bFltConnected => exact hu.inject hc
  | free holder bFltConnected => exact hu.free hc

/-! ### Disposal in a run -/

theorem count_injections {es : List Effect} (h : ∀ e ∈ es, IsInjection e) {e : Effect}
    (he : ¬IsInjection e) : es.count e = 0 :=
  List.count_eq_zero.mpr fun hmem => he (h e hmem)

section Log

variable {r : RequestObject} {u : Use} (hu : UseInv r u)
include hu

theorem UseInv.log_loopback (hkind : r.reqFlags.has loopback = true)
    : u.log =
        (if u.injected = 0 then [] else [.tdiChainIrp r.id]) ++
          if u.holders = [] then
            (if u.injected = 0 then [.tdiFailIrp r.id] else []) ++
              [.tdiRecycleRequest r.id, .freeRequest r.id]
          else
            [] := by
  obtain ⟨injections, hloop, _, hlog⟩ := hu.log
  obtain ⟨hid, hflags, _⟩ := hu.same
  rcases hlog with ⟨hne, hlog⟩ | ⟨hempty, bFltConnected, hlog⟩
  . rw [hlog, hloop hkind, if_neg hne, List.append_nil]
  . rw [hlog, hloop hkind, if_pos hempty,
      fwFreeCloneRequest_loopback bFltConnected rfl (by simpa only [hflags] using hkind)]
    simp only [freeLoopbackRequest, hu.pIrp hkind, hid, decide_eq_true_iff]

theorem UseInv.log_packet (hloop : r.reqFlags.has loopback = false)
    : ∃ injections, ∃ bFltConnected : Bool, (∀ e ∈ injections, IsInjection e) ∧
        u.log = injections ++
          if u.holders = [] then
            fwFreeCloneRequest bFltConnected { r with references := 1, pIrp := u.request.pIrp }
          else
            [] := by
  obtain ⟨injections, _, hother, hlog⟩ := hu.log
  obtain ⟨hid, hflags, hfrags⟩ := hu.same
  rcases hlog with ⟨hne, hlog⟩ | ⟨hempty, bFltConnected, hlog⟩
  . refine ⟨injections, true, hother hloop, ?_⟩
    rw [hlog, if_neg hne, List.append_nil]
  . refine ⟨injections, bFltConnected, hother hloop, ?_⟩
    rw [hlog, if_pos hempty, ← hid, ← hflags, ← hfrags]

theorem UseInv.log_reassembled (hloop : r.reqFlags.has loopback = false)
    (hkind : r.reqFlags.has reassembled = true)
    : ∃ injections, ∃ bFltConnected : Bool, (∀ e ∈ injections, IsInjection e) ∧
        u.log = injections ++
          if u.holders = [] then
            freeFragments bFltConnected r.fragmentsList ++ [.recycleDatagram r.id]
          else
            [] := by
  obtain ⟨injections, bFltConnected, hinj, hlog⟩ := hu.log_packet hloop
  have hfree : fwFreeCloneRequest bFltConnected
      { r with references := 1, pIrp := u.request.pIrp } = _ :=
    fwFreeCloneRequest_reassembled bFltConnected rfl hloop hkind
  rw [hfree] at hlog
  exact ⟨injections, bFltConnected, hinj, hlog⟩

theorem UseInv.log_plain (hloop : r.reqFlags.has loopback = false)
    (hkind : r.reqFlags.has reassembled = false)
    : ∃ injections, ∃ bFltConnected : Bool, (∀ e ∈ injections, IsInjection e) ∧
        u.log = injections ++
          if u.holders = [] then
            (if bFltConnected then [.fltFreeCloneRequest r.id] else []) ++ [.freeRequest r.id]
          else
            [] := by
  obtain ⟨injections, bFltConnected, hinj, hlog⟩ := hu.log_packet hloop
  have hfree : fwFreeCloneRequest bFltConnected
      { r with references := 1, pIrp := u.request.pIrp } = _ :=
    fwFreeCloneRequest_plain bFltConnected rfl hloop hkind
  rw [hfree] at hlog
  exact ⟨injections, bFltConnected, hinj, hlog⟩

end Log

def AtLastRelease (u : Use) (e : Effect) : Prop := u.log.count e = if u.holders = [] then 1 else 0

structure Disposed (r : RequestObject) (u : Use) : Prop where
  references : u.request.references = u.holders.length
  disposal : AtLastRelease u (disposal r)
  irp : r.reqFlags.has loopback = true →
    AtLastRelease u (.tdiRecycleRequest r.id) ∧
      u.log.count (.tdiChainIrp r.id) = (if u.injected = 0 then 0 else 1) ∧
      u.log.count (.tdiFailIrp r.id) = (if u.holders = [] ∧ u.injected = 0 then 1 else 0)
  fragments : r.reqFlags.has loopback = false → r.reqFlags.has reassembled = true →
    ∀ f ∈ r.fragmentsList, AtLastRelease u (.freeRequest f.id)

theorem disposal_of_loopback {r : RequestObject} (h : r.reqFlags.has loopback = true)
    : disposal r = .freeRequest r.id := by
  rw [disposal, if_neg (by simp [h])]

theorem disposal_of_reassembled {r : RequestObject} (hloop : r.reqFlags.has loopback = false)
    (h : r.reqFlags.has reassembled = true)
    : disposal r = .recycleDatagram r.id := by
  rw [disposal, if_pos ⟨hloop, h⟩]

theorem disposal_of_plain {r : RequestObject} (h : r.reqFlags.has reassembled = false)
    : disposal r = .freeRequest r.id := by
  rw [disposal, if_neg (by simp [h])]

theorem UseInv.disposed_loopback {r : RequestObject} {u : Use} (hu : UseInv r u)
    (hkind : r.reqFlags.has loopback = true) : Disposed r u := by
  have hlog := hu.log_loopback hkind
  refine ⟨hu.references, ?_, fun _ => ⟨?_, ?_, ?_⟩, fun hno => absurd hno (by simp [hkind])⟩
  . rw [AtLastRelease, disposal_of_loopback hkind, hlog]
    by_cases hempty : u.holders = [] <;> by_cases hzero : u.injected = 0 <;> simp [hempty, hzero]
  . rw [AtLastRelease, hlog]
    by_cases hempty : u.holders = [] <;> by_cases hzero : u.injected = 0 <;> simp [hempty, hzero]
  . rw [hlog]
    by_cases hempty : u.holders = [] <;> by_cases hzero : u.injected = 0 <;> simp [hempty, hzero]
  . rw [hlog]
    by_cases hempty : u.holders = [] <;> by_cases hzero : u.injected = 0 <;> simp [hempty, hzero]

theorem UseInv.disposed_reassembled {r : RequestObject} {u : Use} (hr : Fresh r) (hu : UseInv r u)
    (hloop : r.reqFlags.has loopback = false) (hkind : r.reqFlags.has reassembled = true)
    : Disposed r u := by
  obtain ⟨hplain, hnodup⟩ := hr.fragments hloop hkind
  obtain ⟨injections, bFltConnected, hinj, hlog⟩ := hu.log_reassembled hloop hkind
  refine ⟨hu.references, ?_, fun h => absurd h (by simp [hloop]), fun _ _ f hf => ?_⟩
  . have hcount := (count_freeFragments bFltConnected hplain r.id).2
    have hzero := count_injections hinj (e := .recycleDatagram r.id) (fun ⟨i, hi⟩ => by cases hi)
    rw [AtLastRelease, disposal_of_reassembled hloop hkind, hlog, List.count_append, hzero]
    split
    . rw [List.count_append, hcount]
      simp
    . rfl
  . have hcount := (count_freeFragments bFltConnected hplain f.id).1
    have hone : (r.fragmentsList.map RequestObject.id).count f.id = 1 :=
      List.count_eq_one_of_mem hnodup (List.mem_map_of_mem hf)
    have hzero := count_injections hinj (e := .freeRequest f.id) (fun ⟨i, hi⟩ => by cases hi)
    rw [AtLastRelease, hlog, List.count_append, hzero]
    split
    . rw [List.count_append, hcount, hone]
      simp
    . rfl

theorem UseInv.disposed_plain {r : RequestObject} {u : Use} (hu : UseInv r u)
    (hloop : r.reqFlags.has loopback = false) (hkind : r.reqFlags.has reassembled = false)
    : Disposed r u := by
  obtain ⟨injections, bFltConnected, hinj, hlog⟩ := hu.log_plain hloop hkind
  have hzero := count_injections hinj (e := .freeRequest r.id) (fun ⟨i, hi⟩ => by cases hi)
  refine ⟨hu.references, ?_, fun h => absurd h (by simp [hloop]), fun _ h => absurd h (by simp [hkind])⟩
  rw [AtLastRelease, disposal_of_plain hkind, hlog, List.count_append, hzero]
  split
  . cases bFltConnected with
    | true => simp
    | false => simp
  . rfl

/--
However the holders of a request clone, inject and release it, it is disposed of once, by the call that
releases the last reference, together with what it owns.
-/
theorem run_disposed {r : RequestObject} (hr : Fresh r) {cs : List HolderCall}
    (hcs : Run.Along useStep HolderCall.Valid (create r) cs)
    : Disposed r (Run.run useStep (create r) cs) := by
  have hu : UseInv r (Run.run useStep (create r) cs) :=
    Run.inv_run (fun _ _ hu hc => hu.step hc) (useInv_create hr) hcs
  cases hloop : r.reqFlags.has loopback with
  | true => exact hu.disposed_loopback hloop
  | false =>
    cases hkind : r.reqFlags.has reassembled with
    | true => exact hu.disposed_reassembled hr hloop hkind
    | false => exact hu.disposed_plain hloop hkind

def loopbackRequest (id : Nat) : RequestObject := ⟨id, 1, loopback, true, []⟩

theorem fresh_loopbackRequest (id : Nat) : Fresh (loopbackRequest id) := by
  refine ⟨rfl, fun _ => rfl, fun h => ?_⟩
  have : loopback.has loopback = true := by decide
  rw [loopbackRequest, this] at h
  cases h

theorem run_disposed_loopbackRequest
    : Disposed (loopbackRequest 7)
        (Run.run useStep (create (loopbackRequest 7))
          [.clone 0 1, .free 0 true, .inject 1 .success true, .inject 1 .success true, .free 1 true]) := by
  refine run_disposed (fresh_loopbackRequest 7) ?_
  simp [Run.Along, HolderCall.Valid, useStep, create]

end Ansfw
