import Ndisrd.Lib.Census
import Ndisrd.Ansfltr.ControlDevice.Impl

/-!
This module contains what `MiniportCount` and `ControlDeviceState` guard: over every interleaving of the
threads there is never a second control device, and the one there is is deleted once, with the last
instance.
-/

namespace Ansfltr.ControlDevice

namespace Pc

/-- The instance is counted in `MiniportCount`. -/
inductive Counted : Pc → Prop where
  | waitReady : Counted .waitReady
  | ndisMRegisterDevice : Counted .ndisMRegisterDevice
  | endCreating : Counted .endCreating
  | running : Counted .running

inductive Creating : Pc → Prop where
  | ndisMRegisterDevice : Creating .ndisMRegisterDevice
  | endCreating : Creating .endCreating

inductive Deleting : Pc → Prop where
  | testHandle : Deleting .testHandle
  | ndisMDeregisterDevice (h : Nat) : Deleting (.ndisMDeregisterDevice h)
  | clearHandle : Deleting .clearHandle
  | endDeleting : Deleting .endDeleting

def Busy (pc : Pc) : Prop := pc.Creating ∨ pc.Deleting

def First (pc : Pc) : Prop := pc = .waitReady ∨ pc.Creating

theorem First.counted {pc : Pc} (h : pc.First) : pc.Counted := by
  rcases h with rfl | hcreating
  . exact .waitReady
  . cases hcreating with
    | ndisMRegisterDevice => exact .ndisMRegisterDevice
    | endCreating => exact .endCreating

theorem Deleting.not_counted {pc : Pc} (h : pc.Deleting) : ¬pc.Counted := by
  intro hcounted
  cases hcounted <;> cases h

end Pc

/--
What a thread that has got there knows of the device.
-/
def Pc.Knows (s : State) : Pc → Prop
  | .ndisMRegisterDevice => s.ndisDeviceHandle = none ∧ s.devices = []
  | .ndisMDeregisterDevice h => s.ndisDeviceHandle = some h ∧ s.devices = [h]
  | .clearHandle => s.devices = []
  | .endDeleting => s.ndisDeviceHandle = none ∧ s.devices = []
  | .endCreating => s.devices = s.ndisDeviceHandle.toList
  | .testHandle => s.devices = s.ndisDeviceHandle.toList
  | .waitReady => s.controlDeviceState = .ready → s.ndisDeviceHandle = none
  | .absent => True
  | .running => True

theorem Pc.knows_of_not_busy {s : State} {pc : Pc} (h : ¬pc.Busy)
    (hwait : pc = .waitReady → s.controlDeviceState = .ready → s.ndisDeviceHandle = none)
    : pc.Knows s := by
  cases pc with
  | absent => trivial
  | waitReady => exact hwait rfl
  | ndisMRegisterDevice => exact absurd (Or.inl .ndisMRegisterDevice) h
  | endCreating => exact absurd (Or.inl .endCreating) h
  | running => trivial
  | testHandle => exact absurd (Or.inr .testHandle) h
  | ndisMDeregisterDevice handle => exact absurd (Or.inr (.ndisMDeregisterDevice handle)) h
  | clearHandle => exact absurd (Or.inr .clearHandle) h
  | endDeleting => exact absurd (Or.inr .endDeleting) h

theorem Pc.knows_congr {s s' : State} (hhandle : s'.ndisDeviceHandle = s.ndisDeviceHandle)
    (hdevices : s'.devices = s.devices) (hstate : s'.controlDeviceState = s.controlDeviceState) (pc : Pc)
    : pc.Knows s' ↔ pc.Knows s := by
  cases pc <;> simp only [Pc.Knows, hhandle, hdevices, hstate]

structure Inv (s : State) : Prop where
  counted : Census s.pc Pc.Counted s.miniportCount
  creating : ∀ t, (s.pc t).Creating → s.controlDeviceState = .creating
  deleting : ∀ t, (s.pc t).Deleting → s.controlDeviceState = .deleting
  worker : s.controlDeviceState ≠ .ready → ∃ t, (s.pc t).Busy
  alone : Sole s.pc Pc.Busy
  first : Sole s.pc Pc.First
  waited : s.controlDeviceState = .deleting → 0 < s.miniportCount → ∃ t, s.pc t = .waitReady
  knows : ∀ t, (s.pc t).Knows s
  device : s.controlDeviceState = .ready → s.devices = s.ndisDeviceHandle.toList
  unused : s.controlDeviceState = .ready → s.miniportCount = 0 → s.ndisDeviceHandle = none

theorem inv_init : Inv init where
  counted := by
    apply Census.zero_iff.mpr
    intro t h
    cases h
  creating := by
    intro t h
    cases h
  deleting := by
    intro t h
    cases h
  worker := fun h => absurd rfl h
  alone := by
    apply Sole.of_forall_not
    intro t h
    rcases h with h | h <;> cases h
  first := by
    apply Sole.of_forall_not
    intro t h
    rcases h with h | h <;> cases h
  waited := by
    intro h
    cases h
  knows := fun _ => trivial
  device := fun _ => rfl
  unused := fun _ _ => rfl

namespace Inv

variable {s : State} {t : Nat} (hs : Inv s)
include hs

theorem ne_ready {u : Nat} (hu : (s.pc u).Busy) : s.controlDeviceState ≠ .ready := by
  rcases hu with hu | hu
  . rw [hs.creating u hu]
    decide
  . rw [hs.deleting u hu]
    decide

theorem not_counted (hcount : s.miniportCount = 0) (u : Nat) : ¬(s.pc u).Counted := by
  have hcounted := hs.counted
  rw [hcount] at hcounted
  exact Census.zero_iff.mp hcounted u

/--
The thread that works on the device goes on with it.
-/
theorem advance {s' : State} {k : Pc} (hcount : s'.miniportCount = s.miniportCount)
    (hstate : s'.controlDeviceState = s.controlDeviceState) (hpc : s'.pc = Function.update s.pc t k)
    (hkind : (s.pc t).Creating ∧ k.Creating ∨ (s.pc t).Deleting ∧ k.Deleting) (hknows : k.Knows s')
    : Inv s' := by
  have hbusy : (s.pc t).Busy := hkind.imp And.left And.left
  have hready := hs.ne_ready hbusy
  refine ⟨?counted, ?creating, ?deleting, ?worker, ?alone, ?first, ?waited, ?knows, ?device, ?unused⟩
  case counted =>
    rw [hpc, hcount]
    refine hs.counted.stay ?_
    rcases hkind with ⟨ht, hk⟩ | ⟨ht, hk⟩
    . exact iff_of_true (Pc.First.counted (Or.inr hk)) (Pc.First.counted (Or.inr ht))
    . exact iff_of_false hk.not_counted ht.not_counted
  case creating =>
    rw [hpc, hstate]
    refine (Function.forall_update_iff s.pc fun _ k => k.Creating → _).mpr ⟨?_, fun u _ => hs.creating u⟩
    intro hk
    rcases hkind with ⟨ht, _⟩ | ⟨_, hk'⟩
    . exact hs.creating t ht
    . cases hk <;> cases hk'
  case deleting =>
    rw [hpc, hstate]
    refine (Function.forall_update_iff s.pc fun _ k => k.Deleting → _).mpr ⟨?_, fun u _ => hs.deleting u⟩
    intro hk
    rcases hkind with ⟨_, hk'⟩ | ⟨ht, _⟩
    . cases hk <;> cases hk'
    . exact hs.deleting t ht
  case worker =>
    intro _
    refine ⟨t, ?_⟩
    rw [hpc, Function.update_self]
    exact hkind.imp And.right And.right
  case alone =>
    rw [hpc]
    exact hs.alone.stay fun _ => hbusy
  case first =>
    rw [hpc]
    refine hs.first.stay ?_
    intro hk
    rcases hkind with ⟨ht, _⟩ | ⟨_, hk'⟩
    . exact Or.inr ht
    . rcases hk with rfl | hk
      . cases hk'
      . cases hk <;> cases hk'
  case waited =>
    rw [hstate, hcount]
    intro hdeleting hpos
    obtain ⟨u, hu⟩ := hs.waited hdeleting hpos
    refine ⟨u, ?_⟩
    have hut : u ≠ t := by
      rintro rfl
      rw [hu] at hbusy
      rcases hbusy with hbusy | hbusy <;> cases hbusy
    rw [hpc, Function.update_of_ne hut, hu]
  case knows =>
    rw [hpc]
    refine (Function.forall_update_iff s.pc fun _ k => k.Knows s').mpr ⟨hknows, ?_⟩
    intro u hu
    exact Pc.knows_of_not_busy (hs.alone.other hbusy u hu) fun _ h => absurd (hstate ▸ h) hready
  case device => exact fun h => absurd (hstate ▸ h) hready
  case unused => exact fun h => absurd (hstate ▸ h) hready

/--
The thread that works on the device is done with it.
-/
theorem finish {k : Pc} (hkind : s.pc t = .endCreating ∧ k = .running ∨ s.pc t = .endDeleting ∧ k = .absent)
    : Inv ({ s with controlDeviceState := .ready }.goto t k) := by
  have hbusy : (s.pc t).Busy := by
    rcases hkind with ⟨ht, _⟩ | ⟨ht, _⟩
    . rw [ht]
      exact Or.inl .endCreating
    . rw [ht]
      exact Or.inr .endDeleting
  have hother := hs.alone.other hbusy
  have hidle : ¬k.Busy ∧ ¬k.First := by
    rcases hkind with ⟨_, rfl⟩ | ⟨_, rfl⟩ <;> constructor <;> rintro (h | h) <;> cases h
  have hknows := hs.knows t
  refine ⟨?counted, ?creating, ?deleting, ?worker, ?alone, ?first, ?waited, ?knows, ?device, ?unused⟩
  case counted =>
    refine hs.counted.stay ?_
    rcases hkind with ⟨ht, rfl⟩ | ⟨ht, rfl⟩ <;> rw [ht]
    . exact iff_of_true .running .endCreating
    . exact iff_of_false (fun h => by cases h) (fun h => by cases h)
  case creating =>
    refine (Function.forall_update_iff s.pc fun _ k => k.Creating → _).mpr ⟨?_, ?_⟩
    . exact fun h => absurd (Or.inl h) hidle.1
    . exact fun u hu h => absurd (Or.inl h) (hother u hu)
  case deleting =>
    refine (Function.forall_update_iff s.pc fun _ k => k.Deleting → _).mpr ⟨?_, ?_⟩
    . exact fun h => absurd (Or.inr h) hidle.1
    . exact fun u hu h => absurd (Or.inr h) (hother u hu)
  case worker => exact fun h => absurd rfl h
  case alone => exact hs.alone.stay fun h => absurd h hidle.1
  case first => exact hs.first.stay fun h => absurd h hidle.2
  case waited =>
    intro h
    cases h
  case knows =>
    refine (Function.forall_update_iff s.pc fun _ k => k.Knows _).mpr ⟨?_, ?_⟩
    . rcases hkind with ⟨_, rfl⟩ | ⟨_, rfl⟩ <;> trivial
    . intro u hu
      refine Pc.knows_of_not_busy (hother u hu) ?_
      intro hwait _
      rcases hkind with ⟨ht, _⟩ | ⟨ht, _⟩
      . have hfirst : (s.pc t).First := by
          rw [ht]
          exact Or.inr .endCreating
        exact absurd (Or.inl hwait) (hs.first.other hfirst u hu)
      . rw [ht] at hknows
        exact hknows.1
  case device =>
    intro _
    rcases hkind with ⟨ht, _⟩ | ⟨ht, _⟩ <;> rw [ht] at hknows
    . exact hknows
    . change s.devices = s.ndisDeviceHandle.toList
      rw [hknows.1, hknows.2, Option.toList_none]
  case unused =>
    intro _ hcount
    rcases hkind with ⟨ht, _⟩ | ⟨ht, _⟩
    . have hnot := hs.not_counted hcount t
      rw [ht] at hnot
      exact absurd .endCreating hnot
    . rw [ht] at hknows
      exact hknows.1

/--
A thread that leaves the device alone goes on, and counts its instance in or out.
-/
theorem recount {k : Pc} {n : Nat} (ht : s.pc t = .absent ∨ s.pc t = .running) (hk : ¬k.Busy)
    (hcounted : Census (Function.update s.pc t k) Pc.Counted n)
    (hfirst : Sole (Function.update s.pc t k) Pc.First)
    (hwaited : s.controlDeviceState = .deleting → 0 < n → k = .waitReady ∨ 0 < s.miniportCount)
    (hunused : s.controlDeviceState = .ready → n = 0 ∨ k = .waitReady → s.ndisDeviceHandle = none)
    : Inv ({ s with miniportCount := n }.goto t k) := by
  refine ⟨hcounted, ?creating, ?deleting, ?worker, ?alone, hfirst, ?waited, ?knows, hs.device, ?unused⟩
  case creating =>
    refine (Function.forall_update_iff s.pc fun _ k => k.Creating → _).mpr ⟨?_, fun u _ => hs.creating u⟩
    exact fun h => absurd (Or.inl h) hk
  case deleting =>
    refine (Function.forall_update_iff s.pc fun _ k => k.Deleting → _).mpr ⟨?_, fun u _ => hs.deleting u⟩
    exact fun h => absurd (Or.inr h) hk
  case worker =>
    intro h
    obtain ⟨u, hu⟩ := hs.worker h
    refine ⟨u, ?_⟩
    have hut : u ≠ t := by
      rintro rfl
      rcases ht with ht | ht <;> rw [ht] at hu <;> rcases hu with hu | hu <;> cases hu
    change (Function.update s.pc t k u).Busy
    rw [Function.update_of_ne hut]
    exact hu
  case alone => exact hs.alone.stay fun h => absurd h hk
  case waited =>
    intro hdeleting hpos
    rcases hwaited hdeleting hpos with rfl | hpos
    . exact ⟨t, Function.update_self ..⟩
    . obtain ⟨u, hu⟩ := hs.waited hdeleting hpos
      refine ⟨u, ?_⟩
      have hut : u ≠ t := by
        rintro rfl
        rcases ht with ht | ht <;> rw [hu] at ht <;> cases ht
      change Function.update s.pc t k u = .waitReady
      rw [Function.update_of_ne hut, hu]
  case knows =>
    refine (Function.forall_update_iff s.pc fun _ k => k.Knows _).mpr ⟨?_, ?_⟩
    . exact Pc.knows_of_not_busy hk fun hwait hready => hunused hready (Or.inr hwait)
    . exact fun u _ => (Pc.knows_congr rfl rfl rfl _).mpr (hs.knows u)
  case unused => exact fun hready hn => hunused hready (Or.inl hn)

/--
The first instance takes the lock again before it goes on.
-/
theorem countIn (ht : s.pc t = .absent) {k : Pc}
    (hkind : s.miniportCount = 0 ∧ k = .waitReady ∨ s.miniportCount ≠ 0 ∧ k = .running)
    : Inv ({ s with miniportCount := s.miniportCount + 1 }.goto t k) := by
  have hnot : ¬(s.pc t).Counted := by
    rw [ht]
    intro h
    cases h
  rcases hkind with ⟨hcount, rfl⟩ | ⟨hcount, rfl⟩
  . refine hs.recount (Or.inl ht) ?_ (hs.counted.enter hnot .waitReady) ?_ ?_ ?_
    . rintro (h | h) <;> cases h
    . exact Sole.enter fun u _ h => hs.not_counted hcount u h.counted
    . exact fun _ _ => Or.inl rfl
    . exact fun hready _ => hs.unused hready hcount
  . refine hs.recount (Or.inl ht) ?_ (hs.counted.enter hnot .running) (hs.first.stay ?_) ?_ ?_
    . rintro (h | h) <;> cases h
    . rintro (h | h) <;> cases h
    . exact fun _ _ => Or.inr (Nat.pos_of_ne_zero hcount)
    . rintro _ (h | h) <;> cases h

theorem awaitReady (ht : s.pc t = .waitReady) : Inv (awaitReady s t) := by
  unfold ControlDevice.awaitReady
  split
  case isTrue h =>
    have hself : Function.update s.pc t .waitReady = s.pc := by rw [← ht, Function.update_eq_self]
    rw [State.goto, hself]
    exact hs
  case isFalse h =>
    have hready : s.controlDeviceState = .ready := not_not.mp h
    have hnone : ∀ u, ¬(s.pc u).Busy := fun u hu => hs.ne_ready hu hready
    have hknows := hs.knows t
    rw [ht] at hknows
    refine ⟨?counted, ?creating, ?deleting, ?worker, ?alone, ?first, ?waited, ?knows, ?device, ?unused⟩
    case counted =>
      refine hs.counted.stay ?_
      rw [ht]
      exact iff_of_true .ndisMRegisterDevice .waitReady
    case creating => exact fun _ _ => rfl
    case deleting =>
      refine (Function.forall_update_iff s.pc fun _ k => k.Deleting → _).mpr ⟨?_, ?_⟩
      . intro h
        cases h
      . exact fun u _ h => absurd (Or.inr h) (hnone u)
    case worker =>
      refine fun _ => ⟨t, ?_⟩
      change (Function.update s.pc t .ndisMRegisterDevice t).Busy
      rw [Function.update_self]
      exact Or.inl .ndisMRegisterDevice
    case alone => exact Sole.enter fun u _ => hnone u
    case first =>
      refine hs.first.stay fun _ => ?_
      rw [ht]
      exact Or.inl rfl
    case waited =>
      intro h
      cases h
    case knows =>
      refine (Function.forall_update_iff s.pc fun _ k => k.Knows _).mpr ⟨?_, ?_⟩
      . refine ⟨hknows hready, ?_⟩
        change s.devices = []
        rw [hs.device hready, hknows hready, Option.toList_none]
      . intro u _
        refine Pc.knows_of_not_busy (hnone u) ?_
        intro _ h
        cases h
    case device =>
      intro h
      cases h
    case unused =>
      intro h
      cases h

theorem ptRegisterDevice (ht : s.pc t = .absent) : Inv (ptRegisterDevice s t) := by
  unfold ControlDevice.ptRegisterDevice
  by_cases hcount : s.miniportCount = 0
  . have hwait := hs.countIn ht (Or.inl ⟨hcount, rfl⟩)
    have hinv := hwait.awaitReady (t := t) (Function.update_self ..)
    rw [if_pos (by simp only [hcount])]
    convert hinv using 1
    unfold ControlDevice.awaitReady State.goto
    simp only [Function.update_idem]
  . rw [if_neg (by dsimp only; omega)]
    exact hs.countIn ht (Or.inr ⟨hcount, rfl⟩)

theorem pos_of_running (ht : s.pc t = .running) : 0 < s.miniportCount := by
  apply hs.counted.pos (i := t)
  rw [ht]
  exact .running

theorem others_uncounted (ht : s.pc t = .running) (hcount : s.miniportCount = 1) (u : Nat) (hu : u ≠ t)
    : ¬(s.pc u).Counted := by
  have hcounted := hs.counted
  rw [hcount] at hcounted
  have hleft : Census (Function.update s.pc t .absent) Pc.Counted 0 := by
    refine hcounted.leave ?_ ?_
    . rw [ht]
      exact .running
    . intro h
      cases h
  have hnot := Census.zero_iff.mp hleft u
  rw [Function.update_of_ne hu] at hnot
  exact hnot

/-- The assertion of `PtDeregisterDevice`: the last instance is not halted while the device is at work. -/
theorem ready_of_last (ht : s.pc t = .running) (hcount : s.miniportCount = 1)
    : s.controlDeviceState = .ready := by
  have hother := hs.others_uncounted ht hcount
  by_contra hready
  obtain ⟨u, hu⟩ := hs.worker hready
  rcases hu with hu | hu
  . have hut : u ≠ t := by
      rintro rfl
      rw [ht] at hu
      cases hu
    exact hother u hut (Pc.First.counted (Or.inr hu))
  . obtain ⟨v, hv⟩ := hs.waited (hs.deleting u hu) (by omega)
    have hvt : v ≠ t := by
      rintro rfl
      rw [ht] at hv
      cases hv
    refine hother v hvt ?_
    rw [hv]
    exact .waitReady

theorem ptDeregisterDevice (ht : s.pc t = .running) : Inv (ptDeregisterDevice s t) := by
  have hpos : 0 < s.miniportCount := hs.pos_of_running ht
  obtain ⟨n, hn⟩ : ∃ n, s.miniportCount = n + 1 := ⟨s.miniportCount - 1, by omega⟩
  have hcounted := hs.counted
  rw [hn] at hcounted
  unfold ControlDevice.ptDeregisterDevice
  by_cases hlast : s.miniportCount = 1
  . have hready := hs.ready_of_last ht hlast
    have hnone : ∀ u, ¬(s.pc u).Busy := fun u hu => hs.ne_ready hu hready
    have hother := hs.others_uncounted ht hlast
    rw [if_pos (by simp only [hlast])]
    refine ⟨?counted, ?creating, ?deleting, ?worker, ?alone, ?first, ?waited, ?knows, ?device, ?unused⟩
    case counted =>
      change Census (Function.update s.pc t .testHandle) Pc.Counted (s.miniportCount - 1)
      rw [hn]
      refine hcounted.leave ?_ ?_
      . rw [ht]
        exact .running
      . exact Pc.Deleting.testHandle.not_counted
    case creating =>
      refine (Function.forall_update_iff s.pc fun _ k => k.Creating → _).mpr ⟨?_, ?_⟩
      . intro h
        cases h
      . exact fun u _ h => absurd (Or.inl h) (hnone u)
    case deleting => exact fun _ _ => rfl
    case worker =>
      refine fun _ => ⟨t, ?_⟩
      change (Function.update s.pc t .testHandle t).Busy
      rw [Function.update_self]
      exact Or.inr .testHandle
    case alone => exact Sole.enter fun u _ => hnone u
    case first => exact Sole.enter fun u hu h => hother u hu h.counted
    case waited =>
      intro _ h
      change 0 < s.miniportCount - 1 at h
      omega
    case knows =>
      refine (Function.forall_update_iff s.pc fun _ k => k.Knows _).mpr ⟨hs.device hready, ?_⟩
      intro u _
      refine Pc.knows_of_not_busy (hnone u) ?_
      intro _ h
      cases h
    case device =>
      intro h
      cases h
    case unused =>
      intro h
      cases h
  . rw [if_neg (by dsimp only; omega)]
    refine hs.recount (Or.inr ht) ?_ ?_ (hs.first.stay ?_) (fun _ _ => Or.inr hpos) ?_
    . rintro (h | h) <;> cases h
    . rw [hn]
      refine hcounted.leave ?_ ?_
      . rw [ht]
        exact .running
      . intro h
        cases h
    . rintro (h | h) <;> cases h
    . rintro _ (h | h)
      . omega
      . cases h

theorem step (e : Event) : Inv (step s e) := by
  unfold ControlDevice.step
  have hknows := hs.knows e.thread
  cases ht : s.pc e.thread with
  | absent => exact hs.ptRegisterDevice ht
  | waitReady => exact hs.awaitReady ht
  | ndisMRegisterDevice =>
    rw [ht] at hknows
    have hkind : (s.pc e.thread).Creating ∧ Pc.endCreating.Creating := by
      rw [ht]
      exact ⟨.ndisMRegisterDevice, .endCreating⟩
    cases hdevice : e.device with
    | some device =>
      refine hs.advance rfl rfl rfl (Or.inl hkind) ?_
      change device :: s.devices = [device]
      rw [hknows.2]
    | none =>
      refine hs.advance rfl rfl rfl (Or.inl hkind) ?_
      change s.devices = s.ndisDeviceHandle.toList
      rw [hknows.1, hknows.2, Option.toList_none]
  | endCreating => exact hs.finish (Or.inl ⟨ht, rfl⟩)
  | running => exact hs.ptDeregisterDevice ht
  | testHandle =>
    rw [ht] at hknows
    simp only [testHandle]
    have hdeleting : (s.pc e.thread).Deleting := ht ▸ Pc.Deleting.testHandle
    cases hhandle : s.ndisDeviceHandle with
    | some handle =>
      refine hs.advance rfl rfl rfl (Or.inr ⟨hdeleting, .ndisMDeregisterDevice handle⟩) ?_
      refine ⟨hhandle, ?_⟩
      rw [Pc.Knows, hhandle] at hknows
      exact hknows
    | none =>
      refine hs.advance rfl rfl rfl (Or.inr ⟨hdeleting, .endDeleting⟩) ?_
      refine ⟨hhandle, ?_⟩
      rw [Pc.Knows, hhandle] at hknows
      exact hknows
  | ndisMDeregisterDevice handle =>
    rw [ht] at hknows
    refine hs.advance rfl rfl rfl (Or.inr ⟨ht ▸ .ndisMDeregisterDevice handle, .clearHandle⟩) ?_
    change s.devices.erase handle = []
    rw [hknows.2, List.erase_cons_head]
  | clearHandle =>
    rw [ht] at hknows
    exact hs.advance rfl rfl rfl (Or.inr ⟨ht ▸ .clearHandle, .endDeleting⟩) ⟨rfl, hknows⟩
  | endDeleting => exact hs.finish (Or.inr ⟨ht, rfl⟩)

end Inv

theorem inv_run (es : List Event) : Inv (Run.run step init es) := by
  have hstep : ∀ s e, Inv s → True → Inv (step s e) := fun _ e hs _ => hs.step e
  exact Run.inv_run hstep inv_init (Run.along_of_forall step fun _ _ => trivial)

/-! ### Instances with a device -/

/--
No call of `PtRegisterDevice` or `PtDeregisterDevice` is under way.
-/
def State.Quiet (s : State) : Prop := ∀ t, s.pc t = .absent ∨ s.pc t = .running

/--
What holds besides as long as NDIS refuses no device.
-/
structure Supplied (s : State) : Prop where
  created : ∀ t, s.pc t = .endCreating → s.ndisDeviceHandle ≠ none
  ready : s.controlDeviceState = .ready → 0 < s.miniportCount
    → (∃ t, s.pc t = .waitReady) ∨ s.ndisDeviceHandle ≠ none

theorem supplied_init : Supplied init where
  created := by
    intro t h
    cases h
  ready := fun _ h => absurd h (Nat.lt_irrefl 0)

/--
The thread that deletes the device goes on.
-/
theorem Inv.supplied {s s' : State} {t : Nat} {k : Pc} (hs : Inv s) (ht : (s.pc t).Deleting)
    (hpc : s'.pc = Function.update s.pc t k) (hk : k ≠ .endCreating)
    (hstate : s'.controlDeviceState = s.controlDeviceState)
    : Supplied s' := by
  constructor
  . rw [hpc]
    refine (Function.forall_update_iff s.pc fun _ k => k = .endCreating → _).mpr ⟨?_, ?_⟩
    . exact fun h => absurd h hk
    . intro u hu hcreating
      have hbusy : (s.pc u).Busy := Or.inl (hcreating ▸ .endCreating)
      exact absurd hbusy (hs.alone.other (Or.inr ht) u hu)
  . intro hready
    rw [hstate] at hready
    exact absurd hready (hs.ne_ready (Or.inr ht))

namespace Supplied

variable {s : State} {t : Nat} (h : Supplied s)
include h

theorem awaitReady {s' : State} (hhandle : s'.ndisDeviceHandle = s.ndisDeviceHandle) (hpc : s'.pc = s.pc)
    : Supplied (awaitReady s' t) := by
  have hcreated : ∀ u, s'.pc u = .endCreating → s'.ndisDeviceHandle ≠ none := by
    rw [hhandle, hpc]
    exact h.created
  unfold ControlDevice.awaitReady
  split
  case isTrue =>
    constructor
    . refine (Function.forall_update_iff s'.pc fun _ k => k = .endCreating → _).mpr ⟨?_, ?_⟩
      . intro hk
        cases hk
      . exact fun u _ => hcreated u
    . exact fun _ _ => Or.inl ⟨t, Function.update_self ..⟩
  case isFalse =>
    constructor
    . refine (Function.forall_update_iff s'.pc fun _ k => k = .endCreating → _).mpr ⟨?_, ?_⟩
      . intro hk
        cases hk
      . exact fun u _ => hcreated u
    . intro hready
      cases hready

/--
A thread goes on without the device.
-/
theorem recount {k : Pc} {n : Nat} (ht : s.pc t ≠ .waitReady) (hk : k ≠ .endCreating)
    (hn : 0 < n → 0 < s.miniportCount)
    : Supplied ({ s with miniportCount := n }.goto t k) := by
  constructor
  . refine (Function.forall_update_iff s.pc fun _ k => k = .endCreating → _).mpr ⟨?_, ?_⟩
    . exact fun h => absurd h hk
    . exact fun u _ => h.created u
  . intro hready hpos
    rcases h.ready hready (hn hpos) with ⟨u, hu⟩ | hhandle
    . left
      refine ⟨u, ?_⟩
      have hut : u ≠ t := by
        rintro rfl
        exact ht hu
      change Function.update s.pc t k u = .waitReady
      rw [Function.update_of_ne hut, hu]
    . exact Or.inr hhandle

theorem step (hs : Inv s) {e : Event} (he : e.device ≠ none) : Supplied (step s e) := by
  unfold ControlDevice.step
  cases ht : s.pc e.thread with
  | absent =>
    simp only [ptRegisterDevice]
    split
    . exact h.awaitReady rfl rfl
    case isFalse hcount =>
      refine h.recount ?_ (by decide) (fun _ => by omega)
      rw [ht]
      decide
  | waitReady => exact h.awaitReady rfl rfl
  | ndisMRegisterDevice =>
    cases hdevice : e.device with
    | none => exact absurd hdevice he
    | some device =>
      constructor
      . exact fun _ _ => by simp [ndisMRegisterDevice, State.goto]
      . exact fun _ _ => Or.inr (by simp [ndisMRegisterDevice, State.goto])
  | endCreating =>
    constructor
    . exact fun _ _ => h.created e.thread ht
    . exact fun _ _ => Or.inr (h.created e.thread ht)
  | running =>
    simp only [ptDeregisterDevice]
    split
    . constructor
      . refine (Function.forall_update_iff s.pc fun _ k => k = .endCreating → _).mpr ⟨?_, ?_⟩
        . intro hk
          cases hk
        . exact fun u _ => h.created u
      . intro hready
        cases hready
    . refine h.recount ?_ (by decide) (fun _ => hs.pos_of_running ht)
      rw [ht]
      decide
  | testHandle =>
    simp only [testHandle]
    split
    . exact hs.supplied (ht ▸ .testHandle) rfl nofun rfl
    . exact hs.supplied (ht ▸ .testHandle) rfl nofun rfl
  | ndisMDeregisterDevice handle => exact hs.supplied (ht ▸ .ndisMDeregisterDevice handle) rfl nofun rfl
  | clearHandle => exact hs.supplied (ht ▸ .clearHandle) rfl nofun rfl
  | endDeleting =>
    constructor
    . refine (Function.forall_update_iff s.pc fun _ k => k = .endCreating → _).mpr ⟨nofun, ?_⟩
      exact fun u _ => h.created u
    . intro _ hpos
      left
      obtain ⟨u, hu⟩ := hs.waited (hs.deleting e.thread (ht ▸ .endDeleting)) hpos
      refine ⟨u, ?_⟩
      have hut : u ≠ e.thread := by
        rintro rfl
        rw [ht] at hu
        cases hu
      change Function.update s.pc e.thread .absent u = .waitReady
      rw [Function.update_of_ne hut, hu]

end Supplied

theorem supplied_run {es : List Event} (hes : ∀ e ∈ es, e.device ≠ none)
    : Supplied (Run.run step init es) := by
  have hstep : ∀ s e, Inv s ∧ Supplied s → e.device ≠ none → Inv (step s e) ∧ Supplied (step s e) :=
    fun _ e hs he => ⟨hs.1.step e, hs.2.step hs.1 he⟩
  exact (Run.inv_run hstep ⟨inv_init, supplied_init⟩ (Run.along_of_forall step hes)).2

/-! ### What the protocol guarantees -/

structure Sound (s : State) : Prop where
  counted : Census s.pc Pc.Counted s.miniportCount
  -- the `ASSERT`s of the two routines
  notCreating : ∀ t, s.pc t = .absent → s.miniportCount + 1 = 1 → s.controlDeviceState ≠ .creating
  pos : ∀ t, s.pc t = .running → 0 < s.miniportCount
  readyAtLast : ∀ t, s.pc t = .running → s.miniportCount - 1 = 0 → s.controlDeviceState = .ready
  -- no second device is asked for, and what is deleted is there
  registers : ∀ t, s.pc t = .ndisMRegisterDevice → s.devices = []
  deregisters : ∀ t h, s.pc t = .ndisMDeregisterDevice h → s.devices = [h]
  -- a wait is for a thread that deletes the device, and that thread never waits
  waits : ∀ t, s.pc t = .waitReady → s.controlDeviceState ≠ .ready → ∃ u, (s.pc u).Deleting
  quiet : s.Quiet → s.controlDeviceState = .ready ∧ s.devices = s.ndisDeviceHandle.toList
    ∧ ((∀ t, s.pc t = .absent) → s.devices = [])

theorem Inv.sound {s : State} (hs : Inv s) : Sound s where
  counted := hs.counted
  notCreating := by
    intro _ _ hcount hcreating
    have hready : s.controlDeviceState ≠ .ready := by
      rw [hcreating]
      decide
    obtain ⟨u, hu⟩ := hs.worker hready
    rcases hu with hu | hu
    . exact hs.not_counted (by omega) u (Pc.First.counted (Or.inr hu))
    . have hdeleting := hs.deleting u hu
      rw [hcreating] at hdeleting
      cases hdeleting
  pos := fun _ ht => hs.pos_of_running ht
  readyAtLast := by
    intro t ht hcount
    have hpos := hs.pos_of_running ht
    exact hs.ready_of_last ht (by omega)
  registers := by
    intro t ht
    have hknows := hs.knows t
    rw [ht] at hknows
    exact hknows.2
  deregisters := by
    intro t h ht
    have hknows := hs.knows t
    rw [ht] at hknows
    exact hknows.2
  waits := by
    intro t ht hready
    obtain ⟨u, hu⟩ := hs.worker hready
    rcases hu with hu | hu
    . have htu := hs.first t u (Or.inl ht) (Or.inr hu)
      rw [← htu, ht] at hu
      cases hu
    . exact ⟨u, hu⟩
  quiet := by
    intro hquiet
    have hready : s.controlDeviceState = .ready := by
      by_contra h
      obtain ⟨u, hu⟩ := hs.worker h
      rcases hquiet u with hu' | hu' <;> rw [hu'] at hu <;> rcases hu with hu | hu <;> cases hu
    refine ⟨hready, hs.device hready, ?_⟩
    intro habsent
    have hcount : s.miniportCount = 0 := by
      apply hs.counted.eq_zero
      intro t h
      rw [habsent t] at h
      cases h
    rw [hs.device hready, hs.unused hready hcount, Option.toList_none]

theorem Inv.device_of_quiet {s : State} (hs : Inv s) (h : Supplied s) (hquiet : s.Quiet) {t : Nat}
    (ht : s.pc t = .running)
    : ∃ device, s.devices = [device] := by
  have hready := (hs.sound.quiet hquiet).1
  rcases h.ready hready (hs.pos_of_running ht) with ⟨u, hu⟩ | hhandle
  . rcases hquiet u with hu' | hu' <;> rw [hu] at hu' <;> cases hu'
  . obtain ⟨device, hdevice⟩ := Option.ne_none_iff_exists'.mp hhandle
    refine ⟨device, ?_⟩
    rw [hs.device hready, hdevice, Option.toList_some]

/--
`MiniportCount` and `ControlDeviceState` keep the control device single, with any number of instances that
are initialised and halted at the same time. While no call is under way there is a device when there is an
instance, unless NDIS refused to make one.
-/
theorem controlDevice_run (es : List Event)
    : Sound (Run.run step init es) ∧ ((∀ e ∈ es, e.device ≠ none) → (Run.run step init es).Quiet
      → ∀ t, (Run.run step init es).pc t = .running → ∃ device, (Run.run step init es).devices = [device]) := by
  refine ⟨(inv_run es).sound, ?_⟩
  intro hes hquiet t ht
  exact (inv_run es).device_of_quiet (supplied_run hes) hquiet ht

def twoInstances : List Event := [⟨0, some 7⟩, ⟨1, some 7⟩, ⟨0, some 7⟩, ⟨0, some 7⟩]

theorem quiet_twoInstances : (Run.run step init twoInstances).Quiet := by
  intro t
  by_cases h0 : t = 0
  . subst h0
    exact Or.inr rfl
  . by_cases h1 : t = 1
    . subst h1
      exact Or.inr rfl
    . left
      simp [twoInstances, step, init, ptRegisterDevice, awaitReady, ndisMRegisterDevice, endCreating,
        State.goto, Function.update, h0, h1]

theorem controlDevice_twoInstances : ∃ device, (Run.run step init twoInstances).devices = [device] :=
  (controlDevice_run twoInstances).2 (by decide) quiet_twoInstances 0 rfl

end Ansfltr.ControlDevice
