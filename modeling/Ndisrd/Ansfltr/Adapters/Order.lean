import Ndisrd.Ansfltr.Adapters.LifeCycle

/-!
This module contains the order of `MPHalt` and `PtUnbindAdapter`: an adapter that has been freed is used just if
it is unbound behind its halt, and it is not where NDIS halts an instance for the unbinding only.
-/

namespace Ansfltr.Adapters

open Acquisition (Settled)
open SinglyLinked (Links)

/-! ### Freed adapters -/

namespace Binding

variable {b : Binding}

end Binding

def Phase.halts : Phase → Bool
  | .halting | .halted => true
  | _ => false

namespace Binding

variable {b : Binding}

/-- The instance is halted, or being halted, only behind the last use that `PtUnbindAdapter` makes of it. -/
def Inside (b : Binding) : Prop :=
  b.mini.phase.halts = true → b.bind = .ndisIMDeInitializeDeviceInstance ∨ b.bind = .halted

theorem Inside.of_mini (hmini : b.mini.phase.halts = false) : b.Inside := by
  intro hhalts
  rw [hmini] at hhalts
  cases hhalts

theorem Inside.not_halts (h : b.Inside)
    (hbind : ¬(b.bind = .ndisIMDeInitializeDeviceInstance ∨ b.bind = .halted))
    : b.mini.phase.halts = false := by
  rw [← Bool.not_eq_true]
  exact fun hhalts => hbind (h hhalts)

theorem inside_onAdapt {f : Adapt → Binding} (h : b.Inside) (hf : ∀ pAdapt, (f pAdapt).Inside)
    : (b.onAdapt f).Inside := by
  rw [onAdapt]
  split
  . exact hf _
  . exact h

theorem Inside.apply (h : b.Inside) {action : Action} (haction : b.Allowed action)
    (hhalt : action = .mpHalt → b.bind = .ndisIMDeInitializeDeviceInstance)
    : (action.apply b).Inside := by
  cases action with
  | ptBindAdapter answers =>
    have hbind : b.bind = .unbound := haction
    have hmini := h.not_halts (by simp [hbind])
    rw [Action.apply, ptBindAdapter]
    split
    . exact .of_mini rfl
    . exact .of_mini hmini
  | ptBindAdapterEnd status =>
    have hmini := h.not_halts (by simp [haction.1])
    rw [Action.apply, ptBindAdapterEnd]
    split
    . exact .of_mini hmini
    . exact inside_onAdapt h fun _ => .of_mini rfl
  | ptUnbindAdapter =>
    have hbind : b.bind = .bound := haction
    have hmini := h.not_halts (by simp [hbind])
    apply inside_onAdapt h
    intro pAdapt
    split
    . exact .of_mini hmini
    . exact .of_mini hmini
  | unbindStep =>
    rw [Action.apply, unbindStep]
    split
    . next hbind =>
      have hmini := h.not_halts (by simp [hbind])
      rw [ndisIMCancelInitializeDeviceInstance]
      split
      . exact inside_onAdapt h fun _ => .of_mini rfl
      . exact .of_mini hmini
    . next hbind =>
      have hmini := h.not_halts (by simp [hbind])
      exact inside_onAdapt h fun _ => .of_mini hmini
    . next hbind =>
      have hmini := h.not_halts (by simp [hbind])
      apply inside_onAdapt h
      intro pAdapt
      split
      . exact .of_mini hmini
      . exact .of_mini hmini
    . next hbind =>
      simp only [Allowed, hbind] at haction
      rw [ndisIMDeInitializeDeviceInstance]
      split
      . exact fun _ => Or.inr rfl
      . next hhalted =>
        have hfailed := haction.resolve_left hhalted
        apply Inside.of_mini
        simp only [hfailed]
        rfl
    . exact h
  | mpInitialize mediumArray =>
    apply inside_onAdapt h
    intro pAdapt
    dsimp only
    generalize (if pAdapt.m_Medium = ndisMediumWan then ndisMedium802_3 else pAdapt.m_Medium) = medium
    split
    . exact .of_mini rfl
    . exact .of_mini rfl
  | mpHalt => exact fun _ => Or.inl (hhalt rfl)
  | miniStep =>
    rw [Action.apply, miniStep]
    split
    . exact inside_onAdapt h fun _ => .of_mini rfl
    . exact .of_mini rfl
    . exact inside_onAdapt h fun _ => .of_mini rfl
    . next status _ =>
      apply inside_onAdapt h
      intro pAdapt
      apply Inside.of_mini
      cases status <;> rfl
    . next hmini => exact inside_onAdapt h fun _ _ => h (by rw [hmini]; rfl)
    . next hmini => exact inside_onAdapt h fun _ _ => h (by rw [hmini]; rfl)
    . next hmini => exact inside_onAdapt h fun _ _ => h (by rw [hmini]; rfl)
    . exact h

end Binding

/--
Every call of `PtBindAdapter` goes well.
-/
def Answers.good : Answers where
  ndisOpenProtocolConfiguration := true
  ndisReadConfiguration := true
  allocateAdapt := true
  ndisAllocatePacketPool := true
  ndisAllocateBufferPool := true
  allocateAdapterName := true
  ndisOpenAdapter := some ndisMediumWan

-- An adapter is bound and initialised.
def started (i : Nat) : List Event :=
  let empty : Links Nat := init.pAdaptList
  [⟨i, .ptBindAdapter .good, empty⟩, ⟨i, .mpInitialize [ndisMedium802_3], empty⟩, ⟨i, .miniStep, empty⟩,
    ⟨i, .miniStep, empty⟩, ⟨i, .miniStep, empty⟩, ⟨i, .miniStep, empty⟩, ⟨i, .ptBindAdapterEnd true, empty⟩]

end Ansfltr.Adapters
