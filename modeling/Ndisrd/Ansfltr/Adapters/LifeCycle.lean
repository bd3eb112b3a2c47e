import Ndisrd.Ansfltr.Adapters.Impl

/-!
This module contains what holds of the adapters of the NT filter whatever NDIS does and in whatever order
the calls go on, as long as `PtUnbindAdapter` does not come to an adapter that `MPHalt` has freed: `pAdaptList`
lists the instances that are initialised, no call uses an adapter that has been freed, and what an adapter has
been given is given back, but for the pools of one that is unbound before it is initialised.
-/

namespace Ansfltr.Adapters

open Acquisition (Holding Exchange Settled)
open SinglyLinked (Links)

/--
How far the instance is, as far as the calls for the adapter below can tell.
-/
inductive Phase where
  | none
  | scheduled
  | initializing
  | signalling
  | running
  | failed
  | halting
  | halted

namespace MiniPc

def phase : MiniPc → Phase
  | .none => .none
  | .scheduled => .scheduled
  | .insertAdapt | .ptRegisterDevice | .clearPending _ => .initializing
  | .ndisSetEvent _ => .signalling
  | .running => .running
  | .failed => .failed
  | .removeAdapt | .ptDeregisterDevice | .ndisCloseAdapter => .halting
  | .halted => .halted

/-- The adapter is in `pAdaptList`. -/
def listed : MiniPc → Bool
  | .ptRegisterDevice | .running | .removeAdapt => true
  | .clearPending status | .ndisSetEvent status => status
  | _ => false

def opened : MiniPc → Bool
  | .ptRegisterDevice | .running => true
  | .clearPending status | .ndisSetEvent status => status
  | _ => false

def registered : MiniPc → Bool
  | .running | .removeAdapt | .ptDeregisterDevice => true
  | .clearPending status | .ndisSetEvent status => status
  | _ => false

end MiniPc

namespace Phase

def pending : Phase → Bool
  | .scheduled | .initializing => true
  | _ => false

def event : Phase → Bool
  | .running | .failed | .halting | .halted => true
  | _ => false

def handle : Phase → Bool
  | .none | .scheduled => false
  | _ => true

end Phase

def BindPc.meets : BindPc → Phase → Bool
  | .unbound, .none | .refused, .none | .closed, .none => true
  | .ndisIMInitializeDeviceInstanceEx, phase | .bound, phase
  | .ndisIMCancelInitializeDeviceInstance, phase =>
    match phase with
    | .none => false
    | _ => true
  | .ndisWaitEvent, phase =>
    match phase with
    | .none | .scheduled => false
    | _ => true
  | .testMiniportHandle, phase =>
    match phase with
    | .scheduled | .initializing => false
    | _ => true
  | .ndisIMDeInitializeDeviceInstance, phase =>
    match phase with
    | .none | .scheduled | .initializing => false
    | _ => true
  | .halted, .halted => true
  | .notHalted, .failed => true
  | _, _ => false

def BindPc.gone : BindPc → Phase → Bool
  | .unbound, _ | .refused, _ | .closed, _ | _, .halted => true
  | _, _ => false

theorem BindPc.gone_eq_false {bind : BindPc} {phase : Phase} (hphase : phase ≠ .halted)
    (hbind : bind = .ndisIMInitializeDeviceInstanceEx ∨ bind = .bound ∨ bind = .ndisWaitEvent ∨
      bind = .ndisIMCancelInitializeDeviceInstance ∨ bind = .testMiniportHandle)
    : bind.gone phase = false := by
  rcases hbind with rfl | rfl | rfl | rfl | rfl <;> cases phase <;>
    first | exact absurd rfl hphase | rfl

theorem MiniPc.halted_of_phase {mini : MiniPc} (h : mini.phase = .halted) : mini = .halted := by
  cases mini <;> first | rfl | cases h

structure Adapt.Fits (phase : Phase) (pAdapt : Adapt) : Prop where
  pending : pAdapt.miniportInitPending = phase.pending
  event : pAdapt.miniportInitEvent = phase.event
  handle : pAdapt.miniportHandle = phase.handle
  bindingHandle : pAdapt.bindingHandle = true
  m_hPacketPool : pAdapt.m_hPacketPool = true
  m_hBufferPool : pAdapt.m_hBufferPool = true

namespace ptBindAdapter

/--
The body is left with an error at each of its calls, and what it has acquired by then is released.
-/
theorem exchange_of_refused {answers : Answers} {S S' : Set Resource}
    (h : ¬(body answers).status = true) (hS : ∀ r, r ∉ S) (hS' : ∀ r, r ∉ S')
    : Exchange S ((body answers).effects ++ unwind (body answers).configHandle (body answers).pAdapt)
        S' := by
  revert h
  rw [body]
  repeat' split
  all_goals
    simp_all [Exchange, unwind, Adapt.ndisCloseAdapter, Adapt.mpFreeAllPacketPools,
      Adapt.freeAdapterName, Adapt.zeroed]

theorem body_of_status {answers : Answers} (h : (body answers).status = true)
    : ∃ pAdapt, pAdapt.Fits .scheduled ∧ (body answers).pAdapt = some pAdapt ∧
      (body answers).effects =
        [.acquire .configuration, .acquire .adapt, .acquire .packetPool, .acquire .bufferPool] ++
          (if pAdapt.m_AdapterName then [.acquire .adapterName] else []) ++ [.acquire .binding] := by
  revert h
  rw [body]
  split
  . nofun
  split
  . nofun
  split
  . nofun
  split
  . nofun
  split
  . nofun
  cases answers.ndisOpenAdapter with
  | none => nofun
  | some medium => exact fun _ => ⟨_, ⟨rfl, rfl, rfl, rfl, rfl, rfl⟩, rfl, rfl⟩

end ptBindAdapter

namespace Binding

variable (b : Binding)

def Holds : Resource → Prop
  | .configuration => b.bind = .ndisIMInitializeDeviceInstanceEx
  | .adapt => b.pAdapt.isSome
  | .packetPool => b.pAdapt.isSome ∨ b.bind = .closed
  | .bufferPool => b.pAdapt.isSome ∨ b.bind = .closed
  | .adapterName => ∃ pAdapt, b.pAdapt = some pAdapt ∧ pAdapt.m_AdapterName = true
  | .binding => b.pAdapt.isSome
  | .openAdapter => b.mini.opened = true
  | .registerDevice => b.mini.registered = true

structure Fits : Prop where
  meets : b.bind.meets b.mini.phase = true
  gone : b.pAdapt = none ↔ b.bind.gone b.mini.phase = true
  adapt : ∀ pAdapt, b.pAdapt = some pAdapt → pAdapt.Fits b.mini.phase
  holding : Holding b.effects { r | b.Holds r }
  freedAccess : b.freedAccess = false
  assertFailed : b.assertFailed = false

variable {b}

theorem assert_of_true {p : Bool} (h : p = true) : b.assert p = b := by
  simp [assert, h]

theorem onAdapt_some {pAdapt : Adapt} (h : b.pAdapt = some pAdapt) (f : Adapt → Binding)
    : b.onAdapt f = f pAdapt := by
  rw [onAdapt, h]

/-- `PtUnbindAdapter` does not come to an adapter that `MPHalt` has freed. -/
def InOrder (b : Binding) : Action → Prop
  | .ptUnbindAdapter => b.mini ≠ .halted
  | .unbindStep => b.bind = .ndisWaitEvent ∨ b.bind = .testMiniportHandle → b.mini ≠ .halted
  | _ => True

namespace Fits

theorem exists_adapt (h : b.Fits) (hgone : b.bind.gone b.mini.phase = false)
    : ∃ pAdapt, b.pAdapt = some pAdapt ∧ pAdapt.Fits b.mini.phase := by
  have hsome : b.pAdapt ≠ none := by
    rw [Ne, h.gone, hgone]
    exact Bool.false_ne_true
  obtain ⟨pAdapt, hpAdapt⟩ := Option.ne_none_iff_exists'.mp hsome
  exact ⟨pAdapt, hpAdapt, h.adapt pAdapt hpAdapt⟩

/--
A step of a call that leaves the adapter allocated.
-/
theorem move {b' : Binding} (h : b.Fits) {pAdapt : Adapt} {effects : List (Acquisition.Effect Resource)}
    (hpAdapt : b'.pAdapt = some pAdapt) (hfits : pAdapt.Fits b'.mini.phase)
    (hmeets : b'.bind.meets b'.mini.phase = true) (hgone : b'.bind.gone b'.mini.phase = false)
    (heffects : b'.effects = b.effects ++ effects)
    (hexchange : Exchange { r | b.Holds r } effects { r | b'.Holds r })
    (hfreed : b'.freedAccess = b.freedAccess) (hassert : b'.assertFailed = b.assertFailed)
    : b'.Fits where
  meets := hmeets
  gone := by simp [hpAdapt, hgone]
  adapt := by
    intro pAdapt' hpAdapt'
    rw [hpAdapt] at hpAdapt'
    cases hpAdapt'
    exact hfits
  holding := heffects ▸ h.holding.append hexchange
  freedAccess := hfreed.trans h.freedAccess
  assertFailed := hassert.trans h.assertFailed

/--
A step of `PtUnbindAdapter` that only goes on.
-/
theorem goto (h : b.Fits) {bind : BindPc} (hmeets : bind.meets b.mini.phase = true)
    (hgone : bind.gone b.mini.phase = b.bind.gone b.mini.phase)
    (hbind : b.bind ≠ .ndisIMInitializeDeviceInstanceEx ∧ b.bind ≠ .closed)
    (hbind' : bind ≠ .ndisIMInitializeDeviceInstanceEx ∧ bind ≠ .closed)
    : { b with bind := bind }.Fits where
  meets := hmeets
  gone := h.gone.trans (by rw [hgone])
  adapt := h.adapt
  holding := by
    apply h.holding.congr
    intro r
    cases r <;> simp [Holds, hbind, hbind']
  freedAccess := h.freedAccess
  assertFailed := h.assertFailed

theorem phase_ne_halted (hmini : b.mini ≠ .halted) : b.mini.phase ≠ .halted :=
  fun hphase => hmini (MiniPc.halted_of_phase hphase)

theorem ptUnbindAdapter (h : b.Fits) (hbind : b.bind = .bound) (hmini : b.mini ≠ .halted)
    : b.ptUnbindAdapter.Fits := by
  have hphase := phase_ne_halted hmini
  have hmeets := hbind ▸ h.meets
  have hgone : BindPc.bound.gone b.mini.phase = false := BindPc.gone_eq_false hphase (by simp)
  obtain ⟨pAdapt, hpAdapt, hfits⟩ := h.exists_adapt (hbind ▸ hgone)
  have hpending := hfits.pending
  rw [Binding.ptUnbindAdapter, onAdapt_some hpAdapt]
  split
  . next hset =>
    apply h.goto _ _ (by simp [hbind]) (by simp)
    all_goals cases hphase : b.mini.phase <;> simp_all [BindPc.meets, BindPc.gone, Phase.pending]
  . next hclear =>
    apply h.goto _ _ (by simp [hbind]) (by simp)
    all_goals cases hphase : b.mini.phase <;> simp_all [BindPc.meets, BindPc.gone, Phase.pending]

theorem ndisIMCancelInitializeDeviceInstance (h : b.Fits)
    (hbind : b.bind = .ndisIMCancelInitializeDeviceInstance)
    : b.ndisIMCancelInitializeDeviceInstance.Fits := by
  have hmeets := hbind ▸ h.meets
  rw [Binding.ndisIMCancelInitializeDeviceInstance]
  split
  . next hmini =>
    have hphase : b.mini.phase ≠ .halted := by
      rw [hmini]
      nofun
    have hgone : BindPc.ndisIMCancelInitializeDeviceInstance.gone b.mini.phase = false :=
      BindPc.gone_eq_false hphase (by simp)
    obtain ⟨pAdapt, hpAdapt, hfits⟩ := h.exists_adapt (hbind ▸ hgone)
    have hhandle := hfits.handle
    have hevent := hfits.event
    rw [hmini] at hhandle hevent
    have hassert : (!pAdapt.miniportHandle) = true := by rw [hhandle]; rfl
    rw [onAdapt_some hpAdapt, assert_of_true hassert]
    refine h.move rfl ⟨rfl, hevent, hhandle, hfits.bindingHandle, hfits.m_hPacketPool,
      hfits.m_hBufferPool⟩ rfl rfl (List.append_nil b.effects).symm ?_ rfl rfl
    intro r
    cases r <;> simp [Holds, hbind, hpAdapt, hmini]
    . rfl
    . rfl
  . next hmini =>
    have hphase : b.mini.phase ≠ .scheduled := by
      intro hphase
      cases hm : b.mini <;> simp_all [MiniPc.phase]
    apply h.goto _ _ (by simp [hbind]) (by simp)
    all_goals cases hp : b.mini.phase <;> simp_all [BindPc.meets, BindPc.gone]

theorem ndisWaitEvent (h : b.Fits) (hbind : b.bind = .ndisWaitEvent) (hmini : b.mini ≠ .halted)
    (hevent : ∀ pAdapt, b.pAdapt = some pAdapt → pAdapt.miniportInitEvent = true)
    : b.ndisWaitEvent.Fits := by
  have hphase := phase_ne_halted hmini
  have hmeets := hbind ▸ h.meets
  have hgone : BindPc.ndisWaitEvent.gone b.mini.phase = false := BindPc.gone_eq_false hphase (by simp)
  obtain ⟨pAdapt, hpAdapt, hfits⟩ := h.exists_adapt (hbind ▸ hgone)
  have hset := hevent pAdapt hpAdapt
  rw [hfits.event] at hset
  have hassert : (!pAdapt.miniportInitPending) = true := by
    rw [hfits.pending]
    cases hp : b.mini.phase <;> simp_all [Phase.pending, Phase.event]
  rw [Binding.ndisWaitEvent, onAdapt_some hpAdapt, assert_of_true hassert]
  apply h.goto _ _ (by simp [hbind]) (by simp)
  all_goals cases hp : b.mini.phase <;> simp_all [BindPc.meets, BindPc.gone, Phase.event]

/--
A step that frees the adapter.
-/
theorem free {b' : Binding} (h : b.Fits) {effects : List (Acquisition.Effect Resource)}
    (hpAdapt : b'.pAdapt = none) (hmeets : b'.bind.meets b'.mini.phase = true)
    (hgone : b'.bind.gone b'.mini.phase = true) (heffects : b'.effects = b.effects ++ effects)
    (hexchange : Exchange { r | b.Holds r } effects { r | b'.Holds r })
    (hfreed : b'.freedAccess = b.freedAccess) (hassert : b'.assertFailed = b.assertFailed)
    : b'.Fits where
  meets := hmeets
  gone := by simp [hpAdapt, hgone]
  adapt := by
    intro pAdapt hsome
    rw [hpAdapt] at hsome
    cases hsome
  holding := heffects ▸ h.holding.append hexchange
  freedAccess := hfreed.trans h.freedAccess
  assertFailed := hassert.trans h.assertFailed

theorem testMiniportHandle (h : b.Fits) (hbind : b.bind = .testMiniportHandle) (hmini : b.mini ≠ .halted)
    : b.testMiniportHandle.Fits := by
  have hphase := phase_ne_halted hmini
  have hmeets := hbind ▸ h.meets
  have hgone : BindPc.testMiniportHandle.gone b.mini.phase = false := BindPc.gone_eq_false hphase (by simp)
  obtain ⟨pAdapt, hpAdapt, hfits⟩ := h.exists_adapt (hbind ▸ hgone)
  have hhandle := hfits.handle
  rw [Binding.testMiniportHandle, onAdapt_some hpAdapt]
  split
  . next hset =>
    apply h.goto _ _ (by simp [hbind]) (by simp)
    all_goals cases hp : b.mini.phase <;> simp_all [BindPc.meets, BindPc.gone, Phase.handle]
  . next hnull =>
    have hmini : b.mini = .none := by
      cases hm : b.mini <;> simp_all [BindPc.meets, MiniPc.phase, Phase.handle]
    rw [assert_of_true hfits.bindingHandle]
    refine h.free rfl (by rw [log_mini, hmini]; rfl) rfl rfl ?_ rfl rfl
    rw [Adapt.ndisCloseAdapter, hfits.bindingHandle, Adapt.freeAdapterName]
    cases hname : pAdapt.m_AdapterName with
    | true =>
      simp [Exchange, Holds, hpAdapt, hname]
      intro r
      cases r <;> simp [hbind]
    | false =>
      simp [Exchange, Holds, hpAdapt]
      intro r
      cases r <;> simp [hbind, hname]

theorem ndisIMDeInitializeDeviceInstance (h : b.Fits)
    (hbind : b.bind = .ndisIMDeInitializeDeviceInstance) (hmini : b.mini = .halted ∨ b.mini = .failed)
    : b.ndisIMDeInitializeDeviceInstance.Fits := by
  rw [Binding.ndisIMDeInitializeDeviceInstance]
  split
  . next hhalted =>
    have hpAdapt : b.pAdapt = none := h.gone.mpr (by rw [hbind, hhalted]; rfl)
    refine h.free hpAdapt ?_ ?_ (List.append_nil b.effects).symm ?_ rfl rfl
    . simp only [hhalted]
      rfl
    . simp only [hhalted]
      rfl
    . intro r
      cases r <;> simp [Holds, hpAdapt, hbind]
  . next hhalted =>
    have hfailed := hmini.resolve_left hhalted
    apply h.goto
    . rw [hfailed]
      rfl
    . rw [hbind, hfailed]
      rfl
    . simp [hbind]
    . simp

theorem ptBindAdapterEnd (h : b.Fits) {status : Bool}
    (hbind : b.bind = .ndisIMInitializeDeviceInstanceEx)
    (hstatus : status = true ∨ b.mini = .scheduled ∨ b.mini = .failed)
    : (b.ptBindAdapterEnd status).Fits := by
  have hmeets := hbind ▸ h.meets
  rw [Binding.ptBindAdapterEnd]
  split
  . refine ⟨?_, ?_, h.adapt, ?_, h.freedAccess, h.assertFailed⟩
    . exact hmeets
    . rw [log_pAdapt, h.gone, hbind]
      cases hphase : b.mini.phase <;> simp [BindPc.gone, hphase]
    . apply h.holding.append
      simp [Exchange, Holds, hbind]
      intro r
      cases r <;> simp
  . next hfailed =>
    have hphase : b.mini.phase ≠ .halted := by
      rcases hstatus.resolve_left hfailed with hmini | hmini <;> rw [hmini] <;> nofun
    have hgone : BindPc.ndisIMInitializeDeviceInstanceEx.gone b.mini.phase = false :=
      BindPc.gone_eq_false hphase (by simp)
    obtain ⟨pAdapt, hpAdapt, hfits⟩ := h.exists_adapt (hbind ▸ hgone)
    have hopened : b.mini.opened = false := by
      rcases hstatus.resolve_left hfailed with hmini | hmini <;> rw [hmini] <;> rfl
    have hregistered : b.mini.registered = false := by
      rcases hstatus.resolve_left hfailed with hmini | hmini <;> rw [hmini] <;> rfl
    rw [onAdapt_some hpAdapt]
    refine h.free rfl rfl rfl rfl ?_ rfl rfl
    rw [ptBindAdapter.unwind, Adapt.ndisCloseAdapter, hfits.bindingHandle, Adapt.mpFreeAllPacketPools,
      hfits.m_hPacketPool, hfits.m_hBufferPool, Adapt.freeAdapterName]
    cases hname : pAdapt.m_AdapterName with
    | true =>
      simp [Exchange, Holds, hpAdapt, hname, hbind]
      intro r
      cases r <;> simp [hopened, hregistered]
      . rfl
      . rfl
    | false =>
      simp [Exchange, Holds, hpAdapt, hbind]
      intro r
      cases r <;> simp [hname, hopened, hregistered]
      . rfl
      . rfl

theorem mini_of_unbound (h : b.Fits) (hbind : b.bind = .unbound) : b.mini = .none := by
  have hmeets := hbind ▸ h.meets
  cases hm : b.mini <;> rw [hm] at hmeets <;> first | rfl | cases hmeets

theorem ptBindAdapter (h : b.Fits) (hbind : b.bind = .unbound) (answers : Answers)
    : (b.ptBindAdapter answers).Fits := by
  have hmini := h.mini_of_unbound hbind
  have hpAdapt : b.pAdapt = none := h.gone.mpr (by rw [hbind]; rfl)
  have hnothing : ∀ r, r ∉ { r | b.Holds r } := by
    intro r
    cases r <;> simp [Holds, hbind, hpAdapt, hmini, MiniPc.opened, MiniPc.registered]
  rw [Binding.ptBindAdapter]
  split
  . next hstatus =>
    obtain ⟨pAdapt, hfits, hreached, heffects⟩ := ptBindAdapter.body_of_status hstatus
    refine h.move hreached hfits rfl rfl rfl ?_ rfl rfl
    rw [heffects]
    cases hname : pAdapt.m_AdapterName
    all_goals
      simp [Exchange, Holds, hbind, hpAdapt, hmini, MiniPc.opened, MiniPc.registered]
      intro r
      cases r <;> simp [hreached, hname]
  . next hstatus =>
    refine h.free hpAdapt ?_ rfl (List.append_assoc _ _ _)
      (ptBindAdapter.exchange_of_refused hstatus hnothing ?_) rfl rfl
    . simp only [log_mini, hmini]
      rfl
    . intro r
      cases r <;> simp [Holds, hpAdapt, hmini, MiniPc.opened, MiniPc.registered]

/--
A call for the instance is under way.
-/
theorem calls (h : b.Fits) {mini : MiniPc} (hmini : b.mini = mini) (hnone : mini.phase ≠ .none)
    (hhalted : mini.phase ≠ .halted)
    : b.bind.meets mini.phase = true ∧ b.bind.gone mini.phase = false ∧
      ∃ pAdapt, b.pAdapt = some pAdapt ∧ pAdapt.Fits mini.phase := by
  subst hmini
  have hgone : b.bind.gone b.mini.phase = false := by
    have hmeets := h.meets
    cases hbind : b.bind <;> cases hphase : b.mini.phase <;> simp_all [BindPc.meets, BindPc.gone]
  exact ⟨h.meets, hgone, h.exists_adapt hgone⟩

theorem mpInitialize (h : b.Fits) (hmini : b.mini = .scheduled) (mediumArray : List Nat)
    : (b.mpInitialize mediumArray).Fits := by
  obtain ⟨hmeets, hgone, pAdapt, hpAdapt, hfits⟩ := h.calls hmini nofun nofun
  have hfits' : Adapt.Fits .initializing { pAdapt with miniportHandle := true } :=
    ⟨hfits.pending, hfits.event, rfl, hfits.bindingHandle, hfits.m_hPacketPool, hfits.m_hBufferPool⟩
  rw [Binding.mpInitialize, onAdapt_some hpAdapt]
  dsimp only
  generalize (if pAdapt.m_Medium = ndisMediumWan then ndisMedium802_3 else pAdapt.m_Medium) = medium
  split
  all_goals
    refine h.move rfl hfits' ?_ ?_ (List.append_nil b.effects).symm ?_ rfl rfl
    . cases hb : b.bind <;> simp_all [BindPc.meets, MiniPc.phase]
    . cases hb : b.bind <;> simp_all [BindPc.meets, BindPc.gone, MiniPc.phase]
    . intro r
      cases r <;> simp [Holds, hpAdapt, hmini]
      . rfl
      . rfl

theorem openAdapter (h : b.Fits) (hmini : b.mini = .insertAdapt) : b.openAdapter.Fits := by
  obtain ⟨hmeets, hgone, pAdapt, hpAdapt, hfits⟩ := h.calls hmini nofun nofun
  rw [Binding.openAdapter, onAdapt_some hpAdapt]
  refine h.move hpAdapt hfits hmeets hgone rfl ?_ rfl rfl
  simp [Exchange, Holds, hmini, MiniPc.opened]
  intro r
  cases r <;> simp [MiniPc.registered]

theorem ptRegisterDevice (h : b.Fits) (hmini : b.mini = .ptRegisterDevice)
    : b.ptRegisterDevice.Fits := by
  obtain ⟨hmeets, hgone, pAdapt, hpAdapt, hfits⟩ := h.calls hmini nofun nofun
  rw [Binding.ptRegisterDevice]
  refine h.move hpAdapt hfits hmeets hgone rfl ?_ rfl rfl
  simp [Exchange, Holds, hmini, MiniPc.registered]
  intro r
  cases r <;> simp [MiniPc.opened]

theorem clearPending (h : b.Fits) {status : Bool} (hmini : b.mini = .clearPending status)
    : (b.clearPending status).Fits := by
  obtain ⟨hmeets, hgone, pAdapt, hpAdapt, hfits⟩ := h.calls hmini nofun nofun
  rw [Binding.clearPending, onAdapt_some hpAdapt, assert_of_true hfits.pending]
  refine h.move rfl ⟨rfl, hfits.event, hfits.handle, hfits.bindingHandle, hfits.m_hPacketPool,
    hfits.m_hBufferPool⟩ ?_ ?_ (List.append_nil b.effects).symm ?_ rfl rfl
  . cases hb : b.bind <;> simp_all [BindPc.meets, MiniPc.phase]
  . cases hb : b.bind <;> simp_all [BindPc.meets, BindPc.gone, MiniPc.phase]
  . intro r
    cases r <;> simp [Holds, hpAdapt, hmini, MiniPc.opened, MiniPc.registered]

theorem ndisSetEvent (h : b.Fits) {status : Bool} (hmini : b.mini = .ndisSetEvent status)
    : (b.ndisSetEvent status).Fits := by
  obtain ⟨hmeets, hgone, pAdapt, hpAdapt, hfits⟩ := h.calls hmini nofun nofun
  rw [Binding.ndisSetEvent, onAdapt_some hpAdapt]
  cases status
  all_goals
    refine h.move rfl ⟨hfits.pending, rfl, hfits.handle, hfits.bindingHandle, hfits.m_hPacketPool,
      hfits.m_hBufferPool⟩ ?_ ?_ (List.append_nil b.effects).symm ?_ rfl rfl
    . cases hb : b.bind <;> simp_all [BindPc.meets, MiniPc.phase]
    . cases hb : b.bind <;> simp_all [BindPc.meets, BindPc.gone, MiniPc.phase]
    . intro r
      cases r <;> simp [Holds, hpAdapt, hmini, MiniPc.opened, MiniPc.registered]

theorem mpHalt (h : b.Fits) (hmini : b.mini = .running) : b.mpHalt.Fits := by
  obtain ⟨hmeets, hgone, pAdapt, hpAdapt, hfits⟩ := h.calls hmini nofun nofun
  rw [Binding.mpHalt]
  refine h.move hpAdapt ⟨hfits.pending, hfits.event, hfits.handle, hfits.bindingHandle,
    hfits.m_hPacketPool, hfits.m_hBufferPool⟩ ?_ ?_ rfl ?_ rfl rfl
  . rw [log_bind]
    cases hb : b.bind <;> simp_all [BindPc.meets, MiniPc.phase]
  . rw [log_bind]
    cases hb : b.bind <;> simp_all [BindPc.meets, BindPc.gone, MiniPc.phase]
  . simp [Exchange, Holds, hmini, MiniPc.opened]
    intro r
    cases r <;> simp [MiniPc.registered]

theorem removeAdapt (h : b.Fits) (hmini : b.mini = .removeAdapt) : b.removeAdapt.Fits := by
  obtain ⟨hmeets, hgone, pAdapt, hpAdapt, hfits⟩ := h.calls hmini nofun nofun
  rw [Binding.removeAdapt, onAdapt_some hpAdapt]
  refine h.move hpAdapt hfits hmeets hgone (List.append_nil b.effects).symm ?_ rfl rfl
  intro r
  cases r <;> simp [Holds, hmini, MiniPc.opened, MiniPc.registered]

theorem ptDeregisterDevice (h : b.Fits) (hmini : b.mini = .ptDeregisterDevice)
    : b.ptDeregisterDevice.Fits := by
  obtain ⟨hmeets, hgone, pAdapt, hpAdapt, hfits⟩ := h.calls hmini nofun nofun
  rw [Binding.ptDeregisterDevice, onAdapt_some hpAdapt]
  refine h.move hpAdapt hfits hmeets hgone rfl ?_ rfl rfl
  simp [Exchange, Holds, hmini, MiniPc.registered]
  intro r
  cases r <;> simp [MiniPc.opened]

theorem mpHaltEnd (h : b.Fits) (hmini : b.mini = .ndisCloseAdapter) : b.mpHaltEnd.Fits := by
  obtain ⟨hmeets, -, pAdapt, hpAdapt, hfits⟩ := h.calls hmini nofun nofun
  have hclosed : b.bind ≠ .closed := by
    intro hbind
    rw [hbind] at hmeets
    cases hmeets
  rw [Binding.mpHaltEnd, onAdapt_some hpAdapt]
  refine h.free rfl ?_ ?_ rfl ?_ rfl rfl
  . rw [log_bind]
    cases hb : b.bind <;> simp_all [BindPc.meets, MiniPc.phase]
  . rw [log_bind]
    cases hb : b.bind <;> simp_all [BindPc.meets, BindPc.gone, MiniPc.phase]
  . rw [Adapt.ndisCloseAdapter, hfits.bindingHandle, Adapt.mpFreeAllPacketPools, hfits.m_hPacketPool,
      hfits.m_hBufferPool, Adapt.freeAdapterName]
    cases hname : pAdapt.m_AdapterName
    all_goals
      simp [Exchange, Holds, hpAdapt, hname, hclosed, hmini]
      intro r
      cases r <;> simp [MiniPc.opened, MiniPc.registered]

theorem apply (h : b.Fits) {action : Action} (haction : b.Allowed action) (horder : b.InOrder action)
    : (action.apply b).Fits := by
  cases action with
  | ptBindAdapter answers => exact h.ptBindAdapter haction answers
  | ptBindAdapterEnd status => exact h.ptBindAdapterEnd haction.1 haction.2
  | ptUnbindAdapter => exact h.ptUnbindAdapter haction horder
  | unbindStep =>
    simp only [Allowed] at haction
    rw [Action.apply, unbindStep]
    split at haction
    . next hbind => exact h.ndisIMCancelInitializeDeviceInstance hbind
    . next hbind => exact h.ndisWaitEvent hbind (horder (Or.inl hbind)) haction
    . next hbind => exact h.testMiniportHandle hbind (horder (Or.inr hbind))
    . next hbind => exact h.ndisIMDeInitializeDeviceInstance hbind haction
    . exact haction.elim
  | mpInitialize mediumArray => exact h.mpInitialize haction mediumArray
  | mpHalt => exact h.mpHalt haction
  | miniStep =>
    simp only [Allowed] at haction
    rw [Action.apply, miniStep]
    cases hmini : b.mini with
    | none => simp [hmini] at haction
    | scheduled => simp [hmini] at haction
    | running => simp [hmini] at haction
    | failed => simp [hmini] at haction
    | halted => simp [hmini] at haction
    | insertAdapt => exact h.openAdapter hmini
    | ptRegisterDevice => exact h.ptRegisterDevice hmini
    | clearPending status => exact h.clearPending hmini
    | ndisSetEvent status => exact h.ndisSetEvent hmini
    | removeAdapt => exact h.removeAdapt hmini
    | ptDeregisterDevice => exact h.ptDeregisterDevice hmini
    | ndisCloseAdapter => exact h.mpHaltEnd hmini

end Fits

/-! ### The list -/

theorem Fits.isSome_of_listed (h : b.Fits) (hlisted : b.mini.listed = true) : b.pAdapt.isSome = true := by
  have hnone : b.mini.phase ≠ .none := by
    cases hmini : b.mini <;> simp_all [MiniPc.listed, MiniPc.phase]
  have hhalted : b.mini.phase ≠ .halted := by
    cases hmini : b.mini <;> simp_all [MiniPc.listed, MiniPc.phase]
  obtain ⟨-, -, pAdapt, hpAdapt, -⟩ := h.calls rfl hnone hhalted
  rw [hpAdapt]
  rfl

theorem listed_onAdapt {f : Adapt → Binding} {listed : Bool} (hnone : b.mini.listed = listed)
    (hsome : ∀ pAdapt, (f pAdapt).mini.listed = listed) : (b.onAdapt f).mini.listed = listed := by
  rw [onAdapt]
  split
  . exact hsome _
  . exact hnone

/--
The other actions leave an adapter in the list or out of it.
-/
theorem listed_apply {action : Action} (h : b.Fits) (haction : b.Allowed action)
    (hinsert : action = .miniStep → b.mini ≠ .insertAdapt)
    (hremove : action = .miniStep → b.mini ≠ .removeAdapt)
    : (action.apply b).mini.listed = b.mini.listed := by
  cases action with
  | ptBindAdapter answers =>
    have hmini := h.mini_of_unbound haction
    rw [Action.apply, ptBindAdapter, hmini]
    split
    . rfl
    . exact congrArg MiniPc.listed hmini
  | ptBindAdapterEnd status =>
    rw [Action.apply, ptBindAdapterEnd]
    split
    . rfl
    . next hstatus =>
      have hmini : b.mini.listed = false := by
        rcases haction.2.resolve_left hstatus with hmini | hmini <;> rw [hmini] <;> rfl
      rw [hmini]
      exact listed_onAdapt hmini fun _ => rfl
  | ptUnbindAdapter =>
    apply listed_onAdapt rfl
    intro pAdapt
    split <;> rfl
  | unbindStep =>
    rw [Action.apply, unbindStep]
    split
    . rw [ndisIMCancelInitializeDeviceInstance]
      split
      . next hmini =>
        rw [hmini]
        exact listed_onAdapt (by rw [hmini]) fun _ => rfl
      . rfl
    . exact listed_onAdapt rfl fun _ => rfl
    . apply listed_onAdapt rfl
      intro pAdapt
      split <;> rfl
    . rw [ndisIMDeInitializeDeviceInstance]
      split <;> rfl
    . rfl
  | mpInitialize mediumArray =>
    have hmini : b.mini.listed = false := by
      rw [haction]
      rfl
    rw [hmini]
    apply listed_onAdapt hmini
    intro pAdapt
    dsimp only
    split <;> split <;> rfl
  | mpHalt =>
    rw [show b.mini = .running from haction]
    rfl
  | miniStep =>
    rw [Action.apply, miniStep]
    cases hmini : b.mini with
    | insertAdapt => exact absurd hmini (hinsert rfl)
    | removeAdapt => exact absurd hmini (hremove rfl)
    | ptRegisterDevice => rfl
    | clearPending status => exact listed_onAdapt (by rw [hmini]) fun _ => rfl
    | ndisSetEvent status =>
      apply listed_onAdapt (by rw [hmini])
      intro pAdapt
      cases status <;> rfl
    | ptDeregisterDevice => exact listed_onAdapt (by rw [hmini]) fun _ => rfl
    | ndisCloseAdapter => exact listed_onAdapt (by rw [hmini]) fun _ => rfl
    | none => exact congrArg MiniPc.listed hmini
    | scheduled => exact congrArg MiniPc.listed hmini
    | running => exact congrArg MiniPc.listed hmini
    | failed => exact congrArg MiniPc.listed hmini
    | halted => exact congrArg MiniPc.listed hmini

end Binding

structure Good (s : State) (xs : List Nat) : Prop where
  fits : ∀ i, (s.bindings i).Fits
  lists : s.pAdaptList.Lists xs
  nodup : xs.Nodup
  listed : ∀ i, i ∈ xs ↔ (s.bindings i).mini.listed = true

theorem step_bindings_self (s : State) (e : Event)
    : (step s e).bindings e.binding = e.action.apply (s.bindings e.binding) :=
  Function.update_self e.binding _ s.bindings

theorem step_bindings_of_ne (s : State) {e : Event} {i : Nat} (hi : i ≠ e.binding)
    : (step s e).bindings i = s.bindings i :=
  Function.update_of_ne hi _ s.bindings

theorem relink_eq_self {b : Binding} {e : Event}
    (hinsert : ¬(e.action = .miniStep ∧ b.mini = .insertAdapt))
    (hremove : ¬(e.action = .miniStep ∧ b.mini = .removeAdapt)) (pAdaptList : Links Nat)
    : relink b pAdaptList e = pAdaptList := by
  rw [relink]
  split
  . next haction hmini => exact absurd ⟨haction, hmini⟩ hinsert
  . next haction hmini => exact absurd ⟨haction, hmini⟩ hremove
  . rfl

def InOrder (s : State) (e : Event) : Prop := (s.bindings e.binding).InOrder e.action

theorem Good.fits_step {s : State} {xs : List Nat} {e : Event} (h : Good s xs) (he : Allowed s e)
    (horder : InOrder s e) (i : Nat)
    : ((step s e).bindings i).Fits := by
  by_cases hi : i = e.binding
  . subst hi
    rw [step_bindings_self]
    exact (h.fits e.binding).apply he.1 horder
  . rw [step_bindings_of_ne s hi]
    exact h.fits i

theorem Good.step {s : State} {xs : List Nat} {e : Event} (h : Good s xs) (he : Allowed s e)
    (horder : InOrder s e)
    : ∃ xs', Good (step s e) xs' := by
  have hfits := h.fits_step he horder
  by_cases hinsert : e.action = .miniStep ∧ (s.bindings e.binding).mini = .insertAdapt
  . obtain ⟨haction, hmini⟩ := hinsert
    have hnot : e.binding ∉ xs := by
      rw [h.listed, hmini]
      exact Bool.false_ne_true
    refine ⟨e.binding :: xs, hfits, ?_, List.nodup_cons.mpr ⟨hnot, h.nodup⟩, ?_⟩
    . rw [Adapters.step, relink, haction, hmini]
      exact h.lists.push hnot
    . intro i
      by_cases hi : i = e.binding
      . subst hi
        obtain ⟨-, -, pAdapt, hpAdapt, -⟩ := (h.fits e.binding).calls hmini nofun nofun
        rw [step_bindings_self, haction, Action.apply, Binding.miniStep, hmini]
        simp [Binding.openAdapter, Binding.onAdapt, hpAdapt, MiniPc.listed]
      . rw [step_bindings_of_ne s hi, List.mem_cons, h.listed]
        simp [hi]
  by_cases hremove : e.action = .miniStep ∧ (s.bindings e.binding).mini = .removeAdapt
  . obtain ⟨haction, hmini⟩ := hremove
    obtain ⟨unlinked, hends, hlists⟩ := SinglyLinked.ends_unlink (a := e.binding) h.lists h.nodup
    have hunlinked := (he.2 haction hmini).unique hends
    refine ⟨xs.erase e.binding, hfits, ?_, h.nodup.erase e.binding, ?_⟩
    . rw [Adapters.step, relink, haction, hmini]
      exact hunlinked ▸ hlists
    . intro i
      rw [h.nodup.mem_erase_iff, h.listed]
      by_cases hi : i = e.binding
      . subst hi
        obtain ⟨-, -, pAdapt, hpAdapt, -⟩ := (h.fits e.binding).calls hmini nofun nofun
        rw [step_bindings_self, haction, Action.apply, Binding.miniStep, hmini]
        simp [Binding.removeAdapt, Binding.onAdapt, hpAdapt, MiniPc.listed]
      . rw [step_bindings_of_ne s hi]
        simp [hi]
  . refine ⟨xs, hfits, ?_, h.nodup, ?_⟩
    . rw [Adapters.step, relink_eq_self hinsert hremove]
      exact h.lists
    . intro i
      rw [h.listed]
      by_cases hi : i = e.binding
      . subst hi
        have hlisted := Binding.listed_apply (h.fits e.binding) he.1
          (fun haction hmini => hinsert ⟨haction, hmini⟩) fun haction hmini => hremove ⟨haction, hmini⟩
        rw [step_bindings_self, hlisted]
      . rw [step_bindings_of_ne s hi]

namespace Binding

variable {b : Binding}

theorem Fits.settled (h : b.Fits)
    (hover : b.bind = .refused ∨ b.bind = .halted ∨
      b.mini = .halted ∧ b.bind ≠ .ndisIMInitializeDeviceInstanceEx)
    : Settled b.effects := by
  have hmeets := h.meets
  have hpAdapt : b.pAdapt = none := by
    apply h.gone.mpr
    rcases hover with hbind | hbind | ⟨hmini, _⟩
    . rw [hbind]
      rfl
    . cases hmini : b.mini <;> simp_all [BindPc.meets, BindPc.gone, MiniPc.phase]
    . rw [hmini]
      cases b.bind <;> rfl
  apply Holding.settled
  apply h.holding.congr
  intro r
  rcases hover with hbind | hbind | ⟨hmini, hbind⟩
  . cases hmini : b.mini <;> cases r <;>
      simp_all [BindPc.meets, MiniPc.phase, Holds, MiniPc.opened, MiniPc.registered]
  . cases hmini : b.mini <;> cases r <;>
      simp_all [BindPc.meets, MiniPc.phase, Holds, MiniPc.opened, MiniPc.registered]
  . have hclosed : b.bind ≠ .closed := by
      intro hclosed
      rw [hclosed, hmini] at hmeets
      cases hmeets
    cases r <;> simp_all [Holds, MiniPc.opened, MiniPc.registered]

theorem Fits.holding_of_closed (h : b.Fits) (hbind : b.bind = .closed)
    : Holding b.effects {.packetPool, .bufferPool} := by
  have hmeets := h.meets
  have hpAdapt : b.pAdapt = none := h.gone.mpr (by rw [hbind]; rfl)
  apply h.holding.congr
  intro r
  cases hmini : b.mini <;> cases r <;>
    simp_all [BindPc.meets, MiniPc.phase, Holds, MiniPc.opened, MiniPc.registered]

theorem Fits.holding_of_notHalted (h : b.Fits) (hbind : b.bind = .notHalted)
    : ∃ pAdapt, b.pAdapt = some pAdapt ∧ Holding b.effects
        ({.adapt, .packetPool, .bufferPool, .binding} ∪
          { r | r = .adapterName ∧ pAdapt.m_AdapterName = true }) := by
  have hmini : b.mini = .failed := by
    have hmeets := hbind ▸ h.meets
    cases hmini : b.mini <;> simp_all [BindPc.meets, MiniPc.phase]
  obtain ⟨-, -, pAdapt, hpAdapt, -⟩ := h.calls hmini nofun nofun
  refine ⟨pAdapt, hpAdapt, h.holding.congr ?_⟩
  intro r
  cases r <;> simp [Holds, hpAdapt, hbind, hmini, MiniPc.opened, MiniPc.registered]

end Binding

/--
What is expected of the adapters: `freedAccess` and `assertFailed` are down, the list is searched and unlinked
as it should be, and what a binding holds when it is over depends on how it ended.
-/
structure Sound (s : State) : Prop where
  flags : ∀ i, (s.bindings i).freedAccess = false ∧ (s.bindings i).assertFailed = false
  find : ∀ i, Loop.Ends (s.pAdaptList.findTurn i) .head
    (if (s.bindings i).mini.listed = true then some i else none)
  allocated : ∀ i, (s.bindings i).mini.listed = true → (s.bindings i).pAdapt.isSome = true
  unlink : ∀ i, ∃ unlinked, Loop.Ends (s.pAdaptList.unlinkTurn i) .head unlinked
  settled : ∀ i, (s.bindings i).bind = .refused ∨ (s.bindings i).bind = .halted ∨
      (s.bindings i).mini = .halted ∧ (s.bindings i).bind ≠ .ndisIMInitializeDeviceInstanceEx →
    Settled (s.bindings i).effects
  closed : ∀ i, (s.bindings i).bind = .closed → Holding (s.bindings i).effects {.packetPool, .bufferPool}
  notHalted : ∀ i, (s.bindings i).bind = .notHalted → ∃ pAdapt, (s.bindings i).pAdapt = some pAdapt ∧
    Holding (s.bindings i).effects ({.adapt, .packetPool, .bufferPool, .binding} ∪
      { r | r = .adapterName ∧ pAdapt.m_AdapterName = true })

theorem Good.sound {s : State} {xs : List Nat} (h : Good s xs) : Sound s := by
  have hfits := h.fits
  refine ⟨fun i => ⟨(hfits i).freedAccess, (hfits i).assertFailed⟩, ?_,
    fun i => (hfits i).isSome_of_listed, ?_, fun i => (hfits i).settled,
    fun i => (hfits i).holding_of_closed, fun i => (hfits i).holding_of_notHalted⟩
  . intro i
    have hends := SinglyLinked.ends_find (a := i) h.lists
    rwa [if_congr (h.listed i) rfl rfl] at hends
  . intro i
    obtain ⟨unlinked, hends, -⟩ := SinglyLinked.ends_unlink (a := i) h.lists h.nodup
    exact ⟨unlinked, hends⟩

end Ansfltr.Adapters
