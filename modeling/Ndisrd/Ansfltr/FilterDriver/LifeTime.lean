import Ndisrd.Ansfltr.FilterDriver.Impl

/-!
This module contains what holds of the Vista filter driver in whatever order NDIS attaches, uses and detaches its
modules: `g_AdapterList` lists the modules that are attached, contexts and pools are given back, nothing uses a
context that has been freed, and when locks are used that have been.
-/

namespace Ansfltr.FilterDriver

open Acquisition (Holding Settled)

namespace ModulePc

def holdsContext : ModulePc → Bool
  | .detached => false
  | _ => true

def holdsPool : ModulePc → Bool
  | .insertHeadList | .openAdapter | .attached | .closeAdapterPackets | .closeAdapterInstances
  | .freeNetBufferListPool => true
  | _ => false

/-- The module is in `g_AdapterList`. -/
def listed : ModulePc → Bool
  | .openAdapter | .attached | .closeAdapterPackets | .closeAdapterInstances | .freeNetBufferListPool
  | .removeEntryList => true
  | _ => false

end ModulePc

structure Module.Fits (m : Module) : Prop where
  context : m.context = m.pc.holdsContext
  netBufferListPool : m.netBufferListPool = m.pc.holdsPool
  handlers : m.pc ≠ .attached → m.handlers = []

theorem Module.fits_detached : Module.detached.Fits := ⟨rfl, rfl, fun _ => rfl⟩

/-! ### What is held -/

namespace State

def Holds (s : State) : Resource → Prop
  | .spinLock lock => s.locks lock = true
  | .filterDriver => s.driver ≠ .none
  | .filterDevice => s.device = true
  | .context pFilter => (s.modules pFilter).context = true
  | .netBufferListPool pFilter => (s.modules pFilter).netBufferListPool = true

def Held (s : State) : Prop := Holding s.effects { r | s.Holds r }

theorem holds_updateLock {s : State} {lock : Lock} (allocated : Bool) {r : Resource} (hr : r ≠ .spinLock lock)
    : { s with locks := Function.update s.locks lock allocated }.Holds r ↔ s.Holds r := by
  cases r with
  | spinLock lock' =>
    have hlock : lock' ≠ lock := fun heq => hr (congrArg Resource.spinLock heq)
    simp [Holds, hlock]
  | _ => exact Iff.rfl

/-- Only the context and the pool of the module can come or go. -/
theorem holds_setModule {s : State} {pFilter : Nat} {m : Module} {r : Resource}
    (hcontext : r = .context pFilter → m.context = (s.modules pFilter).context)
    (hpool : r = .netBufferListPool pFilter → m.netBufferListPool = (s.modules pFilter).netBufferListPool)
    : (s.setModule pFilter m).Holds r ↔ s.Holds r := by
  cases r with
  | context p =>
    by_cases hp : p = pFilter
    . subst hp
      simp [Holds, State.setModule, hcontext]
    . simp [Holds, State.setModule, hp]
  | netBufferListPool p =>
    by_cases hp : p = pFilter
    . subst hp
      simp [Holds, State.setModule, hpool]
    . simp [Holds, State.setModule, hp]
  | _ => exact Iff.rfl

namespace Held

variable {s s' : State}

theorem congr (h : s.Held) (heffects : s'.effects = s.effects) (hholds : ∀ r, s'.Holds r ↔ s.Holds r)
    : s'.Held := by
  rw [Held, heffects]
  exact Holding.congr h hholds

theorem acquire (h : s.Held) {r : Resource} (hr : ¬s.Holds r)
    (heffects : s'.effects = s.effects ++ [.acquire r]) (hself : s'.Holds r)
    (hothers : ∀ r', r' ≠ r → (s'.Holds r' ↔ s.Holds r'))
    : s'.Held := by
  rw [Held, heffects]
  apply (Holding.acquire h hr).congr
  intro r'
  by_cases heq : r' = r
  . subst heq
    exact iff_of_true hself (Set.mem_insert r' _)
  . rw [Set.mem_insert_iff, or_iff_right heq]
    exact hothers r' heq

theorem release (h : s.Held) {r : Resource} (hr : s.Holds r)
    (heffects : s'.effects = s.effects ++ [.release r]) (hself : ¬s'.Holds r)
    (hothers : ∀ r', r' ≠ r → (s'.Holds r' ↔ s.Holds r'))
    : s'.Held := by
  rw [Held, heffects]
  apply (Holding.release h hr).congr
  intro r'
  by_cases heq : r' = r
  . subst heq
    exact iff_of_false hself fun hmem => hmem.2 rfl
  . rw [Set.mem_sdiff, Set.mem_singleton_iff, and_iff_left heq]
    exact hothers r' heq

theorem ndisAllocateSpinLock (h : s.Held) {lock : Lock} (hlock : s.locks lock = false)
    : (s.ndisAllocateSpinLock lock).Held := by
  apply h.acquire (r := .spinLock lock) (by simp [Holds, hlock]) rfl
  . exact Function.update_self lock true s.locks
  . intro r' hr'
    exact holds_updateLock true hr'

theorem ndisFreeSpinLock (h : s.Held) {lock : Lock} (hlock : s.locks lock = true)
    : (s.ndisFreeSpinLock lock).Held := by
  apply h.release (r := .spinLock lock) hlock rfl
  . simp [Holds, State.ndisFreeSpinLock]
  . intro r' hr'
    exact holds_updateLock false hr'

theorem ndisAcquireSpinLock (h : s.Held) (lock : Lock) : (s.ndisAcquireSpinLock lock).Held :=
  h.congr rfl fun r => by cases r <;> rfl

end Held

end State

/-! ### The driver -/

/--
How far the driver is. `DriverEntry` is refused when the driver is not registered, and fails when the device is
not.
-/
inductive Stage where
  | notLoaded
  | initialized
  | registered
  | loaded
  | refused
  | refusedPackets
  | refusedOut
  | failing
  | failingPackets
  | failingDeregister
  | failingWait
  | failingFree
  | unloading
  | unloadingDeregister
  | unloadingWait
  | unloadingFree
  | unloadingInstances
  | unloadingPackets
  | out
  deriving DecidableEq

namespace Stage

def script : Stage → List Act
  | .notLoaded => driverEntry
  | .initialized => [.registerFilterDriver, .registerFilterDevice]
  | .registered => [.registerFilterDevice]
  | .loaded => []
  | .refused => unInitializeANSfltr
  | .refusedPackets => [.freePackets]
  | .refusedOut => []
  | .failing => unInitializeANSfltr ++ deregisterFilterDriver
  | .failingPackets => .freePackets :: deregisterFilterDriver
  | .failingDeregister => deregisterFilterDriver
  | .failingWait => [.deregistered, .freeAdapterLock]
  | .failingFree => [.freeAdapterLock]
  | .unloading => driverUnload
  | .unloadingDeregister => deregisterFilterDriver ++ unInitializeANSfltr
  | .unloadingWait => [.deregistered, .freeAdapterLock] ++ unInitializeANSfltr
  | .unloadingFree => .freeAdapterLock :: unInitializeANSfltr
  | .unloadingInstances => unInitializeANSfltr
  | .unloadingPackets => [.freePackets]
  | .out => []

def driver : Stage → Registration
  | .registered | .loaded | .failing | .failingPackets | .failingDeregister | .unloading
  | .unloadingDeregister => .registered
  | .failingWait | .unloadingWait => .deregistering
  | _ => .none

def device : Stage → Bool
  | .loaded | .unloading => true
  | _ => false

def locks : Stage → Lock → Bool
  | .notLoaded, _ | .out, _ => false
  | .initialized, lock | .unloadingInstances, lock => decide (lock ≠ .g_AdapterLock)
  | .unloadingPackets, lock => decide (lock = .g_PacketLock)
  | .refusedPackets, lock | .failingPackets, lock => decide (lock ≠ .g_FltInstancesLock)
  | .refusedOut, lock | .failingDeregister, lock | .failingWait, lock | .failingFree, lock =>
    decide (lock = .g_AdapterLock)
  | _, _ => true

/-- The stage behind the next call of the driver. -/
def next (status : Bool) : Stage → Stage
  | .notLoaded => .initialized
  | .initialized => if status then .registered else .refused
  | .registered => if status then .loaded else .failing
  | .loaded => .loaded
  | .refused => .refusedPackets
  | .refusedPackets => .refusedOut
  | .refusedOut => .refusedOut
  | .failing => .failingPackets
  | .failingPackets => .failingDeregister
  | .failingDeregister => .failingWait
  | .failingWait => .failingFree
  | .failingFree => .out
  | .unloading => .unloadingDeregister
  | .unloadingDeregister => .unloadingWait
  | .unloadingWait => .unloadingFree
  | .unloadingFree => .unloadingInstances
  | .unloadingInstances => .unloadingPackets
  | .unloadingPackets => .out
  | .out => .out

end Stage

structure At (stage : Stage) (s : State) : Prop where
  script : s.script = stage.script
  driver : s.driver = stage.driver
  device : s.device = stage.device
  locks : s.locks = stage.locks

/-- What the modules are, whatever the driver does. -/
structure Inv (s : State) : Prop where
  fits : ∀ p, (s.modules p).Fits
  gone : s.driver = .none → ∀ p, (s.modules p).pc = .detached
  nodup : s.g_AdapterList.Nodup
  listed : ∀ p, p ∈ s.g_AdapterList ↔ (s.modules p).pc.listed = true
  held : s.Held
  freedAccess : s.freedAccess = false

theorem at_init : At .notLoaded init := ⟨rfl, rfl, rfl, rfl⟩

theorem inv_init : Inv init where
  fits := fun _ => Module.fits_detached
  gone := fun _ _ => rfl
  nodup := List.nodup_nil
  listed := fun p => by simp [init, Module.detached, ModulePc.listed]
  held := by
    apply Holding.nil.congr
    intro r
    cases r with
    | spinLock lock => simp [State.Holds, init]
    | filterDriver => simp [State.Holds, init]
    | filterDevice => simp [State.Holds, init]
    | context pFilter => simp [State.Holds, init, Module.detached]
    | netBufferListPool pFilter => simp [State.Holds, init, Module.detached]
  freedAccess := rfl

/-- Each call of the driver leads to the next stage. -/
theorem At.act {stage : Stage} {s : State} (h : At stage s) (status : Bool)
    : At (stage.next status) (step s (.act status)) := by
  obtain ⟨script, driver, device, locks, g_AdapterList, modules, effects, freedLock, freedAccess⟩ := s
  obtain ⟨hscript, hdriver, hdevice, hlocks⟩ := h
  simp only at hscript hdriver hdevice hlocks
  subst hscript hdriver hdevice hlocks
  cases stage <;> cases status <;> refine ⟨rfl, rfl, rfl, ?_⟩ <;> funext lock <;> cases lock <;> rfl

/-- What is there when the driver comes to the call. -/
def Act.Ready (s : State) : Act → Prop
  | .initializeANSfltr => s.locks .g_FltInstancesLock = false ∧ s.locks .g_PacketLock = false
  | .registerFilterDriver => s.locks .g_AdapterLock = false ∧ s.driver = .none
  | .registerFilterDevice => s.device = false
  | .ndisDeregisterDeviceEx => s.device = true
  | .ndisFDeregisterFilterDriver => s.driver = .registered
  | .deregistered => s.driver = .deregistering
  | .freeAdapterLock => s.locks .g_AdapterLock = true
  | .freeFltInstances => s.locks .g_FltInstancesLock = true
  | .freePackets => s.locks .g_PacketLock = true

theorem At.ready {stage : Stage} {s : State} (h : At stage s) {a : Act} {script : List Act}
    (hscript : s.script = a :: script)
    : a.Ready s := by
  rw [h.script] at hscript
  obtain ⟨-, hdriver, hdevice, hlocks⟩ := h
  cases stage <;> cases hscript <;> simp [Act.Ready, hdriver, hdevice, hlocks, Stage.driver, Stage.device,
    Stage.locks]

namespace State.Held

variable {s : State}

theorem registered (h : s.Held) (hdriver : s.driver = .none)
    : { s.log [.acquire .filterDriver] with driver := .registered }.Held := by
  apply h.acquire (r := .filterDriver) (by simp [Holds, hdriver]) rfl (by simp [Holds])
  intro r hr
  cases r with
  | filterDriver => exact absurd rfl hr
  | _ => exact Iff.rfl

theorem deregistered (h : s.Held) (hdriver : s.driver = .deregistering)
    : { s.log [.release .filterDriver] with driver := .none }.Held := by
  apply h.release (r := .filterDriver) (by simp [Holds, hdriver]) rfl (by simp [Holds])
  intro r hr
  cases r with
  | filterDriver => exact absurd rfl hr
  | _ => exact Iff.rfl

theorem registeredDevice (h : s.Held) (hdevice : s.device = false)
    : { s.log [.acquire .filterDevice] with device := true }.Held := by
  apply h.acquire (r := .filterDevice) (by simp [Holds, hdevice]) rfl (by simp [Holds])
  intro r hr
  cases r with
  | filterDevice => exact absurd rfl hr
  | _ => exact Iff.rfl

theorem deregisteredDevice (h : s.Held) (hdevice : s.device = true)
    : { s.log [.release .filterDevice] with device := false }.Held := by
  apply h.release (r := .filterDevice) hdevice rfl (by simp [Holds])
  intro r hr
  cases r with
  | filterDevice => exact absurd rfl hr
  | _ => exact Iff.rfl

end State.Held

namespace Inv

variable {s s' : State}

/-- A call of the driver that leaves the modules and their list alone. -/
theorem of_driver (h : Inv s) (hmodules : s'.modules = s.modules)
    (hlist : s'.g_AdapterList = s.g_AdapterList) (haccess : s'.freedAccess = s.freedAccess)
    (hgone : s'.driver = .none → ∀ p, (s.modules p).pc = .detached) (hheld : s'.Held)
    : Inv s' := by
  constructor
  . rw [hmodules]
    exact h.fits
  . rw [hmodules]
    exact hgone
  . rw [hlist]
    exact h.nodup
  . rw [hlist, hmodules]
    exact h.listed
  . exact hheld
  . rw [haccess]
    exact h.freedAccess

theorem list_eq_nil (h : Inv s) (hgone : ∀ p, (s.modules p).pc = .detached) : s.g_AdapterList = [] := by
  apply List.eq_nil_iff_forall_not_mem.mpr
  intro p hp
  rw [h.listed, hgone] at hp
  cases hp

theorem act (h : Inv s) {status : Bool} {a : Act} {script : List Act} (hready : a.Ready s)
    (hgone : a = .deregistered → ∀ p, (s.modules p).pc = .detached)
    : Inv (s.act status a script) := by
  have hscript : { s with script := script }.Held := h.held.congr rfl fun r => by cases r <;> rfl
  cases a with
  | initializeANSfltr =>
    refine h.of_driver rfl rfl rfl h.gone ?_
    exact (hscript.ndisAllocateSpinLock hready.1).ndisAllocateSpinLock hready.2
  | registerFilterDriver =>
    have hnil := h.list_eq_nil (h.gone hready.2)
    have hlock : { { s with script := script } with g_AdapterList := [] }.Held :=
      hscript.congr rfl fun r => by cases r <;> rfl
    cases status with
    | true =>
      refine h.of_driver rfl hnil.symm rfl (fun hnone => by cases hnone) ?_
      exact (hlock.ndisAllocateSpinLock hready.1).registered hready.2
    | false =>
      refine h.of_driver rfl hnil.symm rfl h.gone ?_
      apply (hlock.ndisAllocateSpinLock hready.1).congr rfl
      intro r
      cases r <;> rfl
  | registerFilterDevice =>
    cases status with
    | true =>
      refine h.of_driver rfl rfl rfl h.gone ?_
      exact hscript.registeredDevice hready
    | false =>
      refine h.of_driver rfl rfl rfl h.gone ?_
      exact h.held.congr rfl fun r => by cases r <;> rfl
  | ndisDeregisterDeviceEx =>
    refine h.of_driver rfl rfl rfl h.gone ?_
    exact hscript.deregisteredDevice hready
  | ndisFDeregisterFilterDriver =>
    refine h.of_driver rfl rfl rfl (fun hnone => by cases hnone) ?_
    refine h.held.congr rfl ?_
    intro r
    cases r with
    | filterDriver => simp [State.Holds, State.act, show s.driver = .registered from hready]
    | spinLock lock => rfl
    | filterDevice => rfl
    | context pFilter => rfl
    | netBufferListPool pFilter => rfl
  | deregistered =>
    refine h.of_driver rfl rfl rfl (fun _ => hgone rfl) ?_
    exact hscript.deregistered hready
  | freeAdapterLock =>
    refine h.of_driver rfl rfl rfl h.gone ?_
    exact hscript.ndisFreeSpinLock hready
  | freeFltInstances =>
    refine h.of_driver rfl rfl rfl h.gone ?_
    exact (hscript.ndisAcquireSpinLock _).ndisFreeSpinLock hready
  | freePackets =>
    refine h.of_driver rfl rfl rfl h.gone ?_
    exact (hscript.ndisAcquireSpinLock _).ndisFreeSpinLock hready

end Inv

/-! ### The modules -/

namespace State.Held

variable {s : State} {pFilter : Nat} {m : Module}

theorem setModule (h : s.Held) (hcontext : m.context = (s.modules pFilter).context)
    (hpool : m.netBufferListPool = (s.modules pFilter).netBufferListPool)
    : (s.setModule pFilter m).Held :=
  h.congr rfl fun _ => holds_setModule (fun _ => hcontext) (fun _ => hpool)

theorem acquireContext (h : s.Held) (hnone : (s.modules pFilter).context = false)
    (hcontext : m.context = true)
    (hpool : m.netBufferListPool = (s.modules pFilter).netBufferListPool)
    : ((s.log [.acquire (.context pFilter)]).setModule pFilter m).Held := by
  apply h.acquire (r := .context pFilter) (by simp [Holds, hnone]) rfl
  . simp [Holds, State.setModule, hcontext]
  . intro r hr
    exact holds_setModule (s := s.log _) (fun heq => absurd heq hr) (fun _ => hpool)

theorem ndisFreeContext (h : s.Held) (hcontext : (s.modules pFilter).context = true)
    (hpool : (s.modules pFilter).netBufferListPool = false)
    : (s.ndisFreeContext pFilter).Held := by
  apply h.release (r := .context pFilter) hcontext rfl
  . simp [Holds, State.ndisFreeContext, State.setModule, Module.detached]
  . intro r hr
    exact holds_setModule (s := s.log _) (fun heq => absurd heq hr) (fun _ => hpool.symm)

theorem acquirePool (h : s.Held) (hnone : (s.modules pFilter).netBufferListPool = false)
    (hcontext : m.context = (s.modules pFilter).context) (hpool : m.netBufferListPool = true)
    : ((s.log [.acquire (.netBufferListPool pFilter)]).setModule pFilter m).Held := by
  apply h.acquire (r := .netBufferListPool pFilter) (by simp [Holds, hnone]) rfl
  . simp [Holds, State.setModule, hpool]
  . intro r hr
    exact holds_setModule (s := s.log _) (fun _ => hcontext) (fun heq => absurd heq hr)

theorem releasePool (h : s.Held) (hpool : (s.modules pFilter).netBufferListPool = true)
    (hcontext : m.context = (s.modules pFilter).context) (hnone : m.netBufferListPool = false)
    : ((s.log [.release (.netBufferListPool pFilter)]).setModule pFilter m).Held := by
  apply h.release (r := .netBufferListPool pFilter) hpool rfl
  . simp [Holds, State.setModule, hnone]
  . intro r hr
    exact holds_setModule (s := s.log _) (fun _ => hcontext) (fun heq => absurd heq hr)

end State.Held

namespace Inv

variable {s s' : State} {pFilter : Nat} {m : Module}

theorem ndisAcquireSpinLock (h : Inv s) (lock : Lock) : Inv (s.ndisAcquireSpinLock lock) :=
  h.of_driver rfl rfl rfl h.gone (h.held.ndisAcquireSpinLock lock)

/-- A call for one module. -/
theorem of_module (h : Inv s) (hmodules : s'.modules = Function.update s.modules pFilter m)
    (hfits : m.Fits) (hdriver : s'.driver ≠ .none) (hnodup : s'.g_AdapterList.Nodup)
    (hself : pFilter ∈ s'.g_AdapterList ↔ m.pc.listed = true)
    (hothers : ∀ p, p ≠ pFilter → (p ∈ s'.g_AdapterList ↔ p ∈ s.g_AdapterList))
    (hheld : s'.Held) (haccess : s'.freedAccess = false)
    : Inv s' := by
  constructor
  . intro p
    rw [hmodules]
    by_cases hp : p = pFilter
    . rw [hp, Function.update_self]
      exact hfits
    . rw [Function.update_of_ne hp]
      exact h.fits p
  . exact fun hnone => absurd hnone hdriver
  . exact hnodup
  . intro p
    rw [hmodules]
    by_cases hp : p = pFilter
    . rw [hp, Function.update_self]
      exact hself
    . rw [Function.update_of_ne hp, hothers p hp]
      exact h.listed p
  . exact hheld
  . exact haccess

/-- One that leaves the list alone. -/
theorem setModule (h : Inv s) (hfits : m.Fits) (hdriver : s.driver ≠ .none)
    (hlisted : m.pc.listed = (s.modules pFilter).pc.listed)
    {s' : State} (hmodules : s'.modules = Function.update s.modules pFilter m)
    (hs : s'.driver = s.driver ∧ s'.g_AdapterList = s.g_AdapterList ∧ s'.freedAccess = s.freedAccess)
    (hheld : s'.Held)
    : Inv s' := by
  obtain ⟨hdriver', hlist, haccess⟩ := hs
  apply h.of_module hmodules hfits
  . rw [hdriver']
    exact hdriver
  . rw [hlist]
    exact h.nodup
  . rw [hlist, h.listed, hlisted]
  . intro p _
    rw [hlist]
  . exact hheld
  . rw [haccess]
    exact h.freedAccess

theorem goTo (h : Inv s) {pc pc' : ModulePc} (hpc : (s.modules pFilter).pc = pc)
    (hhandlers : (s.modules pFilter).handlers = []) (hdriver : s.driver ≠ .none)
    (hcontext : pc'.holdsContext = pc.holdsContext) (hpool : pc'.holdsPool = pc.holdsPool)
    (hlisted : pc'.listed = pc.listed)
    : Inv (s.goTo pFilter pc') := by
  subst hpc
  have hm := h.fits pFilter
  refine h.setModule (m := { s.modules pFilter with pc := pc' }) ?_ hdriver hlisted rfl ⟨rfl, rfl, rfl⟩ ?_
  . exact ⟨hm.context.trans hcontext.symm, hm.netBufferListPool.trans hpool.symm, fun _ => hhandlers⟩
  . exact h.held.setModule rfl rfl

theorem filterAttach (h : Inv s) (hdriver : s.driver = .registered)
    (hpc : (s.modules pFilter).pc = .detached) (medium allocated : Bool)
    : Inv (s.filterAttach pFilter medium allocated) := by
  have hm := h.fits pFilter
  have hnotnone : s.driver ≠ .none := by
    rw [hdriver]
    decide
  unfold State.filterAttach
  split
  . refine h.setModule (m := ⟨.ndisFSetAttributes, true, false, []⟩) ⟨rfl, rfl, fun _ => rfl⟩ hnotnone ?_ rfl
      ⟨rfl, rfl, rfl⟩ ?_
    . rw [hpc]
      rfl
    . apply h.held.acquireContext
      . rw [hm.context, hpc]
        rfl
      . rfl
      . rw [hm.netBufferListPool, hpc]
        rfl
  . exact h

theorem ndisFreeContext (h : Inv s) {pc : ModulePc} (hpc : (s.modules pFilter).pc = pc)
    (hdriver : s.driver ≠ .none) (hcontext : pc.holdsContext = true) (hpool : pc.holdsPool = false)
    (hlisted : pc.listed = false)
    : Inv (s.ndisFreeContext pFilter) := by
  subst hpc
  have hm := h.fits pFilter
  refine h.setModule (m := .detached) Module.fits_detached hdriver ?_ rfl ⟨rfl, rfl, rfl⟩ ?_
  . rw [hlisted]
    rfl
  . exact h.held.ndisFreeContext (hm.context.trans hcontext) (hm.netBufferListPool.trans hpool)

end Inv

theorem onContext_eq {s : State} {pFilter : Nat} (h : (s.modules pFilter).context = true)
    : s.onContext pFilter = s := by
  simp [State.onContext, h]

namespace Inv

variable {s : State} {pFilter : Nat}

theorem driver_ne_none (h : Inv s) (hpc : (s.modules pFilter).pc ≠ .detached) : s.driver ≠ .none :=
  fun hnone => hpc (h.gone hnone pFilter)

theorem context_of_pc (h : Inv s) (hpc : (s.modules pFilter).pc ≠ .detached)
    : (s.modules pFilter).context = true := by
  rw [(h.fits pFilter).context]
  cases hcases : (s.modules pFilter).pc with
  | detached => exact absurd hcases hpc
  | _ => rfl

theorem goOn (h : Inv s) (hpc : (s.modules pFilter).pc ≠ .detached)
    (hattached : (s.modules pFilter).pc ≠ .attached) (status : Bool)
    : Inv (s.goOn pFilter status) := by
  have hm := h.fits pFilter
  have hhandlers := hm.handlers hattached
  have hdriver := h.driver_ne_none hpc
  have hcontext := h.context_of_pc hpc
  unfold State.goOn
  simp only [onContext_eq hcontext]
  split
  next hcases =>
    split
    . exact h.goTo hcases hhandlers hdriver rfl rfl rfl
    . exact h.ndisFreeContext hcases hdriver rfl rfl rfl
  next hcases =>
    have hnone : (s.modules pFilter).netBufferListPool = false := by
      rw [hm.netBufferListPool, hcases]
      rfl
    split
    . refine h.setModule (m := { s.modules pFilter with pc := .insertHeadList, netBufferListPool := true })
        ⟨hcontext, rfl, fun _ => hhandlers⟩ hdriver ?_ rfl ⟨rfl, rfl, rfl⟩ ?_
      . rw [hcases]
        rfl
      . exact h.held.acquirePool hnone rfl rfl
    . exact h.ndisFreeContext hcases hdriver rfl rfl rfl
  next hcases =>
    have hlock := h.ndisAcquireSpinLock .g_AdapterLock
    have hnot : pFilter ∉ s.g_AdapterList := by
      rw [h.listed, hcases]
      decide
    have hpool : (s.modules pFilter).netBufferListPool = true := by
      rw [hm.netBufferListPool, hcases]
      rfl
    refine hlock.of_module (m := { s.modules pFilter with pc := .openAdapter }) rfl
      ⟨hcontext, hpool, fun _ => hhandlers⟩ hdriver ?_ ?_ ?_ ?_ hlock.freedAccess
    . exact List.nodup_cons.mpr ⟨hnot, h.nodup⟩
    . exact ⟨fun _ => rfl, fun _ => List.mem_cons_self⟩
    . intro p hp
      exact ⟨fun hmem => (List.mem_cons.mp hmem).resolve_left hp, List.mem_cons_of_mem _⟩
    . refine State.Held.congr (hlock.held.setModule (m := { s.modules pFilter with pc := .openAdapter }) rfl rfl)
        rfl ?_
      intro r
      cases r <;> rfl
  next hcases => exact (h.ndisAcquireSpinLock _).goTo hcases hhandlers hdriver rfl rfl rfl
  next hcases => exact (h.ndisAcquireSpinLock _).goTo hcases hhandlers hdriver rfl rfl rfl
  next hcases => exact (h.ndisAcquireSpinLock _).goTo hcases hhandlers hdriver rfl rfl rfl
  next hcases =>
    have hpool : (s.modules pFilter).netBufferListPool = true := by
      rw [hm.netBufferListPool, hcases]
      rfl
    rw [if_pos hpool]
    refine h.setModule (m := { s.modules pFilter with pc := .removeEntryList, netBufferListPool := false })
      ⟨hcontext, rfl, fun _ => hhandlers⟩ hdriver ?_ rfl ⟨rfl, rfl, rfl⟩ ?_
    . rw [hcases]
      rfl
    . exact h.held.releasePool hpool rfl rfl
  next hcases =>
    have hlock := h.ndisAcquireSpinLock .g_AdapterLock
    have hmem : pFilter ∈ s.g_AdapterList := by
      rw [h.listed, hcases]
      rfl
    have hpool : (s.modules pFilter).netBufferListPool = false := by
      rw [hm.netBufferListPool, hcases]
      rfl
    refine hlock.of_module (m := { s.modules pFilter with pc := .freeContext }) rfl
      ⟨hcontext, hpool, fun _ => hhandlers⟩ hdriver ?_ ?_ ?_ ?_ ?_
    . exact h.nodup.erase pFilter
    . exact ⟨fun herased => absurd herased h.nodup.not_mem_erase, fun hnot => by cases hnot⟩
    . intro p hp
      exact List.mem_erase_of_ne hp
    . refine State.Held.congr (hlock.held.setModule (m := { s.modules pFilter with pc := .freeContext }) rfl rfl)
        rfl ?_
      intro r
      cases r <;> rfl
    . simp only [State.goTo, State.setModule, State.ndisAcquireSpinLock, hmem, h.freedAccess]
      rfl
  next hcases => exact h.ndisFreeContext hcases hdriver rfl rfl rfl
  . exact h
  . exact h

/-- A step of a packet handler changes what runs for the module, and acquires a lock at most. -/
theorem setHandlers (h : Inv s) (hpc : (s.modules pFilter).pc = .attached) (handlers : List (List Lock))
    : Inv (s.setModule pFilter { s.modules pFilter with handlers }) := by
  have hm := h.fits pFilter
  have hattached : (s.modules pFilter).pc ≠ .detached := by
    rw [hpc]
    decide
  refine h.setModule (m := { s.modules pFilter with handlers }) ?_ (h.driver_ne_none hattached) rfl rfl
    ⟨rfl, rfl, rfl⟩ ?_
  . exact ⟨hm.context, hm.netBufferListPool, fun hnot => absurd hpc hnot⟩
  . exact h.held.setModule rfl rfl

theorem callHandler (h : Inv s) (hpc : (s.modules pFilter).pc = .attached) (turns : List Lock)
    : Inv (s.callHandler pFilter turns) := by
  have hcontext : (s.modules pFilter).context = true := by
    rw [(h.fits pFilter).context, hpc]
    rfl
  unfold State.callHandler
  simp only [onContext_eq hcontext]
  exact h.setHandlers hpc _

theorem attached_of_handlers (h : Inv s) {k : Nat} (hk : k < (s.modules pFilter).handlers.length)
    : (s.modules pFilter).pc = .attached := by
  by_contra hpc
  rw [(h.fits pFilter).handlers hpc] at hk
  cases hk

theorem handlerTurn (h : Inv s) {k : Nat} (hk : k < (s.modules pFilter).handlers.length)
    : Inv (s.handlerTurn pFilter k) := by
  have hpc := h.attached_of_handlers hk
  have hcontext : (s.modules pFilter).context = true := by
    rw [(h.fits pFilter).context, hpc]
    rfl
  unfold State.handlerTurn
  simp only [onContext_eq hcontext]
  split
  . exact (h.ndisAcquireSpinLock _).setHandlers hpc _
  . exact h.setHandlers hpc _
  . exact h

theorem filterDetach (h : Inv s) (hpc : (s.modules pFilter).pc = .attached)
    (hhandlers : (s.modules pFilter).handlers = [])
    : Inv (s.goTo pFilter .closeAdapterPackets) := by
  have hattached : (s.modules pFilter).pc ≠ .detached := by
    rw [hpc]
    decide
  exact h.goTo hpc hhandlers (h.driver_ne_none hattached) rfl rfl rfl

end Inv

/-! ### Runs -/

/-- The module that the call is for. -/
def Event.module : Event → Option Nat
  | .act _ | .driverUnload => none
  | .filterAttach pFilter _ _ | .filterNetBufferLists pFilter _ _ _ | .filterNetBufferListsComplete pFilter _
  | .handlerTurn pFilter _ | .filterDetach pFilter | .goOn pFilter _ => some pFilter

theorem modules_act (s : State) (status : Bool) (a : Act) (script : List Act)
    : (s.act status a script).modules = s.modules := by
  cases a <;> cases status <;> rfl

/-- What a call for one module leaves as it is. -/
structure OthersKept (pFilter : Nat) (s s' : State) : Prop where
  script : s'.script = s.script
  driver : s'.driver = s.driver
  device : s'.device = s.device
  locks : s'.locks = s.locks
  modules : ∀ p, p ≠ pFilter → s'.modules p = s.modules p
  entered : .acquire .filterDriver ∈ s'.effects ↔ .acquire .filterDriver ∈ s.effects

namespace OthersKept

variable {pFilter : Nat} {s s' s'' : State}

theorem refl : OthersKept pFilter s s := ⟨rfl, rfl, rfl, rfl, fun _ _ => rfl, Iff.rfl⟩

theorem trans (h : OthersKept pFilter s s') (h' : OthersKept pFilter s' s'') : OthersKept pFilter s s'' where
  script := h'.script.trans h.script
  driver := h'.driver.trans h.driver
  device := h'.device.trans h.device
  locks := h'.locks.trans h.locks
  modules := fun p hp => (h'.modules p hp).trans (h.modules p hp)
  entered := h'.entered.trans h.entered

theorem setModule {m : Module} : OthersKept pFilter s (s.setModule pFilter m) where
  script := rfl
  driver := rfl
  device := rfl
  locks := rfl
  modules := by
    intro p hp
    exact Function.update_of_ne hp _ _
  entered := Iff.rfl

theorem log {e : Acquisition.Effect Resource} (he : e ≠ .acquire .filterDriver)
    : OthersKept pFilter s (s.log [e]) where
  script := rfl
  driver := rfl
  device := rfl
  locks := rfl
  modules := fun _ _ => rfl
  entered := by simp [State.log, he.symm]

theorem list (list : List Nat) (freedLock freedAccess : Bool)
    : OthersKept pFilter s
        { s with g_AdapterList := list, freedLock := freedLock, freedAccess := freedAccess } :=
  ⟨rfl, rfl, rfl, rfl, fun _ _ => rfl, Iff.rfl⟩

theorem onContext : OthersKept pFilter s (s.onContext pFilter) := list _ _ _

theorem ndisAcquireSpinLock {lock : Lock} : OthersKept pFilter s (s.ndisAcquireSpinLock lock) := list _ _ _

theorem ndisFreeContext : OthersKept pFilter s (s.ndisFreeContext pFilter) :=
  (log (by simp)).trans setModule

theorem filterAttach {medium allocated : Bool}
    : OthersKept pFilter s (s.filterAttach pFilter medium allocated) := by
  unfold State.filterAttach
  split
  . exact (log (by simp)).trans setModule
  . exact refl

theorem callHandler {turns : List Lock} : OthersKept pFilter s (s.callHandler pFilter turns) :=
  onContext.trans setModule

theorem handlerTurn {k : Nat} : OthersKept pFilter s (s.handlerTurn pFilter k) := by
  unfold State.handlerTurn
  simp only
  split
  . exact (onContext.trans ndisAcquireSpinLock).trans setModule
  . exact onContext.trans setModule
  . exact refl

theorem goOn {status : Bool} : OthersKept pFilter s (s.goOn pFilter status) := by
  apply onContext.trans
  unfold State.goOn
  simp only
  split
  next =>
    split
    . exact setModule
    . exact ndisFreeContext
  next =>
    split
    . exact (log (by simp)).trans setModule
    . exact ndisFreeContext
  next => exact (list _ _ _).trans setModule
  next => exact ndisAcquireSpinLock.trans setModule
  next => exact ndisAcquireSpinLock.trans setModule
  next => exact ndisAcquireSpinLock.trans setModule
  next =>
    split
    . exact (log (by simp)).trans setModule
    . exact setModule
  next => exact (list _ _ _).trans setModule
  next => exact ndisFreeContext
  . exact refl
  . exact refl

end OthersKept

theorem othersKept_step (s : State) {e : Event} {pFilter : Nat} (h : e.module = some pFilter)
    : OthersKept pFilter s (step s e) := by
  cases e with
  | act status => cases h
  | driverUnload => cases h
  | filterAttach p medium allocated =>
    cases h
    exact OthersKept.filterAttach
  | filterNetBufferLists p running empty freed =>
    cases h
    exact OthersKept.callHandler
  | filterNetBufferListsComplete p freed =>
    cases h
    exact OthersKept.callHandler
  | handlerTurn p k =>
    cases h
    exact OthersKept.handlerTurn
  | filterDetach p =>
    cases h
    exact OthersKept.setModule
  | goOn p status =>
    cases h
    exact OthersKept.goOn

theorem modules_step_of_ne (s : State) {e : Event} {p : Nat} (h : e.module ≠ some p)
    : (step s e).modules p = s.modules p := by
  cases hmodule : e.module with
  | some pFilter =>
    have hp : p ≠ pFilter := fun heq => h (hmodule.trans (congrArg some heq.symm))
    exact (othersKept_step s hmodule).modules p hp
  | none =>
    cases e with
    | act status =>
      simp only [step]
      split
      . rfl
      . rw [modules_act]
    | driverUnload => rfl
    | _ => cases hmodule

theorem modules_run_of_ne {s : State} {es : List Event} {p : Nat} (h : ∀ e ∈ es, e.module ≠ some p)
    : (Run.run step s es).modules p = s.modules p := by
  have hstep : ∀ s' e, s'.modules p = s.modules p → e.module ≠ some p →
      (step s' e).modules p = s.modules p := fun s' e hs' he => (modules_step_of_ne s' he).trans hs'
  exact Run.inv_run hstep rfl (Run.along_of_forall step h)

/-- Only the calls of the driver bring it to another stage. -/
def Event.next (stage : Stage) : Event → Stage
  | .act status => stage.next status
  | .driverUnload => .unloading
  | _ => stage

theorem At.kept {stage : Stage} {s s' : State} (h : At stage s) {pFilter : Nat} (hs : OthersKept pFilter s s')
    : At stage s' where
  script := hs.script.trans h.script
  driver := hs.driver.trans h.driver
  device := hs.device.trans h.device
  locks := hs.locks.trans h.locks

theorem At.loaded {stage : Stage} {s : State} (h : At stage s) (hscript : s.script = [])
    (hdevice : s.device = true)
    : stage = .loaded := by
  rw [h.script] at hscript
  rw [h.device] at hdevice
  cases stage with
  | loaded => rfl
  | unloading => cases hscript
  | _ => cases hdevice

theorem At.step {stage : Stage} {s : State} (h : At stage s) {e : Event} (hallowed : Allowed s e)
    : At (e.next stage) (step s e) := by
  cases e with
  | act status => exact h.act status
  | driverUnload =>
    have hstage := h.loaded hallowed.1 hallowed.2
    subst hstage
    exact ⟨rfl, h.driver, h.device, h.locks⟩
  | _ => exact h.kept (othersKept_step s rfl)

theorem Inv.step {stage : Stage} {s : State} (h : Inv s) (hat : At stage s) {e : Event}
    (hallowed : Allowed s e)
    : Inv (step s e) := by
  cases e with
  | act status =>
    unfold FilterDriver.step
    cases hscript : s.script with
    | nil => exact h
    | cons a script =>
      apply h.act (hat.ready hscript)
      rintro rfl
      apply hallowed.2
      rw [hscript]
      rfl
  | driverUnload => exact h.of_driver rfl rfl rfl h.gone (h.held.congr rfl fun r => by cases r <;> rfl)
  | filterAttach pFilter medium allocated => exact h.filterAttach hallowed.1 hallowed.2 medium allocated
  | filterNetBufferLists pFilter running empty freed => exact h.callHandler hallowed _
  | filterNetBufferListsComplete pFilter freed => exact h.callHandler hallowed _
  | handlerTurn pFilter k => exact h.handlerTurn hallowed
  | filterDetach pFilter => exact h.filterDetach hallowed.1 hallowed.2
  | goOn pFilter status => exact h.goOn hallowed.1 hallowed.2 status

/-- The driver has been registered. -/
def Stage.entered : Stage → Bool
  | .notLoaded | .initialized | .refused | .refusedPackets | .refusedOut => false
  | _ => true

theorem mem_effects_act {stage : Stage} {s : State} (h : At stage s) (status : Bool)
    (hentered : .acquire .filterDriver ∈ s.effects ↔ stage.entered = true)
    : .acquire .filterDriver ∈ (step s (.act status)).effects ↔ (stage.next status).entered = true := by
  unfold step
  rw [h.script]
  cases stage <;> cases status <;> simp_all [Stage.script, Stage.next, Stage.entered, driverEntry,
    driverUnload, deregisterFilterDevice, deregisterFilterDriver, unInitializeANSfltr, State.act,
    State.ndisAllocateSpinLock, State.ndisAcquireSpinLock, State.ndisFreeSpinLock, State.log]

/-- What is known of the driver and its modules in a run. -/
structure Known (stage : Stage) (s : State) : Prop where
  isAt : At stage s
  inv : Inv s
  entered : .acquire .filterDriver ∈ s.effects ↔ stage.entered = true

theorem Known.step {stage : Stage} {s : State} (h : Known stage s) {e : Event} (hallowed : Allowed s e)
    : Known (e.next stage) (step s e) := by
  refine ⟨h.isAt.step hallowed, h.inv.step h.isAt hallowed, ?_⟩
  cases e with
  | act status => exact mem_effects_act h.isAt status h.entered
  | driverUnload =>
    have hstage := h.isAt.loaded hallowed.1 hallowed.2
    subst hstage
    exact h.entered
  | _ => exact (othersKept_step s rfl).entered.trans h.entered

theorem known_init : Known .notLoaded init := by
  refine ⟨at_init, inv_init, ?_⟩
  simp [init, Stage.entered]

theorem known_run {es : List Event} (hes : Run.Along step Allowed init es)
    : ∃ stage, Known stage (Run.run step init es) := by
  have hstep : ∀ s e, (∃ stage, Known stage s) → Allowed s e → ∃ stage, Known stage (step s e) := by
    rintro s e ⟨stage, h⟩ hallowed
    exact ⟨e.next stage, h.step hallowed⟩
  exact Run.inv_run hstep ⟨_, known_init⟩ hes

/-- A driver that is out, and its modules with it, holds nothing but locks. -/
theorem holds_iff_of_gone {stage : Stage} {s : State} (hstage : At stage s) (hinv : Inv s)
    (hdevice : s.device = false) (hdriver : s.driver = .none) (r : Resource)
    : s.Holds r ↔ ∃ lock, r = .spinLock lock ∧ stage.locks lock = true := by
  have hgone := hinv.gone hdriver
  cases r with
  | spinLock lock => simp [State.Holds, hstage.locks]
  | filterDriver => simp [State.Holds, hdriver]
  | filterDevice => simp [State.Holds, hdevice]
  | context p => simp [State.Holds, (hinv.fits p).context, hgone p, ModulePc.holdsContext]
  | netBufferListPool p => simp [State.Holds, (hinv.fits p).netBufferListPool, hgone p, ModulePc.holdsPool]

/--
`g_AdapterList` lists the modules that are attached, nothing is used or freed that is not there, and once the
driver is out again its modules are gone and all is given back, but for one lock: that of the list, when the
driver could not be registered.
-/
theorem filterDriver_run {es : List Event} (hes : Run.Along step Allowed init es)
    : let s := Run.run step init es
      s.freedAccess = false ∧ s.g_AdapterList.Nodup ∧
        (∀ p, p ∈ s.g_AdapterList ↔ (s.modules p).pc.listed = true) ∧
        Holding s.effects { r | s.Holds r } ∧
        (s.script = [] → s.device = false →
          (∀ p, (s.modules p).pc = .detached) ∧ s.g_AdapterList = [] ∧
            (.acquire .filterDriver ∈ s.effects → Settled s.effects) ∧
            (.acquire .filterDriver ∉ s.effects → Holding s.effects {.spinLock .g_AdapterLock})) := by
  intro s
  obtain ⟨stage, hstage, hinv, hentered⟩ := known_run hes
  refine ⟨hinv.freedAccess, hinv.nodup, hinv.listed, hinv.held, ?_⟩
  intro hscript hdevice
  have hlast : stage = .refusedOut ∨ stage = .out := by
    have hscript' := hstage.script.symm.trans hscript
    have hdevice' := hstage.device.symm.trans hdevice
    cases stage with
    | refusedOut => exact Or.inl rfl
    | out => exact Or.inr rfl
    | loaded => cases hdevice'
    | _ => cases hscript'
  have hdriver : s.driver = .none := by
    rw [show s.driver = stage.driver from hstage.driver]
    rcases hlast with rfl | rfl <;> rfl
  have hgone := hinv.gone hdriver
  have hholds : ∀ r, s.Holds r ↔ ∃ lock, r = .spinLock lock ∧ stage.locks lock = true :=
    holds_iff_of_gone hstage hinv hdevice hdriver
  refine ⟨hgone, hinv.list_eq_nil hgone, ?_, ?_⟩
  . intro hacquired
    have hout : stage = .out := by
      rw [hentered] at hacquired
      exact hlast.resolve_left fun heq => by rw [heq] at hacquired; cases hacquired
    rw [Holding.settled_iff hinv.held]
    intro r hr
    obtain ⟨lock, -, hlock⟩ := (hholds r).mp hr
    rw [hout] at hlock
    cases hlock
  . intro hacquired
    have hrefused : stage = .refusedOut :=
      hlast.resolve_right fun heq => hacquired (hentered.mpr (heq ▸ rfl))
    apply Holding.congr hinv.held
    intro r
    rw [Set.mem_singleton_iff, Set.mem_ofPred_eq, hholds r, hrefused]
    constructor
    . rintro rfl
      exact ⟨_, rfl, rfl⟩
    . rintro ⟨lock, rfl, hlock⟩
      exact congrArg Resource.spinLock (of_decide_eq_true hlock)

/--
One module is attached, sends a packet with a completion in between, and is detached while the driver is
unloaded.
-/
def oneModule : List Event :=
  [.act true, .act true, .act true, .filterAttach 1 true true, .goOn 1 true, .goOn 1 true, .goOn 1 true,
    .goOn 1 true, .filterNetBufferLists 1 true false [false], .handlerTurn 1 0, .handlerTurn 1 0,
    .filterNetBufferListsComplete 1 1, .handlerTurn 1 0, .handlerTurn 1 1, .handlerTurn 1 0,
    .handlerTurn 1 0, .driverUnload, .act true, .act true, .filterDetach 1,
    .goOn 1 true, .goOn 1 true, .goOn 1 true, .goOn 1 true, .goOn 1 true, .act true, .act true, .act true,
    .act true]

theorem allowed_act {s : State} {status : Bool} (hscript : s.script ≠ [])
    (hhead : s.script.head? ≠ some .deregistered)
    : Allowed s (.act status) := ⟨hscript, fun heq => absurd heq hhead⟩

theorem allowed_goOn {s : State} {p : Nat} {status : Bool} (hdetached : (s.modules p).pc ≠ .detached)
    (hattached : (s.modules p).pc ≠ .attached)
    : Allowed s (.goOn p status) := ⟨hdetached, hattached⟩

theorem allowed_handlerTurn {s : State} {p k : Nat} (hk : k < (s.modules p).handlers.length)
    : Allowed s (.handlerTurn p k) := hk

theorem along_oneModule : Run.Along step Allowed init oneModule := by
  refine ⟨allowed_act (by decide) (by decide), allowed_act (by decide) (by decide),
    allowed_act (by decide) (by decide), ⟨rfl, rfl⟩, allowed_goOn (by decide) (by decide),
    allowed_goOn (by decide) (by decide), allowed_goOn (by decide) (by decide),
    allowed_goOn (by decide) (by decide), rfl, allowed_handlerTurn (by decide),
    allowed_handlerTurn (by decide), rfl, allowed_handlerTurn (by decide), allowed_handlerTurn (by decide),
    allowed_handlerTurn (by decide), allowed_handlerTurn (by decide), ⟨rfl, rfl⟩,
    allowed_act (by decide) (by decide), allowed_act (by decide) (by decide), ⟨rfl, rfl⟩,
    allowed_goOn (by decide) (by decide), allowed_goOn (by decide) (by decide),
    allowed_goOn (by decide) (by decide), allowed_goOn (by decide) (by decide),
    allowed_goOn (by decide) (by decide), ⟨by decide, ?_⟩, allowed_act (by decide) (by decide),
    allowed_act (by decide) (by decide), allowed_act (by decide) (by decide), trivial⟩
  intro _ p
  by_cases hp : p = 1
  . subst hp
    rfl
  . have hframe : (Run.run step init (oneModule.take 25)).modules p = .detached := by
      apply modules_run_of_ne
      intro e he
      revert e
      simp [oneModule, Event.module, Ne.symm hp]
    exact congrArg Module.pc hframe

theorem settled_oneModule : Settled (Run.run step init oneModule).effects :=
  ((filterDriver_run along_oneModule).2.2.2.2 rfl rfl).2.2.1 (by decide)

end Ansfltr.FilterDriver
