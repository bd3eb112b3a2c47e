import Ndisrd.Ansfltr.FilterDriver.LifeTime

/-!
This module contains the order in which the Vista filter driver frees its locks: a lock that has been freed is
used just if a module is opened, used or closed while a `DriverEntry` that fails is behind its call of
`UnInitializeANSfltr`, and there is no way around it for one that is attached by then.
-/

namespace Ansfltr.FilterDriver

/-- The locks that a call of NDIS acquires. -/
def Event.acquires (s : State) : Event → List Lock
  | .act _ | .driverUnload | .filterAttach _ _ _ | .filterNetBufferLists _ _ _ _
  | .filterNetBufferListsComplete _ _ | .filterDetach _ => []
  | .handlerTurn pFilter k =>
    match (s.modules pFilter).handlers[k]? with
    | some (lock :: _) => [lock]
    | _ => []
  | .goOn pFilter _ =>
    match (s.modules pFilter).pc with
    | .insertHeadList | .removeEntryList => [.g_AdapterLock]
    | .openAdapter | .closeAdapterInstances => [.g_FltInstancesLock]
    | .closeAdapterPackets => [.g_PacketLock]
    | _ => []

/--
`DriverEntry` has failed and has freed the lock, but NDIS has not come back from `NdisFDeregisterFilterDriver`.
-/
def LeftBehind (s : State) : Lock → Prop
  | .g_FltInstancesLock =>
    s.script = .freePackets :: deregisterFilterDriver ∨ s.script = deregisterFilterDriver ∨
      s.script = [.deregistered, .freeAdapterLock]
  | .g_PacketLock => s.script = deregisterFilterDriver ∨ s.script = [.deregistered, .freeAdapterLock]
  | .g_AdapterLock => False

/-- The call acquires only locks that are not left behind. -/
def InOrder (s : State) (e : Event) : Prop := ∀ lock ∈ e.acquires s, ¬LeftBehind s lock

/-! ### Steps -/

/-- `FilterDetach`, or `OpenAdapter` before it, has yet to acquire the lock of the instances. -/
def ModulePc.awaitsInstances : ModulePc → Bool
  | .openAdapter | .attached | .closeAdapterPackets | .closeAdapterInstances => true
  | _ => false

/-- `DriverEntry` waits for the module, and the module needs a lock that is left behind. -/
def Stuck (p : Nat) (s : State) : Prop :=
  LeftBehind s .g_FltInstancesLock ∧ (s.modules p).pc.awaitsInstances = true

theorem Stuck.goOn {p : Nat} {s : State} (h : Stuck p s) {status : Bool}
    (hallowed : Allowed s (.goOn p status)) (horder : InOrder s (.goOn p status))
    : Stuck p (s.goOn p status) := by
  obtain ⟨hleft, hpc⟩ := h
  cases hcases : (s.modules p).pc with
  | openAdapter =>
    apply absurd hleft
    apply horder
    simp [Event.acquires, hcases]
  | closeAdapterInstances =>
    apply absurd hleft
    apply horder
    simp [Event.acquires, hcases]
  | closeAdapterPackets =>
    constructor
    . unfold LeftBehind
      rw [OthersKept.goOn.script]
      exact hleft
    . simp only [State.goOn, hcases, State.goTo, State.setModule, Function.update_self]
      rfl
  | attached => exact absurd hcases hallowed.2
  | _ =>
    rw [hcases] at hpc
    cases hpc

theorem Stuck.act {p : Nat} {s : State} (h : Stuck p s) {status : Bool}
    (hallowed : Allowed s (.act status))
    : Stuck p (step s (.act status)) := by
  obtain ⟨hleft, hpc⟩ := h
  rcases hleft with hscript | hscript | hscript
  . refine ⟨Or.inr (Or.inl ?_), ?_⟩
    . simp only [step, hscript]
      rfl
    . simp only [step, hscript, modules_act]
      exact hpc
  . refine ⟨Or.inr (Or.inr ?_), ?_⟩
    . simp only [step, hscript, deregisterFilterDriver]
      rfl
    . simp only [step, hscript, deregisterFilterDriver, modules_act]
      exact hpc
  . -- NDIS does not come back as long as there is the module
    have hgone := hallowed.2 (by rw [hscript]; rfl) p
    rw [hgone] at hpc
    cases hpc

/-! ### What gets stuck -/

theorem pc_setHandlers (s : State) (pFilter : Nat) (handlers : List (List Lock)) (p : Nat)
    : ((s.setModule pFilter { s.modules pFilter with handlers }).modules p).pc = (s.modules p).pc := by
  by_cases hp : p = pFilter
  . subst hp
    simp [State.setModule]
  . simp [State.setModule, hp]

theorem pc_callHandler (s : State) (pFilter : Nat) (turns : List Lock) (p : Nat)
    : ((s.callHandler pFilter turns).modules p).pc = (s.modules p).pc := pc_setHandlers s pFilter _ p

theorem pc_handlerTurn (s : State) (pFilter k p : Nat)
    : ((s.handlerTurn pFilter k).modules p).pc = (s.modules p).pc := by
  unfold State.handlerTurn
  simp only
  split
  . exact pc_setHandlers s pFilter _ p
  . exact pc_setHandlers s pFilter _ p
  . rfl

theorem Stuck.handlers {p pFilter : Nat} {s s' : State} (h : Stuck p s) (hs : OthersKept pFilter s s')
    (hpc : (s'.modules p).pc = (s.modules p).pc)
    : Stuck p s' := by
  constructor
  . unfold LeftBehind
    rw [hs.script]
    exact h.1
  . rw [hpc]
    exact h.2

theorem Stuck.step {p : Nat} {s : State} (h : Stuck p s) {e : Event} (hallowed : Allowed s e)
    (horder : InOrder s e)
    : Stuck p (step s e) := by
  have hother : ∀ {pFilter}, e.module = some pFilter →
      (FilterDriver.step s e).modules p = s.modules p → Stuck p (FilterDriver.step s e) := by
    intro pFilter hmodule hp
    constructor
    . unfold LeftBehind
      rw [(othersKept_step s hmodule).script]
      exact h.1
    . rw [hp]
      exact h.2
  cases e with
  | act status => exact h.act hallowed
  | driverUnload =>
    have hempty : s.script = [] := hallowed.1
    rcases h.1 with hscript | hscript | hscript
    all_goals
      rw [hempty] at hscript
      cases hscript
  | filterAttach pFilter medium allocated =>
    by_cases hp : pFilter = p
    . have hdetached : (s.modules p).pc = .detached := hp ▸ hallowed.2
      have hpc := h.2
      rw [hdetached] at hpc
      cases hpc
    . exact hother rfl ((othersKept_step s rfl).modules p (Ne.symm hp))
  | filterNetBufferLists pFilter running empty freed =>
    exact h.handlers (othersKept_step s rfl) (pc_callHandler s pFilter _ p)
  | filterNetBufferListsComplete pFilter freed =>
    exact h.handlers (othersKept_step s rfl) (pc_callHandler s pFilter _ p)
  | handlerTurn pFilter k => exact h.handlers (othersKept_step s rfl) (pc_handlerTurn s pFilter k p)
  | filterDetach pFilter =>
    by_cases hp : pFilter = p
    . subst hp
      refine ⟨h.1, ?_⟩
      simp only [FilterDriver.step, State.goTo, State.setModule, Function.update_self]
      rfl
    . exact hother rfl ((othersKept_step s rfl).modules p (Ne.symm hp))
  | goOn pFilter status =>
    by_cases hp : pFilter = p
    . subst hp
      exact h.goOn hallowed horder
    . exact hother rfl ((othersKept_step s rfl).modules p (Ne.symm hp))

end Ansfltr.FilterDriver
