import Ndisrd.Ansfw.FilterLink.Impl

/-!
This module contains when a request releases its packet as often as it took it: where its last
`FWFreeCloneRequest` finds the link to `ansfltr` as `AllocateRequest` found it.
-/

namespace Ansfw.FilterLink

/--
The packet is released as often as it was cloned.
-/
def Request.Balanced (r : Request) : Prop := r.released = r.cloned

/--
The last `FWFreeCloneRequest` finds the driver connected, and the table filled up to its call, if and only
if `AllocateRequest` found it connected.
-/
def Request.SameLink (r : Request) : Prop :=
  (r.connectedAtFree && r.filledAtFree) = r.connectedAtAllocate

def Request.clonedOnce (r : Request) : Nat := if r.connectedAtAllocate then 1 else 0

def Request.releasedOnce (r : Request) : Nat := if r.connectedAtFree && r.filledAtFree then 1 else 0

-- What the counts of a request are, by how far it is.
def Request.Inv (r : Request) : Prop :=
  match r.pc with
  | .testConnected => r.cloned = 0 ∧ r.released = 0
  | .testCloneRequest => r.cloned = 0 ∧ r.released = 0 ∧ r.connectedAtAllocate = true
  | .live => r.cloned = r.clonedOnce ∧ r.released = 0
  | .freeTestConnected => r.cloned = r.clonedOnce ∧ r.released = 0
  | .freeTestInjectRequest => r.cloned = r.clonedOnce ∧ r.released = 0 ∧ r.connectedAtFree = true
  | .callFreeCloneRequest =>
    r.cloned = r.clonedOnce ∧ r.released = 0 ∧ r.connectedAtFree = true ∧ r.filledAtFree = true
  | .freed => r.cloned = r.clonedOnce ∧ r.released = r.releasedOnce
  | .crashed => r.cloned = r.clonedOnce ∧ r.released = r.releasedOnce

theorem Request.Inv.counts {r : Request} (h : r.Inv) (hended : r.Ended)
    : r.cloned = r.clonedOnce ∧ r.released = r.releasedOnce := by
  unfold Request.Inv at h
  rcases hended with hpc | hpc
  . simpa only [hpc] using h
  . simpa only [hpc] using h

theorem Request.clonedOnce_le (r : Request) : r.clonedOnce ≤ 1 := by
  unfold Request.clonedOnce
  split
  . exact Nat.le_refl 1
  . exact Nat.zero_le 1

theorem Request.releasedOnce_le (r : Request) : r.releasedOnce ≤ 1 := by
  unfold Request.releasedOnce
  split
  . exact Nat.le_refl 1
  . exact Nat.zero_le 1

theorem Request.Inv.balanced_iff {r : Request} (h : r.Inv) (hended : r.Ended)
    : r.Balanced ↔ r.SameLink := by
  have hcounts := h.counts hended
  rw [Request.Balanced, Request.SameLink, hcounts.1, hcounts.2, Request.clonedOnce, Request.releasedOnce]
  cases r.connectedAtFree && r.filledAtFree with
  | true =>
    cases r.connectedAtAllocate with
    | true => simp
    | false => simp
  | false =>
    cases r.connectedAtAllocate with
    | true => simp
    | false => simp

theorem Request.inv_allocated : Request.allocated.Inv := ⟨rfl, rfl⟩

theorem Request.Inv.fwCloneRequest {r : Request} (h : r.Inv) : (fwCloneRequest r).Inv := h

theorem Request.Inv.fwFreeCloneRequest {r : Request} (h : r.Inv) (hlive : r.pc = .live)
    : (fwFreeCloneRequest r).Inv := by
  unfold Request.Inv at h
  simp only [hlive] at h
  by_cases hlast : r.references - 1 = 0
  . simp only [FilterLink.fwFreeCloneRequest, hlast, if_true]
    exact h
  . simp only [FilterLink.fwFreeCloneRequest, hlast, if_false, hlive]
    exact h

/--
A step of a request in a state whose table is all there or not there at all, as it is when a step of
`AllocateRequest` finds the driver connected.
-/
theorem Request.Inv.requestStep {s : State} {r : Request} (h : r.Inv)
    (htable : s.fltFunctions = FltFunctions.filled ∨ s.fltFunctions = FltFunctions.zero)
    (hclone : r.pc = .testCloneRequest → s.fltFunctions = FltFunctions.filled)
    : (requestStep s r).Inv := by
  unfold Request.Inv at h
  unfold FilterLink.requestStep
  cases hpc : r.pc with
  | testConnected =>
    simp only [hpc] at h
    cases hflag : s.bFltConnected with
    | true => exact ⟨h.1, h.2, rfl⟩
    | false => exact ⟨h.1, h.2⟩
  | testCloneRequest =>
    simp only [hpc] at h
    obtain ⟨hcloned, hreleased, hconnected⟩ := h
    refine ⟨?_, hreleased⟩
    simp [hclone hpc, FltFunctions.filled, hcloned, Request.clonedOnce, hconnected]
  | live =>
    unfold Request.Inv
    rw [hpc] at h ⊢
    exact h
  | freeTestConnected =>
    simp only [hpc] at h
    cases hflag : s.bFltConnected with
    | true => exact ⟨h.1, h.2, rfl⟩
    | false => exact ⟨h.1, h.2⟩
  | freeTestInjectRequest =>
    simp only [hpc] at h
    obtain ⟨hcloned, hreleased, hconnected⟩ := h
    rcases htable with htable | htable
    . rw [htable]
      exact ⟨hcloned, hreleased, hconnected, rfl⟩
    . rw [htable]
      refine ⟨hcloned, ?_⟩
      simpa [Request.releasedOnce, FltFunctions.filled, FltFunctions.zero] using hreleased
  | callFreeCloneRequest =>
    simp only [hpc] at h
    obtain ⟨hcloned, hreleased, hconnected, hfilled⟩ := h
    rcases htable with htable | htable
    . rw [htable]
      refine ⟨hcloned, ?_⟩
      simp [Request.releasedOnce, hconnected, hfilled, hreleased, FltFunctions.filled]
    . rw [htable]
      refine ⟨hcloned, ?_⟩
      simpa [Request.releasedOnce, FltFunctions.filled, FltFunctions.zero] using hreleased
  | freed =>
    unfold Request.Inv
    rw [hpc] at h ⊢
    exact h
  | crashed =>
    unfold Request.Inv
    rw [hpc] at h ⊢
    exact h

/-! ### The link -/

namespace State

variable (s : State)

def Table : Prop := s.fltFunctions = FltFunctions.filled ∨ s.fltFunctions = FltFunctions.zero

def Up : Prop :=
  s.bFltConnected = true ∧ s.pFltInstance = true ∧ s.fltFunctions = FltFunctions.filled

-- The instance is in the list of `ansfltr`, and the flag is not yet set, or is set no more.
def Half : Prop :=
  s.bFltConnected = false ∧ s.pFltInstance = true ∧ s.fltFunctions = FltFunctions.filled

def Down : Prop := s.bFltConnected = false ∧ s.pFltInstance = false ∧ s.Table

-- How far the link is up, by what the thread that sets it up or takes it down is to do next.
def Link : Prop :=
  match s.control with
  | .idle => s.Up ∨ s.Down
  | .obtainFilterFunctions => s.Down
  | .registerCallbacks => s.Down ∧ s.fltFunctions = FltFunctions.filled
  | .setConnected => s.Half
  | .resetConnected => s.Up ∨ s.Down
  | .deregisterCallbacks => s.Half
  | .zeroFunctions => s.Down

variable {s}

theorem Link.cases (h : s.Link) : s.Up ∨ s.Half ∨ s.Down := by
  unfold Link at h
  split at h
  . exact h.imp_right Or.inr
  . exact Or.inr (Or.inr h)
  . exact Or.inr (Or.inr h.1)
  . exact Or.inr (Or.inl h)
  . exact h.imp_right Or.inr
  . exact Or.inr (Or.inl h)
  . exact Or.inr (Or.inr h)

theorem Link.table (h : s.Link) : s.Table := by
  rcases h.cases with hup | hhalf | hdown
  . exact Or.inl hup.2.2
  . exact Or.inl hhalf.2.2
  . exact hdown.2.2

theorem Link.filled (h : s.Link) (hinstance : s.pFltInstance = true)
    : s.fltFunctions = FltFunctions.filled := by
  rcases h.cases with hup | hhalf | hdown
  . exact hup.2.2
  . exact hhalf.2.2
  . rw [hdown.2.1] at hinstance
    cases hinstance

theorem Link.controlStep (h : s.Link) (status : NtStatus) : (controlStep s status).Link := by
  unfold Link at h
  unfold FilterLink.controlStep
  cases hpc : s.control with
  | idle =>
    simp only [hpc] at h
    unfold Link
    simp only [hpc]
    exact h
  | obtainFilterFunctions =>
    simp only [hpc] at h
    cases status.ntSuccess with
    | true => exact ⟨⟨h.1, h.2.1, Or.inl rfl⟩, rfl⟩
    | false => exact Or.inr h
  | registerCallbacks =>
    simp only [hpc] at h
    obtain ⟨hdown, hfilled⟩ := h
    cases s.fltFunctions.registerCallbacks && status.ntSuccess with
    | true => exact ⟨hdown.1, rfl, hfilled⟩
    | false => exact Or.inr hdown
  | setConnected =>
    simp only [hpc] at h
    exact Or.inl ⟨rfl, h.2⟩
  | resetConnected =>
    simp only [hpc] at h
    rcases h with hup | hdown
    . simp only [hup.1, hup.2.2, FltFunctions.filled, Bool.and_self, if_true]
      exact ⟨rfl, hup.2.1, rfl⟩
    . simp only [hdown.1, Bool.false_and, Bool.false_eq_true, if_false]
      exact ⟨rfl, hdown.2⟩
  | deregisterCallbacks =>
    simp only [hpc] at h
    exact ⟨h.1, rfl, Or.inl h.2.2⟩
  | zeroFunctions =>
    simp only [hpc] at h
    exact Or.inr ⟨h.1, h.2.1, Or.inr rfl⟩

end State

theorem controlStep_request (s : State) (status : NtStatus)
    : (controlStep s status).callback = s.callback ∧ (controlStep s status).request = s.request := by
  unfold controlStep
  cases s.control with
  | idle => exact ⟨rfl, rfl⟩
  | obtainFilterFunctions =>
    dsimp only
    split
    . exact ⟨rfl, rfl⟩
    . exact ⟨rfl, rfl⟩
  | registerCallbacks =>
    dsimp only
    split
    . exact ⟨rfl, rfl⟩
    . exact ⟨rfl, rfl⟩
  | setConnected => exact ⟨rfl, rfl⟩
  | resetConnected => exact ⟨rfl, rfl⟩
  | deregisterCallbacks => exact ⟨rfl, rfl⟩
  | zeroFunctions => exact ⟨rfl, rfl⟩

-- Only `m_pFltDeregisterCallbacks` takes the instance off the list.
theorem controlStep_pFltInstance {s : State} (hpc : s.control ≠ .deregisterCallbacks)
    (status : NtStatus) (h : s.pFltInstance = true)
    : (controlStep s status).pFltInstance = true := by
  unfold controlStep
  cases hcontrol : s.control with
  | idle => exact h
  | obtainFilterFunctions =>
    dsimp only
    split
    . exact h
    . exact h
  | registerCallbacks =>
    dsimp only
    split
    . rfl
    . exact h
  | setConnected => exact h
  | resetConnected => exact h
  | deregisterCallbacks => exact absurd hcontrol hpc
  | zeroFunctions => exact h

theorem requestStep_allocating {s : State} {r : Request}
    (h : (requestStep s r).pc = .testConnected ∨ (requestStep s r).pc = .testCloneRequest)
    : r.pc = .testConnected ∨ r.pc = .testCloneRequest := by
  unfold requestStep at h
  cases hpc : r.pc with
  | testConnected => exact Or.inl rfl
  | testCloneRequest => exact Or.inr rfl
  | live => simp [hpc] at h
  | freeTestConnected => cases hflag : s.bFltConnected <;> simp [hpc, hflag] at h
  | freeTestInjectRequest => cases hinject : s.fltFunctions.injectRequest <;> simp [hpc, hinject] at h
  | callFreeCloneRequest => cases hfree : s.fltFunctions.freeCloneRequest <;> simp [hpc, hfree] at h
  | freed => simp [hpc] at h
  | crashed => simp [hpc] at h

structure Inv (s : State) : Prop where
  link : s.Link
  callback : ∀ id, s.callback = some id → s.pFltInstance = true
  allocating : ∀ id, s.allocating id → s.callback = some id
  request : ∀ id r, s.request id = some r → r.Inv

theorem inv_init : Inv init := by
  refine ⟨Or.inr ⟨rfl, rfl, Or.inr rfl⟩, ?_, ?_, ?_⟩
  . intro id h
    cases h
  . rintro id ⟨r, hr, -⟩
    cases hr
  . intro id r hr
    cases hr

/-! ### Steps -/

section Step

variable {s : State} (hs : Inv s)
include hs

theorem Inv.setRequest {id : Nat} {r r' : Request} (hr : s.request id = some r) (hinv : r'.Inv)
    (hpc : r'.pc = .testConnected ∨ r'.pc = .testCloneRequest →
      r.pc = .testConnected ∨ r.pc = .testCloneRequest)
    : Inv (s.setRequest id r') := by
  refine ⟨hs.link, hs.callback, ?_, ?_⟩
  . rintro j ⟨q, hq, hallocating⟩
    by_cases hj : j = id
    . subst hj
      simp only [State.setRequest, if_true, Option.some.injEq] at hq
      subst hq
      exact hs.allocating j ⟨r, hr, hpc hallocating⟩
    . simp only [State.setRequest, hj, if_false] at hq
      exact hs.allocating j ⟨q, hq, hallocating⟩
  . intro j q hq
    by_cases hj : j = id
    . simp only [State.setRequest, hj, if_true, Option.some.injEq] at hq
      exact hq ▸ hinv
    . simp only [State.setRequest, hj, if_false] at hq
      exact hs.request j q hq

theorem Inv.controlStep (status : NtStatus) (he : Event.Allowed s (.control status))
    : Inv (controlStep s status) := by
  obtain ⟨hcallback, hrequest⟩ := controlStep_request s status
  refine ⟨hs.link.controlStep status, ?_, ?_, ?_⟩
  . intro id hid
    rw [hcallback] at hid
    apply controlStep_pFltInstance
    . intro hpc
      rw [he (Or.inr hpc)] at hid
      cases hid
    . exact hs.callback id hid
  . rintro id ⟨r, hr, hpc⟩
    rw [hrequest] at hr
    rw [hcallback]
    exact hs.allocating id ⟨r, hr, hpc⟩
  . intro id r hr
    rw [hrequest] at hr
    exact hs.request id r hr

theorem Inv.requestCallback {id : Nat} (he : Event.Allowed s (.requestCallback id))
    : Inv (step s (.requestCallback id)) := by
  obtain ⟨hinstance, hcallback, hnew⟩ := he
  refine ⟨hs.link, fun _ _ => hinstance, ?_, ?_⟩
  . rintro j ⟨r, hr, hpc⟩
    by_cases hj : j = id
    . rw [hj]
      rfl
    . simp only [step, State.setRequest, hj, if_false] at hr
      have := hs.allocating j ⟨r, hr, hpc⟩
      rw [hcallback] at this
      cases this
  . intro j r hr
    by_cases hj : j = id
    . simp only [step, State.setRequest, hj, if_true, Option.some.injEq] at hr
      exact hr ▸ Request.inv_allocated
    . simp only [step, State.setRequest, hj, if_false] at hr
      exact hs.request j r hr

theorem Inv.callbackReturns (he : Event.Allowed s .callbackReturns)
    : Inv (step s .callbackReturns) := by
  refine ⟨hs.link, ?_, ?_, hs.request⟩
  . intro id hid
    cases hid
  . intro id hallocating
    exact absurd hallocating (he id (hs.allocating id hallocating))

theorem Inv.advance (id : Nat) : Inv (step s (.advance id)) := by
  simp only [step]
  cases hr : s.request id with
  | none => exact hs
  | some r =>
    apply hs.setRequest hr
    . apply (hs.request id r hr).requestStep hs.link.table
      intro hpc
      exact hs.link.filled (hs.callback id (hs.allocating id ⟨r, hr, Or.inr hpc⟩))
    . exact requestStep_allocating

theorem Inv.step {e : Event} (he : e.Allowed s) : Inv (step s e) := by
  cases e with
  | registerFilterCallbacks =>
    have hlink := hs.link
    unfold State.Link at hlink
    simp only [he.1] at hlink
    have hdown : s.Down := by
      rcases hlink with hup | hdown
      . have hinstance := hup.2.1
        rw [he.2] at hinstance
        cases hinstance
      . exact hdown
    exact ⟨hdown, hs.callback, hs.allocating, hs.request⟩
  | deregisterFilterCallbacks =>
    have hlink := hs.link
    unfold State.Link at hlink
    rw [show s.control = .idle from he] at hlink
    exact ⟨hlink, hs.callback, hs.allocating, hs.request⟩
  | control status => exact hs.controlStep status he
  | requestCallback id => exact hs.requestCallback he
  | callbackReturns => exact hs.callbackReturns he
  | advance id => exact hs.advance id
  | clone id =>
    obtain ⟨r, hr, hlive⟩ := he
    simp only [FilterLink.step, hr]
    apply hs.setRequest hr (hs.request id r hr).fwCloneRequest
    exact fun hpc => hpc
  | free id =>
    obtain ⟨r, hr, hlive⟩ := he
    simp only [FilterLink.step, hr]
    apply hs.setRequest hr ((hs.request id r hr).fwFreeCloneRequest hlive)
    intro hpc
    unfold FilterLink.fwFreeCloneRequest at hpc
    dsimp only at hpc
    split at hpc
    . simp at hpc
    . exact hpc

end Step

/--
In every run, a request that has come to its end took and released its packet once at most, and released it
as often as `AllocateRequest` cloned it if and only if its last `FWFreeCloneRequest` found the link as
`AllocateRequest` did.
-/
theorem run_balanced_iff {es : List Event} (hes : Run.Along step Event.Allowed init es) {id : Nat}
    {r : Request} (hr : (Run.run step init es).request id = some r) (hended : r.Ended)
    : r.cloned ≤ 1 ∧ r.released ≤ 1 ∧ (r.Balanced ↔ r.SameLink) := by
  have hinv : Inv (Run.run step init es) := Run.inv_run (fun s e hs he => hs.step he) inv_init hes
  have hrequest := hinv.request id r hr
  obtain ⟨hcloned, hreleased⟩ := hrequest.counts hended
  refine ⟨?_, ?_, hrequest.balanced_iff hended⟩
  . rw [hcloned]
    exact r.clonedOnce_le
  . rw [hreleased]
    exact r.releasedOnce_le

-- The driver registers, and a packet is cloned for a request in a callback that returns.
def clonedRun : List Event :=
  [.registerFilterCallbacks, .control NtStatus.success, .control NtStatus.success,
    .control NtStatus.success, .requestCallback 0, .advance 0, .advance 0, .callbackReturns]

-- The request is freed for the last time, and goes through its release.
def freedRun : List Event := [.free 0, .advance 0, .advance 0, .advance 0]

def deregisteredRun : List Event :=
  [.deregisterFilterCallbacks, .control NtStatus.success, .control NtStatus.success,
    .control NtStatus.success]

theorem clonedRun_allowed : Run.Along step Event.Allowed init clonedRun := by
  refine ⟨⟨rfl, rfl⟩, ?_, ?_, ?_, ⟨rfl, rfl, rfl⟩, trivial, trivial, ?_, trivial⟩
  . intro _
    rfl
  . intro _
    rfl
  . intro _
    rfl
  . rintro id ⟨⟩ ⟨r, hr, hpc⟩
    cases hr
    rcases hpc with hpc | hpc
    . cases hpc
    . cases hpc

theorem freedRun_balanced : Request.Balanced ⟨0, .freed, 1, 1, true, true, true⟩ := by
  have hes : Run.Along step Event.Allowed init (clonedRun ++ freedRun) :=
    (Run.along_append ..).mpr
      ⟨clonedRun_allowed, ⟨⟨1, .live, 1, 0, true, false, false⟩, rfl, rfl⟩, trivial, trivial, trivial,
        trivial⟩
  exact (@run_balanced_iff _ hes 0 _ rfl (Or.inl rfl)).2.2.mpr rfl

-- A client has the request until the driver is disconnected.
theorem not_balanced_deregisteredRun
    : ¬∀ es, Run.Along step Event.Allowed init es → ∀ id r,
        (Run.run step init es).request id = some r → r.Ended → r.Balanced := by
  intro h
  have hes : Run.Along step Event.Allowed init (clonedRun ++ deregisteredRun ++ [.free 0, .advance 0]) := by
    rw [Run.along_append, Run.along_append]
    refine ⟨⟨clonedRun_allowed, rfl, ?_, ?_, ?_, trivial⟩,
      ⟨⟨1, .live, 1, 0, true, false, false⟩, rfl, rfl⟩, trivial, trivial⟩
    . intro _
      rfl
    . intro _
      rfl
    . intro _
      rfl
  have hbalanced := h _ hes 0 ⟨0, .freed, 1, 0, true, false, false⟩ rfl (Or.inl rfl)
  cases hbalanced

end Ansfw.FilterLink
