import Ndisrd.Ansfltr.MediaStatus.Impl

/-!
This module contains what the protocols above know of the medium: it is the last status of the adapter
below exactly as long as the miniport is initialised with the medium connected, no status comes while only
the lower edge is powered down, and no power state is set that the upper edge does not need.
-/

namespace Ansfltr.MediaStatus

open Requests

/-- The media status that the indications leave, from a medium that is connected. -/
def view (indicated : List Indication) : NtStatus :=
  indicated.foldl (fun v i => if IsMedia i.generalStatus then i.generalStatus else v) ndisStatusMediaConnect

theorem view_nil : view [] = ndisStatusMediaConnect := rfl

theorem view_concat (indicated : List Indication) (i : Indication)
    : view (indicated ++ [i]) = if IsMedia i.generalStatus then i.generalStatus else view indicated := by
  rw [view, List.foldl_append]
  rfl

namespace State

variable (s : State)

/--
What the protocols above know, or will know when the upper edge is powered up.
-/
def shown : NtStatus :=
  if s.adapt.mpDeviceState > ndisDeviceStateD0 ∧ IsMedia s.adapt.latestUnIndicateStatus then
    s.adapt.latestUnIndicateStatus
  else
    view s.indicated

def Current : Prop := s.adapt.miniportHandle = true → s.shown = s.media

end State

-- NDIS initialises the miniport once, and sends it requests from then on.
def Event.Allowed (s : State) : Event → Prop
  | .mpInitialize => s.adapt.miniportHandle = false
  | .setPowerOid _ _ => s.adapt.miniportHandle = true
  | .queryPnpCapabilities _ => s.adapt.miniportHandle = true
  | _ => True

/--
The miniport is initialised with the medium connected, a media status comes while it can be passed up or kept
for later, and a power state is set that does not bring up an old one.
-/
def Event.Timely (s : State) : Event → Prop
  | .mpInitialize => s.media = ndisStatusMediaConnect
  | .status generalStatus _ =>
    s.adapt.miniportHandle = true → IsMedia generalStatus
      → s.adapt.On ∨ s.adapt.mpDeviceState > ndisDeviceStateD0 ∨ generalStatus = view s.indicated
  | .setPowerOid informationBuffer informationBufferLength =>
    let setPower :=
      Requests.mpProcessSetPowerOid s.adapt.toAdapt informationBuffer informationBufferLength
    setPower.2 = NtStatus.success → setPower.1.standingBy = false
      → ¬s.adapt.mpDeviceState > ndisDeviceStateD0 → IsMedia s.adapt.latestUnIndicateStatus
      → s.adapt.latestUnIndicateStatus = view s.indicated
  | _ => True

structure Inv (s : State) : Prop where
  last : IsMedia s.adapt.lastIndicatedStatus → s.adapt.lastIndicatedStatus = view s.indicated
  unused : s.adapt.miniportHandle = false
    → s.indicated = [] ∧ s.adapt.latestUnIndicateStatus = 0 ∧ ¬s.adapt.mpDeviceState > ndisDeviceStateD0

theorem inv_init (address : Nat) : Inv (init address) := by
  constructor
  . intro h
    rcases h with h | h <;> cases h
  . exact fun _ => ⟨rfl, rfl, Nat.not_lt_zero _⟩

/-! ### The power state of the upper edge -/

theorem mpProcessSetPowerOid_cases (a : Requests.Adapt) (informationBuffer : Nat → UInt8)
    (informationBufferLength : Nat) {setPower : Requests.Adapt × NtStatus}
    (h : Requests.mpProcessSetPowerOid a informationBuffer informationBufferLength = setPower)
    : setPower.2 ≠ NtStatus.success ∧ setPower.1 = a ∨ setPower.2 = NtStatus.success
      ∧ (a.mpDeviceState > ndisDeviceStateD0
        → setPower.1.mpDeviceState = ndisDeviceStateD0 ∧ setPower.1.standingBy = false) := by
  subst h
  unfold Requests.mpProcessSetPowerOid
  split
  . exact Or.inl ⟨by simp only; decide, rfl⟩
  . dsimp only
    split
    . exact Or.inl ⟨by simp only; decide, rfl⟩
    case isFalse h =>
      refine Or.inr ⟨rfl, ?_⟩
      intro hlow
      have hnew := not_not.mp (not_and.mp h hlow)
      refine ⟨hnew, ?_⟩
      have hne : a.mpDeviceState ≠ ndisDeviceStateD0 := by
        intro hd0
        rw [hd0] at hlow
        exact Nat.lt_irrefl _ hlow
      rw [if_neg (not_and_of_not_left _ hne), if_pos ⟨hlow, hnew⟩]

theorem mpProcessSetPowerOid_failed {a : Adapt} {informationBuffer : Nat → UInt8}
    {informationBufferLength : Nat} {setPower : Requests.Adapt × NtStatus}
    (h : Requests.mpProcessSetPowerOid a.toAdapt informationBuffer informationBufferLength = setPower)
    (hfailed : setPower.2 ≠ NtStatus.success) (hsame : setPower.1 = a.toAdapt)
    : mpProcessSetPowerOid a informationBuffer informationBufferLength = (a, [], setPower.2) := by
  rw [mpProcessSetPowerOid, h, if_neg hfailed, hsame]

theorem mpProcessSetPowerOid_standby {a : Adapt} {informationBuffer : Nat → UInt8}
    {informationBufferLength : Nat} {setPower : Requests.Adapt × NtStatus}
    (h : Requests.mpProcessSetPowerOid a.toAdapt informationBuffer informationBufferLength = setPower)
    (hsuccess : setPower.2 = NtStatus.success) (hstandby : setPower.1.standingBy = true)
    : mpProcessSetPowerOid a informationBuffer informationBufferLength =
        ({ a with toAdapt := setPower.1, latestUnIndicateStatus := a.lastIndicatedStatus }, [],
          setPower.2) := by
  rw [mpProcessSetPowerOid, h, if_pos hsuccess, if_neg (by simp only [hstandby]; decide)]

theorem mpProcessSetPowerOid_resume {a : Adapt} {informationBuffer : Nat → UInt8}
    {informationBufferLength : Nat} {setPower : Requests.Adapt × NtStatus}
    (h : Requests.mpProcessSetPowerOid a.toAdapt informationBuffer informationBufferLength = setPower)
    (hsuccess : setPower.2 = NtStatus.success) (hstandby : setPower.1.standingBy = false)
    : mpProcessSetPowerOid a informationBuffer informationBufferLength =
        ({ a with toAdapt := setPower.1, lastIndicatedStatus := a.latestUnIndicateStatus },
          if a.lastIndicatedStatus ≠ a.latestUnIndicateStatus then [⟨a.latestUnIndicateStatus, none⟩] else [],
          setPower.2) := by
  rw [mpProcessSetPowerOid, h, if_pos hsuccess, if_pos hstandby]
  dsimp only
  split
  case isTrue => rfl
  case isFalse heq => rw [← not_not.mp heq]

/--
What a resumption brings up of the medium.
-/
theorem view_resume {s : State} (hs : Inv s)
    : view (s.indicated ++ if s.adapt.lastIndicatedStatus ≠ s.adapt.latestUnIndicateStatus then
        [⟨s.adapt.latestUnIndicateStatus, none⟩] else []) =
      if IsMedia s.adapt.latestUnIndicateStatus then s.adapt.latestUnIndicateStatus
      else view s.indicated := by
  split
  case isTrue => rw [view_concat]
  case isFalse h =>
    rw [List.append_nil]
    split
    case isTrue hmedia =>
      have heq := not_not.mp h
      rw [← heq] at hmedia ⊢
      exact (hs.last hmedia).symm
    case isFalse => rfl

/-! ### Steps -/

/-- Equal in the fields that decide on an indication. -/
structure Alike (a a' : Adapt) : Prop where
  miniportHandle : a'.miniportHandle = a.miniportHandle
  mpDeviceState : a'.mpDeviceState = a.mpDeviceState
  ptDeviceState : a'.ptDeviceState = a.ptDeviceState
  last : a'.lastIndicatedStatus = a.lastIndicatedStatus
  latest : a'.latestUnIndicateStatus = a.latestUnIndicateStatus

theorem alike_lineStatus (a : Adapt) (generalStatus : NtStatus) (statusBuffer : Option LineUp)
    : Alike a (lineStatus a generalStatus statusBuffer).1 := by
  unfold lineStatus
  split
  . split <;> exact ⟨rfl, rfl, rfl, rfl, rfl⟩
  . split <;> exact ⟨rfl, rfl, rfl, rfl, rfl⟩

theorem alike_takeLocalAddress (a : Adapt) (generalStatus : NtStatus) (statusBuffer : Option LineUp)
    : Alike a (takeLocalAddress a generalStatus statusBuffer) := by
  unfold takeLocalAddress
  split
  . split <;> exact ⟨rfl, rfl, rfl, rfl, rfl⟩
  . exact ⟨rfl, rfl, rfl, rfl, rfl⟩

theorem Alike.on_iff {a a' : Adapt} (h : Alike a a') : a'.On ↔ a.On := by
  simp only [Adapt.On, h.miniportHandle, h.mpDeviceState, h.ptDeviceState]

/--
What `PtStatus` does to those fields, and what it passes up.
-/
structure Status (a : Adapt) (generalStatus : NtStatus) (r : Adapt × List Indication) : Prop where
  miniportHandle : r.1.miniportHandle = a.miniportHandle
  mpDeviceState : r.1.mpDeviceState = a.mpDeviceState
  last : r.1.lastIndicatedStatus =
    if a.On ∧ IsMedia generalStatus then generalStatus else a.lastIndicatedStatus
  latest : r.1.latestUnIndicateStatus =
    if ¬a.On ∧ a.miniportHandle = true ∧ IsMedia generalStatus then generalStatus
    else a.latestUnIndicateStatus
  indicated : r.2.map Indication.generalStatus = if a.On then [generalStatus] else []

theorem ptStatus_status (a : Adapt) (generalStatus : NtStatus) (statusBuffer : Option LineUp)
    : Status a generalStatus (ptStatus a generalStatus statusBuffer) := by
  have hline := alike_lineStatus a generalStatus statusBuffer
  unfold ptStatus
  dsimp only
  generalize lineStatus a generalStatus statusBuffer = line at hline ⊢
  by_cases ha : a.On
  . rw [if_pos (hline.on_iff.mpr ha)]
    by_cases hmedia : IsMedia generalStatus
    . rw [if_pos hmedia]
      have htake := alike_takeLocalAddress { line.1 with lastIndicatedStatus := generalStatus }
        generalStatus line.2
      refine ⟨?_, ?_, ?_, ?_, ?_⟩
      . exact htake.miniportHandle.trans hline.miniportHandle
      . exact htake.mpDeviceState.trans hline.mpDeviceState
      . rw [if_pos ⟨ha, hmedia⟩]
        exact htake.last
      . rw [if_neg (fun h => h.1 ha)]
        exact htake.latest.trans hline.latest
      . rw [if_pos ha]
        rfl
    . rw [if_neg hmedia]
      have htake := alike_takeLocalAddress line.1 generalStatus line.2
      refine ⟨?_, ?_, ?_, ?_, ?_⟩
      . exact htake.miniportHandle.trans hline.miniportHandle
      . exact htake.mpDeviceState.trans hline.mpDeviceState
      . rw [if_neg (fun h => hmedia h.2)]
        exact htake.last.trans hline.last
      . rw [if_neg (fun h => h.1 ha)]
        exact htake.latest.trans hline.latest
      . rw [if_pos ha]
        rfl
  . rw [if_neg (mt hline.on_iff.mp ha)]
    split
    case isTrue hmedia =>
      rw [hline.miniportHandle] at hmedia
      refine ⟨hline.miniportHandle, hline.mpDeviceState, ?_, ?_, ?_⟩
      . rw [if_neg (fun h => ha h.1)]
        exact hline.last
      . rw [if_pos ⟨ha, hmedia⟩]
      . rw [if_neg ha]
        rfl
    case isFalse hmedia =>
      rw [hline.miniportHandle] at hmedia
      refine ⟨hline.miniportHandle, hline.mpDeviceState, ?_, ?_, ?_⟩
      . rw [if_neg (fun h => ha h.1)]
        exact hline.last
      . rw [if_neg (fun h => hmedia h.2)]
        exact hline.latest
      . rw [if_neg ha]
        rfl

theorem view_append (indicated : List Indication) {l : List Indication} {generalStatus : NtStatus}
    (h : l.map Indication.generalStatus = [generalStatus])
    : view (indicated ++ l) = if IsMedia generalStatus then generalStatus else view indicated := by
  obtain ⟨i, rfl⟩ := List.length_eq_one_iff.mp ((List.length_map ..).symm.trans (congrArg List.length h))
  rw [view_concat, (List.singleton_inj.mp h)]

namespace Inv

variable {s : State} (hs : Inv s)
include hs

theorem status (generalStatus : NtStatus) (statusBuffer : Option LineUp)
    : Inv (step s (.status generalStatus statusBuffer)) := by
  have hstatus := ptStatus_status s.adapt generalStatus statusBuffer
  simp only [step]
  generalize ptStatus s.adapt generalStatus statusBuffer = r at hstatus ⊢
  by_cases hon : s.adapt.On
  . have hind := hstatus.indicated
    rw [if_pos hon] at hind
    constructor
    . change IsMedia r.1.lastIndicatedStatus → r.1.lastIndicatedStatus = view (s.indicated ++ r.2)
      rw [hstatus.last, view_append s.indicated hind]
      by_cases hmedia : IsMedia generalStatus
      . rw [if_pos ⟨hon, hmedia⟩, if_pos hmedia]
        exact fun _ => rfl
      . rw [if_neg (fun h => hmedia h.2), if_neg hmedia]
        exact hs.last
    . intro hhandle
      have hfalse : s.adapt.miniportHandle = false := hstatus.miniportHandle.symm.trans hhandle
      rw [hon.1] at hfalse
      cases hfalse
  . have hind := hstatus.indicated
    rw [if_neg hon, List.map_eq_nil_iff] at hind
    rw [hind, List.append_nil]
    constructor
    . change IsMedia r.1.lastIndicatedStatus → r.1.lastIndicatedStatus = view s.indicated
      rw [hstatus.last, if_neg (fun h => hon h.1)]
      exact hs.last
    . intro hhandle
      have hfalse : s.adapt.miniportHandle = false := hstatus.miniportHandle.symm.trans hhandle
      obtain ⟨hnil, hlatest, hmp⟩ := hs.unused hfalse
      refine ⟨hnil, ?_, ?_⟩
      . change r.1.latestUnIndicateStatus = 0
        rw [hstatus.latest, if_neg (fun h => by simp [hfalse] at h), hlatest]
      . change ¬r.1.mpDeviceState > ndisDeviceStateD0
        rw [hstatus.mpDeviceState]
        exact hmp

omit hs in
theorem current_status_iff (hcurrent : s.Current) (generalStatus : NtStatus) (statusBuffer : Option LineUp)
    : (step s (.status generalStatus statusBuffer)).Current
        ↔ (Event.status generalStatus statusBuffer).Timely s := by
  have hstatus := ptStatus_status s.adapt generalStatus statusBuffer
  have hind := hstatus.indicated
  simp only [step, State.Current, State.shown, Event.Timely, hstatus.miniportHandle,
    hstatus.mpDeviceState, hstatus.latest]
  by_cases hmedia : IsMedia generalStatus
  . rw [if_pos hmedia]
    by_cases hon : s.adapt.On
    . rw [if_pos hon] at hind
      have hlow : ¬s.adapt.mpDeviceState > ndisDeviceStateD0 := by
        rw [hon.2.1]
        exact Nat.lt_irrefl _
      rw [view_append s.indicated hind, if_pos hmedia, if_neg (fun h => hlow h.1)]
      exact iff_of_true (fun _ => rfl) fun _ _ => Or.inl hon
    . rw [if_neg hon, List.map_eq_nil_iff] at hind
      rw [hind, List.append_nil]
      refine forall_congr' fun hhandle => ?_
      simp only [hmedia, hhandle, and_true, forall_const, hon, false_or, not_false_eq_true, if_true]
      by_cases hlow : s.adapt.mpDeviceState > ndisDeviceStateD0
      . simp only [hlow, if_true, true_or]
      . simp only [hlow, if_false, false_or]
        exact eq_comm
  . have hview : view (s.indicated ++ (ptStatus s.adapt generalStatus statusBuffer).2)
        = view s.indicated := by
      by_cases hon : s.adapt.On
      . rw [if_pos hon] at hind
        rw [view_append s.indicated hind, if_neg hmedia]
      . rw [if_neg hon, List.map_eq_nil_iff] at hind
        rw [hind, List.append_nil]
    simp only [hmedia, and_false, if_false, hview]
    exact iff_of_true hcurrent fun _ h => absurd h (not_false)

theorem setPowerOid (informationBuffer : Nat → UInt8) (informationBufferLength : Nat)
    (hhandle : s.adapt.miniportHandle = true)
    : Inv (step s (.setPowerOid informationBuffer informationBufferLength)) := by
  simp only [step]
  generalize h : Requests.mpProcessSetPowerOid s.adapt.toAdapt informationBuffer
    informationBufferLength = setPower
  have hused : ∀ a : Adapt, a.miniportHandle = s.adapt.miniportHandle → a.miniportHandle ≠ false := by
    intro a ha
    rw [ha, hhandle]
    decide
  rcases mpProcessSetPowerOid_cases _ _ _ h with ⟨hfailed, hsame⟩ | ⟨hsuccess, _⟩
  . rw [mpProcessSetPowerOid_failed h hfailed hsame, List.append_nil]
    exact hs
  . cases hstandby : setPower.1.standingBy with
    | true =>
      rw [mpProcessSetPowerOid_standby h hsuccess hstandby, List.append_nil]
      exact ⟨hs.last, fun hfalse => absurd hfalse (hused _ rfl)⟩
    | false =>
      rw [mpProcessSetPowerOid_resume h hsuccess hstandby]
      refine ⟨?_, fun hfalse => absurd hfalse (hused _ rfl)⟩
      intro hmedia
      dsimp only at hmedia ⊢
      rw [view_resume hs, if_pos hmedia]

theorem current_setPowerOid_iff (hcurrent : s.Current) (informationBuffer : Nat → UInt8)
    (informationBufferLength : Nat) (hhandle : s.adapt.miniportHandle = true)
    : (step s (.setPowerOid informationBuffer informationBufferLength)).Current
        ↔ (Event.setPowerOid informationBuffer informationBufferLength).Timely s := by
  have hshown := hcurrent hhandle
  simp only [step, State.Current, Event.Timely]
  generalize h : Requests.mpProcessSetPowerOid s.adapt.toAdapt informationBuffer
    informationBufferLength = setPower
  rcases mpProcessSetPowerOid_cases _ _ _ h with ⟨hfailed, hsame⟩ | ⟨hsuccess, hlow⟩
  . rw [mpProcessSetPowerOid_failed h hfailed hsame, List.append_nil]
    exact iff_of_true (fun _ => hshown) fun hsuccess => absurd hsuccess hfailed
  . cases hstandby : setPower.1.standingBy with
    | true =>
      rw [mpProcessSetPowerOid_standby h hsuccess hstandby, List.append_nil]
      refine iff_of_true (fun _ => ?_) (fun _ hfalse => by cases hfalse)
      have hon : ¬s.adapt.mpDeviceState > ndisDeviceStateD0 := by
        intro hon
        have hresumed := (hlow hon).2
        rw [hstandby] at hresumed
        cases hresumed
      rw [State.shown, if_neg (fun h => hon h.1)] at hshown
      rw [State.shown, ← hshown]
      dsimp only
      split
      case isTrue hlast => exact hs.last hlast.2
      case isFalse => rfl
    | false =>
      rw [mpProcessSetPowerOid_resume h hsuccess hstandby]
      have hresume := view_resume hs
      have hshown' : ∀ a : Adapt, a.latestUnIndicateStatus = s.adapt.latestUnIndicateStatus
          → (State.shown ⟨a, s.indicated ++ if s.adapt.lastIndicatedStatus ≠ s.adapt.latestUnIndicateStatus then
              [⟨s.adapt.latestUnIndicateStatus, none⟩] else [], s.media⟩) =
            if IsMedia s.adapt.latestUnIndicateStatus then s.adapt.latestUnIndicateStatus
            else view s.indicated := by
        intro a ha
        simp only [State.shown, hresume, ha]
        split
        case isTrue hlow => rw [if_pos hlow.2]
        case isFalse => rfl
      have hafter := hshown' { s.adapt with
        toAdapt := setPower.1
        lastIndicatedStatus := s.adapt.latestUnIndicateStatus } rfl
      dsimp only at hafter ⊢
      rw [hafter]
      by_cases hon : s.adapt.mpDeviceState > ndisDeviceStateD0
      . refine iff_of_true (fun _ => ?_) (fun _ _ hnot => absurd hon hnot)
        simp only [State.shown, hon, true_and] at hshown
        exact hshown
      . rw [State.shown, if_neg (fun h => hon h.1)] at hshown
        simp only [hsuccess, hon, hhandle, not_false_eq_true, forall_const, ← hshown]
        by_cases hmedia : IsMedia s.adapt.latestUnIndicateStatus
        . simp only [hmedia, if_true, forall_const]
        . simp only [hmedia, if_false, false_implies]

/--
Initialising the miniport tells the protocols above of a medium that is connected.
-/
theorem mpInitialize (hhandle : s.adapt.miniportHandle = false)
    : Inv (step s .mpInitialize)
      ∧ ((step s .mpInitialize).Current ↔ s.media = ndisStatusMediaConnect) := by
  obtain ⟨hnil, hlatest, _⟩ := hs.unused hhandle
  refine ⟨⟨?_, nofun⟩, ?_⟩
  . intro _
    simp only [step, hnil, view_nil]
    rfl
  . have hlow : ¬(step s .mpInitialize).adapt.mpDeviceState > ndisDeviceStateD0 := Nat.lt_irrefl _
    rw [State.Current, State.shown, if_neg (fun h => hlow h.1)]
    change (true = true → view s.indicated = s.media) ↔ _
    rw [hnil, view_nil]
    exact ⟨fun h => (h rfl).symm, fun h _ => h.symm⟩

theorem queryPnpCapabilities (ndisRequest : NdisRequest) (hhandle : s.adapt.miniportHandle = true)
    : Inv (step s (.queryPnpCapabilities ndisRequest))
      ∧ (s.Current → (step s (.queryPnpCapabilities ndisRequest)).Current) := by
  simp only [step, MediaStatus.queryPnpCapabilities]
  split
  case isTrue => exact ⟨hs, id⟩
  case isFalse hlow =>
    refine ⟨⟨hs.last, fun hfalse => ?_⟩, ?_⟩
    . have hfalse' : s.adapt.miniportHandle = false := hfalse
      rw [hhandle] at hfalse'
      cases hfalse'
    . intro hcurrent hhandle
      have hshown := hcurrent hhandle
      rw [State.shown, if_neg (fun h => hlow h.1)] at hshown
      rw [State.shown, if_neg]
      . exact hshown
      . rintro ⟨hlow', _⟩
        have hmp : (mpQueryPNPCapabilities s.adapt.toAdapt ndisRequest).1.mpDeviceState = ndisDeviceStateD0
            ∨ (mpQueryPNPCapabilities s.adapt.toAdapt ndisRequest).1.mpDeviceState =
              s.adapt.mpDeviceState := by
          unfold mpQueryPNPCapabilities
          split
          . exact Or.inl rfl
          . exact Or.inr rfl
        change (mpQueryPNPCapabilities s.adapt.toAdapt ndisRequest).1.mpDeviceState > _ at hlow'
        rcases hmp with hmp | hmp <;> rw [hmp] at hlow'
        . exact Nat.lt_irrefl _ hlow'
        . exact hlow hlow'

theorem step {e : Event} (he : e.Allowed s) : Inv (step s e) := by
  cases e with
  | mpInitialize => exact (hs.mpInitialize he).1
  | status generalStatus statusBuffer => exact hs.status generalStatus statusBuffer
  | setPowerOid informationBuffer informationBufferLength =>
    exact hs.setPowerOid informationBuffer informationBufferLength he
  | setPower deviceState => exact ⟨hs.last, hs.unused⟩
  | queryPnpCapabilities ndisRequest => exact (hs.queryPnpCapabilities ndisRequest he).1

theorem current_step_iff {e : Event} (he : e.Allowed s) (hcurrent : s.Current)
    : (MediaStatus.step s e).Current ↔ e.Timely s := by
  cases e with
  | mpInitialize => exact (hs.mpInitialize he).2
  | status generalStatus statusBuffer => exact current_status_iff hcurrent generalStatus statusBuffer
  | setPowerOid informationBuffer informationBufferLength =>
    exact hs.current_setPowerOid_iff hcurrent informationBuffer informationBufferLength he
  | setPower deviceState => exact iff_of_true hcurrent trivial
  | queryPnpCapabilities ndisRequest =>
    exact iff_of_true ((hs.queryPnpCapabilities ndisRequest he).2 hcurrent) trivial

end Inv

theorem current_init (address : Nat) : (init address).Current := nofun

/--
The protocols above know the last media status of the adapter below in every state of a run exactly if no
step of it is untimely.
-/
theorem current_run_iff (address : Nat) {es : List Event}
    (hes : Run.Along step (fun s e => e.Allowed s) (init address) es)
    : Run.Along step (fun s e => (step s e).Current) (init address) es
        ↔ Run.Along step (fun s e => e.Timely s) (init address) es := by
  have hstep : ∀ s e, Inv s → e.Allowed s → Inv (step s e) := fun _ _ hs he => hs.step he
  have hpost : ∀ s e, Inv s → e.Allowed s → s.Current → ((step s e).Current ↔ e.Timely s) :=
    fun _ _ hs he hcurrent => hs.current_step_iff he hcurrent
  exact Run.along_post_iff hstep hpost (inv_init address) (current_init address) hes

def powerBuffer (deviceState : UInt8) : Nat → UInt8 := fun i => if i = 0 then deviceState else 0

-- The medium goes away while both edges are powered down, the upper one first.
def nestedRun : List Event :=
  [.mpInitialize, .setPowerOid (powerBuffer 4) 4, .setPower 4, .status ndisStatusMediaDisconnect none,
    .setPower 1, .setPowerOid (powerBuffer 1) 4]

theorem current_nestedRun
    : Run.Along step (fun s e => (step s e).Current) (init 0) nestedRun := by
  have hallowed : Run.Along step (fun s e => e.Allowed s) (init 0) nestedRun :=
    ⟨rfl, rfl, trivial, trivial, trivial, rfl, trivial⟩
  refine (current_run_iff 0 hallowed).mpr ?_
  refine ⟨rfl, ?_, trivial, ?_, trivial, ?_, trivial⟩
  . exact fun _ hfalse => by cases hfalse
  . exact fun _ _ => Or.inr (Or.inl (by decide))
  . exact fun _ _ hlow => absurd (by decide) hlow

-- It goes away while only the lower edge is powered down, and this is never told.
example : (Run.run step (init 0)
    [.mpInitialize, .setPower 4, .status ndisStatusMediaDisconnect none, .setPowerOid (powerBuffer 4) 4,
      .setPower 1, .setPowerOid (powerBuffer 1) 4]).shown = ndisStatusMediaConnect := by decide

end Ansfltr.MediaStatus
