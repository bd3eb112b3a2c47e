import Ndisrd.Ansfltr.Packets.Lemmas
import Ndisrd.Ansfltr.Pause.Impl
import Ndisrd.Lib.Onward

/-!
This module contains what `FilterPause` stops: it waits for nothing, so a list that NDIS has, and a call
that is on its way to NDIS, outlast it.
-/

namespace Ansfltr

namespace FilterMachine

variable (s : FilterMachine)

def Outstanding (pFilter : Nat) : Prop := ∃ p n, (p, Holder.ndis n pFilter) ∈ s.packets.holders

/--
No call is between the last client and the hand-off to NDIS through the filter module.
-/
def Unused (pFilter : Nat) : Prop :=
  (∀ x ∈ s.injected, (s.packets.packet x.1).pAdapter ≠ some pFilter) ∧
    ∀ x ∈ s.packets.sending, x.2 ≠ pFilter

end FilterMachine

/--
What is said of the steps: a list is given to NDIS only through a module that is running, and when
`FilterPause` has succeeded NDIS has none of the module's lists.
-/
def FilterEvent.Sound (s : FilterMachine) : FilterEvent → Prop
  | .filterPause pFilter =>
    (Ansfltr.filterPause s pFilter).2 = NtStatus.success →
      ¬(Ansfltr.filterPause s pFilter).1.Outstanding pFilter
  | .packet (.sendHandOff _ _ filterHandle _) => s.filterState filterHandle = .running
  | _ => True

/--
NDIS pauses a module that no call uses and whose lists are back, no handler puts a state back that
was read before the module was started, and no client lets a packet of a stopped module pass.
-/
def FilterEvent.Quiet (s : FilterMachine) : FilterEvent → Prop
  | .filterPause pFilter => s.Unused pFilter ∧ ¬s.Outstanding pFilter
  | .exchangeState t _ =>
    ∀ pFilter value, s.handler t = .read pFilter value → value ≠ .running → s.Unused pFilter
  | .inject p _ pInstance fltInstancesList answer =>
    letPass pInstance fltInstancesList answer = true →
      ∀ pFilter, (s.packets.packet p).pAdapter = some pFilter → s.filterState pFilter = .running
  | _ => True

-- A call that goes on from where it is.
def FilterEvent.Onward : FilterEvent → Prop
  | .packet (.sendRead _ _) => True
  | .packet (.sendHandOff _ _ _ _) => True
  | _ => False

def InjectedHeld (s : FilterMachine) : Prop :=
  ∀ x ∈ s.injected, x ∈ s.packets.holders ∧ ∀ n h, x.2 ≠ .ndis n h

structure FilterInv (s : FilterMachine) : Prop where
  packets : PacketInv s.packets
  injected : InjectedHeld s
  stopped : ∀ pFilter, s.filterState pFilter ≠ .running → s.Unused pFilter

theorem filterInv_init (packet : Nat → PacketHeader) : FilterInv (FilterMachine.init packet) := by
  refine ⟨packetInv_init packet, ?_, ?_⟩
  . intro x hx
    cases hx
  . intro pFilter _
    constructor
    . intro x hx
      cases hx
    . intro x hx
      cases hx

/-! ### What packet events do to the packets of a call -/

section Packet

variable {s : PacketState} {e : PacketEvent}

theorem packetStep_pAdapter (he : e.Allowed s) {p pFilter : Nat} (hp : p ∈ s.created)
    (h : ((packetStep s e).packet p).pAdapter = some pFilter)
    : (s.packet p).pAdapter = some pFilter := by
  cases e with
  | attach a => exact h
  | create q a =>
    have hne : p ≠ q := fun heq => he.1 (heq ▸ hp)
    simpa [packetStep, createPacket, setPacket_of_ne hne] using h
  | clone q holder n =>
    simpa [packetStep, fltCloneRequest, pAdapter_setPacket_references] using h
  | sendRead q holder =>
    simp only [packetStep, sendPacketRead] at h
    split at h
    . exact h
    . exact h
  | sendHandOff q holder filterHandle n =>
    simpa [packetStep, sendPacketHandOff, fltCloneRequest, pAdapter_setPacket_references] using h
  | free q holder =>
    simpa [packetStep, fltFreeCloneRequest, pAdapter_setPacket_references] using h
  | complete q n filterHandle =>
    simp only [packetStep, filterComplete] at h
    split at h
    . simpa [fltFreeCloneRequest, pAdapter_setPacket_references] using h
    . exact h
  | unlink q => exact h
  | freeData q => exact h
  | closeAdapter a =>
    simp only [packetStep, closeAdapter, foldl_markPacket] at h
    split at h
    . cases h
    . exact h

theorem packetStep_holder {x : Nat × Holder} (hx : x ∈ s.holders)
    (hndis : ∀ n h, x.2 ≠ .ndis n h) (hfree : ∀ p holder, e = .free p holder → x ≠ (p, holder))
    : x ∈ (packetStep s e).holders := by
  cases e with
  | attach a => exact hx
  | create q a => exact List.mem_cons_of_mem _ hx
  | clone q holder n => exact List.mem_cons_of_mem _ hx
  | sendRead q holder =>
    simp only [packetStep, sendPacketRead]
    split
    . exact hx
    . exact hx
  | sendHandOff q holder filterHandle n => exact List.mem_cons_of_mem _ hx
  | free q holder => exact (List.mem_erase_of_ne (hfree q holder rfl)).mpr hx
  | complete q n filterHandle =>
    have hne : x ≠ (q, .ndis n filterHandle) := fun heq => hndis n filterHandle (heq ▸ rfl)
    simp only [packetStep, filterComplete]
    split
    . exact (List.mem_erase_of_ne hne).mpr hx
    . exact (List.mem_erase_of_ne hne).mpr hx
  | unlink q => exact hx
  | freeData q => exact hx
  | closeAdapter a => exact hx

-- Only where `SendPacket` reads the handle is a call added.
theorem packetStep_sending {x : (Nat × Holder) × Nat} (hx : x ∈ (packetStep s e).sending)
    : x ∈ s.sending ∨
        e = .sendRead x.1.1 x.1.2 ∧ (s.packet x.1.1).pAdapter = some x.2 := by
  cases e with
  | sendRead q holder =>
    simp only [packetStep, sendPacketRead] at hx
    split at hx
    . rename_i filterHandle hadapter
      rcases List.mem_cons.mp hx with rfl | hx
      . exact Or.inr ⟨rfl, hadapter⟩
      . exact Or.inl hx
    . exact Or.inl hx
  | sendHandOff q holder filterHandle n => exact Or.inl (List.mem_of_mem_erase hx)
  | complete q n filterHandle =>
    simp only [packetStep, filterComplete] at hx
    split at hx
    . exact Or.inl hx
    . exact Or.inl hx
  | attach a => exact Or.inl hx
  | create q a => exact Or.inl hx
  | clone q holder n => exact Or.inl hx
  | free q holder => exact Or.inl hx
  | unlink q => exact Or.inl hx
  | freeData q => exact Or.inl hx
  | closeAdapter a => exact Or.inl hx

end Packet

/-! ### Steps -/

section Step

variable {s : FilterMachine} (hs : FilterInv s)
include hs

theorem FilterInv.created {x : Nat × Holder} (hx : x ∈ s.injected) : x.1 ∈ s.packets.created :=
  hs.packets.created_of_held (hs.injected x hx).1

theorem FilterInv.setHandler (t : Nat) (pc : HandlerPc) : FilterInv (s.setHandler t pc) :=
  ⟨hs.packets, hs.injected, hs.stopped⟩

theorem FilterInv.setState {pFilter : Nat} {value : FilterState}
    (hunused : value ≠ .running → s.Unused pFilter)
    : FilterInv (s.setState pFilter value) := by
  refine ⟨hs.packets, hs.injected, ?_⟩
  intro f hf
  by_cases heq : f = pFilter
  . subst heq
    exact hunused fun hvalue => hf (by simp [FilterMachine.setState, hvalue])
  . refine hs.stopped f fun hrunning => hf ?_
    simpa [FilterMachine.setState, heq] using hrunning

theorem FilterInv.inject {p : Nat} {holder : Holder}
    (hmem : (p, holder) ∈ s.packets.holders) (hndis : ∀ n h, holder ≠ .ndis n h)
    (hrunning : ∀ f, (s.packets.packet p).pAdapter = some f → s.filterState f = .running)
    : FilterInv { s with injected := (p, holder) :: s.injected } := by
  refine ⟨hs.packets, ?_, ?_⟩
  . intro x hx
    rcases List.mem_cons.mp hx with rfl | hx
    . exact ⟨hmem, hndis⟩
    . exact hs.injected x hx
  . intro f hf
    refine ⟨?_, (hs.stopped f hf).2⟩
    intro x hx hadapter
    rcases List.mem_cons.mp hx with rfl | hx
    . exact hf (hrunning f hadapter)
    . exact (hs.stopped f hf).1 x hx hadapter

theorem FilterInv.packet {e : PacketEvent} (he : e.Allowed s.packets) (hplace : e.InPlace s)
    (injected : List (Nat × Holder)) (hsub : ∀ x ∈ injected, x ∈ s.injected)
    : FilterInv { s with packets := packetStep s.packets e, injected := injected } := by
  refine ⟨packetInv_step s.packets e hs.packets he, ?_, ?_⟩
  . intro x hx
    have hold := hs.injected x (hsub x hx)
    refine ⟨packetStep_holder hold.1 hold.2 ?_, hold.2⟩
    rintro p holder rfl rfl
    exact hplace (hsub _ hx)
  . intro f hf
    have hunused := hs.stopped f hf
    constructor
    . intro x hx hadapter
      exact hunused.1 x (hsub x hx) (packetStep_pAdapter he (hs.created (hsub x hx)) hadapter)
    . intro x hx heq
      rcases packetStep_sending hx with hx | ⟨rfl, hadapter⟩
      . exact hunused.2 x hx heq
      . exact hunused.1 _ hplace (heq ▸ hadapter)

theorem FilterInv.step {e : FilterEvent} (he : e.Allowed s) (hquiet : e.Quiet s)
    : FilterInv (filterStep s e) := by
  cases e with
  | filterPause pFilter => exact hs.setState fun _ => hquiet.1
  | filterRestart pFilter => exact hs.setState fun hne => absurd rfl hne
  | readState t pFilter => exact hs.setHandler t _
  | exchangeState t isInstancesListEmpty =>
    obtain ⟨pFilter, value, hpc⟩ := he
    have hstate := hs.setState (hquiet pFilter value hpc)
    simp only [filterStep, exchangeState, hpc]
    split
    . exact hstate.setHandler t _
    . exact hstate.setHandler t _
  | leave t => exact hs.setHandler t _
  | inject p holder pInstance fltInstancesList answer =>
    simp only [filterStep]
    split
    . rename_i hpass
      exact hs.inject he.1 he.2 (hquiet hpass)
    . exact hs
  | packet e =>
    have hpacket := hs.packet he.1 he.2
    cases e with
    | sendRead p holder => exact hpacket _ fun x hx => List.mem_of_mem_erase hx
    | attach a => exact he.2.elim
    | create p a => exact hpacket _ fun x hx => hx
    | clone p holder n => exact hpacket _ fun x hx => hx
    | sendHandOff p holder f n => exact hpacket _ fun x hx => hx
    | free p holder => exact hpacket _ fun x hx => hx
    | complete p n f => exact hpacket _ fun x hx => hx
    | unlink p => exact hpacket _ fun x hx => hx
    | freeData p => exact hpacket _ fun x hx => hx
    | closeAdapter a => exact hpacket _ fun x hx => hx

theorem FilterInv.sound {e : FilterEvent} (he : e.Allowed s) (hquiet : e.Quiet s) : e.Sound s := by
  cases e with
  | filterPause pFilter => exact fun _ => hquiet.2
  | filterRestart pFilter => trivial
  | readState t pFilter => trivial
  | exchangeState t isInstancesListEmpty => trivial
  | leave t => trivial
  | inject p holder pInstance fltInstancesList answer => trivial
  | packet e =>
    cases e with
    | sendHandOff p holder f n =>
      by_contra hf
      exact (hs.stopped f hf).2 _ he.1.1 rfl
    | attach a => trivial
    | create p a => trivial
    | clone p holder n => trivial
    | sendRead p holder => trivial
    | free p holder => trivial
    | complete p n f => trivial
    | unlink p => trivial
    | freeData p => trivial
    | closeAdapter a => trivial

end Step

/-! ### Calls that go on -/

theorem exists_otherNumber (x : Nat × Holder)
    : ∃ n, ∀ m, n ≤ m → ∀ p f, (p, Holder.ndis m f) ≠ x := by
  obtain ⟨q, holder⟩ := x
  cases holder with
  | ndis k a =>
    refine ⟨k + 1, fun m hm p f heq => ?_⟩
    cases heq
    omega
  | handler => exact ⟨0, fun m _ p f heq => by cases heq⟩
  | client k => exact ⟨0, fun m _ p f heq => by cases heq⟩

theorem exists_unusedNumber (holders : List (Nat × Holder))
    : ∃ n, ∀ m, n ≤ m → ∀ p f, (p, Holder.ndis m f) ∉ holders := by
  induction holders with
  | nil => exact ⟨0, fun m _ p f hmem => by cases hmem⟩
  | cons x holders ih =>
    obtain ⟨n, hn⟩ := ih
    obtain ⟨k, hk⟩ := exists_otherNumber x
    refine ⟨max n k, fun m hm p f hmem => ?_⟩
    rcases List.mem_cons.mp hmem with heq | hmem
    . exact hk m (by omega) p f heq
    . exact hn m (by omega) p f hmem

abbrev SoundFrom : FilterMachine → Prop :=
  Onward.SoundFrom filterStep FilterEvent.Allowed FilterEvent.Sound FilterEvent.Onward

abbrev SoundThroughout : FilterMachine → List FilterEvent → Prop :=
  Onward.SoundThroughout filterStep FilterEvent.Allowed FilterEvent.Sound FilterEvent.Onward

theorem running_of_sending {s : FilterMachine} (hsound : SoundFrom s) {p : Nat} {holder : Holder}
    {f : Nat} (hsending : ((p, holder), f) ∈ s.packets.sending)
    : s.filterState f = .running := by
  obtain ⟨n, hn⟩ := exists_unusedNumber s.packets.holders
  apply hsound.sound (e := .packet (.sendHandOff p holder f n))
  . trivial
  . exact ⟨⟨hsending, fun h => hn n (Nat.le_refl n) p h⟩, trivial⟩

theorem running_of_injected {s : FilterMachine} (hheld : InjectedHeld s) (hsound : SoundFrom s)
    {p : Nat} {holder : Holder} (hinjected : (p, holder) ∈ s.injected) {f : Nat}
    (hadapter : (s.packets.packet p).pAdapter = some f)
    : s.filterState f = .running := by
  have hread : FilterEvent.Allowed s (.packet (.sendRead p holder)) :=
    ⟨hheld _ hinjected, hinjected⟩
  have hsending : ((p, holder), f) ∈ (filterStep s (.packet (.sendRead p holder))).packets.sending := by
    simp only [filterStep, packetStep, sendPacketRead, hadapter]
    exact List.mem_cons_self
  apply running_of_sending _ hsending
  apply Onward.SoundFrom.cons hsound _ hread
  trivial

theorem unused_of_soundFrom {s : FilterMachine} (hheld : InjectedHeld s) (hsound : SoundFrom s)
    {f : Nat} (hf : s.filterState f ≠ .running)
    : s.Unused f := by
  constructor
  . intro x hx hadapter
    exact hf (running_of_injected hheld hsound hx hadapter)
  . rintro ⟨⟨p, holder⟩, _⟩ hx rfl
    exact hf (running_of_sending hsound hx)

/-! ### Runs -/

theorem FilterInv.quiet_of_sound {s : FilterMachine} {e : FilterEvent} (hs : FilterInv s)
    (he : e.Allowed s) (hsound : e.Sound s) (honward : SoundFrom (filterStep s e))
    : e.Quiet s := by
  cases e with
  | filterPause f =>
    have hstopped : (s.setState f .paused).filterState f ≠ .running := by
      simp [FilterMachine.setState]
    exact ⟨unused_of_soundFrom (s := s.setState f .paused) hs.injected honward hstopped, hsound rfl⟩
  | exchangeState t isInstancesListEmpty =>
    intro f value hpc hvalue
    have hfields : (exchangeState s t isInstancesListEmpty).packets = s.packets ∧
        (exchangeState s t isInstancesListEmpty).injected = s.injected ∧
        (exchangeState s t isInstancesListEmpty).filterState f = value := by
      simp only [exchangeState, hpc]
      split
      . simp [FilterMachine.setHandler, FilterMachine.setState]
      . simp [FilterMachine.setHandler, FilterMachine.setState]
    obtain ⟨hpackets, hinjected, hstate⟩ := hfields
    have hheld : InjectedHeld (exchangeState s t isInstancesListEmpty) := by
      unfold InjectedHeld
      rw [hpackets, hinjected]
      exact hs.injected
    have hunused := unused_of_soundFrom hheld honward (by rw [hstate]; exact hvalue)
    unfold FilterMachine.Unused at hunused ⊢
    rw [← hpackets, ← hinjected]
    exact hunused
  | inject p holder pInstance fltInstancesList answer =>
    intro hpass f hadapter
    simp only [filterStep, hpass, if_true] at honward
    refine running_of_injected (s := { s with injected := (p, holder) :: s.injected }) ?_ honward
      List.mem_cons_self hadapter
    intro x hx
    rcases List.mem_cons.mp hx with rfl | hx
    . exact he
    . exact hs.injected x hx
  | filterRestart f => trivial
  | readState t f => trivial
  | leave t => trivial
  | packet e => trivial

theorem onward_quiet {s : FilterMachine} {e : FilterEvent} (he : e.Onward) : e.Quiet s := by
  cases e with
  | packet e => trivial
  | filterPause f => exact he.elim
  | filterRestart f => trivial
  | readState t f => trivial
  | exchangeState t isInstancesListEmpty => exact he.elim
  | leave t => trivial
  | inject p holder pInstance fltInstancesList answer => exact he.elim

/--
In a run whose steps are quiet, lists are given to NDIS only through modules that are running, and each
`FilterPause` ends with none of the module's lists in NDIS, whenever the calls inside `SendPacket` go on;
and only in such a run.
-/
theorem run_paused_iff (packet : Nat → PacketHeader) {es : List FilterEvent}
    (hes : Run.Along filterStep FilterEvent.Allowed (FilterMachine.init packet) es)
    : SoundThroughout (FilterMachine.init packet) es ↔
        Run.Along filterStep FilterEvent.Quiet (FilterMachine.init packet) es := by
  refine Onward.soundThroughout_iff ?_ ?_ ?_ ?_ (filterInv_init packet) hes
  . exact fun s e hs he hquiet => hs.step he hquiet
  . exact fun s e hs he hquiet => hs.sound he hquiet
  . exact fun s e hs he hsound honward => hs.quiet_of_sound he hsound honward
  . exact fun s e he => onward_quiet he

-- A module that is started, and a packet of a handler that lets it pass its test, from creation on.
def startRun : List FilterEvent :=
  [.filterRestart 0, .readState 1 0, .exchangeState 1 false, .packet (.create 5 0)]

-- The packet is sent by its handler and completed, and then the module is paused.
def pausedRun : List FilterEvent :=
  startRun ++
    [.inject 5 .handler none [] fun _ => NtStatus.success,
      .packet (.sendRead 5 .handler),
      .packet (.sendHandOff 5 .handler 0 0),
      .packet (.complete 5 0 0),
      .packet (.free 5 .handler),
      .leave 1,
      .filterPause 0]

theorem pausedRun_sound
    : SoundThroughout (FilterMachine.init fun _ => ⟨0, none, 0⟩) pausedRun := by
  have hes : Run.Along filterStep FilterEvent.Allowed (FilterMachine.init fun _ => ⟨0, none, 0⟩)
      pausedRun := by
    refine ⟨trivial, rfl, ⟨0, .running, rfl⟩, ⟨⟨by decide, by decide⟩, 1, rfl⟩, ?_⟩
    refine ⟨⟨by decide, fun _ _ h => by cases h⟩,
      ⟨⟨by decide, fun _ _ h => by cases h⟩, List.mem_cons_self⟩, ?_⟩
    refine ⟨⟨⟨by decide, fun h hmem => ?_⟩, trivial⟩, ⟨List.mem_cons_self, trivial⟩, ?_⟩
    . cases List.mem_singleton.mp hmem
    . exact ⟨⟨⟨by decide, fun _ _ h => (by cases h), fun h hmem => (by cases hmem)⟩,
        List.not_mem_nil⟩, ⟨0, rfl⟩, trivial, trivial⟩
  refine (run_paused_iff _ hes).mpr ⟨trivial, trivial, ?_, trivial, ?_, ?_⟩
  . rintro f value ⟨⟩ hne
    exact absurd rfl hne
  . rintro _ f ⟨⟩
    rfl
  . refine ⟨trivial, trivial, trivial, trivial, trivial, ⟨⟨?_, ?_⟩, ?_⟩, trivial⟩
    . intro x hx
      cases hx
    . intro x hx
      cases hx
    . rintro ⟨p, n, hmem⟩
      cases hmem

-- The client of the packet answers while the module is paused.
def lateRun : List FilterEvent :=
  startRun ++
    [.packet (.clone 5 .handler 1),
      .inject 5 .handler none [0] fun _ => NtStatus.pending,
      .packet (.free 5 .handler),
      .leave 1,
      .filterPause 0,
      .inject 5 (.client 1) (some 0) [0] fun _ => NtStatus.success,
      .packet (.sendRead 5 (.client 1))]

theorem not_sound_lateRun
    : ¬∀ packet es, Run.Along filterStep FilterEvent.Allowed (FilterMachine.init packet) es →
        Run.Along filterStep FilterEvent.Sound (FilterMachine.init packet) es := by
  intro h
  have hes : Run.Along filterStep FilterEvent.Allowed (FilterMachine.init fun _ => ⟨0, none, 0⟩)
      (lateRun ++ [.packet (.sendHandOff 5 (.client 1) 0 0)]) := by
    refine ⟨trivial, rfl, ⟨0, .running, rfl⟩, ⟨⟨by decide, by decide⟩, 1, rfl⟩, ?_⟩
    refine ⟨⟨⟨by decide, by decide⟩, trivial⟩, ⟨by decide, fun _ _ h => by cases h⟩, ?_⟩
    refine ⟨⟨⟨by decide, fun _ _ h => (by cases h), fun h hmem => (by cases hmem)⟩,
      List.not_mem_nil⟩, ?_⟩
    refine ⟨⟨0, rfl⟩, trivial, ⟨by decide, fun _ _ h => by cases h⟩, ?_⟩
    refine ⟨⟨⟨by decide, fun _ _ h => by cases h⟩, List.mem_cons_self⟩, ?_⟩
    refine ⟨⟨⟨by decide, fun h hmem => ?_⟩, trivial⟩, trivial⟩
    cases List.mem_singleton.mp hmem
  have hsound := ((Run.along_append ..).mp (h _ _ hes)).2.1
  cases hsound

end Ansfltr
