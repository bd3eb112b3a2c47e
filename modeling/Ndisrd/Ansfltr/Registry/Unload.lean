import Ndisrd.Ansfltr.Registry.Lists
import Ndisrd.Lib.Holders
import Ndisrd.Lib.Onward

/-!
This module contains who still uses the packets and the instances while `UnInitializeANSfltr` frees them: it
frees the packets whatever their references, and counts on the unload callbacks.
-/

namespace Ansfltr.Registry

inductive Holder where
  | client (pInstance : Nat)
  /-- A handler, or a client that has deregistered. -/
  | other
  deriving DecidableEq

/--
`references` are those that somebody still has to release, `dropped` the packets that `FLTFreeCloneRequest`
has counted down to zero and not yet unlinked, and `registered` the instances that their clients may still
use. A client that its unload callback has told stops using all of them.
-/
structure Parties where
  driver : State Lists
  references : List (Nat × Holder)
  dropped : List Nat
  registered : List Nat

structure Act where
  event : Event
  -- who gets or gives back the reference
  holder : Holder

variable (s : Parties)

def told (holder : Holder) : Bool :=
  match holder with
  | .client pInstance =>
    decide (pInstance ∈ s.registered) && (s.driver.context pInstance).unloadCallback
  | .other => false

def partiesStep (a : Act) : Parties :=
  let done := listsStep s.driver a.event
  match a.event with
  | .fltRegisterCallbacks _ _ memory =>
    { s with
      driver := done.1
      registered :=
        if done.2.status = NtStatus.success then memory.toList ++ s.registered else s.registered }
  | .fltDeregisterCallbacks pInstance =>
    { s with
      driver := done.1
      references := s.references.map fun r => if r.2 = .client pInstance then (r.1, .other) else r
      registered := s.registered.erase pInstance }
  | .createPacket pPacket _ =>
    { s with driver := done.1, references := (pPacket, a.holder) :: s.references }
  | .fltCloneRequest pPacket =>
    { s with driver := done.1, references := (pPacket, a.holder) :: s.references }
  | .fltFreeCloneRequest pPacket =>
    { s with
      driver := done.1
      references := s.references.erase (pPacket, a.holder)
      dropped :=
        if (done.1.packet pPacket).references = 0 then pPacket :: s.dropped else s.dropped }
  | .freePacket pPacket => { s with driver := done.1, dropped := s.dropped.erase pPacket }
  | .unInitializeInstances =>
    { s with
      driver := done.1
      references := s.references.filter fun r => !told s r.2
      registered := s.registered.filter fun pInstance => !(s.driver.context pInstance).unloadCallback }
  | _ => { s with driver := done.1 }

/--
What the parties keep to, as far as they know: nobody uses what is not theirs.
-/
def Act.Honest (s : Parties) (a : Act) : Prop :=
  match a.event with
  | .fltRegisterCallbacks _ _ memory => ∀ pInstance, memory = some pInstance → Fresh s.driver pInstance
  | .fltDeregisterCallbacks pInstance => pInstance ∈ s.registered
  | .fltInjectRequest pInstance pPacket _ =>
    (∀ i, pInstance = some i → i ∈ s.registered) ∧ (pPacket, a.holder) ∈ s.references
  | .createPacket pPacket _ => Fresh s.driver pPacket
  | .fltCloneRequest pPacket => ∃ holder, (pPacket, holder) ∈ s.references
  | .fltFreeCloneRequest pPacket => (pPacket, a.holder) ∈ s.references
  | .freePacket pPacket => pPacket ∈ s.dropped
  | _ => True

/-- The lists are used only for what is in them. -/
def Act.Sound (s : Parties) (a : Act) : Prop := Allowed s.driver a.event

/-- A client gives back what it has, and `FLTFreeCloneRequest` goes on. -/
def Act.GoesOn (a : Act) : Prop :=
  match a.event with
  | .fltDeregisterCallbacks _ => True
  | .fltFreeCloneRequest _ => True
  | .freePacket _ => True
  | _ => False

/--
All the clients have an unload callback when the instances are freed, and nobody is left with a packet, nor
in the middle of releasing it, when it is.
-/
def Act.Quiet (s : Parties) (a : Act) : Prop :=
  match a.event with
  | .unInitializeInstances =>
    ∀ pInstance ∈ s.registered, (s.driver.context pInstance).unloadCallback = true
  | .unInitializePacket =>
    ∀ pPacket, s.driver.lists.packetsList.head? = some pPacket →
      (∀ holder, (pPacket, holder) ∉ s.references) ∧ pPacket ∉ s.dropped
  | _ => True

def initParties (context : Nat → RegistrationContext) (packet : Nat → Packet) : Parties :=
  ⟨initLists context packet, [], [], []⟩

structure PartiesInv (s : Parties) : Prop where
  instances : s.driver.lists.fltInstancesList.Nodup
  packets : s.driver.lists.packetsList.Nodup
  registered : ∀ i, i ∈ s.registered ↔ i ∈ s.driver.lists.fltInstancesList
  registeredNodup : s.registered.Nodup
  listed : ∀ r ∈ s.references, r.1 ∈ s.driver.lists.packetsList
  counted : ∀ p ∈ s.driver.lists.packetsList,
    (Holders.held s.references p : Int) ≤ (s.driver.packet p).references
  dropped : ∀ p, p ∈ s.dropped ↔
    p ∈ s.driver.lists.packetsList ∧ (s.driver.packet p).references = 0
  droppedNodup : s.dropped.Nodup

theorem partiesInv_init (context : Nat → RegistrationContext) (packet : Nat → Packet)
    : PartiesInv (initParties context packet) := by
  constructor <;> simp [initParties, initLists]

namespace PartiesInv

variable {s : Parties} (h : PartiesInv s)
include h

theorem references_pos {p : Nat} {holder : Holder} (hmem : (p, holder) ∈ s.references)
    : 0 < (s.driver.packet p).references := by
  have hpos := Holders.held_pos hmem
  have hcounted := h.counted p (h.listed _ hmem)
  omega

/--
While it lasts, what the parties keep to is what the lists need.
-/
theorem sound {a : Act} (ha : a.Honest s) : a.Sound s := by
  obtain ⟨e, holder⟩ := a
  cases e with
  | fltRegisterCallbacks ppInstance pContext memory => exact ha
  | fltDeregisterCallbacks pInstance => exact (h.registered pInstance).mp ha
  | fltInjectRequest pInstance pPacket verdict =>
    exact ⟨fun i hi => (h.registered i).mp (ha.1 i hi), h.listed _ ha.2, h.references_pos ha.2⟩
  | createPacket pPacket pAdapter => exact ha
  | fltCloneRequest pPacket =>
    obtain ⟨k, hk⟩ := ha
    exact ⟨h.listed _ hk, h.references_pos hk⟩
  | fltFreeCloneRequest pPacket => exact ⟨h.listed _ ha, h.references_pos ha⟩
  | freePacket pPacket => exact (h.dropped pPacket).mp ha
  | openAdapter pAdapter => trivial
  | closeAdapterPackets pAdapter => trivial
  | closeAdapterInstances pAdapter => trivial
  | unInitializeInstances => trivial
  | unInitializePacket => trivial

theorem register {pInstance : Nat} (hfresh : Fresh s.driver pInstance) (pContext : RegistrationContext)
    : PartiesInv { s with
        driver := (register s.driver pContext (some pInstance)).1
        registered := pInstance :: s.registered } where
  instances := List.nodup_cons.mpr ⟨hfresh.1, h.instances⟩
  packets := h.packets
  registered := by
    intro i
    rw [List.mem_cons, h.registered]
    exact List.mem_cons.symm
  registeredNodup := List.nodup_cons.mpr ⟨mt (h.registered pInstance).mp hfresh.1, h.registeredNodup⟩
  listed := h.listed
  counted := h.counted
  dropped := h.dropped
  droppedNodup := h.droppedNodup

theorem fltDeregisterCallbacks {pInstance : Nat} (holder : Holder)
    : PartiesInv (partiesStep s ⟨.fltDeregisterCallbacks pInstance, holder⟩) where
  instances := h.instances.erase pInstance
  packets := h.packets
  registered := by
    intro i
    simp only [partiesStep, listsStep, h.registeredNodup.mem_erase_iff, h.instances.mem_erase_iff,
      h.registered]
  registeredNodup := h.registeredNodup.erase pInstance
  listed := by
    intro r hr
    obtain ⟨r', hr', rfl⟩ := List.mem_map.mp hr
    have hlisted := h.listed r' hr'
    split
    . exact hlisted
    . exact hlisted
  counted := by
    intro p hp
    have hheld : Holders.held
        (s.references.map fun r => if r.2 = .client pInstance then (r.1, Holder.other) else r) p =
          Holders.held s.references p := by
      rw [Holders.held, Holders.held, List.countP_map]
      apply List.countP_congr
      intro r hr
      simp only [Function.comp]
      split
      . rfl
      . rfl
    simp only [partiesStep, hheld]
    exact h.counted p hp
  dropped := h.dropped
  droppedNodup := h.droppedNodup

theorem fltRegisterCallbacks (ppInstance : Bool) (pContext : Option RegistrationContext)
    {memory : Option Nat} (hfresh : ∀ pInstance, memory = some pInstance → Fresh s.driver pInstance)
    (holder : Holder)
    : PartiesInv (partiesStep s ⟨.fltRegisterCallbacks ppInstance pContext memory, holder⟩) := by
  cases ppInstance with
  | false => exact h
  | true =>
    cases pContext with
    | none => exact h
    | some pContext =>
      cases hcallback : pContext.requestCallback with
      | false =>
        simp only [partiesStep, listsStep, hcallback]
        exact h
      | true =>
        simp only [partiesStep, listsStep, hcallback]
        cases memory with
        | none => exact h
        | some pInstance => exact h.register (hfresh pInstance rfl) pContext

theorem createPacket {pPacket : Nat} (hfresh : Fresh s.driver pPacket) (pAdapter : Nat) (holder : Holder)
    : PartiesInv (partiesStep s ⟨.createPacket pPacket pAdapter, holder⟩) where
  instances := h.instances
  packets := by
    have hnodup := List.Nodup.concat hfresh.2 h.packets
    rwa [List.concat_eq_append] at hnodup
  registered := h.registered
  registeredNodup := h.registeredNodup
  listed := by
    intro r hr
    rcases List.mem_cons.mp hr with rfl | hr
    . exact List.mem_append_right _ (List.mem_singleton_self _)
    . exact List.mem_append_left _ (h.listed r hr)
  counted := by
    intro p hp
    by_cases hne : p = pPacket
    . subst hne
      have hnone : Holders.held s.references p = 0 :=
        (Holders.held_eq_zero_iff _ _).mpr fun k hk => hfresh.2 (h.listed _ hk)
      simp [partiesStep, listsStep, setPacket, hnone]
    . have hp : p ∈ s.driver.lists.packetsList := by
        simpa [partiesStep, listsStep, setPacket, hne] using hp
      simpa [partiesStep, listsStep, setPacket, hne, Ne.symm hne] using h.counted p hp
  dropped := by
    intro p
    by_cases hne : p = pPacket
    . subst hne
      have hnot : p ∉ s.dropped := fun hd => hfresh.2 ((h.dropped p).mp hd).1
      simp [partiesStep, listsStep, setPacket, hnot]
    . simpa [partiesStep, listsStep, setPacket, hne] using h.dropped p
  droppedNodup := h.droppedNodup

theorem fltCloneRequest {pPacket : Nat} {holder : Holder} (hheld : (pPacket, holder) ∈ s.references)
    (holder' : Holder)
    : PartiesInv (partiesStep s ⟨.fltCloneRequest pPacket, holder'⟩) where
  instances := h.instances
  packets := h.packets
  registered := h.registered
  registeredNodup := h.registeredNodup
  listed := List.forall_mem_cons.mpr ⟨h.listed (pPacket, holder) hheld, h.listed⟩
  counted := by
    intro p hp
    have hcounted := h.counted p hp
    by_cases hne : p = pPacket
    . subst hne
      simp [partiesStep, listsStep, setPacket, Registry.fltCloneRequest]
      omega
    . simpa [partiesStep, listsStep, setPacket, Registry.fltCloneRequest, hne, Ne.symm hne] using hcounted
  dropped := by
    intro p
    by_cases hne : p = pPacket
    . subst hne
      have hpos := h.references_pos hheld
      have hnot : p ∉ s.dropped := fun hd => by
        have hzero := ((h.dropped p).mp hd).2
        omega
      simp [partiesStep, listsStep, setPacket, Registry.fltCloneRequest, hnot]
      omega
    . simpa [partiesStep, listsStep, setPacket, Registry.fltCloneRequest, hne] using h.dropped p
  droppedNodup := h.droppedNodup

theorem fltFreeCloneRequest {pPacket : Nat} {holder : Holder} (hheld : (pPacket, holder) ∈ s.references)
    : PartiesInv (partiesStep s ⟨.fltFreeCloneRequest pPacket, holder⟩) := by
  have hpos := h.references_pos hheld
  have hnot : pPacket ∉ s.dropped := by
    intro hd
    have hzero := ((h.dropped pPacket).mp hd).2
    omega
  constructor
  . exact h.instances
  . exact h.packets
  . exact h.registered
  . exact h.registeredNodup
  . exact fun r hr => h.listed r (List.mem_of_mem_erase hr)
  . intro p hp
    have hcounted := h.counted p hp
    have herase := Holders.held_erase hheld p
    by_cases hne : p = pPacket
    . subst hne
      simp only [partiesStep, listsStep, setPacket, decrementReferences, Function.update_self]
      rw [if_pos rfl] at herase
      omega
    . rw [if_neg (Ne.symm hne), Nat.add_zero] at herase
      simpa [partiesStep, listsStep, setPacket, decrementReferences, hne, herase] using hcounted
  . intro p
    simp only [partiesStep, listsStep, setPacket, decrementReferences, Function.update_self]
    by_cases hne : p = pPacket
    . subst hne
      have hlisted := h.listed _ hheld
      rw [Function.update_self]
      split
      . next hzero => simp [hzero, hlisted]
      . next hzero => simp [hzero, hnot]
    . rw [Function.update_of_ne hne, ← h.dropped]
      split
      . simp [hne]
      . rfl
  . simp only [partiesStep]
    split
    . exact List.nodup_cons.mpr ⟨hnot, h.droppedNodup⟩
    . exact h.droppedNodup

theorem freePacket {pPacket : Nat} (hdropped : pPacket ∈ s.dropped) (holder : Holder)
    : PartiesInv (partiesStep s ⟨.freePacket pPacket, holder⟩) := by
  have hzero := ((h.dropped pPacket).mp hdropped).2
  constructor
  . exact h.instances
  . exact h.packets.erase pPacket
  . exact h.registered
  . exact h.registeredNodup
  . intro r hr
    have hne : r.1 ≠ pPacket := by
      intro heq
      have hmem : (r.1, r.2) ∈ s.references := hr
      have hpos := h.references_pos hmem
      rw [heq] at hpos
      omega
    exact (List.mem_erase_of_ne hne).mpr (h.listed r hr)
  . exact fun p hp => h.counted p (List.mem_of_mem_erase hp)
  . intro p
    simp only [partiesStep, listsStep, h.droppedNodup.mem_erase_iff, h.packets.mem_erase_iff, h.dropped,
      and_assoc]
  . exact h.droppedNodup.erase pPacket

theorem closeAdapterPackets (pAdapter : Nat) (holder : Holder)
    : PartiesInv (partiesStep s ⟨.closeAdapterPackets pAdapter, holder⟩) := by
  have hreferences : ∀ p, ((Registry.closeAdapterPackets s.driver pAdapter).packet p).references =
      (s.driver.packet p).references := by
    intro p
    simp only [Registry.closeAdapterPackets]
    split
    . rfl
    . rfl
  refine { h with counted := ?_, dropped := ?_ }
  . intro p hp
    rw [partiesStep, listsStep, hreferences]
    exact h.counted p hp
  . intro p
    rw [partiesStep, listsStep, hreferences]
    exact h.dropped p

theorem unInitializeInstances {a : Act} (hevent : a.event = .unInitializeInstances) (hquiet : a.Quiet s)
    : PartiesInv (partiesStep s a) := by
  obtain ⟨e, holder⟩ := a
  subst hevent
  have hregistered : (s.registered.filter fun i => !(s.driver.context i).unloadCallback) = [] := by
    rw [List.filter_eq_nil_iff]
    intro i hi
    simp [hquiet i hi]
  constructor
  . exact List.nodup_nil
  . exact h.packets
  . intro i
    simp only [partiesStep, hregistered]
    rfl
  . simp only [partiesStep, hregistered]
    exact List.nodup_nil
  . exact fun r hr => h.listed r (List.mem_of_mem_filter hr)
  . intro p hp
    have hcounted := h.counted p hp
    have hle : Holders.held (s.references.filter fun r => !told s r.2) p ≤ Holders.held s.references p :=
      List.Sublist.countP_le List.filter_sublist
    simp only [partiesStep, listsStep]
    omega
  . exact h.dropped
  . exact h.droppedNodup

theorem unInitializePacket {a : Act} (hevent : a.event = .unInitializePacket) (hquiet : a.Quiet s)
    : PartiesInv (partiesStep s a) := by
  obtain ⟨e, holder⟩ := a
  subst hevent
  have hbehind : ∀ p ∈ s.driver.lists.packetsList,
      s.driver.lists.packetsList.head? ≠ some p → p ∈ s.driver.lists.packetsList.tail := by
    intro p hp hhead
    cases hlist : s.driver.lists.packetsList with
    | nil =>
      rw [hlist] at hp
      cases hp
    | cons x xs =>
      rw [hlist] at hp hhead
      exact (List.mem_cons.mp hp).resolve_left fun heq => hhead (congrArg some heq.symm)
  constructor
  . exact h.instances
  . exact h.packets.tail
  . exact h.registered
  . exact h.registeredNodup
  . exact fun r hr => hbehind r.1 (h.listed r hr) fun hhead => (hquiet r.1 hhead).1 r.2 hr
  . exact fun p hp => h.counted p (List.mem_of_mem_tail hp)
  . intro p
    constructor
    . intro hd
      obtain ⟨hp, hzero⟩ := (h.dropped p).mp hd
      exact ⟨hbehind p hp fun hhead => (hquiet p hhead).2 hd, hzero⟩
    . rintro ⟨hp, hzero⟩
      exact (h.dropped p).mpr ⟨List.mem_of_mem_tail hp, hzero⟩
  . exact h.droppedNodup

theorem step {a : Act} (ha : a.Honest s) (hquiet : a.Quiet s) : PartiesInv (partiesStep s a) := by
  obtain ⟨e, holder⟩ := a
  cases e with
  | fltRegisterCallbacks ppInstance pContext memory =>
    exact h.fltRegisterCallbacks ppInstance pContext ha holder
  | fltDeregisterCallbacks pInstance => exact h.fltDeregisterCallbacks holder
  | fltInjectRequest pInstance pPacket verdict => exact h
  | createPacket pPacket pAdapter => exact h.createPacket ha pAdapter holder
  | fltCloneRequest pPacket =>
    obtain ⟨k, hk⟩ := ha
    exact h.fltCloneRequest hk holder
  | fltFreeCloneRequest pPacket => exact h.fltFreeCloneRequest ha
  | freePacket pPacket => exact h.freePacket ha holder
  | openAdapter pAdapter => exact h
  | closeAdapterPackets pAdapter => exact h.closeAdapterPackets pAdapter holder
  | closeAdapterInstances pAdapter => exact h
  | unInitializeInstances => exact h.unInitializeInstances rfl hquiet
  | unInitializePacket => exact h.unInitializePacket rfl hquiet

/-! ### What is left when it is freed -/

omit h in
/-- A client without an unload callback deregisters an instance that has been freed. -/
theorem unload_of_soundFrom {holder : Holder}
    (hsound : Onward.SoundFrom partiesStep Act.Honest Act.Sound Act.GoesOn
      (partiesStep s ⟨.unInitializeInstances, holder⟩))
    : ∀ i ∈ s.registered, (s.driver.context i).unloadCallback = true := by
  intro i hi
  by_contra hunload
  let late : Act := ⟨.fltDeregisterCallbacks i, .other⟩
  have hhonest : late.Honest (partiesStep s ⟨.unInitializeInstances, holder⟩) :=
    List.mem_filter.mpr ⟨hi, by simpa using hunload⟩
  have hmem := hsound.sound (e := late) trivial hhonest
  exact List.not_mem_nil hmem

/-- Whoever is left with the packet releases it when it has been freed. -/
theorem released_of_soundFrom {holder : Holder}
    (hsound : Onward.SoundFrom partiesStep Act.Honest Act.Sound Act.GoesOn
      (partiesStep s ⟨.unInitializePacket, holder⟩))
    {p : Nat} (hhead : s.driver.lists.packetsList.head? = some p)
    : (∀ k, (p, k) ∉ s.references) ∧ p ∉ s.dropped := by
  have hgone : p ∉ s.driver.lists.packetsList.tail := by
    obtain ⟨ps, hlist⟩ := List.head?_eq_some_iff.mp hhead
    have hnodup := h.packets
    rw [hlist] at hnodup
    rw [hlist]
    exact (List.nodup_cons.mp hnodup).1
  constructor
  . intro k hk
    let late : Act := ⟨.fltFreeCloneRequest p, k⟩
    exact hgone (hsound.sound (e := late) trivial hk).1
  . intro hd
    let late : Act := ⟨.freePacket p, .other⟩
    exact hgone (hsound.sound (e := late) trivial hd).1

theorem quiet_of_sound {a : Act}
    (hsound : Onward.SoundFrom partiesStep Act.Honest Act.Sound Act.GoesOn (partiesStep s a))
    : a.Quiet s := by
  obtain ⟨e, holder⟩ := a
  cases e with
  | unInitializeInstances => exact unload_of_soundFrom hsound
  | unInitializePacket => exact fun p hhead => h.released_of_soundFrom hsound hhead
  | _ => trivial

end PartiesInv

theorem quiet_of_goesOn {a : Act} (ha : a.GoesOn) : a.Quiet s := by
  obtain ⟨e, holder⟩ := a
  cases e with
  | unInitializeInstances => exact ha.elim
  | unInitializePacket => exact ha.elim
  | _ => trivial

theorem driver_partiesStep (a : Act)
    : (partiesStep s a).driver = Simulation.next listsStep s.driver a.event := by
  obtain ⟨e, holder⟩ := a
  cases e <;> rfl

theorem driver_run (acts : List Act)
    : (Run.run partiesStep s acts).driver =
        Run.run (Simulation.next listsStep) s.driver (acts.map Act.event) := by
  induction acts generalizing s with
  | nil => rfl
  | cons a acts ih =>
    rw [Run.run_cons, ih, driver_partiesStep]
    rfl

theorem along_allowed {acts : List Act} (hsound : Run.Along partiesStep Act.Sound s acts)
    : Run.Along (Simulation.next listsStep) Allowed s.driver (acts.map Act.event) := by
  induction acts generalizing s with
  | nil => trivial
  | cons a acts ih =>
    refine ⟨hsound.1, ?_⟩
    rw [← driver_partiesStep]
    exact ih _ hsound.2

/--
The clients that go on with what is theirs find it in the lists, at every moment of the run, just if nothing
was theirs when it was freed. The memory of the lists then performs the run.
-/
theorem unloaded_run_iff (memory : State Memory) {acts : List Act}
    (hacts : Run.Along partiesStep Act.Honest (initParties memory.context memory.packet) acts)
    : let init := initParties memory.context memory.packet
      (Onward.SoundThroughout partiesStep Act.Honest Act.Sound Act.GoesOn init acts ↔
          Run.Along partiesStep Act.Quiet init acts) ∧
        (Run.Along partiesStep Act.Quiet init acts →
          ∃ results s',
            Simulation.Performed Performs (initializeANSfltr memory) (acts.map Act.event) results s' ∧
              Represents s' (Run.run partiesStep init acts).driver) := by
  have hinit := partiesInv_init memory.context memory.packet
  have hstep : ∀ (s : Parties) (a : Act), PartiesInv s → a.Honest s → a.Quiet s →
      PartiesInv (partiesStep s a) := fun _ _ h ha hquiet => h.step ha hquiet
  have hsound : ∀ (s : Parties) (a : Act), PartiesInv s → a.Honest s → a.Quiet s → a.Sound s :=
    fun _ _ h ha _ => h.sound ha
  constructor
  . apply Onward.soundThroughout_iff hstep hsound _ _ hinit hacts
    . exact fun _ _ h _ _ hfrom => h.quiet_of_sound hfrom
    . exact fun s _ ha => quiet_of_goesOn s ha
  . intro hquiet
    have hallowed := along_allowed _ (Onward.along_sound hstep hsound hinit hacts hquiet)
    obtain ⟨s', hperformed, hrepresents⟩ :=
      Simulation.performed_iff listsStep follows_lists (represents_initializeANSfltr memory) hallowed
    rw [driver_run]
    exact ⟨_, s', (hperformed _ _).mpr ⟨rfl, rfl⟩, hrepresents⟩

-- A client deregisters with a packet that it has kept, and the driver is unloaded.
def formerClient : List Act := [
  ⟨.fltRegisterCallbacks true (some ⟨true, true, true, true⟩) (some 1), .other⟩,
  ⟨.fltRegisterCallbacks true (some ⟨true, false, true, true⟩) (some 2), .other⟩,
  ⟨.createPacket 10 7, .other⟩,
  ⟨.fltInjectRequest none 10 (fun _ => NtStatus.unsuccessful), .other⟩,
  ⟨.fltCloneRequest 10, .client 2⟩,
  ⟨.fltFreeCloneRequest 10, .other⟩,
  ⟨.fltDeregisterCallbacks 2, .client 2⟩,
  ⟨.closeAdapterPackets 7, .other⟩,
  ⟨.unInitializeInstances, .other⟩,
  ⟨.unInitializePacket, .other⟩]

theorem honest_formerClient
    : Run.Along partiesStep Act.Honest (initParties someMemory.context someMemory.packet)
        formerClient := by
  simp [formerClient, partiesStep, Act.Honest, Fresh, listsStep, initParties, initLists, register,
    setPacket, fltCloneRequest, decrementReferences, closeAdapterPackets, someMemory]

theorem not_sound_formerClient
    : ¬Onward.SoundThroughout partiesStep Act.Honest Act.Sound Act.GoesOn
        (initParties someMemory.context someMemory.packet) formerClient := by
  intro hsound
  have hquiet := (unloaded_run_iff someMemory honest_formerClient).1.mp hsound
  simp [formerClient, partiesStep, Act.Quiet, listsStep, initParties, initLists, register,
    setPacket, fltCloneRequest, decrementReferences, closeAdapterPackets, someMemory, told] at hquiet

end Ansfltr.Registry
