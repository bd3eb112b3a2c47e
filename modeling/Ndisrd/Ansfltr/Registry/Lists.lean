import Ndisrd.Ansfltr.Registry.Impl

/-!
This module contains the operations of `callbacks.c` over lists of addresses, and that the memory of the two
lists carries them out: whatever the events, the loops end and call what the lists say.
-/

namespace Ansfltr.Registry

open ListEntry (Links Node Family overList)

/--
The instances with the last registered one first, and the packets with the oldest one first.
-/
structure Lists where
  fltInstancesList : List Nat
  packetsList : List Nat

def Lists.of (lists : Lists) : ListHead → List Nat
  | .fltInstancesList => lists.fltInstancesList
  | .packetsList => lists.packetsList

theorem Lists.of_fltInstancesList (lists : Lists) (xs : List Nat)
    : { lists with fltInstancesList := xs }.of = Function.update lists.of .fltInstancesList xs := by
  funext head
  cases head <;> rfl

theorem Lists.of_packetsList (lists : Lists) (xs : List Nat)
    : { lists with packetsList := xs }.of = Function.update lists.of .packetsList xs := by
  funext head
  cases head <;> rfl

section Lists

variable (s : State Lists)

def instancesWith (callback : RegistrationContext → Bool) : List Nat :=
  s.lists.fltInstancesList.filter fun pInstance => callback (s.context pInstance)

def register (pContext : RegistrationContext) (memory : Option Nat) : State Lists × Result :=
  match memory with
  | none => ⟨s, NtStatus.insufficientResources, []⟩
  | some pInstance =>
    let s := { s with
      lists := { s.lists with fltInstancesList := pInstance :: s.lists.fltInstancesList }
      context := Function.update s.context pInstance pContext }
    ⟨s, NtStatus.success, [.allocateMemory pInstance]⟩

def closeAdapterPackets (pAdapter : Nat) : State Lists :=
  { s with
    packet := fun p =>
      if p ∈ s.lists.packetsList ∧ (s.packet p).pAdapter = some pAdapter then
        { s.packet p with pAdapter := none }
      else
        s.packet p }

def unloadCalls (pInstance : Nat) : List Call :=
  (if (s.context pInstance).unloadCallback then [.unloadCallback pInstance] else []) ++
    [.freeMemory pInstance]

def listsStep : Event → State Lists × Result
  | .fltRegisterCallbacks true (some pContext) memory =>
    if pContext.requestCallback then
      register s pContext memory
    else
      ⟨s, NtStatus.invalidParameter, []⟩
  | .fltRegisterCallbacks _ _ _ => ⟨s, NtStatus.invalidParameter, []⟩
  | .fltDeregisterCallbacks pInstance =>
    ⟨{ s with lists := { s.lists with
        fltInstancesList := s.lists.fltInstancesList.erase pInstance } },
      NtStatus.success, [.freeMemory pInstance]⟩
  | .fltInjectRequest pInstance pPacket verdict =>
    let called := Ansfltr.fltInjectRequest (fun i => (verdict i, [Call.requestCallback i pPacket]))
      (.sendPacket pPacket) s.lists.fltInstancesList pInstance
    ⟨s, called.1, called.2⟩
  | .createPacket pPacket pAdapter =>
    let s := setPacket s pPacket ⟨1, some pAdapter⟩
    ⟨{ s with lists := { s.lists with packetsList := s.lists.packetsList ++ [pPacket] } },
      NtStatus.success, [.allocateMemory pPacket]⟩
  | .fltCloneRequest pPacket => ⟨fltCloneRequest s pPacket, NtStatus.success, []⟩
  | .fltFreeCloneRequest pPacket => ⟨decrementReferences s pPacket, NtStatus.success, []⟩
  | .freePacket pPacket =>
    ⟨{ s with lists := { s.lists with packetsList := s.lists.packetsList.erase pPacket } },
      NtStatus.success, [.freeMemory pPacket]⟩
  | .openAdapter pAdapter =>
    ⟨s, NtStatus.success, (instancesWith s RegistrationContext.openAdapterCallback).map
      fun pInstance => .openAdapterCallback pInstance pAdapter⟩
  | .closeAdapterPackets pAdapter => ⟨closeAdapterPackets s pAdapter, NtStatus.success, []⟩
  | .closeAdapterInstances pAdapter =>
    ⟨s, NtStatus.success, (instancesWith s RegistrationContext.closeAdapterCallback).map
      fun pInstance => .closeAdapterCallback pInstance pAdapter⟩
  | .unInitializeInstances =>
    ⟨{ s with lists := { s.lists with fltInstancesList := [] } }, NtStatus.success,
      s.lists.fltInstancesList.flatMap (unloadCalls s)⟩
  | .unInitializePacket =>
    ⟨{ s with lists := { s.lists with packetsList := s.lists.packetsList.tail } }, NtStatus.success,
      s.lists.packetsList.head?.toList.map .freeMemory⟩

/-- An address that `NdisAllocateMemoryWithTag` can have. -/
def Fresh (address : Nat) : Prop :=
  address ∉ s.lists.fltInstancesList ∧ address ∉ s.lists.packetsList

/--
Clients pass instances that are registered. Packets are used and released by who has a reference, and are
freed with the last one.
-/
def Allowed (s : State Lists) : Event → Prop
  | .fltRegisterCallbacks _ _ memory => ∀ pInstance, memory = some pInstance → Fresh s pInstance
  | .fltDeregisterCallbacks pInstance => pInstance ∈ s.lists.fltInstancesList
  | .fltInjectRequest pInstance pPacket _ =>
    (∀ i, pInstance = some i → i ∈ s.lists.fltInstancesList) ∧ pPacket ∈ s.lists.packetsList ∧
      0 < (s.packet pPacket).references
  | .createPacket pPacket _ => Fresh s pPacket
  | .fltCloneRequest pPacket => pPacket ∈ s.lists.packetsList ∧ 0 < (s.packet pPacket).references
  | .fltFreeCloneRequest pPacket => pPacket ∈ s.lists.packetsList ∧ 0 < (s.packet pPacket).references
  | .freePacket pPacket => pPacket ∈ s.lists.packetsList ∧ (s.packet pPacket).references = 0
  | .openAdapter _ => True
  | .closeAdapterPackets _ => True
  | .closeAdapterInstances _ => True
  | .unInitializeInstances => True
  | .unInitializePacket => True

end Lists

/--
The memory holds the lists, and every instance of the list has a request callback.
-/
structure Represents (s : State Memory) (t : State Lists) : Prop where
  family : Family s.lists t.lists.of
  context : s.context = t.context
  packet : s.packet = t.packet
  requestCallback : ∀ i ∈ t.lists.fltInstancesList, (t.context i).requestCallback = true

/-! ### What the loops do -/

theorem overList_filter (call : Nat → Call) (p : Nat → Bool)
    {body : List Call → Nat → Loop.Turn (List Call) (List Call)}
    (hbody : ∀ calls i, body calls i = .goOn (if p i then calls ++ [call i] else calls))
    (calls : List Call) (xs : List Nat)
    : overList body id calls xs = calls ++ (xs.filter p).map call := by
  induction xs generalizing calls with
  | nil => simp [overList]
  | cons x xs ih =>
    rw [overList, hbody]
    simp only [ih, List.filter_cons]
    split
    . simp
    . rfl

theorem overList_injectBody (s : State Memory) (pPacket : Nat) (verdict : Nat → NtStatus)
    (calls : List Call) {xs : List Nat} (hxs : ∀ i ∈ xs, (s.context i).requestCallback = true)
    : let called := Chain.callWhile NtStatus.success
        (fun i => (verdict i, [Call.requestCallback i pPacket])) xs
      overList (injectBody s pPacket verdict) id (NtStatus.success, calls) xs =
        (called.1, calls ++ called.2) := by
  induction xs generalizing calls with
  | nil => simp [overList]
  | cons x xs ih =>
    obtain ⟨hx, hxs⟩ := List.forall_mem_cons.mp hxs
    by_cases hverdict : verdict x = NtStatus.success
    . have hbody : injectBody s pPacket verdict (NtStatus.success, calls) x =
          .goOn (NtStatus.success, calls ++ [.requestCallback x pPacket]) := by
        simp [injectBody, hx, hverdict]
      rw [overList, hbody, Chain.callWhile_cons_good _ _ hverdict]
      simp [ih _ hxs]
    . have hbody : injectBody s pPacket verdict (NtStatus.success, calls) x =
          .done (verdict x, calls ++ [.requestCallback x pPacket]) := by
        simp [injectBody, hx, hverdict]
      rw [overList, hbody, Chain.callWhile_cons_bad _ _ hverdict]

theorem overList_closeAdapterPackets (pAdapter : Nat) (packet : Nat → Packet) {xs : List Nat}
    : overList (closeAdapterPacketsBody pAdapter) id packet xs =
        fun p =>
          if p ∈ xs ∧ (packet p).pAdapter = some pAdapter then
            { packet p with pAdapter := none }
          else
            packet p := by
  induction xs generalizing packet with
  | nil => simp [overList]
  | cons x xs ih =>
    by_cases hx : (packet x).pAdapter = some pAdapter
    . have hbody : closeAdapterPacketsBody pAdapter packet x =
          .goOn (Function.update packet x { packet x with pAdapter := none }) := if_pos hx
      rw [overList, hbody]
      simp only [ih]
      funext p
      by_cases hp : p = x
      . subst hp
        simp [hx]
      . simp [hp]
    . have hbody : closeAdapterPacketsBody pAdapter packet x = .goOn packet := if_neg hx
      rw [overList, hbody]
      simp only [ih]
      funext p
      by_cases hp : p = x
      . subst hp
        simp [hx]
      . simp [hp]

theorem foldl_unInitializeBody (s : State Memory) (t : State Lists) (hcontext : s.context = t.context)
    (calls : List Call) (xs : List Nat)
    : xs.foldl (unInitializeBody s) calls = calls ++ xs.flatMap (unloadCalls t) := by
  induction xs generalizing calls with
  | nil => simp
  | cons x xs ih =>
    rw [List.foldl_cons, ih, List.flatMap_cons, ← List.append_assoc]
    congr 1
    simp only [unInitializeBody, unloadCalls, hcontext]
    split
    . simp
    . simp

/-! ### One event -/

namespace Represents

variable {s : State Memory} {t : State Lists} (h : Represents s t)
include h

theorem walks_iff {σ : Type} {head : ListHead} {body : σ → Nat → Loop.Turn σ σ} {start result : σ}
    : Walks s head body start result ↔ result = overList body id start (t.lists.of head) := by
  have hends := ListEntry.ends_walk_head body id h.family head start
  constructor
  . exact fun hwalk => Option.some.inj (hwalk.unique hends)
  . rintro rfl
    exact hends

omit h in
theorem not_mem_of_fresh {address : Nat} (hfresh : Fresh t address) (head : ListHead)
    : address ∉ t.lists.of head := by
  cases head with
  | fltInstancesList => exact hfresh.1
  | packetsList => exact hfresh.2

theorem setPacket (pPacket : Nat) (packet : Packet)
    : Represents (setPacket s pPacket packet) (setPacket t pPacket packet) where
  family := h.family
  context := h.context
  packet := by
    rw [Registry.setPacket, Registry.setPacket, h.packet]
  requestCallback := h.requestCallback

theorem register {pContext : RegistrationContext} (hcallback : pContext.requestCallback = true)
    {pInstance : Nat} (hfresh : Fresh t pInstance)
    : Represents
        { s with
          lists := s.lists.insertHeadList .fltInstancesList pInstance
          context := Function.update s.context pInstance pContext }
        (register t pContext (some pInstance)).1 where
  family := by
    rw [Registry.register, Lists.of_fltInstancesList]
    exact h.family.insertHeadList (not_mem_of_fresh hfresh)
  context := congrArg (fun context => Function.update context pInstance pContext) h.context
  packet := h.packet
  requestCallback := by
    have hold : ∀ i ∈ t.lists.fltInstancesList,
        (Function.update t.context pInstance pContext i).requestCallback = true := by
      intro i hi
      have hne : i ≠ pInstance := by
        rintro rfl
        exact hfresh.1 hi
      rw [Function.update_of_ne hne]
      exact h.requestCallback i hi
    have hself : Function.update t.context pInstance pContext pInstance = pContext :=
      Function.update_self pInstance pContext t.context
    exact List.forall_mem_cons.mpr
      ⟨(congrArg RegistrationContext.requestCallback hself).trans hcallback, hold⟩

theorem fltDeregisterCallbacks {pInstance : Nat} (hmem : pInstance ∈ t.lists.fltInstancesList)
    : Represents { s with lists := s.lists.removeEntryList pInstance }
        (listsStep t (.fltDeregisterCallbacks pInstance)).1 where
  family := by
    rw [listsStep, Lists.of_fltInstancesList]
    exact h.family.removeEntryList (i := .fltInstancesList) hmem
  context := h.context
  packet := h.packet
  requestCallback := fun i hi => h.requestCallback i (List.mem_of_mem_erase hi)

theorem createPacket {pPacket : Nat} (hfresh : Fresh t pPacket) (pAdapter : Nat)
    : Represents (createPacket s pPacket pAdapter).1 (listsStep t (.createPacket pPacket pAdapter)).1 := by
  have hset := h.setPacket pPacket ⟨1, some pAdapter⟩
  refine { hset with family := ?_ }
  rw [listsStep, Lists.of_packetsList]
  exact hset.family.insertTailList (not_mem_of_fresh hfresh)

theorem freePacket {pPacket : Nat} (hmem : pPacket ∈ t.lists.packetsList)
    : Represents (freePacket s pPacket).1 (listsStep t (.freePacket pPacket)).1 := by
  refine { h with family := ?_ }
  rw [listsStep, Lists.of_packetsList]
  exact h.family.removeEntryList (i := .packetsList) hmem

theorem ends_inject {pInstance : Option Nat}
    (hmem : ∀ i, pInstance = some i → i ∈ t.lists.fltInstancesList) (pPacket : Nat)
    (verdict : Nat → NtStatus)
    : Loop.Ends (s.lists.walkTurn .fltInstancesList (injectBody s pPacket verdict) id)
        (injectEntry s pInstance, NtStatus.success, [])
        (some (Chain.callWhile NtStatus.success
          (fun i => (verdict i, [Call.requestCallback i pPacket]))
          (Chain.after pInstance t.lists.fltInstancesList))) := by
  have hcallback : ∀ i ∈ t.lists.fltInstancesList, (s.context i).requestCallback = true := by
    rw [h.context]
    exact h.requestCallback
  cases pInstance with
  | none =>
    have hends := ListEntry.ends_walk_head (injectBody s pPacket verdict) id h.family
      .fltInstancesList (NtStatus.success, [])
    rw [Lists.of, overList_injectBody s pPacket verdict [] hcallback] at hends
    exact hends
  | some i =>
    obtain ⟨as, bs, hlist⟩ := List.append_of_mem (hmem i rfl)
    have hnot : i ∉ as := by
      have hnodup := h.family.nodup .fltInstancesList
      rw [Lists.of, hlist, List.nodup_middle] at hnodup
      exact fun hi => (List.nodup_cons.mp hnodup).1 (List.mem_append_left bs hi)
    have hends := ListEntry.ends_walk_entry (injectBody s pPacket verdict) id h.family
      (i := .fltInstancesList) hlist (NtStatus.success, [])
    rw [overList_injectBody s pPacket verdict []] at hends
    . rw [hlist, Chain.after_some_append hnot]
      exact hends
    . intro j hj
      apply hcallback
      rw [hlist]
      exact List.mem_append_right as (List.mem_cons_of_mem i hj)

theorem fltRegisterCallbacks (ppInstance : Bool) (pContext : Option RegistrationContext)
    {memory : Option Nat} (hfresh : ∀ pInstance, memory = some pInstance → Fresh t pInstance)
    : let done := fltRegisterCallbacks s ppInstance pContext memory
      let listed := listsStep t (.fltRegisterCallbacks ppInstance pContext memory)
      done.2 = listed.2 ∧ Represents done.1 listed.1 := by
  cases ppInstance with
  | false => exact ⟨rfl, h⟩
  | true =>
    cases pContext with
    | none => exact ⟨rfl, h⟩
    | some pContext =>
      cases hcallback : pContext.requestCallback with
      | false =>
        simp only [Registry.fltRegisterCallbacks, listsStep, hcallback]
        exact ⟨rfl, h⟩
      | true =>
        simp only [Registry.fltRegisterCallbacks, listsStep, hcallback]
        cases memory with
        | none => exact ⟨rfl, h⟩
        | some pInstance => exact ⟨rfl, h.register hcallback (hfresh pInstance rfl)⟩

theorem closeAdapterPackets (pAdapter : Nat)
    : Represents
        { s with packet := overList (closeAdapterPacketsBody pAdapter) id s.packet t.lists.packetsList }
        (closeAdapterPackets t pAdapter) := by
  refine { h with packet := ?_ }
  rw [overList_closeAdapterPackets, h.packet]
  rfl

theorem unInitializeInstances
    : ∃ lists,
        Loop.Ends (Links.drainTurn .fltInstancesList (unInitializeBody s)) (s.lists, [])
            (some (lists, t.lists.fltInstancesList.flatMap (unloadCalls t))) ∧
          Represents { s with lists := lists } (listsStep t .unInitializeInstances).1 := by
  obtain ⟨lists, hends, hfamily⟩ :=
    ListEntry.ends_drain h.family .fltInstancesList (unInitializeBody s) []
  rw [foldl_unInitializeBody s t h.context, List.nil_append] at hends
  refine ⟨lists, hends, ?_, h.context, h.packet, ?_⟩
  . rw [listsStep, Lists.of_fltInstancesList]
    exact hfamily
  . intro i hi
    cases hi

theorem unInitializePacket
    : ∃ s', unInitializePacket s = some (s', (listsStep t .unInitializePacket).2) ∧
        Represents s' (listsStep t .unInitializePacket).1 := by
  have hof : t.lists.of .packetsList = t.lists.packetsList := rfl
  cases hlist : t.lists.packetsList with
  | nil =>
    have hremoved := h.family.removeHeadList_nil (i := .packetsList) hlist
    refine ⟨s, ?_, ?_⟩
    . simp [Registry.unInitializePacket, hremoved, listsStep, hlist]
    . refine { h with family := ?_ }
      rw [listsStep, hlist, List.tail_nil, ← hlist]
      exact h.family
  | cons p ps =>
    have hremoved := h.family.removeHeadList_cons (i := .packetsList) hlist
    have hmem : p ∈ t.lists.packetsList := by
      rw [hlist]
      exact List.mem_cons_self
    have hsame : (listsStep t .unInitializePacket).1 = (listsStep t (.freePacket p)).1 := by
      simp [listsStep, hlist]
    rw [hsame]
    refine ⟨_, ?_, h.freePacket hmem⟩
    simp [Registry.unInitializePacket, hremoved, listsStep, hlist, Registry.freePacket]

end Represents

theorem follows_lists : Simulation.Follows listsStep Performs Represents Allowed := by
  intro s t e h hallowed
  cases e with
  | fltRegisterCallbacks ppInstance pContext memory =>
    obtain ⟨hresult, hstate⟩ := h.fltRegisterCallbacks ppInstance pContext hallowed
    exact ⟨_, fun o => by rw [← hresult]; exact Iff.rfl, hstate⟩
  | fltDeregisterCallbacks pInstance => exact ⟨_, fun o => Iff.rfl, h.fltDeregisterCallbacks hallowed⟩
  | fltInjectRequest pInstance pPacket verdict =>
    have hends := h.ends_inject hallowed.1 pPacket verdict
    refine ⟨s, ?_, h⟩
    intro o
    rw [listsStep, Ansfltr.fltInjectRequest]
    constructor
    . rintro ⟨called, hcalled, rfl⟩
      obtain rfl := Option.some.inj (hcalled.unique hends)
      split
      . next hsuccess => simp [hsuccess]
      . simp
    . rintro rfl
      refine ⟨_, hends, ?_⟩
      split
      . next hsuccess => simp [hsuccess]
      . simp
  | createPacket pPacket pAdapter => exact ⟨_, fun o => Iff.rfl, h.createPacket hallowed pAdapter⟩
  | fltCloneRequest pPacket =>
    refine ⟨_, fun o => Iff.rfl, ?_⟩
    rw [fltCloneRequest, h.packet]
    exact h.setPacket _ _
  | fltFreeCloneRequest pPacket =>
    refine ⟨_, fun o => Iff.rfl, ?_⟩
    rw [decrementReferences, h.packet]
    exact h.setPacket _ _
  | freePacket pPacket => exact ⟨_, fun o => Iff.rfl, h.freePacket hallowed.1⟩
  | openAdapter pAdapter =>
    refine ⟨s, ?_, h⟩
    intro o
    have hbody : ∀ calls i, openAdapterBody s pAdapter calls i = .goOn
        (if (t.context i).openAdapterCallback then calls ++ [.openAdapterCallback i pAdapter]
        else calls) := by
      intro calls i
      rw [openAdapterBody, h.context, apply_ite Loop.Turn.goOn]
    simp only [Performs, h.walks_iff, overList_filter _ _ hbody, exists_eq_left]
    rfl
  | closeAdapterPackets pAdapter =>
    refine ⟨_, ?_, h.closeAdapterPackets pAdapter⟩
    intro o
    simp only [Performs, h.walks_iff, exists_eq_left]
    rfl
  | closeAdapterInstances pAdapter =>
    refine ⟨s, ?_, h⟩
    intro o
    have hbody : ∀ calls i, closeAdapterBody s pAdapter calls i = .goOn
        (if (t.context i).closeAdapterCallback then calls ++ [.closeAdapterCallback i pAdapter]
        else calls) := by
      intro calls i
      rw [closeAdapterBody, h.context, apply_ite Loop.Turn.goOn]
    simp only [Performs, h.walks_iff, overList_filter _ _ hbody, exists_eq_left]
    rfl
  | unInitializeInstances =>
    obtain ⟨lists, hends, hstate⟩ := h.unInitializeInstances
    refine ⟨_, ?_, hstate⟩
    intro o
    constructor
    . rintro ⟨lists', calls, hends', rfl⟩
      obtain ⟨rfl, rfl⟩ := Prod.mk.inj (Option.some.inj (hends'.unique hends))
      rfl
    . rintro rfl
      exact ⟨lists, _, hends, rfl⟩
  | unInitializePacket =>
    obtain ⟨s', hremoved, hstate⟩ := h.unInitializePacket
    refine ⟨s', ?_, hstate⟩
    intro o
    rw [Performs, hremoved]
    exact ⟨fun heq => (Option.some.inj heq).symm, fun heq => congrArg some heq.symm⟩

def initLists (context : Nat → RegistrationContext) (packet : Nat → Packet) : State Lists :=
  ⟨⟨[], []⟩, context, packet⟩

theorem represents_initializeANSfltr (s : State Memory)
    : Represents (initializeANSfltr s) (initLists s.context s.packet) where
  family := by
    have hof : (initLists s.context s.packet).lists.of = fun _ => [] := by
      funext head
      cases head <;> rfl
    rw [hof]
    have hheads : ∀ head : ListHead, head ∈ [ListHead.fltInstancesList, .packetsList] := by
      intro head
      cases head <;> simp
    exact Family.of_initializeListHead (l := s.lists) _ hheads
  context := rfl
  packet := rfl
  requestCallback := by
    intro i hi
    cases hi

/--
Whatever was in memory, and whatever the events after `InitializeANSfltr`: every loop ends, what is called
and returned is what the lists say, and nothing else can happen.
-/
theorem lists_run (s : State Memory) {es : List Event}
    (hes : Run.Along (Simulation.next listsStep) Allowed (initLists s.context s.packet) es)
    : ∃ s', (∀ results s'', Simulation.Performed Performs (initializeANSfltr s) es results s'' ↔
          results = Simulation.outputs listsStep (initLists s.context s.packet) es ∧ s'' = s') ∧
        Represents s' (Run.run (Simulation.next listsStep) (initLists s.context s.packet) es) :=
  Simulation.performed_iff listsStep follows_lists (represents_initializeANSfltr s) hes

def someMemory : State Memory :=
  ⟨⟨id, id⟩, fun _ => ⟨false, false, false, false⟩, fun _ => ⟨0, none⟩⟩

-- Two instances. The first one keeps the packet, injects it behind itself and gives it back; what the
-- second one still has goes with the list.
def twoInstances : List Event := [
  .fltRegisterCallbacks true (some ⟨true, true, true, true⟩) (some 1),
  .fltRegisterCallbacks true (some ⟨true, false, true, false⟩) (some 2),
  .openAdapter 7,
  .createPacket 10 7,
  .createPacket 11 7,
  .fltCloneRequest 10,
  .fltInjectRequest none 10 (fun i => if i = 2 then NtStatus.unsuccessful else NtStatus.success),
  .fltFreeCloneRequest 10,
  .closeAdapterPackets 7,
  .closeAdapterInstances 7,
  .fltInjectRequest (some 2) 10 (fun _ => NtStatus.success),
  .fltFreeCloneRequest 10,
  .freePacket 10,
  .fltDeregisterCallbacks 2,
  .unInitializeInstances,
  .unInitializePacket,
  .unInitializePacket]

theorem along_twoInstances
    : Run.Along (Simulation.next listsStep) Allowed (initLists someMemory.context someMemory.packet)
        twoInstances := by
  simp [twoInstances, Simulation.next, listsStep, Allowed, Fresh, initLists, register, setPacket,
    fltCloneRequest, decrementReferences, closeAdapterPackets]

theorem lists_twoInstances
    : ∃ s', (∀ results s'',
          Simulation.Performed Performs (initializeANSfltr someMemory) twoInstances results s'' ↔
            results = Simulation.outputs listsStep (initLists someMemory.context someMemory.packet)
              twoInstances ∧ s'' = s') ∧
        Represents s' (Run.run (Simulation.next listsStep)
          (initLists someMemory.context someMemory.packet) twoInstances) :=
  lists_run someMemory along_twoInstances

end Ansfltr.Registry
