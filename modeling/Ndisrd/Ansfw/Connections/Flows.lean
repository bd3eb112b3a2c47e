import Ndisrd.Ansfw.Connections.Attribution

/-!
This module contains the life of a flow: whether the record that an authorize-connect event registers is
the one that the flow takes as its context and removes with itself.
-/

namespace Ansfw

structure WfpInv (s : WfpState) : Prop where
  ordered : Ordered s.connections
  addresses : (s.connections.map Connection.address).Nodup
  handles : (s.flows.map Prod.fst).Nodup

theorem wfpInv_empty : WfpInv WfpState.empty := by
  refine ⟨?_, ?_, ?_⟩
  . exact List.Pairwise.nil
  . exact List.nodup_nil
  . exact List.nodup_nil

theorem WfpInv.register {s : WfpState} (h : WfpInv s) {allocated : Nat}
    (hfresh : allocated ∉ s.connections.map Connection.address) (pid : Nat) (t : FiveTuple)
    : WfpInv { s with connections := (addConnection (some allocated) pid t s.connections).2 } := by
  refine ⟨?_, ?_, h.handles⟩
  . exact ordered_addConnection h.ordered (some allocated) pid t
  . apply nodup_addConnection h.addresses
    intro address heq
    cases heq
    exact hfresh

theorem WfpInv.flowEstablished {s : WfpState} (h : WfpInv s) (v : AleValues) {flowHandle : Option Nat}
    (hfresh : ∀ handle, flowHandle = some handle → handle ∉ s.flows.map Prod.fst)
    : WfpInv (aleFlowEstablishedV4Classify s v flowHandle) := by
  unfold aleFlowEstablishedV4Classify
  split
  next r handle _ =>
    exact ⟨h.ordered, h.addresses, List.nodup_cons.mpr ⟨hfresh handle rfl, h.handles⟩⟩
  next => exact h

theorem WfpInv.flowDelete {s : WfpState} (h : WfpInv s) (flowHandle : Nat)
    : WfpInv (aleFlowEstablishedV4Delete s flowHandle) := by
  unfold aleFlowEstablishedV4Delete
  split
  next flow _ =>
    refine ⟨?_, ?_, ?_⟩
    . exact ordered_removeConnection h.ordered flow.2
    . exact h.addresses.sublist ((removeConnection_sublist _ _).map _)
    . exact h.handles.sublist (List.erase_sublist.map _)
  next => exact h

theorem wfpInv_step (s : WfpState) (e : WfpEvent) (h : WfpInv s) (he : e.Allowed s)
    : WfpInv (wfpStep s e) := by
  cases e with
  | resourceAssignment v allocated => exact h.register he v.pid v.localTuple
  | authConnect v allocated => exact h.register he v.pid v.tuple
  | flowEstablished v flowHandle => exact h.flowEstablished v he
  | flowDelete flowHandle => exact h.flowDelete flowHandle

theorem wfpInv_run {es : List WfpEvent}
    (hes : Run.Along wfpStep (fun s e => e.Allowed s) WfpState.empty es)
    : WfpInv (Run.run wfpStep WfpState.empty es) := Run.inv_run wfpInv_step wfpInv_empty hes

/-! ### The context of a flow -/

theorem find_flow {flows : List (Nat × Nat)} (h : (flows.map Prod.fst).Nodup) {flow : Nat × Nat}
    (hflow : flow ∈ flows)
    : flows.find? (fun f => f.1 == flow.1) = some flow := by
  cases hfind : flows.find? (fun f => f.1 == flow.1) with
  | some f =>
    have hf := List.find?_some hfind
    have hmem := List.mem_of_find?_eq_some hfind
    rw [List.inj_on_of_nodup_map h hmem hflow (by simpa using hf)]
  | none =>
    have := List.find?_eq_none.mp hfind flow hflow
    simp at this

theorem flow_mem_flowEstablished {flow : Nat × Nat} {s : WfpState} (h : flow ∈ s.flows)
    (v : AleValues) (flowHandle : Option Nat)
    : flow ∈ (aleFlowEstablishedV4Classify s v flowHandle).flows := by
  unfold aleFlowEstablishedV4Classify
  split
  . exact List.mem_cons_of_mem _ h
  . exact h

theorem flow_mem_flowDelete {flow : Nat × Nat} {s : WfpState} (h : flow ∈ s.flows)
    {flowHandle : Nat} (hne : flow.1 ≠ flowHandle)
    : flow ∈ (aleFlowEstablishedV4Delete s flowHandle).flows := by
  unfold aleFlowEstablishedV4Delete
  split
  next f hfind =>
    have hf : f.1 = flowHandle := by simpa using List.find?_some hfind
    apply (List.mem_erase_of_ne ?_).mpr h
    intro heq
    rw [heq] at hne
    exact hne hf
  next => exact h

theorem flow_mem_step {flow : Nat × Nat} (s : WfpState) (e : WfpEvent) (h : flow ∈ s.flows)
    (he : e ≠ .flowDelete flow.1)
    : flow ∈ (wfpStep s e).flows := by
  cases e with
  | resourceAssignment v allocated => exact h
  | authConnect v allocated => exact h
  | flowEstablished v flowHandle => exact flow_mem_flowEstablished h v flowHandle
  | flowDelete flowHandle =>
    apply flow_mem_flowDelete h
    intro heq
    exact he (by rw [heq])

theorem flow_mem_run {flow : Nat × Nat} {s : WfpState} {es : List WfpEvent} (h : flow ∈ s.flows)
    (hes : ∀ e ∈ es, e ≠ .flowDelete flow.1)
    : flow ∈ (Run.run wfpStep s es).flows := by
  have hstep : ∀ s e, flow ∈ s.flows → e ≠ .flowDelete flow.1 → flow ∈ (wfpStep s e).flows :=
    flow_mem_step
  exact @Run.inv_run _ _ wfpStep (fun s => flow ∈ s.flows) _ hstep s es h
    (Run.along_of_forall wfpStep hes)

theorem not_mem_flowDelete {s : WfpState} (h : WfpInv s) {flow : Nat × Nat} (hflow : flow ∈ s.flows)
    : flow.2 ∉ (wfpStep s (.flowDelete flow.1)).connections.map Connection.address := by
  have hstep : wfpStep s (.flowDelete flow.1) = aleFlowEstablishedV4Delete s flow.1 := rfl
  rw [hstep]
  unfold aleFlowEstablishedV4Delete
  rw [find_flow h.handles hflow]
  exact not_mem_removeConnection h.addresses flow.2

/-! ### From the authorization to the end of the flow -/

/--
Right after the authorization of a connection, its flow finds the record that was registered, with the
pid that was registered. Whatever happens before the flow is deleted, its deletion takes the record out.
-/
def FlowOwnsRecord (s : WfpState) (v : AleValues) (allocated flowHandle : Nat) : Prop :=
  let s' := wfpStep s (.authConnect v allocated)
  ∃ r, getConnection v.tuple s'.connections = some r ∧ r.pid = v.pid ∧
    (addConnection (some allocated) v.pid v.tuple s.connections).1 = some r.address ∧
    ∀ es, (∀ e ∈ es, e ≠ .flowDelete flowHandle) →
      Run.Along wfpStep (fun s e => e.Allowed s) s' (.flowEstablished v (some flowHandle) :: es) →
      r.address ∉ (wfpStep (Run.run wfpStep s' (.flowEstablished v (some flowHandle) :: es))
        (.flowDelete flowHandle)).connections.map Connection.address

theorem flowOwnsRecord_of_getConnection {s : WfpState} (h : WfpInv s) {v : AleValues}
    {allocated : Nat} (hfresh : allocated ∉ s.connections.map Connection.address) (flowHandle : Nat)
    {r : Connection}
    (hget : getConnection v.tuple (addConnection (some allocated) v.pid v.tuple s.connections).2 =
      some r)
    (hpid : r.pid = v.pid)
    (hptr : (addConnection (some allocated) v.pid v.tuple s.connections).1 = some r.address)
    : FlowOwnsRecord s v allocated flowHandle := by
  refine ⟨r, hget, hpid, hptr, ?_⟩
  intro es hes halong
  have hflow : (flowHandle, r.address) ∈
      (wfpStep (wfpStep s (.authConnect v allocated)) (.flowEstablished v (some flowHandle))).flows := by
    have hget' : getConnection v.tuple (wfpStep s (.authConnect v allocated)).connections = some r :=
      hget
    have hstep : ∀ s, wfpStep s (.flowEstablished v (some flowHandle)) =
        aleFlowEstablishedV4Classify s v (some flowHandle) := fun _ => rfl
    rw [hstep]
    unfold aleFlowEstablishedV4Classify
    rw [hget']
    exact List.mem_cons_self
  have hinv : WfpInv (wfpStep s (.authConnect v allocated)) :=
    wfpInv_step s (.authConnect v allocated) h hfresh
  have hmem := flow_mem_run hflow hes
  have hgone := not_mem_flowDelete (Run.inv_run wfpInv_step hinv halong) hmem
  exact hgone

theorem flowOwnsRecord_iff (es : List WfpEvent)
    (hes : Run.Along wfpStep (fun s e => e.Allowed s) WfpState.empty es) (v : AleValues)
    (allocated : Nat)
    (hauth : (WfpEvent.authConnect v allocated).Allowed (Run.run wfpStep WfpState.empty es))
    (flowHandle : Nat)
    : FlowOwnsRecord (Run.run wfpStep WfpState.empty es) v allocated flowHandle ↔
        ∀ b, (Run.run wfpStep WfpState.empty es).connections.find? (Connection.binds v.tuple) = some b →
          b.localAddr = v.tuple.localAddr := by
  have hinv := wfpInv_run hes
  generalize Run.run wfpStep WfpState.empty es = s at hinv hauth ⊢
  rcases Passes.find_cases (Connection.binds v.tuple) s.connections with
    hnone | ⟨b, as, bs, heq, hb, has, hfind⟩
  . rw [List.find?_eq_none.mpr hnone]
    have hadd : addConnection (some allocated) v.pid v.tuple s.connections =
        (some allocated, Connection.create allocated v.pid v.tuple :: s.connections) := by
      unfold addConnection
      rw [updateConnection_eq_none hnone]
    refine ⟨fun _ b hb => by (cases hb), fun _ => ?_⟩
    apply flowOwnsRecord_of_getConnection hinv hauth flowHandle
      (r := Connection.create allocated v.pid v.tuple)
    . rw [hadd]
      exact List.find?_cons_of_pos (Connection.getpid1_create allocated v.pid v.tuple)
    . rfl
    . rw [hadd]
      rfl
  . rw [hfind]
    have hadd : addConnection (some allocated) v.pid v.tuple s.connections =
        (some b.address, as ++ b.rewrite v.pid v.tuple :: bs) := by
      rw [heq, addConnection_append (some allocated) v.pid has hb]
    constructor
    . rintro ⟨r, hget, _, hptr, _⟩ c hc
      cases hc
      have hget' : getConnection v.tuple (as ++ b.rewrite v.pid v.tuple :: bs) = some r := by
        have hconn : (wfpStep s (.authConnect v allocated)).connections =
            (addConnection (some allocated) v.pid v.tuple s.connections).2 := rfl
        rw [hconn, hadd] at hget
        exact hget
      rw [hadd] at hptr
      -- the address tells that what was found is what was rewritten
      have haddresses : ((as ++ b.rewrite v.pid v.tuple :: bs).map Connection.address).Nodup := by
        have := hinv.addresses
        rw [heq] at this
        simpa using this
      have hr : r = b.rewrite v.pid v.tuple := by
        apply List.inj_on_of_nodup_map haddresses
        . exact List.mem_of_find?_eq_some hget'
        . exact List.mem_append_right _ List.mem_cons_self
        . exact (Option.some.inj hptr).symm
      have hexact := List.find?_some hget'
      rw [hr, Connection.getpid1_rewrite hb] at hexact
      exact hexact
    . intro haddr
      have hordered : Ordered (as ++ b :: bs) := by
        rw [← heq]
        exact hinv.ordered
      apply flowOwnsRecord_of_getConnection hinv hauth flowHandle (r := b.rewrite v.pid v.tuple)
      . rw [hadd]
        exact getConnection_rewritten hordered hb (haddr b rfl)
      . rfl
      . rw [hadd]
        rfl

-- Two processes have bound sockets to a port of one address each, and the second one connects its own.
def boundSockets : List WfpEvent :=
  [.resourceAssignment ⟨11, 11, 6, 0x7F000001, 81, 0, 0⟩ 1,
    .resourceAssignment ⟨10, 10, 6, 0x7F000001, 80, 0, 0⟩ 2]

theorem flowOwnsRecord_boundSockets
    : FlowOwnsRecord (Run.run wfpStep WfpState.empty boundSockets)
        ⟨10, 10, 6, 0x7F000001, 80, 0x7F000002, 443⟩ 3 4 := by
  let v : AleValues := ⟨10, 10, 6, 0x7F000001, 80, 0x7F000002, 443⟩
  have halong : Run.Along wfpStep (fun s e => e.Allowed s) WfpState.empty boundSockets := by
    refine ⟨List.not_mem_nil, ?_, trivial⟩
    unfold WfpEvent.Allowed
    decide
  have hbinding : ((Run.run wfpStep WfpState.empty boundSockets).connections.find?
      (Connection.binds v.tuple)).map Connection.localAddr = some v.tuple.localAddr := by decide
  apply (flowOwnsRecord_iff boundSockets halong v 3 ?_ 4).mpr
  . intro b hb
    rw [hb] at hbinding
    exact Option.some.inj hbinding
  . unfold WfpEvent.Allowed
    decide

/--
A process binds its socket to every local address and connects it. The table holds the one record of it,
and no flow finds that.
-/
theorem getConnection_of_wildcard_binding
    : let bound : AleValues := ⟨10, 10, 6, 0, 80, 0, 0⟩
      let v : AleValues := ⟨10, 10, 6, 0x7F000001, 80, 0x7F000002, 443⟩
      let s := wfpStep WfpState.empty (.resourceAssignment bound 1)
      Run.Along wfpStep (fun s e => e.Allowed s) WfpState.empty
          [.resourceAssignment bound 1, .authConnect v 2] ∧
        (wfpStep s (.authConnect v 2)).connections.length = 1 ∧
        getConnection v.tuple (wfpStep s (.authConnect v 2)).connections = none ∧
        ¬FlowOwnsRecord s v 2 3 := by
  refine ⟨⟨List.not_mem_nil, ?_, trivial⟩, ?_, ?_, ?_⟩
  . simp [WfpEvent.Allowed, wfpStep, aleResourceAssignmentV4Classify, WfpState.empty, addConnection,
      updateConnection]
  . decide
  . decide
  . rintro ⟨r, hget, _⟩
    have hnone : getConnection (AleValues.tuple ⟨10, 10, 6, 0x7F000001, 80, 0x7F000002, 443⟩)
        (wfpStep (wfpStep WfpState.empty (.resourceAssignment ⟨10, 10, 6, 0, 80, 0, 0⟩ 1))
          (.authConnect ⟨10, 10, 6, 0x7F000001, 80, 0x7F000002, 443⟩ 2)).connections = none := by
      decide
    rw [hnone] at hget
    cases hget

end Ansfw
