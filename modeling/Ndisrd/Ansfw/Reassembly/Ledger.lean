import Mathlib.Data.Multiset.AddSub
import Mathlib.Algebra.Order.Group.Multiset
import Mathlib.Algebra.BigOperators.Group.Multiset.Basic
import Mathlib.Tactic.Abel
import Ndisrd.Ansfw.Reassembly.Overrun

/-!
This module contains the ledger of the reassembly: where each request handed to `ReassemblePacket` is,
and exactly when `Analyze` loses one.
-/

namespace Ansfw

def fragmentsOf (ds : List DataList) : Multiset FwRequest :=
  (ds.map fun d => (d.fragmentsList : Multiset FwRequest)).sum

@[simp]
theorem fragmentsOf_nil : fragmentsOf [] = 0 := rfl

@[simp]
theorem fragmentsOf_cons (d : DataList) (ds : List DataList)
    : fragmentsOf (d :: ds) = (d.fragmentsList : Multiset FwRequest) + fragmentsOf ds := by
  simp [fragmentsOf]

@[simp]
theorem fragmentsOf_append (ds ds' : List DataList)
    : fragmentsOf (ds ++ ds') = fragmentsOf ds + fragmentsOf ds' := by
  simp [fragmentsOf]

theorem fragmentsOf_flatMap (ds : List DataList)
    : fragmentsOf ds = (ds.flatMap DataList.fragmentsList : Multiset FwRequest) := by
  induction ds with
  | nil => rfl
  | cons d ds ih => simp [ih]

theorem fragmentsOf_perm {ds ds' : List DataList}
    (h : (ds.map DataList.eraseTtl).Perm (ds'.map DataList.eraseTtl))
    : fragmentsOf ds = fragmentsOf ds' := by
  have herase : ∀ l : List DataList, fragmentsOf (l.map DataList.eraseTtl) = fragmentsOf l := by
    intro l
    simp only [fragmentsOf, List.map_map]
    rfl
  rw [← herase ds, ← herase ds', fragmentsOf, fragmentsOf]
  exact (h.map _).sum_eq

/--
The requests in the care of the reassembly or already released: on the intermediate queue, on the
fragment list of a queued datagram or of one the clients hold, or passed to `FWFreeCloneRequest`.
-/
def accounted (s : Reassembly) : Multiset FwRequest :=
  (s.intermedQueue : Multiset FwRequest) + fragmentsOf s.datagrQueue + fragmentsOf s.delivered +
    (s.released : Multiset FwRequest)

theorem fragmentsList_le_accounted {s : Reassembly} {d : DataList} (h : d ∈ s.datagrQueue)
    : (d.fragmentsList : Multiset FwRequest) ≤ accounted s := by
  obtain ⟨before, after, heq⟩ := List.append_of_mem h
  simp only [accounted, heq, fragmentsOf_append, fragmentsOf_cons]
  rw [Multiset.le_iff_exists_add]
  refine ⟨(s.intermedQueue : Multiset FwRequest) + fragmentsOf before + fragmentsOf after +
    fragmentsOf s.delivered + (s.released : Multiset FwRequest), ?_⟩
  abel

/--
What it takes for `Analyze` not to lose a request: no IP options, and for a queued datagram a fragment
that fits or is the very first one, for a new datagram a fragment that fits and a work buffer.
-/
def Kept (env : Env) (s : Reassembly) (r : FwRequest) : Prop :=
  (fragHdr r).ipHeaderSize ≤ 20 ∧
    (¬Unqueued s r →
      ((fragHdr r).moreFragments = true ∧ (fragHdr r).offset = 0) ∨
        (fragHdr r).offset * 8 + (fragHdr r).fullLength ≤ workBufSize) ∧
    (Unqueued s r →
      (fragHdr r).offset * 8 + (fragHdr r).fullLength ≤ workBufSize ∧ CanAlloc env s)

theorem kept_of_existingOps {env : Env} {s : Reassembly} {r : FwRequest} {ops : List MemOp}
    (hhdr : (fragHdr r).ipHeaderSize ≤ 20) (hq : ¬Unqueued s r)
    (hops : existingOps (fragHdr r) = some ops) : Kept env s r := by
  refine ⟨hhdr, fun _ => ?_, fun h => absurd h hq⟩
  exact fits_of_existingOps hops

theorem accounted_freeDatagram (s : Reassembly) (d : DataList)
    : accounted (s.freeDatagram d) = accounted s + (d.fragmentsList : Multiset FwRequest) := by
  unfold Reassembly.freeDatagram
  simp only
  split
  . simp only [accounted, Reassembly.releaseFragments, Reassembly.ruleRecycleDatagramWorkBuffer,
      ← Multiset.coe_add]
    abel
  . simp only [accounted, fragmentsOf_append, fragmentsOf_cons, fragmentsOf_nil]
    abel

theorem accounted_analyze (env : Env) (s : Reassembly) (r : FwRequest)
    : ∃ gone, accounted s + {r} = accounted (analyze env s r).1 + gone ∧
        (gone = 0 ↔ Kept env s r) := by
  obtain ⟨s', ops, heq, hana⟩ := analyzed env s r
  rw [heq]
  cases hana with
  | options hhdr =>
    refine ⟨{r}, rfl, iff_of_false (Multiset.singleton_ne_zero r) ?_⟩
    intro hkept
    have := hkept.1
    omega
  | @oversize before d after hhdr hq hops =>
    refine ⟨r ::ₘ (d.fragmentsList : Multiset FwRequest), ?_,
      iff_of_false (Multiset.cons_ne_zero) ?_⟩
    . simp only [accounted, Reassembly.ruleRecycleDatagramWorkBuffer, hq.queue, fragmentsOf_append,
        fragmentsOf_cons, ← Multiset.singleton_add]
      abel
    . intro hkept
      obtain ⟨hfirst, hsize⟩ := (existingOps_eq_none _).mp hops
      rcases hkept.2.1 hq.not_unqueued with h | h
      . exact hfirst h
      . omega
  | added hhdr hq hops hcomplete =>
    refine ⟨0, ?_, iff_of_true rfl (kept_of_existingOps hhdr hq.not_unqueued hops)⟩
    simp only [accounted, hq.queue, fragmentsOf_append, fragmentsOf_cons, fragmentsList_addFragment,
      ← Multiset.cons_coe, ← Multiset.singleton_add]
    abel
  | completed hhdr hq hops hcomplete =>
    refine ⟨0, ?_, iff_of_true rfl (kept_of_existingOps hhdr hq.not_unqueued hops)⟩
    simp only [deliver, accounted_freeDatagram]
    simp only [accounted, hq.queue, fragmentsOf_append, fragmentsOf_cons, fragmentsList_assembled,
      fragmentsList_addFragment, ← Multiset.cons_coe, ← Multiset.singleton_add]
    abel
  | tooLong hhdr hq hsize =>
    refine ⟨{r}, rfl, iff_of_false (Multiset.singleton_ne_zero r) ?_⟩
    intro hkept
    have := (hkept.2.2 hq).1
    omega
  | noBuffer hhdr hq hsize halloc =>
    refine ⟨{r}, rfl, iff_of_false (Multiset.singleton_ne_zero r) ?_⟩
    intro hkept
    exact halloc (hkept.2.2 hq).2
  | created hhdr hq hsize halloc =>
    refine ⟨0, ?_, iff_of_true rfl ⟨hhdr, fun h => absurd hq h, fun _ => ⟨hsize, halloc⟩⟩⟩
    simp only [accounted, fragmentsOf_append, fragmentsOf_cons, fragmentsOf_nil,
      fragmentsList_newDatagram, Multiset.coe_singleton]
    abel

theorem accounted_ttlDecrementThreadFunc (s : Reassembly)
    : accounted (ttlDecrementThreadFunc s) = accounted s := by
  obtain ⟨kept, expired, hperm, heq⟩ := ttlDecrementThreadFunc_spec s
  rw [heq]
  simp only [accounted, fragmentsOf_perm hperm, fragmentsOf_append, ← Multiset.coe_add,
    ← fragmentsOf_flatMap]
  abel

theorem accounted_freeCloneRequest (s : Reassembly) (id : Nat)
    : accounted (freeCloneRequest s id) = accounted s := by
  have happ := List.takeWhile_append_dropWhile
    (p := fun d : DataList => decide (d.id ≠ id)) (l := s.delivered)
  unfold freeCloneRequest
  rw [List.span_eq_takeWhile_dropWhile]
  split
  . next before d after hspan =>
    injection hspan with hbefore hafter
    rw [hbefore, hafter] at happ
    rw [accounted_freeDatagram]
    simp only [accounted, ← happ, fragmentsOf_append, fragmentsOf_cons]
    abel
  . rfl

/-! ### Runs -/

def handedOver (es : List Event) : Multiset FwRequest :=
  ((es.filterMap fun e =>
    match e with
    | .reassemblePacket r => some r
    | _ => none : List FwRequest) : Multiset FwRequest)

theorem handedOver_cons (e : Event) (es : List Event)
    : handedOver (e :: es) = handedOver [e] + handedOver es := by
  cases e with
  | reassemblePacket r => rfl
  | _ => exact (zero_add _).symm

theorem accounted_step (s : Reassembly) (e : Event)
    : ∃ gone, accounted s + handedOver [e] = accounted (step s e) + gone ∧
        (gone = 0 ↔ OnAnalyze Kept s e) := by
  cases e with
  | reassemblePacket r =>
    refine ⟨0, ?_, iff_of_true rfl trivial⟩
    simp only [accounted, step, handedOver, List.filterMap_cons, List.filterMap_nil,
      ← Multiset.coe_add]
    abel
  | intermed env =>
    have hnone : handedOver [Event.intermed env] = 0 := rfl
    unfold step OnAnalyze
    simp only [hnone, add_zero]
    split
    . exact ⟨0, (add_zero _).symm, iff_of_true rfl trivial⟩
    . next r rest hq =>
      obtain ⟨gone, hana, hgone⟩ := accounted_analyze env { s with intermedQueue := rest } r
      refine ⟨gone, ?_, hgone⟩
      rw [← hana]
      simp only [accounted, hq, ← Multiset.cons_coe, ← Multiset.singleton_add]
      abel
  | ttlPass =>
    refine ⟨0, ?_, iff_of_true rfl trivial⟩
    rw [step, accounted_ttlDecrementThreadFunc]
    rfl
  | freeClone id =>
    refine ⟨0, ?_, iff_of_true rfl trivial⟩
    rw [step, accounted_freeCloneRequest]
    rfl

theorem accounted_run (s : Reassembly) (es : List Event)
    : ∃ gone, accounted s + handedOver es = accounted (Run.run step s es) + gone ∧
        (gone = 0 ↔ Run.Along step (OnAnalyze Kept) s es) := by
  induction es generalizing s with
  | nil => exact ⟨0, rfl, iff_of_true rfl trivial⟩
  | cons e es ih =>
    obtain ⟨gone, hstep, hgone⟩ := accounted_step s e
    obtain ⟨gone', hrun, hgone'⟩ := ih (step s e)
    refine ⟨gone + gone', ?_, ?_⟩
    . rw [handedOver_cons, ← add_assoc, hstep, Run.run_cons, ← add_assoc, add_right_comm, hrun]
      abel
    . have hzero : gone + gone' = 0 ↔ gone = 0 ∧ gone' = 0 := by
        simp only [← Multiset.card_eq_zero, Multiset.card_add]
        omega
      rw [Run.along_cons, hzero, hgone, hgone']

theorem forall_accounted_iff (es : List Event)
    : (∀ es', es' <+: es →
        accounted (Run.run step initializeReassembly es') = handedOver es') ↔
      Run.Along step (OnAnalyze Kept) initializeReassembly es := by
  have hrun : ∀ es', accounted (Run.run step initializeReassembly es') = handedOver es' ↔
      Run.Along step (OnAnalyze Kept) initializeReassembly es' := by
    intro es'
    obtain ⟨gone, heq, hgone⟩ := accounted_run initializeReassembly es'
    have hinit : accounted initializeReassembly = 0 := rfl
    rw [hinit, zero_add] at heq
    rw [← hgone, heq]
    exact left_eq_add
  constructor
  . intro h
    exact (hrun es).mp (h es (List.prefix_refl es))
  . intro h es' hpref
    obtain ⟨rest, hrest⟩ := hpref
    rw [hrun]
    rw [← hrest, Run.along_append] at h
    exact h.1

theorem exists_not_accounted (rs : Multiset FwRequest) : ∃ s, accounted s ≠ rs := by
  by_cases hrs : rs = 0
  . refine ⟨{ initializeReassembly with released := [greRequest 0 0 0 0] }, ?_⟩
    rw [hrs]
    exact Multiset.singleton_ne_zero _
  . exact ⟨initializeReassembly, Ne.symm hrs⟩

/--
Every request handed over is accounted for once at every moment of a run, whatever an overrun makes of the
lists, if and only if every call of `Analyze` meets the conditions of `Kept` and none overwrites what is
behind the work buffer.
-/
theorem run_accounted_iff (es : List Event)
    : (∀ behind es', es' <+: es →
        accounted (Run.run (stepIn behind) initializeReassembly es') = handedOver es') ↔
      Run.Along step (OnAnalyze fun env s r => Kept env s r ∧ ¬Overwrites env s r) initializeReassembly es := by
  have hboth := Run.along_and_iff step (OnAnalyze Kept) (OnAnalyze fun env s r => ¬Overwrites env s r)
    initializeReassembly es
  simp only [← onAnalyze_and_iff] at hboth
  rw [hboth, ← forall_accounted_iff]
  exact forall_behind_iff (P := fun es s => accounted s = handedOver es)
    (fun es env => exists_not_accounted _) es

theorem not_accounted_tooLong
    : ¬∀ behind es es', es' <+: es →
        accounted (Run.run (stepIn behind) initializeReassembly es') = handedOver es' := by
  intro h
  have hkept := (run_accounted_iff (analyzeOne (greRequest 0 42 28 0x1FFF))).mp fun behind => h behind _
  have hsize := (hkept.2.1.1.2.2 (fun d hd => by cases hd)).1
  revert hsize
  decide

end Ansfw
