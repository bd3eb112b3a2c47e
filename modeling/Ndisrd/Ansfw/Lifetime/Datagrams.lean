import Ndisrd.Ansfw.Reassembly.Ledger
import Ndisrd.Ansfw.Lifetime.Lemmas

/-!
This module contains the datagrams of the reassembly as requests with references: what `Verify` hands to
the clients owns its fragments, and releasing it does to the reassembly what its effects say.
-/

open ReqFlags

namespace Ansfw

namespace RequestObject

def ofRequest (r : FwRequest) : RequestObject := ⟨r.id, 1, r.reqFlags, false, []⟩

def ofDatagram (d : DataList) : RequestObject :=
  ⟨d.id, d.references, d.fwRequest.reqFlags, false, d.fragmentsList.map ofRequest⟩

end RequestObject

open RequestObject (ofRequest ofDatagram)

structure PlainRequest (r : FwRequest) : Prop where
  loopback : r.reqFlags.has loopback = false
  reassembled : r.reqFlags.has reassembled = false

theorem PlainRequest.fragment {r : FwRequest} (h : PlainRequest r) : PlainFragment (ofRequest r) :=
  ⟨rfl, h.loopback, h.reassembled⟩

structure PlainDatagram (d : DataList) : Prop where
  fragments : ∀ r ∈ d.fragmentsList, PlainRequest r
  loopback : d.fwRequest.reqFlags.has loopback = false

theorem reqFlags_write (d : DataList) (p : FltPacket) (ops : List MemOp)
    : (d.write p ops).fwRequest.reqFlags = d.fwRequest.reqFlags := by
  rw [DataList.write_eq]

theorem PlainDatagram.addFragment {d : DataList} (hd : PlainDatagram d) {r : FwRequest}
    (hr : PlainRequest r) (h : FragHdr) (ops : List MemOp)
    : PlainDatagram (addFragment d r h ops) := by
  refine ⟨?_, ?_⟩
  . rw [fragmentsList_addFragment]
    exact List.forall_mem_cons.mpr ⟨hr, hd.fragments⟩
  . rw [Ansfw.addFragment, reqFlags_write]
    repeat' split
    . exact hr.loopback
    . exact hd.loopback
    . exact hd.loopback

theorem plainDatagram_newDatagram (id : Nat) {r : FwRequest} (hr : PlainRequest r) (h : FragHdr)
    : PlainDatagram (newDatagram (.zeroed id) r h) := by
  refine ⟨?_, ?_⟩
  . rw [fragmentsList_newDatagram]
    exact List.forall_mem_singleton.mpr hr
  . rw [newDatagram, reqFlags_write]
    repeat' split
    . exact hr.loopback
    . apply has_zero
    . exact has_zero _

theorem has_loopback_assembled {d : DataList} (hd : PlainDatagram d) (r : FwRequest)
    : (assembled d r).fwRequest.reqFlags.has loopback = false := by
  have : reassembled.has loopback = false := by decide
  simp [assembled, this, hd.loopback]

theorem fresh_assembled {d : DataList} (hd : PlainDatagram d)
    (hnodup : (d.fragmentsList.map FwRequest.id).Nodup) (r : FwRequest)
    : Fresh (ofDatagram (assembled d r)) := by
  have hloop := has_loopback_assembled hd r
  refine ⟨rfl, fun h => ?_, fun _ _ => ⟨?_, ?_⟩⟩
  . rw [ofDatagram, hloop] at h
    cases h
  . intro f hf
    obtain ⟨g, hg, rfl⟩ := List.mem_map.mp hf
    exact (hd.fragments g hg).fragment
  . have hids : (ofDatagram (assembled d r)).fragmentsList.map RequestObject.id =
        d.fragmentsList.map FwRequest.id := by
      simp only [ofDatagram, List.map_map]
      rfl
    rw [hids]
    exact hnodup

/-! ### Runs of the reassembly -/

def ids (rs : Multiset FwRequest) : Multiset Nat := rs.map FwRequest.id

theorem nodup_ids_of_le {rs rs' : Multiset FwRequest} (hle : rs ≤ rs') (h : (ids rs').Nodup)
    : (ids rs).Nodup :=
  Multiset.nodup_of_le (Multiset.map_le_map hle) h

structure PlainState (s : Reassembly) : Prop where
  intermed : ∀ r ∈ s.intermedQueue, PlainRequest r
  queue : ∀ d ∈ s.datagrQueue, PlainDatagram d
  injected : ∀ d ∈ s.injected, Fresh (ofDatagram d)

theorem Analyzed.plainState {env : Env} {s s' : Reassembly} {r : FwRequest} {ops : List MemOp}
    (h : Analyzed env s r s' ops) (hs : PlainState s) (hr : PlainRequest r)
    (hnodup : (ids (accounted s + {r})).Nodup)
    : PlainState s' := by
  cases h with
  | options => exact hs
  | tooLong => exact hs
  | noBuffer => exact hs
  | oversize hhdr hq hops =>
    exact ⟨hs.intermed, fun x hx => hs.queue x (hq.mem_others hx), hs.injected⟩
  | @added before d after ops hhdr hq hops hcomplete =>
    refine ⟨hs.intermed, ?_, hs.injected⟩
    intro x hx
    rcases hq.mem_updated hx with hx | hx
    . exact hs.queue x hx
    . rw [hx]
      exact (hs.queue d hq.mem).addFragment hr _ ops
  | @completed before d after ops hhdr hq hops hcomplete =>
    have hplain := (hs.queue d hq.mem).addFragment hr (fragHdr r) ops
    have hfrags : ((addFragment d r (fragHdr r) ops).fragmentsList : Multiset FwRequest) ≤
        accounted s + {r} := by
      rw [fragmentsList_addFragment, ← Multiset.cons_coe, ← Multiset.singleton_add,
        add_comm (accounted s)]
      apply add_le_add_right
      exact fragmentsList_le_accounted hq.mem
    have hids := nodup_ids_of_le hfrags hnodup
    refine ⟨?_, ?_, ?_⟩
    . rw [deliver, freeDatagram_intermedQueue]
      exact hs.intermed
    . rw [deliver, freeDatagram_datagrQueue]
      exact fun x hx => hs.queue x (hq.mem_others hx)
    . rw [deliver, freeDatagram_injected]
      refine List.forall_mem_append.mpr ⟨hs.injected, List.forall_mem_singleton.mpr ?_⟩
      exact fresh_assembled hplain (Multiset.coe_nodup.mp hids) r
  | @created id free count hhdr hq hsize halloc =>
    refine ⟨hs.intermed, ?_, hs.injected⟩
    exact List.forall_mem_append.mpr
      ⟨hs.queue, List.forall_mem_singleton.mpr (plainDatagram_newDatagram id hr _)⟩

theorem plainDatagram_eraseTtl (d : DataList) : PlainDatagram d.eraseTtl ↔ PlainDatagram d :=
  ⟨fun h => ⟨h.fragments, h.loopback⟩, fun h => ⟨h.fragments, h.loopback⟩⟩

theorem PlainState.step {s : Reassembly} (hs : PlainState s) {e : Event}
    (hr : ∀ r ∈ handedOver [e], PlainRequest r) (hnodup : (ids (accounted s)).Nodup)
    : PlainState (step s e) := by
  cases e with
  | reassemblePacket r =>
    refine ⟨List.forall_mem_append.mpr ⟨hs.intermed, List.forall_mem_singleton.mpr ?_⟩, hs.queue,
      hs.injected⟩
    exact hr r (Multiset.mem_singleton_self r)
  | intermed env =>
    unfold Ansfw.step
    simp only
    split
    . exact hs
    . next r rest hq =>
      have hintermed := hs.intermed
      rw [hq, List.forall_mem_cons] at hintermed
      refine (analyzed_fst_snd env { s with intermedQueue := rest } r).plainState
        ⟨hintermed.2, hs.queue, hs.injected⟩ hintermed.1 ?_
      have hacc : accounted { s with intermedQueue := rest } + {r} = accounted s := by
        simp only [accounted, hq, ← Multiset.cons_coe, ← Multiset.singleton_add]
        abel
      rw [hacc]
      exact hnodup
  | ttlPass =>
    have hqueue : ∀ d ∈ (ttlDecrementThreadFunc s).datagrQueue, PlainDatagram d := by
      intro d hd
      obtain ⟨d', hd', heq⟩ := ttlDecrementThreadFunc_mem hd
      rw [← plainDatagram_eraseTtl, ← heq, plainDatagram_eraseTtl]
      exact hs.queue d' hd'
    obtain ⟨kept, expired, hperm, heq⟩ := ttlDecrementThreadFunc_spec s
    rw [Ansfw.step]
    rw [heq] at hqueue ⊢
    exact ⟨hs.intermed, hqueue, hs.injected⟩
  | freeClone id =>
    refine ⟨?_, ?_, ?_⟩
    . rw [Ansfw.step, freeCloneRequest_intermedQueue]
      exact hs.intermed
    . rw [Ansfw.step, freeCloneRequest_datagrQueue]
      exact hs.queue
    . rw [Ansfw.step, freeCloneRequest_injected]
      exact hs.injected

theorem fresh_injected {es : List Event} (hr : ∀ r ∈ handedOver es, PlainRequest r)
    (hnodup : (ids (handedOver es)).Nodup)
    : ∀ d ∈ (Run.run step initializeReassembly es).injected, Fresh (ofDatagram d) := by
  suffices h : ∀ s, PlainState s → (ids (accounted s + handedOver es)).Nodup →
      PlainState (Run.run step s es) by
    refine (h initializeReassembly ⟨?_, ?_, ?_⟩ ?_).injected
    . intro r hr
      cases hr
    . intro d hd
      cases hd
    . intro d hd
      cases hd
    . rw [show accounted initializeReassembly = 0 from rfl, zero_add]
      exact hnodup
  clear hnodup
  induction es with
  | nil => exact fun s hs _ => hs
  | cons e es ih =>
    intro s hs hnodup
    rw [handedOver_cons] at hr hnodup
    obtain ⟨gone, hstep, _⟩ := accounted_step s e
    refine ih (fun r hmem => hr r (Multiset.mem_add.mpr (Or.inr hmem))) (step s e)
      (hs.step (fun r hmem => hr r (Multiset.mem_add.mpr (Or.inl hmem))) ?_) ?_
    . exact nodup_ids_of_le (Multiset.le_add_right _ _) hnodup
    . refine nodup_ids_of_le ?_ hnodup
      rw [← add_assoc, hstep]
      exact add_le_add_left (Multiset.le_add_right _ _) _

/-! ### The effects of a release -/

def freedRequests (es : List Effect) : List Nat :=
  es.filterMap fun
    | .freeRequest id => some id
    | _ => none

def recycledDatagrams (es : List Effect) : List Nat :=
  es.filterMap fun
    | .recycleDatagram id => some id
    | _ => none

theorem freeFragments_ofRequest (bFltConnected : Bool) {rs : List FwRequest}
    (h : ∀ r ∈ rs, PlainRequest r)
    : freedRequests (freeFragments bFltConnected (rs.map ofRequest)) = rs.map FwRequest.id ∧
        recycledDatagrams (freeFragments bFltConnected (rs.map ofRequest)) = [] := by
  induction rs with
  | nil => exact ⟨rfl, rfl⟩
  | cons r rs ih =>
    obtain ⟨hr, hrs⟩ := List.forall_mem_cons.mp h
    obtain ⟨ih1, ih2⟩ := ih hrs
    have hplain := hr.fragment
    rw [List.map_cons, freeFragments,
      fwFreeCloneRequest_plain bFltConnected hplain.references hplain.loopback hplain.reassembled]
    simp only [freedRequests, recycledDatagrams, List.filterMap_append, List.map_cons] at *
    rw [ih1, ih2]
    cases bFltConnected with
    | true => exact ⟨rfl, rfl⟩
    | false => exact ⟨rfl, rfl⟩

theorem freeDatagram_effects (bFltConnected : Bool) (s : Reassembly) {d : DataList}
    (hd : PlainDatagram d) (hkind : d.fwRequest.reqFlags.has reassembled = true)
    (hpos : 0 < d.references)
    : (s.freeDatagram d).released.map FwRequest.id =
          s.released.map FwRequest.id ++
            freedRequests (fwFreeCloneRequest bFltConnected (ofDatagram d)) ∧
        (s.freeDatagram d).freeDatagramWorkBufList.map DataList.id =
          s.freeDatagramWorkBufList.map DataList.id ++
            recycledDatagrams (fwFreeCloneRequest bFltConnected (ofDatagram d)) := by
  obtain ⟨hfreed, hrecycled⟩ := freeFragments_ofRequest bFltConnected hd.fragments
  unfold Reassembly.freeDatagram
  simp only
  by_cases hlast : d.references = 1
  . have hone : (ofDatagram d).references = 1 := by
      rw [ofDatagram, hlast]
      rfl
    rw [if_pos (by omega), fwFreeCloneRequest_reassembled bFltConnected hone hd.loopback hkind]
    simp only [Reassembly.releaseFragments, Reassembly.ruleRecycleDatagramWorkBuffer, List.map_append,
      List.append_cancel_left_eq]
    simp only [freedRequests, recycledDatagrams, List.filterMap_append] at *
    rw [ofDatagram, hfreed, hrecycled]
    exact ⟨(List.append_nil _).symm, rfl⟩
  . have hshared : (ofDatagram d).references ≠ 1 := by
      intro h
      simp only [ofDatagram] at h
      omega
    rw [if_neg (by omega), fwFreeCloneRequest_shared bFltConnected hshared]
    exact ⟨(List.append_nil _).symm, (List.append_nil _).symm⟩

end Ansfw
