import Ndisrd.Ansfw.Reassembly.Coverage

/-!
This module contains what holds of the datagram queue in every reachable state: its keys are distinct,
its datagrams know exactly their fragments, and none of them is waiting although it is complete.
-/

namespace Ansfw

def FragHdr.key (h : FragHdr) : Nat × Nat × Nat × Nat := (h.datagrID, h.protocol, h.dest, h.source)

def DataList.key (d : DataList) : Nat × Nat × Nat × Nat := (d.ID, d.protocol, d.destIP, d.srcIP)

theorem DataList.hasKey_iff (d : DataList) (h : FragHdr) : d.hasKey h = true ↔ d.key = h.key := by
  simp only [hasKey, key, FragHdr.key, decide_eq_true_eq, Prod.mk.injEq]

theorem key_addFragment (d : DataList) (r : FwRequest) (h : FragHdr) (ops : List MemOp)
    : (addFragment d r h ops).key = d.key := by
  rw [addFragment, DataList.write_eq]
  repeat' split
  all_goals rfl

theorem key_newDatagram (id : Nat) (r : FwRequest) (h : FragHdr)
    : (newDatagram (.zeroed id) r h).key = h.key := by
  rw [← DataList.hasKey_iff, hasKey_newDatagram]
  exact ⟨rfl, rfl, rfl, rfl⟩

theorem key_eraseTtl (d : DataList) : d.eraseTtl.key = d.key := rfl

/-! ### The test of `Verify` -/

def PassesVerify (d : DataList) : Bool := d.bitMapHeader.areBitsSet 0 (d.totallen / 8)

theorem passesVerify_eq_complete {d : DataList} (h : d.bLast = false → d.totallen = 0)
    : PassesVerify d = Complete d := by
  unfold PassesVerify Complete
  cases hlast : d.bLast with
  | true => rfl
  | false =>
    rw [h hlast]
    rfl

theorem totallen_newDatagram_of_not_bLast (id : Nat) (r : FwRequest) (h : FragHdr)
    (hlast : (newDatagram (.zeroed id) r h).bLast = false)
    : (newDatagram (.zeroed id) r h).totallen = 0 := by
  rw [bLast_newDatagram] at hlast
  rw [newDatagram, DataList.write_eq]
  split
  . rfl
  . next hoff =>
    split
    . rfl
    . next hmore =>
      simp [hoff, hmore] at hlast

-- A fragment that is the last one does not mark unit 0, and one at offset zero is not the last.
theorem complete_newDatagram (id : Nat) {r : FwRequest} (hr : PlainHeader (fragHdr r))
    : Complete (newDatagram (.zeroed id) r (fragHdr r)) = false := by
  have hbits := (tracked_newDatagram id hr).bits 0
  rw [fragmentsList_newDatagram] at hbits
  rw [← Bool.not_eq_true, Complete, Bool.and_eq_true, Bitmap.areBitsSet_iff, bLast_newDatagram]
  rintro ⟨hlast, hpos, _, hset⟩
  have hoff : (fragHdr r).offset ≠ 0 := by
    simp only [Bool.and_eq_true, decide_eq_true_eq] at hlast
    exact hlast.1
  obtain ⟨f, hf, hmark⟩ := hbits.mp (hset 0 hpos)
  rw [List.mem_singleton.mp hf] at hmark
  exact hoff (Nat.le_zero.mp hmark.1)

/-! ### A queued datagram -/

structure DatagramSound (d : DataList) : Prop where
  keys : ∀ f ∈ d.fragmentsList, (fragHdr f).key = d.key
  bits : ∀ u, d.bitMapHeader.bits u = true ↔ ∃ f ∈ d.fragmentsList, Marks (fragHdr f) u
  incomplete : PassesVerify d = false
  total : d.bLast = false → d.totallen = 0

theorem datagramSound_eraseTtl {d : DataList} : DatagramSound d.eraseTtl ↔ DatagramSound d :=
  ⟨fun h => ⟨h.keys, h.bits, h.incomplete, h.total⟩, fun h => ⟨h.keys, h.bits, h.incomplete, h.total⟩⟩

theorem DatagramSound.total_addFragment {d : DataList} (hd : DatagramSound d) (r : FwRequest)
    (h : FragHdr) (ops : List MemOp) (hlast : (addFragment d r h ops).bLast = false)
    : (addFragment d r h ops).totallen = 0 := by
  rw [bLast_addFragment, Bool.or_eq_false_iff, Bool.not_eq_false'] at hlast
  rw [totallen_addFragment, if_pos hlast.2]
  exact hd.total hlast.1

theorem DatagramSound.passesVerify_addFragment {d : DataList} (hd : DatagramSound d) (r : FwRequest)
    (h : FragHdr) (ops : List MemOp)
    : PassesVerify (addFragment d r h ops) = Complete (addFragment d r h ops) := by
  apply passesVerify_eq_complete
  intro hlast
  exact hd.total_addFragment r h ops hlast

theorem DatagramSound.addFragment {d : DataList} (hd : DatagramSound d) (hd' : Tracked d)
    {r : FwRequest} {ops : List MemOp} (hr : PlainHeader (fragHdr r))
    (hops : existingOps (fragHdr r) = some ops) (hkey : d.hasKey (fragHdr r) = true)
    (hcomplete : Complete (addFragment d r (fragHdr r) ops) = false)
    : DatagramSound (Ansfw.addFragment d r (fragHdr r) ops) := by
  refine ⟨?_, ?_, ?_, ?_⟩
  . intro f hf
    rw [fragmentsList_addFragment] at hf
    rw [key_addFragment]
    rcases List.mem_cons.mp hf with hf | hf
    . rw [hf]
      exact ((d.hasKey_iff _).mp hkey).symm
    . exact hd.keys f hf
  . exact (hd'.addFragment hr (placesFragment_existingOps hr hops)).bits
  . rw [hd.passesVerify_addFragment]
    exact hcomplete
  . exact hd.total_addFragment r (fragHdr r) ops

theorem datagramSound_newDatagram (id : Nat) {r : FwRequest} (hr : PlainHeader (fragHdr r))
    : DatagramSound (newDatagram (.zeroed id) r (fragHdr r)) := by
  have htotal := totallen_newDatagram_of_not_bLast id r (fragHdr r)
  refine ⟨?_, (tracked_newDatagram id hr).bits, ?_, htotal⟩
  . intro f hf
    rw [fragmentsList_newDatagram] at hf
    rw [List.mem_singleton.mp hf, key_newDatagram]
  . rw [passesVerify_eq_complete htotal]
    exact complete_newDatagram id hr

/-! ### The queue -/

structure QueueSound (s : Reassembly) : Prop where
  distinct : (s.datagrQueue.map DataList.key).Nodup
  sound : ∀ d ∈ s.datagrQueue, DatagramSound d

theorem queueSound_initializeReassembly : QueueSound initializeReassembly := by
  refine ⟨List.nodup_nil, ?_⟩
  intro d hd
  cases hd

theorem QueueSound.others {s s' : Reassembly} (hs : QueueSound s) {r : FwRequest} {before d after}
    (hq : Queued s r before d after) (hqueue : s'.datagrQueue = before ++ after)
    : QueueSound s' := by
  have hdistinct := hs.distinct
  rw [hq.queue] at hdistinct
  refine ⟨?_, ?_⟩
  . rw [hqueue]
    apply List.Nodup.sublist _ hdistinct
    apply List.Sublist.map
    apply List.Sublist.append_left
    exact List.sublist_cons_self d after
  . intro x hx
    rw [hqueue] at hx
    exact hs.sound x (hq.mem_others hx)

theorem QueueSound.analyze {s : Reassembly} (hs : QueueSound s) (hs' : QueueTracked s) (env : Env)
    {r : FwRequest} (hr : PlainHeader (fragHdr r))
    : QueueSound (Ansfw.analyze env s r).1 := by
  obtain ⟨s', ops, heq, hana⟩ := analyzed env s r
  rw [heq]
  cases hana with
  | options => exact hs
  | oversize hhdr hq => exact hs.others hq rfl
  | @added before d after ops hhdr hq hops hcomplete =>
    have hadded := (hs.sound d hq.mem).addFragment (hs'.queue d hq.mem) hr hops hq.key hcomplete
    refine ⟨?_, ?_⟩
    . have hdistinct := hs.distinct
      rw [hq.queue] at hdistinct
      simpa [key_addFragment] using hdistinct
    . intro x hx
      rcases hq.mem_updated hx with hx | hx
      . exact hs.sound x hx
      . rw [hx]
        exact hadded
  | completed hhdr hq =>
    apply hs.others hq
    rw [deliver, freeDatagram_datagrQueue]
  | tooLong => exact hs
  | noBuffer => exact hs
  | @created id free count hhdr hq =>
    refine ⟨?_, ?_⟩
    . rw [List.map_append, List.map_singleton, key_newDatagram, List.nodup_append]
      refine ⟨hs.distinct, List.pairwise_singleton _ _, ?_⟩
      intro k hk k' hk' heq
      obtain ⟨d, hd, hdkey⟩ := List.mem_map.mp hk
      rw [heq, List.mem_singleton.mp hk'] at hdkey
      have hno := hq d hd
      rw [(d.hasKey_iff _).mpr hdkey] at hno
      cases hno
    . intro d hd
      rcases List.mem_append.mp hd with hd | hd
      . exact hs.sound d hd
      . rw [List.mem_singleton.mp hd]
        exact datagramSound_newDatagram id hr

theorem QueueSound.ttlDecrementThreadFunc {s : Reassembly} (hs : QueueSound s)
    : QueueSound (ttlDecrementThreadFunc s) := by
  obtain ⟨kept, expired, hperm, heq⟩ := ttlDecrementThreadFunc_spec s
  have hkeys : ∀ l : List DataList, (l.map DataList.eraseTtl).map DataList.key = l.map DataList.key := by
    intro l
    rw [List.map_map]
    rfl
  have hdistinct := (hperm.map DataList.key).nodup_iff.mp (by rw [hkeys]; exact hs.distinct)
  refine ⟨?_, ?_⟩
  . rw [heq]
    rw [hkeys] at hdistinct
    apply List.Nodup.sublist _ hdistinct
    exact (List.sublist_append_left kept expired).map DataList.key
  . intro d hd
    obtain ⟨d', hd', herase⟩ := ttlDecrementThreadFunc_mem hd
    rw [← datagramSound_eraseTtl, ← herase, datagramSound_eraseTtl]
    exact hs.sound d' hd'

theorem QueueSound.step (s : Reassembly) (e : Event) (hs : QueueTracked s ∧ QueueSound s)
    (he : PlainEvent e)
    : QueueTracked (step s e) ∧ QueueSound (step s e) := by
  obtain ⟨htracked, hsound⟩ := hs
  refine ⟨htracked.step s e he, ?_⟩
  cases e with
  | reassemblePacket r => exact ⟨hsound.distinct, hsound.sound⟩
  | intermed env =>
    unfold Ansfw.step
    simp only
    split
    . exact hsound
    . next r rest hq =>
      have hr := htracked.intermed r (by rw [hq]; exact List.mem_cons_self)
      have hrest : QueueTracked { s with intermedQueue := rest } :=
        ⟨fun r' hr' => htracked.intermed r' (by rw [hq]; exact List.mem_cons_of_mem r hr'),
          htracked.queue⟩
      have hrest' : QueueSound { s with intermedQueue := rest } :=
        ⟨hsound.distinct, hsound.sound⟩
      exact hrest'.analyze hrest env hr
  | ttlPass => exact hsound.ttlDecrementThreadFunc
  | freeClone id =>
    refine ⟨?_, ?_⟩
    . rw [Ansfw.step, freeCloneRequest_datagrQueue]
      exact hsound.distinct
    . rw [Ansfw.step, freeCloneRequest_datagrQueue]
      exact hsound.sound

/-! ### Delivery in the completing step -/

structure DeliveredAtOnce (env : Env) (s : Reassembly) (r : FwRequest) : Prop where
  delivers : ∀ {before d after ops}, Queued s r before d after → existingOps (fragHdr r) = some ops →
    PassesVerify (addFragment d r (fragHdr r) ops) = true →
    (analyze env s r).1.injected = s.injected ++ [assembled (addFragment d r (fragHdr r) ops) r]
  waits : (∀ {before d after ops}, Queued s r before d after → existingOps (fragHdr r) = some ops →
    PassesVerify (addFragment d r (fragHdr r) ops) = false) →
    (analyze env s r).1.injected = s.injected

theorem QueueSound.deliveredAtOnce {s : Reassembly} (hs : QueueSound s) (env : Env) {r : FwRequest}
    (hr : PlainHeader (fragHdr r))
    : DeliveredAtOnce env s r := by
  have hpasses : ∀ {before d after} (ops : List MemOp), Queued s r before d after →
      PassesVerify (addFragment d r (fragHdr r) ops) = Complete (addFragment d r (fragHdr r) ops) := by
    intro before d after ops hq
    exact (hs.sound d hq.mem).passesVerify_addFragment r (fragHdr r) ops
  obtain ⟨s', ops', heq, hana⟩ := analyzed env s r
  refine ⟨?_, ?_⟩
  . intro before d after ops hq hops hpass
    rw [hpasses ops hq] at hpass
    rw [heq]
    cases hana with
    | options hhdr =>
      have := hr.hdr
      omega
    | oversize hhdr hq' hops' =>
      rw [hops] at hops'
      cases hops'
    | added hhdr hq' hops' hcomplete =>
      obtain ⟨_, hd, _⟩ := hq.unique hq'
      rw [hops] at hops'
      injection hops' with hops'
      rw [← hd, ← hops', hpass] at hcomplete
      cases hcomplete
    | completed hhdr hq' hops' hcomplete =>
      obtain ⟨_, hd, _⟩ := hq.unique hq'
      rw [hops] at hops'
      injection hops' with hops'
      rw [deliver, freeDatagram_injected, ← hd, ← hops']
    | tooLong hhdr hq' => exact absurd hq' hq.not_unqueued
    | noBuffer hhdr hq' => exact absurd hq' hq.not_unqueued
    | created hhdr hq' => exact absurd hq' hq.not_unqueued
  . intro hwaits
    rw [heq]
    cases hana with
    | completed hhdr hq hops hcomplete =>
      have hpass := hwaits hq hops
      rw [hpasses _ hq, hcomplete] at hpass
      cases hpass
    | _ => rfl

theorem step_injected_of_not_intermed {s : Reassembly} {e : Event} (he : ∀ env, e ≠ .intermed env)
    : (step s e).injected = s.injected := by
  cases e with
  | reassemblePacket r => rfl
  | intermed env => exact absurd rfl (he env)
  | ttlPass =>
    obtain ⟨kept, expired, _, heq⟩ := ttlDecrementThreadFunc_spec s
    rw [step, heq]
  | freeClone id => rw [step, freeCloneRequest_injected]

theorem plainEvent_of_reassemblePacket {es : List Event}
    (hes : ∀ r, .reassemblePacket r ∈ es →
      (fragHdr r).ipHeaderSize = 20 ∧ 20 ≤ (fragHdr r).fullLength)
    : ∀ e ∈ es, PlainEvent e := by
  intro e he
  cases e with
  | reassemblePacket r =>
    obtain ⟨hhdr, hmin⟩ := hes r he
    refine ⟨hhdr, hmin, ?_⟩
    apply ntohs_lt
  | _ => trivial

/--
In every reachable state the queued datagrams have distinct keys, each one knows exactly its fragments
and fails the test of `Verify`, and the next fragment delivers the datagram it completes.
-/
theorem run_queueSound {es : List Event}
    (hes : ∀ r, .reassemblePacket r ∈ es →
      (fragHdr r).ipHeaderSize = 20 ∧ 20 ≤ (fragHdr r).fullLength)
    : QueueSound (Run.run step initializeReassembly es) ∧
        (∀ env, OnAnalyze DeliveredAtOnce (Run.run step initializeReassembly es) (.intermed env)) ∧
        ∀ e, (∀ env, e ≠ .intermed env) →
          (step (Run.run step initializeReassembly es) e).injected =
            (Run.run step initializeReassembly es).injected := by
  have hplain := plainEvent_of_reassemblePacket hes
  obtain ⟨htracked, hsound⟩ := Run.inv_run QueueSound.step
    ⟨queueTracked_initializeReassembly, queueSound_initializeReassembly⟩
    (Run.along_of_forall step hplain)
  refine ⟨hsound, ?_, fun e he => step_injected_of_not_intermed he⟩
  intro env
  unfold OnAnalyze
  simp only
  split
  . trivial
  . next r rest hq =>
    have hrest : QueueSound { (Run.run step initializeReassembly es) with intermedQueue := rest } :=
      ⟨hsound.distinct, hsound.sound⟩
    apply hrest.deliveredAtOnce
    apply htracked.intermed
    rw [hq]
    exact List.mem_cons_self

/-- The last fragment waits in the queue with its units, and the first one delivers the datagram. -/
theorem queueSound_lastFirstRun
    : let s := Run.run step initializeReassembly (lastFirstRun.take 3)
      (∃ d, s.datagrQueue = [d] ∧ d.key = (0, 47, 0, 0) ∧ (∀ f ∈ d.fragmentsList, (fragHdr f).key = d.key) ∧
          (∀ u, d.bitMapHeader.bits u = true ↔ 1 ≤ u ∧ u < 4) ∧ PassesVerify d = false) ∧
        (step s (.intermed ⟨true, 0⟩)).injected.map
          (fun d => (d.key, d.totallen, d.fragmentsList.length)) = [((0, 47, 0, 0), 36, 2)] := by
  intro s
  have hes : ∀ r, .reassemblePacket r ∈ lastFirstRun.take 3 →
      (fragHdr r).ipHeaderSize = 20 ∧ 20 ≤ (fragHdr r).fullLength := by
    intro r hr
    simp only [lastFirstRun, List.take_succ_cons, List.take_zero, List.mem_cons, Event.reassemblePacket.injEq,
      reduceCtorEq, List.not_mem_nil, or_false] at hr
    rcases hr with rfl | rfl
    . decide
    . decide
  obtain ⟨hsound, hdelivered, _⟩ := run_queueSound hes
  have hlast : s.datagrQueue =
      [newDatagram (.zeroed 0) (greRequest 0 42 28 1) (fragHdr (greRequest 0 42 28 1))] := rfl
  have hd := hsound.sound _ (hlast ▸ List.mem_singleton_self _)
  refine ⟨⟨_, hlast, by decide, hd.keys, ?_, hd.incomplete⟩, ?_⟩
  . intro u
    have hoffset : (fragHdr (greRequest 0 42 28 1)).offset = 1 := by decide
    have hlength : (fragHdr (greRequest 0 42 28 1)).fullLength = 28 := by decide
    rw [hd.bits, fragmentsList_newDatagram]
    simp [Marks, hoffset, hlength]
  . have hana : DeliveredAtOnce ⟨true, 0⟩ { s with intermedQueue := [] } (greRequest 1 42 28 0x2000) :=
      hdelivered ⟨true, 0⟩
    have hq : Queued { s with intermedQueue := [] } (greRequest 1 42 28 0x2000) []
        (newDatagram (.zeroed 0) (greRequest 0 42 28 1) (fragHdr (greRequest 0 42 28 1))) [] :=
      ⟨hlast, by decide, fun d' hd' => absurd hd' List.not_mem_nil⟩
    have hinjected := hana.delivers hq rfl (by decide)
    have hstep : (step s (.intermed ⟨true, 0⟩)).injected =
        (analyze ⟨true, 0⟩ { s with intermedQueue := [] } (greRequest 1 42 28 0x2000)).1.injected := rfl
    rw [hstep, hinjected]
    decide

end Ansfw
