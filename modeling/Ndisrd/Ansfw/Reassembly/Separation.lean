import Ndisrd.Lib.Projection
import Ndisrd.Ansfw.Reassembly.Delivery
import Ndisrd.Ansfw.Reassembly.Queue

/-!
This module contains what the fragments of one key have to do with those of all others: the datagrams
that are delivered for a key are those that its own fragments make up, whatever is analysed in between
and whatever the work buffers held before.
-/

namespace Ansfw

namespace DataList

/-! A datagram without the number of its work buffer. -/

def anonymous (d : DataList) : DataList :=
  { d with id := 0, fwRequest := { d.fwRequest with id := 0 } }

@[simp]
theorem key_anonymous (d : DataList) : d.anonymous.key = d.key := rfl

@[simp]
theorem complete_anonymous (d : DataList) : Complete d.anonymous = Complete d := rfl

theorem anonymous_addFragment (d : DataList) (r : FwRequest) (h : FragHdr) (ops : List MemOp)
    : (addFragment d r h ops).anonymous = addFragment d.anonymous r h ops := by
  rw [addFragment, addFragment, write_eq, write_eq]
  repeat' split
  all_goals rfl

theorem anonymous_newDatagram (id : Nat) (r : FwRequest) (h : FragHdr)
    : (newDatagram (zeroed id) r h).anonymous = newDatagram (zeroed 0) r h := by
  rw [newDatagram, newDatagram, write_eq, write_eq]
  repeat' split
  all_goals rfl

theorem anonymous_assembled (d : DataList) (r : FwRequest)
    : (assembled d r).anonymous = assembled d.anonymous r := rfl

end DataList

abbrev Key := Nat × Nat × Nat × Nat

def ofKey (k : Key) (ds : List DataList) : List DataList :=
  (ds.filter fun d => d.key = k).map DataList.anonymous

section OfKey

variable {k : Key} {d : DataList}

@[simp]
theorem ofKey_nil : ofKey k [] = [] := rfl

@[simp]
theorem ofKey_append (ds ds' : List DataList) : ofKey k (ds ++ ds') = ofKey k ds ++ ofKey k ds' := by
  rw [ofKey, List.filter_append, List.map_append]
  rfl

theorem ofKey_cons_pos (hd : d.key = k) (ds : List DataList)
    : ofKey k (d :: ds) = d.anonymous :: ofKey k ds := by
  rw [ofKey, List.filter_cons_of_pos (by simpa using hd), List.map_cons]
  rfl

theorem ofKey_cons_neg (hd : d.key ≠ k) (ds : List DataList) : ofKey k (d :: ds) = ofKey k ds := by
  rw [ofKey, List.filter_cons_of_neg (by simpa using hd)]
  rfl

theorem ofKey_eq_nil {ds : List DataList} (h : ∀ d ∈ ds, d.key ≠ k) : ofKey k ds = [] := by
  rw [ofKey, List.filter_eq_nil_iff.mpr fun d hd => by simpa using h d hd, List.map_nil]

end OfKey

/--
What the reassembly holds and has delivered for one key.
-/
structure KeyView where
  pending : List DataList
  handedOn : List DataList

def keyView (k : Key) (s : Reassembly) : KeyView := ⟨ofKey k s.datagrQueue, ofKey k s.injected⟩

/--
The reassembly of a single key, for which there is always a fresh buffer.
-/
def viewStep (v : KeyView) (r : FwRequest) : KeyView :=
  let h := fragHdr r
  if 20 < h.ipHeaderSize then
    v
  else
    match v.pending with
    | d :: after =>
      match existingOps h with
      | none => { v with pending := after }
      | some ops =>
        let d := addFragment d r h ops
        if Complete d then
          ⟨after, v.handedOn ++ [assembled d r]⟩
        else
          { v with pending := d :: after }
    | [] =>
      if workBufSize < h.offset * 8 + h.fullLength then
        v
      else
        { v with pending := [newDatagram (.zeroed 0) r h] }

theorem key_assembled (d : DataList) (r : FwRequest) : (assembled d r).key = d.key := rfl

section Queued

variable {s : Reassembly} {r : FwRequest} {before after : List DataList} {d : DataList}
variable (hq : Queued s r before d after)
include hq

theorem Queued.key_eq : d.key = (fragHdr r).key := (d.hasKey_iff _).mp hq.key

theorem Queued.ofKey_before : ofKey (fragHdr r).key before = [] := by
  apply ofKey_eq_nil
  intro d' hd' hkey
  have hno := hq.first d' hd'
  rw [(d'.hasKey_iff _).mpr hkey] at hno
  cases hno

theorem Queued.ofKey_queue
    : ofKey (fragHdr r).key s.datagrQueue = d.anonymous :: ofKey (fragHdr r).key after := by
  rw [hq.queue, ofKey_append, hq.ofKey_before, ofKey_cons_pos hq.key_eq, List.nil_append]

end Queued

theorem Unqueued.ofKey_queue {s : Reassembly} {r : FwRequest} (hq : Unqueued s r)
    : ofKey (fragHdr r).key s.datagrQueue = [] := by
  apply ofKey_eq_nil
  intro d hd hkey
  have hno := hq d hd
  rw [(d.hasKey_iff _).mpr hkey] at hno
  cases hno

def AllocSucceeds (s : Reassembly) (er : Env × FwRequest) : Prop := Unqueued s er.2 → CanAlloc er.1 s

theorem keyView_analyze_mine {env : Env} {s : Reassembly} {r : FwRequest}
    (halloc : AllocSucceeds s (env, r))
    : keyView (fragHdr r).key (analyze env s r).1 = viewStep (keyView (fragHdr r).key s) r := by
  obtain ⟨s', ops, heq, hana⟩ := analyzed env s r
  rw [heq]
  cases hana with
  | options hhdr => rw [viewStep, if_pos hhdr]
  | oversize hhdr hq hops =>
    rw [viewStep, if_neg (by omega)]
    simp only [keyView, Reassembly.ruleRecycleDatagramWorkBuffer, hq.ofKey_queue, hops, ofKey_append,
      hq.ofKey_before, List.nil_append]
  | added hhdr hq hops hcomplete =>
    rw [viewStep, if_neg (by omega)]
    have hkey := (key_addFragment _ r (fragHdr r) ops).trans hq.key_eq
    simp only [keyView, hq.ofKey_queue, hops, ofKey_append, hq.ofKey_before, List.nil_append,
      ofKey_cons_pos hkey, ← DataList.anonymous_addFragment, DataList.complete_anonymous, hcomplete]
    rfl
  | completed hhdr hq hops hcomplete =>
    rw [viewStep, if_neg (by omega)]
    have hkey := (key_addFragment _ r (fragHdr r) ops).trans hq.key_eq
    have hkey' := (key_assembled (addFragment _ r (fragHdr r) ops) r).trans hkey
    simp only [keyView, deliver, freeDatagram_datagrQueue, freeDatagram_injected, hq.ofKey_queue, hops,
      ofKey_append, hq.ofKey_before, List.nil_append, ofKey_cons_pos hkey',
      ← DataList.anonymous_addFragment, DataList.complete_anonymous, hcomplete,
      DataList.anonymous_assembled]
    rfl
  | tooLong hhdr hq hsize =>
    rw [viewStep, if_neg (by omega)]
    simp only [keyView, hq.ofKey_queue, if_pos hsize]
  | noBuffer hhdr hq hsize hno => exact absurd (halloc hq) hno
  | @created id free count hhdr hq hsize hcan =>
    rw [viewStep, if_neg (by omega)]
    simp only [keyView, ofKey_append, hq.ofKey_queue, List.nil_append, if_neg (Nat.not_lt.mpr hsize),
      ofKey_cons_pos (key_newDatagram id r (fragHdr r)), DataList.anonymous_newDatagram]
    rfl

theorem keyView_analyze_other {k : Key} (env : Env) (s : Reassembly) {r : FwRequest}
    (hk : (fragHdr r).key ≠ k)
    : keyView k (analyze env s r).1 = keyView k s := by
  obtain ⟨s', ops, heq, hana⟩ := analyzed env s r
  have hqueue : ∀ {before d after}, Queued s r before d after →
      ofKey k s.datagrQueue = ofKey k before ++ ofKey k after := by
    intro before d after hq
    rw [hq.queue, ofKey_append, ofKey_cons_neg (hq.key_eq ▸ hk)]
  have hadded : ∀ {before d after ops}, Queued s r before d after →
      (addFragment d r (fragHdr r) ops).key ≠ k := by
    intro before d after ops hq
    rw [key_addFragment, hq.key_eq]
    exact hk
  rw [heq]
  cases hana with
  | options => rfl
  | oversize hhdr hq hops =>
    simp only [keyView, Reassembly.ruleRecycleDatagramWorkBuffer, hqueue hq, ofKey_append]
  | added hhdr hq hops hcomplete =>
    simp only [keyView, hqueue hq, ofKey_append, ofKey_cons_neg (hadded hq)]
  | completed hhdr hq hops hcomplete =>
    have hkey := (key_assembled (addFragment _ r (fragHdr r) ops) r).trans_ne (hadded hq)
    simp only [keyView, deliver, freeDatagram_datagrQueue, freeDatagram_injected, hqueue hq,
      ofKey_append, ofKey_cons_neg hkey, ofKey_nil, List.append_nil]
  | tooLong => rfl
  | noBuffer => rfl
  | @created id free count hhdr hq hsize hcan =>
    have hkey : (newDatagram (.zeroed id) r (fragHdr r)).key ≠ k := by
      rw [key_newDatagram]
      exact hk
    simp only [keyView, ofKey_append, ofKey_cons_neg hkey, ofKey_nil, List.append_nil]

/-! ### Runs -/

theorem keyView_run (k : Key) {s : Reassembly} {order : List (Env × FwRequest)}
    (halloc : Run.Along analyzeStep AllocSucceeds s order)
    : keyView k (Run.run analyzeStep s order) =
        Run.run viewStep (keyView k s)
          ((order.filter fun er => decide ((fragHdr er.2).key = k)).map Prod.snd) := by
  refine Projection.view_run ?_ ?_ halloc
  . intro s er halloc hk
    obtain rfl := of_decide_eq_true hk
    exact keyView_analyze_mine halloc
  . intro s er hk
    exact keyView_analyze_other er.1 s (of_decide_eq_false hk)

theorem handedOn_viewStep (v : KeyView) (r : FwRequest)
    : viewStep v r =
        ⟨(viewStep ⟨v.pending, []⟩ r).pending, v.handedOn ++ (viewStep ⟨v.pending, []⟩ r).handedOn⟩ := by
  unfold viewStep
  simp only
  repeat' split
  all_goals simp

theorem handedOn_run (v : KeyView) (rs : List FwRequest)
    : (Run.run viewStep v rs).handedOn =
        v.handedOn ++ (Run.run viewStep ⟨v.pending, []⟩ rs).handedOn := by
  induction rs generalizing v with
  | nil => exact (List.append_nil _).symm
  | cons r rs ih =>
    rw [Run.run_cons, Run.run_cons, ih, ih (viewStep ⟨v.pending, []⟩ r), ← List.append_assoc,
      handedOn_viewStep v r]

structure StreamOf (k : Key) (rs : List FwRequest) : Prop where
  plain : ∀ r ∈ rs, PlainHeader (fragHdr r)
  key : ∀ r ∈ rs, (fragHdr r).key = k

theorem filter_map_snd {α β : Type} (p : β → Bool) (l : List (α × β))
    : (l.filter fun x => p x.2).map Prod.snd = (l.map Prod.snd).filter p := by
  rw [List.filter_map]
  rfl

theorem deliveries_of_filter {k : Key} {xs : List FwRequest} {s s' : Reassembly}
    (hpending : ofKey k s.datagrQueue = ofKey k s'.datagrQueue) {both alone : List (Env × FwRequest)}
    (hboth : (both.map Prod.snd).filter (fun r => decide ((fragHdr r).key = k)) = xs)
    (halone : alone.map Prod.snd = xs) (hxs : ∀ r ∈ xs, (fragHdr r).key = k)
    (halloc : Run.Along analyzeStep AllocSucceeds s both)
    (halloc' : Run.Along analyzeStep AllocSucceeds s' alone)
    : ∃ ds,
        ofKey k (Run.run analyzeStep s both).injected = ofKey k s.injected ++ ds ∧
        ofKey k (Run.run analyzeStep s' alone).injected = ofKey k s'.injected ++ ds := by
  have hrun := keyView_run k halloc
  have hrun' := keyView_run k halloc'
  have hfilter : xs.filter (fun r => decide ((fragHdr r).key = k)) = xs :=
    List.filter_eq_self.mpr fun r hr => decide_eq_true (hxs r hr)
  rw [filter_map_snd fun r => decide ((fragHdr r).key = k), hboth] at hrun
  rw [filter_map_snd fun r => decide ((fragHdr r).key = k), halone, hfilter] at hrun'
  have hhanded := congrArg KeyView.handedOn hrun
  have hhanded' := congrArg KeyView.handedOn hrun'
  rw [handedOn_run] at hhanded hhanded'
  refine ⟨_, hhanded, ?_⟩
  rw [show (keyView k s).pending = (keyView k s').pending from hpending]
  exact hhanded'

/--
The fragments of two keys may be analysed in any interleaving: the datagrams delivered for each key are,
but for the numbers of their work buffers, those that its fragments alone make up. The reassembly may
have been used before and hold other datagrams.
-/
theorem deliveries_interleaving {k k' : Key} (hne : k ≠ k') {xs ys zs : List FwRequest}
    (hxs : StreamOf k xs) (hys : StreamOf k' ys) (hzs : Projection.Interleaving xs ys zs)
    {both alone alone' : List (Env × FwRequest)} (hboth : both.map Prod.snd = zs)
    (halone : alone.map Prod.snd = xs) (halone' : alone'.map Prod.snd = ys) {s s' s'' : Reassembly}
    (hpending : ofKey k s.datagrQueue = ofKey k s'.datagrQueue)
    (hpending' : ofKey k' s.datagrQueue = ofKey k' s''.datagrQueue)
    (halloc : Run.Along analyzeStep AllocSucceeds s both)
    (halloc' : Run.Along analyzeStep AllocSucceeds s' alone)
    (halloc'' : Run.Along analyzeStep AllocSucceeds s'' alone')
    : (∃ ds,
          ofKey k (Run.run analyzeStep s both).injected = ofKey k s.injected ++ ds ∧
          ofKey k (Run.run analyzeStep s' alone).injected = ofKey k s'.injected ++ ds) ∧
        ∃ ds,
          ofKey k' (Run.run analyzeStep s both).injected = ofKey k' s.injected ++ ds ∧
          ofKey k' (Run.run analyzeStep s'' alone').injected = ofKey k' s''.injected ++ ds := by
  have hother : ∀ r ∈ ys, decide ((fragHdr r).key = k) = false := by
    intro r hr
    rw [hys.key r hr]
    exact decide_eq_false hne.symm
  have hother' : ∀ r ∈ xs, decide ((fragHdr r).key = k') = false := by
    intro r hr
    rw [hxs.key r hr]
    exact decide_eq_false hne
  constructor
  . refine deliveries_of_filter hpending ?_ halone hxs.key halloc halloc'
    rw [hboth]
    exact hzs.filter_left (fun r hr => decide_eq_true (hxs.key r hr)) hother
  . refine deliveries_of_filter hpending' ?_ halone' hys.key halloc halloc''
    rw [hboth]
    exact hzs.symm.filter_left (fun r hr => decide_eq_true (hys.key r hr)) hother'

-- A fragment of the datagram `ident` that carries eight bytes of value `fill`.
def filledRequest (ident fill ipOff : Nat) : FwRequest :=
  let r := greRequest 0 42 28 ipOff
  { r with
    fltPacket := { r.fltPacket with
      buffer := fun i =>
        if i = 19 then UInt8.ofNat ident
        else if 34 ≤ i then UInt8.ofNat fill
        else r.fltPacket.buffer i } }

def firstStream : List FwRequest := [filledRequest 1 7 0x2000, filledRequest 1 7 1]

def secondStream : List FwRequest := [filledRequest 2 9 0x2000, filledRequest 2 9 1]

theorem streamOf_firstStream : StreamOf (1, 47, 0, 0) firstStream := by
  refine ⟨?_, ?_⟩
  . intro r hr
    simp only [firstStream, List.mem_cons, List.not_mem_nil, or_false] at hr
    rcases hr with rfl | rfl
    . exact ⟨by decide, by decide, by decide⟩
    . exact ⟨by decide, by decide, by decide⟩
  . decide

theorem streamOf_secondStream : StreamOf (2, 47, 0, 0) secondStream := by
  refine ⟨?_, ?_⟩
  . intro r hr
    simp only [secondStream, List.mem_cons, List.not_mem_nil, or_false] at hr
    rcases hr with rfl | rfl
    . exact ⟨by decide, by decide, by decide⟩
    . exact ⟨by decide, by decide, by decide⟩
  . decide

def bothStreams : List (Env × FwRequest) :=
  [(⟨true, 0⟩, filledRequest 1 7 0x2000), (⟨true, 0⟩, filledRequest 2 9 0x2000),
    (⟨true, 0⟩, filledRequest 2 9 1), (⟨true, 0⟩, filledRequest 1 7 1)]

theorem deliveries_bothStreams
    : ofKey (1, 47, 0, 0) (Run.run analyzeStep initializeReassembly bothStreams).injected =
          ofKey (1, 47, 0, 0) (Run.run analyzeStep initializeReassembly
            (firstStream.map fun r => (⟨true, 0⟩, r))).injected ∧
        ofKey (2, 47, 0, 0) (Run.run analyzeStep initializeReassembly bothStreams).injected =
          ofKey (2, 47, 0, 0) (Run.run analyzeStep initializeReassembly
            (secondStream.map fun r => (⟨true, 0⟩, r))).injected := by
  have hpool : ∀ s er, s.allocCounter ≤ maxWorkBufferCount → er.1.poolAlloc = true →
      AllocSucceeds s er := fun s er hcount hpool _ => Or.inr ⟨hcount, hpool⟩
  have hboth : bothStreams.map Prod.snd =
      [filledRequest 1 7 0x2000, filledRequest 2 9 0x2000, filledRequest 2 9 1,
        filledRequest 1 7 1] := rfl
  have halloc : Run.Along analyzeStep AllocSucceeds initializeReassembly bothStreams :=
    ⟨hpool _ _ (by decide) rfl, hpool _ _ (by decide) rfl, hpool _ _ (by decide) rfl,
      hpool _ _ (by decide) rfl, trivial⟩
  have halloc' : Run.Along analyzeStep AllocSucceeds initializeReassembly
      (firstStream.map fun r => (⟨true, 0⟩, r)) :=
    ⟨hpool _ _ (by decide) rfl, hpool _ _ (by decide) rfl, trivial⟩
  have halloc'' : Run.Along analyzeStep AllocSucceeds initializeReassembly
      (secondStream.map fun r => (⟨true, 0⟩, r)) :=
    ⟨hpool _ _ (by decide) rfl, hpool _ _ (by decide) rfl, trivial⟩
  obtain ⟨⟨ds, hone, halone⟩, ds', htwo, htwo'⟩ :=
    deliveries_interleaving (by decide) streamOf_firstStream streamOf_secondStream
      (.left (.right (.right (.left .nil)))) hboth rfl rfl rfl rfl halloc halloc' halloc''
  exact ⟨hone.trans halone.symm, htwo.trans htwo'.symm⟩

end Ansfw
