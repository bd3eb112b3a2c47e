import Ndisrd.Ansfw.Handlers.Impl
import Ndisrd.Ansfw.Callbacks.Approval
import Ndisrd.Ansfw.Callbacks.Instances

/-!
This module contains the traffic that gets past the clients: exactly when a handler lets something go on
that a client was not asked about or did not approve.
-/

open ReqFlags

namespace Ansfw

variable (d : Drivers)

def Seen (h : Handler) : Prop :=
  h.GoesOn d → ∀ i ∈ d.fwInstancesList,
    .call (.client i) ∈ h.actions d ∧ d.clientStatus i = NtStatus.success

structure ReceiveAllocated (env : ReceiveEnv) (frame : Frame) : Prop where
  packet : env.allocatePacket = true
  buffer : env.allocateBuffer = true
  residual : frame.lookAheadBufferSize < frame.packetSize → env.allocateResidualBuffer = true

def Transferred (env : ReceiveEnv) (frame : Frame) : Prop :=
  frame.packetSize ≤ frame.lookAheadBufferSize ∨ env.transferDataStatus = .success

structure Rejoins (env : ReceiveEnv) (frame : Frame) : Prop where
  transferred : Transferred env frame
  allocateMemory : env.allocateMemory = true
  fragment : d.fragment frame.packet = true
  allocateRequest : d.allocateRequest = true
  others : OthersApprove d frame.packet
  datagram : env.datagram ≠ none
  sendPacket : env.sendPacket = true

/--
The allocations that are not made up for by dropping the packet succeed, and where a request goes through
`FWInjectRequest` the first client that does not approve it fails it.
-/
def Guarded : Handler → Prop
  | .ptReceive env frame =>
    env.ready = true →
      ReceiveAllocated env frame ∧ (Rejoins d env frame → RefusalFails d none)
  | .tdiConnectionOk env =>
    env.allocateRequest = true ∧
      (env.cancelled = false → env.allocateFwRequest = true ∧ RefusalFails d none)
  | .outboundTransportV4Classify env classifyOut =>
    classifyOut.rightsWrite = true ∨ classifyOut.actionType ≠ .block →
      env.allocateCloneStatus.ntSuccess = true ∧ env.allocatePool = true ∧
        (env.injectTransportSend = true → RefusalFails d none)

/-! ### `FWInjectRequest` -/

theorem Approved.clients {calls : List Call} (h : Approved d none calls)
    : ∀ i ∈ d.fwInstancesList, Call.client i ∈ calls ∧ d.clientStatus i = NtStatus.success := h

theorem injectLoopbackRequest_mem
    : .injectLoopbackRequest ∈ (fwInjectRequest d none localRequest).calls ↔
        (processRequest d none).1.ntSuccess = true := by
  have hloop : localRequest.reqFlags.has loopback = true := by decide
  have hnot : Call.injectLoopbackRequest ∉ (processRequest d none).2 := by
    intro hmem
    obtain ⟨i, hi⟩ := client_of_processRequest d none _ hmem
    cases hi
  by_cases hpass : (processRequest d none).1.ntSuccess = true
  . apply iff_of_true
    . unfold fwInjectRequest
      simp only [hpass, hloop, if_true]
      exact List.mem_append_right _ (List.mem_singleton_self _)
    . exact hpass
  . rw [calls_fwInjectRequest_of_refused d localRequest hpass]
    exact iff_of_false hnot hpass

theorem approved_of_refusalFails (pRequest : InjectedRequest) (hrefusal : RefusalFails d none)
    (hpass : (processRequest d none).1.ntSuccess = true)
    : Approved d none (fwInjectRequest d none pRequest).calls := by
  obtain ⟨rest, hcalls⟩ := calls_fwInjectRequest d none pRequest
  rw [hcalls]
  rcases processRequest_cases d none with ⟨_, _, happroved⟩ | ⟨_, hiff⟩
  . apply happroved.append
  . rw [hiff.mp hrefusal] at hpass
    cases hpass

theorem refusalFails_of_approved
    (h : (processRequest d none).1.ntSuccess = true →
      ∀ i ∈ d.fwInstancesList, d.clientStatus i = NtStatus.success)
    : RefusalFails d none := by
  rcases processRequest_cases d none with ⟨_, hrefusal, _⟩ | ⟨⟨i, hi, hbad⟩, hiff⟩
  . exact hrefusal
  . rw [hiff, ← Bool.not_eq_true]
    exact fun hpass => hbad (h hpass i hi)

/-! ### Frames -/

section Frames

variable {d} (hd : Registered d) (hne : d.fwInstancesList ≠ [])

theorem sendPacket_not_instanceCall {packet q : Nat} {calls : List Call}
    (h : ∀ c ∈ calls, IsInstanceCall q c)
    : Call.sendPacket packet ∉ calls := by
  intro hmem
  obtain ⟨j, hj⟩ := h _ hmem
  cases hj

theorem reassemblePacket_not_instanceCall {packet q : Nat} {calls : List Call}
    (h : ∀ c ∈ calls, IsInstanceCall q c)
    : Call.reassemblePacket packet ∉ calls := by
  intro hmem
  obtain ⟨j, hj⟩ := h _ hmem
  cases hj

section Split

variable {pre post : List FltInstance} (heq : d.fltInstancesList = pre ++ .ansfw :: post)
variable (hpre : ∀ x ∈ pre, x ≠ FltInstance.ansfw) (hpost : ∀ x ∈ post, x ≠ FltInstance.ansfw)
include heq hpre hpost

theorem sendPacket_mem_ansfw (packet q : Nat)
    : .sendPacket packet ∈ (fltInjectRequest d (some .ansfw) q).2 ↔
        q = packet ∧
          (Chain.callWhile NtStatus.success (callInstance d q) post).1 = NtStatus.success := by
  have hnot : Call.sendPacket packet ∉ _ :=
    sendPacket_not_instanceCall (log_isInstanceCall d q hpost)
  rw [fltInjectRequest_ansfw_eq q heq hpre]
  split
  . next hgood =>
    simp [hnot, hgood, eq_comm]
  . next hgood =>
    exact iff_of_false hnot fun h => hgood h.2

theorem sendPacket_mem_injectFragments (packet : Nat) (packets : List Nat) (status : NtStatus)
    : .sendPacket packet ∈ (injectFragments d packets status).2 ↔
        packet ∈ packets ∧
          (Chain.callWhile NtStatus.success (callInstance d packet) post).1 = NtStatus.success := by
  induction packets generalizing status with
  | nil => simp [injectFragments]
  | cons q packets ih =>
    rw [injectFragments]
    simp only [List.mem_append, List.mem_cons, ih, sendPacket_mem_ansfw heq hpre hpost]
    constructor
    . rintro (⟨rfl, hgood⟩ | ⟨hmem, hgood⟩)
      . exact ⟨Or.inl rfl, hgood⟩
      . exact ⟨Or.inr hmem, hgood⟩
    . rintro ⟨rfl | hmem, hgood⟩
      . exact Or.inl ⟨rfl, hgood⟩
      . exact Or.inr ⟨hmem, hgood⟩

theorem sendPacket_mem_datagram (hconn : d.bFltConnected = true) (others : List Nat × List Nat)
    (packet : Nat)
    : .sendPacket packet ∈ (fwInjectRequest d none (datagramRequest others packet)).calls ↔
        (processRequest d none).1.ntSuccess = true ∧
          (Chain.callWhile NtStatus.success (callInstance d packet) post).1 = NtStatus.success := by
  have hloop : (datagramRequest others packet).reqFlags.has loopback = false :=
    (by decide : (fragmentedIp ||| reassembled).has loopback = false)
  have hkind : (datagramRequest others packet).reqFlags.has reassembled = true :=
    (by decide : (fragmentedIp ||| reassembled).has reassembled = true)
  have hnot : Call.sendPacket packet ∉ (processRequest d none).2 := by
    intro hmem
    obtain ⟨i, hi⟩ := client_of_processRequest d none _ hmem
    cases hi
  have hself : packet ∈ (datagramRequest others packet).fragments := by simp [datagramRequest]
  by_cases hpass : (processRequest d none).1.ntSuccess = true
  . rw [calls_fwInjectRequest_of_passed d hconn hpass, hloop, hkind]
    simp only [Bool.false_eq_true, if_false, if_true, List.mem_append, hnot, false_or, hpass, true_and,
      sendPacket_mem_injectFragments heq hpre hpost, hself]
  . rw [calls_fwInjectRequest_of_refused d _ hpass]
    exact iff_of_false hnot fun h => hpass h.1

end Split

include hd hne

theorem sendPacket_mem_fragment {packet : Nat} (hfrag : d.fragment packet = true) (env : ReceiveEnv)
    : (.sendPacket packet ∈ receiveCalls d env packet ↔
        d.allocateRequest = true ∧ OthersApprove d packet ∧ env.datagram ≠ none ∧
          (processRequest d none).1.ntSuccess = true) ∧
      (.sendPacket packet ∈ receiveCalls d env packet → ∃ others calls,
        receiveCalls d env packet =
          calls ++ (fwInjectRequest d none (datagramRequest others packet)).calls) := by
  obtain ⟨pre, post, heq, hpre, hpost⟩ := hd.split
  have hlog := log_isInstanceCall d packet hpre
  have hempty : d.fwInstancesList.isEmpty = false := by simpa using hne
  have hcalls : (fltInjectRequest d none packet).2 =
      (Chain.callWhile NtStatus.success (callInstance d packet) pre).2 ++
        if (Chain.callWhile NtStatus.success (callInstance d packet) pre).1 = NtStatus.success ∧
            d.allocateRequest = true then
          [.reassemblePacket packet]
        else
          [] := by
    rw [fltInjectRequest_none_eq packet heq hpre]
    by_cases hgood : (Chain.callWhile NtStatus.success (callInstance d packet) pre).1 = NtStatus.success
    . cases halloc : d.allocateRequest with
      | true =>
        have hrc : requestCallback d packet = (NtStatus.unsuccessful, [.reassemblePacket packet]) := by
          simp [requestCallback, hempty, halloc, hfrag]
        rw [hrc, if_pos hgood, if_neg NtStatus.unsuccessful_ne_success, if_pos ⟨hgood, rfl⟩]
      | false =>
        have hrc : requestCallback d packet = (NtStatus.insufficientResources, []) := by
          simp [requestCallback, hempty, halloc]
        rw [hrc, if_pos hgood, if_neg NtStatus.insufficientResources_ne_success, if_neg (by simp)]
    . rw [if_neg hgood, if_neg (fun h => hgood h.1), List.append_nil]
  have hmem : .reassemblePacket packet ∈ (fltInjectRequest d none packet).2 ↔
      (Chain.callWhile NtStatus.success (callInstance d packet) pre).1 = NtStatus.success ∧
        d.allocateRequest = true := by
    rw [hcalls, List.mem_append]
    split
    . next h => exact iff_of_true (Or.inr (List.mem_singleton_self _)) h
    . next h =>
      apply iff_of_false
      . simp [reassemblePacket_not_instanceCall hlog]
      . exact h
  have hnot : Call.sendPacket packet ∉ (fltInjectRequest d none packet).2 := by
    rw [hcalls, List.mem_append, not_or]
    refine ⟨sendPacket_not_instanceCall hlog, ?_⟩
    split
    . simp
    . simp
  rw [othersApprove_iff packet heq hpre hpost]
  unfold receiveCalls
  simp only
  by_cases hqueued : .reassemblePacket packet ∈ (fltInjectRequest d none packet).2
  . obtain ⟨hgood, halloc⟩ := hmem.mp hqueued
    rw [if_pos hqueued]
    cases hdatagram : env.datagram with
    | none => simp [hnot]
    | some others =>
      refine ⟨?_, fun _ => ⟨others, _, rfl⟩⟩
      rw [List.mem_append, sendPacket_mem_datagram heq hpre hpost hd.connected]
      simp only [hnot, false_or, halloc, hgood, true_and]
      constructor
      . intro ⟨hpass, hgood'⟩
        exact ⟨hgood', by simp, hpass⟩
      . intro ⟨hgood', _, hpass⟩
        exact ⟨hpass, hgood'⟩
  . rw [if_neg hqueued]
    refine ⟨iff_of_false hnot ?_, fun h => absurd h hnot⟩
    intro ⟨halloc, ⟨hgood, _⟩, _⟩
    exact hqueued (hmem.mpr ⟨hgood, halloc⟩)

omit hd in
theorem requestCallback_cases {packet : Nat} (hfrag : d.fragment packet = false)
    : requestCallback d packet = processRequest d none ∨
        requestCallback d packet = (NtStatus.insufficientResources, []) := by
  have hempty : d.fwInstancesList.isEmpty = false := by simpa using hne
  cases halloc : d.allocateRequest with
  | true => exact Or.inl (by simp [requestCallback, hempty, halloc, hfrag])
  | false => exact Or.inr (by simp [requestCallback, hempty, halloc])

omit hd in
theorem client_of_requestCallback {packet : Nat} (hfrag : d.fragment packet = false)
    : ∀ c ∈ (requestCallback d packet).2, ∃ i, c = .client i := by
  rcases requestCallback_cases hne hfrag with hrc | hrc
  . rw [hrc]
    exact client_of_processRequest d none
  . rw [hrc]
    intro c hc
    cases hc

omit hd in
theorem approved_of_requestCallback {packet : Nat} (hfrag : d.fragment packet = false)
    (h : (requestCallback d packet).1 = NtStatus.success)
    : Approved d none (requestCallback d packet).2 := by
  rcases requestCallback_cases hne hfrag with hrc | hrc
  . rw [hrc] at h ⊢
    rcases processRequest_cases d none with ⟨_, _, happroved⟩ | ⟨⟨i, hi, hbad⟩, _⟩
    . exact happroved
    . exact absurd ((Chain.callWhile_good_iff NtStatus.success (callClient d) _).mp h i hi) hbad
  . rw [hrc] at h
    exact absurd h NtStatus.insufficientResources_ne_success

theorem approved_of_sendPacket {packet : Nat} (hfrag : d.fragment packet = false) {env : ReceiveEnv}
    (h : .sendPacket packet ∈ receiveCalls d env packet)
    : Approved d none (receiveCalls d env packet) := by
  obtain ⟨pre, post, heq, hpre, hpost⟩ := hd.split
  have hlog := log_isInstanceCall d packet hpre
  have hcallback : ∀ c ∈ (requestCallback d packet).2, c ≠ .reassemblePacket packet ∧
      c ≠ .sendPacket packet := by
    intro c hc
    obtain ⟨i, rfl⟩ := client_of_requestCallback hne hfrag c hc
    exact ⟨by simp, by simp⟩
  have hansfw : Call.reassemblePacket packet ∉ (fltInjectRequest d (some .ansfw) packet).2 := by
    have hnot : Call.reassemblePacket packet ∉ _ :=
      reassemblePacket_not_instanceCall (log_isInstanceCall d packet hpost)
    rw [fltInjectRequest_ansfw_eq packet heq hpre]
    split
    . simp [hnot]
    . exact hnot
  have hnone := fltInjectRequest_none_eq packet heq hpre
  have hnot : Call.reassemblePacket packet ∉ (fltInjectRequest d none packet).2 := by
    rw [hnone]
    split
    . rw [List.mem_append, not_or]
      refine ⟨reassemblePacket_not_instanceCall hlog, ?_⟩
      split
      . rw [List.mem_append, not_or]
        exact ⟨fun hmem => (hcallback _ hmem).1 rfl, hansfw⟩
      . exact fun hmem => (hcallback _ hmem).1 rfl
    . exact reassemblePacket_not_instanceCall hlog
  have hcalls : receiveCalls d env packet = (fltInjectRequest d none packet).2 := if_neg hnot
  rw [hcalls, hnone] at h ⊢
  split at h
  . next hgood =>
    rw [if_pos hgood]
    rcases List.mem_append.mp h with h | h
    . exact absurd h (sendPacket_not_instanceCall hlog)
    . split at h
      . next hrc =>
        rw [if_pos hrc]
        intro i hi
        obtain ⟨hasked, hstatus⟩ := approved_of_requestCallback hne hfrag hrc i hi
        exact ⟨List.mem_append_right _ (List.mem_append_left _ hasked), hstatus⟩
      . exact absurd rfl (hcallback _ h).2
  . exact absurd h (sendPacket_not_instanceCall hlog)

end Frames

/-! ### The handlers -/

section Handlers

variable {d}

theorem ptReceive_of_allocated {env : ReceiveEnv} {frame : Frame} (hready : env.ready = true)
    (hscope : (Handler.ptReceive env frame).InScope) (h : ReceiveAllocated env frame)
    : (Transferred env frame ∧ env.allocateMemory = true →
          ptReceive d env frame = (receiveCalls d env frame.packet).map .call) ∧
        (¬(Transferred env frame ∧ env.allocateMemory = true) → ptReceive d env frame = []) := by
  obtain ⟨hloop, hsize⟩ := hscope
  unfold ptReceive
  simp only [hready, hloop, h.packet, h.buffer, Nat.not_lt.mpr hsize, Bool.not_true,
    Bool.false_eq_true, if_false]
  by_cases hresidual : frame.packetSize ≤ frame.lookAheadBufferSize
  . have hzero : ¬(frame.packetSize - frame.lookAheadBufferSize ≠ 0) := by omega
    have htransferred : Transferred env frame := Or.inl hresidual
    rw [if_neg hzero, ptTransferDataComplete, if_neg (by simp)]
    exact ⟨fun hall => if_pos hall.2, fun hnot => if_neg fun hmem => hnot ⟨htransferred, hmem⟩⟩
  . have hpos : frame.packetSize - frame.lookAheadBufferSize ≠ 0 := by omega
    have htransferred : Transferred env frame ↔ env.transferDataStatus = .success :=
      or_iff_right hresidual
    rw [if_pos hpos, if_pos (h.residual (by omega)), ptTransferDataComplete, htransferred]
    constructor
    . intro ⟨hstatus, hmem⟩
      rw [if_neg (fun hbad => hbad hstatus), if_pos hmem]
    . intro hnot
      by_cases hstatus : env.transferDataStatus = .success
      . rw [if_neg (fun hbad => hbad hstatus), if_neg (fun hmem => hnot ⟨hstatus, hmem⟩)]
      . rw [if_pos hstatus]

theorem ptReceive_of_not_allocated {env : ReceiveEnv} {frame : Frame} (hready : env.ready = true)
    (hscope : (Handler.ptReceive env frame).InScope) (h : ¬ReceiveAllocated env frame)
    : ptReceive d env frame = [.indicateReceive] := by
  obtain ⟨hloop, hsize⟩ := hscope
  unfold ptReceive
  simp only [hready, hloop, Nat.not_lt.mpr hsize, Bool.not_true, Bool.false_eq_true, if_false]
  split
  . rfl
  . next hpacket =>
    split
    . rfl
    . next hbuffer =>
      rw [if_pos, if_neg]
      . intro hresidual
        exact h ⟨by simpa using hpacket, by simpa using hbuffer, fun _ => hresidual⟩
      . intro hzero
        exact h ⟨by simpa using hpacket, by simpa using hbuffer, fun hlt => by omega⟩

theorem call_mem_map {c : Call} {calls : List Call} : Action.call c ∈ calls.map .call ↔ c ∈ calls := by
  simp

variable (hd : Registered d) (hne : d.fwInstancesList ≠ [])
include hd hne

theorem seen_ptReceive_iff {env : ReceiveEnv} {frame : Frame}
    (hscope : (Handler.ptReceive env frame).InScope)
    : Seen d (.ptReceive env frame) ↔ Guarded d (.ptReceive env frame) := by
  obtain ⟨i, hi⟩ := List.exists_mem_of_ne_nil _ hne
  unfold Seen Guarded
  simp only [Handler.GoesOn, Handler.actions]
  by_cases hready : env.ready = true
  . by_cases halloc : ReceiveAllocated env frame
    . obtain ⟨hcalls, hnil⟩ := ptReceive_of_allocated (d := d) hready hscope halloc
      by_cases hthere : Transferred env frame ∧ env.allocateMemory = true
      . rw [hcalls hthere]
        simp only [call_mem_map]
        have hup : Action.indicateReceive ∉ (receiveCalls d env frame.packet).map Action.call := by simp
        cases hfrag : d.fragment frame.packet with
        | false =>
          refine iff_of_true ?_ (fun _ => ⟨halloc, fun h => ?_⟩)
          . rintro (hbad | ⟨hsend, _⟩)
            . exact absurd hbad hup
            . exact approved_of_sendPacket hd hne hfrag hsend
          . cases hfrag.symm.trans h.fragment
        | true =>
          obtain ⟨hiff, hsuffix⟩ := sendPacket_mem_fragment hd hne hfrag env
          constructor
          . intro hseen _
            refine ⟨halloc, fun h => refusalFails_of_approved d fun hpass j hj => ?_⟩
            have hsend := hiff.mpr ⟨h.allocateRequest, h.others, h.datagram, hpass⟩
            exact (hseen (Or.inr ⟨hsend, h.sendPacket⟩) j hj).2
          . intro hguarded hgoes
            rcases hgoes with hbad | ⟨hsend, hsends⟩
            . exact absurd hbad hup
            . obtain ⟨halloc', hothers, hdatagram, hpass⟩ := hiff.mp hsend
              have hrefusal := (hguarded hready).2
                ⟨hthere.1, hthere.2, hfrag, halloc', hothers, hdatagram, hsends⟩
              obtain ⟨others, calls, heq⟩ := hsuffix hsend
              rw [heq]
              intro j hj
              obtain ⟨hasked, hstatus⟩ :=
                approved_of_refusalFails d (datagramRequest others frame.packet) hrefusal hpass j hj
              exact ⟨List.mem_append_right _ hasked, hstatus⟩
      . rw [hnil hthere]
        apply iff_of_true
        . rintro (hbad | ⟨hbad, _⟩)
          . cases hbad
          . cases hbad
        . exact fun _ => ⟨halloc, fun h => absurd ⟨h.transferred, h.allocateMemory⟩ hthere⟩
    . -- the frame goes up without being looked at
      rw [ptReceive_of_not_allocated hready hscope halloc]
      apply iff_of_false
      . intro h
        have hasked := (h (Or.inl (List.mem_singleton_self _)) i hi).1
        simp at hasked
      . intro h
        exact halloc (h hready).1
  . have hnil : ptReceive d env frame = [] := by
      unfold ptReceive
      rw [if_pos (by simpa using hready)]
    rw [hnil]
    apply iff_of_true
    . rintro (hbad | ⟨hbad, _⟩)
      . cases hbad
      . cases hbad
    . exact fun h => absurd h hready

omit hd in
theorem seen_tdiConnectionOk_iff (env : TdiEnv)
    : Seen d (.tdiConnectionOk env) ↔ Guarded d (.tdiConnectionOk env) := by
  obtain ⟨i, hi⟩ := List.exists_mem_of_ne_nil _ hne
  have hempty : d.fwInstancesList.isEmpty = false := by simpa using hne
  unfold Seen Guarded
  simp only [Handler.GoesOn, Handler.actions, tdiConnectionOk, fwThread, hempty]
  cases halloc : env.allocateRequest with
  | false =>
    apply iff_of_false
    . intro h
      have hasked := (h (Or.inl (List.mem_singleton_self _)) i hi).1
      simp at hasked
    . intro h
      cases h.1
  | true =>
    cases hcancelled : env.cancelled with
    | true => simp
    | false =>
      cases hrequest : env.allocateFwRequest with
      | false =>
        apply iff_of_false
        . intro h
          have hasked := (h (Or.inl List.mem_cons_self) i hi).1
          simp at hasked
        . intro h
          cases (h.2 rfl).1
      | true =>
        have hmem : ∀ c : Call,
            Action.call c ∈ (fwInjectRequest d none localRequest).calls.map Action.call ++
                [.freeCloneRequest] ↔
              c ∈ (fwInjectRequest d none localRequest).calls := by simp
        simp only [Bool.not_true, Bool.false_eq_true, if_false, if_true, hmem,
          injectLoopbackRequest_mem, true_and]
        constructor
        . intro h
          exact fun _ => refusalFails_of_approved d fun hpass j hj => (h (Or.inr hpass) j hj).2
        . intro h hgoes
          rcases hgoes with hbad | hpass
          . simp at hbad
          . exact approved_of_refusalFails d localRequest (h trivial) hpass

omit hd in
theorem seen_outboundTransportV4Classify_iff {env : ClassifyEnv} {classifyOut : ClassifyOut}
    (hscope : (Handler.outboundTransportV4Classify env classifyOut).InScope)
    : Seen d (.outboundTransportV4Classify env classifyOut) ↔
        Guarded d (.outboundTransportV4Classify env classifyOut) := by
  obtain ⟨i, hi⟩ := List.exists_mem_of_ne_nil _ hne
  obtain ⟨hself, hlocal⟩ := hscope
  unfold Seen Guarded
  simp only [Handler.GoesOn, Handler.actions, outboundTransportV4Classify]
  by_cases hblocked : (!classifyOut.rightsWrite && classifyOut.actionType == .block) = true
  . have hboth : classifyOut.rightsWrite = false ∧ classifyOut.actionType = .block := by
      simpa using hblocked
    rw [if_pos hblocked]
    apply iff_of_true
    . rintro (hbad | ⟨hbad, _⟩)
      . rw [hboth.2] at hbad
        cases hbad
      . cases hbad
    . rintro (hbad | hbad)
      . rw [hboth.1] at hbad
        cases hbad
      . exact absurd hboth.2 hbad
  . have hopen : classifyOut.rightsWrite = true ∨ classifyOut.actionType ≠ .block := by
      by_cases hrights : classifyOut.rightsWrite = true
      . exact Or.inl hrights
      . refine Or.inr fun haction => hblocked ?_
        simp [haction, hrights]
    rw [if_neg hblocked]
    simp only [hself, hlocal, Bool.not_true, Bool.or_false, Bool.false_eq_true, if_false]
    by_cases hclone : env.allocateCloneStatus.ntSuccess = true
    . cases hpool : env.allocatePool with
      | false =>
        simp only [hclone, Bool.not_true, Bool.not_false, Bool.false_eq_true, if_false, if_true]
        apply iff_of_false
        . intro h
          have hasked := (h (Or.inl trivial) i hi).1
          cases hasked
        . intro h
          cases (h hopen).2.1
      | true =>
        have hmem : ∀ c : Call,
            Action.call c ∈ (fwInjectRequest d none localRequest).calls.map Action.call ++
                [.freeCloneRequest] ↔
              c ∈ (fwInjectRequest d none localRequest).calls := by simp
        simp only [hclone, Bool.not_true, Bool.false_eq_true, if_false, hmem,
          injectLoopbackRequest_mem, reduceCtorEq, false_or, true_and]
        constructor
        . intro h _ hsend
          exact refusalFails_of_approved d fun hpass j hj => (h ⟨hpass, hsend⟩ j hj).2
        . intro h ⟨hpass, hsend⟩
          exact approved_of_refusalFails d localRequest (h hopen hsend) hpass
    . simp only [hclone, Bool.not_false, if_true]
      apply iff_of_false
      . intro h
        have hasked := (h (Or.inl trivial) i hi).1
        cases hasked
      . intro h
        cases (h hopen).1

/--
Whatever the system does, nothing gets past a client if and only if the handler's allocations succeed or
drop the packet, and refusals fail what goes through `FWInjectRequest`.
-/
theorem seen_iff_guarded {h : Handler} (hscope : h.InScope) : Seen d h ↔ Guarded d h := by
  cases h with
  | ptReceive env frame => exact seen_ptReceive_iff hd hne hscope
  | tdiConnectionOk env => exact seen_tdiConnectionOk_iff hne env
  | outboundTransportV4Classify env classifyOut =>
    exact seen_outboundTransportV4Classify_iff hne hscope

end Handlers

def refusingClient : Drivers where
  fwInstancesList := [0]
  clientStatus := fun _ => NtStatus.unsuccessful
  fltInstancesList := [.ansfw]
  instanceStatus := fun _ _ => NtStatus.success
  bFltConnected := true
  allocateRequest := true
  fragment := fun _ => false

theorem registered_refusingClient : Registered refusingClient :=
  ⟨by decide, by decide, by decide, rfl⟩

def smallFrame : Frame where
  headerBufferSize := 14
  lookAheadBufferSize := 46
  packetSize := 46
  packet := 0

def packetPool (allocatePacket : Bool) : ReceiveEnv where
  ready := true
  loopback := false
  allocatePacket := allocatePacket
  allocateBuffer := true
  allocateResidualBuffer := true
  transferDataStatus := .success
  allocateMemory := true
  sendPacket := true
  datagram := none

theorem inScope_smallFrame (allocatePacket : Bool)
    : (Handler.ptReceive (packetPool allocatePacket) smallFrame).InScope := ⟨rfl, by decide⟩

theorem seen_smallFrame : Seen refusingClient (.ptReceive (packetPool true) smallFrame) := by
  rw [seen_iff_guarded registered_refusingClient (by decide) (inScope_smallFrame true)]
  exact fun _ => ⟨⟨rfl, rfl, fun _ => rfl⟩, fun h => absurd rfl h.datagram⟩

theorem not_seen_smallFrame
    : ¬∀ (d : Drivers) (h : Handler), Registered d → d.fwInstancesList ≠ [] → h.InScope →
        Seen d h := by
  intro h
  have hseen := h refusingClient (.ptReceive (packetPool false) smallFrame) registered_refusingClient
    (by decide) (inScope_smallFrame false)
  have hasked := (hseen (Or.inl (by decide)) 0 (by decide)).1
  revert hasked
  decide

end Ansfw
