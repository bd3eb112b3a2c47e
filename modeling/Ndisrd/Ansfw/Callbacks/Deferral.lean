import Ndisrd.Ansfw.Callbacks.Instances

/-!
This module contains deferred decisions: clients that clone a request, refuse it for the moment and
inject it later. Whatever they defer, the packet takes the way it would take if they had approved it at
once.
-/

open ReqFlags

namespace Ansfw

variable (d : Drivers) (defers : Nat → Bool) (packet : Nat)

def withStatus (clientStatus : Nat → NtStatus) : Drivers := { d with clientStatus := clientStatus }

def prompt : Drivers :=
  withStatus d fun i => if defers i then NtStatus.success else d.clientStatus i

def packetRequest : InjectedRequest where
  reqFlags := 0#32
  packet := packet
  fragments := []

def parkedBy (calls : List Call) : List Nat :=
  calls.filterMap fun c =>
    match c with
    | .client i => if defers i then some i else none
    | _ => none

/--
A packet on its way: the calls it has gone through, and the clients that hold it for later.
-/
structure Way where
  calls : List Call
  parked : List Nat

def arrive : Way :=
  let calls := (fltInjectRequest d none packet).2
  { calls, parked := parkedBy defers calls }

def resume (w : Way) (i : Nat) : Way :=
  let calls := (fwInjectRequest d (some i) (packetRequest packet)).calls
  { calls := w.calls ++ calls, parked := w.parked.erase i ++ parkedBy defers calls }

inductive Reached : Way → Prop where
  | arrive : Reached (arrive d defers packet)
  | resume {w : Way} {i : Nat} (hw : Reached w) (hi : i ∈ w.parked)
      : Reached (resume d defers packet w i)

-- A deferring client refuses for the moment: `FWInjectRequest` goes on at any other status.
structure Answers : Prop where
  status : ∀ i ∈ d.fwInstancesList,
    d.clientStatus i = NtStatus.success ∨ (d.clientStatus i).ntSuccess = false
  defers : ∀ i ∈ d.fwInstancesList, defers i = true → (d.clientStatus i).ntSuccess = false

def onward (clients : List Nat) : List Call :=
  let called := Chain.callWhile NtStatus.success (callClient d) clients
  if called.1 = NtStatus.success then
    called.2 ++ (fltInjectRequest d (some .ansfw) packet).2
  else
    called.2

/-! ### The instances around `ansfw` -/

theorem parkedBy_append (calls calls' : List Call)
    : parkedBy defers (calls ++ calls') = parkedBy defers calls ++ parkedBy defers calls' :=
  List.filterMap_append

theorem parkedBy_of_instances {calls : List Call} (h : ∀ c ∈ calls, IsInstanceCall packet c)
    : parkedBy defers calls = [] := by
  rw [parkedBy, List.filterMap_eq_nil_iff]
  intro c hc
  obtain ⟨j, rfl⟩ := h c hc
  rfl

theorem callInstance_withStatus (f : Nat → NtStatus) {x : FltInstance} (hx : x ≠ .ansfw)
    : callInstance (withStatus d f) packet x = callInstance d packet x := by
  cases x with
  | ansfw => exact absurd rfl hx
  | other j => rfl

section Instances

variable {d} (hd : Registered d)
include hd

theorem fltInjectRequest_ansfw
    : ∃ status calls, (∀ c ∈ calls, IsInstanceCall packet c) ∧
        ∀ f, fltInjectRequest (withStatus d f) (some .ansfw) packet =
          if status = NtStatus.success then
            (status, calls ++ [.sendPacket packet])
          else
            (status, calls) := by
  obtain ⟨pre, post, heq, hpre, hpost⟩ := hd.split
  refine ⟨(Chain.callWhile NtStatus.success (callInstance d packet) post).1,
    (Chain.callWhile NtStatus.success (callInstance d packet) post).2,
    log_isInstanceCall d packet hpost, ?_⟩
  intro f
  have hcongr := Chain.callWhile_congr NtStatus.success (callInstance (withStatus d f) packet)
    (fun x hx => callInstance_withStatus d packet f (hpost x hx))
  have hlist : (withStatus d f).fltInstancesList = pre ++ .ansfw :: post := heq
  rw [fltInjectRequest_ansfw_eq packet hlist hpre, hcongr]

theorem fltInjectRequest_ansfw_withStatus (f : Nat → NtStatus)
    : fltInjectRequest (withStatus d f) (some .ansfw) packet =
        fltInjectRequest d (some .ansfw) packet := by
  obtain ⟨status, calls, _, hflt⟩ := fltInjectRequest_ansfw packet hd
  have hself := hflt d.clientStatus
  rw [hflt f, ← hself]
  rfl

theorem parkedBy_fltInjectRequest_ansfw
    : parkedBy defers (fltInjectRequest d (some .ansfw) packet).2 = [] := by
  obtain ⟨status, calls, hcalls, hflt⟩ := fltInjectRequest_ansfw packet hd
  have hself : fltInjectRequest d (some .ansfw) packet = _ := hflt d.clientStatus
  have hnil := parkedBy_of_instances defers packet hcalls
  rw [hself]
  split
  . rw [parkedBy_append, hnil]
    rfl
  . exact hnil

theorem fltInjectRequest_none (hfrag : d.fragment packet = false)
    : ∃ (calls : List Call) (reaches : Bool), (∀ c ∈ calls, IsInstanceCall packet c) ∧
        ∀ f, (fltInjectRequest (withStatus d f) none packet).2 =
          calls ++ if reaches then onward (withStatus d f) packet d.fwInstancesList else [] := by
  obtain ⟨pre, post, heq, hpre, hpost⟩ := hd.split
  have hcongr : ∀ f, Chain.callWhile NtStatus.success (callInstance (withStatus d f) packet) pre =
      Chain.callWhile NtStatus.success (callInstance d packet) pre := fun f =>
    Chain.callWhile_congr _ _ fun x hx => callInstance_withStatus d packet f (hpre x hx)
  have hlog := log_isInstanceCall d packet hpre
  have hnone : ∀ f, (fltInjectRequest (withStatus d f) none packet).2 = _ := fun f =>
    fltInjectRequest_none_eq (d := withStatus d f) packet heq hpre
  by_cases hgood : (Chain.callWhile NtStatus.success (callInstance d packet) pre).1 = NtStatus.success
  . -- the packet gets to `ansfw`
    by_cases hreach : d.fwInstancesList = [] ∨ d.allocateRequest = true
    . refine ⟨_, true, hlog, ?_⟩
      intro f
      rw [hnone f, hcongr f, if_pos hgood, if_pos rfl]
      congr 1
      have hrc : requestCallback (withStatus d f) packet =
          Chain.callWhile NtStatus.success (callClient (withStatus d f)) d.fwInstancesList := by
        unfold requestCallback
        rcases hreach with hempty | halloc
        . simp [withStatus, hempty]
        . by_cases hempty : d.fwInstancesList = []
          . simp [withStatus, hempty]
          . simp [withStatus, hempty, halloc, hfrag, processRequest, Chain.after]
      rw [hrc]
      rfl
    . obtain ⟨hempty, halloc⟩ := not_or.mp hreach
      refine ⟨_, false, hlog, ?_⟩
      intro f
      have hrc : requestCallback (withStatus d f) packet = (NtStatus.insufficientResources, []) := by
        simp [requestCallback, withStatus, hempty, halloc]
      rw [hnone f, hcongr f, if_pos hgood, hrc, if_neg (by decide)]
      rfl
  . refine ⟨_, false, hlog, ?_⟩
    intro f
    rw [hnone f, hcongr f, if_neg hgood]
    exact (List.append_nil _).symm

end Instances

/-! ### The way through the clients -/

theorem onward_cons_success {i : Nat} (h : d.clientStatus i = NtStatus.success) (is : List Nat)
    : onward d packet (i :: is) = .client i :: onward d packet is := by
  have hcall : (callClient d i).1 = NtStatus.success := h
  unfold onward
  simp only [Chain.callWhile_cons_good NtStatus.success (callClient d) hcall]
  split
  . rfl
  . rfl

theorem onward_cons_refusal {i : Nat} (h : d.clientStatus i ≠ NtStatus.success) (is : List Nat)
    : onward d packet (i :: is) = [.client i] := by
  have hcall : (callClient d i).1 ≠ NtStatus.success := h
  unfold onward
  simp only [Chain.callWhile_cons_bad NtStatus.success (callClient d) hcall]
  rw [if_neg hcall]
  rfl

theorem calls_fwInjectRequest_packetRequest (hconn : d.bFltConnected = true) (i : Nat)
    (hstatus : ∀ j ∈ Chain.after (some i) d.fwInstancesList,
      d.clientStatus j = NtStatus.success ∨ (d.clientStatus j).ntSuccess = false)
    : (fwInjectRequest d (some i) (packetRequest packet)).calls =
        onward d packet (Chain.after (some i) d.fwInstancesList) := by
  have hflags : (packetRequest packet).reqFlags = 0#32 := rfl
  unfold fwInjectRequest onward
  simp only [processRequest, hflags, ReqFlags.has_zero, hconn]
  rcases Chain.callWhile_cases NtStatus.success (callClient d)
    (Chain.after (some i) d.fwInstancesList) with hall | ⟨xs, j, ys, heq, hxs, hj, hcall⟩
  . rw [Chain.callWhile_log_of_good NtStatus.success (callClient d) hall]
    simp [packetRequest]
  . have hfail : (callClient d j).1.ntSuccess = false := by
      rcases hstatus j (by rw [heq]; simp) with h | h
      . exact absurd h hj
      . exact h
    rw [hcall]
    simp [hfail, hj]

section Clients

variable {d defers} (hd : Registered d) (ha : Answers d defers)
include hd ha

theorem onward_deferred {clients : List Nat} (hclients : ∀ i ∈ clients, i ∈ d.fwInstancesList)
    : (parkedBy defers (onward d packet clients) = [] ∧
          onward (prompt d defers) packet clients = onward d packet clients) ∨
        ∃ xs i ys, clients = xs ++ i :: ys ∧
          parkedBy defers (onward d packet clients) = [i] ∧
          onward (prompt d defers) packet clients =
            onward d packet clients ++ onward (prompt d defers) packet ys := by
  induction clients with
  | nil =>
    refine Or.inl ⟨?_, ?_⟩
    . simpa [onward] using parkedBy_fltInjectRequest_ansfw defers packet hd
    . simp [onward, prompt, fltInjectRequest_ansfw_withStatus packet hd]
  | cons i is ih =>
    obtain ⟨hi, his⟩ := List.forall_mem_cons.mp hclients
    by_cases hdef : defers i = true
    . -- `i` defers, which the drivers see as a refusal
      have hfail := ha.defers i hi hdef
      have hrefusal : d.clientStatus i ≠ NtStatus.success := by
        intro h
        rw [h, NtStatus.ntSuccess_success] at hfail
        cases hfail
      have hprompt : (prompt d defers).clientStatus i = NtStatus.success := if_pos hdef
      refine Or.inr ⟨[], i, is, rfl, ?_, ?_⟩
      . rw [onward_cons_refusal d packet hrefusal]
        simp [parkedBy, hdef]
      . rw [onward_cons_refusal d packet hrefusal, onward_cons_success _ packet hprompt]
        rfl
    . have hprompt : (prompt d defers).clientStatus i = d.clientStatus i := if_neg hdef
      by_cases hsuccess : d.clientStatus i = NtStatus.success
      . have hnone : parkedBy defers [Call.client i] = [] := by
          simp [parkedBy, hdef]
        rw [onward_cons_success d packet hsuccess,
          onward_cons_success _ packet (hprompt.trans hsuccess)]
        rcases ih his with ⟨hparked, hsame⟩ | ⟨xs, j, ys, heq, hparked, hrest⟩
        . refine Or.inl ⟨?_, by rw [hsame]⟩
          rw [← List.singleton_append, parkedBy_append, hnone, hparked]
          rfl
        . refine Or.inr ⟨i :: xs, j, ys, by rw [heq]; rfl, ?_, by rw [hrest]; rfl⟩
          rw [← List.singleton_append, parkedBy_append, hnone, hparked]
          rfl
      . have hrefusal : (prompt d defers).clientStatus i ≠ NtStatus.success := by rwa [hprompt]
        refine Or.inl ⟨?_, ?_⟩
        . rw [onward_cons_refusal d packet hsuccess]
          simp [parkedBy, hdef]
        . rw [onward_cons_refusal d packet hsuccess, onward_cons_refusal _ packet hrefusal]

/-! ### The ways of a packet -/

def promptCalls (d : Drivers) (defers : Nat → Bool) (packet : Nat) : List Call :=
  (fltInjectRequest (prompt d defers) none packet).2

def Through (d : Drivers) (defers : Nat → Bool) (packet : Nat) (w : Way) : Prop :=
  w.parked = [] ∧ promptCalls d defers packet = w.calls

def Waiting (d : Drivers) (defers : Nat → Bool) (packet : Nat) (w : Way) (i : Nat) (ys : List Nat) : Prop :=
  (∃ xs, d.fwInstancesList = xs ++ i :: ys) ∧ w.parked = [i] ∧
    promptCalls d defers packet = w.calls ++ onward (prompt d defers) packet ys

def OnTheWay (d : Drivers) (defers : Nat → Bool) (packet : Nat) (w : Way) : Prop :=
  Through d defers packet w ∨ ∃ i ys, Waiting d defers packet w i ys

theorem onTheWay_arrive (hfrag : d.fragment packet = false)
    : OnTheWay d defers packet (arrive d defers packet) := by
  obtain ⟨calls, reaches, hcalls, hflt⟩ := fltInjectRequest_none packet hd hfrag
  have hself : (fltInjectRequest d none packet).2 = _ := hflt d.clientStatus
  have hprompt : promptCalls d defers packet = _ := hflt _
  have hnil := parkedBy_of_instances defers packet hcalls
  cases reaches with
  | false =>
    refine Or.inl ⟨?_, ?_⟩
    . rw [arrive, hself]
      simpa using hnil
    . rw [hprompt, arrive, hself]
      rfl
  | true =>
    have hown : withStatus d d.clientStatus = d := rfl
    simp only [hown, if_true] at hself
    rcases onward_deferred packet hd ha (fun i hi => hi) with
      ⟨hparked, hsame⟩ | ⟨xs, i, ys, heq, hparked, hrest⟩
    . refine Or.inl ⟨?_, ?_⟩
      . simp only [arrive, hself]
        rw [parkedBy_append, hnil, hparked]
        rfl
      . rw [hprompt, arrive, hself]
        simp only [if_true]
        rw [← hsame]
        rfl
    . refine Or.inr ⟨i, ys, ⟨xs, heq⟩, ?_, ?_⟩
      . simp only [arrive, hself]
        rw [parkedBy_append, hnil, hparked]
        rfl
      . rw [hprompt, arrive, hself]
        simp only [if_true]
        rw [List.append_assoc, ← hrest]
        rfl

theorem Waiting.resume {w : Way} {i : Nat} {ys : List Nat} (hw : Waiting d defers packet w i ys)
    : Through d defers packet (resume d defers packet w i) ∨
        ∃ k ys', ys'.length < ys.length ∧
          Waiting d defers packet (Ansfw.resume d defers packet w i) k ys' := by
  obtain ⟨⟨xs, heq⟩, hparked, hcalls⟩ := hw
  have hnodup := hd.clients
  rw [heq] at hnodup
  have hxs : i ∉ xs := fun h => (List.nodup_append.mp hnodup).2.2 i h i List.mem_cons_self rfl
  have hafter : Chain.after (some i) d.fwInstancesList = ys := by
    rw [heq, Chain.after_some_append hxs]
  -- from here it is the way through the clients behind `i`
  have hmem : ∀ k ∈ ys, k ∈ d.fwInstancesList := by
    intro k hk
    rw [heq]
    exact List.mem_append_right _ (List.mem_cons_of_mem _ hk)
  have hinject := calls_fwInjectRequest_packetRequest d packet hd.connected i
    (by rw [hafter]; exact fun k hk => ha.status k (hmem k hk))
  rw [hafter] at hinject
  have herase : w.parked.erase i = [] := by simp [hparked]
  rcases onward_deferred packet hd ha hmem with
    ⟨hnone, hsame⟩ | ⟨xs', k, ys', heq', hparked', hrest⟩
  . refine Or.inl ⟨?_, ?_⟩
    . simp only [Ansfw.resume, hinject, herase, hnone]
      rfl
    . rw [hcalls, hsame]
      simp only [Ansfw.resume, hinject]
  . refine Or.inr ⟨k, ys', ?_, ⟨xs ++ i :: xs', ?_⟩, ?_, ?_⟩
    . rw [heq']
      simp
      omega
    . rw [heq, heq']
      simp
    . simp only [Ansfw.resume, hinject, herase, hparked']
      rfl
    . rw [hcalls, hrest, ← List.append_assoc]
      simp only [Ansfw.resume, hinject]

theorem Reached.onTheWay (hfrag : d.fragment packet = false) {w : Way}
    (hw : Reached d defers packet w)
    : OnTheWay d defers packet w := by
  induction hw with
  | arrive => exact onTheWay_arrive packet hd ha hfrag
  | @resume w i hw hi ih =>
    rcases ih with ⟨hparked, _⟩ | ⟨j, ys, hwait⟩
    . rw [hparked] at hi
      cases hi
    . rw [hwait.2.1, List.mem_singleton] at hi
      rw [← hi] at hwait
      rcases hwait.resume packet hd ha with hthrough | ⟨k, ys', _, hwait'⟩
      . exact Or.inl hthrough
      . exact Or.inr ⟨k, ys', hwait'⟩

theorem Waiting.finishes {n : Nat}
    : ∀ {w : Way} {i : Nat} {ys : List Nat}, ys.length < n → Reached d defers packet w →
        Waiting d defers packet w i ys →
        ∃ w', Reached d defers packet w' ∧ w.calls <+: w'.calls ∧ w'.parked = [] := by
  -- with each resumption fewer clients are left
  induction n with
  | zero =>
    intro w i ys hlen
    omega
  | succ n ih =>
    intro w i ys hlen hreached hw
    have hi : i ∈ w.parked := by
      rw [hw.2.1]
      apply List.mem_singleton_self
    have hnext := Reached.resume hreached hi
    have hgrow : w.calls <+: (Ansfw.resume d defers packet w i).calls := List.prefix_append _ _
    rcases hw.resume packet hd ha with hthrough | ⟨k, ys', hlt, hwait⟩
    . exact ⟨_, hnext, hgrow, hthrough.1⟩
    . obtain ⟨w', hw', hpref, hparked⟩ := ih (by omega) hnext hwait
      exact ⟨w', hw', hgrow.trans hpref, hparked⟩

end Clients

/-! ### How often a packet is seen -/

section Counts

variable {d} (hd : Registered d)
include hd

theorem count_fltInjectRequest_ansfw
    : (∀ i, (fltInjectRequest d (some .ansfw) packet).2.count (.client i) = 0) ∧
        (fltInjectRequest d (some .ansfw) packet).2.count (.sendPacket packet) ≤ 1 := by
  obtain ⟨status, calls, hcalls, hflt⟩ := fltInjectRequest_ansfw packet hd
  have hself : fltInjectRequest d (some .ansfw) packet = _ := hflt d.clientStatus
  have hzero : ∀ c, ¬IsInstanceCall packet c → calls.count c = 0 := fun c hc =>
    List.count_eq_zero.mpr fun hmem => hc (hcalls c hmem)
  have hclient : ∀ i, calls.count (.client i) = 0 := fun i =>
    hzero _ (fun ⟨j, hj⟩ => by cases hj)
  have hsend : calls.count (.sendPacket packet) = 0 := hzero _ (fun ⟨j, hj⟩ => by cases hj)
  rw [hself]
  split
  . simp [List.count_append, hclient, hsend]
  . simp [hclient, hsend]

theorem count_onward (clients : List Nat)
    : (∀ i, (onward d packet clients).count (.client i) ≤ clients.count i) ∧
        (onward d packet clients).count (.sendPacket packet) ≤ 1 := by
  induction clients with
  | nil =>
    obtain ⟨hclient, hsend⟩ := count_fltInjectRequest_ansfw packet hd
    refine ⟨fun i => ?_, ?_⟩
    . simp [onward, hclient]
    . simpa [onward] using hsend
  | cons i is ih =>
    by_cases h : d.clientStatus i = NtStatus.success
    . rw [onward_cons_success d packet h]
      refine ⟨fun j => ?_, ?_⟩
      . have := ih.1 j
        by_cases hij : i = j
        . simp [hij] at *
          omega
        . simp [hij] at *
          omega
      . simpa [List.count_cons] using ih.2
    . rw [onward_cons_refusal d packet h]
      refine ⟨fun j => ?_, ?_⟩
      . by_cases hij : i = j
        . simp [hij]
        . simp [hij]
      . simp

theorem count_fltInjectRequest (hfrag : d.fragment packet = false)
    : (∀ i, (fltInjectRequest d none packet).2.count (.client i) ≤ 1) ∧
        (fltInjectRequest d none packet).2.count (.sendPacket packet) ≤ 1 := by
  obtain ⟨calls, reaches, hcalls, hflt⟩ := fltInjectRequest_none packet hd hfrag
  have hself : (fltInjectRequest d none packet).2 = _ := hflt d.clientStatus
  have hzero : ∀ c, ¬IsInstanceCall packet c → calls.count c = 0 := fun c hc =>
    List.count_eq_zero.mpr fun hmem => hc (hcalls c hmem)
  have hclient : ∀ i, calls.count (.client i) = 0 := fun i =>
    hzero _ (fun ⟨j, hj⟩ => by cases hj)
  have hsend : calls.count (.sendPacket packet) = 0 := hzero _ (fun ⟨j, hj⟩ => by cases hj)
  have hown : withStatus d d.clientStatus = d := rfl
  obtain ⟨hon, hon'⟩ := count_onward packet hd d.fwInstancesList
  rw [hself, hown]
  cases reaches with
  | false => simp [hclient, hsend]
  | true =>
    simp only [List.count_append, hclient, hsend, if_true, Nat.zero_add]
    exact ⟨fun i => Nat.le_trans (hon i) (List.nodup_iff_count_le_one.mp hd.clients i), hon'⟩

end Counts

/--
A packet whose clients defer goes the way it would go if they had approved it at once: what it has gone
of it is a beginning of that way, the whole way once no client holds it, which it comes to when the
clients that hold it inject it. No client sees it twice and it is sent at most once.
-/
theorem deferred_eq_prompt {d : Drivers} {defers : Nat → Bool} {packet : Nat} (hd : Registered d)
    (ha : Answers d defers) (hfrag : d.fragment packet = false) {w : Way}
    (hw : Reached d defers packet w)
    : w.calls <+: promptCalls d defers packet ∧
        (w.parked = [] → w.calls = promptCalls d defers packet) ∧
        (∃ w', Reached d defers packet w' ∧ w.calls <+: w'.calls ∧ w'.parked = []) ∧
        (∀ i, w.calls.count (.client i) ≤ 1) ∧
        w.calls.count (.sendPacket packet) ≤ 1 := by
  have hpref : w.calls <+: promptCalls d defers packet := by
    rcases hw.onTheWay packet hd ha hfrag with ⟨_, hcalls⟩ | ⟨i, ys, _, _, hcalls⟩
    . exact hcalls ▸ List.prefix_refl _
    . rw [hcalls]
      apply List.prefix_append
  have hprompt : Registered (prompt d defers) :=
    ⟨hd.clients, hd.instances, hd.ansfw, hd.connected⟩
  obtain ⟨hclient, hsend⟩ := count_fltInjectRequest packet hprompt hfrag
  refine ⟨hpref, ?_, ?_, fun i => ?_, ?_⟩
  . intro hparked
    rcases hw.onTheWay packet hd ha hfrag with ⟨_, hcalls⟩ | ⟨i, ys, _, hwait, _⟩
    . exact hcalls.symm
    . rw [hparked] at hwait
      cases hwait
  . rcases hw.onTheWay packet hd ha hfrag with ⟨hparked, _⟩ | ⟨i, ys, hwait⟩
    . exact ⟨w, hw, List.prefix_refl _, hparked⟩
    . exact hwait.finishes packet hd ha (Nat.lt_succ_self _) hw
  . exact Nat.le_trans (hpref.sublist.count_le _) (hclient i)
  . exact Nat.le_trans (hpref.sublist.count_le _) hsend

def deferringClient : Drivers where
  fwInstancesList := [0, 1]
  clientStatus := fun i => if i = 0 then NtStatus.unsuccessful else NtStatus.success
  fltInstancesList := [.ansfw, .other 0]
  instanceStatus := fun _ _ => NtStatus.success
  bFltConnected := true
  allocateRequest := true
  fragment := fun _ => false

theorem deferred_eq_prompt_deferringClient
    : (resume deferringClient (· == 0) 7 (arrive deferringClient (· == 0) 7) 0).calls =
        promptCalls deferringClient (· == 0) 7 := by
  have hd : Registered deferringClient := ⟨by decide, by decide, by decide, rfl⟩
  have ha : Answers deferringClient (· == 0) := ⟨by decide, by decide⟩
  have harrive : Reached deferringClient (· == 0) 7 (arrive deferringClient (· == 0) 7) := .arrive
  have hw := harrive.resume (by decide : 0 ∈ (arrive deferringClient (· == 0) 7).parked)
  exact (deferred_eq_prompt hd ha rfl hw).2.1 (by decide)

end Ansfw
