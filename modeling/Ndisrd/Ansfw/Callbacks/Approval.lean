import Ndisrd.Ansfw.Callbacks.Impl

/-!
This module contains the decision of `FWInjectRequest`: exactly when it agrees with the rule that every
client has to return `STATUS_SUCCESS`.
-/

open ReqFlags

namespace Ansfw

variable (d : Drivers)

def laterClients (pInstance : Option Nat) : List Nat := Chain.after pInstance d.fwInstancesList

def Approved (pInstance : Option Nat) (calls : List Call) : Prop :=
  ∀ i ∈ laterClients d pInstance, Call.client i ∈ calls ∧ d.clientStatus i = NtStatus.success

def RefusalFails (pInstance : Option Nat) : Prop :=
  ∀ i, (laterClients d pInstance).find? (fun i => decide (d.clientStatus i ≠ NtStatus.success)) = some i →
    (d.clientStatus i).ntSuccess = false

theorem calls_fwInjectRequest (pInstance : Option Nat) (pRequest : InjectedRequest)
    : ∃ rest, (fwInjectRequest d pInstance pRequest).calls =
        (processRequest d pInstance).2 ++ rest := by
  unfold fwInjectRequest
  simp only
  repeat' split
  all_goals first
    | exact ⟨_, rfl⟩
    | exact ⟨[], (List.append_nil _).symm⟩

theorem calls_fwInjectRequest_of_refused {pInstance : Option Nat} (pRequest : InjectedRequest)
    (h : ¬(processRequest d pInstance).1.ntSuccess = true)
    : (fwInjectRequest d pInstance pRequest).calls = (processRequest d pInstance).2 := by
  unfold fwInjectRequest
  simp only [h]
  rfl

theorem calls_fwInjectRequest_of_passed {pInstance : Option Nat} (hconn : d.bFltConnected = true)
    (hpass : (processRequest d pInstance).1.ntSuccess = true) (pRequest : InjectedRequest)
    : (fwInjectRequest d pInstance pRequest).calls = (processRequest d pInstance).2 ++
        (if pRequest.reqFlags.has loopback then
          [.injectLoopbackRequest]
        else if pRequest.reqFlags.has reassembled then
          (injectFragments d pRequest.fragments (processRequest d pInstance).1).2
        else
          (fltInjectRequest d (some .ansfw) pRequest.packet).2) := by
  unfold fwInjectRequest
  simp only [hpass, hconn, if_true]
  split
  . rfl
  . split
    . rfl
    . rfl

theorem client_of_processRequest (pInstance : Option Nat)
    : ∀ c ∈ (processRequest d pInstance).2, ∃ i, c = .client i := by
  apply Chain.callWhile_log_forall
  intro i _ c hc
  exact ⟨i, List.mem_singleton.mp hc⟩

theorem processRequest_cases (pInstance : Option Nat)
    : ((processRequest d pInstance).1 = NtStatus.success ∧ RefusalFails d pInstance ∧
          Approved d pInstance (processRequest d pInstance).2) ∨
        ((∃ i ∈ laterClients d pInstance, d.clientStatus i ≠ NtStatus.success) ∧
          (RefusalFails d pInstance ↔ (processRequest d pInstance).1.ntSuccess = false)) := by
  rcases Chain.callWhile_cases NtStatus.success (callClient d) (laterClients d pInstance) with
    hall | ⟨xs, i, ys, heq, hxs, hi, hcall⟩
  . -- all clients approve
    have hpr : processRequest d pInstance = _ :=
      Chain.callWhile_log_of_good NtStatus.success (callClient d) hall
    refine Or.inl ⟨by rw [hpr], ?_, ?_⟩
    . intro i hi
      have hmem := List.mem_of_find?_eq_some hi
      have hbad := List.find?_some hi
      exact absurd (hall i hmem) (of_decide_eq_true hbad)
    . intro i hi
      refine ⟨?_, hall i hi⟩
      rw [hpr]
      exact List.mem_flatMap.mpr ⟨i, hi, List.mem_singleton_self _⟩
  . -- client `i` does not
    have hstatus : (processRequest d pInstance).1 = d.clientStatus i := by
      rw [show processRequest d pInstance = _ from hcall]
      rfl
    have hfirst : (laterClients d pInstance).find?
        (fun i => decide (d.clientStatus i ≠ NtStatus.success)) = some i := by
      have hnone : xs.find? (fun i => decide (d.clientStatus i ≠ NtStatus.success)) = none := by
        rw [List.find?_eq_none]
        intro x hx
        exact fun hbad => of_decide_eq_true hbad (hxs x hx)
      have hbad : d.clientStatus i ≠ NtStatus.success := hi
      rw [heq, List.find?_append, hnone, Option.none_or, List.find?_cons_of_pos (by simpa using hbad)]
    refine Or.inr ⟨⟨i, by rw [heq]; simp, hi⟩, ?_⟩
    rw [hstatus, RefusalFails, hfirst]
    constructor
    . intro hrefusal
      apply hrefusal
      rfl
    . intro hfail i' hi'
      injection hi' with hi'
      rw [← hi']
      exact hfail

theorem Approved.append {pInstance : Option Nat} {calls : List Call} (h : Approved d pInstance calls)
    (rest : List Call)
    : Approved d pInstance (calls ++ rest) :=
  fun i hi => ⟨List.mem_append_left rest (h i hi).1, (h i hi).2⟩

/-! ### The injection -/

-- The packet that is on its way below `ansfw`: to the next instance, or to NDIS.
def Call.below : Call → Option Nat
  | .fltInstance _ packet | .sendPacket packet => some packet
  | _ => none

/--
The calls inject the request: at the loopback interface, or each of its packets with `FLTInjectRequest`.
-/
def Injects (pRequest : InjectedRequest) (calls : List Call) : Prop :=
  if pRequest.reqFlags.has loopback then
    .injectLoopbackRequest ∈ calls
  else if pRequest.reqFlags.has reassembled then
    ∀ packet ∈ pRequest.fragments, ∃ c ∈ calls, c.below = some packet
  else
    ∃ c ∈ calls, c.below = some pRequest.packet

-- There is a way for the request to go: the loopback interface, or `ansfltr`.
def HasWay (pRequest : InjectedRequest) : Prop :=
  pRequest.reqFlags.has loopback = true ∨ d.bFltConnected = true

theorem not_injects_processRequest {pInstance : Option Nat} {pRequest : InjectedRequest}
    (hfragments : pRequest.reqFlags.has reassembled = true → pRequest.fragments ≠ [])
    : ¬Injects pRequest (processRequest d pInstance).2 := by
  have hbelow : ∀ packet, ¬∃ c ∈ (processRequest d pInstance).2, c.below = some packet := by
    rintro packet ⟨c, hc, hpacket⟩
    obtain ⟨i, rfl⟩ := client_of_processRequest d pInstance c hc
    cases hpacket
  unfold Injects
  split
  . intro hloopback
    obtain ⟨i, hi⟩ := client_of_processRequest d pInstance _ hloopback
    cases hi
  . split
    . next hreassembled =>
      intro hall
      obtain ⟨packet, hpacket⟩ := List.exists_mem_of_ne_nil _ (hfragments hreassembled)
      exact hbelow packet (hall packet hpacket)
    . exact hbelow pRequest.packet

theorem below_fltInjectRequest (hnodup : d.fltInstancesList.Nodup) (packet : Nat)
    : ∃ c ∈ (fltInjectRequest d (some .ansfw) packet).2, c.below = some packet := by
  have hansfw := Chain.not_mem_after_of_nodup hnodup FltInstance.ansfw
  unfold fltInjectRequest Ansfltr.fltInjectRequest
  cases hafter : Chain.after (some FltInstance.ansfw) d.fltInstancesList with
  | nil => exact ⟨.sendPacket packet, List.mem_singleton_self _, rfl⟩
  | cons i rest =>
    rw [hafter] at hansfw
    cases i with
    | ansfw => exact absurd List.mem_cons_self hansfw
    | other j =>
      -- the next instance is called whatever it returns
      have hcalled : Call.fltInstance j packet ∈
          (Chain.callWhile NtStatus.success (callInstance d packet) (.other j :: rest)).2 := by
        rw [Chain.callWhile]
        split
        . exact List.mem_append_left _ (List.mem_singleton_self _)
        . exact List.mem_singleton_self _
      refine ⟨.fltInstance j packet, ?_, rfl⟩
      simp only
      split
      . exact List.mem_append_left _ hcalled
      . exact hcalled

theorem below_injectFragments (hnodup : d.fltInstancesList.Nodup) {fragments : List Nat} (status : NtStatus)
    {packet : Nat} (hpacket : packet ∈ fragments)
    : ∃ c ∈ (injectFragments d fragments status).2, c.below = some packet := by
  induction fragments generalizing status with
  | nil => cases hpacket
  | cons q rest ih =>
    rw [injectFragments]
    rcases List.mem_cons.mp hpacket with rfl | hrest
    . obtain ⟨c, hc, hbelow⟩ := below_fltInjectRequest d hnodup packet
      exact ⟨c, List.mem_append_left _ hc, hbelow⟩
    . obtain ⟨c, hc, hbelow⟩ := ih (fltInjectRequest d (some .ansfw) q).1 hrest
      exact ⟨c, List.mem_append_right _ hc, hbelow⟩

theorem calls_fwInjectRequest_of_loopback {pInstance : Option Nat} {pRequest : InjectedRequest}
    (hpass : (processRequest d pInstance).1.ntSuccess = true)
    (hloopback : pRequest.reqFlags.has loopback = true)
    : (fwInjectRequest d pInstance pRequest).calls =
        (processRequest d pInstance).2 ++ [.injectLoopbackRequest] := by
  unfold fwInjectRequest
  simp only [hpass, hloopback, if_true]

theorem calls_fwInjectRequest_of_not_hasWay {pInstance : Option Nat} {pRequest : InjectedRequest}
    (hway : ¬HasWay d pRequest)
    : (fwInjectRequest d pInstance pRequest).calls = (processRequest d pInstance).2 := by
  obtain ⟨hloopback, hconn⟩ := not_or.mp hway
  unfold fwInjectRequest
  simp only [if_neg hloopback, if_neg hconn]
  split
  . split
    . rfl
    . rfl
  . rfl

section Injects

variable (hnodup : d.fltInstancesList.Nodup) {pRequest : InjectedRequest}
variable (hfragments : pRequest.reqFlags.has reassembled = true → pRequest.fragments ≠ [])
include hnodup hfragments

theorem injects_fwInjectRequest_iff (pInstance : Option Nat)
    : Injects pRequest (fwInjectRequest d pInstance pRequest).calls ↔
        (processRequest d pInstance).1.ntSuccess = true ∧ HasWay d pRequest := by
  have hnot : ¬Injects pRequest (processRequest d pInstance).2 := not_injects_processRequest d hfragments
  by_cases hpass : (processRequest d pInstance).1.ntSuccess = true
  . rw [and_iff_right hpass]
    by_cases hloopback : pRequest.reqFlags.has loopback = true
    . -- the loopback interface needs no connection
      refine iff_of_true ?_ (Or.inl hloopback)
      rw [calls_fwInjectRequest_of_loopback d hpass hloopback, Injects, if_pos hloopback]
      exact List.mem_append_right _ (List.mem_singleton_self _)
    . by_cases hconn : d.bFltConnected = true
      . refine iff_of_true ?_ (Or.inr hconn)
        rw [calls_fwInjectRequest_of_passed d hconn hpass, Injects, if_neg hloopback, if_neg hloopback]
        split
        . intro packet hpacket
          obtain ⟨c, hc, hbelow⟩ := below_injectFragments d hnodup (processRequest d pInstance).1 hpacket
          exact ⟨c, List.mem_append_right _ hc, hbelow⟩
        . obtain ⟨c, hc, hbelow⟩ := below_fltInjectRequest d hnodup pRequest.packet
          exact ⟨c, List.mem_append_right _ hc, hbelow⟩
      . have hway : ¬HasWay d pRequest := not_or.mpr ⟨hloopback, hconn⟩
        rw [calls_fwInjectRequest_of_not_hasWay d hway]
        exact iff_of_false hnot hway
  . rw [calls_fwInjectRequest_of_refused d pRequest hpass]
    exact iff_of_false hnot fun h => hpass h.1

/--
`FWInjectRequest` injects a request exactly when all later clients were called and returned `STATUS_SUCCESS`,
if and only if the first other answer is a failure status, or some client does not approve of a request that
has no way to go: it tests the answers with `NT_SUCCESS`, `ProcessRequest` and `FLTInjectRequest` compare them
with `STATUS_SUCCESS`.
-/
theorem fwInjectRequest_injects_iff (pInstance : Option Nat)
    : (Injects pRequest (fwInjectRequest d pInstance pRequest).calls ↔
        Approved d pInstance (fwInjectRequest d pInstance pRequest).calls) ↔
      (HasWay d pRequest → RefusalFails d pInstance) ∧
        (¬HasWay d pRequest → ∃ i ∈ laterClients d pInstance, d.clientStatus i ≠ NtStatus.success) := by
  obtain ⟨rest, hcalls⟩ := calls_fwInjectRequest d pInstance pRequest
  rw [injects_fwInjectRequest_iff d hnodup hfragments, hcalls]
  rcases processRequest_cases d pInstance with ⟨hgood, hrefusal, happroved⟩ | ⟨⟨i, hi, hbad⟩, hrefusal⟩
  . have hall := happroved.append d rest
    have hnone : ¬∃ i ∈ laterClients d pInstance, d.clientStatus i ≠ NtStatus.success := by
      rintro ⟨i, hi, hbad⟩
      exact hbad (happroved i hi).2
    rw [hgood, NtStatus.ntSuccess_success, eq_self_iff_true, true_and, iff_true_right hall,
      and_iff_right fun _ => hrefusal]
    exact ⟨fun hway hno => absurd hway hno, fun h => by_contra fun hno => hnone (h hno)⟩
  . have hnot : ¬Approved d pInstance ((processRequest d pInstance).2 ++ rest) :=
      fun h => hbad (h i hi).2
    have hsome : ∃ i ∈ laterClients d pInstance, d.clientStatus i ≠ NtStatus.success := ⟨i, hi, hbad⟩
    rw [iff_false_right hnot, hrefusal, and_iff_left fun _ => hsome, not_and', Bool.not_eq_true]

end Injects

def pendingClient : Drivers where
  fwInstancesList := [0]
  clientStatus := fun _ => NtStatus.pending
  fltInstancesList := [.ansfw]
  instanceStatus := fun _ _ => NtStatus.success
  bFltConnected := true
  allocateRequest := true
  fragment := fun _ => false

theorem not_injects_iff_pendingClient
    : ¬∀ (d : Drivers) (pInstance : Option Nat) (pRequest : InjectedRequest),
        d.fltInstancesList.Nodup →
        (pRequest.reqFlags.has reassembled = true → pRequest.fragments ≠ []) →
          (Injects pRequest (fwInjectRequest d pInstance pRequest).calls ↔
            Approved d pInstance (fwInjectRequest d pInstance pRequest).calls) := by
  intro h
  have hiff := h pendingClient none ⟨0#32, 0, []⟩ (by decide) (by decide)
  have hinjects : Injects ⟨0#32, 0, []⟩ (fwInjectRequest pendingClient none ⟨0#32, 0, []⟩).calls :=
    ⟨.sendPacket 0, by decide, rfl⟩
  have hsuccess := (hiff.mp hinjects 0 (List.mem_singleton_self 0)).2
  revert hsuccess
  decide

-- The request comes from client 0, which refuses what it is asked for itself.
def threeClients : Drivers where
  fwInstancesList := [0, 1, 2]
  clientStatus := fun i => if i = 0 then NtStatus.unsuccessful else NtStatus.success
  fltInstancesList := [.other 0, .ansfw, .other 1]
  instanceStatus := fun _ _ => NtStatus.success
  bFltConnected := true
  allocateRequest := true
  fragment := fun _ => false

def reassembledRequest : InjectedRequest := ⟨reassembled, 0, [1, 2]⟩

theorem injects_threeClients
    : Injects reassembledRequest (fwInjectRequest threeClients (some 0) reassembledRequest).calls := by
  have hfirst : (laterClients threeClients (some 0)).find?
      (fun i => decide (threeClients.clientStatus i ≠ NtStatus.success)) = none := by decide
  have hrefusal : RefusalFails threeClients (some 0) := by
    intro i hi
    rw [hfirst] at hi
    cases hi
  have happroved : Approved threeClients (some 0)
      (fwInjectRequest threeClients (some 0) reassembledRequest).calls := by
    unfold Approved
    decide
  have hway : HasWay threeClients reassembledRequest := Or.inr rfl
  have hfragments : reassembledRequest.reqFlags.has reassembled = true →
      reassembledRequest.fragments ≠ [] := by decide
  exact ((fwInjectRequest_injects_iff threeClients (by decide) hfragments (some 0)).mpr ⟨fun _ => hrefusal, fun hno => absurd hway hno⟩).mpr happroved

end Ansfw
