import Ndisrd.Ansfltr.SendPacket
import Ndisrd.Ansfw.Callbacks.Approval

/-!
This module contains what a `STATUS_SUCCESS` of `FLTInjectRequest` and `FWInjectRequest` is worth:
exactly when it means that everything was handed to NDIS.
-/

open ReqFlags

namespace Ansfw

variable (d : Drivers) (send : Nat → Ansfltr.SendState)

-- The packets that `FWInjectRequest` is to inject for a request.
def InjectedRequest.packets (pRequest : InjectedRequest) : List Nat :=
  if pRequest.reqFlags.has loopback then
    []
  else if pRequest.reqFlags.has reassembled then
    pRequest.fragments
  else
    [pRequest.packet]

def HandedToNdis (calls : List Call) (packet : Nat) : Prop :=
  .sendPacket packet ∈ calls ∧ (Ansfltr.sendPacket (send packet)).handed = true

def SuccessWarranted (status : NtStatus) (calls : List Call) (packets : List Nat) : Prop :=
  status = NtStatus.success → ∀ packet ∈ packets, HandedToNdis send calls packet

section SuccessWarranted

variable {calls : List Call} (hcalls : ∀ packet, .sendPacket packet ∉ calls)
include hcalls

theorem successWarranted_append (status : NtStatus) (rest : List Call) (packets : List Nat)
    : SuccessWarranted send status (calls ++ rest) packets ↔
        SuccessWarranted send status rest packets := by
  apply imp_congr_right
  intro _
  apply forall₂_congr
  intro packet _
  rw [HandedToNdis, List.mem_append, or_iff_right (hcalls packet), HandedToNdis]

theorem successWarranted_of_none (status : NtStatus) (packets : List Nat)
    : SuccessWarranted send status calls packets ↔ packets = [] ∨ status ≠ NtStatus.success := by
  have hall : (∀ packet ∈ packets, HandedToNdis send calls packet) ↔ packets = [] := by
    rw [List.eq_nil_iff_forall_not_mem]
    apply forall₂_congr
    intro packet _
    exact iff_of_false (fun h => hcalls packet h.1) id
  rw [SuccessWarranted, hall, imp_iff_or_not]

end SuccessWarranted

/-! ### The conditions -/

-- The instances behind `pInstance` all let the packet go on.
def Accepted (pInstance : Option FltInstance) (packet : Nat) : Prop :=
  ∀ i ∈ Chain.after pInstance d.fltInstancesList, (callInstance d packet i).1 = NtStatus.success

-- Some later client refuses, the first one to do so with a failure status.
def Refused (pInstance : Option Nat) : Prop :=
  (∃ i ∈ laterClients d pInstance, d.clientStatus i ≠ NtStatus.success) ∧ RefusalFails d pInstance

def CanHandOver (pInstance : Option FltInstance) (packet : Nat) : Prop :=
  Accepted d pInstance packet → (send packet).Open

/--
The last fragment is refused, so that its status is one of failure, or no fragment is lost.
-/
def FragmentsCanHandOver (fragments : List Nat) : Prop :=
  (∃ packet ∈ fragments.getLast?, ¬Accepted d (some .ansfw) packet) ∨
    ∀ packet ∈ fragments, Accepted d (some .ansfw) packet ∧ (send packet).Open

def RequestCanHandOver (pInstance : Option Nat) (pRequest : InjectedRequest) : Prop :=
  Refused d pInstance ∨
    if pRequest.reqFlags.has loopback then
      True
    else if pRequest.reqFlags.has reassembled then
      if d.bFltConnected then
        FragmentsCanHandOver d send pRequest.fragments
      else
        pRequest.fragments = [] ∨ ∃ i ∈ laterClients d pInstance, d.clientStatus i ≠ NtStatus.success
    else
      d.bFltConnected = true → CanHandOver d send (some .ansfw) pRequest.packet

/-! ### `FLTInjectRequest` -/

theorem fltInjectRequest_status (pInstance : Option FltInstance) (packet : Nat)
    : (fltInjectRequest d pInstance packet).1 = NtStatus.success ↔ Accepted d pInstance packet :=
  Ansfltr.fltInjectRequest_success_iff (callInstance d packet) (.sendPacket packet) d.fltInstancesList
    pInstance

theorem sendPacket_not_mem_processRequest (pInstance : Option Nat) (packet : Nat)
    : .sendPacket packet ∉ (processRequest d pInstance).2 := by
  have hclients : ∀ c ∈ (processRequest d pInstance).2, c ≠ .sendPacket packet := by
    apply Chain.callWhile_log_forall
    intro i _ c hc heq
    rw [heq] at hc
    cases List.mem_singleton.mp hc
  exact fun hmem => hclients _ hmem rfl

theorem sendPacket_not_mem_callInstance (q packet : Nat) (i : FltInstance)
    : .sendPacket packet ∉ (callInstance d q i).2 := by
  cases i with
  | other j => simp [callInstance]
  | ansfw =>
    simp only [callInstance, requestCallback]
    split
    . apply List.not_mem_nil
    . split
      . apply List.not_mem_nil
      . split
        . simp
        . apply sendPacket_not_mem_processRequest

theorem sendPacket_mem_fltInjectRequest (pInstance : Option FltInstance) (q packet : Nat)
    : .sendPacket packet ∈ (fltInjectRequest d pInstance q).2 ↔
        packet = q ∧ Accepted d pInstance q := by
  have hinstances : ∀ c ∈ (Chain.callWhile NtStatus.success (callInstance d q)
      (Chain.after pInstance d.fltInstancesList)).2, c ≠ .sendPacket packet := by
    apply Chain.callWhile_log_forall
    intro i _ c hc heq
    rw [heq] at hc
    exact sendPacket_not_mem_callInstance d q packet i hc
  have hnot : .sendPacket packet ∉ (Chain.callWhile NtStatus.success (callInstance d q)
      (Chain.after pInstance d.fltInstancesList)).2 := fun hmem => hinstances _ hmem rfl
  have hgood : (Chain.callWhile NtStatus.success (callInstance d q)
      (Chain.after pInstance d.fltInstancesList)).1 = NtStatus.success ↔ Accepted d pInstance q :=
    Chain.callWhile_good_iff NtStatus.success (callInstance d q) _
  unfold fltInjectRequest Ansfltr.fltInjectRequest
  simp only
  split
  . next h =>
    rw [List.mem_append, or_iff_right hnot, List.mem_singleton, Call.sendPacket.injEq,
      and_iff_left (hgood.mp h)]
  . next h => exact iff_of_false hnot fun haccepted => h (hgood.mpr haccepted.2)

theorem handedToNdis_fltInjectRequest_iff (pInstance : Option FltInstance) (packet : Nat)
    : HandedToNdis send (fltInjectRequest d pInstance packet).2 packet ↔
        Accepted d pInstance packet ∧ (send packet).Open := by
  rw [HandedToNdis, sendPacket_mem_fltInjectRequest, eq_self_iff_true, true_and,
    Ansfltr.handed_sendPacket_iff]

theorem fltInjectRequest_warranted_iff (pInstance : Option FltInstance) (packet : Nat)
    : SuccessWarranted send (fltInjectRequest d pInstance packet).1
          (fltInjectRequest d pInstance packet).2 [packet] ↔
        CanHandOver d send pInstance packet := by
  unfold SuccessWarranted CanHandOver
  rw [fltInjectRequest_status]
  apply imp_congr_right
  intro haccepted
  rw [List.forall_mem_singleton, handedToNdis_fltInjectRequest_iff, and_iff_right haccepted]

/-! ### The fragments -/

theorem injectFragments_status (fragments : List Nat) (status : NtStatus)
    : (injectFragments d fragments status).1 =
        fragments.getLast?.elim status fun packet => (fltInjectRequest d (some .ansfw) packet).1 := by
  induction fragments generalizing status with
  | nil => rfl
  | cons packet rest ih =>
    rw [injectFragments, ih]
    cases hrest : rest.getLast? with
    | none =>
      rw [List.getLast?_eq_none_iff.mp hrest]
      rfl
    | some last =>
      rw [List.getLast?_cons, hrest]
      rfl

theorem sendPacket_mem_injectFragments_iff (packet : Nat) (fragments : List Nat) (status : NtStatus)
    : .sendPacket packet ∈ (injectFragments d fragments status).2 ↔
        packet ∈ fragments ∧ Accepted d (some .ansfw) packet := by
  induction fragments generalizing status with
  | nil => simp [injectFragments]
  | cons q rest ih =>
    rw [injectFragments, List.mem_append, ih, sendPacket_mem_fltInjectRequest, List.mem_cons,
      or_and_right]
    apply or_congr_left
    apply and_congr_right
    rintro rfl
    rfl

theorem injectFragments_warranted_iff (fragments : List Nat) (status : NtStatus)
    : SuccessWarranted send (injectFragments d fragments status).1
          (injectFragments d fragments status).2 fragments ↔
        FragmentsCanHandOver d send fragments := by
  have hall : (∀ packet ∈ fragments, HandedToNdis send (injectFragments d fragments status).2 packet) ↔
      ∀ packet ∈ fragments, Accepted d (some .ansfw) packet ∧ (send packet).Open := by
    apply forall₂_congr
    intro packet hmem
    rw [HandedToNdis, sendPacket_mem_injectFragments_iff, and_iff_right hmem,
      Ansfltr.handed_sendPacket_iff]
  rw [SuccessWarranted, FragmentsCanHandOver, hall, imp_iff_not_or, injectFragments_status]
  cases hlast : fragments.getLast? with
  | none =>
    rw [List.getLast?_eq_none_iff.mp hlast]
    simp
  | some last => simp [fltInjectRequest_status]

/-! ### `FWInjectRequest` -/

theorem processRequest_success_iff (pInstance : Option Nat)
    : (processRequest d pInstance).1 = NtStatus.success ↔
        ∀ i ∈ laterClients d pInstance, d.clientStatus i = NtStatus.success :=
  Chain.callWhile_good_iff NtStatus.success (callClient d) (laterClients d pInstance)

theorem refused_iff (pInstance : Option Nat)
    : Refused d pInstance ↔ (processRequest d pInstance).1.ntSuccess = false := by
  unfold Refused
  rcases processRequest_cases d pInstance with ⟨hgood, _, happroved⟩ | ⟨hbad, hrefusal⟩
  . rw [hgood]
    refine iff_of_false ?_ (by simp)
    rintro ⟨⟨i, hi, hbad⟩, _⟩
    exact hbad (happroved i hi).2
  . rw [and_iff_right hbad, hrefusal]

theorem fwInjectRequest_warranted_iff (pInstance : Option Nat) (pRequest : InjectedRequest)
    : SuccessWarranted send (fwInjectRequest d pInstance pRequest).status
          (fwInjectRequest d pInstance pRequest).calls pRequest.packets ↔
        RequestCanHandOver d send pInstance pRequest := by
  have hclients : ∀ packet, .sendPacket packet ∉ (processRequest d pInstance).2 :=
    sendPacket_not_mem_processRequest d pInstance
  unfold RequestCanHandOver
  rw [refused_iff]
  cases hpass : (processRequest d pInstance).1.ntSuccess with
  | false =>
    have hstatus : (fwInjectRequest d pInstance pRequest).status = (processRequest d pInstance).1 := by
      simp [fwInjectRequest, hpass]
    refine iff_of_true ?_ (Or.inl rfl)
    intro hsuccess
    rw [← hstatus, hsuccess] at hpass
    cases hpass
  | true =>
    rw [or_iff_right Bool.noConfusion]
    unfold fwInjectRequest InjectedRequest.packets
    simp only [hpass, if_true]
    split
    . -- the loopback interface
      exact iff_of_true (fun _ packet hmem => absurd hmem List.not_mem_nil) trivial
    . split
      . -- a datagram, that is its fragments
        split
        . rw [successWarranted_append send hclients]
          apply injectFragments_warranted_iff
        . rw [successWarranted_of_none send hclients, ne_eq, processRequest_success_iff]
          simp
      . -- a packet
        split
        . next hconnected =>
          rw [successWarranted_append send hclients, imp_iff_right hconnected]
          apply fltInjectRequest_warranted_iff
        . next hconnected =>
          exact iff_of_true (fun h => absurd h NtStatus.unsuccessful_ne_success)
            fun h => absurd h hconnected

/--
A `STATUS_SUCCESS` of either function means that everything was handed to NDIS if and only if nothing
that the instances let go on meets a `SendPacket` that does not get so far, for the fragments of a
datagram unless the last of them is refused, and no datagram is approved without the connection.
-/
theorem success_warranted_iff (pInstance : Option FltInstance) (packet : Nat)
    (pFwInstance : Option Nat) (pRequest : InjectedRequest)
    : (SuccessWarranted send (fltInjectRequest d pInstance packet).1
            (fltInjectRequest d pInstance packet).2 [packet] ↔
          CanHandOver d send pInstance packet) ∧
        (SuccessWarranted send (fwInjectRequest d pFwInstance pRequest).status
            (fwInjectRequest d pFwInstance pRequest).calls pRequest.packets ↔
          RequestCanHandOver d send pFwInstance pRequest) :=
  ⟨fltInjectRequest_warranted_iff d send pInstance packet,
    fwInjectRequest_warranted_iff d send pFwInstance pRequest⟩

-- The adapter of packet 0 has been closed; another instance refuses packet 2.
def closedAdapter (packet : Nat) : Ansfltr.SendState :=
  if packet = 0 then .vista none else .vista (some ⟨1⟩)

def refusingInstance : Drivers where
  fwInstancesList := []
  clientStatus := fun _ => NtStatus.success
  fltInstancesList := [.ansfw, .other 0]
  instanceStatus := fun _ packet => if packet = 2 then NtStatus.unsuccessful else NtStatus.success
  bFltConnected := true
  allocateRequest := true
  fragment := fun _ => false

theorem not_success_warranted
    : (¬∀ d send pInstance packet, SuccessWarranted send (fltInjectRequest d pInstance packet).1
          (fltInjectRequest d pInstance packet).2 [packet]) ∧
        ¬∀ d send pInstance pRequest, SuccessWarranted send (fwInjectRequest d pInstance pRequest).status
          (fwInjectRequest d pInstance pRequest).calls pRequest.packets := by
  constructor
  . intro h
    have hhanded := (h refusingInstance closedAdapter none 0 (by decide) 0 (by decide)).2
    revert hhanded
    decide
  . -- the second of three fragments is lost
    intro h
    have hcalls := (h refusingInstance closedAdapter none ⟨reassembled, 0, [1, 2, 3]⟩ (by decide) 2
      (by decide)).1
    revert hcalls
    decide

end Ansfw
