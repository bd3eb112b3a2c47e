import Mathlib.Data.List.Nodup
import Ndisrd.Ansfw.Callbacks.Impl

/-!
This module contains the instances registered with `ansfltr` around `ansfw`: what a packet goes through
before it reaches `ansfw` and behind it.
-/

namespace Ansfw

variable (d : Drivers) (packet : Nat)

structure Registered : Prop where
  clients : d.fwInstancesList.Nodup
  instances : d.fltInstancesList.Nodup
  ansfw : FltInstance.ansfw ∈ d.fltInstancesList
  connected : d.bFltConnected = true

def IsInstanceCall (c : Call) : Prop := ∃ j, c = .fltInstance j packet

def OthersApprove : Prop :=
  ∀ j, FltInstance.other j ∈ d.fltInstancesList → d.instanceStatus j packet = NtStatus.success

theorem callInstance_isInstanceCall {x : FltInstance} (hx : x ≠ .ansfw)
    : ∀ c ∈ (callInstance d packet x).2, IsInstanceCall packet c := by
  cases x with
  | ansfw => exact absurd rfl hx
  | other j =>
    intro c hc
    exact ⟨j, List.mem_singleton.mp hc⟩

theorem log_isInstanceCall {xs : List FltInstance} (hxs : ∀ x ∈ xs, x ≠ .ansfw)
    : ∀ c ∈ (Chain.callWhile NtStatus.success (callInstance d packet) xs).2,
        IsInstanceCall packet c := by
  apply Chain.callWhile_log_forall
  intro x hx
  exact callInstance_isInstanceCall d packet (hxs x hx)

variable {d}

theorem Registered.split (hd : Registered d)
    : ∃ pre post, d.fltInstancesList = pre ++ .ansfw :: post ∧ (∀ x ∈ pre, x ≠ .ansfw) ∧
        (∀ x ∈ post, x ≠ .ansfw) := by
  obtain ⟨pre, post, heq⟩ := List.append_of_mem hd.ansfw
  have hnodup := hd.instances
  rw [heq, List.nodup_append] at hnodup
  obtain ⟨_, hpost, hdisjoint⟩ := hnodup
  refine ⟨pre, post, heq, ?_, ?_⟩
  . intro x hx
    exact hdisjoint x hx .ansfw List.mem_cons_self
  . intro x hx hx'
    rw [hx'] at hx
    exact (List.nodup_cons.mp hpost).1 hx

section Split

variable {pre post : List FltInstance} (heq : d.fltInstancesList = pre ++ .ansfw :: post)
variable (hpre : ∀ x ∈ pre, x ≠ FltInstance.ansfw)
include heq hpre

theorem fltInjectRequest_ansfw_eq
    : fltInjectRequest d (some .ansfw) packet =
        if (Chain.callWhile NtStatus.success (callInstance d packet) post).1 = NtStatus.success then
          ((Chain.callWhile NtStatus.success (callInstance d packet) post).1,
            (Chain.callWhile NtStatus.success (callInstance d packet) post).2 ++ [.sendPacket packet])
        else
          Chain.callWhile NtStatus.success (callInstance d packet) post := by
  have hnot : FltInstance.ansfw ∉ pre := fun h => hpre _ h rfl
  unfold fltInjectRequest Ansfltr.fltInjectRequest
  rw [heq, Chain.after_some_append hnot]

theorem fltInjectRequest_none_eq
    : (fltInjectRequest d none packet).2 =
        if (Chain.callWhile NtStatus.success (callInstance d packet) pre).1 = NtStatus.success then
          (Chain.callWhile NtStatus.success (callInstance d packet) pre).2 ++
            if (requestCallback d packet).1 = NtStatus.success then
              (requestCallback d packet).2 ++ (fltInjectRequest d (some .ansfw) packet).2
            else
              (requestCallback d packet).2
        else
          (Chain.callWhile NtStatus.success (callInstance d packet) pre).2 := by
  have hcall : callInstance d packet .ansfw = requestCallback d packet := rfl
  rw [fltInjectRequest_ansfw_eq packet heq hpre]
  simp only [fltInjectRequest, Ansfltr.fltInjectRequest, heq]
  rw [Chain.after, Chain.callWhile_append, Chain.callWhile, hcall]
  by_cases hgood : (Chain.callWhile NtStatus.success (callInstance d packet) pre).1 = NtStatus.success
  . by_cases hrc : (requestCallback d packet).1 = NtStatus.success
    . simp only [hgood, hrc, if_true]
      split
      . simp only [List.append_assoc]
      . rfl
    . simp only [hgood, hrc, if_true, if_false]
  . simp only [hgood, if_false]

theorem othersApprove_iff (hpost : ∀ x ∈ post, x ≠ FltInstance.ansfw)
    : OthersApprove d packet ↔
        (Chain.callWhile NtStatus.success (callInstance d packet) pre).1 = NtStatus.success ∧
          (Chain.callWhile NtStatus.success (callInstance d packet) post).1 = NtStatus.success := by
  rw [Chain.callWhile_good_iff, Chain.callWhile_good_iff]
  constructor
  . intro h
    constructor
    . intro x hx
      cases x with
      | ansfw => exact absurd rfl (hpre _ hx)
      | other j => exact h j (by rw [heq]; exact List.mem_append_left _ hx)
    . intro x hx
      cases x with
      | ansfw => exact absurd rfl (hpost _ hx)
      | other j => exact h j (by rw [heq]; exact List.mem_append_right _ (List.mem_cons_of_mem _ hx))
  . intro ⟨hp, hq⟩ j hj
    rw [heq] at hj
    rcases List.mem_append.mp hj with hj | hj
    . exact hp _ hj
    . rcases List.mem_cons.mp hj with hj | hj
      . cases hj
      . exact hq _ hj

end Split

end Ansfw
