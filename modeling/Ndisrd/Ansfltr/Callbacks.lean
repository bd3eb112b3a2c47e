import Ndisrd.Shared.Basic
import Ndisrd.Lib.Chain

/-!
This module contains `FLTInjectRequest` of `ansfltr`, over whatever the registered instances do when
they are called with the packet.
-/

namespace Ansfltr

variable {ι ε : Type} [DecidableEq ι]

def fltInjectRequest (requestCallback : ι → NtStatus × List ε) (sendPacket : ε)
    (fltInstancesList : List ι) (pInstance : Option ι)
    : NtStatus × List ε :=
  let called :=
    Chain.callWhile NtStatus.success requestCallback (Chain.after pInstance fltInstancesList)
  if called.1 = NtStatus.success then
    (called.1, called.2 ++ [sendPacket])
  else
    called

theorem fltInjectRequest_success_iff (requestCallback : ι → NtStatus × List ε) (sendPacket : ε)
    (fltInstancesList : List ι) (pInstance : Option ι)
    : (fltInjectRequest requestCallback sendPacket fltInstancesList pInstance).1 = NtStatus.success ↔
        ∀ i ∈ Chain.after pInstance fltInstancesList, (requestCallback i).1 = NtStatus.success := by
  rw [← Chain.callWhile_good_iff]
  unfold fltInjectRequest
  simp only
  split
  . apply Iff.rfl
  . apply Iff.rfl

end Ansfltr
