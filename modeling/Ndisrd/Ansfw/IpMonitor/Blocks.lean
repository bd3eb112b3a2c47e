import Mathlib.Data.List.Nodup
import Ndisrd.Ansfw.IpMonitor.Impl
import Ndisrd.Lib.Restart

/-!
This module contains what the list of local addresses says after any notifications, and what has become
of the blocks that were allocated for it.
-/

namespace Ansfw.IpMonitor

/-! ### What was notified -/

namespace Notification

def dwAddr : Notification → Nat
  | .add address _ _ => address.dwAddr
  | .del address _ => address.dwAddr

def isAdd : Notification → Bool
  | .add _ _ _ => true
  | .del _ _ => false

end Notification

-- The last notification for the address was an add.
def LastAdded (es : List Notification) (dwAddr : Nat) : Prop :=
  (es.filter fun e => e.dwAddr == dwAddr).getLast?.any Notification.isAdd = true

theorem lastAdded_concat_self (es : List Notification) (e : Notification)
    : LastAdded (es ++ [e]) e.dwAddr ↔ e.isAdd = true := by
  have hfilter : [e].filter (fun e' => e'.dwAddr == e.dwAddr) = [e] :=
    List.filter_eq_self.mpr (by simp)
  rw [LastAdded, List.filter_append, hfilter, List.getLast?_concat, Option.any_some]

theorem lastAdded_concat_other (es : List Notification) {e : Notification} {dwAddr : Nat}
    (h : e.dwAddr ≠ dwAddr)
    : LastAdded (es ++ [e]) dwAddr ↔ LastAdded es dwAddr := by
  have hfilter : [e].filter (fun e' => e'.dwAddr == dwAddr) = [] :=
    List.filter_eq_nil_iff.mpr (by simp [h])
  rw [LastAdded, List.filter_append, hfilter, List.append_nil, LastAdded]

/-! ### The two notifications -/

theorem delLoop_eq_walk (dwAddr : Nat) (seen rest : List NetAddress)
    : delLoop dwAddr seen rest =
        (Restart.walk (fun pNetAddress => pNetAddress.dwAddr == dwAddr) id seen rest).1 := by
  induction seen, rest using delLoop.induct dwAddr with
  | case1 seen => rw [delLoop, Restart.walk_nil]
  | case2 seen pNetAddress rest heq ih =>
    rw [delLoop, if_pos heq, ih, Restart.walk_gone _ _ (by simp [heq])]
  | case3 seen pNetAddress rest hne ih =>
    rw [delLoop, if_neg hne, ih, Restart.walk_keep _ _ (by simp [hne])]
    rfl

theorem delLoop_eq (dwAddr : Nat) (l : List NetAddress)
    : delLoop dwAddr [] l = l.filter fun pNetAddress => !(pNetAddress.dwAddr == dwAddr) := by
  rw [delLoop_eq_walk, Restart.walk_id _ (fun x hx => by cases hx), List.nil_append]

section Step

variable {s : Monitor} {address : TaAddress} {deviceName : Bool} (h : address.IPv4 deviceName)
include h

theorem step_add (block : Nat)
    : step s (.add address deviceName (some block)) =
        ⟨⟨block, address.dwAddr⟩ :: s.gNetAddressesList, block :: s.allocated⟩ := if_pos h

theorem step_del
    : step s (.del address deviceName) =
        { s with gNetAddressesList :=
          s.gNetAddressesList.filter fun pNetAddress => !(pNetAddress.dwAddr == address.dwAddr) } := by
  rw [← delLoop_eq]
  exact if_pos h

end Step

/-! ### The list -/

def Listed (s : Monitor) (dwAddr : Nat) : Prop :=
  ∃ pNetAddress ∈ s.gNetAddressesList, pNetAddress.dwAddr = dwAddr

/--
What holds after any notifications: the list has the addresses that were added last, and its entries are
different blocks, which have not been given back.
-/
structure Inv (es : List Notification) (s : Monitor) : Prop where
  listed : ∀ dwAddr, Listed s dwAddr ↔ LastAdded es dwAddr
  nodup : (s.gNetAddressesList.map NetAddress.block).Nodup
  allocated : ∀ pNetAddress ∈ s.gNetAddressesList, pNetAddress.block ∈ s.allocated

theorem inv_registerIpMonitor : Inv [] registerIpMonitor where
  listed := by
    intro dwAddr
    apply iff_of_false
    . rintro ⟨pNetAddress, hmem, _⟩
      cases hmem
    . exact Bool.false_ne_true
  nodup := List.nodup_nil
  allocated := fun pNetAddress hmem => by cases hmem

theorem Inv.step {es : List Notification} {s : Monitor} {e : Notification} (h : Inv es s)
    (he : e.Admissible s)
    : Inv (es ++ [e]) (step s e) := by
  have hlisted : ∀ {l : List NetAddress} {allocated : List Nat},
      (∀ dwAddr, dwAddr ≠ e.dwAddr →
        (Listed ⟨l, allocated⟩ dwAddr ↔ Listed s dwAddr)) →
      (Listed ⟨l, allocated⟩ e.dwAddr ↔ e.isAdd = true) →
      ∀ dwAddr, Listed ⟨l, allocated⟩ dwAddr ↔ LastAdded (es ++ [e]) dwAddr := by
    intro l allocated hother hself dwAddr
    by_cases heq : dwAddr = e.dwAddr
    . rw [heq, hself, lastAdded_concat_self]
    . rw [hother dwAddr heq, h.listed, lastAdded_concat_other es (Ne.symm heq)]
  cases e with
  | add address deviceName memory =>
    obtain ⟨hip, block, rfl, hfresh⟩ := he
    rw [step_add hip]
    refine ⟨hlisted ?_ ?_, ?_, ?_⟩
    . intro dwAddr hne
      have hne' : ¬address.dwAddr = dwAddr := fun heq => hne heq.symm
      simp [Listed, hne']
    . simp [Listed, Notification.dwAddr, Notification.isAdd]
    . rw [List.map_cons, List.nodup_cons]
      refine ⟨fun hmem => hfresh ?_, h.nodup⟩
      obtain ⟨pNetAddress, hpNet, hblock⟩ := List.mem_map.mp hmem
      rw [← show pNetAddress.block = block from hblock]
      exact h.allocated pNetAddress hpNet
    . rw [List.forall_mem_cons]
      refine ⟨List.mem_cons_self, ?_⟩
      intro pNetAddress hmem
      exact List.mem_cons_of_mem block (h.allocated pNetAddress hmem)
  | del address deviceName =>
    rw [step_del he]
    refine ⟨hlisted ?_ ?_, ?_, ?_⟩
    . intro dwAddr hne
      have hkeep : ∀ pNetAddress : NetAddress, pNetAddress.dwAddr = dwAddr →
          ¬pNetAddress.dwAddr = address.dwAddr := by
        rintro pNetAddress rfl heq
        exact hne heq
      simp only [Listed, List.mem_filter, Bool.not_eq_true', beq_eq_false_iff_ne, ne_eq]
      constructor
      . rintro ⟨pNetAddress, ⟨hmem, _⟩, haddr⟩
        exact ⟨pNetAddress, hmem, haddr⟩
      . rintro ⟨pNetAddress, hmem, haddr⟩
        exact ⟨pNetAddress, ⟨hmem, hkeep pNetAddress haddr⟩, haddr⟩
    . simp [Listed, Notification.dwAddr, Notification.isAdd]
    . exact h.nodup.sublist (List.filter_sublist.map _)
    . intro pNetAddress hmem
      exact h.allocated pNetAddress (List.mem_of_mem_filter hmem)

theorem inv_run {es : List Notification}
    (hes : Run.Along step Notification.Admissible registerIpMonitor es)
    : Inv es (Run.run step registerIpMonitor es) :=
  Run.inv_run_history (fun _ _ _ h he => h.step he) inv_registerIpMonitor hes

/-! ### The blocks -/

def Loopback (dwAddr : Nat) : Prop := dwAddr &&& 0x000000ff = 0x0000007f

theorem isLocalAddress_iff {dwAddr : Nat} (h : ¬Loopback dwAddr) (s : Monitor)
    : isLocalAddress s.gNetAddressesList dwAddr = true ↔ Listed s dwAddr := by
  have hloopback : (dwAddr &&& 0x000000ff == 0x0000007f) = false := beq_false_of_ne h
  rw [isLocalAddress, hloopback]
  simp [Listed]

def BlocksListed (s : Monitor) : Prop :=
  ∀ block, block ∈ s.allocated ↔ ∃ pNetAddress ∈ s.gNetAddressesList, pNetAddress.block = block

/--
What the list says after these notifications, and what the delete loop leaves of it.
-/
structure Answers (es : List Notification) (s : Monitor) : Prop where
  isLocal : ∀ dwAddr, ¬Loopback dwAddr →
    (isLocalAddress s.gNetAddressesList dwAddr = true ↔ LastAdded es dwAddr)
  delLoop : ∀ dwAddr, delLoop dwAddr [] s.gNetAddressesList =
    s.gNetAddressesList.filter fun pNetAddress => !(pNetAddress.dwAddr == dwAddr)

/--
What is expected after these notifications.
-/
structure Sound (es : List Notification) (s : Monitor) : Prop extends Answers es s where
  blocks : BlocksListed s

theorem Inv.answers {es : List Notification} {s : Monitor} (h : Inv es s) : Answers es s := by
  refine ⟨?_, fun dwAddr => delLoop_eq dwAddr _⟩
  intro dwAddr hloopback
  rw [isLocalAddress_iff hloopback, h.listed]

theorem Inv.sound_iff {es : List Notification} {s : Monitor} (h : Inv es s)
    : Sound es s ↔ BlocksListed s :=
  ⟨Sound.blocks, fun hblocks => ⟨h.answers, hblocks⟩⟩

-- The address that a notification takes off the list, and with it the block of every entry for it.
def Notification.Loses (s : Monitor) : Notification → Prop
  | .add _ _ _ => False
  | .del address _ => Listed s address.dwAddr

theorem BlocksListed.step {s : Monitor} {e : Notification} (h : BlocksListed s)
    (he : e.Admissible s) (hkept : ¬e.Loses s)
    : BlocksListed (step s e) := by
  cases e with
  | add address deviceName memory =>
    obtain ⟨hip, block, rfl, _⟩ := he
    rw [step_add hip]
    intro block'
    rw [List.mem_cons, h block', List.exists_mem_cons_iff]
    apply or_congr_left
    exact eq_comm
  | del address deviceName =>
    have hall : s.gNetAddressesList.filter (fun pNetAddress =>
        !(pNetAddress.dwAddr == address.dwAddr)) = s.gNetAddressesList := by
      rw [List.filter_eq_self]
      intro pNetAddress hmem
      simpa using fun heq => hkept ⟨pNetAddress, hmem, heq⟩
    rw [step_del he, hall]
    exact h

theorem Inv.not_blocksListed_of_loses {es : List Notification} {s : Monitor} {e : Notification}
    (h : Inv es s) (he : e.Admissible s) (hloses : e.Loses s)
    : ¬BlocksListed (IpMonitor.step s e) := by
  cases e with
  | add => exact absurd hloses id
  | del address deviceName =>
    obtain ⟨pNetAddress, hmem, haddr⟩ := hloses
    rw [step_del he]
    intro hblocks
    -- the block of the entry that was removed would be the one of an entry that was not
    obtain ⟨other, hother, hblock⟩ := (hblocks pNetAddress.block).mp (h.allocated pNetAddress hmem)
    rw [List.mem_filter] at hother
    have heq : other = pNetAddress := List.inj_on_of_nodup_map h.nodup hother.1 hmem hblock
    rw [heq, haddr] at hother
    simp at hother

theorem blocksListed_run {es : List Notification}
    (hes : Run.Along step Notification.Admissible registerIpMonitor es)
    (hkept : Run.Along step (fun s e => ¬e.Loses s) registerIpMonitor es)
    : BlocksListed (Run.run step registerIpMonitor es) := by
  have hinit : BlocksListed registerIpMonitor := by
    intro block
    simp [registerIpMonitor]
  exact Run.inv_run (fun s e h he => h.step he.1 he.2) hinit (hes.and hkept)

theorem not_loses_iff {es : List Notification}
    (hes : Run.Along step Notification.Admissible registerIpMonitor es)
    : Run.Along step (fun s e => ¬e.Loses s) registerIpMonitor es ↔
        ∀ es' address deviceName, es' ++ [.del address deviceName] <+: es →
          ¬LastAdded es' address.dwAddr := by
  have hlisted : ∀ es' e, es' ++ [e] <+: es → ∀ dwAddr,
      (Listed (Run.run step registerIpMonitor es') dwAddr ↔ LastAdded es' dwAddr) := by
    intro es' e hstart
    exact (inv_run (hes.of_prefix ((List.prefix_append es' [e]).trans hstart))).listed
  rw [Run.along_iff_prefixes]
  constructor
  . intro h es' address deviceName hstart
    rw [← hlisted es' _ hstart]
    exact h es' _ hstart
  . intro h es' e hstart
    cases e with
    | add => exact id
    | del address deviceName =>
      rw [Notification.Loses, hlisted es' _ hstart]
      exact h es' address deviceName hstart

/--
After any notifications the list says what was notified last, and the delete loop has left the other
addresses. No block is lost in any state of a run if and only if no delete comes for an address whose
last notification was an add.
-/
theorem run_sound_iff {es : List Notification}
    (hes : Run.Along step Notification.Admissible registerIpMonitor es)
    : (∀ es', es' <+: es → Answers es' (Run.run step registerIpMonitor es')) ∧
        ((∀ es', es' <+: es → Sound es' (Run.run step registerIpMonitor es')) ↔
          ∀ es' address deviceName, es' ++ [.del address deviceName] <+: es →
            ¬LastAdded es' address.dwAddr) := by
  refine ⟨fun es' hstart => (inv_run (hes.of_prefix hstart)).answers, ?_⟩
  rw [← not_loses_iff hes]
  constructor
  . intro hsound
    rw [Run.along_iff_prefixes]
    intro es' e hstart hloses
    have halong := hes.of_prefix hstart
    have hblocks := (hsound _ hstart).blocks
    rw [Run.along_concat] at halong
    rw [Run.run_concat] at hblocks
    exact (inv_run halong.1).not_blocksListed_of_loses halong.2 hloses hblocks
  . intro hkept es' hstart
    have halong := hes.of_prefix hstart
    rw [(inv_run halong).sound_iff]
    exact blocksListed_run halong (hkept.of_prefix hstart)

-- An IPv4 address as TDI gives it: the port, the address 192.168.0.2, and zeros.
def ipAddress : TaAddress where
  addressLength := 14
  addressType := tdiAddressTypeIp
  address := fun i => [0, 0, 192, 168, 0, 2].getD i 0

def otherAddress : TaAddress := { ipAddress with address := fun i => [0, 0, 192, 168, 0, 3].getD i 0 }

def addAddDel : List Notification :=
  [.add ipAddress true (some 1), .add otherAddress true (some 2), .del ipAddress true]

-- The list has lost the one address and kept the other, and the block of the one is lost for good.
theorem answers_addAddDel
    : isLocalAddress (Run.run step registerIpMonitor addAddDel).gNetAddressesList ipAddress.dwAddr = false ∧
        isLocalAddress (Run.run step registerIpMonitor addAddDel).gNetAddressesList otherAddress.dwAddr = true ∧
        ¬∀ es', es' <+: addAddDel → Sound es' (Run.run step registerIpMonitor es') := by
  have hes : Run.Along step Notification.Admissible registerIpMonitor addAddDel :=
    ⟨⟨⟨rfl, rfl, rfl⟩, 1, rfl, by decide⟩, ⟨⟨rfl, rfl, rfl⟩, 2, rfl, by decide⟩, ⟨rfl, rfl, rfl⟩, trivial⟩
  obtain ⟨hanswers, hsound⟩ := run_sound_iff hes
  have hlocal := (hanswers _ (List.prefix_refl _)).isLocal
  refine ⟨?_, ?_, ?_⟩
  . rw [← Bool.not_eq_true, hlocal _ (by unfold Loopback; decide)]
    unfold LastAdded
    decide
  . rw [hlocal _ (by unfold Loopback; decide)]
    unfold LastAdded
    decide
  . rw [hsound]
    intro hnone
    apply hnone [.add ipAddress true (some 1), .add otherAddress true (some 2)] ipAddress true
      (List.prefix_refl _)
    unfold LastAdded
    decide

theorem not_sound_addDel
    : ¬∀ es, Run.Along step Notification.Admissible registerIpMonitor es →
        ∀ es', es' <+: es → Sound es' (Run.run step registerIpMonitor es') := by
  intro h
  have hes : Run.Along step Notification.Admissible registerIpMonitor
      [.add ipAddress true (some 1), .del ipAddress true] :=
    ⟨⟨⟨rfl, rfl, rfl⟩, 1, rfl, by decide⟩, ⟨rfl, rfl, rfl⟩, trivial⟩
  have hblocks := (h _ hes _ (List.prefix_refl _)).blocks 1
  rw [Run.run_cons, step_add ⟨rfl, rfl, rfl⟩, Run.run_cons, step_del ⟨rfl, rfl, rfl⟩] at hblocks
  simp [registerIpMonitor] at hblocks

end Ansfw.IpMonitor
