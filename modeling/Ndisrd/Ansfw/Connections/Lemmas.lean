import Mathlib.Data.List.Nodup
import Ndisrd.Ansfw.Connections.Impl

/-!
This module contains the specification of the connection table: what a call of `AddConnection` can do,
and the order that every table reached from the empty one keeps.
-/

namespace Ansfw

namespace Connection

theorem binds_iff (t : FiveTuple) (c : Connection)
    : c.binds t = true ↔
        c.ipProto = t.ipProto ∧ c.localPort = t.localPort ∧
          (c.localAddr = 0 ∨ c.localAddr = t.localAddr) ∧ c.remotePort = 0 ∧ c.remoteAddr = 0 := by
  simp [binds, and_assoc]

theorem getpid1_iff (t : FiveTuple) (c : Connection)
    : c.getpid1 t = true ↔
        c.localPort = t.localPort ∧ c.ipProto = t.ipProto ∧ c.localAddr = t.localAddr ∧
          c.remotePort = t.remotePort ∧ c.remoteAddr = t.remoteAddr := by
  simp [getpid1, and_assoc]

theorem getpid2_iff (t : FiveTuple) (c : Connection)
    : c.getpid2 t = true ↔
        c.localPort = t.localPort ∧ c.ipProto = t.ipProto ∧
          (c.localAddr = 0 ∨ c.localAddr = t.localAddr) ∧ c.remotePort = t.remotePort ∧
          c.remoteAddr = t.remoteAddr := by
  simp [getpid2, and_assoc]

theorem getpid3_iff (t : FiveTuple) (c : Connection)
    : c.getpid3 t = true ↔
        c.localPort = t.localPort ∧ c.ipProto = t.ipProto ∧ c.localAddr = t.localAddr ∧
          c.remotePort = 0 ∧ c.remoteAddr = 0 := by
  simp [getpid3, and_assoc]

theorem getpid4_iff (t : FiveTuple) (c : Connection)
    : c.getpid4 t = true ↔
        c.localPort = t.localPort ∧ c.ipProto = t.ipProto ∧
          (c.localAddr = 0 ∨ c.localAddr = t.localAddr) ∧ c.remotePort = 0 ∧ c.remoteAddr = 0 := by
  simp [getpid4, and_assoc]

@[simp]
theorem address_rewrite (pid : Nat) (t : FiveTuple) (c : Connection)
    : (c.rewrite pid t).address = c.address := rfl

@[simp]
theorem pid_rewrite (pid : Nat) (t : FiveTuple) (c : Connection) : (c.rewrite pid t).pid = pid := rfl

@[simp]
theorem address_create (address pid : Nat) (t : FiveTuple)
    : (create address pid t).address = address := rfl

@[simp]
theorem pid_create (address pid : Nat) (t : FiveTuple) : (create address pid t).pid = pid := rfl

@[simp]
theorem tuple_create (address pid : Nat) (t : FiveTuple) : (create address pid t).tuple = t := rfl

theorem getpid1_create (address pid : Nat) (t : FiveTuple) : (create address pid t).getpid1 t = true := by
  simp [getpid1, create]

-- A rewritten record has the tuple exactly when its local address is the tuple's.
theorem getpid1_rewrite {pid : Nat} {t : FiveTuple} {b : Connection} (hb : b.binds t = true)
    : (b.rewrite pid t).getpid1 t = true ↔ b.localAddr = t.localAddr := by
  obtain ⟨hproto, hport, _, _, _⟩ := (binds_iff t b).mp hb
  simp [getpid1, rewrite, hproto, hport]

theorem getpid2_rewrite {pid : Nat} {t : FiveTuple} {b : Connection} (hb : b.binds t = true)
    : (b.rewrite pid t).getpid2 t = true := by
  obtain ⟨hproto, hport, haddr, _, _⟩ := (binds_iff t b).mp hb
  rw [getpid2_iff]
  exact ⟨hport, hproto, haddr, rfl, rfl⟩

-- The records that match a local endpoint do not depend on their remote endpoint.
theorem binds_of_rewrite {pid : Nat} {t t' : FiveTuple} {b : Connection} (hb : b.binds t = true)
    (h : (b.rewrite pid t).binds t' = true)
    : b.binds t' = true := by
  obtain ⟨_, _, _, hrport, hraddr⟩ := (binds_iff t b).mp hb
  obtain ⟨hproto, hport, haddr, _, _⟩ := (binds_iff t' _).mp h
  exact (binds_iff t' b).mpr ⟨hproto, hport, haddr, hrport, hraddr⟩

end Connection

/-! ### What a call can do -/

inductive Added (allocated : Option Nat) (pid : Nat) (t : FiveTuple) (connections : List Connection)
    : Option Nat × List Connection → Prop where
  | rewritten (as : List Connection) (b : Connection) (bs : List Connection)
    (heq : connections = as ++ b :: bs) (has : ∀ a ∈ as, ¬a.binds t = true) (hb : b.binds t = true)
    : Added allocated pid t connections (some b.address, as ++ b.rewrite pid t :: bs)
  | inserted (address : Nat) (hnone : ∀ c ∈ connections, ¬c.binds t = true)
    (halloc : allocated = some address)
    : Added allocated pid t connections
        (some address, Connection.create address pid t :: connections)
  | refused (hnone : ∀ c ∈ connections, ¬c.binds t = true) (halloc : allocated = none)
    : Added allocated pid t connections (none, connections)

theorem updateConnection_eq_none {pid : Nat} {t : FiveTuple} {connections : List Connection}
    (h : ∀ c ∈ connections, ¬c.binds t = true)
    : updateConnection pid t connections = none := by
  induction connections with
  | nil => rfl
  | cons c connections ih =>
    obtain ⟨hc, hcs⟩ := List.forall_mem_cons.mp h
    rw [updateConnection, if_neg hc, ih hcs]

theorem updateConnection_append {pid : Nat} {t : FiveTuple} {as : List Connection} {b : Connection}
    (has : ∀ a ∈ as, ¬a.binds t = true) (hb : b.binds t = true) (bs : List Connection)
    : updateConnection pid t (as ++ b :: bs) = some (b.address, as ++ b.rewrite pid t :: bs) := by
  induction as with
  | nil =>
    rw [List.nil_append, updateConnection, if_pos hb]
    rfl
  | cons a as ih =>
    obtain ⟨ha, has⟩ := List.forall_mem_cons.mp has
    rw [List.cons_append, updateConnection, if_neg ha, ih has]
    rfl

theorem addConnection_cases (allocated : Option Nat) (pid : Nat) (t : FiveTuple)
    (connections : List Connection)
    : Added allocated pid t connections (addConnection allocated pid t connections) := by
  unfold addConnection
  rcases Passes.find_cases (Connection.binds t) connections with hnone | ⟨b, as, bs, heq, hb, has, _⟩
  . rw [updateConnection_eq_none hnone]
    cases allocated with
    | none => exact .refused hnone rfl
    | some address => exact .inserted address hnone rfl
  . rw [heq, updateConnection_append has hb]
    exact .rewritten as b bs rfl has hb

theorem removeConnection_sublist (p : Nat) (connections : List Connection)
    : List.Sublist (removeConnection p connections) connections := by
  induction connections with
  | nil => exact List.Sublist.refl _
  | cons c connections ih =>
    unfold removeConnection
    split
    . exact List.sublist_cons_self _ _
    . exact List.Sublist.cons_cons _ ih

theorem not_mem_removeConnection {connections : List Connection}
    (h : (connections.map Connection.address).Nodup) (p : Nat)
    : p ∉ (removeConnection p connections).map Connection.address := by
  induction connections with
  | nil => simp [removeConnection]
  | cons c connections ih =>
    rw [List.map_cons, List.nodup_cons] at h
    unfold removeConnection
    split
    next hc =>
      rw [← hc]
      exact h.1
    next hc =>
      rw [List.map_cons, List.mem_cons, not_or]
      exact ⟨fun heq => hc heq.symm, ih h.2⟩

/-! ### The order of the table -/

/--
No record stands in front of a binding of its own local endpoint: `AddConnection` would have rewritten
the binding instead.
-/
def Ordered (connections : List Connection) : Prop :=
  connections.Pairwise fun c b => ¬b.binds c.tuple = true

theorem ordered_addConnection {connections : List Connection} (h : Ordered connections)
    (allocated : Option Nat) (pid : Nat) (t : FiveTuple)
    : Ordered (addConnection allocated pid t connections).2 := by
  have hadded := addConnection_cases allocated pid t connections
  generalize addConnection allocated pid t connections = res at hadded ⊢
  cases hadded with
  | rewritten as b bs heq has hb =>
    unfold Ordered at h ⊢
    rw [heq, List.pairwise_append, List.pairwise_cons] at h
    obtain ⟨hfront, ⟨hbehind, hback⟩, hacross⟩ := h
    rw [List.pairwise_append, List.pairwise_cons]
    refine ⟨hfront, ⟨hbehind, hback⟩, ?_⟩
    intro a ha c hc
    rcases List.mem_cons.mp hc with rfl | hc
    . intro hbinds
      exact hacross a ha b List.mem_cons_self (Connection.binds_of_rewrite hb hbinds)
    . exact hacross a ha c (List.mem_cons_of_mem b hc)
  | inserted address hnone _ => exact List.pairwise_cons.mpr ⟨hnone, h⟩
  | refused _ _ => exact h

theorem ordered_removeConnection {connections : List Connection} (h : Ordered connections) (p : Nat)
    : Ordered (removeConnection p connections) := h.sublist (removeConnection_sublist p connections)

-- In front of the record that a call rewrites, no record has the local endpoint of the call.
theorem Ordered.not_in_front {t : FiveTuple} {as bs : List Connection} {b a : Connection}
    (h : Ordered (as ++ b :: bs)) (hb : b.binds t = true) (ha : a ∈ as)
    (hproto : a.ipProto = t.ipProto) (hport : a.localPort = t.localPort)
    : b.localAddr ≠ 0 ∧ a.localAddr ≠ b.localAddr := by
  obtain ⟨_, _, hacross⟩ := List.pairwise_append.mp h
  have hnot := hacross a ha b List.mem_cons_self
  obtain ⟨hbproto, hbport, _, hrport, hraddr⟩ := (Connection.binds_iff t b).mp hb
  have hiff := Connection.binds_iff a.tuple b
  simp only [Connection.tuple, hbproto, hbport, hproto, hport, hrport, hraddr, true_and, and_true]
    at hiff
  rw [Connection.tuple, hproto, hport] at hnot
  rw [hiff, not_or] at hnot
  exact ⟨hnot.1, fun heq => hnot.2 heq.symm⟩

theorem nodup_addConnection {connections : List Connection}
    (h : (connections.map Connection.address).Nodup) {allocated : Option Nat}
    (hfresh : ∀ address, allocated = some address → address ∉ connections.map Connection.address)
    (pid : Nat) (t : FiveTuple)
    : ((addConnection allocated pid t connections).2.map Connection.address).Nodup := by
  have hadded := addConnection_cases allocated pid t connections
  generalize addConnection allocated pid t connections = res at hadded ⊢
  cases hadded with
  | rewritten as b bs heq has hb =>
    rw [heq] at h
    simpa using h
  | inserted address hnone halloc => exact List.nodup_cons.mpr ⟨hfresh address halloc, h⟩
  | refused _ _ => exact h

end Ansfw
