import Ndisrd.Ansfw.Connections.Lemmas

/-!
This module contains what the connection table attributes packets to: whether the latest registration of
a connection decides, and whether a registration leaves the packets of other peers attributed.
-/

namespace Ansfw

/-! ### Tables reached by registrations and removals -/

inductive TableCall where
  | add (allocated : Option Nat) (pid : Nat) (t : FiveTuple)
  | remove (pConnection : Nat)

def tableStep (connections : List Connection) : TableCall → List Connection
  | .add allocated pid t => (addConnection allocated pid t connections).2
  | .remove pConnection => removeConnection pConnection connections

theorem ordered_tableStep {connections : List Connection} (h : Ordered connections) (call : TableCall)
    : Ordered (tableStep connections call) := by
  cases call with
  | add allocated pid t => exact ordered_addConnection h allocated pid t
  | remove pConnection => exact ordered_removeConnection h pConnection

theorem ordered_run (calls : List TableCall) : Ordered (Run.run tableStep [] calls) := by
  have hstep : ∀ connections call, Ordered connections → True → Ordered (tableStep connections call) :=
    fun _ call h _ => ordered_tableStep h call
  exact Run.inv_run hstep List.Pairwise.nil (Run.along_of_forall tableStep fun _ _ => trivial)

/-! ### The latest registration -/

theorem getpidPasses_of_transport {t : FiveTuple}
    (h : t.ipProto = ipprotoTcp ∨ t.ipProto = ipprotoUdp)
    : getpidPasses t =
        [Connection.getpid1 t, Connection.getpid2 t, Connection.getpid3 t, Connection.getpid4 t] :=
  if_pos h

theorem getPidFromLocalInfo_of_lookup {t : FiveTuple} {connections : List Connection} {c : Connection}
    (h : Passes.lookup (getpidPasses t) connections = some c)
    : getPidFromLocalInfo t connections = c.pid := by
  rw [getPidFromLocalInfo, h]

theorem getPidFromLocalInfo_of_getConnection {t : FiveTuple}
    (htransport : t.ipProto = ipprotoTcp ∨ t.ipProto = ipprotoUdp) {connections : List Connection}
    {c : Connection} (h : getConnection t connections = some c)
    : getPidFromLocalInfo t connections = c.pid := by
  apply getPidFromLocalInfo_of_lookup
  rw [getpidPasses_of_transport htransport]
  exact Passes.lookup_cons_of_find h _

/--
The call rewrites a binding of every local address, while the table already has a record of the very
connection, and that record has another pid.
-/
def Shadowed (pid : Nat) (t : FiveTuple) (connections : List Connection) : Prop :=
  ∃ b, connections.find? (Connection.binds t) = some b ∧ b.localAddr = 0 ∧
    ∃ e, getConnection t connections = some e ∧ e.pid ≠ pid

theorem getConnection_rewritten {pid : Nat} {t : FiveTuple} {as bs : List Connection} {b : Connection}
    (hordered : Ordered (as ++ b :: bs)) (hb : b.binds t = true) (haddr : b.localAddr = t.localAddr)
    : getConnection t (as ++ b.rewrite pid t :: bs) = some (b.rewrite pid t) := by
  apply Passes.find_append_cons
  . intro a ha hexact
    obtain ⟨hport, hproto, hlocal, _⟩ := (Connection.getpid1_iff t a).mp hexact
    exact (hordered.not_in_front hb ha hproto hport).2 (hlocal.trans haddr.symm)
  . exact (Connection.getpid1_rewrite hb).mpr haddr

-- A binding of every local address is no record of the connection, neither before nor after.
theorem getConnection_wildcard {pid : Nat} {t : FiveTuple} (hlocal : t.localAddr ≠ 0)
    {as bs : List Connection} {b : Connection} (hb : b.binds t = true) (haddr : b.localAddr = 0)
    : getConnection t (as ++ b.rewrite pid t :: bs) = getConnection t (as ++ b :: bs) := by
  have hnew : ¬(b.rewrite pid t).getpid1 t = true := by
    rw [Connection.getpid1_rewrite hb, haddr]
    exact fun heq => hlocal heq.symm
  have hold : ¬b.getpid1 t = true := by
    rw [Connection.getpid1_iff, haddr]
    exact fun hexact => hlocal hexact.2.2.1.symm
  unfold getConnection
  rw [List.find?_append, List.find?_append, List.find?_cons_of_neg hnew, List.find?_cons_of_neg hold]

theorem getPidFromLocalInfo_wildcard {pid : Nat} {t : FiveTuple}
    (htransport : t.ipProto = ipprotoTcp ∨ t.ipProto = ipprotoUdp) {as bs : List Connection}
    {b : Connection} (hordered : Ordered (as ++ b :: bs)) (hb : b.binds t = true)
    (haddr : b.localAddr = 0) (hnone : getConnection t (as ++ b.rewrite pid t :: bs) = none)
    : getPidFromLocalInfo t (as ++ b.rewrite pid t :: bs) = pid := by
  have hfront : ∀ a ∈ as, ¬a.getpid2 t = true := by
    intro a ha hsecond
    obtain ⟨hport, hproto, _⟩ := (Connection.getpid2_iff t a).mp hsecond
    exact (hordered.not_in_front hb ha hproto hport).1 haddr
  have hnew : (b.rewrite pid t).getpid2 t = true := Connection.getpid2_rewrite hb
  have hfind := Passes.find_append_cons hfront hnew bs
  rw [getPidFromLocalInfo_of_lookup (c := b.rewrite pid t)]
  . rfl
  . rw [getpidPasses_of_transport htransport,
      Passes.lookup_cons_of_forall (List.find?_eq_none.mp hnone), Passes.lookup_cons_of_find hfind]

theorem getPidFromLocalInfo_latest_iff (calls : List TableCall) (allocated : Option Nat) (pid : Nat)
    (t : FiveTuple) (htransport : t.ipProto = ipprotoTcp ∨ t.ipProto = ipprotoUdp)
    (hlocal : t.localAddr ≠ 0)
    (hsuccess : (addConnection allocated pid t (Run.run tableStep [] calls)).1 ≠ none)
    : getPidFromLocalInfo t (addConnection allocated pid t (Run.run tableStep [] calls)).2 = pid ↔
        ¬Shadowed pid t (Run.run tableStep [] calls) := by
  have hordered := ordered_run calls
  generalize Run.run tableStep [] calls = connections at hordered hsuccess ⊢
  have hadded := addConnection_cases allocated pid t connections
  generalize addConnection allocated pid t connections = res at hadded hsuccess ⊢
  cases hadded with
  | rewritten as b bs heq has hb =>
    subst heq
    have hfirst : (as ++ b :: bs).find? (Connection.binds t) = some b :=
      Passes.find_append_cons has hb bs
    obtain ⟨_, _, haddr, _, _⟩ := (Connection.binds_iff t b).mp hb
    unfold Shadowed
    simp only [hfirst, Option.some.injEq, exists_eq_left']
    by_cases hzero : b.localAddr = 0
    . have hsame : getConnection t (as ++ b.rewrite pid t :: bs) = getConnection t (as ++ b :: bs) :=
        getConnection_wildcard hlocal hb hzero
      cases hget : getConnection t (as ++ b.rewrite pid t :: bs) with
      | some e =>
        rw [getPidFromLocalInfo_of_getConnection htransport hget, ← hsame, hget]
        simp [hzero]
      | none =>
        rw [getPidFromLocalInfo_wildcard htransport hordered hb hzero hget, ← hsame, hget]
        simp
    . have hget : getConnection t (as ++ b.rewrite pid t :: bs) = some (b.rewrite pid t) :=
        getConnection_rewritten hordered hb (haddr.resolve_left hzero)
      rw [getPidFromLocalInfo_of_getConnection htransport hget]
      simp [hzero]
  | inserted address hnone _ =>
    have hget : getConnection t (Connection.create address pid t :: connections) =
        some (Connection.create address pid t) :=
      List.find?_cons_of_pos (Connection.getpid1_create address pid t)
    rw [getPidFromLocalInfo_of_getConnection htransport hget]
    simp [Shadowed, List.find?_eq_none.mpr hnone]
  | refused _ _ => exact absurd rfl hsuccess

-- A socket of process 7, bound to the address and the port that process 5 has a connection on, is connected.
def sharedPort : List TableCall :=
  [.add (some 1) 5 ⟨6, 0x0100007F, 80, 0x0300007F, 444⟩, .add (some 2) 7 ⟨6, 0x0100007F, 80, 0, 0⟩]

theorem getPidFromLocalInfo_latest_sharedPort
    : getPidFromLocalInfo ⟨6, 0x0100007F, 80, 0x0200007F, 443⟩
          (addConnection none 7 ⟨6, 0x0100007F, 80, 0x0200007F, 443⟩ (Run.run tableStep [] sharedPort)).2 =
        7 := by
  have hbinding : (Run.run tableStep [] sharedPort).find?
      (Connection.binds ⟨6, 0x0100007F, 80, 0x0200007F, 443⟩) =
      some (Connection.create 2 7 ⟨6, 0x0100007F, 80, 0, 0⟩) := by decide
  apply (getPidFromLocalInfo_latest_iff sharedPort none 7 ⟨6, 0x0100007F, 80, 0x0200007F, 443⟩ ?_ ?_ ?_).mpr
  . rintro ⟨b, hb, hzero, _⟩
    rw [hbinding] at hb
    cases hb
    revert hzero
    decide
  . exact Or.inl rfl
  . decide
  . decide

-- The record of process 5 outlives its connection, and hides the one of process 7 behind it.
theorem getPidFromLocalInfo_stale
    : let t : FiveTuple := ⟨6, 0x0100007F, 80, 0x0200007F, 443⟩
      let connections :=
        Run.run tableStep [] [.add (some 1) 5 t, .add (some 2) 7 ⟨6, 0, 80, 0, 0⟩]
      (addConnection none 7 t connections).1 = some 2 ∧
        getPidFromLocalInfo t (addConnection none 7 t connections).2 = 5 := by
  decide

/-! ### The packets of other peers -/

theorem lookup_of_getPidFromLocalInfo {t : FiveTuple} {connections : List Connection}
    (h : getPidFromLocalInfo t connections ≠ 0)
    : ∃ c, Passes.lookup (getpidPasses t) connections = some c ∧ c.pid ≠ 0 := by
  unfold getPidFromLocalInfo at h
  cases hc : Passes.lookup (getpidPasses t) connections with
  | some c =>
    rw [hc] at h
    exact ⟨c, rfl, h⟩
  | none =>
    rw [hc] at h
    exact absurd rfl h

theorem getPidFromLocalInfo_ne_zero {t : FiveTuple} {connections : List Connection} {c : Connection}
    (h : Passes.lookup (getpidPasses t) connections = some c) (hc : c.pid ≠ 0)
    : getPidFromLocalInfo t connections ≠ 0 := by
  rw [getPidFromLocalInfo_of_lookup h]
  exact hc

/--
One of the records answers the request with a pid: of those that match it best, it is the first.
-/
def Attributed (request : FiveTuple) (connections : List Connection) : Prop :=
  ∃ c, Passes.Best (getpidPasses request) connections c ∧ c.pid ≠ 0

/--
When the call rewrites a binding, it keeps the binding's remote endpoint, or it is about the peer of the
request, or the records beside the binding still answer the request.
-/
def KeepsAttribution (t request : FiveTuple) (connections : List Connection) : Prop :=
  ∀ as b bs, connections = as ++ b :: bs → (∀ a ∈ as, ¬a.binds t = true) → b.binds t = true →
    (t.remoteAddr = 0 ∧ t.remotePort = 0) ∨
      (t.remoteAddr = request.remoteAddr ∧ t.remotePort = request.remotePort) ∨
      Attributed request (as ++ bs)

-- The last pass takes every binding that one of the others takes.
theorem not_pass_of_not_getpid4 {request : FiveTuple} {b : Connection} (hrport : b.remotePort = 0)
    (hraddr : b.remoteAddr = 0) (h : ¬b.getpid4 request = true)
    : ∀ p ∈ [Connection.getpid1 request, Connection.getpid2 request, Connection.getpid3 request,
        Connection.getpid4 request], ¬p b = true := by
  rw [Connection.getpid4_iff] at h
  simp only [List.forall_mem_cons, Connection.getpid1_iff, Connection.getpid2_iff,
    Connection.getpid3_iff, Connection.getpid4_iff]
  refine ⟨?_, ?_, ?_, h, fun p hp => by cases hp⟩
  . rintro ⟨hport, hproto, haddr, _⟩
    exact h ⟨hport, hproto, Or.inr haddr, hrport, hraddr⟩
  . rintro ⟨hport, hproto, haddr, _⟩
    exact h ⟨hport, hproto, haddr, hrport, hraddr⟩
  . rintro ⟨hport, hproto, haddr, _⟩
    exact h ⟨hport, hproto, Or.inr haddr, hrport, hraddr⟩

section Rewritten

variable {t request : FiveTuple} {b : Connection}
variable (htransport : request.ipProto = ipprotoTcp ∨ request.ipProto = ipprotoUdp)
include htransport

-- The binding becomes a record of another peer, and no pass takes it for the request any more.
theorem lookup_rewritten_other (pid : Nat) (as bs : List Connection) (hpeer : ¬(t.remoteAddr = 0 ∧ t.remotePort = 0))
    (hother : ¬(t.remoteAddr = request.remoteAddr ∧ t.remotePort = request.remotePort))
    : Passes.lookup (getpidPasses request) (as ++ b.rewrite pid t :: bs) =
        Passes.lookup (getpidPasses request) (as ++ bs) := by
  apply Passes.lookup_skip
  rw [getpidPasses_of_transport htransport]
  have hsame : ∀ remotePort remoteAddr,
      (b.rewrite pid t).remotePort = remotePort → (b.rewrite pid t).remoteAddr = remoteAddr →
        t.remoteAddr = remoteAddr ∧ t.remotePort = remotePort :=
    fun _ _ hport haddr => ⟨haddr, hport⟩
  simp only [List.forall_mem_cons, Connection.getpid1_iff, Connection.getpid2_iff,
    Connection.getpid3_iff, Connection.getpid4_iff]
  refine ⟨?_, ?_, ?_, ?_, fun p hp => by cases hp⟩
  . rintro ⟨_, _, _, hport, haddr⟩
    exact hother (hsame _ _ hport haddr)
  . rintro ⟨_, _, _, hport, haddr⟩
    exact hother (hsame _ _ hport haddr)
  . rintro ⟨_, _, _, hport, haddr⟩
    exact hpeer (hsame _ _ hport haddr)
  . rintro ⟨_, _, _, hport, haddr⟩
    exact hpeer (hsame _ _ hport haddr)

theorem rank_rewritten (pid : Nat) (hb : b.binds t = true)
    (hpeer : (t.remoteAddr = 0 ∧ t.remotePort = 0) ∨
      (t.remoteAddr = request.remoteAddr ∧ t.remotePort = request.remotePort))
    : Passes.rank (getpidPasses request) (b.rewrite pid t) ≤
        Passes.rank (getpidPasses request) b := by
  obtain ⟨_, _, _, hrport, hraddr⟩ := (Connection.binds_iff t b).mp hb
  rw [getpidPasses_of_transport htransport]
  rcases hpeer with ⟨haddr, hport⟩ | ⟨haddr, hport⟩
  . apply Nat.le_of_eq
    simp only [Passes.rank, Connection.getpid1, Connection.getpid2, Connection.getpid3,
      Connection.getpid4, Connection.rewrite, haddr, hport, hrport, hraddr]
  . -- a binding that some pass took for the request has its local endpoint, so pass 2 takes the new one
    by_cases hmatch : b.getpid4 request = true
    . obtain ⟨hlport, hproto, hladdr, _, _⟩ := (Connection.getpid4_iff request b).mp hmatch
      have hsecond : (b.rewrite pid t).getpid2 request = true :=
        (Connection.getpid2_iff request _).mpr ⟨hlport, hproto, hladdr, hport, haddr⟩
      by_cases hfirst : b.getpid1 request = true
      . have hfirst' : (b.rewrite pid t).getpid1 request = true := by
          rw [Connection.getpid1_iff] at hfirst ⊢
          exact ⟨hfirst.1, hfirst.2.1, hfirst.2.2.1, hport, haddr⟩
        rw [Passes.rank_cons_pos hfirst']
        omega
      . rw [Passes.rank_cons_neg hfirst]
        unfold Passes.rank
        split
        . omega
        . rw [Passes.rank_cons_pos hsecond]
          omega
    . have hnone := not_pass_of_not_getpid4 hrport hraddr hmatch
      rw [Passes.rank_eq_length hnone]
      apply Passes.rank_le_length

end Rewritten

theorem addConnection_append (allocated : Option Nat) (pid : Nat) {t : FiveTuple}
    {as : List Connection} {b : Connection} (has : ∀ a ∈ as, ¬a.binds t = true)
    (hb : b.binds t = true) (bs : List Connection)
    : addConnection allocated pid t (as ++ b :: bs) =
        (some b.address, as ++ b.rewrite pid t :: bs) := by
  unfold addConnection
  rw [updateConnection_append has hb]

theorem attributed_addConnection_iff (allocated : Option Nat) (pid : Nat) (t request : FiveTuple)
    (connections : List Connection) (hpid : pid ≠ 0)
    (htransport : request.ipProto = ipprotoTcp ∨ request.ipProto = ipprotoUdp)
    (hbefore : getPidFromLocalInfo request connections ≠ 0)
    : getPidFromLocalInfo request (addConnection allocated pid t connections).2 ≠ 0 ↔
        KeepsAttribution t request connections := by
  obtain ⟨c, hc, hcpid⟩ := lookup_of_getPidFromLocalInfo hbefore
  constructor
  . intro hafter as b bs heq has hb
    subst heq
    rw [addConnection_append allocated pid has hb] at hafter
    by_cases hpeer : t.remoteAddr = 0 ∧ t.remotePort = 0
    . exact Or.inl hpeer
    . by_cases hother : t.remoteAddr = request.remoteAddr ∧ t.remotePort = request.remotePort
      . exact Or.inr (Or.inl hother)
      . obtain ⟨d, hd, hdpid⟩ := lookup_of_getPidFromLocalInfo hafter
        rw [lookup_rewritten_other htransport pid as bs hpeer hother] at hd
        exact Or.inr (Or.inr ⟨d, Passes.best_of_lookup hd, hdpid⟩)
  . intro hkeeps
    have hadded := addConnection_cases allocated pid t connections
    generalize addConnection allocated pid t connections = res at hadded ⊢
    cases hadded with
    | rewritten as b bs heq has hb =>
      subst heq
      by_cases hpeer : (t.remoteAddr = 0 ∧ t.remotePort = 0) ∨
          (t.remoteAddr = request.remoteAddr ∧ t.remotePort = request.remotePort)
      . have hrank := rank_rewritten htransport pid hb hpeer
        obtain ⟨d, hd, hdpid⟩ := Passes.lookup_replace (P := fun c => c.pid ≠ 0) hc hcpid
          (show (b.rewrite pid t).pid ≠ 0 from hpid) hrank
        exact getPidFromLocalInfo_ne_zero hd hdpid
      . rw [not_or] at hpeer
        rcases hkeeps as b bs rfl has hb with hzero | hsame | ⟨d, hbest, hdpid⟩
        . exact absurd hzero hpeer.1
        . exact absurd hsame hpeer.2
        . apply getPidFromLocalInfo_ne_zero (c := d) ?_ hdpid
          rw [lookup_rewritten_other htransport pid as bs hpeer.1 hpeer.2]
          exact Passes.lookup_of_best hbest
    | inserted address _ _ =>
      have hfront : Passes.lookup _ ([] ++ connections) = some _ := hc
      obtain ⟨d, hd, hdpid⟩ := Passes.lookup_insert (P := fun c => c.pid ≠ 0)
        (b := Connection.create address pid t) hfront hcpid hpid
      exact getPidFromLocalInfo_ne_zero hd hdpid
    | refused _ _ => exact hbefore

theorem attributed_addConnection_insert
    : getPidFromLocalInfo ⟨17, 0x0100007F, 53, 0x0200007F, 99⟩
        (addConnection (some 2) 8 ⟨17, 0x0100007F, 54, 0x0300007F, 98⟩
          [⟨1, 5, 0, 53, 0, 0, 17⟩]).2 ≠ 0 := by
  apply (attributed_addConnection_iff (some 2) 8 ⟨17, 0x0100007F, 54, 0x0300007F, 98⟩
    ⟨17, 0x0100007F, 53, 0x0200007F, 99⟩ [⟨1, 5, 0, 53, 0, 0, 17⟩] ?_ ?_ ?_).mpr
  . intro as b bs heq _ hb
    have hmem : b ∈ [(⟨1, 5, 0, 53, 0, 0, 17⟩ : Connection)] := by
      rw [heq]
      exact List.mem_append_right _ List.mem_cons_self
    rw [List.mem_singleton.mp hmem] at hb
    exact absurd hb (by decide)
  . decide
  . exact Or.inr rfl
  . decide

-- A UDP socket bound to port 53 connects to one peer: what it gets from another one is nobody's.
theorem getPidFromLocalInfo_lost
    : let connections : List Connection := [⟨1, 5, 0, 53, 0, 0, 17⟩]
      let request : FiveTuple := ⟨17, 0x0100007F, 53, 0x0200007F, 99⟩
      getPidFromLocalInfo request connections = 5 ∧
        getPidFromLocalInfo request
          (addConnection none 5 ⟨17, 0x0100007F, 53, 0x0300007F, 98⟩ connections).2 = 0 := by
  decide

end Ansfw
