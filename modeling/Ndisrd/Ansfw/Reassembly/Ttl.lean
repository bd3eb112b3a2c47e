import Ndisrd.Lib.Restart
import Ndisrd.Ansfw.Reassembly.Lemmas

/-!
This module contains what one pass of `TtlDecrementThreadFunc` does to the datagrams in the queue, and
when every one of them that it leaves loses exactly one unit of its lifetime.
-/

namespace Ansfw

def DataList.expired (d : DataList) : Bool := d.ttl = 0

def DataList.older (d : DataList) : DataList := { d with ttl := d.ttl - 1 }

theorem ttlLoop_eq_walk (s : Reassembly) (seen rest : List DataList)
    : ttlLoop s seen rest =
        { s with
          datagrQueue := (Restart.walk DataList.expired DataList.older seen rest).1
          freeDatagramWorkBufList := s.freeDatagramWorkBufList ++
            (Restart.walk DataList.expired DataList.older seen rest).2
          released := s.released ++
            (Restart.walk DataList.expired DataList.older seen rest).2.flatMap
              DataList.fragmentsList } := by
  induction s, seen, rest using ttlLoop.induct with
  | case1 s seen =>
    rw [ttlLoop, Restart.walk_nil]
    simp
  | case2 s seen d rest httl ih =>
    have hgone : d.expired = true := decide_eq_true httl
    rw [ttlLoop, if_pos httl, ih, Restart.walk_gone _ _ hgone]
    simp [Reassembly.releaseFragments, Reassembly.ruleRecycleDatagramWorkBuffer]
  | case3 s seen d rest httl ih =>
    have hkeep : ¬d.expired = true := by simpa [DataList.expired] using httl
    rw [ttlLoop, if_neg httl, ih, Restart.walk_keep _ _ hkeep]
    rfl

/--
`s'` is `s` after a pass in which the datagrams with no lifetime left went, each with its fragments, and
all others grew older by one.
-/
structure TtlPassed (s s' : Reassembly) : Prop where
  queue : s'.datagrQueue = (s.datagrQueue.filter fun d => !d.expired).map DataList.older
  recycled : ∃ buffers, buffers.Perm (s.datagrQueue.filter DataList.expired) ∧
    s'.freeDatagramWorkBufList = s.freeDatagramWorkBufList ++ buffers
  released : ∃ fragments,
    fragments.Perm ((s.datagrQueue.filter DataList.expired).flatMap DataList.fragmentsList) ∧
      s'.released = s.released ++ fragments
  others : s'.intermedQueue = s.intermedQueue ∧ s'.delivered = s.delivered ∧
    s'.injected = s.injected ∧ s'.allocCounter = s.allocCounter

/--
No datagram with some lifetime left stands in front of one with none.
-/
abbrev ExpiredFirst (datagrQueue : List DataList) : Prop :=
  Restart.GoneFirst DataList.expired datagrQueue

theorem walk_eq_kept_iff_expiredFirst (datagrQueue : List DataList)
    : (Restart.walk DataList.expired DataList.older [] datagrQueue).1 =
          Restart.kept DataList.expired DataList.older datagrQueue ↔
        ExpiredFirst datagrQueue := by
  have holder : ∀ d : DataList, ¬d.expired = true → d.ttl = d.older.ttl + 1 := by
    intro d hd
    have : ¬d.ttl = 0 := by simpa [DataList.expired] using hd
    simp only [DataList.older]
    omega
  exact Restart.walk_eq_kept_iff holder (fun d hd => of_decide_eq_true hd) datagrQueue

/--
A pass of the TTL thread over the queue does what one pass is meant to do if and only if the expired
datagrams come first: the loop starts over at the head after each removal.
-/
theorem ttlPassed_iff (s : Reassembly)
    : TtlPassed s (ttlDecrementThreadFunc s) ↔ ExpiredFirst s.datagrQueue := by
  rw [ttlDecrementThreadFunc, ttlLoop_eq_walk]
  constructor
  . intro h
    exact (walk_eq_kept_iff_expiredFirst s.datagrQueue).mp h.queue
  . intro h
    rw [Restart.walk_of_goneFirst _ _ h]
    exact ⟨rfl, ⟨_, .refl _, rfl⟩, ⟨_, .refl _, rfl⟩, rfl, rfl, rfl, rfl⟩

def agingQueue : Reassembly :=
  { initializeReassembly with
    datagrQueue := [{ DataList.zeroed 0 with ttl := 5 }, { DataList.zeroed 1 with ID := 1 }]
    allocCounter := 2 }

-- The removal of the second datagram makes the first one lose two units of its lifetime.
theorem not_ttlPassed_agingQueue
    : ¬∀ s : Reassembly, TtlPassed s (ttlDecrementThreadFunc s) := by
  intro h
  have hqueue := (h agingQueue).queue
  rw [ttlDecrementThreadFunc, ttlLoop_eq_walk] at hqueue
  have hfirst := (walk_eq_kept_iff_expiredFirst agingQueue.datagrQueue).mp hqueue
  have hexpired := (List.pairwise_cons.mp hfirst).1 _ List.mem_cons_self rfl
  exact absurd hexpired (by decide)

end Ansfw
