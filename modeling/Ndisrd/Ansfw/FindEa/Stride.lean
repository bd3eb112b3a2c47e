import Ndisrd.Ansfw.FindEa.Impl

/-!
This module contains what `FindEA` finds: it adds `NextEntryOffset` to a pointer to structures, and so
goes on in steps of that many structures where the list is linked by bytes.
-/

namespace Ansfw.FindEa

open Loop (Turn Ends)

/-! ### Lists of attributes -/

/--
The list that starts at `p`, its entries at these addresses: each ends before the next one, and the last
one before `limit`.
-/
inductive EaList (mem : Nat → UInt8) (limit : Nat) : Nat → List Nat → Prop where
  | last {p : Nat} (hnext : nextEntryOffset mem p = 0)
    (hroom : eaValueAddress mem p + eaValueLength mem p ≤ limit) : EaList mem limit p [p]
  | cons {p : Nat} {entries : List Nat} (hnext : nextEntryOffset mem p ≠ 0)
    (hroom : eaValueAddress mem p + eaValueLength mem p ≤ p + nextEntryOffset mem p)
    (hrest : EaList mem limit (p + nextEntryOffset mem p) entries) : EaList mem limit p (p :: entries)

def firstNamed (mem : Nat → UInt8) (pName : List UInt8) (entries : List Nat) : Option Nat :=
  entries.find? fun p => eaName mem p == pName

section List

variable {mem : Nat → UInt8} {limit p : Nat} {entries : List Nat} (h : EaList mem limit p entries)
include h

theorem EaList.head : ∃ rest, entries = p :: rest := by
  cases h with
  | last => exact ⟨[], rfl⟩
  | cons => exact ⟨_, rfl⟩

theorem EaList.room_le : eaValueAddress mem p + eaValueLength mem p ≤ limit := by
  induction h with
  | last _ hroom => exact hroom
  | cons _ hroom _ ih =>
    unfold eaValueAddress at ih ⊢
    unfold eaValueAddress at hroom
    omega

end List

/-! ### One position -/

section Position

variable (mem : Nat → UInt8) (pName : List UInt8)

def readsAt (p : Nat) : List Nat :=
  [p, p + 1, p + 2, p + 3, p + 5] ++
    if eaNameLength mem p = pName.length then (List.range pName.length).map (p + 8 + ·) else []

theorem rtlCompareMemory_eq_iff {l l' : List UInt8} (hlen : l.length = l'.length)
    : rtlCompareMemory l l' = l'.length ↔ l = l' := by
  induction l generalizing l' with
  | nil =>
    have hnil : l' = [] := List.length_eq_zero_iff.mp hlen.symm
    simp [hnil, rtlCompareMemory]
  | cons a l ih =>
    cases l' with
    | nil => cases hlen
    | cons b l' =>
      rw [rtlCompareMemory, List.length_cons, List.cons.injEq]
      split
      . next heq => simp [heq, ih (Nat.succ.inj hlen)]
      . next hne => simp [hne]

variable {mem pName}

theorem length_eaName (p : Nat) : (eaName mem p).length = eaNameLength mem p := Memory.length_load _ _ _

/--
A turn: the entry with the name, else the end of the walk or its next position.
-/
theorem findEaTurn_eq (addressSpace sizeofEa : Nat) (s : FindState)
    : findEaTurn addressSpace sizeofEa mem pName s =
        if eaName mem s.pFirstEA = pName then
          .done (some s.pFirstEA, s.reads ++ readsAt mem pName s.pFirstEA)
        else if nextEntryOffset mem s.pFirstEA = 0 then
          .done (none, s.reads ++ readsAt mem pName s.pFirstEA)
        else
          .goOn ⟨(s.pFirstEA + sizeofEa * nextEntryOffset mem s.pFirstEA) % addressSpace,
            s.reads ++ readsAt mem pName s.pFirstEA⟩ := by
  unfold findEaTurn readsAt
  simp only
  by_cases hlen : eaNameLength mem s.pFirstEA = pName.length
  . have hname : Memory.load mem (s.pFirstEA + 8) pName.length = eaName mem s.pFirstEA := by
      rw [eaName, hlen]
    have hcompare : rtlCompareMemory (eaName mem s.pFirstEA) pName = pName.length ↔
        eaName mem s.pFirstEA = pName := rtlCompareMemory_eq_iff (by rw [length_eaName, hlen])
    simp only [hname, hcompare, hlen, ne_eq, not_true_eq_false, if_false, if_true, ite_not,
      List.append_assoc]
  . have hne : eaName mem s.pFirstEA ≠ pName := by
      intro heq
      rw [← heq, length_eaName] at hlen
      exact hlen rfl
    simp only [hlen, hne, ne_eq, not_false_eq_true, if_false, if_true, ite_not, List.append_nil]

theorem EaList.readsAt_inside {limit base p : Nat} {entries : List Nat} (h : EaList mem limit p entries)
    (hbase : base ≤ p)
    : ∀ i ∈ readsAt mem pName p, base ≤ i ∧ i < limit := by
  have hroom := h.room_le
  unfold eaValueAddress at hroom
  intro i hi
  rw [readsAt, List.mem_append] at hi
  rcases hi with hi | hi
  . simp only [List.mem_cons, List.not_mem_nil, or_false] at hi
    omega
  . split at hi
    . next hlen =>
      obtain ⟨j, hj, rfl⟩ := List.mem_map.mp hi
      have := List.mem_range.mp hj
      omega
    . cases hi

end Position

/-! ### The walk -/

section Walk

variable (addressSpace sizeofEa : Nat) (mem : Nat → UInt8) (pName : List UInt8)
variable (base limit : Nat) (goal : Option Nat)

/--
The bytes at `p`, and at the positions that steps of `sizeofEa` times `NextEntryOffset` lead to from
there, are all in the list, and the first of them with the name or without an offset is the `goal`.
-/
inductive LeadsTo : Nat → Prop where
  | named {p : Nat} (hinside : ∀ i ∈ readsAt mem pName p, base ≤ i ∧ i < limit)
    (hname : eaName mem p = pName) (hgoal : goal = some p) : LeadsTo p
  | last {p : Nat} (hinside : ∀ i ∈ readsAt mem pName p, base ≤ i ∧ i < limit)
    (hname : eaName mem p ≠ pName) (hnext : nextEntryOffset mem p = 0) (hgoal : goal = none) : LeadsTo p
  | further {p : Nat} (hinside : ∀ i ∈ readsAt mem pName p, base ≤ i ∧ i < limit)
    (hname : eaName mem p ≠ pName) (hnext : nextEntryOffset mem p ≠ 0)
    (hrest : LeadsTo ((p + sizeofEa * nextEntryOffset mem p) % addressSpace)) : LeadsTo p

variable {addressSpace sizeofEa mem pName base limit goal}

theorem reads_of_ends {s : FindState} {r : Option Nat × List Nat}
    (h : Ends (findEaTurn addressSpace sizeofEa mem pName) s r)
    : ∃ more, r.2 = s.reads ++ readsAt mem pName s.pFirstEA ++ more := by
  induction h with
  | done hturn =>
    rw [findEaTurn_eq] at hturn
    refine ⟨[], ?_⟩
    split at hturn
    . cases hturn
      rw [List.append_nil]
    . split at hturn
      . cases hturn
        rw [List.append_nil]
      . cases hturn
  | goOn hturn _ ih =>
    rw [findEaTurn_eq] at hturn
    obtain ⟨more, hmore⟩ := ih
    split at hturn
    . cases hturn
    . split at hturn
      . cases hturn
      . cases hturn
        exact ⟨_, hmore.trans (List.append_assoc _ _ _)⟩

theorem leadsTo_of_ends {s : FindState} {r : Option Nat × List Nat}
    (h : Ends (findEaTurn addressSpace sizeofEa mem pName) s r)
    (hinside : ∀ i ∈ r.2, base ≤ i ∧ i < limit) (hgoal : goal = r.1)
    : LeadsTo addressSpace sizeofEa mem pName base limit goal s.pFirstEA := by
  obtain ⟨more, hmore⟩ := reads_of_ends h
  have hhere : ∀ i ∈ readsAt mem pName s.pFirstEA, base ≤ i ∧ i < limit := by
    intro i hi
    apply hinside
    rw [hmore]
    simp [hi]
  clear hmore
  induction h with
  | done hturn =>
    rw [findEaTurn_eq] at hturn
    split at hturn
    . next hname =>
      cases hturn
      exact .named hhere hname hgoal
    . next hname =>
      split at hturn
      . next hnext =>
        cases hturn
        exact .last hhere hname hnext hgoal
      . cases hturn
  | goOn hturn hrest ih =>
    rw [findEaTurn_eq] at hturn
    split at hturn
    . cases hturn
    . next hname =>
      split at hturn
      . cases hturn
      . next hnext =>
        cases hturn
        refine .further hhere hname hnext (ih hinside hgoal ?_)
        obtain ⟨more', hmore'⟩ := reads_of_ends hrest
        intro i hi
        apply hinside
        rw [hmore']
        simp [hi]

theorem LeadsTo.ends {p : Nat} (h : LeadsTo addressSpace sizeofEa mem pName base limit goal p)
    {reads : List Nat} (hreads : ∀ i ∈ reads, base ≤ i ∧ i < limit)
    : ∃ r, Ends (findEaTurn addressSpace sizeofEa mem pName) ⟨p, reads⟩ r ∧
        (∀ i ∈ r.2, base ≤ i ∧ i < limit) ∧ r.1 = goal := by
  induction h generalizing reads with
  | named hinside hname hgoal =>
    refine ⟨_, .done ((findEaTurn_eq _ _ _).trans (if_pos hname)), ?_, hgoal.symm⟩
    exact List.forall_mem_append.mpr ⟨hreads, hinside⟩
  | last hinside hname hnext hgoal =>
    refine ⟨_, .done ((findEaTurn_eq _ _ _).trans ((if_neg hname).trans (if_pos hnext))), ?_, hgoal.symm⟩
    exact List.forall_mem_append.mpr ⟨hreads, hinside⟩
  | further hinside hname hnext _ ih =>
    obtain ⟨r, hends, hr⟩ := ih (List.forall_mem_append.mpr ⟨hreads, hinside⟩)
    exact ⟨r, .goOn ((findEaTurn_eq _ _ _).trans ((if_neg hname).trans (if_neg hnext))) hends, hr⟩

theorem LeadsTo.inside {p : Nat} (h : LeadsTo addressSpace sizeofEa mem pName base limit goal p)
    : base ≤ p ∧ p + 5 < limit := by
  have hreads : ∀ i ∈ readsAt mem pName p, base ≤ i ∧ i < limit := by
    cases h with
    | named hinside => exact hinside
    | last hinside => exact hinside
    | further hinside => exact hinside
  exact ⟨(hreads p (by simp [readsAt])).1, (hreads (p + 5) (by simp [readsAt])).2⟩

end Walk

/-! ### What is found -/

section Find

variable (addressSpace sizeofEa : Nat) (mem : Nat → UInt8) (base limit : Nat) (entries : List Nat)

/--
`FindEA` ends, reads the list only, and returns the first entry with the name.
-/
def FindsFirst (pName : List UInt8) : Prop :=
  ∃ r, findEaEnds addressSpace sizeofEa mem pName (some base) r ∧
    (∀ i ∈ r.2, base ≤ i ∧ i < limit) ∧ r.1 = firstNamed mem pName entries

-- The walk takes no step: the first entry has the name, or there is no other one.
def StopsAtFirst (pName : List UInt8) : Prop :=
  eaName mem base = pName ∨ nextEntryOffset mem base = 0

-- A step from the first entry leads to a position that has no room for an entry before `limit`.
def StepLeaves : Prop :=
  ¬(base ≤ (base + sizeofEa * nextEntryOffset mem base) % addressSpace ∧
    (base + sizeofEa * nextEntryOffset mem base) % addressSpace + 5 < limit)

-- The open that a list with these entries asks for.
def createOutcome : CreateOutcome :=
  match firstNamed mem tdiTransportAddress entries with
  | some _ => .tdiOpenAddress
  | none =>
    match firstNamed mem tdiConnectionContext entries with
    | some p => .tdiOpenConnection (eaValueAddress mem p)
    | none => .chainRequest

variable {addressSpace sizeofEa mem base limit entries} {pName : List UInt8}

theorem firstNamed_cons_of_eq {p : Nat} (hname : eaName mem p = pName) (entries : List Nat)
    : firstNamed mem pName (p :: entries) = some p :=
  List.find?_cons_of_pos (beq_iff_eq.mpr hname)

theorem firstNamed_cons_of_ne {p : Nat} (hname : eaName mem p ≠ pName) (entries : List Nat)
    : firstNamed mem pName (p :: entries) = firstNamed mem pName entries :=
  List.find?_cons_of_neg (by simpa using hname)

theorem findsFirst_iff_leadsTo
    : FindsFirst addressSpace sizeofEa mem base limit entries pName ↔
        LeadsTo addressSpace sizeofEa mem pName base limit (firstNamed mem pName entries) base := by
  constructor
  . rintro ⟨r, hends, hinside, hresult⟩
    exact leadsTo_of_ends hends hinside hresult.symm
  . intro h
    exact h.ends (fun i hi => by cases hi)

theorem EaList.leadsTo_of_stopsAtFirst (h : EaList mem limit base entries)
    (hstops : StopsAtFirst mem base pName)
    : LeadsTo addressSpace sizeofEa mem pName base limit (firstNamed mem pName entries) base := by
  have hinside : ∀ i ∈ readsAt mem pName base, base ≤ i ∧ i < limit := h.readsAt_inside (Nat.le_refl _)
  by_cases hname : eaName mem base = pName
  . obtain ⟨rest, hrest⟩ := h.head
    exact .named hinside hname (by rw [hrest, firstNamed_cons_of_eq hname])
  . have hnext : nextEntryOffset mem base = 0 := hstops.resolve_left hname
    have hgoal : firstNamed mem pName entries = none := by
      cases h with
      | last => exact firstNamed_cons_of_ne hname []
      | cons hne => exact absurd hnext hne
    exact .last hinside hname hnext hgoal

-- Where the step from the first entry leaves the list, the other entries are never looked at.
theorem LeadsTo.stopsAtFirst {goal : Option Nat} (hleaves : StepLeaves addressSpace sizeofEa mem base limit)
    (h : LeadsTo addressSpace sizeofEa mem pName base limit goal base)
    : StopsAtFirst mem base pName := by
  cases h with
  | named _ hname => exact Or.inl hname
  | last _ _ hnext => exact Or.inr hnext
  | further _ _ _ hrest => exact absurd hrest.inside hleaves

theorem EaList.leadsTo_byteSteps {p : Nat} (h : EaList mem limit p entries)
    (hspace : limit ≤ addressSpace) (hbase : base ≤ p)
    : LeadsTo addressSpace 1 mem pName base limit (firstNamed mem pName entries) p := by
  induction h with
  | @last p hnext hroom =>
    have hinside : ∀ i ∈ readsAt mem pName p, base ≤ i ∧ i < limit :=
      (EaList.last hnext hroom).readsAt_inside hbase
    by_cases hname : eaName mem p = pName
    . exact .named hinside hname (firstNamed_cons_of_eq hname [])
    . exact .last hinside hname hnext (firstNamed_cons_of_ne hname [])
  | @cons p entries hnext hroom hrest ih =>
    have hinside : ∀ i ∈ readsAt mem pName p, base ≤ i ∧ i < limit :=
      (EaList.cons hnext hroom hrest).readsAt_inside hbase
    by_cases hname : eaName mem p = pName
    . exact .named hinside hname (firstNamed_cons_of_eq hname entries)
    . have hlimit := hrest.room_le
      unfold eaValueAddress at hlimit
      rw [firstNamed_cons_of_ne hname]
      refine .further hinside hname hnext ?_
      rw [Nat.one_mul, Nat.mod_eq_of_lt (by omega)]
      exact ih (by omega)

/--
Steps of one byte would find the first entry in every list.
-/
theorem EaList.findsFirst_byteSteps (h : EaList mem limit base entries) (hspace : limit ≤ addressSpace)
    (pName : List UInt8)
    : FindsFirst addressSpace 1 mem base limit entries pName :=
  findsFirst_iff_leadsTo.mpr (h.leadsTo_byteSteps hspace (Nat.le_refl base))

theorem tdihCreateEnds_iff
    (haddress : FindsFirst addressSpace sizeofEaInformation mem base limit entries tdiTransportAddress)
    (hcontext : firstNamed mem tdiTransportAddress entries = none →
      FindsFirst addressSpace sizeofEaInformation mem base limit entries tdiConnectionContext)
    (outcome : CreateOutcome)
    : tdihCreateEnds addressSpace mem (some base) outcome ↔ outcome = createOutcome mem entries := by
  obtain ⟨address, haddressEnds, _, haddressFirst⟩ := haddress
  unfold createOutcome
  cases haddressOf : address.1 with
  | some p =>
    -- the context is not searched for
    rw [← haddressFirst, haddressOf]
    constructor
    . rintro ⟨address', hends, houtcome⟩
      rw [Ends.unique hends haddressEnds, haddressOf] at houtcome
      exact houtcome
    . rintro rfl
      exact ⟨address, haddressEnds, by rw [haddressOf]⟩
  | none =>
    obtain ⟨context, hcontextEnds, _, hcontextFirst⟩ := hcontext (haddressFirst.symm.trans haddressOf)
    rw [← haddressFirst, ← hcontextFirst, haddressOf]
    constructor
    . rintro ⟨address', hends, houtcome⟩
      rw [Ends.unique hends haddressEnds, haddressOf] at houtcome
      obtain ⟨context', hends', houtcome⟩ := houtcome
      rw [Ends.unique hends' hcontextEnds] at houtcome
      cases hcontextOf : context.1 with
      | some p =>
        rw [hcontextOf] at houtcome
        exact houtcome
      | none =>
        rw [hcontextOf] at houtcome
        exact houtcome
    . rintro rfl
      refine ⟨address, haddressEnds, ?_⟩
      rw [haddressOf]
      refine ⟨context, hcontextEnds, ?_⟩
      cases context.1 with
      | some p => rfl
      | none => rfl

theorem EaList.findsFirst_of_stopsAtFirst (h : EaList mem limit base entries)
    (hstops : StopsAtFirst mem base pName)
    : FindsFirst addressSpace sizeofEa mem base limit entries pName :=
  findsFirst_iff_leadsTo.mpr (h.leadsTo_of_stopsAtFirst hstops)

/--
For every list, `FindEA` does what it is for where the first entry has the name or there is no other one,
and where a step of whole structures leads out of the list, for no other name; and `TDIH_Create`
recognises what is opened where `FindEA` stops at the first entry in its search for the address.
-/
theorem findsFirst_iff (h : EaList mem limit base entries)
    : (∀ pName, StopsAtFirst mem base pName →
          FindsFirst addressSpace sizeofEaInformation mem base limit entries pName) ∧
        (StepLeaves addressSpace sizeofEaInformation mem base limit → ∀ pName,
          FindsFirst addressSpace sizeofEaInformation mem base limit entries pName ↔
            StopsAtFirst mem base pName) ∧
        (StopsAtFirst mem base tdiTransportAddress → ∀ outcome,
          tdihCreateEnds addressSpace mem (some base) outcome ↔ outcome = createOutcome mem entries) := by
  refine ⟨fun pName => h.findsFirst_of_stopsAtFirst, ?_, ?_⟩
  . intro hleaves pName
    exact ⟨fun hfinds => (findsFirst_iff_leadsTo.mp hfinds).stopsAtFirst hleaves,
      h.findsFirst_of_stopsAtFirst⟩
  . intro hstops
    apply tdihCreateEnds_iff (h.findsFirst_of_stopsAtFirst hstops)
    intro hnone
    rcases hstops with hname | hnext
    . obtain ⟨rest, hrest⟩ := h.head
      rw [hrest, firstNamed_cons_of_eq hname] at hnone
      cases hnone
    . exact h.findsFirst_of_stopsAtFirst (Or.inr hnext)

end Find

-- The attribute of a transport address, and behind it one with the name `A`.
def firstAttribute (i : Nat) : UInt8 :=
  ([28, 0, 0, 0, 0, 16, 0, 0] ++ tdiTransportAddress ++ [0, 0, 0, 0, 0, 0, 0, 0, 0, 1, 0, 0, 65]).getD
    (i - 4096) 0

theorem findsFirst_firstAttribute
    : FindsFirst 0x100000000 sizeofEaInformation firstAttribute 4096 4134 [4096, 4124] tdiTransportAddress ∧
        ¬FindsFirst 0x100000000 sizeofEaInformation firstAttribute 4096 4134 [4096, 4124] [65] ∧
        tdihCreateEnds 0x100000000 firstAttribute (some 4096) .tdiOpenAddress := by
  have hlist : EaList firstAttribute 4134 4096 [4096, 4124] :=
    .cons (by decide) (by decide) (.last (by decide) (by decide))
  have hall := @findsFirst_iff 0x100000000 _ _ _ _ hlist
  have hstops : StopsAtFirst firstAttribute 4096 tdiTransportAddress := Or.inl (by decide)
  have hnot : ¬StopsAtFirst firstAttribute 4096 [65] := by
    unfold StopsAtFirst
    decide
  have hleaves : StepLeaves 0x100000000 sizeofEaInformation firstAttribute 4096 4134 := by
    unfold StepLeaves
    decide
  obtain ⟨hfinds, hiff, hcreate⟩ := hall
  exact ⟨hfinds _ hstops, fun h => hnot ((hiff hleaves _).mp h), (hcreate hstops _).mpr (by decide)⟩

-- The other way round: the attribute `A` has twelve bytes, and the transport address comes behind it.
def secondAttribute (i : Nat) : UInt8 :=
  ([12, 0, 0, 0, 0, 1, 0, 0, 65, 0, 0, 0, 0, 0, 0, 0, 0, 16, 0, 0] ++ tdiTransportAddress).getD
    (i - 4096) 0

theorem not_findsFirst_secondAttribute
    : EaList secondAttribute 4133 4096 [4096, 4108] ∧
        ¬FindsFirst 0x100000000 sizeofEaInformation secondAttribute 4096 4133 [4096, 4108]
          tdiTransportAddress ∧
        createOutcome secondAttribute [4096, 4108] = .tdiOpenAddress ∧
        tdihCreateEnds 0x100000000 secondAttribute (some 4096) .chainRequest := by
  have hlist : EaList secondAttribute 4133 4096 [4096, 4108] :=
    .cons (by decide) (by decide) (.last (by decide) (by decide))
  refine ⟨hlist, ?_, by decide, ?_⟩
  . intro hfinds
    have hleaves : StepLeaves 0x100000000 sizeofEaInformation secondAttribute 4096 4133 := by
      unfold StepLeaves
      decide
    have hstops := (findsFirst_iff_leadsTo.mp hfinds).stopsAtFirst hleaves
    revert hstops
    unfold StopsAtFirst
    decide
  . -- the step from the first entry leads to the zeros behind the list
    have hends : ∀ pName : List UInt8, pName.length = 16 ∨ pName.length = 17 → ∃ reads,
        findEaEnds 0x100000000 sizeofEaInformation secondAttribute pName (some 4096) (none, reads) := by
      intro pName hlen
      have hname : ∀ p, eaNameLength secondAttribute p < 16 → eaName secondAttribute p ≠ pName := by
        rintro p hshort rfl
        rw [length_eaName] at hlen
        omega
      have hfirst : findEaTurn 0x100000000 sizeofEaInformation secondAttribute pName ⟨4096, []⟩ =
          .goOn ⟨4240, readsAt secondAttribute pName 4096⟩ := by
        rw [findEaTurn_eq, if_neg (hname 4096 (by decide)), if_neg (by decide)]
        rfl
      have hnext : nextEntryOffset secondAttribute 4240 = 0 := by decide
      have hsecond : findEaTurn 0x100000000 sizeofEaInformation secondAttribute pName
          ⟨4240, readsAt secondAttribute pName 4096⟩ =
          .done (none, readsAt secondAttribute pName 4096 ++ readsAt secondAttribute pName 4240) := by
        rw [findEaTurn_eq, if_neg (hname 4240 (by decide)), if_pos hnext]
      exact ⟨_, .goOn hfirst (.done hsecond)⟩
    obtain ⟨reads, haddress⟩ := hends tdiTransportAddress (by decide)
    obtain ⟨reads', hcontext⟩ := hends tdiConnectionContext (by decide)
    exact ⟨_, haddress, _, hcontext, rfl⟩

end Ansfw.FindEa
