import Mathlib.Logic.Function.Basic
import Ndisrd.Lib.Onward

/-!
This module contains a start-up that establishes facts one after another while the handlers it has opened
already run, and what the script or a handler may count on when it comes to a step.
-/

namespace Startup

inductive Act (ρ : Type) where
| establish (fact : ρ)
| use (fact : ρ)
deriving DecidableEq

structure CurrState (ρ : Type) where
  established : List ρ
  script : List (Act ρ)
  calls : ℕ → List (Act ρ)

inductive Event (κ : Type) where
| start
| call (thread : ℕ) (handler : κ)
| goOn (thread : ℕ)

variable {ρ κ : Type}

def Act.after (known : List ρ) : Act ρ → List ρ
  | .establish fact => fact :: known
  | .use _ => known

def initState (script : List (Act ρ)) : CurrState ρ := ⟨[], script, fun _ => []⟩

section Runs

variable (path : κ → List (Act ρ)) (Opens : List ρ → κ → Prop) (Timely : List ρ → κ → Prop)

def step (s : CurrState ρ) : Event κ → CurrState ρ
  | .start =>
    match s.script with
    | [] => s
    | act :: acts => { s with established := act.after s.established, script := acts }
  | .call t c => { s with calls := Function.update s.calls t (path c) }
  | .goOn t =>
    match s.calls t with
    | [] => s
    | act :: acts =>
      { s with established := act.after s.established, calls := Function.update s.calls t acts }

def Allowed (s : CurrState ρ) : Event κ → Prop
  | .start => s.script ≠ []
  | .call t c => s.calls t = [] ∧ Opens s.established c
  | .goOn t => s.calls t ≠ []

def Met (s : CurrState ρ) : Event κ → Prop
  | .start => True
  | .call _ c => Timely s.established c
  | .goOn _ => True

end Runs

/--
The next of the steps uses only what is established.
-/
def Ready (known : List ρ) : List (Act ρ) → Prop
  | .use fact :: _ => fact ∈ known
  | _ => True

def Sound (s : CurrState ρ) : Event κ → Prop
  | .start => Ready s.established s.script
  | .call _ _ => True
  | .goOn t => Ready s.established (s.calls t)

def GoesOn : Event κ → Prop
  | .goOn _ => True
  | _ => False

/--
Each of the steps uses only what is established, or what those before it establish.
-/
def Covered (known : List ρ) : List (Act ρ) → Prop
  | [] => True
  | .establish fact :: acts => Covered (fact :: known) acts
  | .use fact :: acts => fact ∈ known ∧ Covered known acts

section Needs

variable (needs : ρ → List ρ)

/--
Each of the steps establishes a fact only behind those that it needs.
-/
def Ordered (known : List ρ) : List (Act ρ) → Prop
  | [] => True
  | .establish fact :: acts => needs fact ⊆ known ∧ Ordered (fact :: known) acts
  | .use _ :: acts => Ordered known acts

def Closed (known : List ρ) : Prop := ∀ fact ∈ known, needs fact ⊆ known

structure Inv (s : CurrState ρ) : Prop where
  closed : Closed needs s.established
  scriptCovered : Covered s.established s.script
  scriptOrdered : Ordered needs s.established s.script
  callCovered : ∀ t, Covered s.established (s.calls t)
  callOrdered : ∀ t, Ordered needs s.established (s.calls t)

end Needs

section Decidable

variable [DecidableEq ρ]

instance decidableReady (known : List ρ) : ∀ acts, Decidable (Ready known acts)
  | [] => .isTrue trivial
  | .establish _ :: _ => .isTrue trivial
  | .use fact :: _ => inferInstanceAs (Decidable (fact ∈ known))

instance (s : CurrState ρ) (e : Event κ) : Decidable (Sound s e) := by
  cases e with
  | start => exact inferInstanceAs (Decidable (Ready s.established s.script))
  | call => exact .isTrue trivial
  | goOn t => exact inferInstanceAs (Decidable (Ready s.established (s.calls t)))

instance (s : CurrState ρ) (e : Event κ) (Opens : List ρ → κ → Prop)
    [∀ known c, Decidable (Opens known c)]
    : Decidable (Allowed Opens s e) := by
  cases e with
  | start => exact inferInstanceAs (Decidable (s.script ≠ []))
  | call t c => exact inferInstanceAs (Decidable (s.calls t = [] ∧ Opens s.established c))
  | goOn t => exact inferInstanceAs (Decidable (s.calls t ≠ []))

instance (s : CurrState ρ) (e : Event κ) (Timely : List ρ → κ → Prop)
    [∀ known c, Decidable (Timely known c)]
    : Decidable (Met Timely s e) := by
  cases e with
  | start => exact .isTrue trivial
  | call t c => exact inferInstanceAs (Decidable (Timely s.established c))
  | goOn => exact .isTrue trivial

instance decidableCovered (known : List ρ) : ∀ acts, Decidable (Covered known acts)
  | [] => .isTrue trivial
  | .establish fact :: acts => decidableCovered (fact :: known) acts
  | .use fact :: acts =>
    have := decidableCovered known acts
    inferInstanceAs (Decidable (fact ∈ known ∧ Covered known acts))

instance decidableOrdered (needs : ρ → List ρ) (known : List ρ)
    : ∀ acts, Decidable (Ordered needs known acts)
  | [] => .isTrue trivial
  | .establish fact :: acts =>
    have := decidableOrdered needs (fact :: known) acts
    inferInstanceAs (Decidable ((∀ f ∈ needs fact, f ∈ known) ∧ Ordered needs (fact :: known) acts))
  | .use _ :: acts => decidableOrdered needs known acts

end Decidable

section Acts

variable {needs : ρ → List ρ} {known known' : List ρ} {act : Act ρ} {acts : List (Act ρ)}

theorem Act.subset_after : known ⊆ act.after known := by
  cases act with
  | establish fact => exact List.subset_cons_self fact known
  | use => exact List.Subset.refl known

theorem Covered.mono (h : Covered known acts) (hknown : known ⊆ known')
    : Covered known' acts := by
  induction acts generalizing known known' with
  | nil => trivial
  | cons act acts ih =>
    cases act with
    | establish fact => exact ih h (List.cons_subset_cons fact hknown)
    | use fact => exact ⟨hknown h.1, ih h.2 hknown⟩

theorem Ordered.mono (h : Ordered needs known acts) (hknown : known ⊆ known')
    : Ordered needs known' acts := by
  induction acts generalizing known known' with
  | nil => trivial
  | cons act acts ih =>
    cases act with
    | establish fact => exact ⟨List.Subset.trans h.1 hknown, ih h.2 (List.cons_subset_cons fact hknown)⟩
    | use fact => exact ih h hknown

theorem covered_cons : Covered known (act :: acts) ↔ Ready known [act] ∧ Covered (act.after known) acts := by
  cases act with
  | establish fact => simp [Covered, Ready, Act.after]
  | use fact => simp [Covered, Ready, Act.after]

theorem Covered.ready (h : Covered known acts)
    : Ready known acts := by
  cases acts with
  | nil => trivial
  | cons act acts =>
    cases act with
    | establish fact => trivial
    | use fact => exact h.1

theorem Ordered.tail (h : Ordered needs known (act :: acts))
    : Ordered needs (act.after known) acts := by
  cases act with
  | establish fact => exact h.2
  | use fact => exact h

theorem Closed.after (hclosed : Closed needs known) (h : Ordered needs known (act :: acts))
    : Closed needs (act.after known) := by
  cases act with
  | use fact => exact hclosed
  | establish fact =>
    intro f hf
    rcases List.mem_cons.mp hf with rfl | hf
    . exact List.Subset.trans h.1 (List.subset_cons_self ..)
    . exact List.Subset.trans (hclosed f hf) (List.subset_cons_self ..)

theorem covered_uses_append (facts : List ρ)
    : Covered known (facts.map Act.use ++ acts) ↔ facts ⊆ known ∧ Covered known acts := by
  induction facts with
  | nil => simp
  | cons fact facts ih => simp [Covered, ih, and_assoc]

theorem covered_uses (facts : List ρ)
    : Covered known (facts.map Act.use) ↔ facts ⊆ known := by
  rw [← List.append_nil (facts.map Act.use), covered_uses_append]
  exact and_iff_left trivial

theorem ordered_uses_append (facts : List ρ)
    : Ordered needs known (facts.map Act.use ++ acts) ↔ Ordered needs known acts := by
  induction facts with
  | nil => simp
  | cons fact facts ih => exact ih

theorem ordered_uses (facts : List ρ)
    : Ordered needs known (facts.map Act.use) := by
  rw [← List.append_nil (facts.map Act.use), ordered_uses_append]
  trivial

end Acts

section Steps

variable {needs : ρ → List ρ} {path : κ → List (Act ρ)} {Opens Timely : List ρ → κ → Prop}

theorem inv_initState {script : List (Act ρ)} (hcovered : Covered [] script)
    (hordered : Ordered needs [] script)
    : Inv needs (initState script) where
  closed := fun _ hf => by cases hf
  scriptCovered := hcovered
  scriptOrdered := hordered
  callCovered := fun _ => trivial
  callOrdered := fun _ => trivial

theorem Inv.start {s : CurrState ρ} (h : Inv needs s)
    : Inv needs (step path s .start) := by
  cases hscript : s.script with
  | nil =>
    simp only [step, hscript]
    exact h
  | cons act acts =>
    have hcovered := h.scriptCovered
    have hordered := h.scriptOrdered
    rw [hscript] at hcovered hordered
    simp only [step, hscript]
    exact {
      closed := h.closed.after hordered
      scriptCovered := (covered_cons.mp hcovered).2
      scriptOrdered := hordered.tail
      callCovered := fun t => (h.callCovered t).mono Act.subset_after
      callOrdered := fun t => (h.callOrdered t).mono Act.subset_after }

theorem Inv.goOn {s : CurrState ρ} (h : Inv needs s) (t : ℕ)
    : Inv needs (step path s (.goOn t)) := by
  cases hcall : s.calls t with
  | nil =>
    simp only [step, hcall]
    exact h
  | cons act acts =>
    have hcovered := h.callCovered t
    have hordered := h.callOrdered t
    rw [hcall] at hcovered hordered
    simp only [step, hcall]
    refine ⟨h.closed.after hordered, h.scriptCovered.mono Act.subset_after,
      h.scriptOrdered.mono Act.subset_after, ?_, ?_⟩
    . intro t'
      by_cases ht : t' = t
      . subst ht
        simpa using (covered_cons.mp hcovered).2
      . simpa [ht] using (h.callCovered t').mono Act.subset_after
    . intro t'
      by_cases ht : t' = t
      . subst ht
        simpa using hordered.tail
      . simpa [ht] using (h.callOrdered t').mono Act.subset_after

theorem Inv.call {s : CurrState ρ} (h : Inv needs s) (t : ℕ) {c : κ}
    (hcovered : Covered s.established (path c)) (hordered : Ordered needs s.established (path c))
    : Inv needs (step path s (.call t c)) := by
  refine ⟨h.closed, h.scriptCovered, h.scriptOrdered, ?_, ?_⟩
  . intro t'
    by_cases ht : t' = t
    . subst ht
      simpa [step] using hcovered
    . simpa [step, ht] using h.callCovered t'
  . intro t'
    by_cases ht : t' = t
    . subst ht
      simpa [step] using hordered
    . simpa [step, ht] using h.callOrdered t'

theorem Inv.sound {s : CurrState ρ} (h : Inv needs s) (e : Event κ)
    : Sound s e := by
  cases e with
  | start => exact h.scriptCovered.ready
  | call => trivial
  | goOn t => exact (h.callCovered t).ready

/--
A call whose steps stay sound while its thread goes on is covered by what was established when it came.
-/
theorem covered_of_soundFrom {s : CurrState ρ} {t : ℕ}
    (h : Onward.SoundFrom (step path) (Allowed Opens) Sound GoesOn s)
    : Covered s.established (s.calls t) := by
  -- the thread takes the steps of its call one by one, those of no other and none of the script
  generalize hacts : s.calls t = acts
  induction acts generalizing s with
  | nil => trivial
  | cons act acts ih =>
    have hallowed : Allowed Opens s (.goOn t) := by simp [Allowed, hacts]
    have hgoesOn : GoesOn (.goOn t : Event κ) := trivial
    have hready := h.sound hgoesOn hallowed
    have hrest := ih (h.cons hgoesOn hallowed) (by simp [step, hacts])
    rw [covered_cons]
    constructor
    . simp only [Sound, hacts] at hready
      cases act with
      | establish fact => trivial
      | use fact => exact hready
    . simpa [step, hacts] using hrest

/--
Where the script covers itself, and a handler's call is timely just if what it uses is established, a run
is sound throughout just if all its calls are timely.
-/
theorem soundThroughout_iff {script : List (Act ρ)} (hcovered : Covered [] script)
    (hordered : Ordered needs [] script)
    (htimely : ∀ known c, Closed needs known → Opens known c →
      (Timely known c ↔ Covered known (path c)))
    (hcall : ∀ known c, Closed needs known → Opens known c → Covered known (path c) →
      Ordered needs known (path c))
    {es : List (Event κ)} (hes : Run.Along (step path) (Allowed Opens) (initState script) es)
    : Onward.SoundThroughout (step path) (Allowed Opens) Sound GoesOn (initState script) es ↔
      Run.Along (step path) (Met Timely) (initState script) es := by
  have hinit : Inv needs (initState script) := inv_initState hcovered hordered
  refine Onward.soundThroughout_iff ?_ ?_ ?_ ?_ hinit hes
  . intro s e h hallowed hmet
    cases e with
    | start => exact h.start
    | goOn t => exact h.goOn t
    | call t c =>
      have hpath := (htimely _ c h.closed hallowed.2).mp hmet
      exact h.call t hpath (hcall _ c h.closed hallowed.2 hpath)
  . intro s e h _ _
    exact h.sound e
  . intro s e h hallowed _ hfrom
    cases e with
    | start => trivial
    | goOn t => trivial
    | call t c =>
      have hpath := covered_of_soundFrom (t := t) hfrom
      rw [show (step path s (.call t c)).calls t = path c by simp [step]] at hpath
      exact (htimely _ c h.closed hallowed.2).mpr hpath
  . intro s e he
    cases e with
    | start => trivial
    | call => cases he
    | goOn => trivial

end Steps

end Startup
