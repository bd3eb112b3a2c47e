import Ndisrd.Lib.Run

/-!
This module contains runs some of whose events only go on with what was begun: a property of the steps
that does not depend on when those come is one of the other events alone.
-/

namespace Onward

variable {σ ε : Type} (step : σ → ε → σ) (Allowed Sound : σ → ε → Prop) (GoesOn : ε → Prop)

/--
The steps stay sound, whenever what was begun goes on.
-/
def SoundFrom (s : σ) : Prop :=
  ∀ onward, (∀ e ∈ onward, GoesOn e) → Run.Along step Allowed s onward →
    Run.Along step Sound s onward

/--
The run, and each of its beginnings with events that go on from there, has sound steps only.
-/
def SoundThroughout (s : σ) (es : List ε) : Prop :=
  ∀ pre onward, pre <+: es → (∀ e ∈ onward, GoesOn e) → Run.Along step Allowed s (pre ++ onward) →
    Run.Along step Sound s (pre ++ onward)

variable {step Allowed Sound GoesOn}

theorem SoundFrom.cons {s : σ} {e : ε} (h : SoundFrom step Allowed Sound GoesOn s) (he : GoesOn e)
    (hallowed : Allowed s e)
    : SoundFrom step Allowed Sound GoesOn (step s e) := by
  intro onward honward hes
  refine (h (e :: onward) ?_ ⟨hallowed, hes⟩).2
  intro e' he'
  rcases List.mem_cons.mp he' with rfl | he'
  . exact he
  . exact honward e' he'

theorem SoundFrom.sound {s : σ} {e : ε} (h : SoundFrom step Allowed Sound GoesOn s) (he : GoesOn e)
    (hallowed : Allowed s e)
    : Sound s e := by
  refine (h [e] ?_ ⟨hallowed, trivial⟩).1
  intro e' he'
  rw [List.mem_singleton.mp he']
  exact he

section Throughout

variable {s : σ} {e : ε} {es : List ε}

theorem SoundThroughout.tail (h : SoundThroughout step Allowed Sound GoesOn s (e :: es))
    (he : Allowed s e)
    : SoundThroughout step Allowed Sound GoesOn (step s e) es := by
  intro pre onward hpre honward hallowed
  exact (h (e :: pre) onward (List.cons_prefix_cons.mpr ⟨rfl, hpre⟩) honward ⟨he, hallowed⟩).2

theorem SoundThroughout.head (h : SoundThroughout step Allowed Sound GoesOn s (e :: es))
    (he : Allowed s e)
    : Sound s e ∧ SoundFrom step Allowed Sound GoesOn (step s e) := by
  have hfirst : [e] <+: e :: es := List.cons_prefix_cons.mpr ⟨rfl, List.nil_prefix⟩
  constructor
  . exact (h [e] [] hfirst (fun e he => by cases he) ⟨he, trivial⟩).1
  . intro onward honward hallowed
    exact (h [e] onward hfirst honward ⟨he, hallowed⟩).2

end Throughout

section Quiet

variable {Inv : σ → Prop} {Quiet : σ → ε → Prop}
variable (hstep : ∀ s e, Inv s → Allowed s e → Quiet s e → Inv (step s e))

include hstep in
theorem along_sound (hsound : ∀ s e, Inv s → Allowed s e → Quiet s e → Sound s e) {s : σ} (hs : Inv s)
    {es : List ε} (hes : Run.Along step Allowed s es) (hquiet : Run.Along step Quiet s es)
    : Run.Along step Sound s es := by
  induction es generalizing s with
  | nil => trivial
  | cons e es ih =>
    exact ⟨hsound s e hs hes.1 hquiet.1, ih (hstep s e hs hes.1 hquiet.1) hes.2 hquiet.2⟩

include hstep in
theorem along_quiet
    (hquiet : ∀ s e, Inv s → Allowed s e → Sound s e →
      SoundFrom step Allowed Sound GoesOn (step s e) → Quiet s e) {s : σ} (hs : Inv s) {es : List ε}
    (hes : Run.Along step Allowed s es) (h : SoundThroughout step Allowed Sound GoesOn s es)
    : Run.Along step Quiet s es := by
  induction es generalizing s with
  | nil => trivial
  | cons e es ih =>
    obtain ⟨hsound, hfrom⟩ := h.head hes.1
    have hfirst := hquiet s e hs hes.1 hsound hfrom
    exact ⟨hfirst, ih (hstep s e hs hes.1 hfirst) hes.2 (h.tail hes.1)⟩

include hstep in
/--
Where quiet events keep an invariant and are sound, where those that go on are quiet, and where a sound
event is quiet behind which the steps stay sound, a run is sound throughout just if its events are quiet.
-/
theorem soundThroughout_iff (hsound : ∀ s e, Inv s → Allowed s e → Quiet s e → Sound s e)
    (hquiet : ∀ s e, Inv s → Allowed s e → Sound s e →
      SoundFrom step Allowed Sound GoesOn (step s e) → Quiet s e)
    (hgoesOn : ∀ s e, GoesOn e → Quiet s e) {s : σ} (hs : Inv s) {es : List ε}
    (hes : Run.Along step Allowed s es)
    : SoundThroughout step Allowed Sound GoesOn s es ↔ Run.Along step Quiet s es := by
  constructor
  . exact along_quiet hstep hquiet hs hes
  . intro hquietRun pre onward hpre honward hallowed
    apply along_sound hstep hsound hs hallowed
    rw [Run.along_append]
    constructor
    . obtain ⟨rest, rfl⟩ := hpre
      exact ((Run.along_append ..).mp hquietRun).1
    . exact Run.Along.mono (fun s e he => hgoesOn s e he) (Run.along_of_forall step honward)

end Quiet

end Onward
