import Mathlib.Tactic.Common

/-!
This module contains runs of a machine that takes events, properties of every step of a run, and the
rules that carry an invariant along one.
-/

namespace Run

variable {σ ε : Type} (step : σ → ε → σ)

def run (s : σ) (es : List ε) : σ := es.foldl step s

def Along (P : σ → ε → Prop) : σ → List ε → Prop
  | _, [] => True
  | s, e :: es => P s e ∧ Along P (step s e) es

instance decidableAlong (P : σ → ε → Prop) [∀ s e, Decidable (P s e)]
    : ∀ s es, Decidable (Along step P s es)
  | _, [] => .isTrue trivial
  | s, e :: es =>
    have := decidableAlong P (step s e) es
    inferInstanceAs (Decidable (P s e ∧ Along step P (step s e) es))

@[simp]
theorem run_nil (s : σ) : run step s [] = s := rfl

@[simp]
theorem run_cons (s : σ) (e : ε) (es : List ε) : run step s (e :: es) = run step (step s e) es := rfl

@[simp]
theorem along_nil (P : σ → ε → Prop) (s : σ) : Along step P s [] := trivial

@[simp]
theorem along_cons (P : σ → ε → Prop) (s : σ) (e : ε) (es : List ε)
    : Along step P s (e :: es) ↔ P s e ∧ Along step P (step s e) es := Iff.rfl

theorem along_append (P : σ → ε → Prop) (s : σ) (es es' : List ε)
    : Along step P s (es ++ es') ↔ Along step P s es ∧ Along step P (run step s es) es' := by
  induction es generalizing s with
  | nil => simp
  | cons e es ih => simp [ih, and_assoc]

theorem run_concat (s : σ) (es : List ε) (e : ε)
    : run step s (es ++ [e]) = step (run step s es) e := List.foldl_append

theorem Along.of_prefix {step : σ → ε → σ} {P : σ → ε → Prop} {s : σ} {es es' : List ε}
    (h : Along step P s es) (hstart : es' <+: es)
    : Along step P s es' := by
  obtain ⟨rest, rfl⟩ := hstart
  exact ((along_append step P s es' rest).mp h).1

theorem along_iff_prefixes (P : σ → ε → Prop) (s : σ) (es : List ε)
    : Along step P s es ↔ ∀ es' e, es' ++ [e] <+: es → P (run step s es') e := by
  induction es generalizing s with
  | nil => simp
  | cons e es ih =>
    rw [along_cons, ih]
    constructor
    . rintro ⟨he, hrest⟩ es' e' hstart
      cases es' with
      | nil =>
        obtain ⟨rfl, _⟩ := List.cons_prefix_cons.mp hstart
        exact he
      | cons x es' =>
        obtain ⟨rfl, htail⟩ := List.cons_prefix_cons.mp hstart
        exact hrest es' e' htail
    . intro h
      refine ⟨h [] e (List.cons_prefix_cons.mpr ⟨rfl, List.nil_prefix⟩), ?_⟩
      intro es' e' hstart
      exact h (e :: es') e' (List.cons_prefix_cons.mpr ⟨rfl, hstart⟩)

theorem forall_prefix_iff_along {P : σ → Prop} {s : σ} (hs : P s) (es : List ε)
    : (∀ es', es' <+: es → P (run step s es')) ↔ Along step (fun s e => P (step s e)) s es := by
  rw [along_iff_prefixes]
  constructor
  . intro h es' e hstart
    rw [← run_concat step]
    exact h _ hstart
  . intro h es' hstart
    rcases List.eq_nil_or_concat es' with rfl | ⟨pre, e, rfl⟩
    . exact hs
    . rw [List.concat_eq_append] at hstart ⊢
      rw [run_concat]
      exact h pre e hstart

theorem along_concat (P : σ → ε → Prop) (s : σ) (es : List ε) (e : ε)
    : Along step P s (es ++ [e]) ↔ Along step P s es ∧ P (run step s es) e := by
  rw [along_append, along_cons, and_iff_left (along_nil step P _)]

theorem along_and_iff (P Q : σ → ε → Prop) (s : σ) (es : List ε)
    : Along step (fun s e => P s e ∧ Q s e) s es ↔ Along step P s es ∧ Along step Q s es := by
  induction es generalizing s with
  | nil => simp
  | cons e es ih =>
    rw [along_cons, along_cons, along_cons, ih]
    exact and_and_and_comm

theorem Along.and {step : σ → ε → σ} {P Q : σ → ε → Prop} {s : σ} {es : List ε}
    (hP : Along step P s es) (hQ : Along step Q s es)
    : Along step (fun s e => P s e ∧ Q s e) s es := (along_and_iff step P Q s es).mpr ⟨hP, hQ⟩

section Invariant

variable {step} {Inv : σ → Prop} {Adm : σ → ε → Prop}
variable (hstep : ∀ s e, Inv s → Adm s e → Inv (step s e))
include hstep

theorem inv_run {s : σ} {es : List ε} (hs : Inv s) (hes : Along step Adm s es)
    : Inv (run step s es) := by
  induction es generalizing s with
  | nil => exact hs
  | cons e es ih => exact ih (hstep s e hs hes.1) hes.2

theorem along_congr {P Q : σ → ε → Prop} (hPQ : ∀ s e, Inv s → Adm s e → (P s e ↔ Q s e)) {s : σ}
    {es : List ε} (hs : Inv s) (hes : Along step Adm s es)
    : Along step P s es ↔ Along step Q s es := by
  induction es generalizing s with
  | nil => exact Iff.rfl
  | cons e es ih =>
    exact and_congr (hPQ s e hs hes.1) (ih (hstep s e hs hes.1) hes.2)

/--
A property that every step keeps exactly when `Q` holds of it.
-/
theorem along_post_iff {P : σ → Prop} {Q : σ → ε → Prop}
    (hPQ : ∀ s e, Inv s → Adm s e → P s → (P (step s e) ↔ Q s e)) {s : σ} {es : List ε}
    (hs : Inv s) (hP : P s) (hes : Along step Adm s es)
    : Along step (fun s e => P (step s e)) s es ↔ Along step Q s es := by
  induction es generalizing s with
  | nil => exact Iff.rfl
  | cons e es ih =>
    rw [along_cons, along_cons, ← hPQ s e hs hes.1 hP]
    exact and_congr_right fun hP' => ih (hstep s e hs hes.1) hP' hes.2

end Invariant

/--
An invariant that also knows the events so far.
-/
theorem inv_run_history {step : σ → ε → σ} {Adm : σ → ε → Prop} {Inv : List ε → σ → Prop}
    (hstep : ∀ es s e, Inv es s → Adm s e → Inv (es ++ [e]) (step s e)) {pre es : List ε} {s : σ}
    (hs : Inv pre s) (hes : Along step Adm s es)
    : Inv (pre ++ es) (run step s es) := by
  induction es generalizing pre s with
  | nil =>
    rw [List.append_nil]
    exact hs
  | cons e es ih =>
    rw [List.append_cons]
    exact ih (hstep pre s e hs hes.1) hes.2

theorem Along.mono {step : σ → ε → σ} {P Q : σ → ε → Prop} (hPQ : ∀ s e, P s e → Q s e) {s : σ}
    {es : List ε} (hP : Along step P s es)
    : Along step Q s es := by
  induction es generalizing s with
  | nil => trivial
  | cons e es ih => exact ⟨hPQ s e hP.1, ih hP.2⟩

theorem along_of_forall {P : ε → Prop} {s : σ} {es : List ε} (h : ∀ e ∈ es, P e)
    : Along step (fun _ e => P e) s es := by
  induction es generalizing s with
  | nil => trivial
  | cons e es ih =>
    exact ⟨h e List.mem_cons_self, ih fun e' he' => h e' (List.mem_cons_of_mem e he')⟩

end Run
