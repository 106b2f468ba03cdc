import Mathlib.Tactic

/-!
# Runs of a deterministic system

A system is a total `step : S → E → S` over states and events; an operation
that raises is a step too, whose effect is whatever the raising call left
behind. A run is the left fold of `step` over a list of events.

* `Always`   — a property holds in every state a run passes through;
* `Guarded`  — every event of a run meets a condition on the event and on
  the state before it;
* `always_of_invariant`       — the induction rule for invariants;
* `always_of_guarded`         — events that meet the guard keep the property;
* `guarded_congr`             — conditions that agree on every step agree on runs;
* `always_iff_guarded`        — when a step keeps the property exactly if its
  guard holds, a run keeps it exactly if all its steps are guarded;
* `evolves_iff_guarded`       — the same for a preorder that later states are to be in
  with earlier ones.
-/

namespace Runs

variable {S E : Type*} (step : S → E → S)

/-- The state after the events `es`, in order. -/
def run (s : S) (es : List E) : S := es.foldl step s

@[simp] theorem run_nil (s : S) : run step s [] = s := rfl

@[simp] theorem run_cons (s : S) (e : E) (es : List E) :
    run step s (e :: es) = run step (step s e) es := rfl

theorem run_append (s : S) (es fs : List E) :
    run step s (es ++ fs) = run step (run step s es) fs :=
  List.foldl_append

/-- `P` holds in every state the run passes through, first and last included. -/
def Always (P : S → Prop) (s : S) (es : List E) : Prop :=
  ∀ before, before <+: es → P (run step s before)

/-- Each event of the run meets `G` in the state it is applied to. -/
def Guarded (G : S → E → Prop) (s : S) (es : List E) : Prop :=
  ∀ before e, before ++ [e] <+: es → G (run step s before) e

variable {step}

@[simp] theorem always_nil {P : S → Prop} {s : S} : Always step P s [] ↔ P s := by
  constructor
  · intro h
    exact h [] (List.nil_prefix)
  · intro h before hb
    rw [List.prefix_nil.mp hb]
    exact h

theorem always_cons {P : S → Prop} {s : S} {e : E} {es : List E} :
    Always step P s (e :: es) ↔ P s ∧ Always step P (step s e) es := by
  constructor
  · intro h
    refine ⟨h [] List.nil_prefix, fun before hb => ?_⟩
    exact h (e :: before) (List.cons_prefix_cons.mpr ⟨rfl, hb⟩)
  · rintro ⟨h0, h⟩ before hb
    rcases List.prefix_cons_iff.mp hb with rfl | ⟨rest, rfl, hrest⟩
    · exact h0
    · exact h rest hrest

@[simp] theorem guarded_nil {G : S → E → Prop} {s : S} : Guarded step G s [] := by
  intro before e hb
  simp at hb

theorem guarded_cons {G : S → E → Prop} {s : S} {e : E} {es : List E} :
    Guarded step G s (e :: es) ↔ G s e ∧ Guarded step G (step s e) es := by
  constructor
  · intro h
    refine ⟨h [] e (by simp), fun before f hb => ?_⟩
    exact h (e :: before) f (List.cons_prefix_cons.mpr ⟨rfl, hb⟩)
  · rintro ⟨h0, h⟩ before f hb
    cases before with
    | nil =>
      have hf : f :: [] <+: e :: es := hb
      obtain ⟨rfl, -⟩ := List.cons_prefix_cons.mp hf
      exact h0
    | cons g before =>
      obtain ⟨rfl, hrest⟩ := List.cons_prefix_cons.mp hb
      exact h before f hrest

/-- Conditions that agree on every step agree on every run. -/
theorem guarded_congr {G G' : S → E → Prop} (h : ∀ s e, G s e ↔ G' s e) {s : S} {es : List E} :
    Guarded step G s es ↔ Guarded step G' s es :=
  forall_congr' fun before => forall_congr' fun e => imp_congr_right fun _ =>
    h (run step s before) e

theorem always_last {P : S → Prop} {s : S} {es : List E} (h : Always step P s es) :
    P (run step s es) :=
  h es (List.prefix_refl es)

theorem always_mono {P Q : S → Prop} (hPQ : ∀ s, P s → Q s) {s : S} {es : List E}
    (h : Always step P s es) : Always step Q s es :=
  fun before hb => hPQ _ (h before hb)

/-- **Invariant rule.** What every step keeps, every run keeps. -/
theorem always_of_invariant {I : S → Prop} (hstep : ∀ s e, I s → I (step s e))
    {s : S} (h0 : I s) (es : List E) : Always step I s es := by
  induction es generalizing s with
  | nil => exact always_nil.mpr h0
  | cons e es ih => exact always_cons.mpr ⟨h0, ih (hstep s e h0)⟩

/-- **Guarded invariant rule.** What every guarded step keeps, every run of
guarded steps keeps. -/
theorem always_of_guarded {I : S → Prop} {G : S → E → Prop}
    (hstep : ∀ s e, I s → G s e → I (step s e))
    {s : S} (h0 : I s) {es : List E} (hG : Guarded step G s es) : Always step I s es := by
  induction es generalizing s with
  | nil => exact always_nil.mpr h0
  | cons e es ih =>
    obtain ⟨he, hes⟩ := guarded_cons.mp hG
    exact always_cons.mpr ⟨h0, ih (hstep s e h0 he) hes⟩

/-- **Exact guards.** Let `I` be kept by every step. If, from a state that
satisfies `I` and `P`, a step keeps `P` exactly when its guard holds, then a
run keeps `P` throughout exactly when every step of it is guarded. -/
theorem always_iff_guarded {I P : S → Prop} {G : S → E → Prop}
    (hI : ∀ s e, I s → I (step s e))
    (hstep : ∀ s e, I s → P s → (P (step s e) ↔ G s e))
    {s : S} (hI0 : I s) (hP0 : P s) (es : List E) :
    Always step P s es ↔ Guarded step G s es := by
  induction es generalizing s with
  | nil => simp [hP0]
  | cons e es ih =>
    rw [always_cons, guarded_cons]
    constructor
    · rintro ⟨-, h⟩
      have hP1 : P (step s e) := h [] List.nil_prefix
      exact ⟨(hstep s e hI0 hP0).mp hP1, (ih (hI s e hI0) hP1).mp h⟩
    · rintro ⟨hG, h⟩
      have hP1 : P (step s e) := (hstep s e hI0 hP0).mpr hG
      exact ⟨hP0, (ih (hI s e hI0) hP1).mpr h⟩

/-! ## Earlier and later states -/

variable (step) in
/-- Every state of the run is in relation `R` with every later one. -/
def Evolves (R : S → S → Prop) (s : S) (es : List E) : Prop :=
  ∀ before after, before ++ after <+: es → R (run step s before) (run step s (before ++ after))

/-- **Preorders.** A run moves along a preorder exactly if each of its steps does. -/
theorem evolves_iff_guarded {R : S → S → Prop} (hrefl : ∀ s, R s s)
    (htrans : ∀ r s t, R r s → R s t → R r t) {G : S → E → Prop}
    (hstep : ∀ s e, R s (step s e) ↔ G s e) {s : S} {es : List E} :
    Evolves step R s es ↔ Guarded step G s es := by
  constructor
  · intro h before e hprefix
    have hone := h before [e] hprefix
    rw [run_append] at hone
    exact (hstep _ e).mp hone
  · intro h before after
    -- one step after the other, from the earlier state on
    induction after using List.reverseRecOn with
    | nil =>
      intro _
      rw [List.append_nil]
      exact hrefl _
    | append_singleton after e ih =>
      rw [← List.append_assoc]
      intro hprefix
      have hbefore := ih ((List.prefix_append _ _).trans hprefix)
      have hlast := (hstep _ e).mpr (h (before ++ after) e hprefix)
      rw [run_append _ _ (before ++ after)]
      exact htrans _ _ _ hbefore hlast

end Runs
