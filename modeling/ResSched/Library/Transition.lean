import Mathlib.Data.List.Infix
import Mathlib.Tactic.Common

/-! # Runs of a deterministic transition function -/

namespace Transition

variable {σ ε : Type*} (step : σ → ε → σ)

/-- The state reached from `s` by handling the events of `es` in order. -/
def run (s : σ) (es : List ε) : σ :=
  es.foldl step s

/-- `P` holds of every state the run passes through, its first and last state included. -/
def Always (P : σ → Prop) (s : σ) (es : List ε) : Prop :=
  ∀ front, front <+: es → P (run step s front)

/-- `Q` holds of every state of the run together with the event handled in it. -/
def EachStep (Q : σ → ε → Prop) (s : σ) (es : List ε) : Prop :=
  ∀ front e, front ++ [e] <+: es → Q (run step s front) e

/-! ## Equations of a run -/

@[simp] theorem run_nil (s : σ) : run step s [] = s :=
  rfl

@[simp] theorem run_cons (s : σ) (e : ε) (es : List ε) :
    run step s (e :: es) = run step (step s e) es :=
  rfl

theorem run_append (s : σ) (es fs : List ε) :
    run step s (es ++ fs) = run step (run step s es) fs := by
  simp [run]

@[simp] theorem run_concat (s : σ) (es : List ε) (e : ε) :
    run step s (es ++ [e]) = step (run step s es) e := by
  simp [run]

/-! ## Equations of the two run properties -/

@[simp] theorem always_nil (P : σ → Prop) (s : σ) : Always step P s [] ↔ P s := by
  simp [Always]

theorem always_cons (P : σ → Prop) (s : σ) (e : ε) (es : List ε) :
    Always step P s (e :: es) ↔ P s ∧ Always step P (step s e) es := by
  constructor
  · intro h
    refine ⟨h [] List.nil_prefix, ?_⟩
    intro front hfront
    exact h (e :: front) (by simpa using hfront)
  · rintro ⟨hs, htail⟩ front hfront
    rcases List.prefix_cons_iff.mp hfront with rfl | ⟨rest, rfl, hrest⟩
    · exact hs
    · exact htail rest hrest

@[simp] theorem eachStep_nil (Q : σ → ε → Prop) (s : σ) : EachStep step Q s [] := by
  intro front e h
  simp at h

theorem eachStep_cons (Q : σ → ε → Prop) (s : σ) (e : ε) (es : List ε) :
    EachStep step Q s (e :: es) ↔ Q s e ∧ EachStep step Q (step s e) es := by
  constructor
  · intro h
    refine ⟨h [] e (by simp), ?_⟩
    intro front f hfront
    exact h (e :: front) f (by simpa using hfront)
  · rintro ⟨hs, htail⟩ front f hfront
    cases front with
    | nil =>
        obtain rfl : f = e := by simpa using hfront
        exact hs
    | cons g rest =>
        simp only [List.cons_append, List.cons_prefix_cons] at hfront
        obtain ⟨rfl, hrest⟩ := hfront
        exact htail rest f hrest

theorem eachStep_append (Q : σ → ε → Prop) (s : σ) (es fs : List ε) :
    EachStep step Q s (es ++ fs) ↔
      EachStep step Q s es ∧ EachStep step Q (run step s es) fs := by
  induction es generalizing s with
  | nil => simp
  | cons e es ih => rw [List.cons_append, eachStep_cons, ih, eachStep_cons, and_assoc, run_cons]

instance decidableEachStep {Q : σ → ε → Prop} [∀ s e, Decidable (Q s e)] :
    ∀ (es : List ε) (s : σ), Decidable (EachStep step Q s es)
  | [], s => isTrue (eachStep_nil step Q s)
  | e :: es, s =>
      have : Decidable (EachStep step Q (step s e) es) := decidableEachStep es (step s e)
      decidable_of_iff _ (eachStep_cons step Q s e es).symm

/-- A property of the events alone holds at each step when it holds of each event. -/
theorem eachStep_iff_forall_mem (Q : ε → Prop) (es : List ε) (s : σ) :
    EachStep step (fun _ e => Q e) s es ↔ ∀ e ∈ es, Q e := by
  induction es generalizing s with
  | nil => simp
  | cons e es ih => rw [eachStep_cons, ih, List.forall_mem_cons]

theorem Always.head {P : σ → Prop} {s : σ} {es : List ε} (h : Always step P s es) : P s :=
  h [] List.nil_prefix

theorem Always.last {P : σ → Prop} {s : σ} {es : List ε} (h : Always step P s es) :
    P (run step s es) :=
  h es (List.prefix_refl es)

theorem Always.mono {P P' : σ → Prop} {s : σ} {es : List ε} (himp : ∀ s, P s → P' s)
    (h : Always step P s es) : Always step P' s es :=
  fun front hfront => himp _ (h front hfront)

theorem Always.and {P P' : σ → Prop} {s : σ} {es : List ε} (h : Always step P s es)
    (h' : Always step P' s es) : Always step (fun s => P s ∧ P' s) s es :=
  fun front hfront => ⟨h front hfront, h' front hfront⟩

/-! ## Runs seen through a function -/

section

variable {τ : Type*} {step' : τ → ε → τ} (f : σ → τ) (hstep : ∀ s e, f (step s e) = step' (f s) e)

include hstep

theorem run_map (s : σ) (es : List ε) : f (run step s es) = run step' (f s) es := by
  induction es generalizing s with
  | nil => rfl
  | cons e es ih => rw [run_cons, run_cons, ih, hstep]

theorem eachStep_map (Q : τ → ε → Prop) (s : σ) (es : List ε) :
    EachStep step (fun s e => Q (f s) e) s es ↔ EachStep step' Q (f s) es := by
  induction es generalizing s with
  | nil => simp
  | cons e es ih => rw [eachStep_cons, eachStep_cons, ih, hstep]

end

/-- A view that the events which do not concern it leave alone, and that the others change by the
view alone, is after any events what the events that concern it leave. -/
theorem view_run_filter {β : Type*} (view : σ → β) (concerns : ε → Bool)
    (hother : ∀ s e, concerns e = false → view (step s e) = view s) :
    ∀ es : List ε, (∀ e ∈ es, concerns e = true → ∀ s s', view s = view s' →
      view (step s e) = view (step s' e)) →
    ∀ s s', view s = view s' → view (run step s es) = view (run step s' (es.filter concerns)) := by
  intro es
  induction es with
  | nil => exact fun _ _ _ h => h
  | cons e es ih =>
      intro hown s s' h
      have htail := ih fun e he => hown e (List.mem_cons_of_mem _ he)
      rw [run_cons, List.filter_cons]
      cases hconcerns : concerns e with
      | false => exact htail _ _ ((hother s e hconcerns).trans h)
      | true => exact htail _ _ (hown e List.mem_cons_self hconcerns s s' h)

/-! ## Invariant rules -/

/-- An invariant that a step keeps under the guard `Q` holds throughout every run whose
steps meet `Q`. -/
theorem always_of_eachStep {P : σ → Prop} {Q : σ → ε → Prop}
    (hstep : ∀ s e, P s → Q s e → P (step s e)) :
    ∀ (es : List ε) (s : σ), P s → EachStep step Q s es → Always step P s es := by
  intro es
  induction es with
  | nil =>
      intro s hs _
      simpa using hs
  | cons e es ih =>
      intro s hs hguard
      rw [eachStep_cons] at hguard
      rw [always_cons]
      exact ⟨hs, ih (step s e) (hstep s e hs hguard.1) hguard.2⟩

/-- An invariant every step keeps holds throughout every run. -/
theorem always_of_step {P : σ → Prop} (hstep : ∀ s e, P s → P (step s e))
    (es : List ε) (s : σ) (hs : P s) : Always step P s es :=
  always_of_eachStep step (Q := fun _ _ => True) (fun s e h _ => hstep s e h) es s hs
    (fun _ _ _ => trivial)

/-- When the guard `Q` is what a step needs to keep the strong invariant `R`, and every step that
keeps `P` meets it, a run keeps `P` if and only if all its steps meet `Q`. -/
theorem always_iff_eachStep_of_strong {R P : σ → Prop} {Q : σ → ε → Prop}
    (himp : ∀ s, R s → P s) (hkeep : ∀ s e, R s → Q s e → R (step s e))
    (hneed : ∀ s e, R s → P (step s e) → Q s e) :
    ∀ (es : List ε) (s : σ), R s → (Always step P s es ↔ EachStep step Q s es) := by
  intro es
  induction es with
  | nil =>
      intro s hs
      simpa using himp s hs
  | cons e es ih =>
      intro s hs
      rw [always_cons, eachStep_cons]
      constructor
      · rintro ⟨_, htail⟩
        have hguard : Q s e := hneed s e hs htail.head
        exact ⟨hguard, (ih _ (hkeep s e hs hguard)).mp htail⟩
      · rintro ⟨hguard, htail⟩
        exact ⟨himp s hs, (ih _ (hkeep s e hs hguard)).mpr htail⟩

/-- When, beside an invariant `I` of all steps, the guard `Q` is exactly what a step needs to
keep `P`, a run keeps `P` if and only if all its steps meet `Q`. -/
theorem always_iff_eachStep {I P : σ → Prop} {Q : σ → ε → Prop}
    (hinv : ∀ s e, I s → I (step s e))
    (hexact : ∀ s e, I s → P s → (P (step s e) ↔ Q s e))
    (es : List ε) (s : σ) (hi : I s) (hs : P s) :
    Always step P s es ↔ EachStep step Q s es :=
  always_iff_eachStep_of_strong step (R := fun s => I s ∧ P s)
    (fun _ h => h.2)
    (fun s e h hguard => ⟨hinv s e h.1, (hexact s e h.1 h.2).mpr hguard⟩)
    (fun s e h hnext => (hexact s e h.1 h.2).mp hnext)
    es s ⟨hi, hs⟩

/-- When the guard `Q'` keeps the invariant `R`, and under `R` a step meets `Q` exactly when it
meets `Q'`, the steps of a run all meet `Q` if and only if they all meet `Q'`. -/
theorem eachStep_iff_of_invariant {R : σ → Prop} {Q Q' : σ → ε → Prop}
    (hiff : ∀ s e, R s → (Q s e ↔ Q' s e)) (hkeep : ∀ s e, R s → Q' s e → R (step s e)) :
    ∀ (es : List ε) (s : σ), R s → (EachStep step Q s es ↔ EachStep step Q' s es) := by
  intro es
  induction es with
  | nil =>
      intro s _
      simp
  | cons e es ih =>
      intro s hs
      rw [eachStep_cons, eachStep_cons, hiff s e hs]
      refine and_congr_right fun hguard => ?_
      exact ih (step s e) (hkeep s e hs hguard)

/-- When, under the invariant `R`, a step that meets the guard `Q'` meets `Q` and keeps `R`, and a
step that meets `Q` and keeps `P` meets the guard, the steps of a run all meet `Q` and its states
all `P` if and only if the steps all meet the guard. -/
theorem eachStep_and_always_iff {R P : σ → Prop} {Q Q' : σ → ε → Prop}
    (himp : ∀ s, R s → P s) (hmeet : ∀ s e, R s → Q' s e → Q s e)
    (hkeep : ∀ s e, R s → Q' s e → R (step s e))
    (hneed : ∀ s e, R s → Q s e → P (step s e) → Q' s e) :
    ∀ (es : List ε) (s : σ), R s →
      ((EachStep step Q s es ∧ Always step P s es) ↔ EachStep step Q' s es) := by
  intro es
  induction es with
  | nil =>
      intro s hs
      simpa using himp s hs
  | cons e es ih =>
      intro s hs
      rw [eachStep_cons, always_cons, eachStep_cons]
      constructor
      · rintro ⟨⟨hstep, hsteps⟩, _, htail⟩
        have hguard : Q' s e := hneed s e hs hstep htail.head
        exact ⟨hguard, (ih _ (hkeep s e hs hguard)).mp ⟨hsteps, htail⟩⟩
      · rintro ⟨hguard, htail⟩
        obtain ⟨hsteps, halways⟩ := (ih _ (hkeep s e hs hguard)).mpr htail
        exact ⟨⟨hmeet s e hs hguard, hsteps⟩, himp s hs, halways⟩

/-- When a step under `R` keeps `R` if it meets the guard `Q` and leads to `B` if it does not, and
`B` is never left, a run that starts in `R` ends in `R` or in `B` as its steps meet the guard or
not. -/
theorem run_of_guard {R B : σ → Prop} {Q : σ → ε → Prop}
    (hkeep : ∀ s e, R s → Q s e → R (step s e)) (hbreak : ∀ s e, R s → ¬ Q s e → B (step s e))
    (hbad : ∀ s e, B s → B (step s e)) :
    ∀ (es : List ε) (s : σ), R s →
      (EachStep step Q s es → R (run step s es)) ∧ (¬ EachStep step Q s es → B (run step s es)) := by
  have hstays : ∀ (es : List ε) (s : σ), B s → B (run step s es) := by
    intro es
    induction es with
    | nil => exact fun s hs => hs
    | cons e es ih => exact fun s hs => ih (step s e) (hbad s e hs)
  intro es
  induction es with
  | nil =>
      intro s hs
      exact ⟨fun _ => hs, fun hnot => absurd (eachStep_nil step Q s) hnot⟩
  | cons e es ih =>
      intro s hs
      rw [eachStep_cons, run_cons]
      by_cases hguard : Q s e
      · rw [and_iff_right hguard]
        exact ih (step s e) (hkeep s e hs hguard)
      · exact ⟨fun hsteps => absurd hsteps.1 hguard,
          fun _ => hstays es (step s e) (hbreak s e hs hguard)⟩

/-! ## Steps that can fail -/

/-- The step on the states that remember a failure as `none`. -/
def attempt (step : σ → ε → Option σ) (s : Option σ) (e : ε) : Option σ :=
  s.bind fun s => step s e

/-- When every step succeeds and keeps `R`, so does the run. -/
theorem exists_foldlM_of_invariant {step : σ → ε → Option σ} {R : σ → Prop} :
    ∀ (es : List ε) (s : σ), (∀ s, ∀ e ∈ es, R s → ∃ s', step s e = some s' ∧ R s') → R s →
      ∃ s', es.foldlM step s = some s' ∧ R s' := by
  intro es
  induction es with
  | nil =>
      intro s _ hs
      exact ⟨s, rfl, hs⟩
  | cons e es ih =>
      intro s hstep hs
      obtain ⟨next, hnext, hkept⟩ := hstep s e List.mem_cons_self hs
      rw [List.foldlM_cons, hnext]
      exact ih next (fun s e he => hstep s e (List.mem_cons_of_mem _ he)) hkept

end Transition
