import ResSched.Library.Transition

/-! # What the latest event says

An event can say a value or be silent. A view of the state that each step keeps or replaces by
what the event says shows the value said last.
-/

namespace Transition

variable {σ ε τ : Type*}

/-- The value the latest event that is not silent says. -/
def latest (said : ε → Option τ) (es : List ε) : Option τ :=
  es.reverse.findSome? said

@[simp] theorem latest_nil (said : ε → Option τ) : latest said [] = none :=
  rfl

theorem latest_concat (said : ε → Option τ) (es : List ε) (e : ε) :
    latest said (es ++ [e]) = (said e).or (latest said es) := by
  rw [latest, List.reverse_concat, List.findSome?_cons]
  cases said e <;> rfl

/-- The run lemma: under an invariant, a view that follows each step shows the value said last. -/
theorem view_run_eq_latest (view : σ → τ) {step : σ → ε → σ} {I : σ → Prop} {said : ε → Option τ}
    (hkeep : ∀ s e, I s → I (step s e))
    (hstep : ∀ s e, I s → view (step s e) = (said e).getD (view s)) {s : σ} (hs : I s)
    (es : List ε) : view (run step s es) = (latest said es).getD (view s) := by
  induction es using List.reverseRecOn with
  | nil => rfl
  | append_singleton es e ih =>
      have hinv : I (run step s es) := (always_of_step step hkeep es s hs).last
      rw [run_concat, hstep _ _ hinv, ih, latest_concat]
      cases said e <;> rfl

end Transition
