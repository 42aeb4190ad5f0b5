import ResSched.Library.Transition

/-! # Channels of a system

A step can accept items into a channel. They wait in it, and are handled in the order in which they
were accepted, unless a step discards what waits.
-/

namespace Transition

variable {σ ε α : Type*}

/-- What the steps of a run put out, one after the other. -/
def outputs (step : σ → ε → σ) (out : σ → ε → List α) (s : σ) : List ε → List α
  | [] => []
  | e :: es => out s e ++ outputs step out (step s e) es

/-- A log to which each step adds what it puts out. -/
theorem log_run_eq {step : σ → ε → σ} (log : σ → List α) {out : σ → ε → List α}
    (hstep : ∀ s e, log (step s e) = log s ++ out s e) (s : σ) (es : List ε) :
    log (run step s es) = log s ++ outputs step out s es := by
  induction es generalizing s with
  | nil => simp [outputs]
  | cons e es ih => rw [run_cons, ih, hstep, outputs, List.append_assoc]

/-- Outputs that agree under an invariant of the run. -/
theorem outputs_congr {step : σ → ε → σ} {I : σ → Prop} {out out' : σ → ε → List α} :
    ∀ (es : List ε) (s : σ), (∀ s, ∀ e ∈ es, I s → out s e = out' s e ∧ I (step s e)) → I s →
      outputs step out s es = outputs step out' s es := by
  intro es
  induction es with
  | nil => exact fun _ _ _ => rfl
  | cons e es ih =>
      intro s hstep hs
      obtain ⟨hout, hnext⟩ := hstep s e List.mem_cons_self hs
      rw [outputs, outputs, hout]
      rw [ih (step s e) (fun s f hf => hstep s f (List.mem_cons_of_mem e hf)) hnext]

/-- A pass over distinct keys in which each key changes its own view only. -/
theorem view_run_of_own {κ τ : Type*} [DecidableEq κ] (pass : σ → κ → σ) (view : σ → τ) (k : κ)
    (g : τ → τ) (hown : ∀ s, view (pass s k) = g (view s))
    (hother : ∀ s j, j ≠ k → view (pass s j) = view s) (ks : List κ) (hnodup : ks.Nodup) (s : σ) :
    view (run pass s ks) = if k ∈ ks then g (view s) else view s := by
  induction ks generalizing s with
  | nil => simp
  | cons j ks ih =>
      obtain ⟨hnotMem, htail⟩ := List.nodup_cons.mp hnodup
      rw [run_cons, ih htail]
      by_cases hj : j = k
      · subst hj
        rw [if_neg hnotMem, if_pos List.mem_cons_self, hown]
      · rw [hother s j hj]
        simp [Ne.symm hj]

/-- A view of the items of a system, with what one step does to them. -/
structure Channel (step : σ → ε → σ) (α : Type*) where
  accepted : σ → ε → List α
  waiting : σ → List α
  handled : σ → List α
  discards : σ → ε → Prop
  keeps : ∀ s e, ¬ discards s e →
    handled (step s e) ++ waiting (step s e) = handled s ++ waiting s ++ accepted s e
  drops : ∀ s e, discards s e →
    waiting s ≠ [] ∧ accepted s e = [] ∧ handled (step s e) = handled s ∧ waiting (step s e) = []

namespace Channel

variable {step : σ → ε → σ} (channel : Channel step α)

/-- What has been handled and what waits for it. -/
def taken (s : σ) : List α :=
  channel.handled s ++ channel.waiting s

/-- The run lemma: no item is handled twice, or before one accepted earlier. -/
theorem taken_sublist (s : σ) (es : List ε) :
    (channel.taken (run step s es)).Sublist
      (channel.taken s ++ outputs step channel.accepted s es) := by
  induction es generalizing s with
  | nil => simp [outputs]
  | cons e es ih =>
      rw [run_cons, outputs]
      by_cases hdiscards : channel.discards s e
      · obtain ⟨-, haccepted, hhandled, hwaiting⟩ := channel.drops s e hdiscards
        have hnext : (channel.taken (step s e)).Sublist (channel.taken s) := by
          rw [taken, hhandled, hwaiting, List.append_nil]
          exact List.sublist_append_left _ _
        rw [haccepted, List.nil_append]
        exact (ih (step s e)).trans (hnext.append (List.Sublist.refl _))
      · have hnext : channel.taken (step s e) = channel.taken s ++ channel.accepted s e :=
          channel.keeps s e hdiscards
        rw [← List.append_assoc, ← hnext]
        exact ih (step s e)

/-- An item is lost exactly when a step discards what waits. -/
theorem taken_eq_iff (s : σ) (es : List ε) :
    channel.taken (run step s es) = channel.taken s ++ outputs step channel.accepted s es ↔
      EachStep step (fun s e => ¬ channel.discards s e) s es := by
  induction es generalizing s with
  | nil => simp [outputs]
  | cons e es ih =>
      rw [run_cons, outputs, eachStep_cons]
      by_cases hdiscards : channel.discards s e
      · obtain ⟨hne, haccepted, hhandled, hwaiting⟩ := channel.drops s e hdiscards
        have hshorter : (channel.taken (step s e)).length < (channel.taken s).length := by
          rw [taken, taken, hhandled, hwaiting, List.append_nil, List.length_append]
          exact Nat.lt_add_of_pos_right (List.length_pos_iff.mpr hne)
        have hle := (channel.taken_sublist (step s e) es).length_le
        refine iff_of_false ?_ (fun h => h.1 hdiscards)
        intro heq
        have hlength := congrArg List.length heq
        rw [haccepted, List.nil_append] at hlength
        rw [List.length_append] at hle hlength
        omega
      · have hnext : channel.taken (step s e) = channel.taken s ++ channel.accepted s e :=
          channel.keeps s e hdiscards
        rw [← List.append_assoc, ← hnext, ih, and_iff_right hdiscards]

end Channel

end Transition
