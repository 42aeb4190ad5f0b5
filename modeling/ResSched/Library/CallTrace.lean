import Mathlib.Tactic.Common

/-! # The calls of a function that keeps a state

Arguments and results of the calls one after the other, and what a flag that is only ever set
remembers of them.
-/

namespace CallTrace

variable {σ α β : Type*}

/-- The calls with the arguments of a list: the state behind them, and each argument with its
result. -/
def callAll (f : σ → α → σ × β) (s : σ) : List α → σ × List (α × β)
  | [] => (s, [])
  | a :: as => ((callAll f (f s a).1 as).1, (a, (f s a).2) :: (callAll f (f s a).1 as).2)

theorem callAll_append (f : σ → α → σ × β) (s : σ) (first second : List α) :
    callAll f s (first ++ second) =
      ((callAll f (callAll f s first).1 second).1,
        (callAll f s first).2 ++ (callAll f (callAll f s first).1 second).2) := by
  induction first generalizing s with
  | nil => rfl
  | cons a first ih => simp only [List.cons_append, callAll, ih]

/-- A property holds of all calls when it holds of each one after the calls before it. -/
theorem forall_callAll_iff (f : σ → α → σ × β) (s : σ) (as : List α) (P : α → β → Prop) :
    (∀ call ∈ (callAll f s as).2, P call.1 call.2) ↔
      ∀ before a after, as = before ++ a :: after →
        P a (f (callAll f s before).1 a).2 := by
  constructor
  · rintro h before a after rfl
    refine h (a, (f (callAll f s before).1 a).2) ?_
    rw [callAll_append]
    exact List.mem_append_right _ List.mem_cons_self
  · induction as generalizing s with
    | nil =>
        intro _ call hcall
        cases hcall
    | cons a as ih =>
        intro h call hcall
        rcases List.mem_cons.mp hcall with rfl | hcall
        · exact h [] a as rfl
        · refine ih (f s a).1 ?_ call hcall
          rintro before later after rfl
          exact h (a :: before) later after rfl

/-- A flag that a call sets, and none clears, is set when some call has set it. -/
theorem sticky {f : Bool → α → Bool × β} {sets : α → Bool}
    (hflag : ∀ flag a, (f flag a).1 = (flag || sets a)) (flag : Bool) (as : List α) :
    (callAll f flag as).1 = (flag || as.any sets) := by
  induction as generalizing flag with
  | nil => exact (Bool.or_false flag).symm
  | cons a as ih => rw [callAll, ih, hflag, List.any_cons, Bool.or_assoc]

end CallTrace
