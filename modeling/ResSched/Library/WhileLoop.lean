import Mathlib.Logic.Function.Iterate
import Mathlib.Tactic.Common

/-! # Loops with a condition -/

namespace WhileLoop

variable {σ : Type*}

/-- The state a loop ends in, when it ends before its fuel is used up. -/
def whileLoop (continues : σ → Bool) (body : σ → σ) : Nat → σ → Option σ
  | 0, _ => none
  | fuel + 1, s => if continues s then whileLoop continues body fuel (body s) else some s

/-- The loop leaves the state `s` after `rounds` rounds. -/
structure EndsAfter (continues : σ → Bool) (body : σ → σ) (s : σ) (rounds : Nat) : Prop where
  goesOn : ∀ m < rounds, continues (body^[m] s) = true
  stops : continues (body^[rounds] s) = false

section

variable {continues : σ → Bool} {body : σ → σ}

theorem endsAfter_zero {s : σ} (h : continues s = false) : EndsAfter continues body s 0 :=
  ⟨fun _ hm => absurd hm (Nat.not_lt_zero _), h⟩

theorem endsAfter_succ_iff {s : σ} (h : continues s = true) (rounds : Nat) :
    EndsAfter continues body s (rounds + 1) ↔ EndsAfter continues body (body s) rounds := by
  constructor
  · intro hends
    exact ⟨fun m hm => hends.goesOn (m + 1) (Nat.succ_lt_succ hm), hends.stops⟩
  · intro hends
    refine ⟨fun m hm => ?_, hends.stops⟩
    cases m with
    | zero => exact h
    | succ m => exact hends.goesOn m (Nat.lt_of_succ_lt_succ hm)

theorem EndsAfter.unique {s : σ} {rounds rounds' : Nat}
    (h : EndsAfter continues body s rounds) (h' : EndsAfter continues body s rounds') :
    rounds = rounds' := by
  rcases Nat.lt_trichotomy rounds rounds' with hlt | heq | hlt
  · exact absurd (h'.goesOn rounds hlt) (by simp [h.stops])
  · exact heq
  · exact absurd (h.goesOn rounds' hlt) (by simp [h'.stops])

/-- The loop gives a state exactly when it ends there within its fuel. -/
theorem whileLoop_eq_some_iff (fuel : Nat) (s t : σ) :
    whileLoop continues body fuel s = some t ↔
      ∃ rounds < fuel, EndsAfter continues body s rounds ∧ body^[rounds] s = t := by
  induction fuel generalizing s with
  | zero => simp [whileLoop]
  | succ fuel ih =>
      rw [whileLoop]
      cases hs : continues s with
      | false =>
          simp only [Bool.false_eq_true, if_false, Option.some.injEq]
          constructor
          · rintro rfl
            exact ⟨0, Nat.succ_pos fuel, endsAfter_zero hs, rfl⟩
          · rintro ⟨rounds, -, hends, rfl⟩
            obtain rfl := hends.unique (endsAfter_zero hs)
            rfl
      | true =>
          rw [if_pos rfl, ih]
          constructor
          · rintro ⟨rounds, hlt, hends, rfl⟩
            exact ⟨rounds + 1, Nat.succ_lt_succ hlt, (endsAfter_succ_iff hs rounds).mpr hends, rfl⟩
          · rintro ⟨rounds, hlt, hends, rfl⟩
            cases rounds with
            | zero => exact absurd hends.stops (by simp [hs])
            | succ rounds =>
                exact ⟨rounds, Nat.lt_of_succ_lt_succ hlt, (endsAfter_succ_iff hs rounds).mp hends,
                  rfl⟩

theorem exists_whileLoop_iff (s t : σ) :
    (∃ fuel, whileLoop continues body fuel s = some t) ↔
      ∃ rounds, EndsAfter continues body s rounds ∧ body^[rounds] s = t := by
  simp only [whileLoop_eq_some_iff]
  constructor
  · rintro ⟨fuel, rounds, -, hends⟩
    exact ⟨rounds, hends⟩
  · rintro ⟨rounds, hends⟩
    exact ⟨rounds + 1, rounds, Nat.lt_succ_self rounds, hends⟩

end

end WhileLoop
