import Mathlib.Tactic.Common

/-! # Flags collected in a bit vector

A loop that sets bits, and never clears one, sets a bit exactly when one of its iterations does.
-/

namespace BitFlags

variable {w : Nat} {α : Type*}

theorem getLsbD_foldl {step : BitVec w → α → BitVec w} {sets : α → Bool} {i : Nat}
    (hstep : ∀ flag x, (step flag x).getLsbD i = (flag.getLsbD i || sets x)) (xs : List α)
    (flag : BitVec w) : (xs.foldl step flag).getLsbD i = (flag.getLsbD i || xs.any sets) := by
  induction xs generalizing flag with
  | nil => simp
  | cons x xs ih => rw [List.foldl_cons, ih, hstep, List.any_cons, Bool.or_assoc]

/-- The mask of one bit, added to a flag. -/
theorem getLsbD_or_mask (flag : BitVec w) (n : Nat) {i : Nat} (hi : i < w) :
    (flag ||| (1#w <<< n)).getLsbD i = (flag.getLsbD i || decide (n = i)) := by
  rw [BitVec.getLsbD_or, ← BitVec.twoPow_eq, BitVec.getLsbD_twoPow]
  congr 1
  by_cases h : n = i
  · simp [h, hi]
  · simp [h]

end BitFlags
