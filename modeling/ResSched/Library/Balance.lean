import ResSched.Library.Transition
import Mathlib.Algebra.Group.Defs
import Mathlib.Algebra.Group.Basic

/-! # Amounts a system takes in and gives out

What a system holds, together with all it has given out, is what it held and all it has taken in.
-/

namespace Transition

variable {σ ε M : Type*} [AddCommMonoid M]

/-- The amounts of the steps of a run, added up. -/
def total (step : σ → ε → σ) (amount : σ → ε → M) (s : σ) : List ε → M
  | [] => 0
  | e :: es => amount s e + total step amount (step s e) es

@[simp] theorem total_nil (step : σ → ε → σ) (amount : σ → ε → M) (s : σ) :
    total step amount s [] = 0 :=
  rfl

end Transition
