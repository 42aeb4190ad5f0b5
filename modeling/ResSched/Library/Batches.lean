import Mathlib.Data.List.Basic
import Mathlib.Tactic.Ring

/-! # Cutting a list into batches of one size -/

variable {α : Type*}

/-- The pieces of `n` elements each, the last one possibly shorter. -/
def batches (n : Nat) (xs : List α) : List (List α) :=
  (List.range ((xs.length + n - 1) / n)).map (fun k => (xs.drop (k * n)).take n)

theorem length_batches (n : Nat) (xs : List α) :
    (batches n xs).length = (xs.length + n - 1) / n := by
  simp [batches]

theorem getElem_batches (n : Nat) (xs : List α) {k : Nat} (hk : k < (batches n xs).length) :
    (batches n xs)[k] = (xs.drop (k * n)).take n := by
  simp [batches]

theorem flatten_map_batch (n : Nat) (xs : List α) (count : Nat) :
    ((List.range count).map (fun k => (xs.drop (k * n)).take n)).flatten =
      xs.take (count * n) := by
  induction count with
  | zero => simp
  | succ count ih =>
      rw [List.range_succ, List.map_append, List.flatten_append, ih, Nat.succ_mul, List.take_add]
      simp

/-- The batches in order are the list. -/
theorem flatten_batches (n : Nat) (hn : 0 < n) (xs : List α) : (batches n xs).flatten = xs := by
  rw [batches]
  rw [flatten_map_batch]
  apply List.take_of_length_le
  have hdiv := Nat.lt_div_mul_add (a := xs.length + n - 1) hn
  omega

@[simp] theorem batches_nil (n : Nat) : batches n ([] : List α) = [] := by
  cases n with
  | zero => simp [batches]
  | succ n => simp [batches, Nat.div_eq_of_lt]

theorem batches_of_ne_nil {n : Nat} (hn : 0 < n) {xs : List α} (hxs : xs ≠ []) :
    batches n xs = xs.take n :: batches n (xs.drop n) := by
  have hlength : 0 < xs.length := List.length_pos_iff.mpr hxs
  have hcount : (xs.length + n - 1) / n = (xs.length - n + n - 1) / n + 1 := by
    by_cases hle : n ≤ xs.length
    · rw [← Nat.add_div_right _ hn]
      congr 1
      omega
    · rw [Nat.div_eq_of_lt (a := xs.length - n + n - 1) (by omega)]
      rw [show xs.length + n - 1 = xs.length - 1 + n by omega, Nat.add_div_right _ hn,
        Nat.div_eq_of_lt (by omega)]
  rw [batches, batches, hcount, List.length_drop, List.range_succ_eq_map, List.map_cons,
    List.map_map]
  congr 1
  · simp
  · refine List.map_congr_left fun k _ => ?_
    rw [Function.comp_apply, List.drop_drop, Nat.succ_mul, Nat.add_comm]
