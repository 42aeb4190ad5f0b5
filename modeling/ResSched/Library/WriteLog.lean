import Mathlib.Data.List.Zip
import Mathlib.Logic.Function.Basic
import Mathlib.Tactic.Common

/-! # Stores written one key after the other -/

namespace WriteLog

variable {κ α : Type*} [DecidableEq κ]

/-- The store after the writes of `log`; a later write to a key replaces an earlier one. -/
def apply (log : List (κ × α)) (store : κ → α) : κ → α :=
  log.foldl (fun store write => Function.update store write.1 write.2) store

@[simp] theorem apply_nil (store : κ → α) : apply [] store = store :=
  rfl

@[simp] theorem apply_cons (write : κ × α) (log : List (κ × α)) (store : κ → α) :
    apply (write :: log) store = apply log (Function.update store write.1 write.2) :=
  rfl

/-- A key that is never written keeps its value. -/
theorem apply_of_notMem (log : List (κ × α)) (store : κ → α) (k : κ)
    (h : k ∉ log.map Prod.fst) : apply log store k = store k := by
  induction log generalizing store with
  | nil => rfl
  | cons write log ih =>
      simp only [List.map_cons, List.mem_cons, not_or] at h
      rw [apply_cons, ih _ h.2, Function.update_of_ne h.1]

/-- The value of a written key does not depend on the store before the writes. -/
theorem apply_congr_of_mem (log : List (κ × α)) (store store' : κ → α) (k : κ)
    (h : k ∈ log.map Prod.fst) : apply log store k = apply log store' k := by
  induction log generalizing store store' with
  | nil => simp at h
  | cons write log ih =>
      rw [apply_cons, apply_cons]
      by_cases htail : k ∈ log.map Prod.fst
      · exact ih _ _ htail
      · have hk : k = write.1 := by
          simpa [htail] using h
        rw [apply_of_notMem log _ k htail, apply_of_notMem log _ k htail, hk]
        simp

/-- A property of all values written to a key, and of its value before, holds of its value
after the writes. -/
theorem apply_induction (log : List (κ × α)) (store : κ → α) (k : κ) (P : α → Prop)
    (hstore : k ∉ log.map Prod.fst → P (store k))
    (hlog : ∀ write ∈ log, write.1 = k → P write.2) : P (apply log store k) := by
  induction log generalizing store with
  | nil => exact hstore (by simp)
  | cons write log ih =>
      rw [apply_cons]
      refine ih _ ?_ (fun later hlater => hlog later (List.mem_cons_of_mem _ hlater))
      intro hk
      by_cases hw : k = write.1
      · subst hw
        rw [Function.update_self]
        exact hlog write List.mem_cons_self rfl
      · rw [Function.update_of_ne hw]
        exact hstore (by simp only [List.map_cons, List.mem_cons, not_or]; exact ⟨hw, hk⟩)

end WriteLog
