import Mathlib.Data.List.Basic
import Mathlib.Tactic.Common

/-! # Logs that open and close in turn

A log of marks, `true` for opening and `false` for closing.
-/

namespace Pairing

/-- The log alternates, its first mark being `first`. -/
def alternatesFrom (first : Bool) : List Bool → Bool
  | [] => true
  | mark :: log => mark == first && alternatesFrom (!first) log

/-- Openings and closings strictly alternate, beginning with an opening. -/
def Alternates (log : List Bool) : Prop :=
  alternatesFrom true log = true

/-- The last mark of the log opened. -/
def isOpen (log : List Bool) : Bool :=
  log.getLast?.getD false

instance (log : List Bool) : Decidable (Alternates log) :=
  inferInstanceAs (Decidable (alternatesFrom true log = true))

@[simp] theorem isOpen_nil : isOpen [] = false :=
  rfl

@[simp] theorem isOpen_concat (log : List Bool) (mark : Bool) :
    isOpen (log ++ [mark]) = mark := by
  simp [isOpen]

/-- The mark an alternating log goes on with. -/
theorem alternatesFrom_concat (first : Bool) (log : List Bool) (mark : Bool) :
    alternatesFrom first (log ++ [mark]) = true ↔
      alternatesFrom first log = true ∧ mark = !(log.getLast?.getD (!first)) := by
  induction log generalizing first with
  | nil => simp [alternatesFrom]
  | cons head tail ih =>
      have hlast : (head :: tail).getLast?.getD (!first) = tail.getLast?.getD head := by
        cases tail with
        | nil => simp
        | cons next rest => simp [List.getLast?_eq_some_getLast]
      simp only [List.cons_append, alternatesFrom, Bool.and_eq_true, beq_iff_eq, ih, hlast]
      constructor
      · rintro ⟨rfl, htail, hmark⟩
        exact ⟨⟨rfl, htail⟩, by simpa using hmark⟩
      · rintro ⟨⟨rfl, htail⟩, hmark⟩
        exact ⟨rfl, htail, by simpa using hmark⟩

/-- An alternating log goes on with a closing exactly when it is open. -/
theorem alternates_concat (log : List Bool) (mark : Bool) :
    Alternates (log ++ [mark]) ↔ Alternates log ∧ mark = !isOpen log :=
  alternatesFrom_concat true log mark

/-- The log once a level that was `before` is `after`: only a change is written. -/
def record (before after : Bool) (log : List Bool) : List Bool :=
  if before = after then log else log ++ [after]

/-- A log that stands at the level keeps alternating and ends at the new one. -/
theorem record_spec {before : Bool} {log : List Bool} (h : Alternates log)
    (hlevel : isOpen log = before) (after : Bool) :
    Alternates (record before after log) ∧ isOpen (record before after log) = after := by
  rw [record]
  split_ifs with hsame
  · exact ⟨h, hlevel.trans hsame⟩
  · refine ⟨(alternates_concat log after).mpr ⟨h, ?_⟩, isOpen_concat log after⟩
    rw [hlevel]
    exact Bool.eq_not_of_ne (Ne.symm hsame)

end Pairing
