import Mathlib.Data.List.Infix
import Mathlib.Tactic.Common

/-! # Greedy runs of a list, and joining with a separator -/

namespace GreedyRuns

variable {α : Type*}

/-- The runs of a list that goes on behind the elements of an unfinished run. -/
def runsFrom (joins : List α → α → Bool) (run : List α) : List α → List (List α)
  | [] => [run]
  | x :: xs =>
      if joins run x then runsFrom joins (run ++ [x]) xs else run :: runsFrom joins [x] xs

/-- Every element joins the run before it where it can, and opens a new one otherwise. -/
def runs (joins : List α → α → Bool) : List α → List (List α)
  | [] => []
  | x :: xs => runsFrom joins [x] xs

/-! ## What the runs hold -/

section

variable (joins : List α → α → Bool)

@[simp] theorem flatten_runsFrom (run xs : List α) :
    (runsFrom joins run xs).flatten = run ++ xs := by
  induction xs generalizing run with
  | nil => simp [runsFrom]
  | cons x xs ih =>
      rw [runsFrom]
      split_ifs
      · rw [ih, List.append_assoc, List.singleton_append]
      · rw [List.flatten_cons, ih, List.singleton_append]

@[simp] theorem flatten_runs (xs : List α) : (runs joins xs).flatten = xs := by
  cases xs with
  | nil => rfl
  | cons x xs => exact flatten_runsFrom joins [x] xs

/-- A property of the unfinished run that a joining element keeps, and that holds of every single
element, holds of all runs. -/
theorem forall_mem_runsFrom {P : List α → Prop} (hsingle : ∀ x, P [x])
    (hjoin : ∀ run x, P run → joins run x = true → P (run ++ [x])) {run : List α} (hrun : P run)
    (xs : List α) : ∀ run' ∈ runsFrom joins run xs, P run' := by
  induction xs generalizing run with
  | nil =>
      intro run' hmem
      rw [runsFrom, List.mem_singleton] at hmem
      exact hmem ▸ hrun
  | cons x xs ih =>
      rw [runsFrom]
      split_ifs with hx
      · exact ih (hjoin run x hrun hx)
      · rw [List.forall_mem_cons]
        exact ⟨hrun, ih (hsingle x)⟩

theorem forall_mem_runs {P : List α → Prop} (hsingle : ∀ x, P [x])
    (hjoin : ∀ run x, P run → joins run x = true → P (run ++ [x])) (xs : List α) :
    ∀ run ∈ runs joins xs, P run := by
  cases xs with
  | nil => exact List.forall_mem_nil P
  | cons x xs => exact forall_mem_runsFrom joins hsingle hjoin (hsingle x) xs

theorem ne_nil_of_mem_runs {xs run : List α} (h : run ∈ runs joins xs) : run ≠ [] :=
  forall_mem_runs joins (P := fun run => run ≠ []) (fun x => List.cons_ne_nil x [])
    (fun run x _ _ => List.append_ne_nil_of_right_ne_nil run (List.cons_ne_nil x [])) xs run h

end

/-! ## Joining -/

section

variable (separator : List α)

theorem intercalate_append {xs ys : List (List α)} (hxs : xs ≠ []) (hys : ys ≠ []) :
    separator.intercalate (xs ++ ys) =
      separator.intercalate xs ++ (separator ++ separator.intercalate ys) := by
  induction xs with
  | nil => exact absurd rfl hxs
  | cons x xs ih =>
      cases xs with
      | nil =>
          rw [List.singleton_append, List.intercalate_cons_of_ne_nil hys,
            List.intercalate_singleton, List.append_assoc]
      | cons z xs =>
          rw [List.cons_append, List.intercalate_cons_of_ne_nil (by simp),
            ih (List.cons_ne_nil z xs), List.intercalate_cons_cons]
          simp only [List.append_assoc]

theorem intercalate_concat {xs : List (List α)} (hxs : xs ≠ []) (x : List α) :
    separator.intercalate (xs ++ [x]) = separator.intercalate xs ++ (separator ++ x) := by
  rw [intercalate_append separator hxs (List.cons_ne_nil x []), List.intercalate_singleton]

/-- Joining the joined parts is joining all of them. -/
theorem intercalate_map_intercalate (parts : List (List (List α)))
    (hparts : ∀ part ∈ parts, part ≠ []) :
    separator.intercalate (parts.map separator.intercalate) =
      separator.intercalate parts.flatten := by
  induction parts with
  | nil => rfl
  | cons part parts ih =>
      rw [List.forall_mem_cons] at hparts
      cases parts with
      | nil => simp
      | cons other parts =>
          have hother : (other :: parts).flatten ≠ [] := by
            rw [List.flatten_cons]
            exact List.append_ne_nil_of_left_ne_nil (hparts.2 other List.mem_cons_self) _
          calc separator.intercalate ((part :: other :: parts).map separator.intercalate)
              = separator.intercalate part ++ separator ++
                  separator.intercalate ((other :: parts).map separator.intercalate) :=
                List.intercalate_cons_of_ne_nil (by simp)
            _ = separator.intercalate part ++ (separator ++
                  separator.intercalate (other :: parts).flatten) := by
                rw [ih hparts.2, List.append_assoc]
            _ = separator.intercalate (part ++ (other :: parts).flatten) :=
                (intercalate_append separator hparts.1 hother).symm

theorem intercalate_ne_nil {xs : List (List α)} (hne : xs ≠ []) (hxs : ∀ x ∈ xs, x ≠ []) :
    separator.intercalate xs ≠ [] := by
  cases xs with
  | nil => exact absurd rfl hne
  | cons x xs =>
      have hx := hxs x List.mem_cons_self
      cases xs with
      | nil => rwa [List.intercalate_singleton]
      | cons y xs =>
          rw [List.intercalate_cons_cons]
          exact List.append_ne_nil_of_left_ne_nil
            (List.append_ne_nil_of_left_ne_nil hx _) _

variable {separator}

/-- A front of a list of texts that are not empty is joined to a shorter text. -/
theorem eq_of_isPrefix_of_length {xs ys : List (List α)} (h : xs <+: ys)
    (hys : ∀ y ∈ ys, y ≠ []) (hsep : separator ≠ [])
    (hlength : (separator.intercalate xs).length = (separator.intercalate ys).length) :
    xs = ys := by
  obtain ⟨rest, rfl⟩ := h
  by_cases hrest : rest = []
  · rw [hrest, List.append_nil]
  by_cases hxs : xs = []
  · rw [hxs, List.nil_append] at hlength hys
    exact absurd (List.length_eq_zero_iff.mp hlength.symm) (intercalate_ne_nil _ hrest hys)
  · rw [intercalate_append separator hxs hrest, List.length_append, List.length_append] at hlength
    have hpos := List.length_pos_iff.mpr hsep
    omega

/-- Two divisions of one list into parts that are joined to the same texts are equal. -/
theorem parts_unique {parts parts' : List (List (List α))} (hsep : separator ≠ [])
    (hitems : ∀ x ∈ parts.flatten, x ≠ []) (hflatten : parts.flatten = parts'.flatten)
    (hjoined : parts.map separator.intercalate = parts'.map separator.intercalate) :
    parts = parts' := by
  induction parts generalizing parts' with
  | nil => exact (List.map_eq_nil_iff.mp hjoined.symm).symm
  | cons part parts ih =>
      cases parts' with
      | nil => cases hjoined
      | cons part' parts' =>
          rw [List.map_cons, List.map_cons, List.cons.injEq] at hjoined
          rw [List.flatten_cons] at hitems
          rw [List.flatten_cons, List.flatten_cons] at hflatten
          have hlength := congrArg List.length hjoined.1
          have hpart : part = part' := by
            rcases List.prefix_or_prefix_of_prefix (List.prefix_append part parts.flatten)
              (hflatten ▸ List.prefix_append part' parts'.flatten) with hfront | hfront
            · refine eq_of_isPrefix_of_length hfront ?_ hsep hlength
              intro y hy
              exact hitems y (hflatten ▸ List.mem_append_left _ hy)
            · refine (eq_of_isPrefix_of_length hfront ?_ hsep hlength.symm).symm
              exact fun y hy => hitems y (List.mem_append_left _ hy)
          subst hpart
          rw [ih (fun x hx => hitems x (List.mem_append_right _ hx))
            (List.append_cancel_left hflatten) hjoined.2]

end

end GreedyRuns
