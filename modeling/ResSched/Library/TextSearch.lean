import Mathlib.Data.List.Infix
import Mathlib.Data.List.TakeWhile
import Mathlib.Tactic.Common

/-! # Searching and cutting a text by positions -/

namespace TextSearch

variable {α : Type*}

/-- `pattern` stands behind `front`, and nowhere before it. -/
def FirstAt (pattern front text : List α) : Prop :=
  front ++ pattern <+: text ∧ ∀ front', front' ++ pattern <+: text → front.length ≤ front'.length

section

variable [DecidableEq α]

/-- The first position where `pattern` stands. -/
def find (pattern : List α) : List α → Option Nat
  | [] => if pattern = [] then some 0 else none
  | c :: text =>
      if pattern.isPrefixOf (c :: text) then some 0 else (find pattern text).map fun i => i + 1

/-- The first position of `c` from `pos` on. -/
def findFrom (c : α) (pos : Nat) (text : List α) : Option Nat :=
  ((text.drop pos).findIdx? fun d => d = c).map fun i => pos + i

end

/-- The text from `pos` on, cut after `count` characters; `none` behind the end of the text. -/
def substr (pos : Nat) (count : Option Nat) (text : List α) : Option (List α) :=
  if text.length < pos then none
  else some (count.elim (text.drop pos) fun n => (text.drop pos).take n)

/-! ## The first place -/

theorem FirstAt.unique {pattern front front' text : List α} (h : FirstAt pattern front text)
    (h' : FirstAt pattern front' text) : front = front' := by
  have hlength : front.length = front'.length :=
    Nat.le_antisymm (h.2 front' h'.1) (h'.2 front h.1)
  have hfront := (List.prefix_append front pattern).trans h.1
  have hfront' := (List.prefix_append front' pattern).trans h'.1
  exact (List.prefix_of_prefix_length_le hfront hfront' hlength.le).eq_of_length hlength

theorem FirstAt.stands {pattern front text : List α} (h : FirstAt pattern front text) :
    pattern <:+: text := by
  obtain ⟨back, hback⟩ := h.1
  exact ⟨front, back, hback⟩

theorem firstAt_nil {pattern text : List α} (h : pattern <+: text) : FirstAt pattern [] text :=
  ⟨h, fun _ _ => Nat.zero_le _⟩

theorem firstAt_cons_iff {pattern front text : List α} {c : α} (h : ¬ pattern <+: c :: text) :
    FirstAt pattern (c :: front) (c :: text) ↔ FirstAt pattern front text := by
  rw [FirstAt, FirstAt, List.cons_append, List.cons_prefix_cons, and_iff_right rfl]
  refine and_congr_right fun _ => ⟨fun hall front' hfront' => ?_, fun hall front' hfront' => ?_⟩
  · have hle := hall (c :: front') (by rwa [List.cons_append, List.cons_prefix_cons,
      and_iff_right rfl])
    simpa using hle
  · cases front' with
    | nil => exact absurd hfront' h
    | cons d front' =>
        rw [List.cons_append, List.cons_prefix_cons] at hfront'
        simpa using hall front' hfront'.2

theorem find_eq_some_iff [DecidableEq α] (pattern text : List α) (i : Nat) :
    find pattern text = some i ↔ ∃ front, front.length = i ∧ FirstAt pattern front text := by
  induction text generalizing i with
  | nil =>
      rw [find]
      constructor
      · intro h
        split_ifs at h with hempty
        refine ⟨[], Option.some.inj h, ?_⟩
        rw [hempty]
        exact firstAt_nil List.nil_prefix
      · rintro ⟨front, rfl, hfirst⟩
        have hnil := List.prefix_nil.mp hfirst.1
        rw [List.append_eq_nil_iff] at hnil
        rw [if_pos hnil.2, hnil.1]
        rfl
  | cons c text ih =>
      rw [find]
      by_cases hfront : pattern <+: c :: text
      · rw [if_pos (List.isPrefixOf_iff_prefix.mpr hfront)]
        constructor
        · intro h
          exact ⟨[], Option.some.inj h, firstAt_nil hfront⟩
        · rintro ⟨front, rfl, hfirst⟩
          rw [hfirst.unique (firstAt_nil hfront)]
          rfl
      · rw [if_neg (fun h => hfront (List.isPrefixOf_iff_prefix.mp h)), Option.map_eq_some_iff]
        constructor
        · rintro ⟨j, hfind, rfl⟩
          obtain ⟨front, rfl, hfirst⟩ := (ih j).mp hfind
          exact ⟨c :: front, rfl, (firstAt_cons_iff hfront).mpr hfirst⟩
        · rintro ⟨front, rfl, hfirst⟩
          cases front with
          | nil => exact absurd hfirst.1 hfront
          | cons d front =>
              obtain rfl : d = c := (List.cons_prefix_cons.mp hfirst.1).1
              exact ⟨front.length, (ih _).mpr ⟨front, rfl, (firstAt_cons_iff hfront).mp hfirst⟩,
                rfl⟩

theorem find_eq_none_iff [DecidableEq α] (pattern text : List α) :
    find pattern text = none ↔ ¬ pattern <:+: text := by
  induction text with
  | nil =>
      rw [find, List.infix_nil]
      split_ifs with hempty <;> simp [hempty]
  | cons c text ih =>
      rw [find, List.infix_cons_iff, not_or, ← ih]
      by_cases hfront : pattern <+: c :: text
      · simp [hfront]
      · rw [if_neg (fun h => hfront (List.isPrefixOf_iff_prefix.mp h))]
        simp [hfront]

/-! ## Cutting a line -/

/-- The text from `pos` up to the next `c`, or up to the end. -/
theorem substr_findFrom [DecidableEq α] (c : α) (pos : Nat) (text : List α) :
    substr pos ((findFrom c pos text).map fun stop => stop - pos) text =
      if text.length < pos then none
      else some ((text.drop pos).takeWhile fun d => d ≠ c) := by
  have hcut : ∀ line : List α,
      (line.findIdx? fun d => d = c).elim line (fun n => line.take n) =
        line.takeWhile fun d => d ≠ c := by
    intro line
    induction line with
    | nil => rfl
    | cons d line ih =>
        rw [List.findIdx?_cons]
        by_cases hd : d = c
        · simp [hd]
        · rw [if_neg (by simpa using hd), List.takeWhile_cons_of_pos (by simpa using hd), ← ih]
          cases line.findIdx? fun d => d = c with
          | none => rfl
          | some i => rfl
  rw [substr, findFrom, ← hcut (text.drop pos)]
  cases (text.drop pos).findIdx? fun d => d = c with
  | none => rfl
  | some i => simp

theorem findFrom_of_notMem [DecidableEq α] {c : α} {text : List α} (h : c ∉ text) (pos : Nat) :
    findFrom c pos text = none := by
  rw [findFrom, Option.map_eq_none_iff, List.findIdx?_eq_none_iff]
  intro d hd
  rw [decide_eq_false_iff_not]
  rintro rfl
  exact h (List.mem_of_mem_drop hd)

theorem findFrom_append_cons [DecidableEq α] {c : α} {front : List α} (h : c ∉ front)
    (rest : List α) : findFrom c 0 (front ++ c :: rest) = some front.length := by
  have hnone : (front.findIdx? fun d => decide (d = c)) = none := by
    rw [List.findIdx?_eq_none_iff]
    intro d hd
    rw [decide_eq_false_iff_not]
    rintro rfl
    exact h hd
  rw [findFrom, List.drop_zero, List.findIdx?_append, hnone, List.findIdx?_cons]
  simp

/-- Behind a text the search goes on in what follows. -/
theorem findFrom_append [DecidableEq α] (c : α) (front rest : List α) :
    findFrom c front.length (front ++ rest) =
      (findFrom c 0 rest).map fun i => front.length + i := by
  rw [findFrom, findFrom, List.drop_left, List.drop_zero, Option.map_map]
  congr 1
  funext i
  simp

/-- A line ends before the first `c` or with the text. -/
theorem takeWhile_eq_iff [DecidableEq α] (c : α) (text line : List α) :
    text.takeWhile (fun d => d ≠ c) = line ↔
      c ∉ line ∧ ∃ back, text = line ++ back ∧ (back = [] ∨ ∃ rest, back = c :: rest) := by
  induction text generalizing line with
  | nil =>
      rw [List.takeWhile_nil]
      constructor
      · rintro rfl
        exact ⟨List.not_mem_nil, [], rfl, Or.inl rfl⟩
      · rintro ⟨-, back, hback, -⟩
        exact (List.append_eq_nil_iff.mp hback.symm).1.symm
  | cons d text ih =>
      by_cases hd : d = c
      · subst hd
        rw [List.takeWhile_cons_of_neg (by simp)]
        constructor
        · rintro rfl
          exact ⟨List.not_mem_nil, d :: text, rfl, Or.inr ⟨text, rfl⟩⟩
        · rintro ⟨hnot, back, hback, -⟩
          cases line with
          | nil => rfl
          | cons e line =>
              rw [List.cons_append, List.cons.injEq] at hback
              exact absurd List.mem_cons_self (hback.1 ▸ hnot)
      · rw [List.takeWhile_cons_of_pos (by simpa using hd)]
        constructor
        · rintro rfl
          obtain ⟨hnot, back, hback, hend⟩ := (ih _).mp rfl
          refine ⟨?_, back, ?_, hend⟩
          · rw [List.mem_cons, not_or]
            exact ⟨fun h => hd h.symm, hnot⟩
          · rw [List.cons_append, ← hback]
        · rintro ⟨hnot, back, hback, hend⟩
          cases line with
          | nil =>
              rw [List.nil_append] at hback
              subst hback
              obtain hnil | ⟨rest, hrest⟩ := hend
              · cases hnil
              · exact absurd (List.cons.inj hrest).1 hd
          | cons e line =>
              rw [List.cons_append, List.cons.injEq] at hback
              rw [List.mem_cons, not_or] at hnot
              rw [(ih line).mpr ⟨hnot.2, back, hback.2, hend⟩, hback.1]

/-! ## Separators -/

/-- A text has no separator, or a first one. -/
theorem notMem_or_append_cons [DecidableEq α] (c : α) (text : List α) :
    c ∉ text ∨ ∃ front rest, c ∉ front ∧ text = front ++ c :: rest := by
  obtain ⟨hnot, back, hback, rfl | ⟨rest, rfl⟩⟩ := (takeWhile_eq_iff c text _).mp rfl
  · rw [List.append_nil] at hback
    exact Or.inl (hback ▸ hnot)
  · exact Or.inr ⟨_, rest, hnot, hback⟩

section

variable {x y front rest : List α} {c d : α} (hfront : c ∉ front)

include hfront

/-- A separator that the front lacks stands behind another one that ends the front. -/
theorem append_cons_of_ne (hne : c ≠ d) (h : x ++ c :: y = front ++ d :: rest) :
    ∃ x', x = front ++ d :: x' ∧ x' ++ c :: y = rest := by
  induction front generalizing x with
  | nil =>
      cases x with
      | nil => exact absurd (List.cons.inj h).1 hne
      | cons e x =>
          obtain ⟨rfl, hrest⟩ := List.cons.inj h
          exact ⟨x, rfl, hrest⟩
  | cons e front ih =>
      rw [List.mem_cons, not_or] at hfront
      cases x with
      | nil => exact absurd (List.cons.inj h).1 hfront.1
      | cons e' x =>
          obtain ⟨rfl, hrest⟩ := List.cons.inj h
          obtain ⟨x', rfl, hbehind⟩ := ih hfront.2 hrest
          exact ⟨x', rfl, hbehind⟩

/-- A separator that the front lacks is the one that ends the front, or stands behind it. -/
theorem append_cons_of_eq (h : x ++ c :: y = front ++ c :: rest) :
    (x = front ∧ y = rest) ∨ ∃ x', x = front ++ c :: x' ∧ x' ++ c :: y = rest := by
  induction front generalizing x with
  | nil =>
      cases x with
      | nil => exact Or.inl ⟨rfl, (List.cons.inj h).2⟩
      | cons e x =>
          obtain ⟨rfl, hrest⟩ := List.cons.inj h
          exact Or.inr ⟨x, rfl, hrest⟩
  | cons e front ih =>
      rw [List.mem_cons, not_or] at hfront
      cases x with
      | nil => exact absurd (List.cons.inj h).1 hfront.1
      | cons e' x =>
          obtain ⟨rfl, hrest⟩ := List.cons.inj h
          obtain ⟨rfl, hbehind⟩ | ⟨x', rfl, hbehind⟩ := ih hfront.2 hrest
          · exact Or.inl ⟨rfl, hbehind⟩
          · exact Or.inr ⟨x', rfl, hbehind⟩

end

end TextSearch
