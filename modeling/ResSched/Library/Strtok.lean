import Mathlib.Data.List.TakeWhile
import Mathlib.Tactic.Common

/-! # `strtok` on a character array

An array holds characters up to its end; reading behind the end is undefined and gives `none`.
-/

namespace CLibrary

def NUL : Char :=
  Char.ofNat 0

/-- The characters of a token. -/
def inToken (delimiter c : Char) : Bool :=
  c ≠ delimiter && c ≠ NUL

/-- One call: the token and what is left of the array, if there is a token. -/
def strtok (delimiter : Char) (buffer : List Char) : Option (Option (List Char × List Char)) :=
  let text := buffer.dropWhile fun c => c = delimiter
  match text.head? with
  | none => none
  | some c =>
      if c = NUL then some none
      else
        let rest := text.dropWhile (inToken delimiter)
        match rest.head? with
        | none => none
        | some d =>
            -- A delimiter is overwritten; a null character stays and ends the next call.
            some (some (text.takeWhile (inToken delimiter), if d = NUL then rest else rest.tail))

/-- A token stands behind delimiters and before a delimiter or a null character. -/
theorem strtok_token {delimiter : Char} {buffer token rest : List Char}
    (h : strtok delimiter buffer = some (some (token, rest))) :
    ∃ skipped d behind, buffer = skipped ++ (token ++ d :: behind) ∧ token ≠ [] ∧
      rest = if d = NUL then d :: behind else behind := by
  rw [strtok] at h
  have hbuffer := List.takeWhile_append_dropWhile (p := fun c => decide (c = delimiter))
    (l := buffer)
  have hhead := List.head?_dropWhile_not (fun c => decide (c = delimiter)) buffer
  revert h hbuffer hhead
  generalize buffer.dropWhile (fun c => c = delimiter) = text
  intro h hbuffer hhead
  dsimp only at h
  cases hc : text.head? with
  | none => simp [hc] at h
  | some c =>
      rw [hc] at h hhead
      dsimp only at h hhead
      by_cases hnull : c = NUL
      · rw [if_pos hnull] at h
        cases h
      · rw [if_neg hnull] at h
        have htext := List.takeWhile_append_dropWhile (p := inToken delimiter) (l := text)
        cases hd : (text.dropWhile (inToken delimiter)).head? with
        | none =>
            rw [hd] at h
            cases h
        | some d =>
            rw [hd, Option.some.injEq, Option.some.injEq, Prod.mk.injEq] at h
            obtain ⟨rfl, rfl⟩ := h
            obtain ⟨behind, hbehind⟩ := List.head?_eq_some_iff.mp hd
            rw [hbehind] at htext
            refine ⟨buffer.takeWhile fun c => c = delimiter, d, behind, ?_, ?_, ?_⟩
            · rw [htext, hbuffer]
            · obtain ⟨tail, rfl⟩ := List.head?_eq_some_iff.mp hc
              rw [List.takeWhile_cons_of_pos]
              · exact List.cons_ne_nil _ _
              · simpa [inToken, hnull] using hhead
            · rw [hbehind, List.tail_cons]

theorem length_strtok {delimiter : Char} {buffer token rest : List Char}
    (h : strtok delimiter buffer = some (some (token, rest))) : rest.length < buffer.length := by
  obtain ⟨skipped, d, behind, rfl, hne, rfl⟩ := strtok_token h
  have hpositive := List.length_pos_iff.mpr hne
  simp only [List.length_append, List.length_cons]
  split_ifs
  · rw [List.length_cons]
    omega
  · omega

/-- The tokens of all calls, up to the one that finds no token. -/
def strtokAll (delimiter : Char) (buffer : List Char) : Option (List (List Char)) :=
  match _h : strtok delimiter buffer with
  | none => none
  | some none => some []
  | some (some (token, rest)) => (strtokAll delimiter rest).map (token :: ·)
termination_by buffer.length
decreasing_by exact length_strtok _h

/-! ## Arrays without a null character -/

variable {delimiter : Char}

/-- An array without a null character is read beyond its end. -/
theorem strtokAll_of_full {buffer : List Char} (h : NUL ∉ buffer) :
    strtokAll delimiter buffer = none := by
  fun_induction strtokAll delimiter buffer with
  | case1 buffer hnone => rfl
  | case2 buffer hend =>
      rw [strtok] at hend
      dsimp only at hend
      cases hc : (buffer.dropWhile fun c => c = delimiter).head? with
      | none => simp [hc] at hend
      | some c =>
          have hmem := (buffer.dropWhile_sublist _).subset (List.mem_of_head? hc)
          rw [hc] at hend
          dsimp only at hend
          have hnull : c ≠ NUL := by
            rintro rfl
            exact h hmem
          rw [if_neg hnull] at hend
          cases hd : ((buffer.dropWhile fun c => c = delimiter).dropWhile
            (inToken delimiter)).head? <;> rw [hd] at hend <;> cases hend
  | case3 buffer token rest hsome ih =>
      obtain ⟨skipped, d, behind, rfl, _, rfl⟩ := strtok_token hsome
      simp only [List.mem_append, List.mem_cons, not_or] at h
      rw [ih]
      · rfl
      · rw [if_neg (Ne.symm h.2.2.1)]
        exact h.2.2.2

/-! ## Lines -/

/-- A line that can be cut out: not empty, without the delimiter and without a null character. -/
def IsLine (delimiter : Char) (line : List Char) : Prop :=
  line ≠ [] ∧ ∀ c ∈ line, inToken delimiter c = true

theorem strtok_line {line behind : List Char} {d : Char} (h : IsLine delimiter line)
    (hd : inToken delimiter d = false) :
    strtok delimiter (line ++ d :: behind) =
      some (some (line, if d = NUL then d :: behind else behind)) := by
  obtain ⟨hne, hin⟩ := h
  have htake : (line ++ d :: behind).takeWhile (inToken delimiter) = line := by
    rw [List.takeWhile_append_of_pos hin, List.takeWhile_cons_of_neg (by simp [hd]),
      List.append_nil]
  have hdrop : (line ++ d :: behind).dropWhile (inToken delimiter) = d :: behind := by
    rw [List.dropWhile_append_of_pos hin, List.dropWhile_cons_of_neg (by simp [hd])]
  cases line with
  | nil => exact absurd rfl hne
  | cons c line =>
      have hc := hin c List.mem_cons_self
      rw [inToken, Bool.and_eq_true, decide_eq_true_eq, decide_eq_true_eq] at hc
      rw [strtok, List.cons_append, List.dropWhile_cons_of_neg (by simp [hc.1])]
      rw [List.cons_append] at htake hdrop
      rw [htake, hdrop]
      simp [hc.2]

theorem strtokAll_null (hdelimiter : delimiter ≠ NUL) (behind : List Char) :
    strtokAll delimiter (NUL :: behind) = some [] := by
  have hend : strtok delimiter (NUL :: behind) = some none := by
    rw [strtok, List.dropWhile_cons_of_neg (by simp [hdelimiter.symm])]
    simp
  rw [strtokAll]
  split
  · next hnone => cases hend.symm.trans hnone
  · rfl
  · next hsome => cases hend.symm.trans hsome

theorem strtokAll_line {line behind : List Char} {d : Char} (h : IsLine delimiter line)
    (hd : inToken delimiter d = false) :
    strtokAll delimiter (line ++ d :: behind) =
      (strtokAll delimiter (if d = NUL then d :: behind else behind)).map (line :: ·) := by
  have hline : strtok delimiter (line ++ d :: behind) =
      some (some (line, if d = NUL then d :: behind else behind)) := strtok_line h hd
  rw [strtokAll]
  split
  · next hnone => cases hline.symm.trans hnone
  · next hend => cases hline.symm.trans hend
  · next hsome =>
      have hsame := hline.symm.trans hsome
      simp only [Option.some.injEq, Prod.mk.injEq] at hsame
      obtain ⟨rfl, rfl⟩ := hsame
      rfl

/-- Lines that end with the delimiter are cut one after the other. -/
theorem strtokAll_lines (hdelimiter : delimiter ≠ NUL) (lines : List (List Char))
    (hlines : ∀ line ∈ lines, IsLine delimiter line) (buffer : List Char) :
    strtokAll delimiter (lines.flatMap (· ++ [delimiter]) ++ buffer) =
      (strtokAll delimiter buffer).map (lines ++ ·) := by
  induction lines with
  | nil => simp
  | cons line lines ih =>
      rw [List.forall_mem_cons] at hlines
      rw [List.flatMap_cons, List.append_assoc, List.append_assoc, List.singleton_append,
        strtokAll_line hlines.1 (by simp [inToken]), if_neg hdelimiter, ih hlines.2,
        Option.map_map]
      rfl

end CLibrary
