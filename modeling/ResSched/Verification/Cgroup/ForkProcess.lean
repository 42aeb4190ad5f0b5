import Mathlib.Data.List.Forall2
import ResSched.Library.DecimalText
import ResSched.Model.Cgroup.ForkProcess

/-! # Moving forked processes

When exactly all processes of the procs file, and no others, follow.
-/

namespace ResSched.Cgroup

open CLibrary

/-! ## The specification -/

/-- The line is the decimal number of a process. -/
structure PidText (line : List Char) (pid : Int) : Prop where
  nonempty : line ≠ []
  digits : ∀ c ∈ line, c.isDigit = true
  number : pid = Nat.ofDigitChars 10 line 0
  positive : 0 < pid
  fits : pid < 2147483648

/-- The text of a procs file: one process per line, where the last line may lack its end. -/
def ProcsText (text : List Char) (pids : List Int) : Prop :=
  ∃ lines, List.Forall₂ PidText lines pids ∧
    (text = lines.flatMap (· ++ ['\n']) ∨ ∃ front last, lines = front ++ [last] ∧
      text = front.flatMap (· ++ ['\n']) ++ last)

/-- The listed processes, but for the one of the record itself, are to join its group. -/
def forkedMoves (pids : List Int) (pid : Int) (record : ProcessRecord) :
    List (Int × SchedPolicy) :=
  (pids.filter fun forkPid => forkPid ≠ pid).map fun forkPid => (forkPid, record.curSchedGroup)

/-! ## Lines of digits -/

theorem PidText.isLine {line : List Char} {pid : Int} (h : PidText line pid) :
    IsLine '\n' line := by
  refine ⟨h.nonempty, fun c hc => ?_⟩
  have hdigit := h.digits c hc
  rw [inToken, Bool.and_eq_true, decide_eq_true_eq, decide_eq_true_eq]
  constructor
  · rintro rfl
    exact absurd hdigit (by decide)
  · rintro rfl
    exact absurd hdigit (by decide)

theorem null_notMem_of_isLine {lines : List (List Char)} (h : ∀ line ∈ lines, IsLine '\n' line) :
    NUL ∉ lines.flatMap (· ++ ['\n']) := by
  intro hmem
  obtain ⟨line, hline, hnull⟩ := List.mem_flatMap.mp hmem
  rcases List.mem_append.mp hnull with hin | hend
  · exact absurd ((h line hline).2 NUL hin) (by decide)
  · exact absurd (List.mem_singleton.mp hend) (by decide)

theorem forall₂_isLine {lines : List (List Char)} {pids : List Int}
    (h : List.Forall₂ PidText lines pids) : ∀ line ∈ lines, IsLine '\n' line := by
  induction h with
  | nil => simp
  | cons hpid _ ih => exact List.forall_mem_cons.mpr ⟨hpid.isLine, ih⟩

theorem adjustFork_of_pidText {line : List Char} {forkPid : Int} (h : PidText line forkPid)
    (pid : Int) (record : ProcessRecord) :
    adjustFork pid record line =
      if forkPid ≠ pid then [(forkPid, record.curSchedGroup)] else [] := by
  have hatoi : atoi (String.ofList line) = forkPid := by
    rw [h.number]
    refine atoi_digits h.nonempty h.digits ?_
    have hfits := h.fits
    rw [h.number] at hfits
    omega
  have hpositive := h.positive
  have hne : forkPid ≠ 0 := by omega
  simp only [adjustFork, hatoi, if_neg hne, SetThreadGroupSchedPolicy,
    if_neg (not_le.mpr hpositive)]

theorem flatMap_adjustFork {lines : List (List Char)} {pids : List Int}
    (h : List.Forall₂ PidText lines pids) (pid : Int) (record : ProcessRecord) :
    lines.flatMap (adjustFork pid record) = forkedMoves pids pid record := by
  induction h with
  | nil => rfl
  | @cons line forkPid lines pids hpid _ ih =>
      rw [List.flatMap_cons, adjustFork_of_pidText hpid, ih, forkedMoves, forkedMoves]
      split_ifs with hother
      · rw [List.filter_cons_of_pos (by simpa using hother), List.map_cons, List.singleton_append]
      · rw [List.filter_cons_of_neg (by simpa using hother), List.nil_append]

/-! ## The array -/

theorem null_notMem_of_procsText {text : List Char} {pids : List Int} (h : ProcsText text pids) :
    NUL ∉ text := by
  obtain ⟨lines, hlines, rfl | ⟨front, last, rfl, rfl⟩⟩ := h
  · exact null_notMem_of_isLine (forall₂_isLine hlines)
  · have hisLine := forall₂_isLine hlines
    intro hmem
    rcases List.mem_append.mp hmem with hfront | hlast
    · exact null_notMem_of_isLine (fun line hline => hisLine line (by simp [hline])) hfront
    · exact absurd ((hisLine last (by simp)).2 NUL hlast) (by decide)

/-- An array with room behind the text holds its lines. -/
theorem strtokAll_procsText {text : List Char} {lines : List (List Char)}
    (hlines : ∀ line ∈ lines, IsLine '\n' line)
    (htext : text = lines.flatMap (· ++ ['\n']) ∨ ∃ front last, lines = front ++ [last] ∧
      text = front.flatMap (· ++ ['\n']) ++ last) (behind : List Char) :
    strtokAll '\n' (text ++ NUL :: behind) = some lines := by
  have hnewline : '\n' ≠ NUL := by decide
  obtain rfl | ⟨front, last, rfl, rfl⟩ := htext
  · rw [strtokAll_lines hnewline lines hlines, strtokAll_null hnewline]
    simp
  · have hlast := hlines last (by simp)
    rw [List.append_assoc, strtokAll_lines hnewline front
      (fun line hline => hlines line (by simp [hline])), strtokAll_line hlast (by decide),
      if_pos rfl, strtokAll_null hnewline]
    rfl

theorem fileContent_of_lt {text : List Char} (h : text.length < MAX_SIZE) :
    ∃ behind, fileContent text = text ++ NUL :: behind := by
  refine ⟨List.replicate (MAX_SIZE - text.length - 1) NUL, ?_⟩
  rw [fileContent, List.take_of_length_le h.le, ← List.replicate_succ]
  congr 2
  omega

theorem fileContent_of_full {text : List Char} (h : MAX_SIZE ≤ text.length) :
    fileContent text = text.take MAX_SIZE := by
  rw [fileContent, Nat.sub_eq_zero_of_le h, List.replicate_zero, List.append_nil]

/-- A text that fills the array leaves no null character behind it. -/
theorem adjust_of_full {text : List Char} {pids : List Int} (h : ProcsText text pids)
    (hfull : MAX_SIZE ≤ text.length) (pid : Int) (record : ProcessRecord) :
    AdjustForkProcessGroup (.content text) pid record = none := by
  rw [AdjustForkProcessGroup]
  dsimp only
  rw [fileContent_of_full hfull, strtokAll_of_full, Option.map_none]
  exact fun hmem => null_notMem_of_procsText h (List.mem_of_mem_take hmem)

/-! ## Main result -/

/-- A file that cannot be opened or read moves nothing, and the processes listed in one that can be
read, but for the own one, are moved and no others, if and only if its text is shorter than the
array. -/
theorem forks_followed_iff {text : List Char} {pids : List Int} (h : ProcsText text pids)
    (pid : Int) (record : ProcessRecord) :
    AdjustForkProcessGroup .notOpened pid record = some [] ∧
    AdjustForkProcessGroup .readError pid record = some [] ∧
    (AdjustForkProcessGroup (.content text) pid record = some (forkedMoves pids pid record) ↔
      text.length < MAX_SIZE) := by
  refine ⟨rfl, ?_, ?_⟩
  · obtain ⟨behind, hempty⟩ := fileContent_of_lt (by decide : ([] : List Char).length < MAX_SIZE)
    rw [AdjustForkProcessGroup]
    dsimp only
    rw [hempty, List.nil_append, strtokAll_null (by decide)]
    rfl
  · constructor
    · intro hmoves
      by_contra hfull
      rw [adjust_of_full h (Nat.not_lt.mp hfull)] at hmoves
      cases hmoves
    · intro hlength
      obtain ⟨lines, hlines, htext⟩ := h
      obtain ⟨behind, hcontent⟩ := fileContent_of_lt hlength
      rw [AdjustForkProcessGroup]
      dsimp only
      rw [hcontent, strtokAll_procsText (forall₂_isLine hlines) htext, Option.map_some,
        flatMap_adjustFork hlines]

/-- The text the kernel writes for the processes. -/
def procsText (pids : List Nat) : List Char :=
  (pids.map (Nat.toDigits 10)).flatMap (· ++ ['\n'])

theorem procsText_spec {pids : List Nat} (h : ∀ pid ∈ pids, 0 < pid ∧ pid < 2147483648) :
    ProcsText (procsText pids) (pids.map fun pid : Nat => (pid : Int)) := by
  refine ⟨pids.map (Nat.toDigits 10), ?_, .inl rfl⟩
  rw [List.forall₂_map_left_iff, List.forall₂_map_right_iff, List.forall₂_same]
  intro pid hpid
  obtain ⟨hpositive, hfits⟩ := h pid hpid
  refine ⟨Nat.toDigits_ne_nil, ?_, ?_, by omega, by omega⟩
  · exact fun c hc => Nat.isDigit_of_mem_toDigits (by decide) (by decide) hc
  · rw [Nat.ofDigitChars_ten_toDigits]

theorem length_le_procsText (pids : List Nat) : pids.length ≤ (procsText pids).length := by
  induction pids with
  | nil => exact Nat.zero_le _
  | cons pid pids ih =>
      rw [procsText, List.map_cons, List.flatMap_cons, ← procsText]
      simp only [List.length_cons, List.length_append, List.length_nil]
      omega

theorem threeProcesses_followed :
    AdjustForkProcessGroup (.content (procsText [3000, 3001, 3002])) 3000
      (ProcessRecord.new 0) = some [(3001, .SP_UPPER_LIMIT), (3002, .SP_UPPER_LIMIT)] := by
  have htext := procsText_spec (by decide : ∀ pid ∈ [3000, 3001, 3002], 0 < pid ∧ pid < 2147483648)
  exact (forks_followed_iff htext 3000 (ProcessRecord.new 0)).2.2.mpr (by decide)

/-- The processes 1 to 4096. -/
theorem manyProcesses_overrun :
    ¬ ∀ text pids pid record, ProcsText text pids →
      AdjustForkProcessGroup (.content text) pid record = some (forkedMoves pids pid record) := by
  intro h
  have htext := @procsText_spec (List.range' 1 4096) (by
    intro pid hpid
    rw [List.mem_range'_1] at hpid
    omega)
  have hlength := length_le_procsText (List.range' 1 4096)
  rw [List.length_range'] at hlength
  have hmoves := h _ _ 1 (ProcessRecord.new 0) htext
  rw [adjust_of_full htext hlength] at hmoves
  cases hmoves

end ResSched.Cgroup
