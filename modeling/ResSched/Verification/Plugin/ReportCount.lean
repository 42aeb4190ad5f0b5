import Mathlib.Algebra.Group.Nat.Defs
import ResSched.Model.Plugin.ReportCount

/-! # Logged counts and hot events -/

namespace ResSched.Plugin.ReportCounts

open Transition Tally

/-! ## The specification -/

/-- The reports in the batches an interval cuts them into, the last report of each included. -/
def batchesOf (interval last : Int) (reports : List Report) : List (List Report) :=
  (cut Report.currTime interval last [] reports).1.map fun batch => batch.1 ++ [batch.2]

/-- The reports after the last batch. -/
def openedOf (interval last : Int) (reports : List Report) : List Report :=
  (cut Report.currTime interval last [] reports).2

/-- How often a type is reported in a batch, in 32 bits. -/
def countIn (batch : List Report) (resType : Nat) : Nat :=
  (batch.map Report.resType).count resType % 2 ^ 32

/-- The types of a batch, each once, in ascending order. -/
def typesOf (batch : List Report) : List Nat :=
  (batch.map Report.resType).dedup.insertionSort (· ≤ ·)

/-- The line logged for a batch: every type reported in it, with its count. -/
def logLine (batch : List Report) : String :=
  (typesOf batch).foldl
    (fun str resType =>
      str ++ toString resType ++ ":" ++ toString (countIn batch resType) ++ ",") ""

theorem increment_mod (n : Nat) : increment (n % 2 ^ 32) = (n + 1) % 2 ^ 32 := by
  unfold increment CLibrary.toUnsigned
  simp only [Nat.pow_eq]
  omega

theorem lookup_countsOf (batch : List Report) (resType : Nat) :
    (tallyOf increment (batch.map Report.resType)).lookup resType =
      if resType ∈ batch.map Report.resType then some (countIn batch resType) else none :=
  lookup_tallyOf (· % 2 ^ 32) rfl increment_mod _ resType

theorem mem_typesOf (batch : List Report) (resType : Nat) :
    resType ∈ typesOf batch ↔ resType ∈ batch.map Report.resType := by
  rw [typesOf, List.mem_insertionSort, List.mem_dedup]

/-! ## The log -/

theorem reportStr_tallyOf (batch : List Report) :
    reportStr (tallyOf increment (batch.map Report.resType)) = logLine batch := by
  rw [reportStr, logLine, ascendingKeys_tallyOf]
  refine List.foldl_ext _ _ _ ?_
  intro str resType hmem
  rw [lookup_countsOf, if_pos ((mem_typesOf batch resType).mp hmem), Option.getD_some]

theorem logReportCount_UpdateReportCount (counting : CountSort) (counts : ReportCounts)
    (report : Report) :
    (counts.UpdateReportCount counting report).logReportCount_ =
        (counts.UpdateLogReportCount report.resType report.currTime).logReportCount_ ∧
      (counts.UpdateReportCount counting report).lastLogReportCountTime_ =
        (counts.UpdateLogReportCount report.resType report.currTime).lastLogReportCountTime_ ∧
      (counts.UpdateReportCount counting report).logs =
        (counts.UpdateLogReportCount report.resType report.currTime).logs := by
  unfold UpdateReportCount
  dsimp only
  split_ifs <;> exact ⟨rfl, rfl, rfl⟩

/-- What a report adds to the log. -/
def logged (counts : ReportCounts) (report : Report) : List String :=
  if report.currTime - counts.lastLogReportCountTime_ < LOG_INTERVAL_TIME then []
  else [reportStr (record increment counts.logReportCount_ report.resType)]

/-- The log as a publication of counts. -/
def logReporter (counting : CountSort) :
    Reporter (UpdateReportCount counting) Nat String where
  counts counts := counts.logReportCount_
  last counts := counts.lastLogReportCountTime_
  key := Report.resType
  now := Report.currTime
  written := logged
  next := increment
  interval := LOG_INTERVAL_TIME
  render _ := reportStr
  waits := by
    intro counts report hwait
    obtain ⟨hcounts, hlast, -⟩ := logReportCount_UpdateReportCount counting counts report
    rw [hcounts, hlast, UpdateLogReportCount, logged]
    simp only [if_pos hwait]
    exact ⟨trivial, trivial, trivial⟩
  publishes := by
    intro counts report hwait
    obtain ⟨hcounts, hlast, -⟩ := logReportCount_UpdateReportCount counting counts report
    rw [hcounts, hlast, UpdateLogReportCount, logged]
    simp only [if_neg hwait]
    exact ⟨trivial, trivial, trivial⟩

theorem logs_step (counting : CountSort) (counts : ReportCounts) (report : Report) :
    (counts.UpdateReportCount counting report).logs = counts.logs ++ logged counts report := by
  rw [(logReportCount_UpdateReportCount counting counts report).2.2, UpdateLogReportCount, logged]
  split_ifs
  · simp
  · rfl

/-- Every report is in one batch or after the last one. Each line of the log tells, for every type
reported in its batch, how often it was; the counts held are those of the reports after it. -/
theorem logs_run (counting : CountSort) (now : Int) (reports : List Report) :
    (batchesOf LOG_INTERVAL_TIME 0 reports).flatten ++ openedOf LOG_INTERVAL_TIME 0 reports =
      reports ∧
    (run (UpdateReportCount counting) (init now) reports).logs =
      (batchesOf LOG_INTERVAL_TIME 0 reports).map logLine ∧
    ∀ resType,
      (run (UpdateReportCount counting) (init now) reports).logReportCount_.lookup resType =
        if resType ∈ (openedOf LOG_INTERVAL_TIME 0 reports).map Report.resType then
          some (countIn (openedOf LOG_INTERVAL_TIME 0 reports) resType)
        else none := by
  have hlog := log_run_eq ReportCounts.logs
    (fun counts report => logs_step counting counts report) (init now) reports
  obtain ⟨houtputs, hheld⟩ := (logReporter counting).outputs_eq reports (init now) [] rfl
  refine ⟨?_, ?_, ?_⟩
  · have hflatten := flatten_cut Report.currTime LOG_INTERVAL_TIME reports 0 []
    rwa [List.flatMap_def] at hflatten
  · rw [hlog]
    refine houtputs.trans ?_
    rw [batchesOf, List.map_map]
    refine List.map_congr_left fun batch _ => ?_
    exact reportStr_tallyOf _
  · intro resType
    rw [← lookup_countsOf]
    exact congrArg (AList.lookup resType) hheld

/-! ## Hot events -/

end ResSched.Plugin.ReportCounts
