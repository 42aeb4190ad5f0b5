import ResSched.Library.GreedyRuns
import ResSched.Library.Transition
import ResSched.Model.Common.BatchLogPrinter

/-! # Batches of recorded logs -/

namespace ResSched.BatchLogPrinter

open GreedyRuns Transition

/-! ## The specification -/

def joined (logs : List Text) : Text :=
  ['|'].intercalate logs

/-- The batches hold the logs in order, one or more each, within the bound unless a batch is one
log. -/
structure Batched (logs batches : List Text) : Prop where
  nonempty : ∀ batch ∈ batches, batch ≠ []
  complete : joined batches = joined logs
  bounded : ∃ parts : List (List Text), parts.flatten = logs ∧ batches = parts.map joined ∧
    ∀ part ∈ parts, (joined part).length ≤ BATCH_SIZE ∨ ∃ item, part = [item]

/-- A log goes with those before it when their length and its own, without the separator in
front of it, are within the bound. -/
def fits (logs : List Text) (item : Text) : Bool :=
  (joined logs).length + item.length ≤ BATCH_SIZE

/-- The first log is not longer than a batch, and no log takes exactly the room that the logs it
goes with leave. -/
structure NoneSpills (logs : List Text) : Prop where
  first : ∀ first ∈ logs.head?, first.length ≤ BATCH_SIZE
  room : ∀ run ∈ runs fits logs, 2 ≤ run.length → (joined run).length ≠ BATCH_SIZE + 1

/-- A log with its time stamp. -/
structure Entry where
  log : Text
  timestamp : Int

def recorded (entries : List Entry) : List Text :=
  entries.map fun entry => recordLog entry.log entry.timestamp

/-! ## One log -/

theorem recordLog_ne_nil (log : Text) (timestamp : Int) : recordLog log timestamp ≠ [] :=
  List.append_ne_nil_of_right_ne_nil _ (List.cons_ne_nil ':' log)

theorem ne_nil_of_mem_recorded {entries : List Entry} {item : Text}
    (h : item ∈ recorded entries) : item ≠ [] := by
  obtain ⟨entry, -, rfl⟩ := List.mem_map.mp h
  exact recordLog_ne_nil entry.log entry.timestamp

@[simp] theorem joined_singleton (item : Text) : joined [item] = item :=
  List.intercalate_singleton

theorem joined_concat {run : List Text} (hrun : run ≠ []) (item : Text) :
    joined (run ++ [item]) = joined run ++ '|' :: item :=
  intercalate_concat ['|'] hrun item

/-- A log joins the waiting ones or takes their place. -/
theorem add_eq {run : List Text} (hrun : run ≠ []) (hwaiting : joined run ≠ [])
    (batchLogs : List Text) (item : Text) :
    Batching.add ⟨joined run, batchLogs⟩ item =
      if fits run item then ⟨joined (run ++ [item]), batchLogs⟩
      else ⟨joined [item], batchLogs ++ [joined run]⟩ := by
  have hlength : (joined run).length ≠ 0 := fun h => hwaiting (List.length_eq_zero_iff.mp h)
  rw [Batching.add]
  by_cases hfits : fits run item = true
  · have hle : ¬ (joined run).length + item.length > BATCH_SIZE :=
      Nat.not_lt.mpr (of_decide_eq_true hfits)
    rw [if_pos hfits, joined_concat hrun]
    simp only [if_neg hle, if_pos hlength, List.append_assoc, List.singleton_append]
  · have hgt : (joined run).length + item.length > BATCH_SIZE :=
      Nat.not_le.mp fun h => hfits (decide_eq_true h)
    rw [if_neg hfits, joined_singleton]
    simp only [if_pos hgt]
    rfl

/-! ## All logs -/

/-- The batches are those of the runs. -/
theorem foldl_add {run : List Text} (hrun : run ≠ []) (hitems : ∀ item ∈ run, item ≠ [])
    (batchLogs logs : List Text) (hlogs : ∀ item ∈ logs, item ≠ []) :
    (logs.foldl Batching.add ⟨joined run, batchLogs⟩).batch ≠ [] ∧
      (logs.foldl Batching.add ⟨joined run, batchLogs⟩).batchLogs ++
          [(logs.foldl Batching.add ⟨joined run, batchLogs⟩).batch] =
        batchLogs ++ (runsFrom fits run logs).map joined := by
  induction logs generalizing run batchLogs with
  | nil => exact ⟨intercalate_ne_nil _ hrun hitems, rfl⟩
  | cons item logs ih =>
      rw [List.forall_mem_cons] at hlogs
      rw [List.foldl_cons, add_eq hrun (intercalate_ne_nil _ hrun hitems), runsFrom]
      split_ifs
      · refine ih (by simp) ?_ batchLogs hlogs.2
        rw [List.forall_mem_append, List.forall_mem_singleton]
        exact ⟨hitems, hlogs.1⟩
      · have hrest := ih (List.cons_ne_nil item []) (by simpa using hlogs.1)
          (batchLogs ++ [joined run]) hlogs.2
        rwa [List.append_assoc batchLogs [joined run], List.singleton_append, ← List.map_cons]
          at hrest

/-- A first log that is too long leaves an empty batch before it. -/
theorem GetBatch_eq (printer : Printer) (hitems : ∀ item ∈ printer.allLogs, item ≠ []) :
    (GetBatch printer []).1 =
      (if ∃ first ∈ printer.allLogs.head?, BATCH_SIZE < first.length then [[]] else []) ++
        (runs fits printer.allLogs).map joined := by
  obtain ⟨allLogs, lastPrintTimestamp⟩ := printer
  cases allLogs with
  | nil => rfl
  | cons first logs =>
      rw [List.forall_mem_cons] at hitems
      have hfirst : Batching.add ⟨[], []⟩ first =
          ⟨joined [first], if BATCH_SIZE < first.length then [[]] else []⟩ := by
        rw [joined_singleton, Batching.add]
        by_cases hlong : BATCH_SIZE < first.length
        · simp [hlong]
        · simp [hlong]
      obtain ⟨hne, hall⟩ := foldl_add (List.cons_ne_nil first []) (by simpa using hitems.1)
        (if BATCH_SIZE < first.length then [[]] else []) logs hitems.2
      rw [GetBatch]
      dsimp only
      rw [List.foldl_cons, hfirst, if_pos hne, hall]
      simp [runs]

theorem runs_items {entries : List Entry} {run : List Text}
    (hrun : run ∈ runs fits (recorded entries)) : ∀ item ∈ run, item ≠ [] := by
  intro item hitem
  apply @ne_nil_of_mem_recorded entries
  rw [← flatten_runs fits (recorded entries)]
  exact List.mem_flatten_of_mem hrun hitem

/-- Only its last separator takes a run beyond the bound. -/
theorem length_of_mem_runs {logs run : List Text} (hrun : run ∈ runs fits logs) :
    (joined run).length ≤ BATCH_SIZE + 1 ∨ ∃ item, run = [item] := by
  have hall := forall_mem_runs fits
    (P := fun run => run ≠ [] ∧ ((joined run).length ≤ BATCH_SIZE + 1 ∨ ∃ item, run = [item]))
    (fun item => ⟨List.cons_ne_nil item [], Or.inr ⟨item, rfl⟩⟩) ?_ logs
  · exact (hall run hrun).2
  · rintro run item ⟨hne, -⟩ hfits
    have hle : (joined run).length + item.length ≤ BATCH_SIZE := of_decide_eq_true hfits
    refine ⟨by simp, Or.inl ?_⟩
    rw [joined_concat hne, List.length_append, List.length_cons]
    omega

/-! ## When the batches are right -/

theorem batched_of_noneSpills (entries : List Entry) (lastPrintTimestamp : Int)
    (h : NoneSpills (recorded entries)) :
    Batched (recorded entries) (GetBatch ⟨recorded entries, lastPrintTimestamp⟩ []).1 := by
  have hshort : ¬ ∃ first ∈ (recorded entries).head?, BATCH_SIZE < first.length := by
    rintro ⟨first, hfirst, hlong⟩
    exact absurd (h.first first hfirst) (Nat.not_le.mpr hlong)
  have hbatches := GetBatch_eq ⟨recorded entries, lastPrintTimestamp⟩
    fun item => ne_nil_of_mem_recorded
  rw [if_neg hshort, List.nil_append] at hbatches
  rw [hbatches]
  refine ⟨?_, ?_, runs fits (recorded entries), flatten_runs fits _, rfl, ?_⟩
  · intro batch hbatch
    obtain ⟨run, hrun, rfl⟩ := List.mem_map.mp hbatch
    exact intercalate_ne_nil _ (ne_nil_of_mem_runs fits hrun) (runs_items hrun)
  · have hjoined := intercalate_map_intercalate ['|'] (runs fits (recorded entries))
      fun run hrun => ne_nil_of_mem_runs fits hrun
    rwa [flatten_runs] at hjoined
  · intro run hrun
    rcases length_of_mem_runs hrun with hle | hsingle
    · by_cases htwo : 2 ≤ run.length
      · have hroom := h.room run hrun htwo
        exact Or.inl (by omega)
      · have hpos := List.length_pos_iff.mpr (ne_nil_of_mem_runs fits hrun)
        exact Or.inr (List.length_eq_one_iff.mp (by omega))
    · exact Or.inr hsingle

theorem noneSpills_of_batched (entries : List Entry) (lastPrintTimestamp : Int)
    (h : Batched (recorded entries) (GetBatch ⟨recorded entries, lastPrintTimestamp⟩ []).1) :
    NoneSpills (recorded entries) := by
  have hbatches := GetBatch_eq ⟨recorded entries, lastPrintTimestamp⟩
    fun item => ne_nil_of_mem_recorded
  have hshort : ¬ ∃ first ∈ (recorded entries).head?, BATCH_SIZE < first.length := by
    intro hlong
    rw [if_pos hlong] at hbatches
    exact h.nonempty [] (hbatches ▸ List.mem_cons_self) rfl
  rw [if_neg hshort, List.nil_append] at hbatches
  refine ⟨?_, ?_⟩
  · intro first hfirst
    exact Nat.not_lt.mp fun hlong => hshort ⟨first, hfirst, hlong⟩
  · intro run hrun htwo
    obtain ⟨parts, hflatten, hparts, hbound⟩ := h.bounded
    -- The parts of the division are the runs: both are joined to the same batches.
    have hsame : runs fits (recorded entries) = parts := by
      refine parts_unique (List.cons_ne_nil '|' []) ?_ ?_ (hbatches.symm.trans hparts)
      · rw [flatten_runs]
        exact fun item => ne_nil_of_mem_recorded
      · rw [flatten_runs, hflatten]
    rcases hbound run (hsame ▸ hrun) with hle | ⟨item, rfl⟩
    · omega
    · exact absurd htwo (by simp)

/-- The recorded logs are batched, and none is left, exactly when none spills. -/
theorem getBatch_batched_iff (entries : List Entry) (lastPrintTimestamp : Int) :
    Batched (recorded entries) (GetBatch ⟨recorded entries, lastPrintTimestamp⟩ []).1 ∧
        (GetBatch ⟨recorded entries, lastPrintTimestamp⟩ []).2.allLogs = [] ↔
      NoneSpills (recorded entries) := by
  constructor
  · exact fun h => noneSpills_of_batched entries lastPrintTimestamp h.1
  · exact fun h => ⟨batched_of_noneSpills entries lastPrintTimestamp h, rfl⟩

theorem length_recordLog_zero (log : Text) : (recordLog log 0).length = log.length + 2 := by
  have hzero : (toString (0 : Int)).toList = ['0'] := by decide
  rw [recordLog, hzero]
  rfl

def longLog : Entry :=
  ⟨List.replicate 3000 'a', 0⟩

def halfLog : Entry :=
  ⟨List.replicate 1498 'a', 0⟩

/-- A log that is too long comes first; two logs of 1500 characters with their time stamps. -/
theorem longFirst_and_exactRoom_spill :
    ¬ Batched (recorded [longLog]) (GetBatch ⟨recorded [longLog], 0⟩ []).1 ∧
      ¬ Batched (recorded [halfLog, halfLog])
        (GetBatch ⟨recorded [halfLog, halfLog], 0⟩ []).1 := by
  have hbound : BATCH_SIZE = 3000 := rfl
  have hhalf : (recordLog halfLog.log halfLog.timestamp).length = 1500 := by
    rw [halfLog, length_recordLog_zero, List.length_replicate]
  refine ⟨?_, ?_⟩
  · intro h
    have hfirst := (noneSpills_of_batched _ 0 h).first _ rfl
    rw [longLog, length_recordLog_zero, List.length_replicate] at hfirst
    omega
  · intro h
    have hfits : fits [recordLog halfLog.log halfLog.timestamp]
        (recordLog halfLog.log halfLog.timestamp) = true := by
      rw [fits, joined_singleton, hhalf]
      rfl
    have hruns : runs fits (recorded [halfLog, halfLog]) = [recorded [halfLog, halfLog]] := by
      rw [recorded, List.map_cons, List.map_singleton, runs, runsFrom, if_pos hfits]
      rfl
    refine (noneSpills_of_batched _ 0 h).room _ (hruns ▸ List.mem_cons_self) (le_refl 2) ?_
    rw [recorded, List.map_cons, List.map_singleton, joined, List.intercalate_cons_cons,
      List.intercalate_singleton, List.length_append, List.length_append, hhalf]
    rfl

/-! ## Runs of the printer -/

/-- A log that comes in, and the time when it is recorded. -/
structure Call where
  entry : Entry
  currentTimestamp : Int

/-- A printer with all batches it has printed. -/
structure Printing where
  printer : Printer
  printed : List Text

def Printing.record (printing : Printing) (call : Call) : Printing :=
  let (batchLogs, printer) :=
    RecordLog printing.printer call.entry.log call.entry.timestamp call.currentTimestamp
  ⟨printer, printing.printed ++ batchLogs⟩

/-- Each log has been printed or waits, in the order in which they came in. -/
structure Keeps (entries : List Entry) (printing : Printing) : Prop where
  printed : ∃ parts : List (List Text),
    printing.printed.filter (fun batch => batch ≠ []) = parts.map joined ∧
      parts.flatten ++ printing.printer.allLogs = recorded entries
  waiting : printing.printer.allLogs.length < PRINT_SIZE

theorem filter_GetBatch (printer : Printer) (hitems : ∀ item ∈ printer.allLogs, item ≠ []) :
    (GetBatch printer []).1.filter (fun batch => batch ≠ []) =
      (runs fits printer.allLogs).map joined := by
  have hruns : ((runs fits printer.allLogs).map joined).filter (fun batch => batch ≠ []) =
      (runs fits printer.allLogs).map joined := by
    rw [List.filter_eq_self]
    intro batch hbatch
    obtain ⟨run, hrun, rfl⟩ := List.mem_map.mp hbatch
    rw [decide_eq_true_iff]
    refine intercalate_ne_nil _ (ne_nil_of_mem_runs fits hrun) fun item hitem => hitems item ?_
    rw [← flatten_runs fits printer.allLogs]
    exact List.mem_flatten_of_mem hrun hitem
  rw [GetBatch_eq printer hitems, List.filter_append, hruns]
  split_ifs <;> simp

theorem keeps_record {entries : List Entry} {printing : Printing} (h : Keeps entries printing)
    (call : Call) : Keeps (entries ++ [call.entry]) (printing.record call) := by
  obtain ⟨⟨parts, hprinted, hkept⟩, hwaiting⟩ := h
  have hentries : recorded (entries ++ [call.entry]) =
      recorded entries ++ [recordLog call.entry.log call.entry.timestamp] :=
    List.map_append
  have hnone : 0 < PRINT_SIZE := by decide
  rw [Printing.record, RecordLog]
  split_ifs with hfull
  · refine ⟨⟨parts ++ runs fits (printing.printer.allLogs ++
      [recordLog call.entry.log call.entry.timestamp]), ?_, ?_⟩, hnone⟩
    · rw [List.filter_append, hprinted, List.map_append]
      congr 1
      refine filter_GetBatch ⟨_, printing.printer.lastPrintTimestamp⟩ fun item hitem => ?_
      refine @ne_nil_of_mem_recorded (entries ++ [call.entry]) _ ?_
      rw [hentries, ← hkept, List.append_assoc]
      exact List.mem_append_right _ hitem
    · dsimp only [GetBatch]
      rw [List.flatten_append, flatten_runs, List.append_nil, hentries, ← hkept,
        List.append_assoc]
  · refine ⟨⟨parts, ?_, ?_⟩, ?_⟩
    · dsimp only
      rw [List.append_nil, hprinted]
    · rw [hentries, ← hkept, List.append_assoc]
    · exact Nat.not_le.mp fun hle => hfull (Or.inl hle)

/-- Whatever is recorded and whenever, every log is printed in its turn or waits. -/
theorem run_keeps (lastPrintTimestamp : Int) (calls : List Call) :
    Keeps (calls.map Call.entry) (run Printing.record ⟨⟨[], lastPrintTimestamp⟩, []⟩ calls) := by
  induction calls using List.reverseRecOn with
  | nil => exact ⟨⟨[], rfl, rfl⟩, Nat.zero_lt_succ 63⟩
  | append_singleton calls call ih =>
      rw [run_concat, List.map_append]
      exact keeps_record ih call

end ResSched.BatchLogPrinter
