import Mathlib.Data.List.Basic

/-! # Printing recorded logs in batches -/

namespace ResSched.BatchLogPrinter

def PRINT_SIZE : Nat := 64
def BATCH_SIZE : Nat := 3000
def PRINT_DURATION : Int := 10000

/-- A string, byte by byte. -/
abbrev Text := List Char

structure Printer where
  allLogs : List Text
  lastPrintTimestamp : Int

/-- The variables of the loop of `GetBatch`. -/
structure Batching where
  batch : Text
  batchLogs : List Text

def Batching.add (batching : Batching) (item : Text) : Batching :=
  let batching :=
    if batching.batch.length + item.length > BATCH_SIZE then
      ⟨[], batching.batchLogs ++ [batching.batch]⟩
    else batching
  let batch := if batching.batch.length ≠ 0 then batching.batch ++ ['|'] else batching.batch
  { batching with batch := batch ++ item }

/-- The batches, and the printer without logs. -/
def GetBatch (printer : Printer) (batchLogs : List Text) : List Text × Printer :=
  let batching := printer.allLogs.foldl Batching.add ⟨[], batchLogs⟩
  (if batching.batch ≠ [] then batching.batchLogs ++ [batching.batch] else batching.batchLogs,
    { printer with allLogs := [] })

/-- `std::to_string(timestamp) + ":" + log`. -/
def recordLog (log : Text) (timestamp : Int) : Text :=
  (toString timestamp).toList ++ ':' :: log

/-- The batches that are printed, and the printer after a log has been recorded. -/
def RecordLog (printer : Printer) (log : Text) (timestamp currentTimestamp : Int) :
    List Text × Printer :=
  let printer := { printer with allLogs := printer.allLogs ++ [recordLog log timestamp] }
  if printer.allLogs.length ≥ PRINT_SIZE ∨
      currentTimestamp - printer.lastPrintTimestamp ≥ PRINT_DURATION then
    let (batchLogs, printer) := GetBatch printer []
    (batchLogs, { printer with lastPrintTimestamp := currentTimestamp })
  else ([], printer)

end ResSched.BatchLogPrinter
