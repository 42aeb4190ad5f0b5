import ResSched.Library.CLibrary
import ResSched.Library.Tally

/-! # How often each resource type is reported -/

namespace ResSched.Plugin

def HOT_EVENT_TOPN : Nat := 10
def ONE_DAY_MILLS : Int := 24 * 60 * 60 * 1000
def LOG_INTERVAL_TIME : Int := 10 * 60 * 1000

/-- What `std::sort` may do with the pairs of a type and its count, greatest count first. -/
structure CountSort where
  sort : List (Nat × Nat) → List (Nat × Nat)
  perm : ∀ pairs, (sort pairs).Perm pairs
  sorted : ∀ pairs, (sort pairs).Pairwise fun a b => b.2 ≤ a.2

/-- The parameters of the `HOT_EVENT` written to the system events. -/
structure HotEvent where
  RES_TYPE : List String
  COUNT : List Nat
deriving DecidableEq

/-- The counts of `PluginMgr`, with what has been logged and written so far. -/
structure ReportCounts where
  reportCount_ : AssocMap Nat Nat
  lastReportCountTime_ : Int
  logReportCount_ : AssocMap Nat Nat
  lastLogReportCountTime_ : Int
  logs : List String
  hotEvents : List HotEvent

/-- A report, the time of the steady clock and the names of the types. -/
structure Report where
  resType : Nat
  currTime : Int
  resTypeStrMap_ : AssocMap Nat String

namespace ReportCounts

/-- The counts once `PluginMgr::Init` has read the clock. -/
def init (now : Int) : ReportCounts where
  reportCount_ := ∅
  lastReportCountTime_ := now
  logReportCount_ := ∅
  lastLogReportCountTime_ := 0
  logs := []
  hotEvents := []

/-- `uint32_t` counts. -/
def increment (count : Nat) : Nat :=
  CLibrary.toUnsigned 32 (count + 1)

def GetStrFromResTypeStrMap (resTypeStrMap_ : AssocMap Nat String) (resType : Nat) : String :=
  (resTypeStrMap_.lookup resType).getD (toString resType)

def reportStr (counts : AssocMap Nat Nat) : String :=
  counts.ascendingKeys.foldl
    (fun str resType =>
      str ++ toString resType ++ ":" ++ toString ((counts.lookup resType).getD 0) ++ ",") ""

def UpdateLogReportCount (counts : ReportCounts) (resType : Nat) (currTime : Int) :
    ReportCounts :=
  let logReportCount := Tally.record increment counts.logReportCount_ resType
  if currTime - counts.lastLogReportCountTime_ < LOG_INTERVAL_TIME then
    { counts with logReportCount_ := logReportCount }
  else
    { counts with
      logs := counts.logs ++ [reportStr logReportCount]
      lastLogReportCountTime_ := currTime
      logReportCount_ := ∅ }

/-- The `HOT_EVENT` of the counts. -/
def hotEvent (counting : CountSort) (resTypeStrMap_ : AssocMap Nat String)
    (counts : AssocMap Nat Nat) : HotEvent :=
  let vec := counting.sort (counts.entries.map fun entry => (entry.1, entry.2))
  { RES_TYPE := (vec.take HOT_EVENT_TOPN).map fun pair =>
      GetStrFromResTypeStrMap resTypeStrMap_ pair.1
    COUNT := (vec.take HOT_EVENT_TOPN).map Prod.snd }

def UpdateReportCount (counting : CountSort) (counts : ReportCounts) (report : Report) :
    ReportCounts :=
  let reportCount := Tally.record increment counts.reportCount_ report.resType
  let counts := counts.UpdateLogReportCount report.resType report.currTime
  if report.currTime - counts.lastReportCountTime_ < ONE_DAY_MILLS then
    { counts with reportCount_ := reportCount }
  else
    { counts with
      hotEvents := counts.hotEvents ++ [hotEvent counting report.resTypeStrMap_ reportCount]
      lastReportCountTime_ := report.currTime
      reportCount_ := ∅ }

end ReportCounts

end ResSched.Plugin
