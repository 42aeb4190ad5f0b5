import Mathlib.Data.Finset.Card
import Mathlib.Data.Finset.Insert

/-! # Recognition of continuous start-ups -/

namespace ResSched.Startup

def CONTINUOUS_START_TIME_OUT : Int := 15 * 1000 * 1000
def MAX_NO_REPEAT_APP_COUNT : Nat := 4
def MAX_CONTINUOUS_START_NUM : Nat := 5

inductive ContinuousStartupStatus where
  | STOP_CONTINUOUS_STARTUP
  | START_CONTINUOUS_STARTUP
deriving DecidableEq

/-- The fields of `AppStartupSceneRec`, with the statuses it has reported. -/
structure AppStartupSceneRec where
  appStartCount : Int
  lastAppStartTime : Int
  isReportContinuousStartup : Bool
  startPkgs : List String
  startUidSet : Finset String
  exitContinuousStartupTask : Option Nat
  reports : List ContinuousStartupStatus

namespace AppStartupSceneRec

def created : AppStartupSceneRec where
  appStartCount := 0
  lastAppStartTime := 0
  isReportContinuousStartup := false
  startPkgs := []
  startUidSet := ∅
  exitContinuousStartupTask := none
  reports := []

def CleanRecordSceneData (scene : AppStartupSceneRec) : AppStartupSceneRec :=
  let scene := { scene with
    appStartCount := 0, startPkgs := [], startUidSet := ∅, exitContinuousStartupTask := none }
  if scene.isReportContinuousStartup then
    { scene with
      reports := scene.reports ++ [.STOP_CONTINUOUS_STARTUP], isReportContinuousStartup := false }
  else scene

def UpdateAppStartupNum (scene : AppStartupSceneRec) (uid : String) (curTime : Int)
    (bundleName : String) : AppStartupSceneRec :=
  let scene := { scene with
    lastAppStartTime := curTime, appStartCount := scene.appStartCount + 1 }
  if scene.isReportContinuousStartup then scene
  else
    { scene with
      startPkgs := scene.startPkgs ++ [bundleName], startUidSet := insert uid scene.startUidSet }

def IsContinuousStartup (scene : AppStartupSceneRec) : Bool :=
  scene.startPkgs.length ≥ MAX_CONTINUOUS_START_NUM ∧
    scene.startUidSet.card ≥ MAX_NO_REPEAT_APP_COUNT

/-- A start is counted, and the burst reported when it is a continuous start-up from here on. -/
def countStart (scene : AppStartupSceneRec) (uid bundleName : String) (curTime : Int) :
    AppStartupSceneRec :=
  let scene := scene.UpdateAppStartupNum uid curTime bundleName
  if scene.IsContinuousStartup ∧ scene.isReportContinuousStartup = false then
    { scene with
      reports := scene.reports ++ [.START_CONTINUOUS_STARTUP], isReportContinuousStartup := true }
  else scene

/-- What `RecordIsContinuousStartup` does between the cancellation of the exit task and the
submission of the next one. -/
def recordStart (scene : AppStartupSceneRec) (uid bundleName : String) (curTime : Int) :
    AppStartupSceneRec :=
  if curTime - scene.lastAppStartTime ≥ CONTINUOUS_START_TIME_OUT then
    scene.CleanRecordSceneData.countStart uid bundleName curTime
  else scene.countStart uid bundleName curTime

end AppStartupSceneRec

/-- The recogniser with the exit tasks in its queue and those that have begun and wait for the
lock. The tasks are numbered in the order of their submission. -/
structure System where
  scene : AppStartupSceneRec
  queued : List Nat
  begun : List Nat
  submitted : Nat

/-- A start is recorded with the time read before the lock was taken. -/
inductive Event where
  | RecordIsContinuousStartup (uid bundleName : String) (curTime : Int)
  | beginExit (task : Nat)
  | runExit (task : Nat)

namespace System

def start : System where
  scene := AppStartupSceneRec.created
  queued := []
  begun := []
  submitted := 0

/-- A task is cancelled only while it is in the queue. -/
def cancelExit (system : System) : System :=
  match system.scene.exitContinuousStartupTask with
  | none => system
  | some task =>
      { system with
        scene := { system.scene with exitContinuousStartupTask := none }
        queued := system.queued.erase task }

def RecordIsContinuousStartup (system : System) (uid bundleName : String) (curTime : Int) :
    System :=
  let system := system.cancelExit
  { scene := { system.scene.recordStart uid bundleName curTime with
      exitContinuousStartupTask := some system.submitted }
    queued := system.queued ++ [system.submitted]
    begun := system.begun
    submitted := system.submitted + 1 }

def handle (system : System) : Event → System
  | .RecordIsContinuousStartup uid bundleName curTime =>
      system.RecordIsContinuousStartup uid bundleName curTime
  | .beginExit task =>
      if task ∈ system.queued then
        { system with queued := system.queued.erase task, begun := system.begun ++ [task] }
      else system
  | .runExit task =>
      if task ∈ system.begun then
        { system with
          scene := system.scene.CleanRecordSceneData, begun := system.begun.erase task }
      else system

end System

end ResSched.Startup
