import ResSched.Library.AssocMap

/-! # The recognizer of continuous installs -/

namespace ResSched.SceneRecognize.ContinuousInstall

def RES_TYPE_APP_INSTALL_UNINSTALL : Nat := 15
def APP_INSTALL_END : Int := 1
def APP_CHANGED : Int := 2
def APP_INSTALL_START : Int := 6

/-- What the recognizer reports as `RES_TYPE_CONTINUOUS_INSTALL`. -/
inductive ContinuousInstallStatus where
  | START_CONTINUOUS_INSTALL
  | STOP_CONTINUOUS_INSTALL
deriving DecidableEq

/-- How far an exit task has come: its delay elapses, it reports, it stores. -/
inductive ExitStage where
  | waiting
  | begun
  | reported
deriving DecidableEq

/-- Where the queue is in an `OnDispatchResource` that found no continuous install. -/
inductive HandlerStage where
  | idle
  | reporting
  | storing
deriving DecidableEq

/-- The recognizer with the exit tasks that have been submitted and are neither skipped nor done,
by their handles, and the reports made so far. -/
structure ContinuousAppInstallRecognizer where
  exitAppInstall_ : Option Nat
  isInContinuousInstall_ : Bool
  stage : HandlerStage
  tasks : AssocMap Nat ExitStage
  submitted : Nat
  reports : List ContinuousInstallStatus

namespace ContinuousAppInstallRecognizer

def start : ContinuousAppInstallRecognizer :=
  ⟨none, false, .idle, ∅, 0, []⟩

/-- `ffrt::skip` on the last exit task, which only stops one that has not begun. -/
def skipExit (recognizer : ContinuousAppInstallRecognizer) : ContinuousAppInstallRecognizer :=
  match recognizer.exitAppInstall_ with
  | none => recognizer
  | some handle =>
      if recognizer.tasks.lookup handle = some .waiting then
        { recognizer with tasks := recognizer.tasks.erase handle }
      else recognizer

/-- The handling of an event up to a report. -/
def OnDispatchResource (recognizer : ContinuousAppInstallRecognizer) (resType : Nat)
    (value : Int) : ContinuousAppInstallRecognizer :=
  if resType ≠ RES_TYPE_APP_INSTALL_UNINSTALL then recognizer
  else if value = APP_INSTALL_START then
    if recognizer.isInContinuousInstall_ then recognizer.skipExit
    else { recognizer.skipExit with stage := .reporting }
  else if value = APP_INSTALL_END ∨ value = APP_CHANGED then
    { recognizer.skipExit with
      exitAppInstall_ := some recognizer.submitted
      tasks := recognizer.skipExit.tasks.insert recognizer.submitted .waiting
      submitted := recognizer.submitted + 1 }
  else recognizer

/-- The queue goes on with the event it handles. -/
def proceed (recognizer : ContinuousAppInstallRecognizer) : ContinuousAppInstallRecognizer :=
  match recognizer.stage with
  | .idle => recognizer
  | .reporting =>
      { recognizer with
        stage := .storing
        reports := recognizer.reports ++ [.START_CONTINUOUS_INSTALL] }
  | .storing => { recognizer with stage := .idle, isInContinuousInstall_ := true }

/-- An exit task does what comes next. -/
def exitTask (recognizer : ContinuousAppInstallRecognizer) (handle : Nat) :
    ContinuousAppInstallRecognizer :=
  match recognizer.tasks.lookup handle with
  | none => recognizer
  | some .waiting => { recognizer with tasks := recognizer.tasks.insert handle .begun }
  | some .begun =>
      { recognizer with
        tasks := recognizer.tasks.insert handle .reported
        reports := recognizer.reports ++ [.STOP_CONTINUOUS_INSTALL] }
  | some .reported =>
      { recognizer with
        tasks := recognizer.tasks.erase handle
        isInContinuousInstall_ := false }

end ContinuousAppInstallRecognizer

/-- What happens next: the queue, which is serial, takes an event or goes on with it; an exit task,
which runs beside the queue, goes on. -/
inductive InstallEvent where
  | OnDispatchResource (resType : Nat) (value : Int)
  | proceed
  | exitTask (handle : Nat)

def ContinuousAppInstallRecognizer.step (recognizer : ContinuousAppInstallRecognizer) :
    InstallEvent → ContinuousAppInstallRecognizer
  | .OnDispatchResource resType value =>
      if recognizer.stage = .idle then recognizer.OnDispatchResource resType value
      else recognizer
  | .proceed => recognizer.proceed
  | .exitTask handle => recognizer.exitTask handle

end ResSched.SceneRecognize.ContinuousInstall
