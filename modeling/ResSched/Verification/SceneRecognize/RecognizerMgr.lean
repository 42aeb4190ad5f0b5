import ResSched.Library.Channel
import ResSched.Model.SceneRecognize.RecognizerMgr

/-! # What the scene recognizers are handed -/

namespace ResSched.SceneRecognize

open Transition
open Plugin (External ResData dispatchedType)

/-! ## The specification -/

/-- The events among the tasks that are for one recognizer. -/
def eventsFor (recognizer : RecognizeType) (tasks : List RecognizeTask) : List ResData :=
  tasks.filterMap fun task =>
    match task with
    | .OnDispatchResource other resData => if other = recognizer then some resData else none
    | .submitted _ => none

/-- A reported event is for the recognizers that accept its type, as the plugins see it. -/
def reported (env : External) (recognizer : RecognizeType) (mgr : SchedMgr) :
    SchedMgr.Event → List ResData
  | .ReportDataInner resData =>
      if (dispatched env mgr.fw.mgr resData).resType ∈ recognizer.acceptRes_ then
        [dispatched env mgr.fw.mgr resData]
      else []
  | _ => []

/-! ## A report -/

def SchedMgr.view (recognizer : RecognizeType) (mgr : SchedMgr) : List ResData × List ResData :=
  (eventsFor recognizer mgr.started, eventsFor recognizer mgr.ffrtQueue_)

end ResSched.SceneRecognize
