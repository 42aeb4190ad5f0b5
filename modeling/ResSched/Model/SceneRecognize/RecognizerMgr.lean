import ResSched.Model.Plugin.Dispatchers
import ResSched.Model.SceneRecognize.ContinuousInstall
import ResSched.Model.SceneRecognize.Overlap
import ResSched.Model.SceneRecognize.Slide

/-! # Events reported to the plugins and to the scene recognizers -/

namespace ResSched.SceneRecognize

open Plugin (External ResData dispatchedType)

def RES_TYPE_BOOT_COMPLETED : Nat := 94

inductive RecognizeType where
  | CONTINUOUS_APP_INSTALL_RECOGNIZER
  | SYSTEM_UPGRADE_SCENE_RECOGNIZER
  | BACKGROUND_SENSITIVE_TASK_OVERLAPPING_SCENE_RECOGNIZER
  | SLIDE_RECOGNIZER
deriving DecidableEq

def RecognizeType.acceptRes_ : RecognizeType → List Nat
  | .CONTINUOUS_APP_INSTALL_RECOGNIZER => [ContinuousInstall.RES_TYPE_APP_INSTALL_UNINSTALL]
  | .SYSTEM_UPGRADE_SCENE_RECOGNIZER => [RES_TYPE_BOOT_COMPLETED]
  | .BACKGROUND_SENSITIVE_TASK_OVERLAPPING_SCENE_RECOGNIZER =>
      [Overlap.RES_TYPE_APP_STATE_CHANGE, Overlap.RES_TYPE_CONTINUOUS_TASK,
        Overlap.RES_TYPE_REPORT_SCENE_BOARD]
  | .SLIDE_RECOGNIZER =>
      [Slide.RES_TYPE_SLIDE_RECOGNIZE, Slide.RES_TYPE_SEND_FRAME_EVENT,
        Slide.RES_TYPE_CLICK_RECOGNIZE, Slide.RES_TYPE_AXIS_EVENT]

def RecognizeType.Accept (recognizer : RecognizeType) (resType : Nat) : Bool :=
  resType ∈ recognizer.acceptRes_

/-- The order in which the loop over the `unordered_map` meets the recognizers. -/
structure SceneRecognizers where
  order : List RecognizeType
  nodup : order.Nodup
  complete : ∀ recognizer, recognizer ∈ order

/-- A task of the queue of the recognizers: the dispatch of an event to one of them, or a task that
one has submitted. -/
inductive RecognizeTask where
  | OnDispatchResource (recognizer : RecognizeType) (resData : ResData)
  | submitted (task : Nat)

/-- The plugin manager and the recognizer manager; `started` are the tasks its queue has started. -/
structure SchedMgr where
  fw : Plugin.Framework
  ffrtQueue_ : List RecognizeTask
  started : List RecognizeTask

inductive SchedMgr.Event where
  | framework (event : Plugin.Framework.Event)
  | ReportDataInner (resData : ResData)
  | SubmitTask (task : Nat)
  | RunTask

/-- One iteration of the loop of `SceneRecognizerMgr::DispatchResource`. -/
def SchedMgr.submitTo (resData : ResData) (mgr : SchedMgr) (recognizer : RecognizeType) :
    SchedMgr :=
  if !recognizer.Accept resData.resType then mgr
  else { mgr with ffrtQueue_ := mgr.ffrtQueue_ ++ [.OnDispatchResource recognizer resData] }

def SchedMgr.DispatchResource (recognizers : SceneRecognizers) (mgr : SchedMgr)
    (resData : ResData) : SchedMgr :=
  recognizers.order.foldl (submitTo resData) mgr

/-- The event object once `PluginMgr::DispatchResource` returns, which replaces its type unless it
returns early. -/
def dispatched (env : External) (mgr : Plugin.PluginMgr) (resData : ResData) : ResData :=
  if !mgr.isInit then resData
  else { resData with resType := dispatchedType env resData }

def SchedMgr.ReportDataInner (env : External) (recognizers : SceneRecognizers) (mgr : SchedMgr)
    (resData : ResData) : SchedMgr :=
  SchedMgr.DispatchResource recognizers
    { mgr with fw := mgr.fw.step env (.DispatchResource resData) }
    (dispatched env mgr.fw.mgr resData)

def SchedMgr.step (env : External) (recognizers : SceneRecognizers) (mgr : SchedMgr) :
    SchedMgr.Event → SchedMgr
  | .framework event => { mgr with fw := mgr.fw.step env event }
  | .ReportDataInner resData => mgr.ReportDataInner env recognizers resData
  | .SubmitTask task => { mgr with ffrtQueue_ := mgr.ffrtQueue_ ++ [.submitted task] }
  | .RunTask =>
      match mgr.ffrtQueue_ with
      | [] => mgr
      | task :: tasks => { mgr with ffrtQueue_ := tasks, started := mgr.started ++ [task] }

end ResSched.SceneRecognize
