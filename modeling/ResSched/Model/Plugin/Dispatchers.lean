import ResSched.Model.Plugin.Repair
import ResSched.Model.Plugin.Subscription
import Mathlib.Data.Finset.Insert
import Mathlib.Data.Finset.Erase
import Mathlib.Data.String.Basic

/-! # One task queue for each plugin

The dispatch of the build with `RESOURCE_SCHEDULE_SERVICE_WITH_FFRT_ENABLE`.
-/

namespace ResSched.Plugin

/-- What is submitted to the queue of a plugin: the call of its dispatch function, or its callback
for the end of the initialisation. -/
inductive Task where
  | OnDispatchResource (resData : ResData)
  | OnInitFinish (callback : Nat)

/-- `dispatchers_` maps a plugin to its queue, or to a null pointer. `pool` are the callbacks
submitted outside a queue, `calls` the tasks started so far. -/
structure Framework where
  mgr : PluginMgr
  pluginSwitch_ : Bool
  pluginLibMap_ : AssocMap String PluginLib
  dispatchers_ : AssocMap String (Option (List Task))
  disablePlugins_ : Finset String
  runningStats_ : AssocMap String Bool
  initFinishCallbacks_ : AssocMap String Nat
  pool : List (String × Nat)
  calls : List (String × Task)

namespace Framework

inductive Event where
  | Subscription (call : Call)
  | Init
  | LoadPlugin (pluginInfoList : List PluginInfo)
  | InitDispatchersAfterPluginLoad
  | CompletePluginInitialization
  | RegisterOnInitFinishCallback (libName : String) (callback : Option Nat)
  | DispatchResource (resData : ResData)
  | RunTask (pluginLib : String)
  | RecordRinningStat (pluginLib : String) (isRunning : Bool)
  | HandlePluginTimeout (pluginLib : String)
  | EnablePluginIfResume (pluginLib : String)
  | Stop

def constructed (subscriptionAccuractlyEnable : Bool) : Framework where
  mgr := ⟨false, subscriptionAccuractlyEnable, ∅, ∅⟩
  pluginSwitch_ := false
  pluginLibMap_ := ∅
  dispatchers_ := ∅
  disablePlugins_ := ∅
  runningStats_ := ∅
  initFinishCallbacks_ := ∅
  pool := []
  calls := []

/-- The queue of a plugin, unless it has none or a null pointer. -/
def queue (fw : Framework) (pluginLib : String) : Option (List Task) :=
  (fw.dispatchers_.lookup pluginLib).join

def setQueue (fw : Framework) (pluginLib : String) (tasks : Option (List Task)) : Framework :=
  { fw with dispatchers_ := fw.dispatchers_.insert pluginLib tasks }

/-! ## Starting and stopping -/

def InitDispatchersAfterPluginLoad (fw : Framework) : Framework :=
  { fw with dispatchers_ := AssocMap.map (fun _ => some []) fw.pluginLibMap_ }

def RegisterOnInitFinishCallback (fw : Framework) (libName : String) :
    Option Nat → Framework
  | none => fw
  | some callback =>
      { fw with initFinishCallbacks_ := fw.initFinishCallbacks_.insert libName callback }

/-- One iteration of the loop of `CallOnInitFinishCallbacks`. -/
def callOnInitFinish (callbacks : AssocMap String Nat) (fw : Framework) (libName : String) :
    Framework :=
  match callbacks.lookup libName with
  | none => fw
  | some callback =>
      match fw.queue libName with
      | some tasks => fw.setQueue libName (some (tasks ++ [.OnInitFinish callback]))
      | none => { fw with pool := fw.pool ++ [(libName, callback)] }

def CallOnInitFinishCallbacks (fw : Framework) : Framework :=
  let callbacks := fw.initFinishCallbacks_
  callbacks.ascendingKeys.foldl (callOnInitFinish callbacks) { fw with initFinishCallbacks_ := ∅ }

def CompletePluginInitialization (fw : Framework) : Framework :=
  CallOnInitFinishCallbacks { fw with mgr := { fw.mgr with isInit := true } }

def OnDestroy (fw : Framework) : Framework :=
  { fw with
    pluginLibMap_ := ∅
    pluginSwitch_ := false
    mgr := { fw.mgr with resTypeLibMap := ∅, resTyperesValueLibMap := ∅ }
    dispatchers_ := ∅ }

/-! ## Dispatching -/

/-- One iteration of the loop of `DispatchResourceToPluginAsync`; `dispatchers_[pluginLib]` leaves
a null pointer when there is no queue. -/
def dispatchToQueue (resData : ResData) (fw : Framework) (pluginLib : String) : Framework :=
  if pluginLib ∈ fw.disablePlugins_ then fw
  else
    match fw.pluginLibMap_.lookup pluginLib with
    | none => fw
    | some libInfo =>
        if !libInfo.onDispatchResourceFunc_ then fw
        else
          match fw.queue pluginLib with
          | none => fw.setQueue pluginLib none
          | some tasks => fw.setQueue pluginLib (some (tasks ++ [.OnDispatchResource resData]))

/-- The plugins are handed the event object, whose type `DispatchResource` has replaced. -/
def DispatchResource (env : External) (fw : Framework) (resData : ResData) : Framework :=
  (fw.mgr.DispatchResource env resData).foldl
    (dispatchToQueue { resData with resType := dispatchedType env resData }) fw

/-- The worker of a queue starts its first task. -/
def runTask (fw : Framework) (pluginLib : String) : Framework :=
  match fw.queue pluginLib with
  | some (task :: tasks) =>
      { fw.setQueue pluginLib (some tasks) with calls := fw.calls ++ [(pluginLib, task)] }
  | _ => fw

/-! ## Blocked plugins -/

def IsPluginRunning (fw : Framework) (pluginLib : String) : Bool :=
  (fw.runningStats_.lookup pluginLib).getD false

/-- `ffrt_queue_cancel_all`. To cancel the tasks of a null pointer is undefined; the model then
cancels nothing. -/
def cancelAll (fw : Framework) (pluginLib : String) : Framework :=
  match fw.queue pluginLib with
  | none => fw.setQueue pluginLib none
  | some _ => fw.setQueue pluginLib (some [])

def HandlePluginTimeout (fw : Framework) (pluginLib : String) : Framework :=
  if fw.IsPluginRunning pluginLib then
    { fw.cancelAll pluginLib with disablePlugins_ := insert pluginLib fw.disablePlugins_ }
  else fw.cancelAll pluginLib

def EnablePluginIfResume (fw : Framework) (pluginLib : String) : Framework :=
  if !fw.IsPluginRunning pluginLib then
    { fw.cancelAll pluginLib with disablePlugins_ := fw.disablePlugins_.erase pluginLib }
  else fw.cancelAll pluginLib

def step (env : External) (fw : Framework) : Event → Framework
  | .Subscription call => { fw with mgr := fw.mgr.handle call }
  | .Init => { fw with pluginSwitch_ := true }
  | .LoadPlugin pluginInfoList =>
      if !fw.pluginSwitch_ then fw
      else { fw with pluginLibMap_ := Plugin.LoadPlugin fw.pluginLibMap_ pluginInfoList }
  | .InitDispatchersAfterPluginLoad => fw.InitDispatchersAfterPluginLoad
  | .CompletePluginInitialization => fw.CompletePluginInitialization
  | .RegisterOnInitFinishCallback libName callback =>
      fw.RegisterOnInitFinishCallback libName callback
  | .DispatchResource resData => fw.DispatchResource env resData
  | .RunTask pluginLib => fw.runTask pluginLib
  | .RecordRinningStat pluginLib isRunning =>
      { fw with runningStats_ := fw.runningStats_.insert pluginLib isRunning }
  | .HandlePluginTimeout pluginLib => fw.HandlePluginTimeout pluginLib
  | .EnablePluginIfResume pluginLib => fw.EnablePluginIfResume pluginLib
  | .Stop => fw.OnDestroy

end Framework

end ResSched.Plugin
