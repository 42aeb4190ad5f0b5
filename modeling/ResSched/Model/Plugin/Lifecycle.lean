import ResSched.Model.Plugin.Repair
import Mathlib.Data.String.Basic

/-! # Plugins from their loading to their disabling

The dispatch of the build without `RESOURCE_SCHEDULE_SERVICE_WITH_FFRT_ENABLE`, in which one thread
calls the plugins while others can stop the manager.
-/

namespace ResSched.Plugin

/-- `running` is the plugin the dispatcher thread has called, its functions, and when. -/
structure LifecycleMgr where
  pluginSwitch_ : Bool
  dispatcher : Dispatcher
  running : Option (String × PluginLib × Int)

namespace LifecycleMgr

inductive Event where
  | Init
  | LoadPlugin (pluginInfoList : List PluginInfo)
  | BeginDispatch (pluginLib : String) (beginTime : Int)
  | EndDispatch (noFront endTime : Int)
  | Stop

def constructed : LifecycleMgr where
  pluginSwitch_ := false
  dispatcher := ⟨∅, ∅, []⟩
  running := none

/-- One iteration of the loop of `LoadPlugin`. An initialisation that fails is not recorded: the
library is closed again. -/
def loadPlugin (dispatcher : Dispatcher) (info : PluginInfo) : Dispatcher :=
  if !info.switchOn then dispatcher
  else if (dispatcher.pluginLibMap_.lookup info.libPath).isSome then dispatcher
  else
    match LoadOnePlugin info.object with
    | none => dispatcher
    | some libInfo =>
        { dispatcher.call [.OnPluginInit info.libPath] with
          pluginLibMap_ := dispatcher.pluginLibMap_.insert info.libPath libInfo }

def LoadPlugin (mgr : LifecycleMgr) (pluginInfoList : List PluginInfo) : LifecycleMgr :=
  if !mgr.pluginSwitch_ then mgr
  else { mgr with dispatcher := pluginInfoList.foldl loadPlugin mgr.dispatcher }

/-- The first half of an iteration of the loop of `DispatchResourceToPluginSync`: up to the call of
`pluginDispatchFunc`. -/
def BeginDispatch (mgr : LifecycleMgr) (pluginLib : String) (beginTime : Int) : LifecycleMgr :=
  match mgr.running, mgr.dispatcher.pluginLibMap_.lookup pluginLib with
  | none, some libInfo =>
      if !libInfo.onDispatchResourceFunc_ then mgr
      else
        { mgr with
          dispatcher := mgr.dispatcher.call [.OnDispatchResource pluginLib]
          running := some (pluginLib, libInfo, beginTime) }
  | _, _ => mgr

/-- `pluginStat_[pluginLib].Update(costTimeUs)`. -/
def updateStat (dispatcher : Dispatcher) (pluginLib : String) (costTimeUs : Int) : Dispatcher :=
  { dispatcher with
    pluginStat_ := dispatcher.pluginStat_.insert pluginLib
      ((dispatcher.stat pluginLib).Update costTimeUs) }

/-- The second half, from the return of `pluginDispatchFunc`. -/
def EndDispatch (mgr : LifecycleMgr) (noFront endTime : Int) : LifecycleMgr :=
  match mgr.running with
  | none => mgr
  | some (pluginLib, libInfo, beginTime) =>
      let updated := updateStat mgr.dispatcher pluginLib (costTimeUs beginTime endTime)
      { mgr with
        dispatcher :=
          if timesOut beginTime endTime then RepairPlugin noFront updated endTime pluginLib libInfo
          else updated
        running := none }

/-- One iteration of the loop of `UnLoadPlugin`. -/
def disablePlugin (libMap : AssocMap String PluginLib) (dispatcher : Dispatcher)
    (pluginLib : String) : Dispatcher :=
  match libMap.lookup pluginLib with
  | none => dispatcher
  | some libInfo =>
      dispatcher.call (if libInfo.onPluginDisableFunc_ then [.OnPluginDisable pluginLib] else [])

def UnLoadPlugin (dispatcher : Dispatcher) : Dispatcher :=
  let libMap := dispatcher.pluginLibMap_
  { libMap.ascendingKeys.foldl (disablePlugin libMap) dispatcher with pluginLibMap_ := ∅ }

def step (mgr : LifecycleMgr) : Event → LifecycleMgr
  | .Init => { mgr with pluginSwitch_ := true }
  | .LoadPlugin pluginInfoList => mgr.LoadPlugin pluginInfoList
  | .BeginDispatch pluginLib beginTime => mgr.BeginDispatch pluginLib beginTime
  | .EndDispatch noFront endTime => mgr.EndDispatch noFront endTime
  | .Stop => { mgr with pluginSwitch_ := false, dispatcher := UnLoadPlugin mgr.dispatcher }

end LifecycleMgr

end ResSched.Plugin
