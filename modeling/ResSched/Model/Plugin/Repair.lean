import ResSched.Library.AssocMap
import ResSched.Library.CLibrary

/-! # Loading plugins and repairing those whose dispatch times out -/

namespace ResSched.Plugin

def DISPATCH_TIME_OUT : Int := 50
def DISPATCH_TIME_OUT_US : Int := DISPATCH_TIME_OUT * 1000
def MAX_PLUGIN_TIMEOUT_TIMES : Nat := 3
def DISABLE_PLUGIN_TIME : Int := 60000
def nanosPerMicro : Int := 1000
def nanosPerMilli : Int := 1000000

/-! ## Loading -/

/-- A library file: whether its path is valid and it opens, the symbols it has, and what its
initialisation returns when it is loaded. -/
structure SharedObject where
  opens : Bool
  OnPluginInit : Option Bool
  OnPluginDisable : Bool
  OnDispatchResource : Bool

structure PluginInfo where
  libPath : String
  switchOn : Bool
  object : SharedObject

/-- Which of the functions of a loaded plugin are set. -/
structure PluginLib where
  onPluginInitFunc_ : Bool
  onDispatchResourceFunc_ : Bool
  onPluginDisableFunc_ : Bool
deriving DecidableEq

def CheckValidPlugin (object : SharedObject) : Bool :=
  match object.OnPluginInit with
  | none => false
  | some initialised => if !object.OnPluginDisable then false else initialised

def LoadOnePlugin (object : SharedObject) : Option PluginLib :=
  if !object.opens then none
  else if !CheckValidPlugin object then none
  else
    some ⟨object.OnPluginInit.isSome, object.OnDispatchResource, object.OnPluginDisable⟩

def LoadPlugin (pluginLibMap : AssocMap String PluginLib) (pluginInfoList : List PluginInfo) :
    AssocMap String PluginLib :=
  pluginInfoList.foldl (fun libMap info =>
    if !info.switchOn then libMap
    else if (libMap.lookup info.libPath).isSome then libMap
    else
      match LoadOnePlugin info.object with
      | none => libMap
      | some libInfo => libMap.insert info.libPath libInfo) pluginLibMap

/-! ## Dispatching and repairing -/

/-- Times are the nanoseconds of the clock. -/
structure PluginStat where
  totalTime : Nat
  useCount : Nat
  timeOutTime : List Int

def PluginStat.zero : PluginStat :=
  ⟨0, 0, []⟩

inductive PluginCall where
  | OnPluginDisable (pluginLib : String)
  | OnPluginInit (pluginLib : String)
  | OnDispatchResource (pluginLib : String)
deriving DecidableEq

/-- The fields of `PluginMgr` a dispatch uses, and the calls made into the plugins so far. -/
structure Dispatcher where
  pluginLibMap_ : AssocMap String PluginLib
  pluginStat_ : AssocMap String PluginStat
  calls : List PluginCall

/-- `pluginStat_[pluginLib]`. -/
def Dispatcher.stat (dispatcher : Dispatcher) (pluginLib : String) : PluginStat :=
  (dispatcher.pluginStat_.lookup pluginLib).getD PluginStat.zero

def Dispatcher.setTimeOutTime (dispatcher : Dispatcher) (pluginLib : String)
    (timeOutTime : List Int) : Dispatcher :=
  { dispatcher with
    pluginStat_ := dispatcher.pluginStat_.insert pluginLib
      { dispatcher.stat pluginLib with timeOutTime := timeOutTime } }

def Dispatcher.call (dispatcher : Dispatcher) (calls : List PluginCall) : Dispatcher :=
  { dispatcher with calls := dispatcher.calls ++ calls }

/-- `totalTime` wraps at 64 bits, and then starts again. -/
def PluginStat.Update (stat : PluginStat) (costTime : Int) : PluginStat :=
  if costTime > 0 ∧ costTime < DISPATCH_TIME_OUT_US then
    let cost := CLibrary.toUnsigned 32 costTime
    if CLibrary.toUnsigned 64 (stat.totalTime + cost) < stat.totalTime then
      { stat with totalTime := cost, useCount := 1 }
    else
      { stat with
        totalTime := CLibrary.toUnsigned 64 (stat.totalTime + cost)
        useCount := CLibrary.toUnsigned 64 (stat.useCount + 1) }
  else stat

/-- The time since the front of the history, in milliseconds and narrowed to 32 bits. The front
of an empty history is undefined: `noFront` is what the read yields. -/
def crashTime (noFront endTime : Int) (timeOutTime : List Int) : Int :=
  CLibrary.toSigned 32 ((endTime - timeOutTime.head?.getD noFront).tdiv nanosPerMilli)

def RepairPlugin (noFront : Int) (dispatcher : Dispatcher) (endTime : Int) (pluginLib : String)
    (libInfo : PluginLib) : Dispatcher :=
  let crash_time := crashTime noFront endTime (dispatcher.stat pluginLib).timeOutTime
  let timeOutTime := (dispatcher.stat pluginLib).timeOutTime ++ [endTime]
  if timeOutTime.length ≥ MAX_PLUGIN_TIMEOUT_TIMES ∧ crash_time < DISABLE_PLUGIN_TIME then
    let disabled :=
      (dispatcher.call (if libInfo.onPluginDisableFunc_ then [.OnPluginDisable pluginLib]
        else [])).setTimeOutTime pluginLib []
    { disabled with pluginLibMap_ := disabled.pluginLibMap_.erase pluginLib }
  else
    let kept :=
      if timeOutTime.length ≥ MAX_PLUGIN_TIMEOUT_TIMES then timeOutTime.tail else timeOutTime
    (dispatcher.setTimeOutTime pluginLib kept).call
      (if libInfo.onPluginDisableFunc_ && libInfo.onPluginInitFunc_ then
        [.OnPluginDisable pluginLib, .OnPluginInit pluginLib]
      else [])

/-- The cost of a dispatch in microseconds, narrowed to 32 bits. -/
def costTimeUs (beginTime endTime : Int) : Int :=
  CLibrary.toSigned 32 ((endTime - beginTime).tdiv nanosPerMicro)

/-- `costTime > DISPATCH_TIME_OUT`. -/
def timesOut (beginTime endTime : Int) : Bool :=
  (costTimeUs beginTime endTime).tdiv 1000 > DISPATCH_TIME_OUT

/-- One iteration of the loop of `DispatchResourceToPluginSync`. -/
def dispatchToPlugin (noFront : Int) (dispatcher : Dispatcher) (pluginLib : String)
    (beginTime endTime : Int) : Dispatcher :=
  match dispatcher.pluginLibMap_.lookup pluginLib with
  | none => dispatcher
  | some libInfo =>
      if !libInfo.onDispatchResourceFunc_ then dispatcher
      else
        let called := dispatcher.call [.OnDispatchResource pluginLib]
        let updated :=
          { called with
            pluginStat_ := called.pluginStat_.insert pluginLib
              ((called.stat pluginLib).Update (costTimeUs beginTime endTime)) }
        if timesOut beginTime endTime then
          RepairPlugin noFront updated endTime pluginLib libInfo
        else updated

end ResSched.Plugin
