import ResSched.Library.DecimalText
import ResSched.Model.Json

/-! # The ids the frame-aware plugin reads of its events -/

namespace ResSched.FrameAware

open CLibrary

def RES_TYPE_SCREEN_STATUS : Nat := 0
def RES_TYPE_APP_STATE_CHANGE : Nat := 1
def RES_TYPE_PROCESS_STATE_CHANGE : Nat := 4
def RES_TYPE_WINDOW_FOCUS : Nat := 5
def RES_TYPE_CONTINUOUS_TASK : Nat := 7
def RES_TYPE_CGROUP_ADJUSTER : Nat := 8
def RES_TYPE_SLIDE_RECOGNIZE : Nat := 11
def RES_TYPE_REPORT_RENDER_THREAD : Nat := 14
def RES_TYPE_SCREEN_LOCK : Nat := 19
def RES_TYPE_NETWORK_LATENCY_REQUEST : Nat := 21
def RES_TYPE_USER_INTERACTION_SCENE : Nat := 101
def INT_MAX : Int := 2147483647

structure ResData where
  resType : Nat
  value : Int
  payload : Json String

/-- The calls of the frame library. -/
inductive Report where
  | AppInfo (pid uid : Int) (bundleName : String) (state : Int)
  | ProcessInfo (pid uid hostPid : Int) (bundleName : String) (state : Int)
  | ContinuousTask (pid uid status : Int)
  | CgroupChange (pid uid oldGroup newGroup : Int)
  | WindowFocus (pid uid isFocus displayId : Int)
  | RenderThread (pid uid status : Int)
  | SlideEvent (pid uid status : Int)
  | InteractionScene (status : Int)
deriving DecidableEq

/-- The plugin and the thread it runs on: whether its functions are installed, whether `errno` of
the thread is `ERANGE`, the calls of `ConvertToInteger` with their results, and what the plugin has
passed to the frame library and to the network controller. -/
structure FrameAwarePlugin where
  initialized : Bool
  erange : Bool
  converted : List (String × Int)
  reports : List Report
  latencyRequests : List (Int × String)

def FrameAwarePlugin.start : FrameAwarePlugin := ⟨false, false, [], [], []⟩

/-! ## Converting -/

/-- The number of a text on a thread, and whether `errno` is `ERANGE` behind it: an overflow sets
it, and nothing clears it. -/
def toInteger (erange : Bool) (text : String) : Bool × Int :=
  let read := strtol 64 (cString text).toList
  let erange := erange || read.erange
  let result := toSigned 32 read.value
  if result < 0 ∨ result > INT_MAX ∨ erange ∨ !read.converted ∨ read.rest ≠ [] then (erange, -1)
  else (erange, result)

/-- The string under a key of the payload; the handlers read those they have tested. -/
def ResData.text (data : ResData) (key : String) : String :=
  ((data.payload.find? key).bind Json.string?).getD ""

/-- The payload is an object with a string under each of the keys. -/
def ResData.hasStrings (data : ResData) (keys : List String) : Bool :=
  data.payload.is_object && keys.all fun key => ((data.payload.find? key).bind Json.string?).isSome

def ConvertToInteger (plugin : FrameAwarePlugin) (data : ResData) (idtype : String) :
    FrameAwarePlugin × Int :=
  let (erange, result) := toInteger plugin.erange (data.text idtype)
  ({ plugin with
      erange := erange
      converted := plugin.converted ++ [(data.text idtype, result)] }, result)

/-! ## The handlers -/

def FrameAwarePlugin.report (plugin : FrameAwarePlugin) (report : Report) : FrameAwarePlugin :=
  { plugin with reports := plugin.reports ++ [report] }

def HandleAppStateChange (plugin : FrameAwarePlugin) (data : ResData) : FrameAwarePlugin :=
  if data.hasStrings ["pid", "uid", "bundleName"] then
    let (plugin, pid) := ConvertToInteger plugin data "pid"
    let (plugin, uid) := ConvertToInteger plugin data "uid"
    plugin.report (.AppInfo pid uid (cString (data.text "bundleName")) data.value)
  else plugin

def HandleProcessStateChange (plugin : FrameAwarePlugin) (data : ResData) : FrameAwarePlugin :=
  if data.hasStrings ["pid", "uid", "bundleName", "hostPid"] then
    let (plugin, pid) := ConvertToInteger plugin data "pid"
    let (plugin, uid) := ConvertToInteger plugin data "uid"
    let (plugin, hostPid) := ConvertToInteger plugin data "hostPid"
    plugin.report (.ProcessInfo pid uid hostPid (cString (data.text "bundleName")) data.value)
  else plugin

def HandleContinuousTask (plugin : FrameAwarePlugin) (data : ResData) : FrameAwarePlugin :=
  if data.hasStrings ["pid", "uid"] then
    let (plugin, pid) := ConvertToInteger plugin data "pid"
    let (plugin, uid) := ConvertToInteger plugin data "uid"
    plugin.report (.ContinuousTask pid uid data.value)
  else plugin

def HandleCgroupAdjuster (plugin : FrameAwarePlugin) (data : ResData) : FrameAwarePlugin :=
  if data.hasStrings ["pid", "uid", "oldGroup", "newGroup"] then
    let (plugin, pid) := ConvertToInteger plugin data "pid"
    let (plugin, uid) := ConvertToInteger plugin data "uid"
    let (plugin, oldGroup) := ConvertToInteger plugin data "oldGroup"
    let (plugin, newGroup) := ConvertToInteger plugin data "newGroup"
    if data.value = 0 then plugin.report (.CgroupChange pid uid oldGroup newGroup) else plugin
  else plugin

/-- The display is converted first, where the payload has one. -/
def HandleWindowsFocus (plugin : FrameAwarePlugin) (data : ResData) : FrameAwarePlugin :=
  if data.hasStrings ["pid", "uid"] then
    let (plugin, displayId) :=
      if data.hasStrings ["displayId"] then ConvertToInteger plugin data "displayId"
      else (plugin, 0)
    let (plugin, pid) := ConvertToInteger plugin data "pid"
    let (plugin, uid) := ConvertToInteger plugin data "uid"
    plugin.report (.WindowFocus pid uid data.value displayId)
  else plugin

def HandleReportRender (plugin : FrameAwarePlugin) (data : ResData) : FrameAwarePlugin :=
  if data.hasStrings ["pid", "uid"] then
    let (plugin, pid) := ConvertToInteger plugin data "pid"
    let (plugin, uid) := ConvertToInteger plugin data "uid"
    plugin.report (.RenderThread pid uid data.value)
  else plugin

def HandleNetworkLatencyRequest (plugin : FrameAwarePlugin) (data : ResData) : FrameAwarePlugin :=
  if data.hasStrings ["clientPid", "identity"] then
    let pid_identity := data.text "clientPid" ++ ":" ++ data.text "identity"
    { plugin with latencyRequests := plugin.latencyRequests ++ [(data.value, pid_identity)] }
  else plugin

def HandleEventSlide (plugin : FrameAwarePlugin) (data : ResData) : FrameAwarePlugin :=
  if data.hasStrings ["clientPid", "callingUid"] then
    let (plugin, pid) := ConvertToInteger plugin data "clientPid"
    let (plugin, uid) := ConvertToInteger plugin data "callingUid"
    plugin.report (.SlideEvent pid uid data.value)
  else plugin

/-- The screen handlers write a log line. -/
def HandleScreenLock (plugin : FrameAwarePlugin) (_data : ResData) : FrameAwarePlugin :=
  plugin

def HandleScreenStatus (plugin : FrameAwarePlugin) (_data : ResData) : FrameAwarePlugin :=
  plugin

def HandleInteractionScene (plugin : FrameAwarePlugin) (data : ResData) : FrameAwarePlugin :=
  plugin.report (.InteractionScene data.value)

/-! ## Dispatching -/

/-- The functions of a build with the scheduling of frames; the one of the network is in all
builds. -/
def functionMap (schedEnable : Bool) :
    List (Nat × (FrameAwarePlugin → ResData → FrameAwarePlugin)) :=
  (if schedEnable then
    [(RES_TYPE_APP_STATE_CHANGE, HandleAppStateChange),
      (RES_TYPE_PROCESS_STATE_CHANGE, HandleProcessStateChange),
      (RES_TYPE_CONTINUOUS_TASK, HandleContinuousTask),
      (RES_TYPE_CGROUP_ADJUSTER, HandleCgroupAdjuster),
      (RES_TYPE_WINDOW_FOCUS, HandleWindowsFocus),
      (RES_TYPE_REPORT_RENDER_THREAD, HandleReportRender),
      (RES_TYPE_SLIDE_RECOGNIZE, HandleEventSlide),
      (RES_TYPE_SCREEN_LOCK, HandleScreenLock),
      (RES_TYPE_SCREEN_STATUS, HandleScreenStatus),
      (RES_TYPE_USER_INTERACTION_SCENE, HandleInteractionScene)]
  else []) ++
    [(RES_TYPE_NETWORK_LATENCY_REQUEST, HandleNetworkLatencyRequest)]

def DispatchResource (schedEnable : Bool) (plugin : FrameAwarePlugin) (data : ResData) :
    FrameAwarePlugin :=
  let functionMap := if plugin.initialized then functionMap schedEnable else []
  match functionMap.find? fun entry => entry.1 = data.resType with
  | none => plugin
  | some (_, function) => function plugin data

inductive Action where
  | Init
  | Disable
  | DispatchResource (data : ResData)

def step (schedEnable : Bool) (plugin : FrameAwarePlugin) : Action → FrameAwarePlugin
  | .Init => { plugin with initialized := true }
  | .Disable => { plugin with initialized := false }
  | .DispatchResource data => DispatchResource schedEnable plugin data

def run (schedEnable : Bool) (actions : List Action) : FrameAwarePlugin :=
  actions.foldl (step schedEnable) FrameAwarePlugin.start

end ResSched.FrameAware
