import ResSched.Model.SocPerf.Lifecycle

/-! # Slide and click events of the SocPerf plugin -/

namespace ResSched.SocPerf.Gesture

open Lifecycle Focus

def CLIENT_PID_NAME : String := "clientPid"
def TIME_INTERVAL : Nat := 4500

def PERF_REQUEST_CMD_ID_EVENT_CLICK : Int := 10006
def PERF_REQUEST_CMD_ID_EVENT_FLING : Int := 10008
def PERF_REQUEST_CMD_ID_EVENT_TOUCH_DOWN : Int := 10010
def PERF_REQUEST_CMD_ID_EVENT_TOUCH_UP : Int := 10040
def PERF_REQUEST_CMD_ID_MOVE_EVENT_BOOST : Int := 10091
def PERF_REQUEST_CMD_ID_EVENT_DRAG : Int := 10092

/-- The calls on `SocPerfClient` for slides and clicks. -/
inductive Call where
  | PerfRequest (cmdId : Int)
  | PerfRequestEx (cmdId : Int) (onOffTag : Bool)
deriving DecidableEq

/-- The plugin with what slide and click events read and write, and the calls made so far while
the current event is handled. `lastTime` and `lastStatus` are static variables of
`HandleContinuousDrag`. -/
structure Plugin extends Lifecycle.Plugin where
  flingExceptionFlag_ : Bool
  lastTime : Nat
  lastStatus : Int
  calls : List Call

/-- A plugin that has been initialised and has handled no event. -/
def Plugin.start (configured : Lifecycle.Plugin) : Plugin :=
  { configured with
    flingExceptionFlag_ := false
    lastTime := 0
    lastStatus := SLIDE_NORMAL_END
    calls := [] }

def Plugin.call (plugin : Plugin) (call : Call) : Plugin :=
  { plugin with calls := plugin.calls ++ [call] }

/-! ## Events of games -/

/-- `pidToAppTypeMap_[pid]` enters a pid that is missing. -/
def IsGameEvent (plugin : Plugin) (payload : Json String) : Bool × Plugin :=
  let pid := GetPidByData payload CLIENT_PID_NAME
  if pid = INVALID_VALUE then (false, plugin)
  else
    match plugin.focus.pidToAppTypeMap_.lookup pid with
    | some appType => (appType = APP_TYPE_GAME, plugin)
    | none =>
        (false,
          { plugin with
            focus :=
              { plugin.focus with
                pidToAppTypeMap_ := plugin.focus.pidToAppTypeMap_.insert pid 0 } })

/-- `socperfGameBoostSwitch_ && (isFocusAppsGameType_ || IsGameEvent(data))` -/
def gameCanNotGet (plugin : Plugin) (payload : Json String) : Bool × Plugin :=
  if plugin.socperfGameBoostSwitch_ then
    if plugin.focus.isFocusAppsGameType_ then (true, plugin)
    else IsGameEvent plugin payload
  else (false, plugin)

/-- What `HandleEventClick` and `HandleEventSlide` do of an event: `handle`, unless the event is
one of a game. -/
def unlessGame (handle : Plugin → Plugin) (plugin : Plugin) (payload : Json String) : Plugin :=
  let (isGame, plugin) := gameCanNotGet plugin payload
  if isGame then plugin
  else if plugin.focus.custGameState_ then plugin
  else handle plugin

/-! ## Handlers -/

/-- The bundle name in the payload, as a string of its own length. -/
def bundleNameString (payload : Json String) : Option String :=
  (payload.find? BUNDLE_NAME).bind Json.string?

/-- `signed` is what the validator of signatures answers for the bundle at the time. -/
def HandleMoveEventBoost (plugin : Plugin) (payload : Json String) (signed isSet : Bool) :
    Plugin :=
  match bundleNameString payload with
  | none => plugin
  | some bundleName =>
      if bundleName ∈ plugin.appNameMoveEvent_ ∧ signed then
        plugin.call (.PerfRequestEx PERF_REQUEST_CMD_ID_MOVE_EVENT_BOOST isSet)
      else plugin

def HandleContinuousDrag (plugin : Plugin) (dragStatus : Int) (curMs : Nat) : Plugin :=
  if plugin.lastStatus = SLIDE_NORMAL_END ∧ dragStatus = MOVE_EVENT_ON then plugin
  else
    let plugin := { plugin with lastStatus := dragStatus }
    if dragStatus = SLIDE_NORMAL_END then
      { plugin with lastTime := 0 }.call (.PerfRequestEx PERF_REQUEST_CMD_ID_EVENT_DRAG false)
    else if curMs > plugin.lastTime ∧ curMs - plugin.lastTime ≥ TIME_INTERVAL then
      { plugin with lastTime := curMs }.call (.PerfRequestEx PERF_REQUEST_CMD_ID_EVENT_DRAG true)
    else plugin

def HandleEventClick (plugin : Plugin) (data : ResData) (signed : Bool) : Plugin :=
  unlessGame (fun plugin =>
    if data.value = TOUCH_EVENT_DOWN_MMI then
      plugin.call (.PerfRequest PERF_REQUEST_CMD_ID_EVENT_TOUCH_DOWN)
    else if data.value = TOUCH_EVENT_DOWN then
      plugin.call (.PerfRequest PERF_REQUEST_CMD_ID_EVENT_TOUCH_DOWN)
    else if data.value = TOUCH_EVENT_UP then
      HandleMoveEventBoost (plugin.call (.PerfRequest PERF_REQUEST_CMD_ID_EVENT_TOUCH_UP))
        data.payload signed false
    else if data.value = CLICK_EVENT then
      plugin.call (.PerfRequest PERF_REQUEST_CMD_ID_EVENT_CLICK)
    else plugin) plugin data.payload

/-- `curMs` is the time at which `HandleContinuousDrag` reads the clock. -/
def HandleEventSlide (plugin : Plugin) (data : ResData) (signed : Bool) (curMs : Nat) : Plugin :=
  unlessGame (fun plugin =>
    if data.value = SLIDE_EVENT_ON then
      plugin.call (.PerfRequestEx PERF_REQUEST_CMD_ID_EVENT_FLING true)
    else if data.value = SLIDE_EVENT_OFF then
      plugin.call (.PerfRequestEx PERF_REQUEST_CMD_ID_EVENT_FLING false)
    else if data.value = SWIPER_FLING_END then
      if !plugin.flingExceptionFlag_ then
        plugin.call (.PerfRequestEx PERF_REQUEST_CMD_ID_EVENT_FLING false)
      else plugin
    else if data.value = SLIDE_NORMAL_BEGIN then HandleContinuousDrag plugin data.value curMs
    else if data.value = SLIDE_NORMAL_END then HandleContinuousDrag plugin data.value curMs
    else if data.value = MOVE_EVENT_ON then
      HandleContinuousDrag (HandleMoveEventBoost plugin data.payload signed true) data.value curMs
    else plugin) plugin data.payload

def HandleSwiperFlingEndEx (plugin : Plugin) (data : ResData) : Plugin :=
  { plugin with flingExceptionFlag_ := decide (data.value ≠ 0) }

/-! ## Events -/

/-- Slides and clicks with what the validator and the clock say at the time, changes of the
exception flag, and the events that reach the state of focused applications. -/
inductive Event where
  | HandleEventSlide (data : ResData) (signed : Bool) (curMs : Nat)
  | HandleEventClick (data : ResData) (signed : Bool)
  | HandleSwiperFlingEndEx (data : ResData)
  | focus (event : Focus.Event)

def Plugin.dispatch (env : Lifecycle.External) (plugin : Plugin) : Event → Plugin
  | .HandleEventSlide data signed curMs => Gesture.HandleEventSlide plugin data signed curMs
  | .HandleEventClick data signed => Gesture.HandleEventClick plugin data signed
  | .HandleSwiperFlingEndEx data => Gesture.HandleSwiperFlingEndEx plugin data
  | .focus event =>
      { plugin with
        focus := Focus.Plugin.handle (env.focus plugin.toPlugin) plugin.focus event }

/-- The plugin handles an event, with the calls of this event only. -/
def Plugin.handle (env : Lifecycle.External) (plugin : Plugin) (event : Event) : Plugin :=
  Plugin.dispatch env { plugin with calls := [] } event

end ResSched.SocPerf.Gesture
