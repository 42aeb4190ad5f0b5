import ResSched.Library.WriteLog
import ResSched.Model.Json

/-! # Screen, display-mode and performance-mode boosts of the SocPerf plugin -/

namespace ResSched.SocPerf.Screen

def PERF_REQUEST_CMD_ID_SCREEN_ON : Nat := 10028
def PERF_REQUEST_CMD_ID_SCREEN_OFF : Nat := 10029
def PERF_REQUEST_CMD_ID_DISPLAY_MODE_FULL : Nat := 10082
def PERF_REQUEST_CMD_ID_DISPLAY_MODE_MAIN : Nat := 10083
def PERF_REQUEST_CMD_ID_SCREEN_SWITCHED : Nat := 10090
def PERF_REQUEST_CMD_ID_DISPLAY_GLOBAL_L : Nat := 10098
def PERF_REQUEST_CMD_ID_DISPLAY_GLOBAL_P : Nat := 10203
def PERF_REQUEST_CMD_ID_SCREEN_ON_PERFORMANCE_MODE : Nat := 30028
def PERF_REQUEST_CMD_ID_SCREEN_OFF_PERFORMANCE_MODE : Nat := 30029

def DEVICE_MODE_TYPE_KEY : String := "deviceModeType"
def DEVICE_MODE_PAYMODE_NAME : String := "deviceMode"
def DISPLAY_MODE_KEY : String := "display"
def DEVICE_ORIENTATION_TYPE_KEY : String := "deviceOrientation"
def DISPLAY_MODE_FULL : String := "displayFull"
def DISPLAY_MODE_MAIN : String := "displayMain"
def DISPLAY_MODE_GLOBAL_FULL : String := "displayGlobalFull"
def DISPLAY_ORIENTAYION_LANDSCAPE : String := "displayLandscape"
def DISPLAY_ORIENTAYION_PORTRAIT : String := "displayPortrait"
def SCREEN_MODE_KEY : String := "screenStatus"
def SCREEN_MODE_ON : String := "screen_on"
def SCREEN_MODE_OFF : String := "screen_off"

def SCREEN_OFF : Int := 0
def SCREEN_ON : Int := 1
def WAKE_UP_TIMEOUT : Int := 0
def WAKE_UP_START : Int := 1
def MODE_ENTER : Int := 0
def MODE_QUIT : Int := 1
def NORMAL_MODE : Int := 600
def PERFORMANCE_MODE : Int := 602
def POWER_MODE_MIN : Int := 600
def POWER_MODE_MAX : Int := 603

/-- The screen fields of `SocPerfPlugin`, with the number of submitted screen-off tasks that
have not run yet. -/
structure Plugin where
  screenStatus : Int
  deviceMode : String
  deviceOrientation : String
  performanceMode : Int
  screenOffTasks : Nat

def Plugin.created : Plugin where
  screenStatus := SCREEN_ON
  deviceMode := ""
  deviceOrientation := ""
  performanceMode := NORMAL_MODE
  screenOffTasks := 0

/-- The calls the screen handlers make on `SocPerfClient`. -/
inductive Call where
  | PerfRequestEx (cmdId : Nat) (onOffTag : Bool)
  | RequestDeviceMode (mode : String) (status : Bool)

structure ResData where
  value : Int
  payload : Json String

/-- What reaches the plugin: reported events, and the run of a delayed screen-off task. -/
inductive Event where
  | screenStatus (value : Int)
  | displayPowerWakeUp (value : Int)
  | deviceModeStatus (data : ResData)
  | deviceOrientationStatus (data : ResData)
  | performanceMode (value : Int)
  | screenOffTask

/-! ## Screen on and off -/

open Call in
def HandleScreenOn (plugin : Plugin) : List Call :=
  [PerfRequestEx PERF_REQUEST_CMD_ID_SCREEN_OFF false,
    PerfRequestEx PERF_REQUEST_CMD_ID_SCREEN_ON true] ++
  (if plugin.performanceMode = PERFORMANCE_MODE then
    [PerfRequestEx PERF_REQUEST_CMD_ID_SCREEN_OFF_PERFORMANCE_MODE false,
      PerfRequestEx PERF_REQUEST_CMD_ID_SCREEN_ON_PERFORMANCE_MODE true]
  else []) ++
  (if plugin.deviceMode = DISPLAY_MODE_FULL then
    [PerfRequestEx PERF_REQUEST_CMD_ID_DISPLAY_MODE_FULL true]
  else if plugin.deviceMode = DISPLAY_MODE_MAIN then
    [PerfRequestEx PERF_REQUEST_CMD_ID_DISPLAY_MODE_MAIN true]
  else if plugin.deviceMode = DISPLAY_MODE_GLOBAL_FULL ∧
      plugin.deviceOrientation = DISPLAY_ORIENTAYION_LANDSCAPE then
    [PerfRequestEx PERF_REQUEST_CMD_ID_DISPLAY_MODE_MAIN false,
      PerfRequestEx PERF_REQUEST_CMD_ID_DISPLAY_MODE_FULL false,
      PerfRequestEx PERF_REQUEST_CMD_ID_DISPLAY_GLOBAL_P false,
      PerfRequestEx PERF_REQUEST_CMD_ID_DISPLAY_GLOBAL_L true]
  else if plugin.deviceMode = DISPLAY_MODE_GLOBAL_FULL ∧
      plugin.deviceOrientation = DISPLAY_ORIENTAYION_PORTRAIT then
    [PerfRequestEx PERF_REQUEST_CMD_ID_DISPLAY_MODE_MAIN false,
      PerfRequestEx PERF_REQUEST_CMD_ID_DISPLAY_MODE_FULL false,
      PerfRequestEx PERF_REQUEST_CMD_ID_DISPLAY_GLOBAL_L false,
      PerfRequestEx PERF_REQUEST_CMD_ID_DISPLAY_GLOBAL_P true]
  else []) ++
  [RequestDeviceMode (SCREEN_MODE_KEY ++ ":" ++ SCREEN_MODE_ON) true]

open Call in
def HandleScreenOff (plugin : Plugin) : List Call :=
  if plugin.screenStatus = SCREEN_OFF then
    [PerfRequestEx PERF_REQUEST_CMD_ID_SCREEN_ON false,
      PerfRequestEx PERF_REQUEST_CMD_ID_SCREEN_OFF true] ++
    (if plugin.performanceMode = PERFORMANCE_MODE then
      [PerfRequestEx PERF_REQUEST_CMD_ID_SCREEN_ON_PERFORMANCE_MODE false,
        PerfRequestEx PERF_REQUEST_CMD_ID_SCREEN_OFF_PERFORMANCE_MODE true]
    else []) ++
    [PerfRequestEx PERF_REQUEST_CMD_ID_DISPLAY_MODE_FULL false,
      PerfRequestEx PERF_REQUEST_CMD_ID_DISPLAY_MODE_MAIN false,
      PerfRequestEx PERF_REQUEST_CMD_ID_DISPLAY_GLOBAL_P false,
      PerfRequestEx PERF_REQUEST_CMD_ID_DISPLAY_GLOBAL_L false,
      RequestDeviceMode (SCREEN_MODE_KEY ++ ":" ++ SCREEN_MODE_OFF) true]
  else []

/-- A screen that goes off submits a delayed `HandleScreenOff`; one that goes on does nothing
here, its boost having been requested by the wake-up. -/
def HandleScreenStatusAnalysis (plugin : Plugin) (value : Int) : Plugin × List Call :=
  let plugin := { plugin with screenStatus := value }
  if plugin.screenStatus = SCREEN_OFF then
    ({ plugin with screenOffTasks := plugin.screenOffTasks + 1 }, [])
  else (plugin, [])

def HandleDisplayPowerWakeUp (plugin : Plugin) (value : Int) : Plugin × List Call :=
  if value = WAKE_UP_START then (plugin, HandleScreenOn plugin)
  else if value = WAKE_UP_TIMEOUT then (plugin, HandleScreenOff plugin)
  else (plugin, [])

/-- One submitted screen-off task runs. -/
def runScreenOffTask (plugin : Plugin) : Plugin × List Call :=
  if plugin.screenOffTasks = 0 then (plugin, [])
  else
    ({ plugin with screenOffTasks := plugin.screenOffTasks - 1 }, HandleScreenOff plugin)

/-! ## Display mode and orientation -/

/-- The type and the name a mode event carries, when the handlers accept it. -/
def modeOf (data : ResData) : Option (String × String) :=
  if data.value ≠ MODE_ENTER ∧ data.value ≠ MODE_QUIT then none
  else
    match (data.payload.find? DEVICE_MODE_TYPE_KEY).bind Json.string?,
      (data.payload.find? DEVICE_MODE_PAYMODE_NAME).bind Json.string? with
    | some modeType, some name => some (modeType, name)
    | _, _ => none

open Call in
def HandleSceenModeBoost (plugin : Plugin) (deviceModeType : String) : List Call :=
  if deviceModeType ≠ DISPLAY_MODE_KEY then []
  else
    (if plugin.deviceMode = DISPLAY_MODE_FULL ∧ plugin.screenStatus = SCREEN_ON then
      [PerfRequestEx PERF_REQUEST_CMD_ID_DISPLAY_MODE_MAIN false,
        PerfRequestEx PERF_REQUEST_CMD_ID_DISPLAY_MODE_FULL true,
        PerfRequestEx PERF_REQUEST_CMD_ID_DISPLAY_GLOBAL_L false,
        PerfRequestEx PERF_REQUEST_CMD_ID_DISPLAY_GLOBAL_P false]
    else if plugin.deviceMode = DISPLAY_MODE_MAIN ∧ plugin.screenStatus = SCREEN_ON then
      [PerfRequestEx PERF_REQUEST_CMD_ID_DISPLAY_MODE_FULL false,
        PerfRequestEx PERF_REQUEST_CMD_ID_DISPLAY_GLOBAL_L false,
        PerfRequestEx PERF_REQUEST_CMD_ID_DISPLAY_GLOBAL_P false,
        PerfRequestEx PERF_REQUEST_CMD_ID_DISPLAY_MODE_MAIN true]
    else if plugin.deviceMode = DISPLAY_MODE_GLOBAL_FULL ∧ plugin.screenStatus = SCREEN_ON ∧
        plugin.deviceOrientation = DISPLAY_ORIENTAYION_LANDSCAPE then
      [PerfRequestEx PERF_REQUEST_CMD_ID_DISPLAY_MODE_MAIN false,
        PerfRequestEx PERF_REQUEST_CMD_ID_DISPLAY_MODE_FULL false,
        PerfRequestEx PERF_REQUEST_CMD_ID_DISPLAY_GLOBAL_P false,
        PerfRequestEx PERF_REQUEST_CMD_ID_DISPLAY_GLOBAL_L true]
    else if plugin.deviceMode = DISPLAY_MODE_GLOBAL_FULL ∧ plugin.screenStatus = SCREEN_ON ∧
        plugin.deviceOrientation = DISPLAY_ORIENTAYION_PORTRAIT then
      [PerfRequestEx PERF_REQUEST_CMD_ID_DISPLAY_MODE_MAIN false,
        PerfRequestEx PERF_REQUEST_CMD_ID_DISPLAY_MODE_FULL false,
        PerfRequestEx PERF_REQUEST_CMD_ID_DISPLAY_GLOBAL_L false,
        PerfRequestEx PERF_REQUEST_CMD_ID_DISPLAY_GLOBAL_P true]
    else []) ++
    (if plugin.deviceMode = DISPLAY_MODE_FULL ∨ plugin.deviceMode = DISPLAY_MODE_GLOBAL_FULL ∨
        plugin.deviceMode = DISPLAY_MODE_MAIN then
      [PerfRequestEx PERF_REQUEST_CMD_ID_SCREEN_SWITCHED true]
    else [])

def HandleDeviceModeStatusChange (plugin : Plugin) (data : ResData) : Plugin × List Call :=
  match modeOf data with
  | none => (plugin, [])
  | some (deviceModeType, name) =>
      let plugin := { plugin with deviceMode := name }
      (plugin, .RequestDeviceMode (deviceModeType ++ ":" ++ plugin.deviceMode)
        (data.value = MODE_ENTER) :: HandleSceenModeBoost plugin deviceModeType)

open Call in
def HandleSceenOrientationBoost (plugin : Plugin) (deviceOrientationType : String) : List Call :=
  if deviceOrientationType ≠ DEVICE_ORIENTATION_TYPE_KEY then []
  else if plugin.deviceMode ≠ DISPLAY_MODE_GLOBAL_FULL then []
  else if plugin.screenStatus = SCREEN_ON ∧
      plugin.deviceOrientation = DISPLAY_ORIENTAYION_LANDSCAPE then
    [PerfRequestEx PERF_REQUEST_CMD_ID_DISPLAY_MODE_MAIN false,
      PerfRequestEx PERF_REQUEST_CMD_ID_DISPLAY_MODE_FULL false,
      PerfRequestEx PERF_REQUEST_CMD_ID_DISPLAY_GLOBAL_P false,
      PerfRequestEx PERF_REQUEST_CMD_ID_DISPLAY_GLOBAL_L true]
  else if plugin.screenStatus = SCREEN_ON ∧
      plugin.deviceOrientation = DISPLAY_ORIENTAYION_PORTRAIT then
    [PerfRequestEx PERF_REQUEST_CMD_ID_DISPLAY_MODE_FULL false,
      PerfRequestEx PERF_REQUEST_CMD_ID_DISPLAY_MODE_MAIN false,
      PerfRequestEx PERF_REQUEST_CMD_ID_DISPLAY_GLOBAL_L false,
      PerfRequestEx PERF_REQUEST_CMD_ID_DISPLAY_GLOBAL_P true]
  else []

def HandleDeviceOrientationStatusChange (plugin : Plugin) (data : ResData) :
    Plugin × List Call :=
  match modeOf data with
  | none => (plugin, [])
  | some (deviceOrientationType, name) =>
      let plugin := { plugin with deviceOrientation := name }
      (plugin, HandleSceenOrientationBoost plugin deviceOrientationType)

/-! ## Performance mode -/

open Call in
def HandlePerformanceModeChange (plugin : Plugin) (value : Int) : Plugin × List Call :=
  if value < POWER_MODE_MIN ∨ value > POWER_MODE_MAX then (plugin, [])
  else
    let plugin := { plugin with performanceMode := value }
    if plugin.performanceMode = PERFORMANCE_MODE then
      (plugin,
        if plugin.screenStatus = SCREEN_ON then
          [PerfRequestEx PERF_REQUEST_CMD_ID_SCREEN_OFF_PERFORMANCE_MODE false,
            PerfRequestEx PERF_REQUEST_CMD_ID_SCREEN_ON_PERFORMANCE_MODE true]
        else if plugin.screenStatus = SCREEN_OFF then
          [PerfRequestEx PERF_REQUEST_CMD_ID_SCREEN_ON_PERFORMANCE_MODE false,
            PerfRequestEx PERF_REQUEST_CMD_ID_SCREEN_OFF_PERFORMANCE_MODE true]
        else [])
    else
      (plugin,
        [PerfRequestEx PERF_REQUEST_CMD_ID_SCREEN_ON_PERFORMANCE_MODE false,
          PerfRequestEx PERF_REQUEST_CMD_ID_SCREEN_OFF_PERFORMANCE_MODE false] ++
        (if plugin.screenStatus = SCREEN_ON then
          [PerfRequestEx PERF_REQUEST_CMD_ID_SCREEN_OFF false,
            PerfRequestEx PERF_REQUEST_CMD_ID_SCREEN_ON true]
        else if plugin.screenStatus = SCREEN_OFF then
          [PerfRequestEx PERF_REQUEST_CMD_ID_SCREEN_ON false,
            PerfRequestEx PERF_REQUEST_CMD_ID_SCREEN_OFF true]
        else []))

/-! ## The plugin and the requests it has made -/

def HandleEvent (plugin : Plugin) : Event → Plugin × List Call
  | .screenStatus value => HandleScreenStatusAnalysis plugin value
  | .displayPowerWakeUp value => HandleDisplayPowerWakeUp plugin value
  | .deviceModeStatus data => HandleDeviceModeStatusChange plugin data
  | .deviceOrientationStatus data => HandleDeviceOrientationStatusChange plugin data
  | .performanceMode value => HandlePerformanceModeChange plugin value
  | .screenOffTask => runScreenOffTask plugin

/-- What an event changes in the plugin. -/
theorem HandleEvent_plugin (plugin : Plugin) (event : Event) :
    (HandleEvent plugin event).1 =
      match event with
      | .screenStatus value =>
          { plugin with
            screenStatus := value
            screenOffTasks :=
              if value = SCREEN_OFF then plugin.screenOffTasks + 1 else plugin.screenOffTasks }
      | .displayPowerWakeUp _ => plugin
      | .deviceModeStatus data =>
          { plugin with deviceMode := ((modeOf data).map Prod.snd).getD plugin.deviceMode }
      | .deviceOrientationStatus data =>
          { plugin with
            deviceOrientation := ((modeOf data).map Prod.snd).getD plugin.deviceOrientation }
      | .performanceMode value =>
          { plugin with
            performanceMode :=
              if value < POWER_MODE_MIN ∨ value > POWER_MODE_MAX then plugin.performanceMode
              else value }
      | .screenOffTask => { plugin with screenOffTasks := plugin.screenOffTasks - 1 } := by
  cases event with
  | screenStatus value =>
      simp only [HandleEvent, HandleScreenStatusAnalysis]
      split_ifs <;> rfl
  | displayPowerWakeUp value =>
      simp only [HandleEvent, HandleDisplayPowerWakeUp]
      split_ifs <;> rfl
  | deviceModeStatus data =>
      simp only [HandleEvent, HandleDeviceModeStatusChange]
      cases modeOf data <;> rfl
  | deviceOrientationStatus data =>
      simp only [HandleEvent, HandleDeviceOrientationStatusChange]
      cases modeOf data <;> rfl
  | performanceMode value =>
      simp only [HandleEvent, HandlePerformanceModeChange]
      split_ifs <;> rfl
  | screenOffTask =>
      simp only [HandleEvent, runScreenOffTask]
      split_ifs with h
      · cases plugin
        simp_all
      · rfl

/-- The request a call makes: `PerfRequestEx` alone concerns the boosts. -/
def requestOf : Call → Option (Nat × Bool)
  | .PerfRequestEx cmdId onOffTag => some (cmdId, onOffTag)
  | .RequestDeviceMode _ _ => none

/-- The requests the calls of a handler make, in order. -/
def requestsOf (calls : List Call) : List (Nat × Bool) :=
  calls.filterMap requestOf

theorem requestsOf_append (calls later : List Call) :
    requestsOf (calls ++ later) = requestsOf calls ++ requestsOf later := by
  simp [requestsOf]

/-- The plugin with, for each request, whether the last `PerfRequestEx` for it turned it on. -/
structure System where
  plugin : Plugin
  active : Nat → Bool

def System.start : System :=
  ⟨Plugin.created, fun _ => false⟩

def System.handle (system : System) (event : Event) : System :=
  let (plugin, calls) := HandleEvent system.plugin event
  ⟨plugin, WriteLog.apply (requestsOf calls) system.active⟩

end ResSched.SocPerf.Screen
