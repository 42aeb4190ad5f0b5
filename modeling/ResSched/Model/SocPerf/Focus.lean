import ResSched.Library.CLibrary
import ResSched.Model.Json
import ResSched.Model.PluginConfig
import Mathlib.Data.Finset.Card

/-! # Focused applications, weak interaction and game focus of the SocPerf plugin -/

namespace ResSched.SocPerf.Focus

open CLibrary

def INVALID_VALUE : Int := -1
def INVALID_APP_TYPE : Int := 0
def APP_TYPE_GAME : Int := 2
def SOC_PERF_SA_ID : Int := 1906
def WEAK_ACTION_MODE : String := "actionmode:weakaction"

def UID_NAME : String := "uid"
def PID_NAME : String := "pid"
def BUNDLE_NAME : String := "bundleName"
def PRELOAD_MODE : String := "preloadMode"
def EXTENSION_TYPE_KEY : String := "extensionType"
def GAME_ENV : String := "env"
def ENABLE_STRING : String := "enable"
def KEY_APP_TYPE : String := "key_app_type"
def SOCPERF_POLICY_MODE : String := "socperf_mode"
def PRELOAD_SET : List String := ["1", "2", "4"]
def UI_SENSITIVE_EXTENSION : List Int := [2, 255, 256, 257, 500]

def WINDOW_FOCUS : Int := 0
def WINDOW_UNFOCUS : Int := 1
def APP_COLD_START : Int := 1
def PROCESS_CREATED : Int := 0
def PROCESS_DIED : Int := 5
def APP_UNINSTALL : Int := 0
def GAME_CUST : Int := 1
def GAME_GEE_FOCUS_STATE : Int := 4
def GAME_LOST_FOCUS_STATE : Int := 5

structure AppKeyMessage where
  appType : Int
  bundleName : String
deriving DecidableEq

/-- What the plugin gets from elsewhere: the function of the application types once it is
loaded, the bundle manager, and the validator of signatures. -/
structure External where
  reqAppTypeFunc_ : Option (String → Int)
  GetBundleNameByUid : Int → String
  CheckSignatureByBundleName : String → Bool

/-- The calls on `SocPerfClient` that depend on the state kept here. -/
inductive Call where
  | RequestDeviceMode (mode : String) (status : Bool)
  | PowerLimitBoost (onOffTag : Bool)
  | ThermalLimitBoost (onOffTag : Bool)
deriving DecidableEq

structure ResData where
  value : Int
  payload : Json String

/-- The fields of `SocPerfPlugin` about focused applications, and the calls made so far while
the current event is handled. -/
structure Plugin where
  focusAppUids_ : Finset Int
  uidToAppMsgMap_ : AssocMap Int AppKeyMessage
  pidToAppTypeMap_ : AssocMap Int Int
  isFocusAppsGameType_ : Bool
  weakActionEnable_ : Bool
  weakActionStatus_ : Bool
  keyAppName_ : Finset String
  keyAppType_ : Finset Int
  focusCustGameUids_ : Finset Int
  custGameState_ : Bool
  powerLimit_ : Option Bool
  thermalLimit_ : Option Bool
  calls : List Call

def Plugin.created : Plugin where
  focusAppUids_ := ∅
  uidToAppMsgMap_ := ∅
  pidToAppTypeMap_ := ∅
  isFocusAppsGameType_ := false
  weakActionEnable_ := true
  weakActionStatus_ := true
  keyAppName_ := ∅
  keyAppType_ := ∅
  focusCustGameUids_ := ∅
  custGameState_ := false
  powerLimit_ := none
  thermalLimit_ := none
  calls := []

/-! ## Payloads -/

/-- The integer a string member of the payload stands for. -/
def GetPidByData (payload : Json String) (key : String) : Int :=
  match (payload.find? key).bind Json.string? with
  | none => INVALID_VALUE
  | some text => atoi text

def GetUidByData (payload : Json String) : Int :=
  GetPidByData payload UID_NAME

def ParsePayload (payload : Json String) (key : String) : Int :=
  match payload.find? key with
  | some (.string text) => atoi text
  | some (.int i) => toSigned 32 i
  | some (.uint n) => toSigned 32 n
  | _ => INVALID_VALUE

/-- An integer member of the payload, read as a 32-bit number. -/
def integerByData (payload : Json String) (key : String) : Option Int :=
  ((payload.find? key).bind Json.integer?).map (toSigned 32)

/-- The bundle name in the payload, as a C string. -/
def bundleNameOf (payload : Json String) : Option String :=
  ((payload.find? BUNDLE_NAME).bind Json.string?).map cString

/-! ## Weak interaction -/

/-- Whether an application counts as a key application: its name is listed and signed, or its
type is listed. -/
def isKeyMessage (env : External) (plugin : Plugin) (appMsg : AppKeyMessage) : Bool :=
  (appMsg.bundleName ∈ plugin.keyAppName_ && env.CheckSignatureByBundleName appMsg.bundleName) ||
    appMsg.appType ∈ plugin.keyAppType_

/-- The same of what the map holds for a uid. -/
def isKeyEntry (env : External) (plugin : Plugin) (entry : Option AppKeyMessage) : Bool :=
  match entry with
  | none => false
  | some appMsg => isKeyMessage env plugin appMsg

def UpdateWeakActionStatus (env : External) (plugin : Plugin) : Plugin :=
  let status :=
    if ∃ appUid ∈ plugin.focusAppUids_,
        isKeyEntry env plugin (plugin.uidToAppMsgMap_.lookup appUid) = true then false
    else plugin.weakActionEnable_
  let status := if plugin.custGameState_ then false else status
  if status ≠ plugin.weakActionStatus_ then
    { plugin with
      weakActionStatus_ := status
      calls := plugin.calls ++ [.RequestDeviceMode WEAK_ACTION_MODE status] }
  else plugin

def SetWeakActionEnable (env : External) (plugin : Plugin) (subValue : String) : Plugin :=
  if subValue = "" then plugin
  else
    UpdateWeakActionStatus env
      { plugin with weakActionEnable_ := decide (atoi subValue ≠ 0) }

def AddKeyAppName (plugin : Plugin) (subValue : String) : Plugin :=
  if subValue = "" then plugin
  else { plugin with keyAppName_ := insert subValue plugin.keyAppName_ }

def AddKeyAppType (plugin : Plugin) (subValue : String) : Plugin :=
  if subValue = "" then plugin
  else { plugin with keyAppType_ := insert (atoi subValue) plugin.keyAppType_ }

def loadWeakSubItem (env : External) (plugin : Plugin) (sub : SubItem) : Plugin :=
  if sub.name = ENABLE_STRING then SetWeakActionEnable env plugin sub.value
  else if sub.name = BUNDLE_NAME then AddKeyAppName plugin sub.value
  else if sub.name = KEY_APP_TYPE then AddKeyAppType plugin sub.value
  else plugin

def LoadWeakInterAction (env : External) (plugin : Plugin) (itemLists : PluginConfig) : Plugin :=
  itemLists.itemList.foldl (fun plugin item => item.subItemList.foldl (loadWeakSubItem env) plugin)
    plugin

/-! ## Limits of the policy -/

def GetPolicyMode (socperfPolicy : PluginConfig) : String :=
  socperfPolicy.itemList.foldl (fun policyMode item =>
    item.subItemList.foldl (fun policyMode sub =>
      if sub.name = SOCPERF_POLICY_MODE then sub.value else policyMode) policyMode) ""

def ApplyPolicyLimits (limitPolicy : PluginConfig) (policyMode : String) (plugin : Plugin) :
    Plugin :=
  match limitPolicy.itemList.find? fun item =>
      item.itemProperties.lookup "key" = some policyMode with
  | none => plugin
  | some item =>
      item.subItemList.foldl (fun plugin sub =>
        if sub.name = "power_limit" then
          { plugin with powerLimit_ := some (decide (atoi sub.value ≠ 0)) }
        else if sub.name = "thermal_limit" then
          { plugin with thermalLimit_ := some (decide (atoi sub.value ≠ 0)) }
        else plugin) plugin

def InitPolicyMode (plugin : Plugin) (socperfPolicy limitPolicy : PluginConfig) : Plugin :=
  if socperfPolicy.itemList ≠ [] ∧ limitPolicy.itemList ≠ [] then
    ApplyPolicyLimits limitPolicy (GetPolicyMode socperfPolicy) plugin
  else plugin

/-- The configurations `Init` reads the state kept here from. -/
structure Configs where
  weakInterAction : PluginConfig
  socperfPolicy : PluginConfig
  limitPolicy : PluginConfig

def Init (env : External) (configs : Configs) : Plugin :=
  InitPolicyMode (LoadWeakInterAction env Plugin.created configs.weakInterAction)
    configs.socperfPolicy configs.limitPolicy

/-! ## Focused applications -/

def isGameEntry (entry : Option AppKeyMessage) : Bool :=
  match entry with
  | none => false
  | some appMsg => appMsg.appType = APP_TYPE_GAME

def IsFocusAppsAllGame (plugin : Plugin) : Bool :=
  if plugin.focusAppUids_ = ∅ ∨ plugin.uidToAppMsgMap_.keys = [] then false
  else
    decide (∀ uid ∈ plugin.focusAppUids_, isGameEntry (plugin.uidToAppMsgMap_.lookup uid) = true)

def UpdatesFocusAppsType (plugin : Plugin) (appType : Int) : Bool :=
  if plugin.focusAppUids_.card = 1 then appType = APP_TYPE_GAME
  else plugin.isFocusAppsGameType_ && appType = APP_TYPE_GAME

def setPidType (plugin : Plugin) (pid appType : Int) : Plugin :=
  if pid ≠ INVALID_VALUE then
    { plugin with pidToAppTypeMap_ := plugin.pidToAppTypeMap_.insert pid appType }
  else plugin

def isValidType (appType : Int) : Bool :=
  appType ≠ INVALID_VALUE && appType ≠ INVALID_APP_TYPE

/-- The second half of `UpdateFocusAppType` for an application that has got the focus. -/
def typeFocusedApp (env : External) (plugin : Plugin) (uid pid : Int) : Plugin :=
  match plugin.uidToAppMsgMap_.lookup uid with
  | some appMsg =>
      let plugin := setPidType plugin pid appMsg.appType
      { plugin with isFocusAppsGameType_ := UpdatesFocusAppsType plugin appMsg.appType }
  | none =>
      match env.reqAppTypeFunc_ with
      | none => plugin
      | some reqAppTypeFunc_ =>
          let bundleName := env.GetBundleNameByUid uid
          let focusAppType := reqAppTypeFunc_ bundleName
          let plugin :=
            if isValidType focusAppType then
              { setPidType plugin pid focusAppType with
                uidToAppMsgMap_ := plugin.uidToAppMsgMap_.insert uid ⟨focusAppType, bundleName⟩ }
            else plugin
          { plugin with isFocusAppsGameType_ := UpdatesFocusAppsType plugin focusAppType }

def UpdateFocusAppType (env : External) (plugin : Plugin) (payload : Json String)
    (focusStatus : Bool) : Plugin :=
  let uid := GetUidByData payload
  if uid = INVALID_VALUE then plugin
  else if !focusStatus then
    let plugin := { plugin with focusAppUids_ := plugin.focusAppUids_.erase uid }
    let plugin := UpdateWeakActionStatus env plugin
    { plugin with isFocusAppsGameType_ := IsFocusAppsAllGame plugin }
  else
    let plugin := { plugin with focusAppUids_ := insert uid plugin.focusAppUids_ }
    let plugin := UpdateWeakActionStatus env plugin
    typeFocusedApp env plugin uid (GetPidByData payload PID_NAME)

def HandleWindowFocus (env : External) (plugin : Plugin) (data : ResData) : Plugin :=
  if data.value = WINDOW_FOCUS then UpdateFocusAppType env plugin data.payload true
  else if data.value = WINDOW_UNFOCUS then UpdateFocusAppType env plugin data.payload false
  else plugin

/-! ## Applications that start, come and go -/

/-- The form of `UpdateUidToAppMsgMap` for a started application. -/
def UpdateUidToAppMsgMapOfType (plugin : Plugin) (payload : Json String) (appType : Int)
    (bundleName : String) : Plugin :=
  let uid := GetUidByData payload
  if isValidType appType && uid ≠ INVALID_VALUE then
    { plugin with
      uidToAppMsgMap_ := plugin.uidToAppMsgMap_.insert uid ⟨appType, bundleName⟩ }
  else plugin

def HandleAppAbilityStart (env : External) (plugin : Plugin) (data : ResData) : Plugin :=
  if data.value = APP_COLD_START then
    match env.reqAppTypeFunc_, bundleNameOf data.payload with
    | some reqAppTypeFunc_, some bundleName =>
        UpdateUidToAppMsgMapOfType plugin data.payload (reqAppTypeFunc_ bundleName) bundleName
    | _, _ => plugin
  else plugin

/-- The form of `UpdateUidToAppMsgMap` for a created process. -/
def UpdateUidToAppMsgMap (env : External) (plugin : Plugin) (payload : Json String) : Plugin :=
  let uid := GetUidByData payload
  if uid = INVALID_VALUE then plugin
  else if (plugin.uidToAppMsgMap_.lookup uid).isSome then plugin
  else
    match env.reqAppTypeFunc_, bundleNameOf payload with
    | some reqAppTypeFunc_, some bundleName =>
        let appType := reqAppTypeFunc_ bundleName
        if isValidType appType then
          { plugin with
            uidToAppMsgMap_ := plugin.uidToAppMsgMap_.insert uid ⟨appType, bundleName⟩ }
        else plugin
    | _, _ => plugin

/-- A preloaded process is not taken for a started one. -/
def isPreload (payload : Json String) : Bool :=
  match (payload.find? PRELOAD_MODE).bind Json.string? with
  | none => false
  | some preloadMode => preloadMode ∈ PRELOAD_SET

def HandleAppStateChange (env : External) (plugin : Plugin) (data : ResData) : Plugin :=
  if data.value ≠ PROCESS_CREATED then plugin
  else if ParsePayload data.payload EXTENSION_TYPE_KEY ∈ UI_SENSITIVE_EXTENSION then
    if isPreload data.payload then plugin
    else UpdateUidToAppMsgMap env plugin data.payload
  else plugin

def HandleUninstallEvent (plugin : Plugin) (data : ResData) : Plugin :=
  if data.value ≠ APP_UNINSTALL then plugin
  else
    match integerByData data.payload UID_NAME with
    | none => plugin
    | some uid =>
        if uid = INVALID_VALUE then plugin
        else { plugin with uidToAppMsgMap_ := plugin.uidToAppMsgMap_.erase uid }

def HandleProcessStateChange (plugin : Plugin) (data : ResData) : Plugin :=
  if data.value = PROCESS_DIED then
    let pid := GetPidByData data.payload PID_NAME
    if pid = INVALID_VALUE then plugin
    else { plugin with pidToAppTypeMap_ := plugin.pidToAppTypeMap_.erase pid }
  else plugin

/-! ## Custom games -/

def UpdateCustGameState (env : External) (plugin : Plugin) (value uid : Int) : Plugin :=
  let plugin :=
    if value = GAME_GEE_FOCUS_STATE then
      { plugin with
        focusCustGameUids_ := insert uid plugin.focusCustGameUids_
        custGameState_ := true }
    else if value = GAME_LOST_FOCUS_STATE then
      let focusCustGameUids_ := plugin.focusCustGameUids_.erase uid
      { plugin with
        focusCustGameUids_ := focusCustGameUids_
        custGameState_ := if focusCustGameUids_.card = 0 then false else plugin.custGameState_ }
    else plugin
  UpdateWeakActionStatus env plugin

def HandleGameStateChange (env : External) (plugin : Plugin) (data : ResData) : Plugin :=
  match integerByData data.payload UID_NAME, (data.payload.find? GAME_ENV).bind Json.integer? with
  | some uid, some gameEnv =>
      if gameEnv = GAME_CUST then UpdateCustGameState env plugin data.value uid else plugin
  | _, _ => plugin

/-! ## The socperf service -/

def ReportConfiguredLimitBoost (plugin : Plugin) : Plugin :=
  { plugin with
    calls := plugin.calls ++ (plugin.powerLimit_.map Call.PowerLimitBoost).toList ++
      (plugin.thermalLimit_.map Call.PowerLimitBoost).toList }

def ReportAbilityStatus (env : External) (plugin : Plugin) (data : ResData) : Plugin :=
  match integerByData data.payload "saId" with
  | none => plugin
  | some saId =>
      if saId = SOC_PERF_SA_ID ∧ data.value > 0 then
        ReportConfiguredLimitBoost (UpdateWeakActionStatus env plugin)
      else plugin

/-! ## Events -/

/-- The events that reach the state kept here. A cloud configuration is the one it holds for
weak interaction, once parsed. -/
inductive Event where
  | HandleWindowFocus (data : ResData)
  | HandleAppAbilityStart (data : ResData)
  | HandleAppStateChange (data : ResData)
  | HandleUninstallEvent (data : ResData)
  | HandleProcessStateChange (data : ResData)
  | HandleGameStateChange (data : ResData)
  | HandleRssCloudConfigUpdate (weakInterAction : Option PluginConfig)
  | ReportAbilityStatus (data : ResData)

def Plugin.dispatch (env : External) (plugin : Plugin) : Event → Plugin
  | .HandleWindowFocus data => HandleWindowFocus env plugin data
  | .HandleAppAbilityStart data => HandleAppAbilityStart env plugin data
  | .HandleAppStateChange data => HandleAppStateChange env plugin data
  | .HandleUninstallEvent data => HandleUninstallEvent plugin data
  | .HandleProcessStateChange data => HandleProcessStateChange plugin data
  | .HandleGameStateChange data => HandleGameStateChange env plugin data
  | .HandleRssCloudConfigUpdate none => plugin
  | .HandleRssCloudConfigUpdate (some itemLists) => LoadWeakInterAction env plugin itemLists
  | .ReportAbilityStatus data => Focus.ReportAbilityStatus env plugin data

/-- The plugin handles an event, with the calls of this event only. -/
def Plugin.handle (env : External) (plugin : Plugin) (event : Event) : Plugin :=
  Plugin.dispatch env { plugin with calls := [] } event

end ResSched.SocPerf.Focus
