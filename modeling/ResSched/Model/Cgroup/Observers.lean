import ResSched.Model.Cgroup.EventHandler

/-! # The observers the cgroup handlers listen to

The application manager and the window manager call the observers. An observer writes what it is
told into a payload, the numbers as decimal texts, and reports it under a type. The controller
gives a report to the handler of its type.
-/

namespace ResSched.Cgroup

open CLibrary

/-- The types the observers report under. -/
inductive ResType where
  | RES_TYPE_APP_STATE_CHANGE
  | RES_TYPE_ABILITY_STATE_CHANGE
  | RES_TYPE_EXTENSION_STATE_CHANGE
  | RES_TYPE_PROCESS_STATE_CHANGE
  | RES_TYPE_ON_APP_STATE_CHANGED
  | RES_TYPE_KEY_PERF_SCENE
  | RES_TYPE_APP_STOPPED
  | RES_TYPE_PROCESS_PRE_FOREGROUND_CHANGE
  | RES_TYPE_WINDOW_FOCUS
  | RES_TYPE_WINDOW_VISIBILITY_CHANGE
  | RES_TYPE_WINDOW_DRAWING_CONTENT_CHANGE
deriving DecidableEq

/-- The arguments of `ReportData`. -/
structure Report where
  resType : ResType
  value : Int
  payload : Payload

/-- The entry of `dispatchResFuncMap_` for the type of a report. -/
def DispatchResource (report : Report) : Option Event :=
  match report.resType with
  | .RES_TYPE_APP_STATE_CHANGE => some (.HandleApplicationStateChanged report.payload)
  | .RES_TYPE_ABILITY_STATE_CHANGE => some (.HandleAbilityStateChanged report.payload)
  | .RES_TYPE_EXTENSION_STATE_CHANGE => some (.HandleExtensionStateChanged report.payload)
  | .RES_TYPE_PROCESS_STATE_CHANGE =>
      some (.HandleProcessStateChangedEx report.value report.payload)
  | .RES_TYPE_ON_APP_STATE_CHANGED => none
  | .RES_TYPE_KEY_PERF_SCENE => none
  | .RES_TYPE_APP_STOPPED => some (.HandleOnAppStopped report.payload)
  | .RES_TYPE_PROCESS_PRE_FOREGROUND_CHANGE => none
  | .RES_TYPE_WINDOW_FOCUS => some (.HandleFocusStateChange report.value report.payload)
  | .RES_TYPE_WINDOW_VISIBILITY_CHANGE =>
      some (.HandleWindowVisibilityChanged report.value report.payload)
  | .RES_TYPE_WINDOW_DRAWING_CONTENT_CHANGE =>
      some (.HandleDrawingContentChangeWindow report.value report.payload)

/-! ## What the managers tell -/

structure AppStateData where
  bundleName : String
  callerBundleName : String
  uid : Int32
  pid : Int32
  state : Int32
  extensionType : Int32
  preloadMode : Int32
  byCallStatus : Int32
  isFocused : Bool
  isPreloadModule : Bool

structure AbilityStateData where
  bundleName : String
  abilityName : String
  callerBundleName : String
  token : Bool
  uid : Int32
  pid : Int32
  abilityRecordId : Int32
  abilityType : Int32
  abilityState : Int32
  processType : Int32
  callerUid : Int32
  preloadMode : Int32
  extensionAbilityType : Int32
  isInnerNotify : Bool

structure ProcessData where
  bundleName : String
  processName : String
  killReason : String
  uid : Int32
  pid : Int32
  processType : Int32
  renderUid : Int32
  state : Int32
  extensionType : Int32
  hostPid : Int32
  callerPid : Int32
  callerUid : Int32
  preloadMode : Int32
  isKeepAlive : Bool
  isTestMode : Bool
  isPreloadModule : Bool
  isPreloadUIExtension : Bool

structure PreloadProcessData where
  isPreForeground : Bool
  pid : Int32
  uid : Int32
  bundleName : String

structure FocusChangeInfo where
  pid_ : Int32
  uid_ : Int32
  windowId_ : UInt32
  windowType_ : Int32
  displayId_ : UInt64
  realDisplayId_ : UInt64

structure WindowVisibilityInfo where
  pid_ : Int32
  uid_ : Int32
  windowId_ : UInt32
  windowType_ : Int32
  visibilityState_ : UInt32
  callingPid_ : Int32
  moduleName_ : String

structure WindowDrawingContentInfo where
  pid_ : Int32
  uid_ : Int32
  windowId_ : UInt32
  windowType_ : Int32
  drawingContentState_ : Bool

/-- The enumerations of the two managers, and the test for the types of UI extensions. -/
structure Managers extends External where
  EXTENSION_STATE_CREATE : Int
  EXTENSION_STATE_READY : Int
  EXTENSION_STATE_CONNECTED : Int
  EXTENSION_STATE_DISCONNECTED : Int
  EXTENSION_STATE_FOREGROUND : Int
  EXTENSION_STATE_BACKGROUND : Int
  ABILITY_STATE_READY : Int
  ABILITY_STATE_CONNECTED : Int
  ABILITY_STATE_DISCONNECTED : Int
  ABILITY_STATE_FOREGROUND : Int
  WINDOW_VISIBILITY_STATE_TOTALLY_OCCUSION : Nat
  IsUIExtension : Int32 → Bool

/-! ## Texts in a payload -/

/-- `to_string` of a truth value, which is a number. -/
def boolText (b : Bool) : String :=
  if b then "1" else "0"

/-- A number in a payload, as the text `to_string` gives. -/
def textOf {α : Type} [ToString α] (value : α) : Payload :=
  .string (toString value)

/-! ## Applications -/

def CALL_TO_BACKGROUND : Int32 := 1

def ValidateAppStateData (appStateData : AppStateData) : Bool :=
  appStateData.uid > 0 && appStateData.bundleName ≠ ""

/-- The foreground application is reported without its state. -/
def foregroundMembers (appStateData : AppStateData) : List (String × Payload) := [
  ("pid", textOf appStateData.pid),
  ("uid", textOf appStateData.uid),
  ("bundleName", .string appStateData.bundleName),
  ("preloadMode", textOf appStateData.preloadMode),
  ("isFocused", .string (boolText appStateData.isFocused))]

def OnForegroundApplicationChanged (appStateData : AppStateData) : List Report :=
  if !ValidateAppStateData appStateData then []
  else
    [⟨.RES_TYPE_APP_STATE_CHANGE, appStateData.state.toInt,
      Json.assign (foregroundMembers appStateData)⟩]

def applicationMembers (appStateData : AppStateData) : List (String × Payload) := [
  ("pid", textOf appStateData.pid),
  ("uid", textOf appStateData.uid),
  ("bundleName", .string appStateData.bundleName),
  ("extensionType", textOf (toUnsigned 32 appStateData.extensionType.toInt)),
  ("isPreload", .string (boolText appStateData.isPreloadModule)),
  ("preloadMode", textOf appStateData.preloadMode),
  ("state", textOf appStateData.state),
  ("callerBundleName", .string appStateData.callerBundleName),
  ("isStartedByCallToBackground",
    .string (boolText (appStateData.byCallStatus = CALL_TO_BACKGROUND)))]

def OnApplicationStateChanged (appStateData : AppStateData) : List Report :=
  if !ValidateAppStateData appStateData then []
  else
    [⟨.RES_TYPE_APP_STATE_CHANGE, appStateData.state.toInt,
      Json.assign (applicationMembers appStateData)⟩]

/-- Here the numbers stay numbers. -/
def MarshallingAppStateData (appStateData : AppStateData) : List (String × Payload) := [
  ("pid", .int appStateData.pid.toInt),
  ("uid", .int appStateData.uid.toInt),
  ("bundleName", .string appStateData.bundleName),
  ("state", .uint (toUnsigned 32 appStateData.state.toInt)),
  ("extensionType", .uint (toUnsigned 32 appStateData.extensionType.toInt)),
  ("isFocused", .bool appStateData.isFocused),
  ("preloadMode", textOf appStateData.preloadMode)]

def OnAppStateChanged (appStateData : AppStateData) : List Report :=
  if !ValidateAppStateData appStateData then []
  else
    [⟨.RES_TYPE_ON_APP_STATE_CHANGED, appStateData.state.toInt,
      Json.assign (MarshallingAppStateData appStateData)⟩]

def OnAppCacheStateChanged (appStateData : AppStateData) : List Report :=
  if !ValidateAppStateData appStateData then []
  else
    [⟨.RES_TYPE_KEY_PERF_SCENE, appStateData.state.toInt,
      Json.assign (MarshallingAppStateData appStateData ++ [("extType", .string "10008")])⟩]

def OnAppStopped (appStateData : AppStateData) : List Report :=
  if !ValidateAppStateData appStateData then []
  else
    [⟨.RES_TYPE_APP_STOPPED, appStateData.state.toInt,
      Json.assign (MarshallingAppStateData appStateData)⟩]

/-! ## Abilities and extensions -/

def ValidateAbilityStateData (abilityStateData : AbilityStateData) : Bool :=
  abilityStateData.uid > 0 && abilityStateData.pid ≥ 0 && abilityStateData.bundleName ≠ "" &&
    abilityStateData.abilityName ≠ "" && abilityStateData.token

def extensionStateToAbilityState_ (managers : Managers) : List (Int × Int) := [
  (toSigned 32 managers.EXTENSION_STATE_CREATE, toSigned 32 managers.ABILITY_STATE_CREATE),
  (toSigned 32 managers.EXTENSION_STATE_READY, toSigned 32 managers.ABILITY_STATE_READY),
  (toSigned 32 managers.EXTENSION_STATE_CONNECTED, toSigned 32 managers.ABILITY_STATE_CONNECTED),
  (toSigned 32 managers.EXTENSION_STATE_DISCONNECTED,
    toSigned 32 managers.ABILITY_STATE_DISCONNECTED),
  (toSigned 32 managers.EXTENSION_STATE_TERMINATED, toSigned 32 managers.ABILITY_STATE_TERMINATED),
  (toSigned 32 managers.EXTENSION_STATE_FOREGROUND, toSigned 32 managers.ABILITY_STATE_FOREGROUND),
  (toSigned 32 managers.EXTENSION_STATE_BACKGROUND, toSigned 32 managers.ABILITY_STATE_BACKGROUND)]

/-- `IsUIExtensionAbilityStateChanged`, with the ability state the extension state stands for. -/
def uiExtensionAbilityState (managers : Managers) (abilityStateData : AbilityStateData) :
    Option Int :=
  if abilityStateData.extensionAbilityType < 0 then none
  else
    match (extensionStateToAbilityState_ managers).lookup abilityStateData.abilityState.toInt with
    | none => none
    | some abilityState =>
        if managers.IsUIExtension abilityStateData.extensionAbilityType then some abilityState
        else none

/-- The members only a UI extension has. -/
def uiExtensionMembers (abilityStateData : AbilityStateData) : Option Int → List (String × Payload)
  | none => []
  | some _ => [
      ("processType", textOf abilityStateData.processType),
      ("uiExtensionState", textOf abilityStateData.abilityState)]

def abilityMembers (abilityStateData : AbilityStateData) (abilityState : Int) :
    List (String × Payload) := [
  ("pid", textOf abilityStateData.pid),
  ("uid", textOf abilityStateData.uid),
  ("bundleName", .string abilityStateData.bundleName),
  ("abilityName", .string abilityStateData.abilityName),
  ("recordId", textOf abilityStateData.abilityRecordId),
  ("abilityType", textOf abilityStateData.abilityType),
  ("abilityState", textOf abilityState),
  ("callerUid", textOf abilityStateData.callerUid),
  ("preloadMode", textOf abilityStateData.preloadMode),
  ("extensionAbilityType", textOf abilityStateData.extensionAbilityType)]

def OnAbilityStateChanged (managers : Managers) (abilityStateData : AbilityStateData) :
    List Report :=
  if !ValidateAbilityStateData abilityStateData then []
  else if abilityStateData.isInnerNotify then []
  else
    let uiState := uiExtensionAbilityState managers abilityStateData
    let abilityState := uiState.getD abilityStateData.abilityState.toInt
    [⟨.RES_TYPE_ABILITY_STATE_CHANGE, abilityState,
      Json.assign (uiExtensionMembers abilityStateData uiState ++
        abilityMembers abilityStateData abilityState)⟩]

def extensionMembers (abilityStateData : AbilityStateData) : List (String × Payload) := [
  ("pid", textOf abilityStateData.pid),
  ("uid", textOf abilityStateData.uid),
  ("bundleName", .string abilityStateData.bundleName),
  ("abilityName", .string abilityStateData.abilityName),
  ("recordId", textOf abilityStateData.abilityRecordId),
  ("extensionState", textOf abilityStateData.abilityState),
  ("abilityType", textOf abilityStateData.abilityType),
  ("extensionAbilityType", textOf abilityStateData.extensionAbilityType),
  ("callerBundleName", .string abilityStateData.callerBundleName)]

def OnExtensionStateChanged (managers : Managers) (abilityStateData : AbilityStateData) :
    List Report :=
  if !ValidateAbilityStateData abilityStateData then []
  else if (uiExtensionAbilityState managers abilityStateData).isSome then
    OnAbilityStateChanged managers abilityStateData
  else
    [⟨.RES_TYPE_EXTENSION_STATE_CHANGE, abilityStateData.abilityState.toInt,
      Json.assign (extensionMembers abilityStateData)⟩]

/-! ## Processes -/

def ValidateProcessData (processData : ProcessData) : Bool :=
  processData.uid > 0 && processData.pid ≥ 0 && processData.bundleName ≠ ""

def MarshallingProcessData (processData : ProcessData) : List (String × Payload) := [
  ("pid", textOf processData.pid),
  ("uid", textOf processData.uid),
  ("processType", textOf processData.processType),
  ("renderUid", textOf processData.renderUid),
  ("bundleName", .string processData.bundleName),
  ("state", textOf (toUnsigned 32 processData.state.toInt)),
  ("extensionType", textOf (toUnsigned 32 processData.extensionType.toInt)),
  ("isKeepAlive", .string (boolText processData.isKeepAlive)),
  ("isTestMode", .string (boolText processData.isTestMode)),
  ("processName", .string processData.processName),
  ("hostPid", textOf processData.hostPid),
  ("callerPid", textOf processData.callerPid),
  ("callerUid", textOf processData.callerUid),
  ("killReason", .string processData.killReason),
  ("isPreloadModule", .string (boolText processData.isPreloadModule)),
  ("preloadMode", textOf processData.preloadMode),
  ("isPreloadUIExtension", .string (boolText processData.isPreloadUIExtension))]

def reportProcess (value : Int) (processData : ProcessData) : List Report :=
  if !ValidateProcessData processData then []
  else
    [⟨.RES_TYPE_PROCESS_STATE_CHANGE, value, Json.assign (MarshallingProcessData processData)⟩]

def OnProcessCreated (processData : ProcessData) : List Report :=
  reportProcess PROCESS_CREATED processData

def OnProcessDied (processData : ProcessData) : List Report :=
  reportProcess PROCESS_DIED processData

def OnProcessStateChanged (processData : ProcessData) : List Report :=
  reportProcess processData.state.toInt processData

def OnProcessPreForegroundChanged (data : PreloadProcessData) : List Report :=
  if data.uid ≤ 0 ∨ data.pid ≤ 0 then []
  else
    [⟨.RES_TYPE_PROCESS_PRE_FOREGROUND_CHANGE, 0, Json.assign [
      ("isPreForeground", .bool data.isPreForeground),
      ("pid", .int data.pid.toInt),
      ("uid", .int data.uid.toInt),
      ("bundleName", .string data.bundleName)]⟩]

/-! ## Windows -/

def VISIBLE : Int := 1
def INVISIBLE : Int := 0
def Drawing : Int := 1
def NotDrawing : Int := 0

def focusMembers (focusChangeInfo : FocusChangeInfo) : List (String × Payload) := [
  ("pid", textOf focusChangeInfo.pid_),
  ("uid", textOf focusChangeInfo.uid_),
  ("windowId", textOf focusChangeInfo.windowId_),
  ("windowType", textOf focusChangeInfo.windowType_),
  ("displayId", textOf focusChangeInfo.displayId_),
  ("realDisplayId", textOf focusChangeInfo.realDisplayId_)]

def reportFocus (value : Int) : Option FocusChangeInfo → List Report
  | none => []
  | some focusChangeInfo =>
      [⟨.RES_TYPE_WINDOW_FOCUS, value, Json.assign (focusMembers focusChangeInfo)⟩]

def OnFocused (focusChangeInfo : Option FocusChangeInfo) : List Report :=
  reportFocus WINDOW_FOCUS focusChangeInfo

def OnUnfocused (focusChangeInfo : Option FocusChangeInfo) : List Report :=
  reportFocus WINDOW_UNFOCUS focusChangeInfo

def isVisible (managers : Managers) (info : WindowVisibilityInfo) : Bool :=
  info.visibilityState_.toNat < managers.WINDOW_VISIBILITY_STATE_TOTALLY_OCCUSION

def MarshallingWindowVisibilityInfo (managers : Managers) (info : WindowVisibilityInfo) :
    List (String × Payload) := [
  ("pid", textOf info.pid_),
  ("uid", textOf info.uid_),
  ("windowId", textOf info.windowId_),
  ("windowType", textOf info.windowType_),
  ("isVisible", .bool (isVisible managers info)),
  ("visibilityState", textOf info.visibilityState_),
  ("callingPid", textOf info.callingPid_),
  ("moduleName", .string info.moduleName_)]

def reportVisibility (managers : Managers) (info : WindowVisibilityInfo) : Report :=
  ⟨.RES_TYPE_WINDOW_VISIBILITY_CHANGE, if isVisible managers info then VISIBLE else INVISIBLE,
    Json.assign (MarshallingWindowVisibilityInfo managers info)⟩

/-- The infos that are null are skipped. -/
def OnWindowVisibilityChanged (managers : Managers)
    (windowVisibilityInfo : List (Option WindowVisibilityInfo)) : List Report :=
  windowVisibilityInfo.filterMap fun info => info.map (reportVisibility managers)

def MarshallingWindowDrawingContentInfo (info : WindowDrawingContentInfo) :
    List (String × Payload) := [
  ("pid", textOf info.pid_),
  ("uid", textOf info.uid_),
  ("windowId", textOf info.windowId_),
  ("windowType", textOf info.windowType_),
  ("drawingContentState", .bool info.drawingContentState_)]

def reportDrawing (info : WindowDrawingContentInfo) : Report :=
  ⟨.RES_TYPE_WINDOW_DRAWING_CONTENT_CHANGE,
    if info.drawingContentState_ then Drawing else NotDrawing,
    Json.assign (MarshallingWindowDrawingContentInfo info)⟩

def OnWindowDrawingContentChanged (changeInfo : List (Option WindowDrawingContentInfo)) :
    List Report :=
  changeInfo.filterMap fun info => info.map reportDrawing

/-! ## Any callback -/

inductive Callback where
  | OnForegroundApplicationChanged (appStateData : AppStateData)
  | OnApplicationStateChanged (appStateData : AppStateData)
  | OnAppStateChanged (appStateData : AppStateData)
  | OnAppCacheStateChanged (appStateData : AppStateData)
  | OnAppStopped (appStateData : AppStateData)
  | OnAbilityStateChanged (abilityStateData : AbilityStateData)
  | OnExtensionStateChanged (abilityStateData : AbilityStateData)
  | OnProcessCreated (processData : ProcessData)
  | OnProcessDied (processData : ProcessData)
  | OnProcessStateChanged (processData : ProcessData)
  | OnProcessPreForegroundChanged (data : PreloadProcessData)
  | OnFocused (focusChangeInfo : Option FocusChangeInfo)
  | OnUnfocused (focusChangeInfo : Option FocusChangeInfo)
  | OnWindowVisibilityChanged (windowVisibilityInfo : List (Option WindowVisibilityInfo))
  | OnWindowDrawingContentChanged (changeInfo : List (Option WindowDrawingContentInfo))

/-- The reports of a callback, in their order. -/
def Callback.reports (managers : Managers) : Callback → List Report
  | .OnForegroundApplicationChanged data => Cgroup.OnForegroundApplicationChanged data
  | .OnApplicationStateChanged data => Cgroup.OnApplicationStateChanged data
  | .OnAppStateChanged data => Cgroup.OnAppStateChanged data
  | .OnAppCacheStateChanged data => Cgroup.OnAppCacheStateChanged data
  | .OnAppStopped data => Cgroup.OnAppStopped data
  | .OnAbilityStateChanged data => Cgroup.OnAbilityStateChanged managers data
  | .OnExtensionStateChanged data => Cgroup.OnExtensionStateChanged managers data
  | .OnProcessCreated data => Cgroup.OnProcessCreated data
  | .OnProcessDied data => Cgroup.OnProcessDied data
  | .OnProcessStateChanged data => Cgroup.OnProcessStateChanged data
  | .OnProcessPreForegroundChanged data => Cgroup.OnProcessPreForegroundChanged data
  | .OnFocused info => Cgroup.OnFocused info
  | .OnUnfocused info => Cgroup.OnUnfocused info
  | .OnWindowVisibilityChanged infos => Cgroup.OnWindowVisibilityChanged managers infos
  | .OnWindowDrawingContentChanged infos => Cgroup.OnWindowDrawingContentChanged infos

/-- A callback with all its reports handled. -/
def Supervisor.receive (managers : Managers) (supervisor : Supervisor) (callback : Callback) :
    Supervisor :=
  ((callback.reports managers).filterMap DispatchResource).foldl
    (Supervisor.handle managers.toExternal) supervisor

end ResSched.Cgroup
