import ResSched.Library.CLibrary
import ResSched.Model.Cgroup.Adjuster
import ResSched.Model.Json

/-! # The handlers of cgroup events

A handler updates the records and then calls the adjuster. The calls are returned beside the
updated records, in their order.
-/

namespace ResSched.Cgroup

open CLibrary

/-! ## Values of events -/

def PROCESS_CREATED : Int := 0
def PROCESS_BACKGROUND : Int := 4
def PROCESS_DIED : Int := 5
def TRANSIENT_TASK_START : Int := 0
def TRANSIENT_TASK_END : Int := 1
def CONTINUOUS_TASK_START : Int := 0
def CONTINUOUS_TASK_END : Int := 1
def CONTINUOUS_TASK_UPDATE : Int := 2
def WINDOW_FOCUS : Int := 0
def WINDOW_UNFOCUS : Int := 1
def CREATE : Int := 0
def ACTIVE : Int := 0
def START_SCREEN_CAPTURE : Int := 0
def WEB_SCREEN_CAPTURE_START : Int := 0
def WEB_VIDEO_PLAYING_START : Int := 0
def APPLICATION_ABOUT_TO_HIDE : Int := 1
def APPLICATION_ABOUT_TO_RECOVER : Int := 2
def MAX_SPAN_SERIAL : Int := 99
def PRELOAD_SET : List Int := [1, 2, 4]

/-! ## Parsing a payload -/

abbrev Payload := Json String

def ParseString (name : String) (payload : Payload) : Option String :=
  (payload.find? name).bind Json.string?

def ParseValue (name : String) (payload : Payload) : Option Int :=
  (ParseString name payload).map atoi

def ParseLongValue (name : String) (payload : Payload) : Option Int :=
  (ParseString name payload).map atoll

/-- `ParsePayload`: the uid and the pid of a process, both positive. -/
def ParsePayload (payload : Payload) : Option (Int × Int) := do
  let uid ← ParseValue "uid" payload
  let pid ← ParseValue "pid" payload
  if uid ≤ 0 ∨ pid ≤ 0 then none else return (uid, pid)

/-- The uid and the pid of a process in an event that also names its bundle. -/
def ParseProcess (payload : Payload) : Option (Int × Int) := do
  let uid ← ParseValue "uid" payload
  let pid ← ParseValue "pid" payload
  let _ ← ParseString "bundleName" payload
  return (uid, pid)

/-! ## What a handler leaves to do -/

inductive AdjustCall where
  | AdjustProcessGroup (uid pid : Int) (source : AdjustSource)
  | AdjustAllProcessGroup (uid : Int) (source : AdjustSource)

structure Handled where
  supervisor : Supervisor
  calls : List AdjustCall

def Supervisor.unchanged (supervisor : Supervisor) : Handled :=
  ⟨supervisor, []⟩

/-- A handler returns when its payload does not parse. -/
def Supervisor.parsed {α : Type} (supervisor : Supervisor) (args : Option α)
    (handler : α → Handled) : Handled :=
  match args with
  | none => supervisor.unchanged
  | some args => handler args

/-- Change a process record that exists and adjust it; return when there is none. -/
def Supervisor.withRecordAdjusted (supervisor : Supervisor) (uid pid : Int)
    (f : ProcessRecord → ProcessRecord) (source : AdjustSource) : Handled :=
  match supervisor.record? uid pid with
  | none => supervisor.unchanged
  | some _ =>
      ⟨supervisor.withApp uid (fun app => app.withRecord pid f),
        [.AdjustProcessGroup uid pid source]⟩

/-- Change a process record, made on demand with its application, and adjust it. -/
def Supervisor.withRecordNonNullAdjusted (supervisor : Supervisor) (uid pid : Int)
    (f : ProcessRecord → ProcessRecord) (source : AdjustSource) : Handled :=
  ⟨supervisor.withAppNonNull uid (fun app => app.withRecordNonNull pid f),
    [.AdjustProcessGroup uid pid source]⟩

/-- `GetProcInfoByPayload`: an application that exists, with a process record made on demand. -/
def GetProcInfoByPayload (supervisor : Supervisor) (payload : Payload) :
    Option (Int × Int × Supervisor) := do
  let (uid, pid) ← ParsePayload payload
  let _ ← supervisor.uidsMap.lookup uid
  return (uid, pid, supervisor.withApp uid (fun app => app.withRecordNonNull pid id))

/-! ## Applications and processes -/

def HandleApplicationStateChanged (env : External) (supervisor : Supervisor) (payload : Payload) :
    Handled :=
  supervisor.parsed (do
      let uid ← ParseValue "uid" payload
      let _ ← ParseValue "pid" payload
      let _ ← ParseString "bundleName" payload
      let state ← ParseValue "state" payload
      return (uid, state))
    fun (uid, state) =>
      if state = env.APP_STATE_TERMINATED then supervisor.unchanged
      else ⟨supervisor.withAppNonNull uid id, []⟩

def HandleProcessStateChanged (env : External) (supervisor : Supervisor) (payload : Payload) :
    Handled :=
  supervisor.parsed (do
      let uid ← ParseValue "uid" payload
      let pid ← ParseValue "pid" payload
      let _ ← ParseString "bundleName" payload
      let state ← ParseValue "state" payload
      return (uid, pid, state))
    fun (uid, pid, state) =>
      let preloadMode := (ParseValue "preloadMode" payload).getD (-1)
      if state = PROCESS_BACKGROUND ∧ preloadMode = env.PRE_LAUNCH then
        ⟨supervisor.withAppNonNull uid (fun app =>
          app.withRecordNonNull pid (fun record => { record with processState := state })), []⟩
      else
        supervisor.withRecordNonNullAdjusted uid pid
          (fun record => { record with processState := state, preloadMode := preloadMode })
          .ADJS_PROCESS_STATE

structure ProcessCreateInfo where
  uid : Int
  pid : Int
  hostPid : Int
  extensionType : Int
  processType : Int
  preloadMode : Int

def ParseProcessCreateInfo (payload : Payload) : Option ProcessCreateInfo := do
  let uid ← ParseValue "uid" payload
  let pid ← ParseValue "pid" payload
  let _ ← ParseString "bundleName" payload
  let hostPid ← ParseValue "hostPid" payload
  let extensionType ← ParseValue "extensionType" payload
  let processType ← ParseValue "processType" payload
  let preloadMode ← ParseValue "preloadMode" payload
  return ⟨uid, pid, hostPid, extensionType, processType, preloadMode⟩

/-- The process types whose processes name a host. -/
def namesHost (env : External) (processType : Int) : Bool :=
  processType = env.PROCESS_TYPE_RENDER || processType = env.PROCESS_TYPE_CHILD ||
    processType = env.PROCESS_TYPE_GPU

def createdRecord (env : External) (info : ProcessCreateInfo) (record : ProcessRecord) :
    ProcessRecord :=
  { record with
    processType := if info.processType < PROC_RECORD_TYPE_MAX then info.processType else NORMAL
    hostPid := if namesHost env info.processType then info.hostPid else record.hostPid
    extensionType :=
      if !namesHost env info.processType && info.processType = env.PROCESS_TYPE_EXTENSION then
        info.extensionType
      else record.extensionType
    preloadMode := info.preloadMode }

def createdSource (info : ProcessCreateInfo) (isPreloadUIExtension : Option Int) : AdjustSource :=
  let policy :=
    if info.preloadMode ∈ PRELOAD_SET then AdjustSource.ADJS_APP_PRELOAD else .ADJS_PROCESS_CREATE
  match isPreloadUIExtension with
  | none => policy
  | some value => if value ≠ 0 then .ADJS_UIEXTENSION_PRELOAD else policy

def createApplication (env : External) (info : ProcessCreateInfo) (app : Application) :
    Application :=
  let app := app.withRecordNonNull info.pid (createdRecord env info)
  if namesHost env info.processType then
    { app with hostPidsSet := insert info.hostPid app.hostPidsSet }
  else app

def HandleProcessCreated (env : External) (supervisor : Supervisor) (payload : Payload) : Handled :=
  supervisor.parsed (ParseProcessCreateInfo payload) fun info =>
    ⟨supervisor.withAppNonNull info.uid (createApplication env info),
      [.AdjustProcessGroup info.uid info.pid
        (createdSource info (ParseValue "isPreloadUIExtension" payload))]⟩

def HandleProcessDied (supervisor : Supervisor) (payload : Payload) : Handled :=
  supervisor.parsed (ParseProcess payload) fun (uid, pid) =>
    match supervisor.uidsMap.lookup uid with
    | none => supervisor.unchanged
    | some app =>
        if (app.RemoveProcessRecord pid).pidsMap.keys = [] then
          ⟨supervisor.RemoveApplication uid, []⟩
        else ⟨supervisor.withApp uid (fun app => app.RemoveProcessRecord pid), []⟩

def HandleProcessStateChangedEx (env : External) (supervisor : Supervisor) (value : Int)
    (payload : Payload) : Handled :=
  if value = PROCESS_CREATED then HandleProcessCreated env supervisor payload
  else if value = PROCESS_DIED then HandleProcessDied supervisor payload
  else HandleProcessStateChanged env supervisor payload

/-- The uid of an application that stopped, which is a number. -/
def ParseStopped (payload : Payload) : Option Int := do
  let uid ← (payload.find? "uid").bind Json.integer?
  let _ ← ParseString "bundleName" payload
  return toSigned 32 uid

def HandleOnAppStopped (supervisor : Supervisor) (payload : Payload) : Handled :=
  supervisor.parsed (ParseStopped payload) fun uid => ⟨supervisor.RemoveApplication uid, []⟩

/-! ## Abilities and extensions -/

def HandleExtensionStateChanged (env : External) (supervisor : Supervisor) (payload : Payload) :
    Handled :=
  supervisor.parsed (do
      let uid ← ParseValue "uid" payload
      let pid ← ParseValue "pid" payload
      let _ ← ParseString "bundleName" payload
      let abilityName ← ParseString "abilityName" payload
      let recordId ← ParseValue "recordId" payload
      let extensionState ← ParseValue "extensionState" payload
      let abilityType ← ParseValue "abilityType" payload
      return (uid, pid, abilityName, recordId, extensionState, abilityType))
    fun (uid, pid, abilityName, recordId, extensionState, abilityType) =>
      if extensionState = env.EXTENSION_STATE_TERMINATED then
        supervisor.withRecordAdjusted uid pid
          (fun record => record.RemoveAbilityByRecordId recordId) .ADJS_EXTENSION_STATE
      else
        supervisor.withRecordNonNullAdjusted uid pid
          (fun record => record.withAbilityInfo recordId (fun ability =>
            { ability with name := abilityName, estate := extensionState, type := abilityType }))
          .ADJS_EXTENSION_STATE

def HandleUIExtensionAbilityStateChange (env : External) (supervisor : Supervisor)
    (payload : Payload) : Handled :=
  supervisor.parsed (do
      let _ ← ParseValue "extensionAbilityType" payload
      ParseValue "uiExtensionState" payload)
    fun uiExtensionState =>
      HandleExtensionStateChanged env supervisor
        (payload.set "extensionState" (.string (toString uiExtensionState)))

def HandlePrelaunch (env : External) (abilityState preloadMode : Int) : Bool :=
  (abilityState = env.ABILITY_STATE_CREATE || abilityState = env.ABILITY_STATE_BACKGROUND) &&
    preloadMode = env.PRE_LAUNCH

def HandleAbilityStateChanged (env : External) (supervisor : Supervisor) (payload : Payload) :
    Handled :=
  supervisor.parsed (do
      let uid ← ParseValue "uid" payload
      let pid ← ParseValue "pid" payload
      let _ ← ParseString "bundleName" payload
      let abilityName ← ParseString "abilityName" payload
      let recordId ← ParseValue "recordId" payload
      let _ ← ParseValue "callerUid" payload
      let abilityState ← ParseValue "abilityState" payload
      let abilityType ← ParseValue "abilityType" payload
      return (uid, pid, abilityName, recordId, abilityState, abilityType))
    fun (uid, pid, abilityName, recordId, abilityState, abilityType) =>
      let preloadMode := (ParseValue "preloadMode" payload).getD (-1)
      if abilityType = env.ABILITY_TYPE_EXTENSION then
        HandleUIExtensionAbilityStateChange env supervisor payload
      else if abilityState = env.ABILITY_STATE_TERMINATED then
        supervisor.withRecordAdjusted uid pid
          (fun record => record.RemoveAbilityByRecordId recordId) .ADJS_ABILITY_STATE
      else if HandlePrelaunch env abilityState preloadMode then supervisor.unchanged
      else
        supervisor.withRecordNonNullAdjusted uid pid
          (fun record =>
            { record.withAbilityInfo recordId (fun ability =>
                { ability with name := abilityName, state := abilityState, type := abilityType })
              with preloadMode := preloadMode })
          .ADJS_ABILITY_STATE

/-! ## Tasks -/

def HandleTransientTaskStatus (supervisor : Supervisor) (value : Int) (payload : Payload) :
    Handled :=
  supervisor.parsed (ParseProcess payload) fun (uid, pid) =>
    if value = TRANSIENT_TASK_START ∨ value = TRANSIENT_TASK_END then
      ⟨supervisor.withAppNonNull uid (fun app => app.withRecord pid (fun record =>
        { record with runningTransientTask := value = TRANSIENT_TASK_START })), []⟩
    else supervisor.unchanged

def GetTypeIdsFromJson (payload : Payload) (name : String) : List Nat :=
  match payload.find? name with
  | some (.array elements) => elements.filterMap fun
      | .uint typeId => some (toUnsigned 32 typeId)
      | _ => none
  | _ => []

/-- The flag of the listed types. A shift by 32 or more, which C leaves undefined, shifts by the
count modulo 32. -/
def continuousTaskFlagOf (taskFlags : AssocMap Int (List Nat)) : BitVec 32 :=
  taskFlags.entries.foldl (fun flag entry =>
    entry.2.foldl (fun flag typeId => flag ||| (1#32 <<< (typeId % 32))) flag) 0

def withTaskFlags (taskFlags : AssocMap Int (List Nat)) (record : ProcessRecord) : ProcessRecord :=
  { record with
    abilityIdAndContinuousTaskFlagMap := taskFlags
    continuousTaskFlag := continuousTaskFlagOf taskFlags }

def HandleContinuousTaskUpdate (supervisor : Supervisor) (uid pid : Int) (typeIds : List Nat)
    (abilityId : Int) : Handled :=
  supervisor.withRecordNonNullAdjusted uid pid
    (fun record =>
      withTaskFlags (record.abilityIdAndContinuousTaskFlagMap.insert abilityId typeIds) record)
    .ADJS_CONTINUOUS_BEGIN

/-- The application is made on demand, the process is not. -/
def HandleContinuousTaskCancel (supervisor : Supervisor) (uid pid abilityId : Int) : Handled :=
  (supervisor.withAppNonNull uid id).withRecordAdjusted uid pid
    (fun record =>
      withTaskFlags (record.abilityIdAndContinuousTaskFlagMap.erase abilityId) record)
    .ADJS_CONTINUOUS_END

def HandleContinuousTaskStatus (supervisor : Supervisor) (value : Int) (payload : Payload) :
    Handled :=
  supervisor.parsed (do
      let uid ← ParseValue "uid" payload
      let pid ← ParseValue "pid" payload
      let abilityId ← ParseValue "abilityId" payload
      return (uid, pid, abilityId))
    fun (uid, pid, abilityId) =>
      if value = CONTINUOUS_TASK_START ∨ value = CONTINUOUS_TASK_UPDATE then
        HandleContinuousTaskUpdate supervisor uid pid (GetTypeIdsFromJson payload "typeIds")
          abilityId
      else if value = CONTINUOUS_TASK_END then
        HandleContinuousTaskCancel supervisor uid pid abilityId
      else supervisor.unchanged

/-! ## Windows -/

def focusWindow (isFocused : Bool) (windowType displayId : Int) (window : WindowInfo) :
    WindowInfo :=
  { window with
    windowType := windowType, isFocused := isFocused, displayId := toUnsigned 64 displayId }

def focusApplication (windowId : Nat) (windowType displayId pid : Int) (app : Application) :
    Application :=
  let app := app.withRecordNonNull pid (fun record =>
    { record.withWindowInfo windowId (focusWindow true windowType displayId)
      with linkedWindow := some windowId })
  { app with focusedProcess := app.pointer pid }

def HandleFocusedWindow (supervisor : Supervisor) (windowId : Nat)
    (windowType displayId pid uid : Int) : Handled :=
  ⟨supervisor.withAppNonNull uid (focusApplication windowId windowType displayId pid),
    [.AdjustAllProcessGroup uid .ADJS_FOCUSED_WINDOW]⟩

def unfocusApplication (windowId : Nat) (windowType displayId pid : Int) (app : Application) :
    Application :=
  let app := app.withRecord pid (fun record =>
    record.withWindowInfo windowId (focusWindow false windowType displayId))
  { app with
    focusedProcess := if app.focusedProcess = app.pointer pid then none else app.focusedProcess }

def HandleUnfocusedWindow (supervisor : Supervisor) (windowId : Nat)
    (windowType displayId pid uid : Int) : Handled :=
  match supervisor.record? uid pid with
  | none => supervisor.unchanged
  | some _ =>
      ⟨supervisor.withApp uid (unfocusApplication windowId windowType displayId pid),
        [.AdjustAllProcessGroup uid .ADJS_UNFOCUSED_WINDOW]⟩

structure FocusInfo where
  uid : Int
  pid : Int
  windowId : Nat
  windowType : Int
  displayId : Int

def ParseFocus (payload : Payload) : Option FocusInfo := do
  let pid ← ParseValue "pid" payload
  let uid ← ParseValue "uid" payload
  let windowId ← ParseValue "windowId" payload
  let windowType ← ParseValue "windowType" payload
  let displayId ← ParseLongValue "displayId" payload
  return ⟨uid, pid, toUnsigned 32 windowId, windowType, displayId⟩

def HandleFocusStateChange (supervisor : Supervisor) (value : Int) (payload : Payload) : Handled :=
  supervisor.parsed (ParseFocus payload) fun info =>
    if value = WINDOW_FOCUS then
      HandleFocusedWindow supervisor info.windowId info.windowType info.displayId info.pid info.uid
    else if value = WINDOW_UNFOCUS then
      HandleUnfocusedWindow supervisor info.windowId info.windowType info.displayId info.pid
        info.uid
    else supervisor.unchanged

/-- Whether a window, made on demand as an invisible one, already has the visibility. -/
def visibleStatusNotChanged (record : Option ProcessRecord) (windowId : Nat) (isVisible : Bool) :
    Bool :=
  ((record.bind (fun record => record.GetWindowInfo windowId)).map WindowInfo.isVisible).getD false
    == isVisible

def HandleWindowVisibilityChanged (supervisor : Supervisor) (value : Int) (payload : Payload) :
    Handled :=
  supervisor.parsed (do
      let pid ← ParseValue "pid" payload
      let uid ← ParseValue "uid" payload
      let windowId ← ParseValue "windowId" payload
      let windowType ← ParseValue "windowType" payload
      return (pid, uid, toUnsigned 32 windowId, windowType))
    fun (pid, uid, windowId, windowType) =>
      let isVisible : Bool := value ≠ 0
      let record := supervisor.record? uid pid
      if !isVisible && record.isNone then supervisor.unchanged
      else
        ⟨supervisor.withAppNonNull uid (fun app => app.withRecordNonNull pid (fun record =>
            record.withWindowInfo windowId (fun window =>
              { window with isVisible := isVisible, windowType := windowType }))),
          if visibleStatusNotChanged record windowId isVisible then []
          else [.AdjustProcessGroup uid pid .ADJS_WINDOW_VISIBILITY_CHANGED]⟩

def HandleDrawingContentChangeWindow (supervisor : Supervisor) (value : Int) (payload : Payload) :
    Handled :=
  supervisor.parsed (do
      let pid ← ParseValue "pid" payload
      let uid ← ParseValue "uid" payload
      let windowId ← ParseValue "windowId" payload
      let _ ← ParseValue "windowType" payload
      return (pid, uid, toUnsigned 32 windowId))
    fun (pid, uid, windowId) =>
      ⟨supervisor.withApp uid (fun app => app.withRecord pid (fun record =>
        { record.withWindowInfo windowId (fun window =>
            { window with drawingContentState := value ≠ 0 })
          with processDrawingState := value ≠ 0 })), []⟩

/-! ## Reports of web processes -/

/-- Adjust the host of a process, when its record exists. -/
def Supervisor.adjustHost (supervisor : Supervisor) (uid pid : Int) (source : AdjustSource) :
    Handled :=
  match (supervisor.record? uid pid).map ProcessRecord.hostPid with
  | none => supervisor.unchanged
  | some hostPid =>
      match supervisor.record? uid hostPid with
      | none => supervisor.unchanged
      | some _ => ⟨supervisor, [.AdjustProcessGroup uid hostPid source]⟩

/-- The executor tells whether the thread belongs to the process. -/
def HandleReportKeyThread (supervisor : Supervisor) (tidIsInPid : Bool) (value : Int)
    (payload : Payload) : Handled :=
  supervisor.parsed (GetProcInfoByPayload supervisor payload) fun (uid, pid, supervisor) =>
    supervisor.parsed (do
        let keyTid ← ParseValue "tid" payload
        let role ← ParseValue "role" payload
        return (keyTid, role))
      fun (keyTid, role) =>
        if !tidIsInPid then supervisor.unchanged
        else
          (supervisor.withApp uid (fun app => app.withRecord pid (fun record =>
            { record with
              keyThreadRoleMap :=
                if value = CREATE then
                  (if (record.keyThreadRoleMap.lookup keyTid).isSome then record.keyThreadRoleMap
                  else record.keyThreadRoleMap.insert keyTid role)
                else record.keyThreadRoleMap.erase keyTid }))).adjustHost uid pid
            .ADJS_REPORT_IMPORTANT_DISPLAY_THREAD

/-- A report that is not newer than the last one. The subtraction is on 32 bits. -/
def outdatedSerial (serialNum nowSerialNum : Int) : Bool :=
  nowSerialNum ≤ serialNum && toSigned 32 (serialNum - nowSerialNum) ≤ MAX_SPAN_SERIAL

def UpdateActivepWebRenderInfo (supervisor : Supervisor) (state : Int) (windowId : Nat)
    (record : ProcessRecord) : ProcessRecord :=
  if state = ACTIVE then
    if supervisor.SearchWindowId windowId then
      { record with linkedWindow := some windowId, isActive := true }
    else record
  else { record with linkedWindow := none, isActive := false }

def HandleReportWindowState (supervisor : Supervisor) (payload : Payload) : Handled :=
  supervisor.parsed (GetProcInfoByPayload supervisor payload) fun (uid, pid, supervisor) =>
    supervisor.parsed (do
        let windowId ← ParseValue "windowId" payload
        let state ← ParseValue "state" payload
        let nowSerialNum ← ParseValue "serialNum" payload
        return (toUnsigned 32 windowId, state, nowSerialNum))
      fun (windowId, state, nowSerialNum) =>
        match (supervisor.record? uid pid).map ProcessRecord.serialNum with
        | none => supervisor.unchanged
        | some serialNum =>
            if outdatedSerial serialNum nowSerialNum then supervisor.unchanged
            else
              (supervisor.withApp uid (fun app => app.withRecord pid (fun record =>
                UpdateActivepWebRenderInfo supervisor state windowId
                  { record with serialNum := nowSerialNum }))).adjustHost uid pid
                .ADJS_REPORT_WINDOW_STATE_CHANGED

def HandleWebviewScreenCapture (supervisor : Supervisor) (value : Int) (payload : Payload) :
    Handled :=
  supervisor.parsed (GetProcInfoByPayload supervisor payload) fun (uid, pid, supervisor) =>
    supervisor.withRecordAdjusted uid pid
      (fun record => { record with screenCaptureState := value = WEB_SCREEN_CAPTURE_START })
      .ADJS_REPORT_WEBVIEW_SCREEN_CAPTURE

def HandleReportWebviewVideoState (supervisor : Supervisor) (value : Int) (payload : Payload) :
    Handled :=
  supervisor.parsed (GetProcInfoByPayload supervisor payload) fun (uid, pid, supervisor) =>
    ⟨supervisor.withApp uid (fun app => app.withRecord pid (fun record =>
      { record with videoState := value = WEB_VIDEO_PLAYING_START })), []⟩

/-! ## Audio and screen capture -/

def HandleReportAudioState (supervisor : Supervisor) (value : Int) (payload : Payload) : Handled :=
  supervisor.parsed (ParsePayload payload) fun (uid, pid) =>
    supervisor.withRecordAdjusted uid pid
      (fun record => { record with audioPlayingState := toSigned 32 value })
      .ADJS_REPORT_AUDIO_STATE_CHANGED

def HandleReportAudioCapTureState (supervisor : Supervisor) (value : Int) (payload : Payload) :
    Handled :=
  supervisor.parsed (ParsePayload payload) fun (uid, pid) =>
    supervisor.withRecordAdjusted uid pid
      (fun record => { record with audioCapTureState := toSigned 32 value })
      .ADJS_REPORT_AUDIO_STATE_CHANGED

/-- The application is made on demand, the process is not. -/
def HandleReportWebviewAudioState (supervisor : Supervisor) (value : Int) (payload : Payload) :
    Handled :=
  supervisor.parsed (ParsePayload payload) fun (uid, pid) =>
    (supervisor.withAppNonNull uid id).withRecordAdjusted uid pid
      (fun record => { record with audioPlayingState := toSigned 32 value })
      .ADJS_REPORT_WEBVIEW_AUDIO_STATE_CHANGED

def HandleReportScreenCaptureEvent (supervisor : Supervisor) (value : Int) (payload : Payload) :
    Handled :=
  supervisor.parsed (ParsePayload payload) fun (uid, pid) =>
    supervisor.withRecordAdjusted uid pid
      (fun record => { record with screenCaptureState := value = START_SCREEN_CAPTURE })
      .ADJS_REPORT_SCREEN_CAPTURE

/-! ## Applications hidden in the cosmic cube -/

/-- The normal processes of an application, adjusted one after the other. -/
def adjustNormal (uid : Int) (app : Application) : List AdjustCall :=
  (AssocMap.ascendingKeys app.pidsMap).filterMap (fun pid =>
    match app.pidsMap.lookup pid with
    | some record =>
        if record.processType = NORMAL then
          some (.AdjustProcessGroup uid pid .ADJS_PROCESS_STATE)
        else none
    | none => none)

/-- The hidden applications are shown again, and the normal processes of each adjusted. -/
def HandleEmptyPayloadForCosmicCubeState (supervisor : Supervisor) (value : Int) : Handled :=
  if value ≠ APPLICATION_ABOUT_TO_RECOVER then supervisor.unchanged
  else
    let uids := AssocMap.ascendingKeys supervisor.uidsMap
    ⟨uids.foldl (fun supervisor uid =>
        supervisor.withApp uid (fun app => { app with isCosmicCubeStateHide := false })) supervisor,
      uids.flatMap (fun uid =>
        match supervisor.uidsMap.lookup uid with
        | some app => if app.isCosmicCubeStateHide then adjustNormal uid app else []
        | none => [])⟩

def HandleReportCosmicCubeState (supervisor : Supervisor) (value : Int) (payload : Payload) :
    Handled :=
  match ParsePayload payload with
  | none => HandleEmptyPayloadForCosmicCubeState supervisor value
  | some (uid, pid) =>
      match supervisor.record? uid pid with
      | none => supervisor.unchanged
      | some record =>
          ⟨supervisor.withApp uid (fun app =>
              { app with isCosmicCubeStateHide := value = APPLICATION_ABOUT_TO_HIDE }),
            if record.processType = NORMAL then
              [.AdjustProcessGroup uid pid .ADJS_PROCESS_STATE]
            else []⟩

/-! ## Handling an event -/

inductive Event where
  | HandleApplicationStateChanged (payload : Payload)
  | HandleProcessStateChangedEx (value : Int) (payload : Payload)
  | HandleOnAppStopped (payload : Payload)
  | HandleAbilityStateChanged (payload : Payload)
  | HandleExtensionStateChanged (payload : Payload)
  | HandleTransientTaskStatus (value : Int) (payload : Payload)
  | HandleContinuousTaskStatus (value : Int) (payload : Payload)
  | HandleFocusStateChange (value : Int) (payload : Payload)
  | HandleWindowVisibilityChanged (value : Int) (payload : Payload)
  | HandleDrawingContentChangeWindow (value : Int) (payload : Payload)
  | HandleReportKeyThread (tidIsInPid : Bool) (value : Int) (payload : Payload)
  | HandleReportWindowState (payload : Payload)
  | HandleWebviewScreenCapture (value : Int) (payload : Payload)
  | HandleReportWebviewVideoState (value : Int) (payload : Payload)
  | HandleReportAudioState (value : Int) (payload : Payload)
  | HandleReportAudioCapTureState (value : Int) (payload : Payload)
  | HandleReportWebviewAudioState (value : Int) (payload : Payload)
  | HandleReportScreenCaptureEvent (value : Int) (payload : Payload)
  | HandleReportCosmicCubeState (value : Int) (payload : Payload)

def Supervisor.update (env : External) (supervisor : Supervisor) : Event → Handled
  | .HandleApplicationStateChanged payload =>
      Cgroup.HandleApplicationStateChanged env supervisor payload
  | .HandleProcessStateChangedEx value payload =>
      Cgroup.HandleProcessStateChangedEx env supervisor value payload
  | .HandleOnAppStopped payload => Cgroup.HandleOnAppStopped supervisor payload
  | .HandleAbilityStateChanged payload => Cgroup.HandleAbilityStateChanged env supervisor payload
  | .HandleExtensionStateChanged payload =>
      Cgroup.HandleExtensionStateChanged env supervisor payload
  | .HandleTransientTaskStatus value payload =>
      Cgroup.HandleTransientTaskStatus supervisor value payload
  | .HandleContinuousTaskStatus value payload =>
      Cgroup.HandleContinuousTaskStatus supervisor value payload
  | .HandleFocusStateChange value payload =>
      Cgroup.HandleFocusStateChange supervisor value payload
  | .HandleWindowVisibilityChanged value payload =>
      Cgroup.HandleWindowVisibilityChanged supervisor value payload
  | .HandleDrawingContentChangeWindow value payload =>
      Cgroup.HandleDrawingContentChangeWindow supervisor value payload
  | .HandleReportKeyThread tidIsInPid value payload =>
      Cgroup.HandleReportKeyThread supervisor tidIsInPid value payload
  | .HandleReportWindowState payload => Cgroup.HandleReportWindowState supervisor payload
  | .HandleWebviewScreenCapture value payload =>
      Cgroup.HandleWebviewScreenCapture supervisor value payload
  | .HandleReportWebviewVideoState value payload =>
      Cgroup.HandleReportWebviewVideoState supervisor value payload
  | .HandleReportAudioState value payload =>
      Cgroup.HandleReportAudioState supervisor value payload
  | .HandleReportAudioCapTureState value payload =>
      Cgroup.HandleReportAudioCapTureState supervisor value payload
  | .HandleReportWebviewAudioState value payload =>
      Cgroup.HandleReportWebviewAudioState supervisor value payload
  | .HandleReportScreenCaptureEvent value payload =>
      Cgroup.HandleReportScreenCaptureEvent supervisor value payload
  | .HandleReportCosmicCubeState value payload =>
      Cgroup.HandleReportCosmicCubeState supervisor value payload

def Supervisor.perform (env : External) (supervisor : Supervisor) : AdjustCall → Supervisor
  | .AdjustProcessGroup uid pid source =>
      supervisor.withApp uid (fun app => Cgroup.AdjustProcessGroup env app pid source)
  | .AdjustAllProcessGroup uid source =>
      supervisor.withApp uid (fun app => Cgroup.AdjustAllProcessGroup env app source)

def Supervisor.handle (env : External) (supervisor : Supervisor) (event : Event) : Supervisor :=
  let handled := supervisor.update env event
  handled.calls.foldl (Supervisor.perform env) handled.supervisor

end ResSched.Cgroup
