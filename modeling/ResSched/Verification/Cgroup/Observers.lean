import ResSched.Library.DecimalText
import ResSched.Library.Transition
import ResSched.Model.Cgroup.Observers

/-! # What the observers tell reaches the records

The records change by the numbers the managers give, as if no text stood in between.
-/

namespace ResSched.Cgroup

open CLibrary Transition

/-! ## What the callbacks stand for -/

/-- A change of the records, with the adjustments it asks for. -/
abbrev Change := Supervisor → Handled

def Supervisor.settle (env : External) (supervisor : Supervisor) (change : Change) : Supervisor :=
  (change supervisor).calls.foldl (Supervisor.perform env) (change supervisor).supervisor

namespace AppStateData

/-- An application that has not ended has an entry. -/
def entered (data : AppStateData) : Change := fun supervisor =>
  ⟨supervisor.withAppNonNull data.uid.toInt id, []⟩

def stopped (data : AppStateData) : Change := fun supervisor =>
  ⟨supervisor.RemoveApplication data.uid.toInt, []⟩

end AppStateData

namespace AbilityStateData

variable (env : External) (data : AbilityStateData)

def extensionChanged : Change := fun supervisor =>
  if data.abilityState.toInt = env.EXTENSION_STATE_TERMINATED then
    supervisor.withRecordAdjusted data.uid.toInt data.pid.toInt
      (fun record => record.RemoveAbilityByRecordId data.abilityRecordId.toInt)
      .ADJS_EXTENSION_STATE
  else
    supervisor.withRecordNonNullAdjusted data.uid.toInt data.pid.toInt
      (fun record => record.withAbilityInfo data.abilityRecordId.toInt (fun ability =>
        { ability with
          name := data.abilityName
          estate := data.abilityState.toInt
          type := data.abilityType.toInt }))
      .ADJS_EXTENSION_STATE

def abilityChanged (abilityState : Int) : Change := fun supervisor =>
  if abilityState = env.ABILITY_STATE_TERMINATED then
    supervisor.withRecordAdjusted data.uid.toInt data.pid.toInt
      (fun record => record.RemoveAbilityByRecordId data.abilityRecordId.toInt) .ADJS_ABILITY_STATE
  else if HandlePrelaunch env abilityState data.preloadMode.toInt then supervisor.unchanged
  else
    supervisor.withRecordNonNullAdjusted data.uid.toInt data.pid.toInt
      (fun record =>
        { record.withAbilityInfo data.abilityRecordId.toInt (fun ability =>
            { ability with
              name := data.abilityName
              state := abilityState
              type := data.abilityType.toInt })
          with preloadMode := data.preloadMode.toInt })
      .ADJS_ABILITY_STATE

/-- A UI extension counts as an ability, under the state its own state stands for; when its type
is the one of extensions, its own state counts. An extension of another kind that comes as an
ability changes nothing. -/
def abilityChanges (managers : Managers) (data : AbilityStateData) : List Change :=
  if !ValidateAbilityStateData data || data.isInnerNotify then []
  else
    let uiState := uiExtensionAbilityState managers data
    if data.abilityType.toInt ≠ managers.ABILITY_TYPE_EXTENSION then
      [data.abilityChanged managers.toExternal (uiState.getD data.abilityState.toInt)]
    else if uiState.isSome then [data.extensionChanged managers.toExternal]
    else []

def extensionChanges (managers : Managers) (data : AbilityStateData) : List Change :=
  if !ValidateAbilityStateData data then []
  else if (uiExtensionAbilityState managers data).isSome then data.abilityChanges managers
  else [data.extensionChanged managers.toExternal]

end AbilityStateData

namespace ProcessData

variable (env : External) (data : ProcessData)

def info : ProcessCreateInfo :=
  ⟨data.uid.toInt, data.pid.toInt, data.hostPid.toInt, data.extensionType.toInt,
    data.processType.toInt, data.preloadMode.toInt⟩

def created : Change := fun supervisor =>
  ⟨supervisor.withAppNonNull data.uid.toInt (createApplication env data.info),
    [.AdjustProcessGroup data.uid.toInt data.pid.toInt
      (createdSource data.info (some (if data.isPreloadUIExtension then 1 else 0)))]⟩

def died : Change := fun supervisor =>
  match supervisor.uidsMap.lookup data.uid.toInt with
  | none => supervisor.unchanged
  | some app =>
      if (app.RemoveProcessRecord data.pid.toInt).pidsMap.keys = [] then
        ⟨supervisor.RemoveApplication data.uid.toInt, []⟩
      else
        ⟨supervisor.withApp data.uid.toInt (fun app => app.RemoveProcessRecord data.pid.toInt), []⟩

def stateChanged : Change := fun supervisor =>
  if data.state.toInt = PROCESS_BACKGROUND ∧ data.preloadMode.toInt = env.PRE_LAUNCH then
    ⟨supervisor.withAppNonNull data.uid.toInt (fun app =>
      app.withRecordNonNull data.pid.toInt (fun record =>
        { record with processState := data.state.toInt })), []⟩
  else
    supervisor.withRecordNonNullAdjusted data.uid.toInt data.pid.toInt
      (fun record =>
        { record with
          processState := data.state.toInt
          preloadMode := data.preloadMode.toInt })
      .ADJS_PROCESS_STATE

/-- The state of a process that changes also tells that it begins or ends. -/
def changes (value : Int) : List Change :=
  if !ValidateProcessData data then []
  else if value = PROCESS_CREATED then [data.created env]
  else if value = PROCESS_DIED then [data.died]
  else [data.stateChanged env]

end ProcessData

def FocusChangeInfo.focused (info : FocusChangeInfo) : Change := fun supervisor =>
  HandleFocusedWindow supervisor info.windowId_.toNat info.windowType_.toInt
    info.displayId_.toNat info.pid_.toInt info.uid_.toInt

def FocusChangeInfo.unfocused (info : FocusChangeInfo) : Change := fun supervisor =>
  HandleUnfocusedWindow supervisor info.windowId_.toNat info.windowType_.toInt
    info.displayId_.toNat info.pid_.toInt info.uid_.toInt

def WindowVisibilityInfo.change (managers : Managers) (info : WindowVisibilityInfo) : Change :=
  fun supervisor =>
    let record := supervisor.record? info.uid_.toInt info.pid_.toInt
    if !isVisible managers info && record.isNone then supervisor.unchanged
    else
      ⟨supervisor.withAppNonNull info.uid_.toInt (fun app =>
          app.withRecordNonNull info.pid_.toInt (fun record =>
            record.withWindowInfo info.windowId_.toNat (fun window =>
              { window with
                isVisible := isVisible managers info
                windowType := info.windowType_.toInt }))),
        if visibleStatusNotChanged record info.windowId_.toNat (isVisible managers info) then []
        else
          [.AdjustProcessGroup info.uid_.toInt info.pid_.toInt .ADJS_WINDOW_VISIBILITY_CHANGED]⟩

def WindowDrawingContentInfo.change (info : WindowDrawingContentInfo) : Change := fun supervisor =>
  ⟨supervisor.withApp info.uid_.toInt (fun app => app.withRecord info.pid_.toInt (fun record =>
    { record.withWindowInfo info.windowId_.toNat (fun window =>
        { window with drawingContentState := info.drawingContentState_ })
      with processDrawingState := info.drawingContentState_ })), []⟩

/-- The changes a callback stands for, in their order. -/
def Callback.changes (managers : Managers) : Callback → List Change
  | .OnForegroundApplicationChanged _ => []
  | .OnApplicationStateChanged data =>
      if !ValidateAppStateData data || data.state.toInt = managers.APP_STATE_TERMINATED then []
      else [data.entered]
  | .OnAppStateChanged _ => []
  | .OnAppCacheStateChanged _ => []
  | .OnAppStopped data => if !ValidateAppStateData data then [] else [data.stopped]
  | .OnAbilityStateChanged data => data.abilityChanges managers
  | .OnExtensionStateChanged data => data.extensionChanges managers
  | .OnProcessCreated data => data.changes managers.toExternal PROCESS_CREATED
  | .OnProcessDied data => data.changes managers.toExternal PROCESS_DIED
  | .OnProcessStateChanged data => data.changes managers.toExternal data.state.toInt
  | .OnProcessPreForegroundChanged _ => []
  | .OnFocused info => info.toList.map FocusChangeInfo.focused
  | .OnUnfocused info => info.toList.map FocusChangeInfo.unfocused
  | .OnWindowVisibilityChanged infos =>
      infos.filterMap fun info => info.map (WindowVisibilityInfo.change managers)
  | .OnWindowDrawingContentChanged infos =>
      infos.filterMap fun info => info.map WindowDrawingContentInfo.change

/-! ## Reading a payload -/

section

variable {members : List (String × Payload)} (hkeys : (members.map Prod.fst).Nodup)
  (name : String)

include hkeys

theorem ParseString_assign (text : String) (hmem : (name, Json.string text) ∈ members) :
    ParseString name (Json.assign members) = some text := by
  rw [ParseString, Json.find?_assign hkeys hmem]
  rfl

theorem ParseValue_string (text : String) (hmem : (name, Json.string text) ∈ members) :
    ParseValue name (Json.assign members) = some (atoi text) := by
  rw [ParseValue, ParseString_assign hkeys name text hmem]
  rfl

theorem ParseValue_textOf {α : Type} [ToString α] (value : α)
    (hmem : (name, textOf value) ∈ members) :
    ParseValue name (Json.assign members) = some (atoi (toString value)) :=
  ParseValue_string hkeys name (toString value) hmem

theorem ParseValue_int32 (value : Int32) (hmem : (name, textOf value) ∈ members) :
    ParseValue name (Json.assign members) = some value.toInt := by
  rw [ParseValue_textOf hkeys name value hmem, atoi_toString_int32]

theorem ParseValue_of_notMem (hname : name ∉ members.map Prod.fst) :
    ParseValue name (Json.assign members) = none := by
  rw [ParseValue, ParseString, Json.find?_assign_of_notMem hkeys hname]
  rfl

end

theorem foldl_filterMap_DispatchResource (env : External) (supervisor : Supervisor)
    {report : Report} {event : Event} (h : DispatchResource report = some event) :
    ([report].filterMap DispatchResource).foldl (Supervisor.handle env) supervisor =
      supervisor.handle env event := by
  rw [List.filterMap_cons_some h]
  rfl

/-! ## Processes -/

section

variable (env : External) (supervisor : Supervisor) (data : ProcessData)

theorem nodup_keys_MarshallingProcessData :
    ((MarshallingProcessData data).map Prod.fst).Nodup := by
  show List.Nodup ["pid", "uid", "processType", "renderUid", "bundleName", "state",
    "extensionType", "isKeepAlive", "isTestMode", "processName", "hostPid", "callerPid",
    "callerUid", "killReason", "isPreloadModule", "preloadMode", "isPreloadUIExtension"]
  decide

theorem ParseProcessCreateInfo_MarshallingProcessData :
    ParseProcessCreateInfo (Json.assign (MarshallingProcessData data)) = some data.info := by
  have hkeys := nodup_keys_MarshallingProcessData data
  have huid := ParseValue_int32 hkeys "uid" data.uid (by simp [MarshallingProcessData])
  have hpid := ParseValue_int32 hkeys "pid" data.pid (by simp [MarshallingProcessData])
  have hbundle := ParseString_assign hkeys "bundleName" data.bundleName
    (by simp [MarshallingProcessData])
  have hhost := ParseValue_int32 hkeys "hostPid" data.hostPid (by simp [MarshallingProcessData])
  have hextension := ParseValue_textOf hkeys "extensionType"
    (toUnsigned 32 data.extensionType.toInt) (by simp [MarshallingProcessData])
  have htype := ParseValue_int32 hkeys "processType" data.processType
    (by simp [MarshallingProcessData])
  have hpreload := ParseValue_int32 hkeys "preloadMode" data.preloadMode
    (by simp [MarshallingProcessData])
  rw [atoi_toString_toUnsigned] at hextension
  rw [ParseProcessCreateInfo, huid, hpid, hbundle, hhost, hextension, htype, hpreload]
  rfl

theorem HandleProcessCreated_MarshallingProcessData :
    HandleProcessCreated env supervisor (Json.assign (MarshallingProcessData data)) =
      data.created env supervisor := by
  have hpreload := ParseValue_string (nodup_keys_MarshallingProcessData data)
    "isPreloadUIExtension" (boolText data.isPreloadUIExtension)
    (by simp [MarshallingProcessData])
  have hbool : atoi (boolText data.isPreloadUIExtension) =
      if data.isPreloadUIExtension then 1 else 0 := by
    cases data.isPreloadUIExtension <;> decide
  rw [HandleProcessCreated, ParseProcessCreateInfo_MarshallingProcessData, hpreload, hbool]
  rfl

theorem HandleProcessDied_MarshallingProcessData :
    HandleProcessDied supervisor (Json.assign (MarshallingProcessData data)) =
      data.died supervisor := by
  have hkeys := nodup_keys_MarshallingProcessData data
  have huid := ParseValue_int32 hkeys "uid" data.uid (by simp [MarshallingProcessData])
  have hpid := ParseValue_int32 hkeys "pid" data.pid (by simp [MarshallingProcessData])
  have hbundle := ParseString_assign hkeys "bundleName" data.bundleName
    (by simp [MarshallingProcessData])
  rw [HandleProcessDied, ParseProcess, huid, hpid, hbundle]
  rfl

theorem HandleProcessStateChanged_MarshallingProcessData :
    HandleProcessStateChanged env supervisor (Json.assign (MarshallingProcessData data)) =
      data.stateChanged env supervisor := by
  have hkeys := nodup_keys_MarshallingProcessData data
  have huid := ParseValue_int32 hkeys "uid" data.uid (by simp [MarshallingProcessData])
  have hpid := ParseValue_int32 hkeys "pid" data.pid (by simp [MarshallingProcessData])
  have hbundle := ParseString_assign hkeys "bundleName" data.bundleName
    (by simp [MarshallingProcessData])
  have hstate := ParseValue_textOf hkeys "state" (toUnsigned 32 data.state.toInt)
    (by simp [MarshallingProcessData])
  have hpreload := ParseValue_int32 hkeys "preloadMode" data.preloadMode
    (by simp [MarshallingProcessData])
  rw [atoi_toString_toUnsigned] at hstate
  rw [HandleProcessStateChanged, huid, hpid, hbundle, hstate, hpreload]
  rfl

theorem foldl_reportProcess (value : Int) :
    ((reportProcess value data).filterMap DispatchResource).foldl (Supervisor.handle env)
        supervisor =
      (data.changes env value).foldl (Supervisor.settle env) supervisor := by
  rw [reportProcess, ProcessData.changes]
  cases ValidateProcessData data with
  | false => rfl
  | true =>
      simp only [Bool.not_true, Bool.false_eq_true, if_false]
      rw [foldl_filterMap_DispatchResource env supervisor rfl, Supervisor.handle, Supervisor.update, HandleProcessStateChangedEx,
        HandleProcessCreated_MarshallingProcessData, HandleProcessDied_MarshallingProcessData,
        HandleProcessStateChanged_MarshallingProcessData]
      by_cases hcreated : value = PROCESS_CREATED
      · simp [hcreated, Supervisor.settle]
      · by_cases hdied : value = PROCESS_DIED
        · subst hdied
          rfl
        · simp [hcreated, hdied, Supervisor.settle]

end

/-! ## Applications -/

section

variable (env : External) (supervisor : Supervisor) (data : AppStateData)

/-- The foreground application is reported without a state, and the handler returns. -/
theorem foldl_OnForegroundApplicationChanged :
    ((OnForegroundApplicationChanged data).filterMap DispatchResource).foldl
      (Supervisor.handle env) supervisor = supervisor := by
  rw [OnForegroundApplicationChanged]
  cases ValidateAppStateData data with
  | false => rfl
  | true =>
      have hkeys : ((foregroundMembers data).map Prod.fst).Nodup := by
        show List.Nodup ["pid", "uid", "bundleName", "preloadMode", "isFocused"]
        decide
      have huid := ParseValue_int32 hkeys "uid" data.uid (by simp [foregroundMembers])
      have hpid := ParseValue_int32 hkeys "pid" data.pid (by simp [foregroundMembers])
      have hbundle := ParseString_assign hkeys "bundleName" data.bundleName
        (by simp [foregroundMembers])
      have hstate := ParseValue_of_notMem hkeys "state" (by simp [foregroundMembers])
      simp only [Bool.not_true, Bool.false_eq_true, if_false]
      rw [foldl_filterMap_DispatchResource env supervisor rfl, Supervisor.handle, Supervisor.update,
        HandleApplicationStateChanged, huid, hpid, hbundle,
        hstate]
      rfl

theorem foldl_OnApplicationStateChanged :
    ((OnApplicationStateChanged data).filterMap DispatchResource).foldl (Supervisor.handle env)
        supervisor =
      (if !ValidateAppStateData data || data.state.toInt = env.APP_STATE_TERMINATED then []
        else [data.entered]).foldl (Supervisor.settle env) supervisor := by
  rw [OnApplicationStateChanged]
  cases ValidateAppStateData data with
  | false => rfl
  | true =>
      have hkeys : ((applicationMembers data).map Prod.fst).Nodup := by
        show List.Nodup ["pid", "uid", "bundleName", "extensionType", "isPreload", "preloadMode",
          "state", "callerBundleName", "isStartedByCallToBackground"]
        decide
      have huid := ParseValue_int32 hkeys "uid" data.uid (by simp [applicationMembers])
      have hpid := ParseValue_int32 hkeys "pid" data.pid (by simp [applicationMembers])
      have hbundle := ParseString_assign hkeys "bundleName" data.bundleName
        (by simp [applicationMembers])
      have hstate := ParseValue_int32 hkeys "state" data.state (by simp [applicationMembers])
      simp only [Bool.not_true, Bool.false_eq_true, if_false]
      rw [foldl_filterMap_DispatchResource env supervisor rfl, Supervisor.handle, Supervisor.update,
        HandleApplicationStateChanged, huid, hpid, hbundle,
        hstate]
      by_cases hend : data.state.toInt = env.APP_STATE_TERMINATED
      · simp [Supervisor.parsed, Supervisor.unchanged, hend]
      · simp [Supervisor.parsed, AppStateData.entered, Supervisor.settle, hend]

theorem foldl_OnAppStopped :
    ((OnAppStopped data).filterMap DispatchResource).foldl (Supervisor.handle env) supervisor =
      (if !ValidateAppStateData data then [] else [data.stopped]).foldl (Supervisor.settle env)
        supervisor := by
  rw [OnAppStopped]
  cases ValidateAppStateData data with
  | false => rfl
  | true =>
      have hkeys : ((MarshallingAppStateData data).map Prod.fst).Nodup := by
        show List.Nodup ["pid", "uid", "bundleName", "state", "extensionType", "isFocused",
          "preloadMode"]
        decide
      have huid : (Json.assign (MarshallingAppStateData data)).find? "uid" =
          some (.int data.uid.toInt) :=
        Json.find?_assign hkeys (by simp [MarshallingAppStateData])
      have hbundle := ParseString_assign hkeys "bundleName" data.bundleName
        (by simp [MarshallingAppStateData])
      have hstopped : ParseStopped (Json.assign (MarshallingAppStateData data)) =
          some data.uid.toInt := by
        rw [ParseStopped, huid, hbundle]
        exact congrArg some (toSigned_toInt data.uid)
      simp only [Bool.not_true, Bool.false_eq_true, if_false]
      rw [foldl_filterMap_DispatchResource env supervisor rfl, Supervisor.handle, Supervisor.update,
        HandleOnAppStopped, hstopped]
      rfl

/-- The other reports about applications have types without a handler. -/
theorem filterMap_OnAppStateChanged :
    (OnAppStateChanged data).filterMap DispatchResource = [] := by
  rw [OnAppStateChanged]
  cases ValidateAppStateData data <;> rfl

theorem filterMap_OnAppCacheStateChanged :
    (OnAppCacheStateChanged data).filterMap DispatchResource = [] := by
  rw [OnAppCacheStateChanged]
  cases ValidateAppStateData data <;> rfl

theorem filterMap_OnProcessPreForegroundChanged (data : PreloadProcessData) :
    (OnProcessPreForegroundChanged data).filterMap DispatchResource = [] := by
  rw [OnProcessPreForegroundChanged]
  split_ifs <;> rfl

end

/-! ## Abilities and extensions -/

section

variable (managers : Managers) (supervisor : Supervisor) (data : AbilityStateData)

/-- The members the handler of extensions reads. -/
theorem HandleExtensionStateChanged_assign {members : List (String × Payload)}
    (hkeys : (members.map Prod.fst).Nodup)
    (hmem : ∀ member ∈ [
      ("uid", textOf data.uid), ("pid", textOf data.pid),
      ("bundleName", .string data.bundleName), ("abilityName", .string data.abilityName),
      ("recordId", textOf data.abilityRecordId), ("extensionState", textOf data.abilityState),
      ("abilityType", textOf data.abilityType)], member ∈ members) :
    HandleExtensionStateChanged managers.toExternal supervisor (Json.assign members) =
      data.extensionChanged managers.toExternal supervisor := by
  have huid := ParseValue_int32 hkeys "uid" data.uid (hmem _ (by simp))
  have hpid := ParseValue_int32 hkeys "pid" data.pid (hmem _ (by simp))
  have hbundle := ParseString_assign hkeys "bundleName" data.bundleName (hmem _ (by simp))
  have hname := ParseString_assign hkeys "abilityName" data.abilityName (hmem _ (by simp))
  have hrecord := ParseValue_int32 hkeys "recordId" data.abilityRecordId (hmem _ (by simp))
  have hstate := ParseValue_int32 hkeys "extensionState" data.abilityState (hmem _ (by simp))
  have htype := ParseValue_int32 hkeys "abilityType" data.abilityType (hmem _ (by simp))
  rw [HandleExtensionStateChanged, huid, hpid, hbundle, hname, hrecord, hstate, htype]
  rfl

theorem toSigned_uiExtensionAbilityState {abilityState : Int}
    (h : uiExtensionAbilityState managers data = some abilityState) :
    toSigned 32 abilityState = abilityState := by
  have htable : ∀ entry ∈ extensionStateToAbilityState_ managers,
      toSigned 32 entry.2 = entry.2 := by
    simp [extensionStateToAbilityState_, toSigned_toSigned]
  rw [uiExtensionAbilityState] at h
  cases hlookup : (extensionStateToAbilityState_ managers).lookup data.abilityState.toInt with
  | none => simp [hlookup] at h
  | some state =>
      have hsame : state = abilityState := by
        simp only [hlookup] at h
        split_ifs at h
        exact Option.some.inj h
      obtain ⟨before, after, hentry, -⟩ := List.lookup_eq_some_iff.mp hlookup
      subst hsame
      exact htable (data.abilityState.toInt, state) (by rw [hentry]; simp)

theorem nodup_keys_ability (uiState : Option Int) (abilityState : Int) :
    ((uiExtensionMembers data uiState ++ abilityMembers data abilityState).map
      Prod.fst).Nodup := by
  cases uiState with
  | none =>
      show List.Nodup ["pid", "uid", "bundleName", "abilityName", "recordId", "abilityType",
        "abilityState", "callerUid", "preloadMode", "extensionAbilityType"]
      decide
  | some _ =>
      show List.Nodup ["processType", "uiExtensionState", "pid", "uid", "bundleName",
        "abilityName", "recordId", "abilityType", "abilityState", "callerUid", "preloadMode",
        "extensionAbilityType"]
      decide

/-- A UI extension of the type of extensions is handled by its own state. -/
theorem HandleUIExtensionAbilityStateChange_assign (uiState : Option Int) (abilityState : Int) :
    HandleUIExtensionAbilityStateChange managers.toExternal supervisor
        (Json.assign (uiExtensionMembers data uiState ++ abilityMembers data abilityState)) =
      if uiState.isSome then data.extensionChanged managers.toExternal supervisor
      else supervisor.unchanged := by
  have hkeys := nodup_keys_ability data uiState abilityState
  have htype := ParseValue_int32 hkeys "extensionAbilityType" data.extensionAbilityType
    (by simp [abilityMembers])
  cases uiState with
  | none =>
      have hstate := ParseValue_of_notMem hkeys "uiExtensionState"
        (by simp [uiExtensionMembers, abilityMembers])
      rw [HandleUIExtensionAbilityStateChange, htype, hstate]
      rfl
  | some state =>
      have hstate := ParseValue_int32 hkeys "uiExtensionState" data.abilityState
        (by simp [uiExtensionMembers])
      have hkeys' : ((uiExtensionMembers data (some state) ++ abilityMembers data abilityState ++
          [("extensionState", textOf data.abilityState)]).map Prod.fst).Nodup := by
        rw [List.map_append, List.nodup_append]
        refine ⟨hkeys, by simp, ?_⟩
        simp [uiExtensionMembers, abilityMembers]
      have hchanged := HandleExtensionStateChanged_assign managers supervisor data hkeys'
        (by simp [abilityMembers])
      rw [← Json.set_assign] at hchanged
      rw [HandleUIExtensionAbilityStateChange, htype, hstate, if_pos Option.isSome_some]
      simp only [Option.bind_eq_bind, Option.bind_some, Supervisor.parsed]
      exact hchanged

theorem HandleAbilityStateChanged_assign (uiState : Option Int) (abilityState : Int)
    (hfits : toSigned 32 abilityState = abilityState) :
    HandleAbilityStateChanged managers.toExternal supervisor
        (Json.assign (uiExtensionMembers data uiState ++ abilityMembers data abilityState)) =
      if data.abilityType.toInt ≠ managers.ABILITY_TYPE_EXTENSION then
        data.abilityChanged managers.toExternal abilityState supervisor
      else if uiState.isSome then data.extensionChanged managers.toExternal supervisor
      else supervisor.unchanged := by
  have hkeys := nodup_keys_ability data uiState abilityState
  have huid := ParseValue_int32 hkeys "uid" data.uid (by simp [abilityMembers])
  have hpid := ParseValue_int32 hkeys "pid" data.pid (by simp [abilityMembers])
  have hbundle := ParseString_assign hkeys "bundleName" data.bundleName (by simp [abilityMembers])
  have hname := ParseString_assign hkeys "abilityName" data.abilityName (by simp [abilityMembers])
  have hrecord := ParseValue_int32 hkeys "recordId" data.abilityRecordId (by simp [abilityMembers])
  have hcaller := ParseValue_int32 hkeys "callerUid" data.callerUid (by simp [abilityMembers])
  have hstate := ParseValue_textOf hkeys "abilityState" abilityState (by simp [abilityMembers])
  have hread : atoi (toString abilityState) = abilityState :=
    (decimal_toString 32 abilityState).trans hfits
  have htype := ParseValue_int32 hkeys "abilityType" data.abilityType (by simp [abilityMembers])
  have hpreload := ParseValue_int32 hkeys "preloadMode" data.preloadMode (by simp [abilityMembers])
  rw [hread] at hstate
  rw [HandleAbilityStateChanged, huid, hpid, hbundle, hname, hrecord, hcaller, hstate, htype,
    hpreload, HandleUIExtensionAbilityStateChange_assign]
  by_cases hextension : data.abilityType.toInt = managers.ABILITY_TYPE_EXTENSION
  · simp [Supervisor.parsed, hextension]
  · simp [Supervisor.parsed, hextension, AbilityStateData.abilityChanged]

theorem foldl_OnAbilityStateChanged :
    ((OnAbilityStateChanged managers data).filterMap DispatchResource).foldl
        (Supervisor.handle managers.toExternal) supervisor =
      (data.abilityChanges managers).foldl (Supervisor.settle managers.toExternal)
        supervisor := by
  rw [OnAbilityStateChanged, AbilityStateData.abilityChanges]
  cases ValidateAbilityStateData data with
  | false => rfl
  | true =>
      cases data.isInnerNotify with
      | true => rfl
      | false =>
          have hfits : toSigned 32 ((uiExtensionAbilityState managers data).getD
              data.abilityState.toInt) =
              (uiExtensionAbilityState managers data).getD data.abilityState.toInt := by
            cases hui : uiExtensionAbilityState managers data with
            | none => exact toSigned_toInt data.abilityState
            | some state => exact toSigned_uiExtensionAbilityState managers data hui
          have hhandled := HandleAbilityStateChanged_assign managers supervisor data
            (uiExtensionAbilityState managers data) _ hfits
          simp only [Bool.not_true, Bool.false_eq_true, if_false, Bool.or_false]
          rw [foldl_filterMap_DispatchResource managers.toExternal supervisor rfl,
            Supervisor.handle, Supervisor.update, hhandled]
          by_cases hextension : data.abilityType.toInt = managers.ABILITY_TYPE_EXTENSION
          · rw [if_neg (not_not.mpr hextension), if_neg (not_not.mpr hextension)]
            by_cases hui : (uiExtensionAbilityState managers data).isSome
            · rw [if_pos hui, if_pos hui]
              rfl
            · rw [if_neg hui, if_neg hui]
              rfl
          · rw [if_pos hextension, if_pos hextension]
            rfl

theorem foldl_OnExtensionStateChanged :
    ((OnExtensionStateChanged managers data).filterMap DispatchResource).foldl
        (Supervisor.handle managers.toExternal) supervisor =
      (data.extensionChanges managers).foldl (Supervisor.settle managers.toExternal)
        supervisor := by
  rw [OnExtensionStateChanged, AbilityStateData.extensionChanges]
  cases ValidateAbilityStateData data with
  | false => rfl
  | true =>
      have hkeys : ((extensionMembers data).map Prod.fst).Nodup := by
        show List.Nodup ["pid", "uid", "bundleName", "abilityName", "recordId", "extensionState",
          "abilityType", "extensionAbilityType", "callerBundleName"]
        decide
      simp only [Bool.not_true, Bool.false_eq_true, if_false]
      by_cases hui : (uiExtensionAbilityState managers data).isSome
      · rw [if_pos hui, if_pos hui, foldl_OnAbilityStateChanged]
      · rw [if_neg hui, if_neg hui,
          foldl_filterMap_DispatchResource managers.toExternal supervisor rfl, Supervisor.handle,
          Supervisor.update,
          HandleExtensionStateChanged_assign managers supervisor data hkeys
            (by simp [extensionMembers])]
        rfl

end

/-! ## Windows -/

section

variable (managers : Managers) (env : External) (supervisor : Supervisor)

theorem focusWindow_toUnsigned (isFocused : Bool) (windowType displayId : Int) :
    focusWindow isFocused windowType (toUnsigned 64 displayId) =
      focusWindow isFocused windowType displayId := by
  have hcut : toUnsigned 64 (toUnsigned 64 displayId : Nat) = toUnsigned 64 displayId := by
    rw [← toUnsigned_toSigned, toSigned_toUnsigned, toUnsigned_toSigned]
  funext window
  rw [focusWindow, focusWindow, hcut]

/-- Of the number of a display only its 64 bits count. -/
theorem focusApplication_toUnsigned (windowId : Nat) (windowType displayId pid : Int) :
    focusApplication windowId windowType (toUnsigned 64 displayId) pid =
      focusApplication windowId windowType displayId pid := by
  funext app
  rw [focusApplication, focusApplication, focusWindow_toUnsigned]

theorem unfocusApplication_toUnsigned (windowId : Nat) (windowType displayId pid : Int) :
    unfocusApplication windowId windowType (toUnsigned 64 displayId) pid =
      unfocusApplication windowId windowType displayId pid := by
  funext app
  rw [unfocusApplication, unfocusApplication, focusWindow_toUnsigned]

theorem ParseFocus_focusMembers (info : FocusChangeInfo) :
    ParseFocus (Json.assign (focusMembers info)) =
      some ⟨info.uid_.toInt, info.pid_.toInt, info.windowId_.toNat, info.windowType_.toInt,
        atoll (toString info.displayId_)⟩ := by
  have hkeys : ((focusMembers info).map Prod.fst).Nodup := by
    show List.Nodup ["pid", "uid", "windowId", "windowType", "displayId", "realDisplayId"]
    decide
  have huid := ParseValue_int32 hkeys "uid" info.uid_ (by simp [focusMembers])
  have hpid := ParseValue_int32 hkeys "pid" info.pid_ (by simp [focusMembers])
  have hwindow := ParseValue_textOf hkeys "windowId" info.windowId_ (by simp [focusMembers])
  have htype := ParseValue_int32 hkeys "windowType" info.windowType_ (by simp [focusMembers])
  have hdisplay : ParseLongValue "displayId" (Json.assign (focusMembers info)) =
      some (atoll (toString info.displayId_)) := by
    rw [ParseLongValue, ParseString_assign hkeys "displayId" (toString info.displayId_)
      (by simp [focusMembers, textOf])]
    rfl
  rw [ParseFocus, hpid, huid, hwindow, htype, hdisplay, ← toUnsigned_atoi_toString]
  rfl

theorem foldl_OnFocused (info : Option FocusChangeInfo) :
    ((OnFocused info).filterMap DispatchResource).foldl (Supervisor.handle env) supervisor =
      (info.toList.map FocusChangeInfo.focused).foldl (Supervisor.settle env) supervisor := by
  cases info with
  | none => rfl
  | some info =>
      have hfocused : HandleFocusStateChange supervisor WINDOW_FOCUS
          (Json.assign (focusMembers info)) = info.focused supervisor := by
        rw [HandleFocusStateChange, ParseFocus_focusMembers]
        simp only [Supervisor.parsed, if_true, FocusChangeInfo.focused, HandleFocusedWindow,
          ← toUnsigned_atoll_toString, focusApplication_toUnsigned]
      rw [OnFocused, reportFocus, foldl_filterMap_DispatchResource env supervisor rfl,
        Supervisor.handle, Supervisor.update, hfocused]
      rfl

theorem foldl_OnUnfocused (info : Option FocusChangeInfo) :
    ((OnUnfocused info).filterMap DispatchResource).foldl (Supervisor.handle env) supervisor =
      (info.toList.map FocusChangeInfo.unfocused).foldl (Supervisor.settle env) supervisor := by
  cases info with
  | none => rfl
  | some info =>
      have hunfocused : HandleFocusStateChange supervisor WINDOW_UNFOCUS
          (Json.assign (focusMembers info)) = info.unfocused supervisor := by
        have hne : WINDOW_UNFOCUS ≠ WINDOW_FOCUS := by decide
        rw [HandleFocusStateChange, ParseFocus_focusMembers]
        simp only [Supervisor.parsed, if_neg hne, if_true, FocusChangeInfo.unfocused,
          HandleUnfocusedWindow, ← toUnsigned_atoll_toString, unfocusApplication_toUnsigned]
      rw [OnUnfocused, reportFocus, foldl_filterMap_DispatchResource env supervisor rfl,
        Supervisor.handle, Supervisor.update, hunfocused]
      rfl

theorem HandleWindowVisibilityChanged_assign (info : WindowVisibilityInfo) :
    HandleWindowVisibilityChanged supervisor
        (if isVisible managers info then VISIBLE else INVISIBLE)
        (Json.assign (MarshallingWindowVisibilityInfo managers info)) =
      info.change managers supervisor := by
  have hkeys : ((MarshallingWindowVisibilityInfo managers info).map Prod.fst).Nodup := by
    show List.Nodup ["pid", "uid", "windowId", "windowType", "isVisible", "visibilityState",
      "callingPid", "moduleName"]
    decide
  have hpid := ParseValue_int32 hkeys "pid" info.pid_ (by simp [MarshallingWindowVisibilityInfo])
  have huid := ParseValue_int32 hkeys "uid" info.uid_ (by simp [MarshallingWindowVisibilityInfo])
  have hwindow := ParseValue_textOf hkeys "windowId" info.windowId_
    (by simp [MarshallingWindowVisibilityInfo])
  have htype := ParseValue_int32 hkeys "windowType" info.windowType_
    (by simp [MarshallingWindowVisibilityInfo])
  have hvalue : decide ((if isVisible managers info then VISIBLE else INVISIBLE) ≠ 0) =
      isVisible managers info := by
    cases isVisible managers info <;> decide
  rw [HandleWindowVisibilityChanged, hpid, huid, hwindow, htype]
  simp only [Option.bind_eq_bind, Option.bind_some, Option.pure_def, Supervisor.parsed,
    toUnsigned_atoi_toString, hvalue]
  rfl

theorem HandleDrawingContentChangeWindow_assign (info : WindowDrawingContentInfo) :
    HandleDrawingContentChangeWindow supervisor
        (if info.drawingContentState_ then Drawing else NotDrawing)
        (Json.assign (MarshallingWindowDrawingContentInfo info)) =
      info.change supervisor := by
  have hkeys : ((MarshallingWindowDrawingContentInfo info).map Prod.fst).Nodup := by
    show List.Nodup ["pid", "uid", "windowId", "windowType", "drawingContentState"]
    decide
  have hpid := ParseValue_int32 hkeys "pid" info.pid_
    (by simp [MarshallingWindowDrawingContentInfo])
  have huid := ParseValue_int32 hkeys "uid" info.uid_
    (by simp [MarshallingWindowDrawingContentInfo])
  have hwindow := ParseValue_textOf hkeys "windowId" info.windowId_
    (by simp [MarshallingWindowDrawingContentInfo])
  have htype := ParseValue_int32 hkeys "windowType" info.windowType_
    (by simp [MarshallingWindowDrawingContentInfo])
  have hvalue : decide ((if info.drawingContentState_ then Drawing else NotDrawing) ≠ 0) =
      info.drawingContentState_ := by
    cases info.drawingContentState_ <;> decide
  rw [HandleDrawingContentChangeWindow, hpid, huid, hwindow, htype]
  simp only [Option.bind_eq_bind, Option.bind_some, Option.pure_def, Supervisor.parsed,
    toUnsigned_atoi_toString, hvalue]
  rfl

/-- The infos of one call are handled one after the other. -/
theorem foldl_infos {α : Type} (report : α → Report) (event : α → Event) (change : α → Change)
    (hevent : ∀ info, DispatchResource (report info) = some (event info))
    (hchange : ∀ supervisor info,
      Supervisor.update env supervisor (event info) = change info supervisor)
    (infos : List (Option α)) :
    ((infos.filterMap fun info => info.map report).filterMap DispatchResource).foldl
        (Supervisor.handle env) supervisor =
      (infos.filterMap fun info => info.map change).foldl (Supervisor.settle env)
        supervisor := by
  induction infos generalizing supervisor with
  | nil => rfl
  | cons info infos ih =>
      cases info with
      | none => exact ih supervisor
      | some info =>
          have hstep : Supervisor.handle env supervisor (event info) =
              Supervisor.settle env supervisor (change info) := by
            rw [Supervisor.handle, Supervisor.settle, hchange]
          simp only [List.filterMap_cons, Option.map_some, hevent, List.foldl_cons, hstep, ih]

end

/-! ## Any run of callbacks -/

theorem receive_eq (managers : Managers) (supervisor : Supervisor) (callback : Callback) :
    supervisor.receive managers callback =
      (callback.changes managers).foldl (Supervisor.settle managers.toExternal) supervisor := by
  cases callback with
  | OnForegroundApplicationChanged data => exact foldl_OnForegroundApplicationChanged _ _ data
  | OnApplicationStateChanged data => exact foldl_OnApplicationStateChanged _ _ data
  | OnAppStateChanged data =>
      rw [Supervisor.receive, Callback.reports, filterMap_OnAppStateChanged]
      rfl
  | OnAppCacheStateChanged data =>
      rw [Supervisor.receive, Callback.reports, filterMap_OnAppCacheStateChanged]
      rfl
  | OnAppStopped data => exact foldl_OnAppStopped _ _ data
  | OnAbilityStateChanged data => exact foldl_OnAbilityStateChanged managers _ data
  | OnExtensionStateChanged data => exact foldl_OnExtensionStateChanged managers _ data
  | OnProcessCreated data => exact foldl_reportProcess _ _ data PROCESS_CREATED
  | OnProcessDied data => exact foldl_reportProcess _ _ data PROCESS_DIED
  | OnProcessStateChanged data => exact foldl_reportProcess _ _ data data.state.toInt
  | OnProcessPreForegroundChanged data =>
      rw [Supervisor.receive, Callback.reports, filterMap_OnProcessPreForegroundChanged]
      rfl
  | OnFocused info => exact foldl_OnFocused _ _ info
  | OnUnfocused info => exact foldl_OnUnfocused _ _ info
  | OnWindowVisibilityChanged infos =>
      exact foldl_infos managers.toExternal supervisor (reportVisibility managers)
        (fun info => .HandleWindowVisibilityChanged (reportVisibility managers info).value
          (reportVisibility managers info).payload)
        (WindowVisibilityInfo.change managers) (fun _ => rfl)
        (HandleWindowVisibilityChanged_assign managers) infos
  | OnWindowDrawingContentChanged infos =>
      exact foldl_infos managers.toExternal supervisor reportDrawing
        (fun info => .HandleDrawingContentChangeWindow (reportDrawing info).value
          (reportDrawing info).payload)
        WindowDrawingContentInfo.change (fun _ => rfl) HandleDrawingContentChangeWindow_assign infos

/-- After any callbacks the records are those the changes they stand for leave, in their order. -/
theorem receive_run (managers : Managers) (supervisor : Supervisor) (callbacks : List Callback) :
    run (Supervisor.receive managers) supervisor callbacks =
      (callbacks.flatMap (Callback.changes managers)).foldl
        (Supervisor.settle managers.toExternal) supervisor := by
  induction callbacks generalizing supervisor with
  | nil => rfl
  | cons callback callbacks ih =>
      rw [run_cons, receive_eq, ih, List.flatMap_cons, List.foldl_append]

end ResSched.Cgroup
