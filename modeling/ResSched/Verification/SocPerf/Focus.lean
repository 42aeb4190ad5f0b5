import ResSched.Library.AllOf
import ResSched.Library.Transition
import ResSched.Model.SocPerf.Focus

/-! # What the events about focused applications change -/

namespace ResSched.SocPerf.Focus

/-! ## Recomputing weak interaction -/

/-- The status `UpdateWeakActionStatus` comes to. -/
def weakStatus (env : External) (plugin : Plugin) : Bool :=
  if plugin.custGameState_ then false
  else if ∃ appUid ∈ plugin.focusAppUids_,
      isKeyEntry env plugin (plugin.uidToAppMsgMap_.lookup appUid) = true then false
  else plugin.weakActionEnable_

theorem weakStatus_iff (env : External) (plugin : Plugin) :
    weakStatus env plugin = true ↔
      plugin.custGameState_ = false ∧ plugin.weakActionEnable_ = true ∧
        ∀ uid ∈ plugin.focusAppUids_,
          isKeyEntry env plugin (plugin.uidToAppMsgMap_.lookup uid) = false := by
  rw [weakStatus]
  cases plugin.custGameState_ with
  | true => simp
  | false =>
      simp only [Bool.false_eq_true, if_false, true_and]
      split_ifs with hkey
      · obtain ⟨uid, huid, hkey⟩ := hkey
        refine iff_of_false id ?_
        rintro ⟨_, hall⟩
        rw [hall uid huid] at hkey
        exact Bool.false_ne_true hkey
      · push Not at hkey
        simp only [ne_eq, Bool.not_eq_true] at hkey
        exact ⟨fun henable => ⟨henable, hkey⟩, fun h => h.1⟩

/-- The request that goes with a change of the status. -/
def weakCalls (env : External) (plugin : Plugin) : List Call :=
  if weakStatus env plugin = plugin.weakActionStatus_ then []
  else [.RequestDeviceMode WEAK_ACTION_MODE (weakStatus env plugin)]

theorem updateWeakActionStatus_eq (env : External) (plugin : Plugin) :
    UpdateWeakActionStatus env plugin =
      { plugin with
        weakActionStatus_ := weakStatus env plugin
        calls := plugin.calls ++ weakCalls env plugin } := by
  have hstatus : UpdateWeakActionStatus env plugin =
      if weakStatus env plugin ≠ plugin.weakActionStatus_ then
        { plugin with
          weakActionStatus_ := weakStatus env plugin
          calls := plugin.calls ++
            [.RequestDeviceMode WEAK_ACTION_MODE (weakStatus env plugin)] }
      else plugin := rfl
  rw [hstatus, weakCalls]
  by_cases hsame : weakStatus env plugin = plugin.weakActionStatus_
  · rw [if_neg (not_not.mpr hsame), if_pos hsame, List.append_nil, hsame]
  · rw [if_pos hsame, if_neg hsame]

/-! ## Entries of the map of applications -/

/-- The plugin with another entry for a uid. -/
def Plugin.withEntry (plugin : Plugin) (uid : Int) (entry : Option AppKeyMessage) : Plugin :=
  { plugin with
    uidToAppMsgMap_ :=
      match entry with
      | none => plugin.uidToAppMsgMap_.erase uid
      | some appMsg => plugin.uidToAppMsgMap_.insert uid appMsg }

theorem lookup_withEntry (plugin : Plugin) (uid : Int) (entry : Option AppKeyMessage) (a : Int) :
    (plugin.withEntry uid entry).uidToAppMsgMap_.lookup a =
      if a = uid then entry else plugin.uidToAppMsgMap_.lookup a := by
  cases entry with
  | none => exact AssocMap.lookup_erase_ite _ _ _
  | some appMsg => exact AssocMap.lookup_insert_ite _ _ _ _

/-- An application as the library types it, if it has a type. -/
def typedEntry (reqAppTypeFunc_ : String → Int) (bundleName : String) : Option AppKeyMessage :=
  if isValidType (reqAppTypeFunc_ bundleName) then some ⟨reqAppTypeFunc_ bundleName, bundleName⟩
  else none

/-- The application in the payload, if the library is there and types it. -/
def payloadEntry (env : External) (payload : Json String) : Option AppKeyMessage :=
  env.reqAppTypeFunc_.bind fun reqAppTypeFunc_ =>
    (bundleNameOf payload).bind (typedEntry reqAppTypeFunc_)

/-- The entry a focused application gets when the map has none. -/
def focusEntry (env : External) (plugin : Plugin) (uid : Int) : Option AppKeyMessage :=
  if plugin.uidToAppMsgMap_.lookup uid = none then
    env.reqAppTypeFunc_.bind fun reqAppTypeFunc_ =>
      typedEntry reqAppTypeFunc_ (env.GetBundleNameByUid uid)
  else none

/-- The uid whose entry an event changes once it has recomputed what it recomputes, and the
entry it gets. -/
def lateEntry (env : External) (plugin : Plugin) : Event → Option (Int × Option AppKeyMessage)
  | .HandleWindowFocus data =>
      let uid := GetUidByData data.payload
      if data.value = WINDOW_FOCUS ∧ uid ≠ INVALID_VALUE then
        (focusEntry env plugin uid).map fun appMsg => (uid, some appMsg)
      else none
  | .HandleAppAbilityStart data =>
      let uid := GetUidByData data.payload
      if data.value = APP_COLD_START ∧ uid ≠ INVALID_VALUE then
        (payloadEntry env data.payload).map fun appMsg => (uid, some appMsg)
      else none
  | .HandleAppStateChange data =>
      let uid := GetUidByData data.payload
      if data.value = PROCESS_CREATED ∧
          ParsePayload data.payload EXTENSION_TYPE_KEY ∈ UI_SENSITIVE_EXTENSION ∧
            isPreload data.payload = false ∧ uid ≠ INVALID_VALUE ∧
              plugin.uidToAppMsgMap_.lookup uid = none then
        (payloadEntry env data.payload).map fun appMsg => (uid, some appMsg)
      else none
  | .HandleUninstallEvent data =>
      if data.value = APP_UNINSTALL then
        ((integerByData data.payload UID_NAME).filter fun uid => uid ≠ INVALID_VALUE).map
          fun uid => (uid, none)
      else none
  | _ => none

/-- The event gives an application the focus or takes it away. -/
def Event.isFocus : Event → Bool
  | .HandleWindowFocus _ => true
  | _ => false

theorem lateEntry_focus_uid (env : External) (plugin : Plugin) (data : ResData) {uid : Int}
    {entry : Option AppKeyMessage}
    (h : lateEntry env plugin (.HandleWindowFocus data) = some (uid, entry)) :
    uid = GetUidByData data.payload := by
  rw [lateEntry] at h
  split_ifs at h
  obtain ⟨_, _, heq⟩ := Option.map_eq_some_iff.mp h
  exact (congrArg Prod.fst heq).symm

/-- The plugin with the entry an event leaves to the end. -/
def Plugin.withLate (plugin : Plugin) (late : Option (Int × Option AppKeyMessage)) : Plugin :=
  match late with
  | none => plugin
  | some (uid, entry) => plugin.withEntry uid entry

theorem handleAppAbilityStart_eq (env : External) (plugin : Plugin) (data : ResData) :
    HandleAppAbilityStart env plugin data =
      plugin.withLate (lateEntry env plugin (.HandleAppAbilityStart data)) := by
  rw [HandleAppAbilityStart, lateEntry, payloadEntry]
  by_cases hstart : data.value = APP_COLD_START
  · rw [if_pos hstart]
    cases env.reqAppTypeFunc_ with
    | none => simp [Plugin.withLate]
    | some reqAppTypeFunc_ =>
        cases bundleNameOf data.payload with
        | none => simp [Plugin.withLate]
        | some bundleName =>
            by_cases huid : GetUidByData data.payload = INVALID_VALUE
            · simp [UpdateUidToAppMsgMapOfType, huid, Plugin.withLate]
            · cases hvalid : isValidType (reqAppTypeFunc_ bundleName) with
              | false => simp [UpdateUidToAppMsgMapOfType, typedEntry, hvalid, Plugin.withLate]
              | true =>
                  simp [UpdateUidToAppMsgMapOfType, typedEntry, hvalid, huid, hstart,
                    Plugin.withLate, Plugin.withEntry]
  · simp [hstart, Plugin.withLate]

theorem handleAppStateChange_eq (env : External) (plugin : Plugin) (data : ResData) :
    HandleAppStateChange env plugin data =
      plugin.withLate (lateEntry env plugin (.HandleAppStateChange data)) := by
  rw [HandleAppStateChange, lateEntry, payloadEntry]
  by_cases hcreated : data.value = PROCESS_CREATED
  · rw [if_neg (not_not.mpr hcreated)]
    by_cases hsensitive : ParsePayload data.payload EXTENSION_TYPE_KEY ∈ UI_SENSITIVE_EXTENSION
    · rw [if_pos hsensitive]
      cases hpreload : isPreload data.payload with
      | true => simp [Plugin.withLate]
      | false =>
          rw [UpdateUidToAppMsgMap]
          by_cases huid : GetUidByData data.payload = INVALID_VALUE
          · simp [huid, Plugin.withLate]
          · cases hlookup : plugin.uidToAppMsgMap_.lookup (GetUidByData data.payload) with
            | some appMsg => simp [Plugin.withLate]
            | none =>
                cases env.reqAppTypeFunc_ with
                | none => simp [Plugin.withLate]
                | some reqAppTypeFunc_ =>
                    cases bundleNameOf data.payload with
                    | none => simp [Plugin.withLate]
                    | some bundleName =>
                        cases hvalid : isValidType (reqAppTypeFunc_ bundleName) with
                        | false => simp [typedEntry, hvalid, Plugin.withLate]
                        | true =>
                            simp [typedEntry, hvalid, huid, hcreated, hsensitive,
                              Plugin.withLate, Plugin.withEntry]
    · simp [hsensitive, Plugin.withLate]
  · simp [hcreated, Plugin.withLate]

theorem handleUninstallEvent_eq (env : External) (plugin : Plugin) (data : ResData) :
    HandleUninstallEvent plugin data =
      plugin.withLate (lateEntry env plugin (.HandleUninstallEvent data)) := by
  rw [HandleUninstallEvent, lateEntry]
  by_cases hgone : data.value = APP_UNINSTALL
  · rw [if_neg (not_not.mpr hgone), if_pos hgone]
    cases integerByData data.payload UID_NAME with
    | none => rfl
    | some uid =>
        by_cases huid : uid = INVALID_VALUE
        · simp [huid, Option.filter, Plugin.withLate]
        · simp [huid, Option.filter, Plugin.withLate, Plugin.withEntry]
  · simp [hgone, Plugin.withLate]

/-! ## Focus events -/

/-- The plugin after a uid has got the focus and the status has been recomputed. -/
def Plugin.focused (env : External) (plugin : Plugin) (uid : Int) : Plugin :=
  UpdateWeakActionStatus env { plugin with focusAppUids_ := insert uid plugin.focusAppUids_ }

/-- The plugin after a uid has lost it and the status has been recomputed. -/
def Plugin.unfocused (env : External) (plugin : Plugin) (uid : Int) : Plugin :=
  UpdateWeakActionStatus env { plugin with focusAppUids_ := plugin.focusAppUids_.erase uid }

/-- The type of a focused application: from the map, or else from the library. -/
def focusType (env : External) (plugin : Plugin) (uid : Int) : Option Int :=
  match plugin.uidToAppMsgMap_.lookup uid with
  | some appMsg => some appMsg.appType
  | none =>
      env.reqAppTypeFunc_.map fun reqAppTypeFunc_ => reqAppTypeFunc_ (env.GetBundleNameByUid uid)

/-- The flag after the focus of a uid that is among the focused ones. -/
def gameFlag (env : External) (plugin : Plugin) (uid : Int) : Bool :=
  match focusType env plugin uid with
  | none => plugin.isFocusAppsGameType_
  | some appType => UpdatesFocusAppsType plugin appType

theorem setPidType_eq (plugin : Plugin) (pid appType : Int) :
    ∃ pidToAppTypeMap_, setPidType plugin pid appType =
      { plugin with pidToAppTypeMap_ := pidToAppTypeMap_ } := by
  rw [setPidType]
  split_ifs with hpid
  · exact ⟨_, rfl⟩
  · exact ⟨plugin.pidToAppTypeMap_, rfl⟩

theorem typeFocusedApp_eq (env : External) (plugin : Plugin) (uid pid : Int) :
    ∃ pidToAppTypeMap_, typeFocusedApp env plugin uid pid =
      { plugin.withLate ((focusEntry env plugin uid).map fun appMsg => (uid, some appMsg)) with
        pidToAppTypeMap_ := pidToAppTypeMap_
        isFocusAppsGameType_ := gameFlag env plugin uid } := by
  rw [typeFocusedApp, gameFlag, focusType, focusEntry]
  cases plugin.uidToAppMsgMap_.lookup uid with
  | some appMsg =>
      obtain ⟨pidToAppTypeMap_, hpid⟩ := setPidType_eq plugin pid appMsg.appType
      refine ⟨pidToAppTypeMap_, ?_⟩
      simp only [hpid]
      rfl
  | none =>
      cases env.reqAppTypeFunc_ with
      | none => exact ⟨plugin.pidToAppTypeMap_, rfl⟩
      | some reqAppTypeFunc_ =>
          obtain ⟨pidToAppTypeMap_, hpid⟩ :=
            setPidType_eq plugin pid (reqAppTypeFunc_ (env.GetBundleNameByUid uid))
          cases hvalid : isValidType (reqAppTypeFunc_ (env.GetBundleNameByUid uid)) with
          | false =>
              refine ⟨plugin.pidToAppTypeMap_, ?_⟩
              simp only [typedEntry, hvalid, Option.bind_some, Bool.false_eq_true, if_false]
              rfl
          | true =>
              refine ⟨pidToAppTypeMap_, ?_⟩
              simp only [typedEntry, hvalid, hpid, Option.bind_some, if_true]
              rfl

theorem updateWeakActionStatus_fields (env : External) (plugin : Plugin) (uid : Int) :
    focusEntry env (UpdateWeakActionStatus env plugin) uid = focusEntry env plugin uid ∧
      gameFlag env (UpdateWeakActionStatus env plugin) uid = gameFlag env plugin uid := by
  rw [updateWeakActionStatus_eq]
  exact ⟨rfl, rfl⟩

/-- A focus recomputes the status, then enters the application and updates the flag. -/
theorem handleWindowFocus_focus (env : External) (plugin : Plugin) (data : ResData)
    (hvalue : data.value = WINDOW_FOCUS) (huid : GetUidByData data.payload ≠ INVALID_VALUE) :
    ∃ pidToAppTypeMap_,
      HandleWindowFocus env plugin data =
        { (plugin.focused env (GetUidByData data.payload)).withLate
            (lateEntry env plugin (.HandleWindowFocus data)) with
          pidToAppTypeMap_ := pidToAppTypeMap_
          isFocusAppsGameType_ := gameFlag env
            { plugin with
              focusAppUids_ := insert (GetUidByData data.payload) plugin.focusAppUids_ }
            (GetUidByData data.payload) } := by
  have hupdate : HandleWindowFocus env plugin data =
      typeFocusedApp env (plugin.focused env (GetUidByData data.payload))
        (GetUidByData data.payload) (GetPidByData data.payload PID_NAME) := by
    rw [HandleWindowFocus, if_pos hvalue, UpdateFocusAppType]
    exact if_neg huid
  obtain ⟨pidToAppTypeMap_, htyped⟩ := typeFocusedApp_eq env
    (plugin.focused env (GetUidByData data.payload)) (GetUidByData data.payload)
    (GetPidByData data.payload PID_NAME)
  obtain ⟨hentry, hflag⟩ := updateWeakActionStatus_fields env
    { plugin with focusAppUids_ := insert (GetUidByData data.payload) plugin.focusAppUids_ }
    (GetUidByData data.payload)
  refine ⟨pidToAppTypeMap_, ?_⟩
  rw [hupdate, htyped, lateEntry, if_pos ⟨hvalue, huid⟩, Plugin.focused, hentry, hflag]
  rfl

theorem handleWindowFocus_unfocus (env : External) (plugin : Plugin) (data : ResData)
    (hvalue : data.value = WINDOW_UNFOCUS) (huid : GetUidByData data.payload ≠ INVALID_VALUE) :
    HandleWindowFocus env plugin data =
      { plugin.unfocused env (GetUidByData data.payload) with
        isFocusAppsGameType_ :=
          IsFocusAppsAllGame (plugin.unfocused env (GetUidByData data.payload)) } := by
  rw [HandleWindowFocus, if_neg (by rw [hvalue]; decide), if_pos hvalue]
  simp only [UpdateFocusAppType, if_neg huid, Bool.not_false, if_true, Plugin.unfocused]

theorem handleWindowFocus_ignored (env : External) (plugin : Plugin) (data : ResData)
    (h : GetUidByData data.payload = INVALID_VALUE ∨
      data.value ≠ WINDOW_FOCUS ∧ data.value ≠ WINDOW_UNFOCUS) :
    HandleWindowFocus env plugin data = plugin := by
  rw [HandleWindowFocus]
  split_ifs with hfocus hunfocus
  · rcases h with huid | h
    · rw [UpdateFocusAppType]
      exact if_pos huid
    · exact absurd hfocus h.1
  · rcases h with huid | h
    · rw [UpdateFocusAppType]
      exact if_pos huid
    · exact absurd hunfocus h.2
  · rfl

/-- A focus event is ignored, gives a uid the focus, or takes it away and enters nothing. -/
theorem handleWindowFocus_cases (env : External) (plugin : Plugin) (data : ResData) :
    (lateEntry env plugin (.HandleWindowFocus data) = none ∧
        HandleWindowFocus env plugin data = plugin) ∨
      (data.value = WINDOW_FOCUS ∧ GetUidByData data.payload ≠ INVALID_VALUE) ∨
      lateEntry env plugin (.HandleWindowFocus data) = none ∧
        HandleWindowFocus env plugin data =
          { plugin.unfocused env (GetUidByData data.payload) with
            isFocusAppsGameType_ :=
              IsFocusAppsAllGame (plugin.unfocused env (GetUidByData data.payload)) } := by
  by_cases huid : GetUidByData data.payload = INVALID_VALUE
  · exact Or.inl ⟨if_neg fun h => h.2 huid, handleWindowFocus_ignored env plugin data (Or.inl huid)⟩
  · by_cases hfocus : data.value = WINDOW_FOCUS
    · exact Or.inr (Or.inl ⟨hfocus, huid⟩)
    · have hnone : lateEntry env plugin (.HandleWindowFocus data) = none :=
        if_neg fun h => hfocus h.1
      by_cases hunfocus : data.value = WINDOW_UNFOCUS
      · exact Or.inr (Or.inr ⟨hnone, handleWindowFocus_unfocus env plugin data hunfocus huid⟩)
      · have hother := And.intro hfocus hunfocus
        exact Or.inl ⟨hnone, handleWindowFocus_ignored env plugin data (Or.inr hother)⟩

/-! ## Cloud configurations -/

/-- All sub items of a configuration, in order. -/
def weakSubItems (itemLists : PluginConfig) : List SubItem :=
  itemLists.itemList.flatMap Item.subItemList

theorem loadWeakInterAction_eq (env : External) (plugin : Plugin) (itemLists : PluginConfig) :
    LoadWeakInterAction env plugin itemLists =
      (weakSubItems itemLists).foldl (loadWeakSubItem env) plugin :=
  List.foldl_flatMap.symm

/-- What a recomputation keeps, and a change of the switch or of the lists of key applications,
a whole configuration keeps. -/
theorem loadWeakInterAction_keeps (env : External) {P : Plugin → Prop} (plugin : Plugin)
    (itemLists : PluginConfig)
    (hupdate : ∀ plugin, P plugin → P (UpdateWeakActionStatus env plugin))
    (hload : ∀ plugin enable names types, P plugin →
      P { plugin with
          weakActionEnable_ := enable, keyAppName_ := names, keyAppType_ := types })
    (h : P plugin) : P (LoadWeakInterAction env plugin itemLists) := by
  rw [loadWeakInterAction_eq]
  refine List.foldlRecOn _ _ h fun plugin h sub _ => ?_
  rw [loadWeakSubItem, SetWeakActionEnable, AddKeyAppName, AddKeyAppType]
  split_ifs
  · exact h
  · exact hupdate _ (hload plugin _ plugin.keyAppName_ plugin.keyAppType_ h)
  · exact h
  · exact hload plugin plugin.weakActionEnable_ _ plugin.keyAppType_ h
  · exact h
  · exact hload plugin plugin.weakActionEnable_ plugin.keyAppName_ _ h
  · exact h

/-! ## Other parts of the state -/

theorem handleProcessStateChange_eq (plugin : Plugin) (data : ResData) :
    ∃ pidToAppTypeMap_, HandleProcessStateChange plugin data =
      { plugin with pidToAppTypeMap_ := pidToAppTypeMap_ } := by
  rw [HandleProcessStateChange]
  by_cases hdied : data.value = PROCESS_DIED
  · by_cases hpid : GetPidByData data.payload PID_NAME = INVALID_VALUE
    · rw [if_pos hdied]
      exact ⟨plugin.pidToAppTypeMap_, if_pos hpid⟩
    · rw [if_pos hdied]
      exact ⟨_, if_neg hpid⟩
  · rw [if_neg hdied]
    exact ⟨plugin.pidToAppTypeMap_, rfl⟩

theorem applyPolicyLimits_eq (limitPolicy : PluginConfig) (policyMode : String)
    (plugin : Plugin) :
    ∃ powerLimit_ thermalLimit_, ApplyPolicyLimits limitPolicy policyMode plugin =
      { plugin with powerLimit_ := powerLimit_, thermalLimit_ := thermalLimit_ } := by
  rw [ApplyPolicyLimits]
  cases limitPolicy.itemList.find? _ with
  | none => exact ⟨plugin.powerLimit_, plugin.thermalLimit_, rfl⟩
  | some item =>
      show ∃ powerLimit_ thermalLimit_, item.subItemList.foldl _ plugin = _
      induction item.subItemList generalizing plugin with
      | nil => exact ⟨plugin.powerLimit_, plugin.thermalLimit_, rfl⟩
      | cons sub subs ih =>
          rw [List.foldl_cons]
          split_ifs
          · obtain ⟨powerLimit_, thermalLimit_, hlimits⟩ :=
              ih { plugin with powerLimit_ := some (decide (CLibrary.atoi sub.value ≠ 0)) }
            exact ⟨powerLimit_, thermalLimit_, hlimits⟩
          · obtain ⟨powerLimit_, thermalLimit_, hlimits⟩ :=
              ih { plugin with thermalLimit_ := some (decide (CLibrary.atoi sub.value ≠ 0)) }
            exact ⟨powerLimit_, thermalLimit_, hlimits⟩
          · exact ih plugin

theorem initPolicyMode_eq (plugin : Plugin) (socperfPolicy limitPolicy : PluginConfig) :
    ∃ powerLimit_ thermalLimit_, InitPolicyMode plugin socperfPolicy limitPolicy =
      { plugin with powerLimit_ := powerLimit_, thermalLimit_ := thermalLimit_ } := by
  rw [InitPolicyMode]
  split_ifs
  · exact applyPolicyLimits_eq limitPolicy _ plugin
  · exact ⟨plugin.powerLimit_, plugin.thermalLimit_, rfl⟩

end ResSched.SocPerf.Focus
