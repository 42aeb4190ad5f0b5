import ResSched.Model.Service.Report

/-! # The checked type is the dispatched type -/

namespace ResSched.Service

open Plugin (ResData RES_TYPE_KEY_PERF_SCENE DEFAULT_VALUE EXT_RES_KEY)

/-! ## The specification -/

/-- The plugins of a request see the caller of the request. -/
structure CallerSeen (caller : Caller) (payload : Json String) : Prop where
  callingUid : payload.find? "callingUid" = some (.string (toString caller.uid))
  clientPid : payload.find? "clientPid" = some (.string (toString caller.pid))
  callingFullTokenID :
    payload.find? "callingFullTokenID" = some (.string (toString caller.fullTokenID))

/-- The event handed to the plugins has the type that was checked for the caller and approved,
and tells who the caller is. -/
structure Genuine (env : ReportEnv) (access : Access) (caller : Caller) (request : Request)
    (seen : ResData) : Prop where
  checked : seen.resType = realResType env request
  approved : CheckReportDataParcel access caller seen.resType request.payload = .ok ()
  value : seen.value = request.value
  caller : CallerSeen caller seen.payload

/-! ## The two rewritings of the type -/

theorem is_object_StringToJsonObj (env : ReportEnv) (str : List UInt8) :
    (StringToJsonObj env str).is_object := by
  rw [StringToJsonObj]
  split_ifs
  · rfl
  · cases env.parse str with
    | none => rfl
    | some jsonTmp =>
        dsimp only
        split_ifs with hobject
        · rfl
        · simpa using hobject

/-- The rewriting of the service is the one of the plugin manager on the parsed payload. -/
theorem GetExtTypeByResPayload_eq (env : ReportEnv) (resData : ResData) (payload : List UInt8)
    (hscene : resData.resType = RES_TYPE_KEY_PERF_SCENE)
    (hext : resData.payload.find? EXT_RES_KEY =
      (StringToJsonObj env payload).find? EXT_RES_KEY) :
    Plugin.GetExtTypeByResPayload env.toExternal resData =
      GetExtTypeByResPayload env payload := by
  rw [Plugin.GetExtTypeByResPayload, if_neg (not_not.mpr hscene), hext]
  rfl

theorem realResType_of_ne (env : ReportEnv) (request : Request)
    (hscene : request.resType ≠ RES_TYPE_KEY_PERF_SCENE) :
    realResType env request = request.resType := by
  rw [realResType, if_neg fun h => hscene h.2]

theorem realResType_of_ext (env : ReportEnv) (request : Request)
    (henable : env.extResEnable = true) (hscene : request.resType = RES_TYPE_KEY_PERF_SCENE)
    (hext : GetExtTypeByResPayload env request.payload ≠ DEFAULT_VALUE) :
    realResType env request =
      CLibrary.toUnsigned 32 (GetExtTypeByResPayload env request.payload) := by
  rw [realResType, if_pos ⟨henable, hscene⟩]
  exact if_pos hext

/-- Rewriting the type again, from a payload with the same member `extType`, leaves the type that
was checked. -/
theorem dispatchedType_realResType (env : ReportEnv) (request : Request) (value : Int)
    (payload : Json String)
    (hext : payload.find? EXT_RES_KEY =
      (StringToJsonObj env request.payload).find? EXT_RES_KEY) :
    Plugin.dispatchedType env.toExternal ⟨realResType env request, value, payload⟩ =
      realResType env request := by
  rw [Plugin.dispatchedType]
  split_ifs with henable
  · dsimp only
    split_ifs with hagain
    · -- only a scene event is rewritten, and the scene type comes out of a first rewriting
      -- only as the extended type itself
      have hscene : realResType env request = RES_TYPE_KEY_PERF_SCENE := by
        by_contra hne
        rw [Plugin.GetExtTypeByResPayload, if_pos hne] at hagain
        exact hagain rfl
      rw [GetExtTypeByResPayload_eq env _ request.payload hscene hext] at hagain ⊢
      by_cases hrequest : request.resType = RES_TYPE_KEY_PERF_SCENE
      · exact (realResType_of_ext env request henable hrequest hagain).symm
      · rw [realResType_of_ne env request hrequest] at hscene
        exact absurd hscene hrequest
    · rfl
  · rfl

/-! ## An accepted request -/

/-- Whatever the payload contained, what the service writes into it is what plugins find there. -/
theorem callerSeen_set (caller : Caller) (json : Json String) (hobject : json.is_object) :
    CallerSeen caller
      (((json.set "callingUid" (.string (toString caller.uid))).set "clientPid"
        (.string (toString caller.pid))).set "callingFullTokenID"
          (.string (toString caller.fullTokenID))) := by
  have huid := Json.is_object_set json "callingUid" (.string (toString caller.uid)) hobject
  have hpid := Json.is_object_set _ "clientPid" (.string (toString caller.pid)) huid
  constructor
  case callingUid =>
    rw [Json.find?_set_ne _ _ _ _ (by decide) hpid, Json.find?_set_ne _ _ _ _ (by decide) huid,
      Json.find?_set_self _ _ _ hobject]
  case clientPid => rw [Json.find?_set_ne _ _ _ _ (by decide) hpid, Json.find?_set_self _ _ _ huid]
  case callingFullTokenID => rw [Json.find?_set_self _ _ _ hpid]

/-- `ReportSyncEvent` writes the members in another order. -/
theorem callerSeen_set_sync (caller : Caller) (json : Json String) (hobject : json.is_object) :
    CallerSeen caller
      (((json.set "clientPid" (.string (toString caller.pid))).set "callingUid"
        (.string (toString caller.uid))).set "callingFullTokenID"
          (.string (toString caller.fullTokenID))) := by
  have hpid := Json.is_object_set json "clientPid" (.string (toString caller.pid)) hobject
  have huid := Json.is_object_set _ "callingUid" (.string (toString caller.uid)) hpid
  constructor
  case callingUid => rw [Json.find?_set_ne _ _ _ _ (by decide) huid, Json.find?_set_self _ _ _ hpid]
  case clientPid =>
    rw [Json.find?_set_ne _ _ _ _ (by decide) huid, Json.find?_set_ne _ _ _ _ (by decide) hpid,
      Json.find?_set_self _ _ _ hobject]
  case callingFullTokenID => rw [Json.find?_set_self _ _ _ huid]

theorem find?_callerSeen_ext (caller : Caller) (json : Json String) (hobject : json.is_object) :
    (((json.set "callingUid" (.string (toString caller.uid))).set "clientPid"
        (.string (toString caller.pid))).set "callingFullTokenID"
          (.string (toString caller.fullTokenID))).find? EXT_RES_KEY = json.find? EXT_RES_KEY := by
  have huid := Json.is_object_set json "callingUid" (.string (toString caller.uid)) hobject
  have hpid := Json.is_object_set _ "clientPid" (.string (toString caller.pid)) huid
  rw [Json.find?_set_ne _ _ _ _ (by decide) hpid, Json.find?_set_ne _ _ _ _ (by decide) huid,
    Json.find?_set_ne _ _ _ _ (by decide) hobject]

theorem ReportData_accepted (env : ReportEnv) (access : Access)
    (remoteRequestCheck : Except ErrCode Unit) (caller : Caller) (request : Request)
    (resData : ResData)
    (haccepted : ReportData env access remoteRequestCheck caller request = .ok resData) :
    Genuine env access caller request (dispatched env resData) := by
  cases hlimit : remoteRequestCheck with
  | error e =>
      rw [hlimit] at haccepted
      cases haccepted
  | ok u =>
      cases hcheck : CheckReportDataParcel access caller (realResType env request)
          request.payload with
      | error e =>
          simp only [ReportData, hlimit, hcheck] at haccepted
          cases haccepted
      | ok v =>
          simp only [ReportData, hlimit, hcheck] at haccepted
          obtain rfl := Except.ok.inj haccepted
          have hobject := is_object_StringToJsonObj env request.payload
          have htype := dispatchedType_realResType env request request.value _
            (find?_callerSeen_ext caller (StringToJsonObj env request.payload) hobject)
          exact {
            checked := htype
            approved := by
              rw [dispatched, htype]
              exact hcheck
            value := rfl
            caller := callerSeen_set caller _ hobject }

theorem ReportSyncEvent_accepted (env : ReportEnv) (access : Access)
    (remoteRequestCheck : Except ErrCode Unit) (caller : Caller) (request : Request)
    (resData : ResData)
    (haccepted : ReportSyncEvent env access remoteRequestCheck caller request = .ok resData) :
    Genuine env access caller request resData := by
  cases hlimit : remoteRequestCheck with
  | error e =>
      rw [hlimit] at haccepted
      cases haccepted
  | ok u =>
      cases hcheck : CheckReportDataParcel access caller (realResType env request)
          request.payload with
      | error e =>
          simp only [ReportSyncEvent, hlimit, hcheck] at haccepted
          cases haccepted
      | ok v =>
          simp only [ReportSyncEvent, hlimit, hcheck] at haccepted
          obtain rfl := Except.ok.inj haccepted
          exact {
            checked := rfl
            approved := hcheck
            value := rfl
            caller := callerSeen_set_sync caller _ (is_object_StringToJsonObj env _) }

/-- Every request that is accepted reaches the plugins under the type approved for its caller,
with the identity of the caller, dispatched as well as delivered. -/
theorem accepted_genuine (env : ReportEnv) (access : Access)
    (remoteRequestCheck : Except ErrCode Unit) (caller : Caller) (request : Request) :
    (∀ resData, ReportData env access remoteRequestCheck caller request = .ok resData →
      Genuine env access caller request (dispatched env resData) ∧
        ∀ (mgr : Plugin.PluginMgr) (pluginLib : String),
          pluginLib ∈ mgr.DispatchResource env.toExternal resData →
            pluginLib ∈ mgr.GetPluginListByResType (realResType env request) ∨
              pluginLib ∈
                mgr.GetPluginListByResTypeAndValue (realResType env request) request.value) ∧
    (∀ resData, ReportSyncEvent env access remoteRequestCheck caller request = .ok resData →
      Genuine env access caller request resData ∧
        ∀ resTypeLibSyncMap_ pluginLib seen,
          DeliverResource resTypeLibSyncMap_ resData = some (pluginLib, seen) →
            resTypeLibSyncMap_.lookup (realResType env request) = some pluginLib ∧
              seen = resData) := by
  constructor
  · intro resData haccepted
    have hgenuine := ReportData_accepted env access remoteRequestCheck caller request resData
      haccepted
    refine ⟨hgenuine, ?_⟩
    intro mgr pluginLib hmem
    have htype : Plugin.dispatchedType env.toExternal resData = realResType env request :=
      hgenuine.checked
    have hvalue : resData.value = request.value := hgenuine.value
    rw [Plugin.PluginMgr.DispatchResource] at hmem
    split_ifs at hmem with hinit
    · exact absurd hmem List.not_mem_nil
    · rw [List.mem_dedup, List.mem_append, htype, hvalue] at hmem
      exact hmem
  · intro resData haccepted
    have hgenuine := ReportSyncEvent_accepted env access remoteRequestCheck caller request
      resData haccepted
    refine ⟨hgenuine, ?_⟩
    intro resTypeLibSyncMap_ pluginLib seen hdeliver
    obtain ⟨pluginLib', hlookup, hpair⟩ := Option.map_eq_some_iff.mp hdeliver
    obtain ⟨rfl, rfl⟩ := Prod.mk.inj hpair
    rw [hgenuine.checked] at hlookup
    exact ⟨hlookup, rfl⟩

/-- An application asks for type 3 through a scene event and claims to be uid 0: the bytes are
those of an object with the members `extType` and `callingUid`. -/
def disguisedRequest : Request where
  resType := RES_TYPE_KEY_PERF_SCENE
  value := 1
  payload := [123, 34, 101, 120, 116, 84, 121, 112, 101, 34, 58, 34, 51, 34, 44, 34, 99, 97, 108,
    108, 105, 110, 103, 85, 105, 100, 34, 58, 34, 48, 34, 125]

def disguisedEnv : ReportEnv where
  extResEnable := true
  StrToInt := fun text => some (CLibrary.atoi text)
  parse := fun str =>
    if str = disguisedRequest.payload then
      some (.object [("callingUid", .string "0"), ("extType", .string "3")])
    else none

/-- Applications may report type 3. -/
def disguisedAccess : Access where
  tables := { ReportTables.empty with allowAllAppReportRes := {3} }
  isForegroundApp := fun _ => false

def application : Caller where
  uid := 20010
  pid := 500
  fullTokenID := 7
  tokenType := .TOKEN_HAP
  bundleName := "app"
  cachedPermission := none
  verifiedPermission := -1

theorem accepted_genuine_disguised :
    realResType disguisedEnv disguisedRequest = 3 ∧
      (∃ resData,
        ReportData disguisedEnv disguisedAccess (.ok ()) application disguisedRequest =
            .ok resData ∧
          Genuine disguisedEnv disguisedAccess application disguisedRequest
            (dispatched disguisedEnv resData)) ∧
      (∃ resData,
        ReportSyncEvent disguisedEnv disguisedAccess (.ok ()) application disguisedRequest =
            .ok resData ∧
          Genuine disguisedEnv disguisedAccess application disguisedRequest resData) := by
  have hgenuine := accepted_genuine disguisedEnv disguisedAccess (.ok ()) application
    disguisedRequest
  refine ⟨by decide +kernel, ⟨_, rfl, ?_⟩, ⟨_, rfl, ?_⟩⟩
  · exact (hgenuine.1 _ rfl).1
  · exact (hgenuine.2 _ rfl).1

end ResSched.Service
