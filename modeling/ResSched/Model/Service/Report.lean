import ResSched.Model.Plugin.Subscription
import ResSched.Model.Service.Permission

/-! # Reports of clients: the check of a request and its dispatch -/

namespace ResSched.Service

open Plugin (ResData RES_TYPE_KEY_PERF_SCENE DEFAULT_VALUE EXT_RES_KEY)

def PAYLOAD_MAX_SIZE : Nat := 4096

/-- What the service takes from the build and from the libraries; `parse` is `none` on a text
that is discarded. -/
structure ReportEnv extends Plugin.External where
  parse : List UInt8 → Option (Json String)

/-- What the permission checks of a request look at. -/
structure Access where
  tables : ReportTables
  isForegroundApp : Int → Bool

/-- A request as it arrives: the payload is the bytes of the string. -/
structure Request where
  resType : Nat
  value : Int
  payload : List UInt8

inductive ErrCode where
  | RES_SCHED_REQUEST_FAIL
  | ERR_RES_SCHED_PERMISSION_DENIED
  | ERR_RES_SCHED_PARCEL_ERROR
deriving DecidableEq

def StringToJsonObj (env : ReportEnv) (str : List UInt8) : Json String :=
  if str.isEmpty then .object []
  else
    match env.parse str with
    | none => .object []
    | some jsonTmp => if !jsonTmp.is_object then .object [] else jsonTmp

def GetExtTypeByResPayload (env : ReportEnv) (payload : List UInt8) : Int :=
  match ((StringToJsonObj env payload).find? EXT_RES_KEY).bind Json.string? with
  | none => DEFAULT_VALUE
  | some extType => (env.StrToInt extType).getD DEFAULT_VALUE

/-- The type a request is checked under. -/
def realResType (env : ReportEnv) (request : Request) : Nat :=
  if env.extResEnable ∧ request.resType = RES_TYPE_KEY_PERF_SCENE then
    let extType := GetExtTypeByResPayload env request.payload
    if extType ≠ DEFAULT_VALUE then CLibrary.toUnsigned 32 extType else request.resType
  else request.resType

def CheckReportDataParcel (access : Access) (caller : Caller) (type : Nat)
    (payload : List UInt8) : Except ErrCode Unit :=
  if !IsSBDResType access.tables caller type &&
      !IsThirdPartType access.tables access.isForegroundApp caller type &&
      !IsHasPermission access.tables caller type caller.uid then
    .error .ERR_RES_SCHED_PERMISSION_DENIED
  else if payload.length > PAYLOAD_MAX_SIZE then .error .ERR_RES_SCHED_PARCEL_ERROR
  else .ok ()

/-- `remoteRequestCheck` is the verdict of `RemoteRequestCheck` on the rate of requests. The
result is what `ResSchedMgr::ReportData` is called with. -/
def ReportData (env : ReportEnv) (access : Access) (remoteRequestCheck : Except ErrCode Unit)
    (caller : Caller) (request : Request) : Except ErrCode ResData := do
  remoteRequestCheck
  let resType := realResType env request
  CheckReportDataParcel access caller resType request.payload
  let reportDataPayload := StringToJsonObj env request.payload
  let reportDataPayload := reportDataPayload.set "callingUid" (.string (toString caller.uid))
  let reportDataPayload := reportDataPayload.set "clientPid" (.string (toString caller.pid))
  let reportDataPayload :=
    reportDataPayload.set "callingFullTokenID" (.string (toString caller.fullTokenID))
  return ⟨resType, request.value, reportDataPayload⟩

/-- The result is what `PluginMgr::DeliverResource` is called with. -/
def ReportSyncEvent (env : ReportEnv) (access : Access)
    (remoteRequestCheck : Except ErrCode Unit) (caller : Caller) (request : Request) :
    Except ErrCode ResData := do
  remoteRequestCheck
  let realResType := realResType env request
  CheckReportDataParcel access caller realResType request.payload
  let payloadJsonValue := StringToJsonObj env request.payload
  let payloadJsonValue := payloadJsonValue.set "clientPid" (.string (toString caller.pid))
  let payloadJsonValue := payloadJsonValue.set "callingUid" (.string (toString caller.uid))
  let payloadJsonValue :=
    payloadJsonValue.set "callingFullTokenID" (.string (toString caller.fullTokenID))
  return ⟨realResType, request.value, payloadJsonValue⟩

/-- `DispatchResource` overwrites the type of the event it hands to the plugins. -/
def dispatched (env : ReportEnv) (resData : ResData) : ResData :=
  { resData with resType := Plugin.dispatchedType env.toExternal resData }

/-- `DeliverResource` hands the event as it is to the plugin of its type. -/
def DeliverResource (resTypeLibSyncMap_ : AssocMap Nat String) (resData : ResData) :
    Option (String × ResData) :=
  (resTypeLibSyncMap_.lookup resData.resType).map fun pluginLib => (pluginLib, resData)

end ResSched.Service
