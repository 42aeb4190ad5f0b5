import ResSched.Library.AssocMap
import ResSched.Library.Batches
import ResSched.Model.Json

/-! # Initialisation of the executor, in one message or in batches -/

namespace ResSched.Executor

/-- The contents of a `std::string`. -/
abbrev Bytes := List UInt8

/-- The bytes of an ASCII literal. -/
def ascii (literal : String) : Bytes :=
  literal.toList.map (fun c => UInt8.ofNat c.toNat)

def MAX_IPC_MESSAGE_SIZE : Nat := 200000
def IPC_BATCHES_SIZE : Nat := 180000
def MAX_CONFIG_SIZE : Nat := 1024 * 1024
def STR_CONFIG_READER : Bytes := ascii "config"
def STR_PLUGIN_SWITCH : Bytes := ascii "switch"
def STR_MESSAGE_INDEX : Bytes := ascii "MESSAGE_INDEX"
def STR_MESSAGE_NUMBER : Bytes := ascii "MESSAGE_NUMBER"
def STR_IPC_MESSAGE : Bytes := ascii "IPC_MESSAGE"

/-- The JSON library: printing, parsing, and the conversion of floating-point numbers. -/
structure External where
  dump : Json Bytes → Bytes
  parse : Bytes → Option (Json Bytes)
  floatToInt : UInt64 → Int

/-! ## The client -/

def DumpJsonToString (env : External) (jsonObj : Json Bytes) : Bytes :=
  if jsonObj.is_object then env.dump jsonObj else []

/-- One message of a batch. -/
def jsonIpc (messageNumber messageIndex : Nat) (msg : Bytes) : Json Bytes :=
  .object [(STR_IPC_MESSAGE, .string msg), (STR_MESSAGE_INDEX, .int messageIndex),
    (STR_MESSAGE_NUMBER, .int messageNumber)]

/-- The messages a context is split into; `none` when it fits into one. -/
def ProcessJson (env : External) (context : Json Bytes) : Option (List (Json Bytes)) :=
  let dumpJsonStr := DumpJsonToString env context
  if dumpJsonStr.length > MAX_IPC_MESSAGE_SIZE then
    let messageValue := batches IPC_BATCHES_SIZE dumpJsonStr
    some (messageValue.mapIdx (jsonIpc messageValue.length))
  else none

/-! ## The executor -/

/-- The fields of `ResSchedExeMgr` with the calls made so far: those of `InitPluginMgr`, and
those of `ParseConfigReader` and `ParsePluginSwitch` on the plugin manager. -/
structure ResSchedExeMgr where
  isInit : Bool
  ipcNumber : Nat
  ipcMessage : AssocMap Int Bytes
  initCalls : List (Json Bytes)
  parsedConfigs : List (List Bytes)
  parsedSwitches : List (List Bytes)
  threw : Bool

def ResSchedExeMgr.created : ResSchedExeMgr where
  isInit := false
  ipcNumber := 0
  ipcMessage := ∅
  initCalls := []
  parsedConfigs := []
  parsedSwitches := []
  threw := false

def hasArray (payload : Json Bytes) (name : Bytes) : Bool :=
  ((payload.find? name).map Json.is_array).getD false

/-- `get<std::vector<std::string>>`, which throws on an element that is not a string. -/
def stringsOf (payload : Json Bytes) (name : Bytes) : Option (List Bytes) :=
  match payload.find? name with
  | some (.array elements) => elements.mapM Json.string?
  | _ => none

def wellShaped (payload : Json Bytes) : Bool :=
  hasArray payload STR_CONFIG_READER && hasArray payload STR_PLUGIN_SWITCH

/-- The part of `InitPluginMgr` behind the check of the shape. -/
def parsePlugins (mgr : ResSchedExeMgr) (payload : Json Bytes) : ResSchedExeMgr :=
  match stringsOf payload STR_CONFIG_READER, stringsOf payload STR_PLUGIN_SWITCH with
  | some configStrs, some switchStrs =>
      if configStrs.any (fun configStr => configStr.length > MAX_CONFIG_SIZE) then mgr
      else
        let mgr := { mgr with parsedConfigs := mgr.parsedConfigs ++ [configStrs] }
        if switchStrs.any (fun switchStr => switchStr.length > MAX_CONFIG_SIZE) then mgr
        else { mgr with parsedSwitches := mgr.parsedSwitches ++ [switchStrs] }
  | _, _ => { mgr with threw := true }

def InitPluginMgr (mgr : ResSchedExeMgr) (payload : Json Bytes) : ResSchedExeMgr :=
  let mgr := { mgr with initCalls := mgr.initCalls ++ [payload] }
  if wellShaped payload then parsePlugins { mgr with isInit := true } payload else mgr

def StringToJson (env : External) (str : Bytes) : Option (Json Bytes) :=
  if str = [] then none
  else
    match env.parse str with
    | some (.object members) =>
        some (members.foldl (fun payload entry => payload.set entry.1 entry.2) .null)
    | _ => none

/-- The payload read back from a reassembled message: null when it does not parse. -/
def initPayload (env : External) (ipcMessage : Bytes) : Json Bytes :=
  (StringToJson env ipcMessage).getD .null

/-- `get<int>` of a number. -/
def number? (env : External) : Json Bytes → Option Int
  | .int i => some i
  | .uint n => some n
  | .float bits => some (env.floatToInt bits)
  | _ => none

/-- The index, the number of messages and the content of a message of a batch. -/
def batchOf (env : External) (payload : Json Bytes) : Option (Int × Int × Bytes) := do
  let index ← (payload.find? STR_MESSAGE_INDEX).bind (number? env)
  let number ← (payload.find? STR_MESSAGE_NUMBER).bind (number? env)
  let message ← (payload.find? STR_IPC_MESSAGE).bind Json.string?
  return (index, number, message)

/-- `std::map::insert` keeps a value that is already there. -/
def insertMessage (ipcMessage : AssocMap Int Bytes) (index : Int) (message : Bytes) :
    AssocMap Int Bytes :=
  if (ipcMessage.lookup index).isSome then ipcMessage else ipcMessage.insert index message

/-- The messages of the map in the order of their indices. -/
def joinMessages (ipcMessage : AssocMap Int Bytes) : Bytes :=
  (AssocMap.ascendingKeys ipcMessage).flatMap (fun index => (ipcMessage.lookup index).getD [])

def InitPluginMgrPretreatment (env : External) (mgr : ResSchedExeMgr) (payload : Json Bytes) :
    ResSchedExeMgr :=
  if mgr.isInit then mgr
  else
    match batchOf env payload with
    | some (index, number, message) =>
        let mgr := { mgr with
          ipcMessage := insertMessage mgr.ipcMessage index message
          ipcNumber := mgr.ipcNumber + 1 }
        if number = mgr.ipcNumber then
          let mgr := InitPluginMgr mgr (initPayload env (joinMessages mgr.ipcMessage))
          if mgr.threw then mgr else { mgr with ipcNumber := 0, ipcMessage := ∅ }
        else mgr
    | none => InitPluginMgr mgr payload

end ResSched.Executor
