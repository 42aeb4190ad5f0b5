import ResSched.Model.Executor.Init

/-! # The client of the executor -/

namespace ResSched.Executor

def RES_TYPE_EXECUTOR_PLUGIN_INIT : Nat := 7
def RSSEXE_NO_ERR : Int := 0
def RSSEXE_CONNECT_FAIL : Int := 6

/-- The payload of `InitExecutorPlugin`. -/
def initContext (configStrs switchStrs : List Bytes) : Json Bytes :=
  .object [(STR_CONFIG_READER, .array (configStrs.map .string)),
    (STR_PLUGIN_SWITCH, .array (switchStrs.map .string))]

/-! ## ResJsonType -/

/-- The string written to the parcel; `none` when it fails. -/
def Marshalling (env : External) (jsonContext : Json Bytes) : Option Bytes :=
  let jsonStr := DumpJsonToString env jsonContext
  if jsonStr = [] then none else some jsonStr

def LoadContentToJsonObj (env : External) (content : Bytes) : Option (Json Bytes) :=
  if content = [] then none
  else
    match env.parse content with
    | some jsonObj => if jsonObj.is_object then some jsonObj else none
    | none => none

def ReadFromParcel (env : External) (jsonStr : Bytes) : Option (Json Bytes) :=
  LoadContentToJsonObj env jsonStr

/-! ## Requests

Each function returns the messages handed to the proxy and the result of the call. The answer of a
call is what the proxy returned, or `none` when there is no proxy. -/

def SendRequestInner (isSync : Bool) (context : Json Bytes) (answer : Option Int) :
    List (Json Bytes) × Int :=
  match answer with
  | none => ([], RSSEXE_CONNECT_FAIL)
  | some funcResult => ([context], if isSync then funcResult else RSSEXE_NO_ERR)

/-- The first failing call ends the batch. -/
def SendRequestBatches (isSync : Bool) (answers : Nat → Option Int) (number : Nat) :
    List (Json Bytes) → List (Json Bytes) × Int
  | [] => ([], RSSEXE_NO_ERR)
  | jsonMsg :: splitContext =>
      let (handed, ret) := SendRequestInner isSync jsonMsg (answers number)
      if ret ≠ RSSEXE_NO_ERR then (handed, ret)
      else
        let (more, ret) := SendRequestBatches isSync answers (number + 1) splitContext
        (handed ++ more, ret)

/-- `SendRequestSync` and `SendRequestAsync`. -/
def SendRequest (env : External) (isSync : Bool) (resType : Nat) (context : Json Bytes)
    (answers : Nat → Option Int) : List (Json Bytes) × Int :=
  if resType = RES_TYPE_EXECUTOR_PLUGIN_INIT then
    match ProcessJson env context with
    | some splitContext => SendRequestBatches isSync answers 0 splitContext
    | none => SendRequestInner isSync context (answers 0)
  else SendRequestInner isSync context (answers 0)

def SendRequestSync (env : External) (resType : Nat) (context : Json Bytes)
    (answers : Nat → Option Int) : List (Json Bytes) × Int :=
  SendRequest env true resType context answers

/-- The result is not returned. -/
def SendRequestAsync (env : External) (resType : Nat) (context : Json Bytes)
    (answers : Nat → Option Int) : List (Json Bytes) :=
  (SendRequest env false resType context answers).1

end ResSched.Executor
