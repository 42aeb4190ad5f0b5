import ResSched.Library.CLibrary
import ResSched.Library.Subscribers
import ResSched.Model.Json

/-! # Plugin subscriptions and the dispatch of a resource event -/

namespace ResSched.Plugin

def RES_TYPE_KEY_PERF_SCENE : Nat := 72
def DEFAULT_VALUE : Int := -1
def EXT_RES_KEY : String := "extType"

structure ResData where
  resType : Nat
  value : Int
  payload : Json String

/-- The build switch for extended resource types, and the integer parser of the utility
library. -/
structure External where
  extResEnable : Bool
  StrToInt : String → Option Int

/-- The subscription fields of `PluginMgr`. -/
structure PluginMgr where
  isInit : Bool
  subscriptionAccuractlyEnable : Bool
  resTypeLibMap : AssocMap Nat (List String)
  resTyperesValueLibMap : AssocMap (Nat × Int) (List String)

/-- The manager once initialised, before any plugin subscribes. -/
def PluginMgr.initialised (subscriptionAccuractlyEnable : Bool) : PluginMgr where
  isInit := true
  subscriptionAccuractlyEnable := subscriptionAccuractlyEnable
  resTypeLibMap := ∅
  resTyperesValueLibMap := ∅

inductive Call where
  | SubscribeResource (pluginLib : String) (resType : Nat)
  | UnSubscribeResource (pluginLib : String) (resType : Nat)
  | UnSubscribeAllResources (pluginLib : String)
  | SubscribeResourceAccurately (pluginLib : String) (resType : Nat) (resValue : Int)
  | UnSubscribeResourceAccurately (pluginLib : String) (resType : Nat) (resValue : Int)

/-! ## Subscribing and unsubscribing -/

def PluginMgr.SubscribeResource (mgr : PluginMgr) (pluginLib : String) (resType : Nat) :
    PluginMgr :=
  if pluginLib = "" then mgr
  else { mgr with resTypeLibMap := Subscribers.append resType pluginLib mgr.resTypeLibMap }

def PluginMgr.UnSubscribeResource (mgr : PluginMgr) (pluginLib : String) (resType : Nat) :
    PluginMgr :=
  if pluginLib = "" then mgr
  else { mgr with resTypeLibMap := Subscribers.remove resType pluginLib mgr.resTypeLibMap }

/-- The loop of `UnSubscribeAllResources` over one of the maps. An entry is iterated by value:
the plugin is erased from a copy of its list, once, and only a key whose copy has become empty
is deleted. -/
def unSubscribeAll {κ : Type} [DecidableEq κ] (pluginLib : String)
    (libMap : AssocMap κ (List String)) : AssocMap κ (List String) :=
  let keysToDelete :=
    (libMap.entries.filter (fun iter => (iter.2.erase pluginLib).isEmpty)).map Sigma.fst
  AssocMap.eraseKeys keysToDelete libMap

def PluginMgr.UnSubscribeAllResources (mgr : PluginMgr) (pluginLib : String) : PluginMgr :=
  if pluginLib = "" then mgr
  else
    { mgr with
      resTypeLibMap := unSubscribeAll pluginLib mgr.resTypeLibMap
      resTyperesValueLibMap := unSubscribeAll pluginLib mgr.resTyperesValueLibMap }

def PluginMgr.SubscribeResourceAccurately (mgr : PluginMgr) (pluginLib : String) (resType : Nat)
    (resValue : Int) : PluginMgr :=
  if pluginLib = "" then mgr
  else if !mgr.subscriptionAccuractlyEnable then mgr.SubscribeResource pluginLib resType
  else
    { mgr with
      resTyperesValueLibMap :=
        Subscribers.append (resType, resValue) pluginLib mgr.resTyperesValueLibMap }

def PluginMgr.UnSubscribeResourceAccurately (mgr : PluginMgr) (pluginLib : String)
    (resType : Nat) (resValue : Int) : PluginMgr :=
  if pluginLib = "" then mgr
  else if !mgr.subscriptionAccuractlyEnable then mgr.UnSubscribeResource pluginLib resType
  else
    { mgr with
      resTyperesValueLibMap :=
        Subscribers.remove (resType, resValue) pluginLib mgr.resTyperesValueLibMap }

def PluginMgr.handle (mgr : PluginMgr) : Call → PluginMgr
  | .SubscribeResource pluginLib resType => mgr.SubscribeResource pluginLib resType
  | .UnSubscribeResource pluginLib resType => mgr.UnSubscribeResource pluginLib resType
  | .UnSubscribeAllResources pluginLib => mgr.UnSubscribeAllResources pluginLib
  | .SubscribeResourceAccurately pluginLib resType resValue =>
      mgr.SubscribeResourceAccurately pluginLib resType resValue
  | .UnSubscribeResourceAccurately pluginLib resType resValue =>
      mgr.UnSubscribeResourceAccurately pluginLib resType resValue

/-! ## Dispatching -/

def GetExtTypeByResPayload (env : External) (resData : ResData) : Int :=
  if resData.resType ≠ RES_TYPE_KEY_PERF_SCENE then DEFAULT_VALUE
  else
    match (resData.payload.find? EXT_RES_KEY).bind Json.string? with
    | none => DEFAULT_VALUE
    | some extType => (env.StrToInt extType).getD DEFAULT_VALUE

/-- The type an event is dispatched under. -/
def dispatchedType (env : External) (resData : ResData) : Nat :=
  if env.extResEnable then
    let extType := GetExtTypeByResPayload env resData
    if extType ≠ DEFAULT_VALUE then CLibrary.toUnsigned 32 extType else resData.resType
  else resData.resType

def PluginMgr.GetPluginListByResType (mgr : PluginMgr) (resType : Nat) : List String :=
  Subscribers.of mgr.resTypeLibMap resType

def PluginMgr.GetPluginListByResTypeAndValue (mgr : PluginMgr) (resType : Nat) (resValue : Int) :
    List String :=
  Subscribers.of mgr.resTyperesValueLibMap (resType, resValue)

/-- The plugins an event is handed to; the order of the `unordered_set` is not specified. -/
def PluginMgr.DispatchResource (env : External) (mgr : PluginMgr) (resData : ResData) :
    List String :=
  if !mgr.isInit then []
  else
    let resType := dispatchedType env resData
    (mgr.GetPluginListByResType resType ++
      mgr.GetPluginListByResTypeAndValue resType resData.value).dedup

end ResSched.Plugin
