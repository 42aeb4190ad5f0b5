import ResSched.Model.Plugin.Subscription

/-! # Synchronous subscriptions and the delivery of a resource event -/

namespace ResSched.Plugin.Sync

def PLUGIN_REQUEST_ERROR : Int := -1

/-- What a loaded plugin offers; `OnDeliverResource` is not necessary. -/
structure PluginLib where
  onDeliverResourceFunc : Option (ResData → Int)

/-- The synchronous subscription of `PluginMgr`: one plugin a type. -/
structure PluginMgr where
  resTypeLibSyncMap : AssocMap Nat String

def PluginMgr.created : PluginMgr :=
  ⟨∅⟩

inductive Call where
  | SubscribeSyncResource (pluginLib : String) (resType : Nat)
  | UnSubscribeSyncResource (pluginLib : String) (resType : Nat)

def PluginMgr.SubscribeSyncResource (mgr : PluginMgr) (pluginLib : String) (resType : Nat) :
    PluginMgr :=
  if pluginLib = "" then mgr
  else { mgr with resTypeLibSyncMap := mgr.resTypeLibSyncMap.insert resType pluginLib }

def PluginMgr.UnSubscribeSyncResource (mgr : PluginMgr) (pluginLib : String) (resType : Nat) :
    PluginMgr :=
  if pluginLib = "" then mgr
  else
    match mgr.resTypeLibSyncMap.lookup resType with
    | none => mgr
    | some _ => { mgr with resTypeLibSyncMap := mgr.resTypeLibSyncMap.erase resType }

def PluginMgr.handle (mgr : PluginMgr) : Call → PluginMgr
  | .SubscribeSyncResource pluginLib resType => mgr.SubscribeSyncResource pluginLib resType
  | .UnSubscribeSyncResource pluginLib resType => mgr.UnSubscribeSyncResource pluginLib resType

/-- The plugin a resource is handed to, if there is one, and what the delivery returns. -/
structure Delivery where
  receiver : Option String
  ret : Int

def Delivery.failed : Delivery :=
  ⟨none, PLUGIN_REQUEST_ERROR⟩

def PluginMgr.DeliverResource (mgr : PluginMgr) (isInit : Bool)
    (pluginLibMap : AssocMap String PluginLib) (resData : ResData) : Delivery :=
  if !isInit then .failed
  else
    match mgr.resTypeLibSyncMap.lookup resData.resType with
    | none => .failed
    | some pluginLib =>
        match pluginLibMap.lookup pluginLib with
        | none => .failed
        | some libInfo =>
            match libInfo.onDeliverResourceFunc with
            | none => .failed
            | some pluginDeliverFunc => ⟨some pluginLib, pluginDeliverFunc resData⟩

end ResSched.Plugin.Sync
