import ResSched.Model.Plugin.Subscription
import Mathlib.Data.Finset.Dedup
import Mathlib.Data.Finset.Union

/-! # The type list of a reporting client

One client process and the service in its successive incarnations, each with the subscriptions
of its own plugins.
-/

namespace ResSched.ReportClient

open Plugin (PluginMgr RES_TYPE_KEY_PERF_SCENE)

def RES_TYPE_SEND_FRAME_EVENT : Nat := 103
def RES_TYPE_AXIS_EVENT : Nat := 123

/-- `PluginMgr::GetResTypeList`: the types subscribed to, alone or with a value. -/
def GetResTypeList (mgr : PluginMgr) : Finset Nat :=
  mgr.resTypeLibMap.keys.toFinset ∪ (mgr.resTyperesValueLibMap.keys.map Prod.fst).toFinset

structure Server where
  up : Bool
  epoch : Nat
  mgr : PluginMgr

/-- The fields of `ResSchedClient` that `ReportData` reads. A proxy is named by the incarnation
of the service it was obtained from. -/
structure Client where
  rss_ : Option Nat
  isGetResTypeList_ : Bool
  resTypeList_ : Finset Nat

/-- The two parties, and the reports that reached the service. -/
structure System where
  client : Client
  server : Server
  received : List (Nat × Int)

def System.start : System where
  client := ⟨none, false, ∅⟩
  server := ⟨false, 0, PluginMgr.initialised false⟩
  received := []

/-- `call` is a call of a plugin of the running service; `TryConnect` stands for the other
operations of the client that connect. -/
inductive Event where
  | call (call : Plugin.Call)
  | serviceDies
  | serviceStarts (subscriptionAccuractlyEnable : Bool)
  | TryConnect
  | StopRemoteObject
  | ReportData (resType : Nat) (value : Int)

/-! ## Remote calls -/

/-- The proxy of the client leads to the running service. -/
def System.connected (system : System) : Bool :=
  system.server.up && system.client.rss_ == some system.server.epoch

/-- `GetResTypeList` through the proxy adds to the list of the client; a call to a service that
is gone leaves the list as it is. -/
def remoteGetResTypeList (system : System) : System :=
  if system.connected then
    { system with
      client := { system.client with
        resTypeList_ := system.client.resTypeList_ ∪ GetResTypeList system.server.mgr } }
  else system

def remoteReportData (system : System) (resType : Nat) (value : Int) : System :=
  if system.connected then { system with received := system.received ++ [(resType, value)] }
  else system

/-! ## The client -/

/-- `none` when the service is not found. -/
def TryConnect (system : System) : Option System :=
  if system.client.rss_.isSome then some system
  else if system.server.up then
    some { system with client := { system.client with rss_ := some system.server.epoch } }
  else none

def StopRemoteObject (system : System) : System :=
  { system with client := { system.client with rss_ := none } }

/-- The types that are reported whatever the list holds. -/
def alwaysReported (resType : Nat) : Bool :=
  resType == RES_TYPE_SEND_FRAME_EVENT || resType == RES_TYPE_AXIS_EVENT ||
    resType == RES_TYPE_KEY_PERF_SCENE

def ReportData (system : System) (resType : Nat) (value : Int) : System :=
  match TryConnect system with
  | none => system
  | some system =>
      let system :=
        if !system.client.isGetResTypeList_ then
          let system := remoteGetResTypeList system
          { system with client := { system.client with isGetResTypeList_ := true } }
        else system
      if !alwaysReported resType ∧ resType ∉ system.client.resTypeList_ then system
      else remoteReportData system resType value

def step (system : System) : Event → System
  | .call call =>
      if system.server.up then
        { system with server := { system.server with mgr := system.server.mgr.handle call } }
      else system
  | .serviceDies => { system with server := { system.server with up := false } }
  | .serviceStarts subscriptionAccuractlyEnable =>
      if system.server.up then system
      else
        { system with
          server := ⟨true, system.server.epoch + 1,
            PluginMgr.initialised subscriptionAccuractlyEnable⟩ }
  | .TryConnect => (ReportClient.TryConnect system).getD system
  | .StopRemoteObject => ReportClient.StopRemoteObject system
  | .ReportData resType value => ReportClient.ReportData system resType value

end ResSched.ReportClient
