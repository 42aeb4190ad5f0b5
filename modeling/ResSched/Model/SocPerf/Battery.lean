import ResSched.Library.CLibrary
import ResSched.Library.WriteLog
import ResSched.Model.Json
import ResSched.Model.PluginConfig

/-! # Battery frequency limit of the SocPerf plugin -/

namespace ResSched.SocPerf.Battery

open CLibrary

def ITEM_KEY_CAPACITY : String := "capacity"
def RES_ID : String := "resId"
def COMMON_EVENT_CHARGE_STATE : String := "chargeState"
def INT32_MAX : Int := 2147483647

/-- `BatteryChargeState`, in the order of the source. -/
def CHARGE_STATE_ENABLE : Int := 1
def CHARGE_STATE_FULL : Int := 3

structure Frequencies where
  tags : List Int
  configs : List Int

/-- The battery fields of `SocPerfPlugin`. -/
structure Plugin where
  socperfBatteryConfig : AssocMap Int Frequencies
  maxBatteryLimitCapacity : Int
  lastBatteryLimitCap : Int

/-- The calls the battery handlers make on `SocPerfClient`. -/
inductive Call where
  | PowerLimitBoost (onOffTag : Bool)
  | LimitRequest (tags configs : List Int)
deriving DecidableEq

/-! ## Loading the configuration -/

/-- The plugin before `InitBatteryCapacityLimitFreq`. -/
def Plugin.created : Plugin where
  socperfBatteryConfig := ∅
  maxBatteryLimitCapacity := -1
  lastBatteryLimitCap := -1

def frequenciesOf (plugin : Plugin) (capacity : Int) : Frequencies :=
  (plugin.socperfBatteryConfig.lookup capacity).getD ⟨[], []⟩

def HandleBatterySubValue (plugin : Plugin) (capacity tag config : Int) : Plugin :=
  let frequencies := frequenciesOf plugin capacity
  { plugin with
    maxBatteryLimitCapacity :=
      if capacity > plugin.maxBatteryLimitCapacity then capacity
      else plugin.maxBatteryLimitCapacity
    socperfBatteryConfig := plugin.socperfBatteryConfig.insert capacity
      ⟨frequencies.tags ++ [tag], frequencies.configs ++ [config]⟩ }

def initItem (plugin : Plugin) (item : Item) : Plugin :=
  item.subItemList.foldl (fun plugin sub =>
    HandleBatterySubValue plugin (atoi (propertyOf item.itemProperties ITEM_KEY_CAPACITY))
      (atoi (propertyOf sub.properties RES_ID)) (atoi sub.value)) plugin

def InitBatteryCapacityLimitFreq (itemLists : PluginConfig) : Plugin :=
  itemLists.itemList.foldl initItem Plugin.created

/-! ## Battery events -/

/-- A battery event: a level in per cent and the payload that carries the charge state. -/
structure ResData where
  value : Int
  payload : Json String
  value_nonneg : 0 ≤ value
  value_le : value ≤ 100

/-- The charge state the payload carries, when `HandleBatteryStatusChange` accepts it. -/
def chargeStateOf (payload : Json String) : Option Int :=
  match payload.find? COMMON_EVENT_CHARGE_STATE with
  | none => none
  | some state => state.integer?.map (CLibrary.toSigned 32)

/-- The loop of `GetLimitCapacity`: an accepted capacity replaces the one kept so far. -/
def GetLimitCapacity (plugin : Plugin) (capacity : Int) : Int :=
  plugin.socperfBatteryConfig.keys.foldl (fun tempCap key =>
    if key ≥ capacity ∧ key ≤ tempCap then key else tempCap) plugin.maxBatteryLimitCapacity

def GetConfigs (size : Nat) : List Int :=
  List.replicate size INT32_MAX

def HandleRecoverBatteryLimit (plugin : Plugin) : Plugin × List Call :=
  if plugin.lastBatteryLimitCap = -1 then (plugin, [])
  else
    let frequencies := frequenciesOf plugin plugin.lastBatteryLimitCap
    ({ plugin with lastBatteryLimitCap := -1 },
      [.PowerLimitBoost false,
        .LimitRequest frequencies.tags (GetConfigs frequencies.configs.length)])

def HandleBatteryLimit (plugin : Plugin) (capacity : Int) : Plugin × List Call :=
  let limitCapacity := GetLimitCapacity plugin capacity
  if plugin.lastBatteryLimitCap = limitCapacity then (plugin, [])
  else
    let frequencies := frequenciesOf plugin limitCapacity
    ({ plugin with lastBatteryLimitCap := limitCapacity },
      [.PowerLimitBoost true, .LimitRequest frequencies.tags frequencies.configs])

def HandleFreqLimit (plugin : Plugin) (value : Int) (isChargeState : Bool) :
    Plugin × List Call :=
  if value > plugin.maxBatteryLimitCapacity ∨ isChargeState then
    HandleRecoverBatteryLimit plugin
  else HandleBatteryLimit plugin value

def isCharging (chargeState : Int) : Bool :=
  chargeState = CHARGE_STATE_ENABLE || chargeState = CHARGE_STATE_FULL

def HandleBatteryStatusChange (plugin : Plugin) (data : ResData) : Plugin × List Call :=
  if plugin.socperfBatteryConfig.keys = [] then (plugin, [])
  else
    match chargeStateOf data.payload with
    | none => (plugin, [])
    | some chargeState => HandleFreqLimit plugin data.value (isCharging chargeState)

/-! ## The limits held by the service -/

/-- The battery limit in force for each resource tag. -/
abbrev Limits := Int → Option Int

/-- What a request for one tag puts in force: the greatest 32-bit value lifts the limit. -/
def limitWrite (request : Int × Int) : Int × Option Int :=
  (request.1, if request.2 = INT32_MAX then none else some request.2)

def limitRequest (limits : Limits) (tags configs : List Int) : Limits :=
  WriteLog.apply ((tags.zip configs).map limitWrite) limits

def serve (limits : Limits) : Call → Limits
  | .PowerLimitBoost _ => limits
  | .LimitRequest tags configs => limitRequest limits tags configs

/-- The plugin with the limits its requests have put in force. -/
structure System where
  plugin : Plugin
  limits : Limits

def System.start (itemLists : PluginConfig) : System where
  plugin := InitBatteryCapacityLimitFreq itemLists
  limits := fun _ => none

def System.handle (system : System) (data : ResData) : System :=
  let (plugin, calls) := HandleBatteryStatusChange system.plugin data
  ⟨plugin, calls.foldl serve system.limits⟩

end ResSched.SocPerf.Battery
