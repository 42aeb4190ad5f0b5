import ResSched.Library.AssocMap
import ResSched.Library.CLibrary
import ResSched.Model.Json

/-! # Background-sensitive tasks that overlap the foreground -/

namespace ResSched.SceneRecognize.Overlap

def RES_TYPE_APP_STATE_CHANGE : Nat := 1
def RES_TYPE_CONTINUOUS_TASK : Nat := 7
def RES_TYPE_REPORT_SCENE_BOARD : Nat := 38
def PROCESS_FOREGROUND : Int := 2
def CONTINUOUS_TASK_START : Int := 0
def CONTINUOUS_TASK_END : Int := 1
def CONTINUOUS_TASK_UPDATE : Int := 2
def PID_KEY : String := "pid"
def TYPE_IDS_KEY : String := "typeIds"
def PID_MIN : Int := -1
def PID_MAX : Int := 2147483647

/-- What the recognizer takes from other libraries: the parser of decimal integers, the
conversion of floating-point numbers, and the background modes. -/
structure External where
  StrToInt : String → Option Int
  floatToUInt32 : UInt64 → Nat
  LOCATION : Nat
  VOIP : Nat
  AUDIO_PLAYBACK : Nat
  MULTI_DEVICE_CONNECTION : Nat
  DATA_TRANSFER : Nat
  END : Nat

inductive BackgroundPerceivableStatus where
  | PERCEIVABLE_START
  | PERCEIVABLE_STOP
deriving DecidableEq

/-- The recognizer with the reports it has made. -/
structure State where
  foregroundPid : Int
  sceneboardPid : Int
  perceivableTasks : AssocMap Int (List Nat)
  isInBackgroundPerceivableScene : Bool
  reports : List BackgroundPerceivableStatus

def State.created : State where
  foregroundPid := -1
  sceneboardPid := -1
  perceivableTasks := ∅
  isInBackgroundPerceivableScene := false
  reports := []

structure Event where
  resType : Nat
  value : Int
  payload : Json String

/-! ## The payload -/

def pidOf (payload : Json String) : Option String :=
  (payload.find? PID_KEY).bind Json.string?

/-- A JSON value read as `uint32_t`; a value that is no number raises. -/
def uint32? (env : External) : Json String → Option Nat
  | .int i => some (CLibrary.toUnsigned 32 i)
  | .uint n => some (CLibrary.toUnsigned 32 n)
  | .float bits => some (env.floatToUInt32 bits)
  | .bool b => some b.toNat
  | _ => none

/-- The type ids of the payload; `none` when reading them raises. -/
def typeIdsOf (env : External) (payload : Json String) : Option (List Nat) :=
  match payload.find? TYPE_IDS_KEY with
  | some (.array elements) => elements.mapM (uint32? env)
  | _ => some []

def PERCEIVABLE_MODES (env : External) : List Nat :=
  [env.LOCATION, env.VOIP, env.AUDIO_PLAYBACK, env.MULTI_DEVICE_CONNECTION]

def IsValidPid (pid : Int) : Bool :=
  PID_MIN ≤ pid && pid ≤ PID_MAX

def IsValidFilteredTypeIds (env : External) (filteredTypeIds : List Nat) : Bool :=
  filteredTypeIds.all (fun id => env.DATA_TRANSFER ≤ id && id ≤ env.END) &&
    filteredTypeIds.length ≤ env.END

/-! ## The handlers -/

def CheckEnterScene (state : State) : Bool :=
  if state.isInBackgroundPerceivableScene ∨ state.foregroundPid = state.sceneboardPid then false
  else if state.perceivableTasks.keys.length > 1 then true
  else if state.perceivableTasks.keys.length > 0 ∧
      (state.perceivableTasks.lookup state.foregroundPid).isNone then true
  else false

def EnterScene (state : State) : State :=
  { state with
    reports := state.reports ++ [.PERCEIVABLE_START]
    isInBackgroundPerceivableScene := true }

def ExitScene (state : State) : State :=
  { state with
    reports := state.reports ++ [.PERCEIVABLE_STOP]
    isInBackgroundPerceivableScene := false }

def HandleTaskStart (env : External) (state : State) (pid : Int) (filteredTypeIds : List Nat) :
    State :=
  if !IsValidPid pid || !IsValidFilteredTypeIds env filteredTypeIds then state
  else
    let state := { state with
      perceivableTasks := state.perceivableTasks.insert pid filteredTypeIds }
    if CheckEnterScene state then EnterScene state else state

def HandleTaskUpdate (state : State) (pid : Int) (filteredTypeIds : List Nat) : State :=
  if filteredTypeIds = [] then
    let state := { state with perceivableTasks := state.perceivableTasks.erase pid }
    if !CheckEnterScene state && state.isInBackgroundPerceivableScene then ExitScene state
    else state
  else
    let state := { state with
      perceivableTasks := state.perceivableTasks.insert pid filteredTypeIds }
    if CheckEnterScene state then EnterScene state else state

def HandleTaskStop (state : State) (pid : Int) : State :=
  if (state.perceivableTasks.lookup pid).isSome then
    let state := { state with perceivableTasks := state.perceivableTasks.erase pid }
    if !CheckEnterScene state && state.isInBackgroundPerceivableScene then ExitScene state
    else state
  else state

def HandleContinuousTask (env : External) (state : State) (value : Int) (pidText : String)
    (payload : Json String) : State :=
  match typeIdsOf env payload with
  | none => state
  | some typeIds =>
      let pid := (env.StrToInt pidText).getD (-1)
      let typeIds := typeIds.filter (fun id => id ∈ PERCEIVABLE_MODES env)
      if value = CONTINUOUS_TASK_START ∧ typeIds ≠ [] then HandleTaskStart env state pid typeIds
      else if value = CONTINUOUS_TASK_UPDATE then HandleTaskUpdate state pid typeIds
      else if value = CONTINUOUS_TASK_END then HandleTaskStop state pid
      else state

def HandleForeground (env : External) (state : State) (value : Int) (pidText : String) : State :=
  if value ≠ PROCESS_FOREGROUND then state
  else
    let state := { state with
      foregroundPid := (env.StrToInt pidText).getD state.foregroundPid }
    if state.foregroundPid = state.sceneboardPid ∧ state.isInBackgroundPerceivableScene then
      ExitScene state
    else if CheckEnterScene state then EnterScene state
    else state

def OnDispatchResource (env : External) (state : State) (event : Event) : State :=
  match pidOf event.payload with
  | none => state
  | some pidText =>
      if event.resType = RES_TYPE_APP_STATE_CHANGE then
        HandleForeground env state event.value pidText
      else if event.resType = RES_TYPE_CONTINUOUS_TASK then
        HandleContinuousTask env state event.value pidText event.payload
      else if event.resType = RES_TYPE_REPORT_SCENE_BOARD then
        { state with sceneboardPid := (env.StrToInt pidText).getD state.sceneboardPid }
      else state

end ResSched.SceneRecognize.Overlap
