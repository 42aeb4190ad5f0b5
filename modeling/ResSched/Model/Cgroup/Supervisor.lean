import ResSched.Library.AssocMap
import ResSched.Library.Upsert
import Mathlib.Data.Finset.Erase
import Mathlib.Data.Finset.Insert

/-! # Records of applications and processes -/

namespace ResSched.Cgroup

inductive SchedPolicy where
  | SP_DEFAULT
  | SP_BACKGROUND
  | SP_FOREGROUND
  | SP_SYSTEM_BACKGROUND
  | SP_TOP_APP
  | SP_UPPER_LIMIT
deriving DecidableEq

/-! ## Process record types -/

def NORMAL : Int := 0
def RENDER : Int := 2
def GPU : Int := 3
def CHILD : Int := 4
def PROC_RECORD_TYPE_MAX : Int := 5

/-! ## Records -/

structure AbilityInfo where
  recordId : Int
  name : String
  state : Int
  estate : Int
  type : Int

def AbilityInfo.new (recordId : Int) : AbilityInfo :=
  ⟨recordId, "", -1, -1, -1⟩

structure WindowInfo where
  windowId : Nat
  isVisible : Bool
  isFocused : Bool
  drawingContentState : Bool
  windowType : Int
  displayId : Nat

def WindowInfo.new (windowId : Nat) : WindowInfo :=
  ⟨windowId, false, false, false, 0, 0⟩

/-- A process record, with the address that tells it from other objects. The pid is the key of
`pidsMap_`; a linked window is named by its id. -/
structure ProcessRecord where
  address : Nat
  lastSchedGroup : SchedPolicy
  curSchedGroup : SchedPolicy
  setSchedGroup : SchedPolicy
  runningTransientTask : Bool
  isActive : Bool
  processDrawingState : Bool
  screenCaptureState : Bool
  videoState : Bool
  processType : Int
  continuousTaskFlag : BitVec 32
  audioPlayingState : Int
  audioCapTureState : Int
  processState : Int
  linkedWindow : Option Nat
  serialNum : Int
  extensionType : Int
  hostPid : Int
  preloadMode : Int
  abilityIdAndContinuousTaskFlagMap : AssocMap Int (List Nat)
  abilities : List AbilityInfo
  windows : List WindowInfo
  keyThreadRoleMap : AssocMap Int Int

def ProcessRecord.new (address : Nat) : ProcessRecord where
  address := address
  lastSchedGroup := .SP_UPPER_LIMIT
  curSchedGroup := .SP_UPPER_LIMIT
  setSchedGroup := .SP_UPPER_LIMIT
  runningTransientTask := false
  isActive := false
  processDrawingState := false
  screenCaptureState := false
  videoState := false
  processType := NORMAL
  continuousTaskFlag := 0
  audioPlayingState := -1
  audioCapTureState := -1
  processState := 0
  linkedWindow := none
  serialNum := -1
  extensionType := -1
  hostPid := -1
  preloadMode := -1
  abilityIdAndContinuousTaskFlagMap := ∅
  abilities := []
  windows := []
  keyThreadRoleMap := ∅

/-- A pointer to a process record. -/
structure RecordPointer where
  pid : Int
  address : Nat
deriving DecidableEq

structure Application where
  focusedProcess : Option RecordPointer
  isCosmicCubeStateHide : Bool
  pidsMap : AssocMap Int ProcessRecord
  hostPidsSet : Finset Int
  created : Nat

def Application.new : Application where
  focusedProcess := none
  isCosmicCubeStateHide := false
  pidsMap := ∅
  hostPidsSet := ∅
  created := 0

structure Supervisor where
  uidsMap : AssocMap Int Application

def Supervisor.start : Supervisor :=
  ⟨∅⟩

/-! ## Access to abilities and windows -/

/-- Change the ability that `GetAbilityInfoNonNull` finds or makes. -/
def ProcessRecord.withAbilityInfo (record : ProcessRecord) (recordId : Int)
    (f : AbilityInfo → AbilityInfo) : ProcessRecord :=
  { record with
    abilities :=
      upsert AbilityInfo.recordId recordId (AbilityInfo.new recordId) f record.abilities }

def ProcessRecord.GetAbilityInfo (record : ProcessRecord) (recordId : Int) : Option AbilityInfo :=
  record.abilities.find? (fun ability => ability.recordId = recordId)

def ProcessRecord.RemoveAbilityByRecordId (record : ProcessRecord) (recordId : Int) :
    ProcessRecord :=
  { record with abilities := record.abilities.eraseP (fun ability => ability.recordId = recordId) }

def ProcessRecord.HasAbility (record : ProcessRecord) (recordId : Int) : Bool :=
  record.abilities.any (fun ability => ability.recordId = recordId)

/-- Change the window that `GetWindowInfoNonNull` finds or makes. -/
def ProcessRecord.withWindowInfo (record : ProcessRecord) (windowId : Nat)
    (f : WindowInfo → WindowInfo) : ProcessRecord :=
  { record with
    windows := upsert WindowInfo.windowId windowId (WindowInfo.new windowId) f record.windows }

def ProcessRecord.GetWindowInfo (record : ProcessRecord) (windowId : Nat) : Option WindowInfo :=
  record.windows.find? (fun window => window.windowId = windowId)

/-! ## Access to processes and applications -/

def Application.pointer (app : Application) (pid : Int) : Option RecordPointer :=
  (app.pidsMap.lookup pid).map (fun record => ⟨pid, record.address⟩)

/-- Change the record that `GetProcessRecord` finds; nothing when it is null. -/
def Application.withRecord (app : Application) (pid : Int) (f : ProcessRecord → ProcessRecord) :
    Application :=
  { app with pidsMap := AssocMap.modify pid f app.pidsMap }

/-- Change the record that `GetProcessRecordNonNull` finds or makes. -/
def Application.withRecordNonNull (app : Application) (pid : Int)
    (f : ProcessRecord → ProcessRecord) : Application :=
  match app.pidsMap.lookup pid with
  | some record => { app with pidsMap := app.pidsMap.insert pid (f record) }
  | none =>
      { app with
        pidsMap := app.pidsMap.insert pid (f (ProcessRecord.new app.created))
        created := app.created + 1 }

def Application.RemoveProcessRecord (app : Application) (pid : Int) : Application :=
  if (app.pidsMap.lookup pid).isSome then
    { app with
      focusedProcess :=
        if app.focusedProcess = app.pointer pid then none else app.focusedProcess
      hostPidsSet := app.hostPidsSet.erase pid
      pidsMap := app.pidsMap.erase pid }
  else app

/-- Change the application that `GetAppRecord` finds; nothing when it is null. -/
def Supervisor.withApp (supervisor : Supervisor) (uid : Int) (f : Application → Application) :
    Supervisor :=
  { supervisor with uidsMap := AssocMap.modify uid f supervisor.uidsMap }

/-- Change the application that `GetAppRecordNonNull` finds or makes. -/
def Supervisor.withAppNonNull (supervisor : Supervisor) (uid : Int)
    (f : Application → Application) : Supervisor :=
  { supervisor with
    uidsMap := supervisor.uidsMap.insert uid
      (f ((supervisor.uidsMap.lookup uid).getD Application.new)) }

def Supervisor.RemoveApplication (supervisor : Supervisor) (uid : Int) : Supervisor :=
  { supervisor with uidsMap := supervisor.uidsMap.erase uid }

/-- The process record of an application that exists. -/
def Supervisor.record? (supervisor : Supervisor) (uid pid : Int) : Option ProcessRecord :=
  (supervisor.uidsMap.lookup uid).bind (fun app => app.pidsMap.lookup pid)

/-- Whether `SearchWindowId` finds the window in some process of some application. -/
def Supervisor.SearchWindowId (supervisor : Supervisor) (windowId : Nat) : Bool :=
  supervisor.uidsMap.entries.any (fun app =>
    app.2.pidsMap.entries.any (fun proc => (proc.2.GetWindowInfo windowId).isSome))

end ResSched.Cgroup
