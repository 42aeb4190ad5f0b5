import ResSched.Library.AssocMap
import ResSched.Model.ApplicationState

/-! # The system-load notifiers of the service -/

namespace ResSched.NotifierMgr

inductive SystemloadLevel where
  | LOW
  | NORMAL
  | MEDIUM
  | HIGH
  | OVERHEATED
  | WARNING
  | EMERGENCY
  | ESCAPE
deriving DecidableEq

namespace SystemloadLevel

def toInt : SystemloadLevel → Int
  | LOW => 0
  | NORMAL => 1
  | MEDIUM => 2
  | HIGH => 3
  | OVERHEATED => 4
  | WARNING => 5
  | EMERGENCY => 6
  | ESCAPE => 7

/-- The level an integer between `LOW` and `ESCAPE` is cast to. -/
def ofInt? : Int → Option SystemloadLevel
  | 0 => some LOW
  | 1 => some NORMAL
  | 2 => some MEDIUM
  | 3 => some HIGH
  | 4 => some OVERHEATED
  | 5 => some WARNING
  | 6 => some EMERGENCY
  | 7 => some ESCAPE
  | _ => none

/-- `g_systemloadPair`: the name a level is saved under. -/
def name : SystemloadLevel → String
  | LOW => "LOW"
  | NORMAL => "NORMAL"
  | MEDIUM => "MEDIUM"
  | HIGH => "HIGH"
  | OVERHEATED => "OVERHEATED"
  | WARNING => "WARNING"
  | EMERGENCY => "EMERGENCY"
  | ESCAPE => "ESCAPE"

def all : List SystemloadLevel :=
  [LOW, NORMAL, MEDIUM, HIGH, OVERHEATED, WARNING, EMERGENCY, ESCAPE]

def ofName? (systemload : String) : Option SystemloadLevel :=
  all.find? fun level => level.name = systemload

end SystemloadLevel

/-- `ResType::DeviceStatus::SYSTEMLOAD_LEVEL`, the only key of `g_DeviceStatusType`. -/
def SYSTEMLOAD_LEVEL : Int := 0

structure NotifierInfo (Remote : Type*) where
  notifier : Remote
  foreground : Bool
  hapApp : Bool
  level : SystemloadLevel

/-- A new record, with the initialisers of the structure. -/
def NotifierInfo.new {Remote : Type*} (notifier : Remote) (hapApp : Bool) :
    NotifierInfo Remote where
  notifier := notifier
  foreground := true
  hapApp := hapApp
  level := .LOW

/-- The fields of `NotifierMgr` with what it leaves outside: the content of `SYSTEMLOAD_FILE`,
and the levels handed to the notifiers in the order they were submitted. -/
structure Mgr (Remote : Type*) where
  initialized_ : Bool
  notifierMap_ : AssocMap Int (NotifierInfo Remote)
  systemloadLevel_ : SystemloadLevel
  notifierDeathRecipient_ : Bool
  notifierHandler_ : Bool
  SYSTEMLOAD_FILE : Option String
  delivered : List (Remote × SystemloadLevel)

section

variable {Remote : Type*}

/-- The singleton as it is constructed, with the file an earlier run left. -/
def Mgr.created (SYSTEMLOAD_FILE : Option String) : Mgr Remote where
  initialized_ := false
  notifierMap_ := ∅
  systemloadLevel_ := .LOW
  notifierDeathRecipient_ := false
  notifierHandler_ := false
  SYSTEMLOAD_FILE := SYSTEMLOAD_FILE
  delivered := []

def Init (mgr : Mgr Remote) : Mgr Remote :=
  if mgr.initialized_ then mgr
  else
    { mgr with
      notifierDeathRecipient_ := true
      notifierHandler_ := true
      systemloadLevel_ :=
        (mgr.SYSTEMLOAD_FILE.bind SystemloadLevel.ofName?).getD mgr.systemloadLevel_
      initialized_ := true }

def HandleDeviceLevelChange (mgr : Mgr Remote) (notifierVec : List Remote)
    (level : SystemloadLevel) : Mgr Remote :=
  { mgr with delivered := mgr.delivered ++ notifierVec.map fun notifier => (notifier, level) }

/-! ## Registering -/

/-- `hapApp` is what `IsHapApp` finds out about the caller. -/
def RegisterNotifier (mgr : Mgr Remote) (pid : Int) (notifier : Option Remote) (hapApp : Bool) :
    Mgr Remote :=
  match notifier with
  | none => mgr
  | some notifier =>
      if !mgr.notifierDeathRecipient_ then mgr
      else if (mgr.notifierMap_.lookup pid).isSome then mgr
      else
        { mgr with
          notifierMap_ := mgr.notifierMap_.insert pid (NotifierInfo.new notifier hapApp) }

def UnRegisterNotifier (mgr : Mgr Remote) (pid : Int) : Mgr Remote :=
  { mgr with notifierMap_ := mgr.notifierMap_.erase pid }

/-- The first record of the notifier is removed. -/
def RemoveNotifierLock [DecidableEq Remote] (mgr : Mgr Remote) (notifier : Remote) :
    Mgr Remote :=
  match (AssocMap.ascendingKeys mgr.notifierMap_).find? (fun pid =>
      (mgr.notifierMap_.lookup pid).any fun info => info.notifier = notifier) with
  | none => mgr
  | some pid => { mgr with notifierMap_ := mgr.notifierMap_.erase pid }

def OnRemoteNotifierDied [DecidableEq Remote] (mgr : Mgr Remote) (notifier : Option Remote) :
    Mgr Remote :=
  match notifier with
  | none => mgr
  | some notifier => RemoveNotifierLock mgr notifier

/-! ## Changes of the level -/

/-- A change reaches the notifiers of services, and of applications in the foreground. -/
def NotifierInfo.reached (info : NotifierInfo Remote) : Bool :=
  !(info.hapApp && !info.foreground)

def OnDeviceLevelChangedLock (mgr : Mgr Remote) (level : SystemloadLevel) : Mgr Remote :=
  let notifierArray := (AssocMap.ascendingKeys mgr.notifierMap_).filterMap fun pid =>
    ((mgr.notifierMap_.lookup pid).filter NotifierInfo.reached).map NotifierInfo.notifier
  HandleDeviceLevelChange
    { mgr with
      notifierMap_ := AssocMap.mapValues
        (fun _ info => if info.reached then { info with level := level } else info)
        mgr.notifierMap_ }
    notifierArray level

/-- The level a report brings, when its type and its level pass the checks. -/
def reportedLevel (type level : Int) : Option SystemloadLevel :=
  if type ≠ SYSTEMLOAD_LEVEL then none else SystemloadLevel.ofInt? level

/-- The write of `systemloadLevel_` and the saving of its name. -/
def storeLevel (mgr : Mgr Remote) (level : SystemloadLevel) : Mgr Remote :=
  { mgr with
    systemloadLevel_ := level
    SYSTEMLOAD_FILE := some level.name }

def OnDeviceLevelChanged (mgr : Mgr Remote) (type level : Int) : Mgr Remote :=
  match reportedLevel type level with
  | none => mgr
  | some level =>
      let stored := storeLevel mgr level
      if !stored.notifierHandler_ then stored else OnDeviceLevelChangedLock stored level

def GetSystemloadLevel (mgr : Mgr Remote) : Int :=
  mgr.systemloadLevel_.toInt

/-! ## Changes of an application -/

def OnApplicationStateChange (mgr : Mgr Remote) (state : ApplicationState) (pid : Int) :
    Mgr Remote :=
  match mgr.notifierMap_.lookup pid with
  | none => mgr
  | some info =>
      if !info.hapApp then mgr
      else if state = .APP_STATE_FOREGROUND then
        if mgr.systemloadLevel_ ≠ info.level then
          HandleDeviceLevelChange
            { mgr with
              notifierMap_ := mgr.notifierMap_.insert pid
                { info with foreground := true, level := mgr.systemloadLevel_ } }
            [info.notifier] mgr.systemloadLevel_
        else
          { mgr with
            notifierMap_ := mgr.notifierMap_.insert pid { info with foreground := true } }
      else if state.leavesForeground then
        { mgr with
          notifierMap_ := mgr.notifierMap_.insert pid { info with foreground := false } }
      else mgr

end

end ResSched.NotifierMgr
