import ResSched.Model.NotifierMgr

/-! # The system-load level of the service and its debug override -/

namespace ResSched.SystemLoad

open NotifierMgr (SystemloadLevel SYSTEMLOAD_LEVEL)

def DUMP_PARAM_INDEX : Nat := 1
def DEBUG_LEVEL_MINIMUM : Int := 0
def DEBUG_LEVEL_MAXIMUM : Int := 7

def paramError : String :=
  "Err setSystemLoadLevel param. Please insert 0-7 to start debug, \"reset\" to close debug"

def paramNumError : String :=
  "Err setSystemLoadLevel param num. Please insert one param after \"setSystemLoadLevel\""

/-- The fields of `ResSchedService` for the system load, and the notifier manager. -/
structure Service (Remote : Type*) where
  actualSystemLoadLevel_ : Int
  debugSystemLoadLevel_ : Int
  systemLoadLevelDebugEnable_ : Bool
  notifierMgr : NotifierMgr.Mgr Remote

section

variable {Remote : Type*}

/-- The service once the notifier manager is initialised. -/
def Service.start (SYSTEMLOAD_FILE : Option String) : Service Remote where
  actualSystemLoadLevel_ := 0
  debugSystemLoadLevel_ := 0
  systemLoadLevelDebugEnable_ := false
  notifierMgr := NotifierMgr.Init (NotifierMgr.Mgr.created SYSTEMLOAD_FILE)

def GetSystemloadLevel (service : Service Remote) : Int :=
  if service.systemLoadLevelDebugEnable_ then service.debugSystemLoadLevel_
  else NotifierMgr.GetSystemloadLevel service.notifierMgr

def OnDeviceLevelChanged (service : Service Remote) (type level : Int) (debugReport : Bool) :
    Service Remote :=
  if type = SYSTEMLOAD_LEVEL then
    { service with
      actualSystemLoadLevel_ := if !debugReport then level else service.actualSystemLoadLevel_
      notifierMgr := NotifierMgr.OnDeviceLevelChanged service.notifierMgr type
        (if service.systemLoadLevelDebugEnable_ then service.debugSystemLoadLevel_ else level) }
  else
    { service with
      notifierMgr := NotifierMgr.OnDeviceLevelChanged service.notifierMgr type level }

/-- The service after a `setSystemLoadLevel` command, and what is appended to the result. -/
def DumpSetSystemLoad (StrToInt : String → Option Int) (service : Service Remote)
    (args : List String) : Service Remote × String :=
  if args.length = DUMP_PARAM_INDEX + 1 then
    let switchStr := args.getD DUMP_PARAM_INDEX ""
    if switchStr = "reset" then
      let closed :=
        { service with
          systemLoadLevelDebugEnable_ := false
          debugSystemLoadLevel_ := 0 }
      (OnDeviceLevelChanged closed SYSTEMLOAD_LEVEL closed.actualSystemLoadLevel_ false,
        "Set SystemLoad Close\n")
    else
      match StrToInt switchStr with
      | none => (service, paramError)
      | some switchInfo =>
          if switchInfo ≤ DEBUG_LEVEL_MAXIMUM ∧ DEBUG_LEVEL_MINIMUM ≤ switchInfo then
            let opened :=
              { service with
                systemLoadLevelDebugEnable_ := true
                debugSystemLoadLevel_ := switchInfo }
            (OnDeviceLevelChanged opened SYSTEMLOAD_LEVEL opened.debugSystemLoadLevel_ true,
              "setSystemLoadLevel Debug On with Level: " ++ toString switchInfo ++ "\n")
          else (service, paramError)
  else (service, paramNumError)

end

end ResSched.SystemLoad
