import ResSched.Model.Cgroup.EventHandler

/-! # Reloading the records when the application manager starts -/

namespace ResSched.Cgroup

open CLibrary

def APP_MGR_SERVICE_ID : Int := 501

/-- A process `GetAllRunningProcesses` reports. -/
structure RunningProcessInfo where
  uid : Int
  pid : Int

/-- A process `GetAllChildrenProcesses` reports. -/
structure ChildProcessInfo where
  hostUid : Int
  hostPid : Int
  pid : Int

def Supervisor.ReloadApplication (supervisor : Supervisor)
    (runningProcess : List RunningProcessInfo) : Supervisor :=
  runningProcess.foldl (fun supervisor process =>
    supervisor.withAppNonNull process.uid (fun app => app.withRecordNonNull process.pid id))
    supervisor

def reloadChild (process : ChildProcessInfo) (app : Application) : Application :=
  let app := { app with hostPidsSet := insert process.hostPid app.hostPidsSet }
  app.withRecordNonNull process.pid (fun record =>
    { record with processType := CHILD, hostPid := process.hostPid })

def Supervisor.ReloadChildProcess (supervisor : Supervisor)
    (childProcess : List ChildProcessInfo) : Supervisor :=
  childProcess.foldl (fun supervisor process =>
    supervisor.withAppNonNull process.hostUid (reloadChild process)) supervisor

def Supervisor.InitSuperVisorContent (supervisor : Supervisor)
    (runningProcess : List RunningProcessInfo) (childProcess : List ChildProcessInfo) :
    Supervisor :=
  (supervisor.ReloadApplication runningProcess).ReloadChildProcess childProcess

/-- What a service that has been added or removed does to the records. -/
def ReportAbilityStatus (supervisor : Supervisor) (value : Int) (payload : Payload)
    (runningProcess : List RunningProcessInfo) (childProcess : List ChildProcessInfo) :
    Supervisor :=
  let saId := (((payload.find? "saId").bind Json.integer?).map (toSigned 32)).getD (-1)
  if value > 0 ∧ saId = APP_MGR_SERVICE_ID then
    supervisor.InitSuperVisorContent runningProcess childProcess
  else supervisor

/-- The events of the handler: the cgroup events, and the reports about services with the
processes the application manager lists at that time. -/
inductive Notice where
  | cgroupEvent (event : Event)
  | ReportAbilityStatus (value : Int) (payload : Payload)
      (runningProcess : List RunningProcessInfo) (childProcess : List ChildProcessInfo)

def Supervisor.notice (env : External) (supervisor : Supervisor) : Notice → Supervisor
  | .cgroupEvent event => supervisor.handle env event
  | .ReportAbilityStatus value payload runningProcess childProcess =>
      Cgroup.ReportAbilityStatus supervisor value payload runningProcess childProcess

end ResSched.Cgroup
