import ResSched.Model.Cgroup.Supervisor

/-! # Adjusting the scheduling groups of processes -/

namespace ResSched.Cgroup

inductive AdjustSource where
  | ADJS_ABILITY_STATE
  | ADJS_EXTENSION_STATE
  | ADJS_PROCESS_CREATE
  | ADJS_CONTINUOUS_BEGIN
  | ADJS_CONTINUOUS_END
  | ADJS_FOCUSED_WINDOW
  | ADJS_UNFOCUSED_WINDOW
  | ADJS_WINDOW_VISIBILITY_CHANGED
  | ADJS_REPORT_IMPORTANT_DISPLAY_THREAD
  | ADJS_REPORT_WINDOW_STATE_CHANGED
  | ADJS_REPORT_AUDIO_STATE_CHANGED
  | ADJS_REPORT_WEBVIEW_AUDIO_STATE_CHANGED
  | ADJS_PROCESS_STATE
  | ADJS_REPORT_SCREEN_CAPTURE
  | ADJS_REPORT_WEBVIEW_SCREEN_CAPTURE
  | ADJS_APP_PRELOAD
  | ADJS_UIEXTENSION_PRELOAD
deriving DecidableEq

/-- The constants of the ability framework, and the system call that moves a process. -/
structure External where
  APP_STATE_FOREGROUND : Int
  APP_STATE_BACKGROUND : Int
  APP_STATE_TERMINATED : Int
  ABILITY_STATE_CREATE : Int
  ABILITY_STATE_BACKGROUND : Int
  ABILITY_STATE_TERMINATED : Int
  EXTENSION_STATE_TERMINATED : Int
  ABILITY_TYPE_SERVICE : Int
  ABILITY_TYPE_EXTENSION : Int
  ABILITY_TYPE_DATA : Int
  PROCESS_TYPE_EXTENSION : Int
  PROCESS_TYPE_RENDER : Int
  PROCESS_TYPE_GPU : Int
  PROCESS_TYPE_CHILD : Int
  PRE_LAUNCH : Int
  SetThreadGroupSchedPolicy : Int → SchedPolicy → Int

def HasServiceExtension (env : External) (record : ProcessRecord) : Bool :=
  record.abilities.any (fun ability =>
    ability.type = env.ABILITY_TYPE_SERVICE || ability.type = env.ABILITY_TYPE_EXTENSION ||
      ability.type = env.ABILITY_TYPE_DATA)

def ProcessRecord.IsVisible (record : ProcessRecord) : Bool :=
  record.windows.any WindowInfo.isVisible

/-- A process that follows the group of its host. -/
def followsHost (record : ProcessRecord) : Bool :=
  record.processType = RENDER || record.processType = GPU || record.processType = CHILD

/-! ## The group of a process -/

/-- The last branch of `ComputeProcessGroup`: abilities, windows and the state decide. -/
def ownGroup (env : External) (record : ProcessRecord) : SchedPolicy :=
  if record.abilities = [] then
    if record.processState = env.APP_STATE_BACKGROUND then .SP_BACKGROUND else .SP_DEFAULT
  else if record.IsVisible then .SP_FOREGROUND
  else if HasServiceExtension env record then
    if record.processState = env.APP_STATE_BACKGROUND then .SP_BACKGROUND else .SP_DEFAULT
  else if record.processState = env.APP_STATE_BACKGROUND then .SP_BACKGROUND
  else if record.processState = env.APP_STATE_FOREGROUND then .SP_FOREGROUND
  else .SP_DEFAULT

/-- The group `ComputeProcessGroup` sets. -/
def ComputeProcessGroup (env : External) (app : Application) (pid : Int) (record : ProcessRecord)
    (source : AdjustSource) : SchedPolicy :=
  if record.processType = RENDER then
    match app.pidsMap.lookup record.hostPid with
    | some hostProcRecord => hostProcRecord.curSchedGroup
    | none => .SP_DEFAULT
  else if source = .ADJS_PROCESS_CREATE then .SP_DEFAULT
  else if app.focusedProcess.map RecordPointer.pid = some pid then .SP_TOP_APP
  else ownGroup env record

def ApplyProcessGroup (env : External) (pid : Int) (record : ProcessRecord) : ProcessRecord :=
  if record.curSchedGroup ≠ record.setSchedGroup then
    if env.SetThreadGroupSchedPolicy pid record.setSchedGroup ≠ 0 then record
    else
      { record with
        lastSchedGroup := record.curSchedGroup
        curSchedGroup := record.setSchedGroup }
  else record

/-- Set the group of a record and apply it. -/
def regroup (env : External) (pid : Int) (group : SchedPolicy) (record : ProcessRecord) :
    ProcessRecord :=
  ApplyProcessGroup env pid { record with setSchedGroup := group }

/-! ## Adjusting -/

/-- One iteration of the loop of `AdjustProcessGroup` over the processes of the application. -/
def followHost (env : External) (hostPid : Int) (app : Application) (pid : Int) : Application :=
  match app.pidsMap.lookup pid with
  | none => app
  | some procRecord =>
      if followsHost procRecord then
        match app.pidsMap.lookup procRecord.hostPid with
        | none => app
        | some hostProcRecord =>
            if procRecord.hostPid ≠ hostPid then app
            else app.withRecord pid (regroup env pid hostProcRecord.curSchedGroup)
      else app

def AdjustProcessGroup (env : External) (app : Application) (pid : Int) (source : AdjustSource) :
    Application :=
  match app.pidsMap.lookup pid with
  | none => app
  | some record =>
      let app := app.withRecord pid
        (regroup env pid (ComputeProcessGroup env app pid record source))
      if pid ∉ app.hostPidsSet then app
      else (AssocMap.ascendingKeys app.pidsMap).foldl (followHost env pid) app

def AdjustAllProcessGroup (env : External) (app : Application) (source : AdjustSource) :
    Application :=
  (AssocMap.ascendingKeys app.pidsMap).foldl
    (fun app pid =>
      match app.pidsMap.lookup pid with
      | none => app
      | some procRecord =>
          if followsHost procRecord then app else AdjustProcessGroup env app pid source)
    app

end ResSched.Cgroup
