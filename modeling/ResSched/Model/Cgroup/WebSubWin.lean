import Mathlib.Data.Finset.Erase
import Mathlib.Data.Finset.Insert
import ResSched.Model.Cgroup.EventHandler

/-! # Time-outs of web sub-window tasks -/

namespace ResSched.Cgroup

def WEB_SUBWIN_CALL_START : Int := 0

/-! ## The delayed tasks of the event queue -/

/-- A delayed `CheckWebSubWinTaskStatus` of a process, with the name it is posted under. -/
structure DelayTask where
  uid : Int
  pid : Int
  taskName : String
deriving DecidableEq

/-- The tasks of `cgroupEventQueue_` that have neither run nor been cancelled, by their handles,
and the handles kept in `delayTaskMap_`. -/
structure DelayQueue where
  pending : AssocMap Nat DelayTask
  submitted : Nat
  delayTaskMap : AssocMap String Nat

namespace DelayQueue

def PostTask (queue : DelayQueue) (task : DelayTask) : DelayQueue where
  pending := queue.pending.insert queue.submitted task
  submitted := queue.submitted + 1
  delayTaskMap := queue.delayTaskMap.insert task.taskName queue.submitted

def RemoveTask (queue : DelayQueue) (taskName : String) : DelayQueue :=
  match queue.delayTaskMap.lookup taskName with
  | none => queue
  | some handle =>
      { queue with
        pending := queue.pending.erase handle
        delayTaskMap := queue.delayTaskMap.erase taskName }

/-- A task that has run takes its name out of the map. -/
def finish (queue : DelayQueue) (handle : Nat) (task : DelayTask) : DelayQueue :=
  { queue with
    pending := queue.pending.erase handle
    delayTaskMap := queue.delayTaskMap.erase task.taskName }

end DelayQueue

/-! ## Reports and time-outs -/

/-- The first application, by uid, that has the process. -/
def Supervisor.FindProcessRecord (supervisor : Supervisor) (pid : Int) : Option Int :=
  (AssocMap.ascendingKeys supervisor.uidsMap).find? fun uid => (supervisor.record? uid pid).isSome

def webSubWinTaskName (pid uid : Int) : String :=
  "webSubWinTask" ++ toString pid ++ toString uid

/-- The records, the processes (uid and pid) whose `webSubWinTaskState_` is set, and the queue. -/
structure WebSubWin where
  supervisor : Supervisor
  webSubWinTaskState : Finset (Int × Int)
  queue : DelayQueue

def WebSubWin.start (supervisor : Supervisor) : WebSubWin :=
  ⟨supervisor, ∅, ⟨∅, 0, ∅⟩⟩

/-- The uid and the pid of the process a report is about. -/
def Supervisor.webSubWinProcess (supervisor : Supervisor) (payload : Payload) :
    Option (Int × Int) := do
  let pid ← ParseValue "pid" payload
  if pid ≤ 0 then none
  else
    let uid ← supervisor.FindProcessRecord pid
    return (uid, pid)

def HandleReportWebSubWinTaskStatus (world : WebSubWin) (value : Int) (payload : Payload) :
    WebSubWin :=
  match world.supervisor.webSubWinProcess payload with
  | none => world
  | some (uid, pid) =>
      let taskName := webSubWinTaskName pid uid
      let queue := world.queue.RemoveTask taskName
      if value = WEB_SUBWIN_CALL_START then
        { world with
          webSubWinTaskState := insert (uid, pid) world.webSubWinTaskState
          queue := queue.PostTask ⟨uid, pid, taskName⟩ }
      else
        { world with
          webSubWinTaskState := world.webSubWinTaskState.erase (uid, pid)
          queue := queue }

def CheckWebSubWinTaskStatus (world : WebSubWin) (uid pid : Int) : WebSubWin :=
  match world.supervisor.record? uid pid with
  | none => world
  | some _ => { world with webSubWinTaskState := world.webSubWinTaskState.erase (uid, pid) }

/-- What the serial queue runs: the handling of a report, or a delayed task. -/
inductive WebSubWinEvent where
  | HandleReportWebSubWinTaskStatus (value : Int) (payload : Payload)
  | timeout (handle : Nat)

def WebSubWin.handle (world : WebSubWin) : WebSubWinEvent → WebSubWin
  | .HandleReportWebSubWinTaskStatus value payload =>
      Cgroup.HandleReportWebSubWinTaskStatus world value payload
  | .timeout handle =>
      match world.queue.pending.lookup handle with
      | none => world
      | some task =>
          { CheckWebSubWinTaskStatus world task.uid task.pid with
            queue := world.queue.finish handle task }

end ResSched.Cgroup
