import ResSched.Library.DecimalText
import ResSched.Model.Executor.Client

/-! # Killing a process through the executor

A pid is signed where it is parsed and where the signal is sent, and unsigned on the way between
them.
-/

namespace ResSched.Kill

open CLibrary Executor

def RSS_UID : Int := 1096
def RES_SCHED_KILL_PROCESS_FAIL : Int := -1
def RSSEXE_GET_SERVICE_FAIL : Int := 5
def INT_MIN : Int := -2147483648
def INT_MAX : Int := 2147483647

inductive ErrCode where
  | ERR_OK
  | ERR_INVALID_OPERATION
  | ERR_INVALID_VALUE
deriving DecidableEq

/-- The surroundings of the service: whether the client has a proxy of the executor, the uid that
calls arrive with, the result of `kill(2)`, and that of recording an exit reason. -/
structure External where
  hasProxy : Bool
  callingUid : Int
  kill : Int → Int
  RecordProcessExitReason : Int → String → Int

/-- The return value of a function, and the pids it has passed to `kill(2)`. -/
structure Killed where
  ret : Int
  signalled : List Int

/-! ## The executor -/

def ResSchedExeMgr.KillProcess (env : External) (pid : Int) : Killed :=
  ⟨env.kill pid, [pid]⟩

/-- The error code, and the result where one is set. -/
def ResSchedExeService.KillProcess (env : External) (pid : BitVec 32) :
    ErrCode × Option Killed :=
  if env.callingUid ≠ RSS_UID then (.ERR_INVALID_OPERATION, none)
  else if pid ≤ 0 then (.ERR_INVALID_VALUE, none)
  else (.ERR_OK, some (ResSchedExeMgr.KillProcess env pid.toInt))

/-! ## The client -/

/-- The call of the proxy leaves the result as it is unless the service sets one. -/
def ResSchedExeClient.KillProcess (env : External) (pid : Int) : Killed :=
  if !env.hasProxy then ⟨RSSEXE_CONNECT_FAIL, []⟩
  else
    match (ResSchedExeService.KillProcess env (BitVec.ofInt 32 pid)).2 with
    | some killed => killed
    | none => ⟨RSSEXE_GET_SERVICE_FAIL, []⟩

/-! ## The service -/

def StrToInt32 (value : String) : Option Int :=
  let res := strtol 64 (cString value).toList
  if res.erange ∨ !res.converted ∨ res.rest ≠ [] ∨ res.value < INT_MIN ∨ res.value > INT_MAX then
    none
  else some res.value

/-- The exit reasons recorded before the process is killed. -/
def exitReasons (env : External) (payload : Json String) (pid : Int) :
    List (Int × String × Int) :=
  match (payload.find? "killReason").bind Json.string? with
  | some killReason => [(pid, killReason, env.RecordProcessExitReason pid killReason)]
  | none => []

/-- The outcome, and the exit reasons recorded. -/
def KillProcessByPidWithClient (env : External) (payload : Json String) :
    Killed × List (Int × String × Int) :=
  match (payload.find? "pid").bind Json.string? with
  | none => (⟨RES_SCHED_KILL_PROCESS_FAIL, []⟩, [])
  | some text =>
      match StrToInt32 text with
      | none => (⟨RES_SCHED_KILL_PROCESS_FAIL, []⟩, [])
      | some pid =>
          if pid ≤ 0 then (⟨RES_SCHED_KILL_PROCESS_FAIL, []⟩, [])
          else (ResSchedExeClient.KillProcess env pid, exitReasons env payload pid)

/-! ## Requests -/

/-- A request to kill a process: at the interface of the executor, or as the payload of a client
of the service. -/
inductive Request where
  | KillProcess (pid : BitVec 32)
  | KillProcessByPidWithClient (payload : Json String)

/-- The pids passed to `kill(2)` for a request. -/
def Request.signalled (env : External) : Request → List Int
  | .KillProcess pid =>
      ((ResSchedExeService.KillProcess env pid).2.map Killed.signalled).getD []
  | .KillProcessByPidWithClient payload =>
      (Kill.KillProcessByPidWithClient env payload).1.signalled

end ResSched.Kill
