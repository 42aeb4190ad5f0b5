import ResSched.Library.AssocMap
import Mathlib.Data.Finset.Erase
import Mathlib.Data.Finset.Insert

/-! # The low-latency switch of the network and the requests for it -/

namespace ResSched.NetworkLatency

def NETWORK_LATENCY_REQUEST_LOW : Int := 0
def NETWORK_LATENCY_REQUEST_NORMAL : Int := 1

/-- The lock-protected step a call of `HandleRequest` comes to next. -/
inductive Stage where
  | cancelBeforeAdd
  | AddRequest
  | submitAutoDisable
  | cancelBeforeDel
  | DelRequest
deriving DecidableEq

/-- A call of `HandleRequest` that has not returned. -/
structure Operation where
  identity : String
  stage : Stage

/-- An auto-disable task of the queue that has not ended: the identity it deletes, the call
that submitted it, and whether it has started. -/
structure Task where
  identity : String
  operation : Nat
  started : Bool

/-- The controller with the calls in progress and the tasks of its queue. `switches` are the
calls of the switcher, `true` for `LowLatencyOn`. -/
structure Controller where
  initialized : Bool
  requests : Finset String
  taskHandlerMap_ : AssocMap String Nat
  switches : List Bool
  operations : AssocMap Nat Operation
  begun : Nat
  tasks : AssocMap Nat Task
  submitted : Nat

def Controller.start (initialized : Bool) : Controller where
  initialized := initialized
  requests := ∅
  taskHandlerMap_ := ∅
  switches := []
  operations := ∅
  begun := 0
  tasks := ∅
  submitted := 0

/-! ## The lock-protected steps -/

/-- `cancel` of the queue: a task that has started goes on. -/
def cancelTask (handle : Nat) (tasks : AssocMap Nat Task) : AssocMap Nat Task :=
  match tasks.lookup handle with
  | none => tasks
  | some task => if task.started then tasks else tasks.erase handle

def cancelAutoDisable (controller : Controller) (identity : String) : Controller :=
  match controller.taskHandlerMap_.lookup identity with
  | none => controller
  | some handle =>
      { controller with
        tasks := cancelTask handle controller.tasks
        taskHandlerMap_ := controller.taskHandlerMap_.erase identity }

def AddRequest (controller : Controller) (identity : String) : Controller :=
  let wasEmpty := controller.requests = ∅
  { controller with
    requests := insert identity controller.requests
    switches := if wasEmpty then controller.switches ++ [true] else controller.switches }

def DelRequest (controller : Controller) (identity : String) : Controller :=
  let wasEmpty := controller.requests = ∅
  { controller with
    requests := controller.requests.erase identity
    switches :=
      if ¬ wasEmpty ∧ controller.requests.erase identity = ∅ then controller.switches ++ [false]
      else controller.switches }

def submitAutoDisable (controller : Controller) (operation : Nat) (identity : String) :
    Controller :=
  { controller with
    tasks := controller.tasks.insert controller.submitted ⟨identity, operation, false⟩
    taskHandlerMap_ := controller.taskHandlerMap_.insert identity controller.submitted
    submitted := controller.submitted + 1 }

/-! ## Calls and timers -/

/-- A call of `HandleRequest` begins; it takes no lock before its first step. -/
def HandleRequest (controller : Controller) (value : Int) (identity : String) : Controller :=
  if !controller.initialized then controller
  else if value = NETWORK_LATENCY_REQUEST_LOW then
    { controller with
      operations := controller.operations.insert controller.begun ⟨identity, .cancelBeforeAdd⟩
      begun := controller.begun + 1 }
  else if value = NETWORK_LATENCY_REQUEST_NORMAL then
    { controller with
      operations := controller.operations.insert controller.begun ⟨identity, .cancelBeforeDel⟩
      begun := controller.begun + 1 }
  else controller

/-- Record that an operation has come to its next step, or has returned. -/
def Controller.proceed (controller : Controller) (operation : Nat) (next : Option Operation) :
    Controller :=
  { controller with
    operations :=
      match next with
      | none => controller.operations.erase operation
      | some next => controller.operations.insert operation next }

/-- The lock-protected step an operation has come to. -/
def perform (controller : Controller) (operation : Nat) (op : Operation) : Controller :=
  match op.stage with
  | .cancelBeforeAdd =>
      (cancelAutoDisable controller op.identity).proceed operation
        (some { op with stage := .AddRequest })
  | .AddRequest =>
      (AddRequest controller op.identity).proceed operation
        (some { op with stage := .submitAutoDisable })
  | .submitAutoDisable =>
      (submitAutoDisable controller operation op.identity).proceed operation none
  | .cancelBeforeDel =>
      (cancelAutoDisable controller op.identity).proceed operation
        (some { op with stage := .DelRequest })
  | .DelRequest => (DelRequest controller op.identity).proceed operation none

/-- An operation that has not returned does its next step. -/
def advance (controller : Controller) (operation : Nat) : Controller :=
  match controller.operations.lookup operation with
  | none => controller
  | some op => perform controller operation op

/-- The queue starts a task whose delay has passed. -/
def startTask (controller : Controller) (handle : Nat) : Controller :=
  { controller with
    tasks := AssocMap.modify handle (fun task => { task with started := true }) controller.tasks }

/-- A task that has started takes the lock, and ends. -/
def AutoDisableTask (controller : Controller) (handle : Nat) : Controller :=
  match controller.tasks.lookup handle with
  | none => controller
  | some task =>
      if task.started then
        { DelRequest controller task.identity with tasks := controller.tasks.erase handle }
      else controller

inductive Event where
  | HandleRequest (value : Int) (identity : String)
  | advance (operation : Nat)
  | startTask (handle : Nat)
  | AutoDisableTask (handle : Nat)

def Controller.step (controller : Controller) : Event → Controller
  | .HandleRequest value identity => HandleRequest controller value identity
  | .advance operation => NetworkLatency.advance controller operation
  | .startTask handle => NetworkLatency.startTask controller handle
  | .AutoDisableTask handle => NetworkLatency.AutoDisableTask controller handle

end ResSched.NetworkLatency
