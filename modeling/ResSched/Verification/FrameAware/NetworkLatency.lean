import ResSched.Library.Pairing
import ResSched.Library.Transition
import ResSched.Model.FrameAware.NetworkLatency

/-! # The low-latency switch follows the requests

The switch and the set of requests change together under one lock. The tasks that end requests
are kept under another, so a task can outlive the request it was submitted for.
-/

namespace ResSched.NetworkLatency

/-! ## The switch -/

/-- The switch has been written to at every change between no and some requests. -/
def Switched (controller : Controller) : Prop :=
  Pairing.Alternates controller.switches ∧
    Pairing.isOpen controller.switches = decide (controller.requests ≠ ∅)

/-- The handles of the controller name tasks of their own identity, numbers are not used twice,
and the operation that submitted a task is over. -/
structure WellFormed (controller : Controller) : Prop where
  handles : ∀ identity handle task, controller.taskHandlerMap_.lookup identity = some handle →
    controller.tasks.lookup handle = some task → task.identity = identity
  handles_lt : ∀ identity handle, controller.taskHandlerMap_.lookup identity = some handle →
    handle < controller.submitted
  tasks_lt : ∀ handle task, controller.tasks.lookup handle = some task →
    handle < controller.submitted
  operations_lt : ∀ operation op, controller.operations.lookup operation = some op →
    operation < controller.begun
  submitters : ∀ handle task, controller.tasks.lookup handle = some task →
    task.operation < controller.begun ∧ controller.operations.lookup task.operation = none

/-- A step that adds no task and no handle, and no operation under a used number. -/
theorem WellFormed.of_fewer {controller controller' : Controller} (h : WellFormed controller)
    (htasks : ∀ handle task', controller'.tasks.lookup handle = some task' →
      ∃ task, controller.tasks.lookup handle = some task ∧ task.identity = task'.identity ∧
        task.operation = task'.operation)
    (hhandles : ∀ identity handle, controller'.taskHandlerMap_.lookup identity = some handle →
      controller.taskHandlerMap_.lookup identity = some handle)
    (hsubmitted : controller'.submitted = controller.submitted)
    (hbegun : controller.begun ≤ controller'.begun)
    (hlt : ∀ operation op, controller'.operations.lookup operation = some op →
      operation < controller'.begun)
    (hover : ∀ operation, operation < controller.begun →
      controller.operations.lookup operation = none →
        controller'.operations.lookup operation = none) : WellFormed controller' where
  handles := by
    intro identity handle task' hhandle htask'
    obtain ⟨task, htask, hidentity, -⟩ := htasks handle task' htask'
    rw [← hidentity]
    exact h.handles identity handle task (hhandles identity handle hhandle) htask
  handles_lt := by
    intro identity handle hhandle
    rw [hsubmitted]
    exact h.handles_lt identity handle (hhandles identity handle hhandle)
  tasks_lt := by
    intro handle task' htask'
    obtain ⟨task, htask, -⟩ := htasks handle task' htask'
    rw [hsubmitted]
    exact h.tasks_lt handle task htask
  operations_lt := hlt
  submitters := by
    intro handle task' htask'
    obtain ⟨task, htask, -, hoperation⟩ := htasks handle task' htask'
    obtain ⟨hsubmitter, hdone⟩ := h.submitters handle task htask
    rw [← hoperation]
    exact ⟨lt_of_lt_of_le hsubmitter hbegun, hover _ hsubmitter hdone⟩

theorem lookup_proceed_iff (controller : Controller) (operation : Nat) (next : Option Operation)
    (a : Nat) :
    (controller.proceed operation next).operations.lookup a =
      if a = operation then next else controller.operations.lookup a := by
  cases next with
  | none => exact AssocMap.lookup_erase_ite _ _ _
  | some next => exact AssocMap.lookup_insert_ite _ _ _ _

/-- An operation that goes on keeps its number. -/
theorem WellFormed.proceed {controller : Controller} (h : WellFormed controller)
    {operation : Nat} {op : Operation}
    (hop : controller.operations.lookup operation = some op) (controller' : Controller)
    (htasks : ∀ handle task, controller'.tasks.lookup handle = some task →
      controller.tasks.lookup handle = some task)
    (hhandles : ∀ identity handle, controller'.taskHandlerMap_.lookup identity = some handle →
      controller.taskHandlerMap_.lookup identity = some handle)
    (hsubmitted : controller'.submitted = controller.submitted)
    (hbegun : controller'.begun = controller.begun)
    (hoperations : controller'.operations = controller.operations) (next : Option Operation) :
    WellFormed (controller'.proceed operation next) := by
  have hlt := h.operations_lt operation op hop
  refine h.of_fewer (fun handle task htask => ⟨task, htasks handle task htask, rfl, rfl⟩) hhandles
    hsubmitted hbegun.ge ?_ ?_
  · intro a op' hlookup
    rw [lookup_proceed_iff, hoperations] at hlookup
    show a < controller'.begun
    rw [hbegun]
    split_ifs at hlookup with heq
    · rw [heq]
      exact hlt
    · exact h.operations_lt a op' hlookup
  · intro a _ hnone
    rw [lookup_proceed_iff, hoperations]
    split_ifs with heq
    · rw [heq, hop] at hnone
      cases hnone
    · exact hnone

/-- A call for the identity is between two of its steps. -/
def Busy (controller : Controller) (identity : String) : Prop :=
  ∃ operation op, controller.operations.lookup operation = some op ∧ op.identity = identity

/-- The identity has an auto-disable task that is pending or running. -/
def Timed (controller : Controller) (identity : String) : Prop :=
  ∃ handle task, controller.tasks.lookup handle = some task ∧ task.identity = identity

def Covered (controller : Controller) : Prop :=
  ∀ identity ∈ controller.requests, Busy controller identity ∨ Timed controller identity

/-- The controller and, for every identity, the call that added it last. -/
structure Watched where
  controller : Controller
  addedBy : AssocMap String Nat

def Watched.start (initialized : Bool) : Watched :=
  ⟨Controller.start initialized, ∅⟩

/-- The identity an event adds to the requests, and the call it is added by. -/
def added (controller : Controller) : Event → Option (String × Nat)
  | .advance operation =>
      match controller.operations.lookup operation with
      | none => none
      | some op => if op.stage = .AddRequest then some (op.identity, operation) else none
  | _ => none

def Watched.step (watched : Watched) (event : Event) : Watched where
  controller := watched.controller.step event
  addedBy :=
    match added watched.controller event with
    | none => watched.addedBy
    | some (identity, operation) => watched.addedBy.insert identity operation

/-- The tasks there are, and those to be submitted, belong to the last call for their identity. -/
structure TasksCurrent (watched : Watched) : Prop where
  tasks : ∀ handle task, watched.controller.tasks.lookup handle = some task →
    task.identity ∈ watched.controller.requests →
      watched.addedBy.lookup task.identity = some task.operation
  submitting : ∀ operation op, watched.controller.operations.lookup operation = some op →
    op.stage = .submitAutoDisable → op.identity ∈ watched.controller.requests →
      watched.addedBy.lookup op.identity = some operation

/-- A step that adds no identity and no task, and brings no call to its submission. -/
theorem TasksCurrent.of_fewer {watched : Watched} (h : TasksCurrent watched)
    {controller' : Controller}
    (htasks : ∀ handle task', controller'.tasks.lookup handle = some task' →
      ∃ task, watched.controller.tasks.lookup handle = some task ∧
        task.identity = task'.identity ∧ task.operation = task'.operation)
    (hoperations : ∀ operation op, controller'.operations.lookup operation = some op →
      op.stage = .submitAutoDisable → watched.controller.operations.lookup operation = some op)
    (hrequests : ∀ identity ∈ controller'.requests, identity ∈ watched.controller.requests) :
    TasksCurrent ⟨controller', watched.addedBy⟩ where
  tasks := by
    intro handle task' htask' hmem
    obtain ⟨task, htask, hidentity, hoperation⟩ := htasks handle task' htask'
    have hmem' := hrequests _ hmem
    rw [← hidentity] at hmem'
    rw [← hidentity, ← hoperation]
    exact h.tasks handle task htask hmem'
  submitting := by
    intro operation op hop hstage hmem
    exact h.submitting operation op (hoperations operation op hop hstage) hstage
      (hrequests _ hmem)

/-- The switch is written to in turn, it is on exactly while there are requests, and a request
has a task that is pending or running unless a call for it is in progress. -/
structure Followed (controller : Controller) : Prop where
  alternates : Pairing.Alternates controller.switches
  on_iff : Pairing.isOpen controller.switches = true ↔ controller.requests ≠ ∅
  covered : ∀ identity ∈ controller.requests,
    Busy controller identity ∨ Timed controller identity

/-- What every step keeps. -/
structure Kept (controller : Controller) : Prop where
  switched : Switched controller
  wellFormed : WellFormed controller
  covered : Covered controller

theorem Kept.followed {controller : Controller} (h : Kept controller) : Followed controller where
  alternates := h.switched.1
  on_iff := by
    rw [h.switched.2]
    exact decide_eq_true_iff
  covered := h.covered

end ResSched.NetworkLatency
