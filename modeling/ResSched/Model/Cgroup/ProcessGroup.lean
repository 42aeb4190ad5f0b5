import ResSched.Library.AssocMap
import ResSched.Library.FirstAnswer
import Mathlib.Data.String.Basic

/-! # Moving processes between the groups of the kernel -/

namespace ResSched.CgroupSetting

def SP_UPPER_LIMIT : Nat := 255
def ESRCH : Int := 3

/-- What `write` returns, an interrupted one being repeated, and `errno` after it. -/
structure WriteResult where
  returned : Int
  errno : Int

/-- The answers of the kernel: whether a file exists, and what a write to a descriptor returns. -/
structure Kernel where
  access : String → Bool
  write : Int → String → WriteResult

structure CgroupController where
  name_ : String
  path_ : String
  policyToTaskFd_ : AssocMap Nat Int
  policyToProcFd_ : AssocMap Nat Int

/-! ## One controller -/

/-- The file whose existence `IsEnabled` checks. -/
def CgroupController.hasTasks (kernel : Kernel) (controller : CgroupController) : Bool :=
  kernel.access (controller.path_ ++ "/tasks")

/-- `enabled` is the local static variable of the function, `none` before its initialisation. -/
def CgroupController.IsEnabled (kernel : Kernel) (enabled : Option Bool)
    (controller : CgroupController) : Option Bool × Bool :=
  FirstAnswer.ask (CgroupController.hasTasks kernel) enabled controller

def AddTidToCgroup (kernel : Kernel) (tid fd : Int) : Bool :=
  let value := toString tid
  let result := kernel.write fd value
  if result.returned = value.length then true
  else if result.errno = ESRCH then true
  else false

/-- The descriptor `operator[]` reads, zero for a missing policy. -/
def CgroupController.policyFd (controller : CgroupController) (policy : Nat)
    (isSetThreadGroup : Bool) : Int :=
  ((if isSetThreadGroup then controller.policyToProcFd_ else controller.policyToTaskFd_).lookup
    policy).getD 0

def CgroupController.SetThreadSchedPolicy (kernel : Kernel) (controller : CgroupController)
    (tid : Int) (policy : Nat) (isSetThreadGroup : Bool) : Bool :=
  let fd := controller.policyFd policy isSetThreadGroup
  if fd < 0 then false
  else AddTidToCgroup kernel tid fd

/-! ## All controllers -/

/-- The controllers by name, and the static variable that their `IsEnabled` shares. -/
structure CgroupMap where
  controllers_ : AssocMap String CgroupController
  enabled : Option Bool

/-- The controllers in the order of the map. -/
def CgroupMap.controllers (cgroupMap : CgroupMap) : List CgroupController :=
  (AssocMap.ascendingKeys cgroupMap.controllers_).filterMap cgroupMap.controllers_.lookup

/-- The map afterwards, whether each enabled controller took the thread, and the value returned:
a controller that fails is logged. -/
def CgroupMap.SetThreadSchedPolicy (kernel : Kernel) (cgroupMap : CgroupMap) (tid : Int)
    (policy : Nat) (isThreadGroup : Bool) : CgroupMap × List (CgroupController × Bool) × Bool :=
  let (enabled, moves) :=
    FirstAnswer.collect (CgroupController.hasTasks kernel)
      (fun controller =>
        (controller, controller.SetThreadSchedPolicy kernel tid policy isThreadGroup))
      cgroupMap.enabled cgroupMap.controllers
  ({ cgroupMap with enabled := enabled }, moves, true)

/-- The map afterwards, the controllers found, and whether there are any. -/
def CgroupMap.FindAllEnableCgroupControllers (kernel : Kernel) (cgroupMap : CgroupMap) :
    CgroupMap × List CgroupController × Bool :=
  let (enabled, controllers) :=
    FirstAnswer.collect (CgroupController.hasTasks kernel) id cgroupMap.enabled
      cgroupMap.controllers
  ({ cgroupMap with enabled := enabled }, controllers, !controllers.isEmpty)

/-! ## The action and its callers -/

/-- The declared policies with their names, the result of loading the configuration, and the
map that was loaded. -/
structure CgroupAction where
  fullNames_ : AssocMap Nat String
  enable : Bool
  cgroupMap : CgroupMap

def CgroupAction.IsSchedPolicyValid (action : CgroupAction) (policy : Nat) : Bool :=
  (action.fullNames_.lookup policy).isSome

def CgroupAction.SetThreadGroupSchedPolicy (kernel : Kernel) (action : CgroupAction) (tid : Int)
    (policy : Nat) : CgroupAction × List (CgroupController × Bool) × Bool :=
  if !action.IsSchedPolicyValid policy then (action, [], false)
  else if !action.enable then (action, [], false)
  else
    let (cgroupMap, moves, ret) := action.cgroupMap.SetThreadSchedPolicy kernel tid policy true
    ({ action with cgroupMap := cgroupMap }, moves, ret)

/-- The return value of `SetThreadGroupSchedPolicy`; `executor` is what
`SetSchedPolicyByExecutor` returns where the policy has to be set through the executor. -/
def SetThreadGroupSchedPolicy (kernel : Kernel) (action : CgroupAction)
    (executor : Option (Int → Nat → Int)) (pid : Int) (policy : Nat) : CgroupAction × Int :=
  if pid ≤ 0 then (action, -1)
  else
    let (action, _, set) := action.SetThreadGroupSchedPolicy kernel pid policy
    let ret := if set then 0 else -1
    match executor with
    | none => (action, ret)
    | some SetSchedPolicyByExecutor => (action, SetSchedPolicyByExecutor pid policy)

end ResSched.CgroupSetting
