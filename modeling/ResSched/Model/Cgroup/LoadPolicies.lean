import ResSched.Library.CLibrary
import ResSched.Model.Cgroup.ProcessGroup
import ResSched.Model.Json

/-! # Loading the scheduling policies of the controllers -/

namespace ResSched.CgroupSetting

open CLibrary

def JSON_KEY_CGROUPS : String := "Cgroups"
def JSON_KEY_CONTROLLER : String := "controller"
def JSON_KEY_PATH : String := "path"
def JSON_KEY_SCHED_POLICY : String := "sched_policy"
def FMT_STR_BUFF_LEN : Nat := 256

/-- A text that does not fit into the buffer is given up. -/
def StringPrintf (text : String) : String :=
  if text.utf8ByteSize < FMT_STR_BUFF_LEN then text else ""

/-! ## Opening files -/

/-- The descriptor the next `open` gives: one that is not open. -/
structure Allocator where
  fd : AssocMap Int String → Int
  nonneg : ∀ opened, 0 ≤ fd opened
  fresh : ∀ opened : AssocMap Int String, opened.lookup (fd opened) = none

/-- Whether the path of a file resolves, and whether the file opens. -/
structure FileAnswer where
  resolves : Bool
  opens : Bool

structure PolicyAnswers where
  tasks : FileAnswer
  procs : FileAnswer

/-- A controller and the descriptors open in the process, with their files. -/
structure Loading where
  controller : CgroupController
  opened : AssocMap Int String

/-- The descriptor and the open ones with it. -/
def openFile (allocator : Allocator) (opened : AssocMap Int String) (filePath : String)
    (answer : FileAnswer) : Option (Int × AssocMap Int String) :=
  if !answer.resolves then none
  else if !answer.opens then none
  else some (allocator.fd opened, opened.insert (allocator.fd opened) filePath)

/-! ## One controller -/

/-- The file of a subgroup. -/
def CgroupController.filePath (controller : CgroupController) (subgroup file : String) : String :=
  if subgroup = "" then StringPrintf (cString controller.path_ ++ "/" ++ file)
  else StringPrintf (cString controller.path_ ++ "/" ++ cString subgroup ++ "/" ++ file)

def CgroupController.new (policyList : List Nat) (name path : String) : CgroupController where
  name_ := name
  path_ := path
  policyToTaskFd_ := policyList.foldl (fun fds policy => fds.insert policy (-1)) ∅
  policyToProcFd_ := policyList.foldl (fun fds policy => fds.insert policy (-1)) ∅

/-- The destructor closes the descriptors that are set. -/
def CgroupController.destroy (controller : CgroupController) (opened : AssocMap Int String) :
    AssocMap Int String :=
  let fds (policyToFd : AssocMap Nat Int) :=
    (policyToFd.entries.map fun entry => entry.2).filter fun fd => fd ≠ -1
  AssocMap.eraseKeys (fds controller.policyToProcFd_)
    (AssocMap.eraseKeys (fds controller.policyToTaskFd_) opened)

namespace Loading

def AddThreadSchedPolicy (allocator : Allocator) (loading : Loading) (policy : Nat)
    (subgroup : String) (answer : FileAnswer) : Bool × Loading :=
  let filePath := loading.controller.filePath subgroup "tasks"
  match openFile allocator loading.opened filePath answer with
  | none => (false, loading)
  | some (fd, opened) =>
      (true, {
        controller := { loading.controller with
          policyToTaskFd_ := loading.controller.policyToTaskFd_.insert policy fd }
        opened := opened })

def AddThreadGroupSchedPolicy (allocator : Allocator) (loading : Loading) (policy : Nat)
    (subgroup : String) (answer : FileAnswer) : Bool × Loading :=
  let filePath := loading.controller.filePath subgroup "cgroup.procs"
  match openFile allocator loading.opened filePath answer with
  | none => (false, loading)
  | some (fd, opened) =>
      (true, {
        controller := { loading.controller with
          policyToProcFd_ := loading.controller.policyToProcFd_.insert policy fd }
        opened := opened })

def AddSchedPolicy (allocator : Allocator) (loading : Loading) (policy : Nat)
    (subgroup : String) (answers : PolicyAnswers) : Bool × Loading :=
  match loading.AddThreadSchedPolicy allocator policy subgroup answers.tasks with
  | (false, loading) => (false, loading)
  | (true, loading) => loading.AddThreadGroupSchedPolicy allocator policy subgroup answers.procs

end Loading

/-! ## The map of controllers -/

/-- The declared policies that the object configures, with their subgroups. -/
def configuredPolicies (fullNames : AssocMap Nat String) (policyObj : Json String) :
    List (Nat × String) :=
  (AssocMap.ascendingKeys fullNames).filterMap fun policy => do
    let keyString ← fullNames.lookup policy
    if keyString = "error" then none
    else
      let subgroup ← (policyObj.find? keyString).bind Json.string?
      return (policy, subgroup)

def LoadSchedPolicyConfig (allocator : Allocator) (fullNames : AssocMap Nat String)
    (loading : Loading) (policyObj : Json String) (answers : Nat → PolicyAnswers) :
    Bool × Loading :=
  if !policyObj.is_object then (false, loading)
  else
    let (count, loading) := (configuredPolicies fullNames policyObj).foldl
      (fun (state : Nat × Loading) (config : Nat × String) =>
        let added := state.2.AddSchedPolicy allocator config.1 config.2 (answers config.1)
        (if added.1 then state.1 + 1 else state.1, added.2)) (0, loading)
    (decide (count > 0), loading)

/-- A cgroup object in the right format: the name, the path and the policies. -/
def CheckCgroupConfigFormat (cgroupObj : Json String) : Option (String × String × Json String) := do
  let name ← (cgroupObj.find? JSON_KEY_CONTROLLER).bind Json.string?
  let rootPath ← (cgroupObj.find? JSON_KEY_PATH).bind Json.string?
  let policyObj ← cgroupObj.find? JSON_KEY_SCHED_POLICY
  if policyObj.is_object then return (name, rootPath, policyObj) else none

/-- The controllers and the descriptors open in the process. -/
structure LoadedMap where
  controllers_ : AssocMap String CgroupController
  opened : AssocMap Int String

def LoadedMap.start : LoadedMap :=
  ⟨∅, ∅⟩

/-- The body of the loop over the objects: whether the object counts, and the map afterwards. -/
def LoadedMap.LoadCgroup (allocator : Allocator) (fullNames : AssocMap Nat String)
    (loaded : LoadedMap) (cgroupObj : Json String) (answers : Nat → PolicyAnswers) :
    Bool × LoadedMap :=
  match CheckCgroupConfigFormat cgroupObj with
  | none => (false, loaded)
  | some (name, rootPath, policyObj) =>
      if name = "" ∨ rootPath = "" then (false, loaded)
      else
        match loaded.controllers_.lookup name with
        | some controller =>
            let (valid, loading) := LoadSchedPolicyConfig allocator fullNames
              ⟨controller, loaded.opened⟩ policyObj answers
            (valid, ⟨loaded.controllers_.insert name loading.controller, loading.opened⟩)
        | none =>
            let controller := CgroupController.new (AssocMap.ascendingKeys fullNames) name rootPath
            match LoadSchedPolicyConfig allocator fullNames ⟨controller, loaded.opened⟩ policyObj
              answers with
            | (true, loading) =>
                (true, ⟨loaded.controllers_.insert name loading.controller, loading.opened⟩)
            | (false, loading) =>
                (false, { loaded with opened := loading.controller.destroy loading.opened })

/-- The files of the objects answer in the order of the array. -/
def LoadedMap.LoadConfigFromJsonObj (allocator : Allocator) (fullNames : AssocMap Nat String)
    (loaded : LoadedMap) (jsonObj : Json String) (answers : Nat → Nat → PolicyAnswers) :
    Bool × LoadedMap :=
  match jsonObj.find? JSON_KEY_CGROUPS with
  | some (.array objects) =>
      let (count, loaded) := objects.zipIdx.foldl
        (fun (state : Nat × LoadedMap) (object : Json String × Nat) =>
          let added := state.2.LoadCgroup allocator fullNames object.1 (answers object.2)
          (if added.1 then state.1 + 1 else state.1, added.2)) (0, loaded)
      (decide (count > 0), loaded)
  | _ => (false, loaded)

end ResSched.CgroupSetting
