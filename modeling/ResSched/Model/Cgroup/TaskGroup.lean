import ResSched.Library.TextSearch
import ResSched.Library.Utf8
import ResSched.Model.Cgroup.LoadPolicies

/-! # The policy of a task, read from its group -/

namespace ResSched.CgroupSetting

open CLibrary

def SP_DEFAULT : Nat := 0
def SP_BACKGROUND : Nat := 1
def SP_FOREGROUND : Nat := 2
def SP_SYSTEM_BACKGROUND : Nat := 3
def SP_TOP_APP : Nat := 4

/-! ## Declaring the policies -/

structure Declarations where
  allowToAdd_ : Bool
  fullNames_ : AssocMap Nat String
  abbrNames_ : AssocMap Nat String

structure Declaration where
  policy : Nat
  fullName : String
  abbrName : String

namespace Declarations

def AddSchedPolicyDeclaration (declarations : Declarations) (declaration : Declaration) :
    Declarations :=
  if !declarations.allowToAdd_ then declarations
  else if declaration.policy ≥ SP_UPPER_LIMIT then declarations
  else if declaration.fullName.isEmpty || declaration.abbrName.isEmpty then declarations
  else if (declarations.fullNames_.lookup declaration.policy).isSome then declarations
  else if declarations.fullNames_.entries.any (fun kv => kv.2 = declaration.fullName) then
    declarations
  else
    { declarations with
      fullNames_ := declarations.fullNames_.insert declaration.policy declaration.fullName
      abbrNames_ := declarations.abbrNames_.insert declaration.policy declaration.abbrName }

/-- The constructor of the action. -/
def start : Declarations :=
  [⟨SP_DEFAULT, "sp_default", "df"⟩, ⟨SP_BACKGROUND, "sp_background", "bg"⟩,
    ⟨SP_FOREGROUND, "sp_foreground", "fg"⟩,
    ⟨SP_SYSTEM_BACKGROUND, "sp_system_background", "sy"⟩,
    ⟨SP_TOP_APP, "sp_top_app", "ta"⟩].foldl AddSchedPolicyDeclaration ⟨true, ∅, ∅⟩

end Declarations

/-! ## Reading the group -/

/-- The exception that `substr` throws for a position behind the text. -/
inductive Thrown where
  | out_of_range
deriving DecidableEq

/-- The bytes of a string. -/
def bytes (text : String) : List UInt8 :=
  Utf8.encode text.toList

def CgroupController.cgTag (controller : CgroupController) : List UInt8 :=
  bytes (StringPrintf (":" ++ cString controller.name_ ++ ":"))

/-- `reply` is what `ReadFileToStringForVFSFromExecutor` reads, if it does. The subgroup, if the
text has the tag of the controller. -/
def CgroupController.GetTaskGroup (controller : CgroupController) (reply : Option (List UInt8)) :
    Except Thrown (Option (List UInt8)) :=
  match reply with
  | none => .ok none
  | some content =>
      match TextSearch.find controller.cgTag content with
      | none => .ok none
      | some tagPos =>
          let startPos := tagPos + (controller.cgTag.length + 1)
          let endPos := TextSearch.findFrom '\n'.toUInt8 startPos content
          match TextSearch.substr startPos (endPos.map fun stop => stop - startPos) content with
          | none => .error .out_of_range
          | some subgroup => .ok (some subgroup)

/-- The loop over the controllers ends with the first that reads a group. -/
def firstTaskGroup (reply : Option (List UInt8)) :
    List CgroupController → Except Thrown (Option (List UInt8))
  | [] => .ok none
  | controller :: controllers =>
      match controller.GetTaskGroup reply with
      | .error thrown => .error thrown
      | .ok (some subgroup) => .ok (some subgroup)
      | .ok none => firstTaskGroup reply controllers

/-- The value returned and the policy. -/
def CgroupAction.GetSchedPolicyByName (action : CgroupAction) (name : List UInt8) : Int × Nat :=
  match (AssocMap.ascendingKeys action.fullNames_).find? fun policy =>
    (action.fullNames_.lookup policy).map bytes = some name with
  | some policy => (0, policy)
  | none => (-1, SP_UPPER_LIMIT)

/-- `replace(subgroup.begin(), subgroup.end(), '-', '_')` -/
def replaceDash (subgroup : List UInt8) : List UInt8 :=
  subgroup.map fun c => if c = '-'.toUInt8 then '_'.toUInt8 else c

/-- The action afterwards, and the value returned with the policy. -/
def CgroupAction.GetSchedPolicy (kernel : Kernel) (action : CgroupAction)
    (reply : Option (List UInt8)) : CgroupAction × Except Thrown (Int × Nat) :=
  if !action.enable then (action, .ok (-1, SP_UPPER_LIMIT))
  else
    let (cgroupMap, controllers, found) := action.cgroupMap.FindAllEnableCgroupControllers kernel
    let action := { action with cgroupMap := cgroupMap }
    match if found then firstTaskGroup reply controllers else .ok none with
    | .error thrown => (action, .error thrown)
    | .ok none => (action, .ok (-1, SP_UPPER_LIMIT))
    | .ok (some subgroup) =>
        if subgroup.isEmpty then (action, .ok (0, SP_DEFAULT))
        else (action, .ok (action.GetSchedPolicyByName (bytes "sp_" ++ replaceDash subgroup)))

end ResSched.CgroupSetting
