import ResSched.Model.Executor.SocPerfConfig

/-! # Writing the nodes of the frequency executor

`none` stands for an access outside a vector or through a null pointer.
-/

namespace ResSched.SocPerfExecutor

/-- A value written to a node of a resource. -/
structure Write where
  resId : Int
  filePath : String
  value : String
deriving DecidableEq

/-- The resources, where `operator[]` leaves a null pointer under a key it did not find, and what
has been written. -/
structure Executor where
  resourceNodeInfo_ : AssocMap Int (Option ResourceNode)
  written : List Write

/-- A vector of resource ids and one of values, of the same length. -/
structure Request where
  resIdVec : List Int
  valueVec : List Int
  sameLength : resIdVec.length = valueVec.length

def IsValidResId (executor : Executor) (resId : Int) : Bool :=
  (executor.resourceNodeInfo_.lookup resId).isSome

def IsGovResId (executor : Executor) (resId : Int) : Option Bool :=
  match executor.resourceNodeInfo_.lookup resId with
  | none => some false
  | some none => none
  | some (some node) => some node.isGov

/-- `resourceNodeInfo_[resId]`. -/
def Executor.at (executor : Executor) (resId : Int) : Option ResourceNode × Executor :=
  match executor.resourceNodeInfo_.lookup resId with
  | some node => (node, executor)
  | none =>
      (none,
        { executor with resourceNodeInfo_ := executor.resourceNodeInfo_.insert resId none })

def WriteNode (executor : Executor) (resId : Int) (filePath value : String) : Executor :=
  let (node, executor) := executor.at resId
  match node with
  | none => executor
  | some node =>
      if node.base.persistMode = REPORT_TO_PERFSO then executor
      else { executor with written := executor.written ++ [⟨resId, filePath, value⟩] }

/-- The loop over the paths of a governor resource, which reads `strs` at the same index. -/
def writePaths (resId : Int) : List String → List String → Executor → Option Executor
  | [], _, executor => some executor
  | _ :: _, [], _ => none
  | path :: paths, str :: strs, executor =>
      writePaths resId paths strs (WriteNode executor resId path str)

/-! ## Initialisation -/

/-- For a level that is not present, `levelToStr[govResNode->def]` is an empty vector. -/
def InitResourceNodeInfo (executor : Executor) (resourceNode : Option ResourceNode) :
    Option Executor :=
  match resourceNode with
  | none => some executor
  | some (.gov govResNode) =>
      if govResNode.persistMode = REPORT_TO_PERFSO then some executor
      else writePaths govResNode.id govResNode.paths
        ((govResNode.levelToStr.lookup govResNode.defaultValue).getD []) executor
  | some (.res resNode) =>
      if resNode.persistMode = REPORT_TO_PERFSO then some executor
      else some (WriteNode executor resNode.id resNode.path (toString resNode.defaultValue))

/-- The result of `SocPerfConfig::Init` is ignored: the records of a rejected document are
written like the others. -/
def InitThreadWraps (cfgFiles : List Document) : Option Executor :=
  let resourceNodeInfo_ := AssocMap.map some (SocPerfConfig_Init cfgFiles).2
  (resourceNodeInfo_.entries.map Sigma.snd).foldlM InitResourceNodeInfo ⟨resourceNodeInfo_, []⟩

/-! ## Requests -/

def UpdateCurrentValue (executor : Executor) (resId currValue : Int) : Option Executor := do
  let isGov ← IsGovResId executor resId
  let (node, executor) := executor.at resId
  match isGov, node with
  | true, some (.gov govResNode) =>
      if govResNode.persistMode = REPORT_TO_PERFSO then some executor
      else
        match govResNode.levelToStr.lookup currValue with
        | none => some executor
        | some targetStrs => writePaths resId govResNode.paths targetStrs executor
  | false, some (.res resNode) =>
      some (WriteNode executor resId resNode.path (toString currValue))
  | _, _ => none

def UpdateResIdCurrentValue (executor : Executor) (resId currValue : Int) : Option Executor :=
  if currValue = NODE_DEFAULT_VALUE then
    let (node, executor) := executor.at resId
    match node with
    | none => some executor
    | some node => UpdateCurrentValue executor resId node.base.defaultValue
  else UpdateCurrentValue executor resId currValue

def WriteNodeThreadWraps (executor : Executor) (request : Request) : Option Executor :=
  (request.resIdVec.zip request.valueVec).foldlM
    (fun executor entry => UpdateResIdCurrentValue executor entry.1 entry.2) executor

end ResSched.SocPerfExecutor
