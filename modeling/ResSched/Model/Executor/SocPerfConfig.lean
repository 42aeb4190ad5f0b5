import ResSched.Library.AssocMap
import ResSched.Library.CLibrary
import Mathlib.Data.Finset.Insert

/-! # The resource configuration of the frequency executor -/

namespace ResSched.SocPerfExecutor

def SOCPERF_RESOURCE_CONFIG_XML : String := "etc/soc_perf/socperf_resource_config.xml"
def INVALID_VALUE : Int := -2147483648
def MIN_RESOURCE_ID : Int := 1000
def MAX_RESOURCE_ID : Int := 5999
def WRITE_NODE : Int := 0
def REPORT_TO_PERFSO : Int := 1
def MAX_FREQUE_NODE : Int := 1
def NODE_DEFAULT_VALUE : Int := -1

/-! ## Documents

The elements of a document down to the depth the loader reads, with the attributes and the
content the XML library returns.
-/

/-- A child of a `res` element. -/
structure Leaf where
  name : String
  props : List (String × String)
  content : Option String

structure ResElement where
  name : String
  props : List (String × String)
  children : List Leaf

/-- A child of the root: `Resource`, `GovResource` or anything else. -/
structure Group where
  name : String
  children : List ResElement

/-- A configuration file; it has no root when it cannot be read. -/
structure Document where
  path : String
  root : Option (String × List Group)

def xmlGetProp (props : List (String × String)) (prop : String) : Option String :=
  (props.find? fun entry => entry.1 = prop).map Prod.snd

/-! ## Resources -/

/-- The fields of `ResourceNode` but its name. -/
structure NodeBase where
  id : Int
  defaultValue : Int
  available : Finset Int
  persistMode : Int
  isMaxValue : Bool

structure ResNode extends NodeBase where
  path : String
  pair : Int

structure GovResNode extends NodeBase where
  paths : List String
  levelToStr : AssocMap Int (List String)

inductive ResourceNode where
  | res (node : ResNode)
  | gov (node : GovResNode)

def ResourceNode.base : ResourceNode → NodeBase
  | .res node => node.toNodeBase
  | .gov node => node.toNodeBase

def ResourceNode.isGov : ResourceNode → Bool
  | .res _ => false
  | .gov _ => true

def ResNode.new (id mode pair persistMode : Int) : ResNode :=
  ⟨⟨id, INVALID_VALUE, ∅, persistMode, mode == MAX_FREQUE_NODE⟩, "", pair⟩

def GovResNode.new (id persistMode : Int) : GovResNode :=
  ⟨⟨id, INVALID_VALUE, ∅, persistMode, false⟩, [], ∅⟩

abbrev Nodes := AssocMap Int ResourceNode

/-! ## Texts -/

/-- The empty text and a single `-` count as numbers. -/
def IsNumber (str : String) : Bool :=
  match str.toList with
  | [] => true
  | c :: cs => (c == '-' || c.isDigit) && cs.all Char.isDigit

def IsValidRangeResId (id : Int) : Bool :=
  !(id < MIN_RESOURCE_ID || id > MAX_RESOURCE_ID)

def IsValidPersistMode (persistMode : Int) : Bool :=
  !(persistMode != WRITE_NODE && persistMode != REPORT_TO_PERFSO)

def Split (str : String) (pattern : Char) : List String :=
  (str.toList.splitOn pattern).map String.ofList

/-! ## The checks of the tags -/

def CheckResourcePersistMode (persistMode : Option String) : Bool :=
  persistMode.all fun persistMode =>
    IsNumber persistMode && IsValidPersistMode (CLibrary.atoi persistMode)

def CheckResourceTag (id name pair mode persistMode : Option String) : Bool :=
  id.any (fun id => IsNumber id && IsValidRangeResId (CLibrary.atoi id)) && name.isSome &&
    pair.all (fun pair => IsNumber pair && IsValidRangeResId (CLibrary.atoi pair)) &&
    mode.all IsNumber && CheckResourcePersistMode persistMode

def CheckGovResourceTag (id name persistMode : Option String) : Bool :=
  id.any (fun id => IsNumber id && IsValidRangeResId (CLibrary.atoi id)) && name.isSome &&
    CheckResourcePersistMode persistMode

def intProp (text : Option String) (otherwise : Int) : Int :=
  (text.map CLibrary.atoi).getD otherwise

/-! ## Plain resources -/

/-- `none` when a text is not a number. -/
def LoadResourceAvailable (node : String) : Option (Finset Int) :=
  (Split node ' ').foldlM
    (fun available str =>
      if IsNumber str then some (insert (CLibrary.atoll str) available) else none)
    ∅

/-- The texts `default`, `path` and `node`, each from the last child of that name. -/
structure FreqContent where
  default : Option String
  path : Option String
  node : Option String

def freqContent (persistMode : Int) (children : List Leaf) : FreqContent :=
  children.foldl
    (fun content child =>
      if child.name = "default" then { content with default := child.content }
      else if persistMode ≠ REPORT_TO_PERFSO ∧ child.name = "path" then
        { content with path := child.content }
      else if child.name = "node" then { content with node := child.content }
      else content)
    ⟨none, none, none⟩

/-- `LoadFreqResourceContent`; `none` when it returns false. -/
def LoadFreqResourceContent (children : List Leaf) (resNode : ResNode) : Option ResNode :=
  let content := freqContent resNode.persistMode children
  match content.default with
  | none => none
  | some default =>
      if !IsNumber default then none
      else if resNode.persistMode ≠ REPORT_TO_PERFSO ∧ content.path.isNone then none
      else
        let resNode := { resNode with
          defaultValue := CLibrary.atoll default
          path :=
            if resNode.persistMode ≠ REPORT_TO_PERFSO then content.path.getD ""
            else resNode.path }
        match content.node with
        | none => some resNode
        | some node =>
            (LoadResourceAvailable node).map fun available =>
              { resNode with available := available }

/-- The result, and the nodes also when it is false. -/
def TraversalFreqResource (grandson : ResElement) (nodes : Nodes) : Bool × Nodes :=
  let id := xmlGetProp grandson.props "id"
  let name := xmlGetProp grandson.props "name"
  let pair := xmlGetProp grandson.props "pair"
  let mode := xmlGetProp grandson.props "mode"
  let persistMode := xmlGetProp grandson.props "switch"
  if !CheckResourceTag id name pair mode persistMode then (false, nodes)
  else
    let resId := intProp id 0
    if (nodes.lookup resId).isSome then (true, nodes)
    else
      match LoadFreqResourceContent grandson.children
          (ResNode.new resId (intProp mode 0) (intProp pair INVALID_VALUE)
            (intProp persistMode 0)) with
      | none => (false, nodes)
      | some resNode => (true, nodes.insert resId (.res resNode))

/-! ## Governor resources -/

/-- A level that is present keeps its strings; the key is the level cut to 32 bits. -/
def LoadGovResourceAvailable (govResNode : GovResNode) (level node : String) :
    Bool × GovResNode :=
  let govResNode := { govResNode with
    available := insert (CLibrary.atoll level) govResNode.available }
  let result := Split node '|'
  if result.length ≠ govResNode.paths.length then (false, govResNode)
  else
    let key := CLibrary.toSigned 32 (CLibrary.atoll level)
    (true,
      { govResNode with
        levelToStr :=
          if (govResNode.levelToStr.lookup key).isSome then govResNode.levelToStr
          else govResNode.levelToStr.insert key result })

/-- What one child does to a governor resource. -/
def loadGovChild (persistMode : Int) (child : Leaf) (govResNode : GovResNode) :
    Bool × GovResNode :=
  if child.name = "default" then
    match child.content with
    | none => (false, govResNode)
    | some default =>
        if !IsNumber default then (false, govResNode)
        else (true, { govResNode with defaultValue := CLibrary.atoll default })
  else if persistMode ≠ REPORT_TO_PERFSO ∧ child.name = "path" then
    match child.content with
    | none => (false, govResNode)
    | some path => (true, { govResNode with paths := govResNode.paths ++ [path] })
  else if persistMode ≠ REPORT_TO_PERFSO ∧ child.name = "node" then
    match xmlGetProp child.props "level", child.content with
    | some level, some node =>
        if !IsNumber level then (false, govResNode)
        else LoadGovResourceAvailable govResNode level node
    | _, _ => (false, govResNode)
  else (true, govResNode)

/-- The result, and the governor resource also when it is false. -/
def TraversalGovResource (persistMode : Int) : List Leaf → GovResNode → Bool × GovResNode
  | [], govResNode => (true, govResNode)
  | child :: rest, govResNode =>
      let (loaded, govResNode) := loadGovChild persistMode child govResNode
      if loaded then TraversalGovResource persistMode rest govResNode else (false, govResNode)

/-- One `res` element of `LoadGovResource`: the record is in the map before it is filled, and
stays there when the filling fails. -/
def loadGovElement (grandson : ResElement) (nodes : Nodes) : Bool × Nodes :=
  if grandson.name ≠ "res" then (true, nodes)
  else
    let id := xmlGetProp grandson.props "id"
    let name := xmlGetProp grandson.props "name"
    let persistMode := xmlGetProp grandson.props "switch"
    if !CheckGovResourceTag id name persistMode then (false, nodes)
    else
      let resId := intProp id 0
      if (nodes.lookup resId).isSome then (true, nodes)
      else
        let (loaded, govResNode) := TraversalGovResource (intProp persistMode 0)
          grandson.children (GovResNode.new resId (intProp persistMode 0))
        (loaded, nodes.insert resId (.gov govResNode))

/-! ## The checks of the whole map -/

def CheckPairResIdValid (nodes : Nodes) : Bool :=
  nodes.entries.all fun entry =>
    match entry.2 with
    | .gov _ => true
    | .res resNode =>
        !(resNode.pair != INVALID_VALUE && (nodes.lookup resNode.pair).isNone)

def CheckDefValid (nodes : Nodes) : Bool :=
  nodes.entries.all fun entry =>
    !(decide (entry.2.base.available ≠ ∅) &&
      decide (entry.2.base.defaultValue ∉ entry.2.base.available))

/-! ## Loading -/

/-- Load one after the other, up to the first that fails. -/
def loadEach {α : Type} (load : α → Nodes → Bool × Nodes) : List α → Nodes → Bool × Nodes
  | [], nodes => (true, nodes)
  | element :: rest, nodes =>
      let (loaded, nodes) := load element nodes
      if loaded then loadEach load rest nodes else (false, nodes)

def LoadResource (child : Group) (nodes : Nodes) : Bool × Nodes :=
  let (loaded, nodes) := loadEach
    (fun grandson nodes =>
      if grandson.name = "res" then TraversalFreqResource grandson nodes else (true, nodes))
    child.children nodes
  (loaded && CheckPairResIdValid nodes && CheckDefValid nodes, nodes)

def LoadGovResource (child : Group) (nodes : Nodes) : Bool × Nodes :=
  let (loaded, nodes) := loadEach loadGovElement child.children nodes
  (loaded && CheckDefValid nodes, nodes)

def ParseResourceXmlFile (groups : List Group) (nodes : Nodes) : Bool × Nodes :=
  loadEach
    (fun child nodes =>
      if child.name = "Resource" then LoadResource child nodes
      else if child.name = "GovResource" then LoadGovResource child nodes
      else (true, nodes))
    groups nodes

def LoadConfigXmlFile (file : Document) (nodes : Nodes) : Bool × Nodes :=
  if file.path = "" then (false, nodes)
  else
    match file.root with
    | none => (false, nodes)
    | some (name, groups) =>
        if name ≠ "Configs" then (false, nodes)
        else if SOCPERF_RESOURCE_CONFIG_XML.toList <:+: file.path.toList then
          ParseResourceXmlFile groups nodes
        else (true, nodes)

/-- `SocPerfConfig::Init` on the files of all layers; they are loaded in reverse order. -/
def SocPerfConfig_Init (cfgFiles : List Document) : Bool × Nodes :=
  loadEach LoadConfigXmlFile cfgFiles.reverse ∅

end ResSched.SocPerfExecutor
