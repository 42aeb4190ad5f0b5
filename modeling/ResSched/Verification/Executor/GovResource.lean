import ResSched.Model.Executor.SocPerfConfig

/-! # The record of a governor resource -/

namespace ResSched.SocPerfExecutor

/-! ## What a governor element says -/

/-- A child of a governor element as the loader takes it. -/
inductive GovChild where
  | default (value : Int)
  | path (text : String)
  | node (level : Int) (strs : List String)
  | other

/-- `none` when the loader refuses the child after `paths` paths. -/
def govChild (persistMode : Int) (paths : Nat) (child : Leaf) : Option GovChild :=
  if child.name = "default" then
    match child.content with
    | none => none
    | some value => if IsNumber value then some (.default (CLibrary.atoll value)) else none
  else if persistMode ≠ REPORT_TO_PERFSO ∧ child.name = "path" then child.content.map .path
  else if persistMode ≠ REPORT_TO_PERFSO ∧ child.name = "node" then
    match xmlGetProp child.props "level", child.content with
    | some level, some node =>
        if IsNumber level ∧ (Split node '|').length = paths then
          some (.node (CLibrary.atoll level) (Split node '|'))
        else none
    | _, _ => none
  else some .other

def GovChild.isPath : GovChild → Bool
  | .path _ => true
  | _ => false

/-- A node whose level, cut to 32 bits, is `level`. -/
def GovChild.isNodeOf (level : Int) : GovChild → Bool
  | .node ownLevel _ => CLibrary.toSigned 32 ownLevel == level
  | _ => false

/-- The children up to the first that is refused, when `paths` paths have been read before. -/
def govChildren (persistMode : Int) : Nat → List Leaf → List GovChild
  | _, [] => []
  | paths, child :: rest =>
      match govChild persistMode paths child with
      | none => []
      | some child =>
          child :: govChildren persistMode (if child.isPath then paths + 1 else paths) rest

/-- The last default; `INVALID_VALUE` without one. -/
def defaultOf (children : List GovChild) : Int :=
  children.foldl
    (fun value child =>
      match child with
      | .default value => value
      | _ => value)
    INVALID_VALUE

/-- The first node of the level and all that follows it. -/
def fromLevel (level : Int) (children : List GovChild) : List GovChild :=
  children.dropWhile fun child => !child.isNodeOf level

def ResElement.resId (element : ResElement) : Int :=
  intProp (xmlGetProp element.props "id") 0

def ResElement.persistMode (element : ResElement) : Int :=
  intProp (xmlGetProp element.props "switch") 0

def ResElement.govChildren (element : ResElement) : List GovChild :=
  SocPerfExecutor.govChildren element.persistMode 0 element.children

/-- The record holds what the element says up to the first child that is refused. -/
structure Describes (element : ResElement) (govResNode : GovResNode) : Prop where
  id : govResNode.id = element.resId
  persistMode : govResNode.persistMode = element.persistMode
  defaultValue : govResNode.defaultValue = defaultOf element.govChildren
  paths : govResNode.paths.length = element.govChildren.countP GovChild.isPath
  absent : ∀ level, govResNode.levelToStr.lookup level = none ↔
    ∀ child ∈ element.govChildren, child.isNodeOf level = false
  present : ∀ level strs, govResNode.levelToStr.lookup level = some strs →
    strs.length + (fromLevel level element.govChildren).countP GovChild.isPath =
      govResNode.paths.length

/-! ## One child -/

/-- What an accepted child does to the record. -/
def GovChild.load (govResNode : GovResNode) : GovChild → GovResNode
  | .default value => { govResNode with defaultValue := value }
  | .path text => { govResNode with paths := govResNode.paths ++ [text] }
  | .node level strs =>
      { govResNode with
        available := insert level govResNode.available
        levelToStr :=
          if (govResNode.levelToStr.lookup (CLibrary.toSigned 32 level)).isSome then
            govResNode.levelToStr
          else govResNode.levelToStr.insert (CLibrary.toSigned 32 level) strs }
  | .other => govResNode

/-- The strings an accepted child has for the level. -/
def GovChild.entry (level : Int) : GovChild → Option (List String)
  | .node ownLevel strs => if CLibrary.toSigned 32 ownLevel = level then some strs else none
  | _ => none

/-- A refused child leaves everything but the available levels as it was. -/
theorem loadGovChild_eq (persistMode : Int) (child : Leaf) (govResNode : GovResNode) :
    match govChild persistMode govResNode.paths.length child with
    | some accepted => loadGovChild persistMode child govResNode = (true, accepted.load govResNode)
    | none => ∃ available,
        loadGovChild persistMode child govResNode =
          (false, { govResNode with available := available }) := by
  rw [govChild, loadGovChild]
  by_cases hdefault : child.name = "default"
  · rw [if_pos hdefault, if_pos hdefault]
    cases child.content with
    | none => exact ⟨govResNode.available, rfl⟩
    | some value =>
        by_cases hnumber : IsNumber value = true
        · simp [hnumber, GovChild.load]
        · simp only [hnumber]
          exact ⟨govResNode.available, rfl⟩
  rw [if_neg hdefault, if_neg hdefault]
  by_cases hpath : persistMode ≠ REPORT_TO_PERFSO ∧ child.name = "path"
  · rw [if_pos hpath, if_pos hpath]
    cases child.content with
    | none => exact ⟨govResNode.available, rfl⟩
    | some path => rfl
  rw [if_neg hpath, if_neg hpath]
  by_cases hnode : persistMode ≠ REPORT_TO_PERFSO ∧ child.name = "node"
  · rw [if_pos hnode, if_pos hnode]
    cases xmlGetProp child.props "level" with
    | none => exact ⟨govResNode.available, rfl⟩
    | some level =>
        cases child.content with
        | none => exact ⟨govResNode.available, rfl⟩
        | some node =>
            by_cases hnumber : IsNumber level = true
            · by_cases hlength : (Split node '|').length = govResNode.paths.length
              · simp [hnumber, hlength, LoadGovResourceAvailable, GovChild.load]
              · simp [hnumber, hlength, LoadGovResourceAvailable]
            · simp only [hnumber]
              exact ⟨govResNode.available, rfl⟩
  · rw [if_neg hnode, if_neg hnode]
    rfl

@[simp] theorem length_load_paths (child : GovChild) (govResNode : GovResNode) :
    (child.load govResNode).paths.length =
      if child.isPath then govResNode.paths.length + 1 else govResNode.paths.length := by
  cases child <;> simp [GovChild.load, GovChild.isPath]

theorem lookup_load (child : GovChild) (govResNode : GovResNode) (level : Int) :
    (child.load govResNode).levelToStr.lookup level =
      (govResNode.levelToStr.lookup level).or (child.entry level) := by
  cases child with
  | default value => simp [GovChild.load, GovChild.entry]
  | path text => simp [GovChild.load, GovChild.entry]
  | other => simp [GovChild.load, GovChild.entry]
  | node ownLevel strs =>
      simp only [GovChild.load, GovChild.entry]
      by_cases hlevel : level = CLibrary.toSigned 32 ownLevel
      · subst hlevel
        cases hlookup : govResNode.levelToStr.lookup (CLibrary.toSigned 32 ownLevel) with
        | none => simp
        | some strs' => simp [hlookup]
      · rw [if_neg (Ne.symm hlevel), Option.or_none]
        split_ifs with hold
        · rfl
        · rw [AssocMap.lookup_insert_ite, if_neg hlevel]

theorem isNodeOf_eq (child : GovChild) (level : Int) :
    child.isNodeOf level = (child.entry level).isSome := by
  cases child with
  | node ownLevel strs =>
      by_cases hlevel : CLibrary.toSigned 32 ownLevel = level
      · simp [GovChild.isNodeOf, GovChild.entry, hlevel]
      · simp [GovChild.isNodeOf, GovChild.entry, hlevel]
  | default value => rfl
  | path text => rfl
  | other => rfl

/-! ## All children -/

theorem TraversalGovResource_eq (persistMode : Int) (children : List Leaf)
    (govResNode : GovResNode) :
    ∃ available, (TraversalGovResource persistMode children govResNode).2 =
      { (govChildren persistMode govResNode.paths.length children).foldl
          (fun govResNode child => child.load govResNode) govResNode with
        available := available } := by
  induction children generalizing govResNode with
  | nil => exact ⟨govResNode.available, rfl⟩
  | cons child rest ih =>
      have hchild := loadGovChild_eq persistMode child govResNode
      rw [govChildren, TraversalGovResource]
      cases haccepted : govChild persistMode govResNode.paths.length child with
      | none =>
          simp only [haccepted] at hchild
          obtain ⟨available, hload⟩ := hchild
          rw [hload]
          exact ⟨available, rfl⟩
      | some accepted =>
          simp only [haccepted] at hchild
          obtain ⟨available, hrest⟩ := ih (accepted.load govResNode)
          rw [length_load_paths] at hrest
          rw [hchild]
          exact ⟨available, hrest⟩

theorem length_foldl_load (children : List GovChild) (govResNode : GovResNode) :
    (children.foldl (fun govResNode child => child.load govResNode) govResNode).paths.length =
      govResNode.paths.length + children.countP GovChild.isPath := by
  induction children generalizing govResNode with
  | nil => rfl
  | cons child rest ih =>
      rw [List.foldl_cons, ih, length_load_paths, List.countP_cons]
      split_ifs <;> omega

theorem lookup_foldl_load (children : List GovChild) (govResNode : GovResNode) (level : Int) :
    (children.foldl (fun govResNode child => child.load govResNode)
        govResNode).levelToStr.lookup level =
      (govResNode.levelToStr.lookup level).or (children.findSome? (GovChild.entry level)) := by
  induction children generalizing govResNode with
  | nil => simp
  | cons child rest ih =>
      rw [List.foldl_cons, ih, lookup_load, Option.or_assoc, List.findSome?_cons]
      cases child.entry level <;> simp

theorem defaultValue_foldl_load (children : List GovChild) (govResNode : GovResNode)
    (hnew : govResNode.defaultValue = INVALID_VALUE) :
    (children.foldl (fun govResNode child => child.load govResNode) govResNode).defaultValue =
      defaultOf children := by
  rw [defaultOf, ← hnew]
  clear hnew
  induction children generalizing govResNode with
  | nil => rfl
  | cons child rest ih =>
      rw [List.foldl_cons, List.foldl_cons, ih]
      cases child <;> rfl

theorem persistent_foldl_load (children : List GovChild) (govResNode : GovResNode) :
    (children.foldl (fun govResNode child => child.load govResNode) govResNode).id =
        govResNode.id ∧
      (children.foldl (fun govResNode child => child.load govResNode) govResNode).persistMode =
        govResNode.persistMode := by
  induction children generalizing govResNode with
  | nil => exact ⟨rfl, rfl⟩
  | cons child rest ih =>
      rw [List.foldl_cons, (ih _).1, (ih _).2]
      cases child <;> exact ⟨rfl, rfl⟩

theorem length_of_govChild_node {persistMode : Int} {paths : Nat} {child : Leaf} {level : Int}
    {strs : List String} (haccepted : govChild persistMode paths child = some (.node level strs)) :
    strs.length = paths := by
  rw [govChild] at haccepted
  split_ifs at haccepted with hdefault hpath hnode
  · cases hcontent : child.content with
    | none => simp [hcontent] at haccepted
    | some value => simp [hcontent] at haccepted
  · simp at haccepted
  · cases hlevel : xmlGetProp child.props "level" with
    | none => simp [hlevel] at haccepted
    | some level' =>
        cases hcontent : child.content with
        | none => simp [hlevel, hcontent] at haccepted
        | some node =>
            simp only [hlevel, hcontent, Option.ite_none_right_eq_some, Option.some.injEq,
              GovChild.node.injEq] at haccepted
            obtain ⟨⟨_, hlength⟩, _, rfl⟩ := haccepted
            exact hlength
  · cases haccepted

/-- The strings of a level are as many as the paths before its first node. -/
theorem length_of_findSome_entry (persistMode : Int) (children : List Leaf) (level : Int)
    (strs : List String) : ∀ paths,
      (govChildren persistMode paths children).findSome? (GovChild.entry level) = some strs →
        strs.length +
            (fromLevel level (govChildren persistMode paths children)).countP GovChild.isPath =
          paths + (govChildren persistMode paths children).countP GovChild.isPath := by
  induction children with
  | nil =>
      intro paths hfind
      cases hfind
  | cons child rest ih =>
      intro paths hfind
      rw [govChildren] at hfind ⊢
      cases haccepted : govChild persistMode paths child with
      | none =>
          simp only [haccepted] at hfind
          cases hfind
      | some accepted =>
          simp only [haccepted, List.findSome?_cons] at hfind ⊢
          rw [fromLevel, List.dropWhile_cons, isNodeOf_eq]
          cases hentry : accepted.entry level with
          | none =>
              simp only [hentry] at hfind
              have hrest := ih _ hfind
              rw [fromLevel] at hrest
              simp only [Option.isSome_none, Bool.not_false, if_true, List.countP_cons]
              split_ifs at hrest ⊢ <;> omega
          | some strs' =>
              simp only [hentry] at hfind
              obtain rfl := Option.some.inj hfind
              cases accepted with
              | node ownLevel strs =>
                  simp only [GovChild.entry] at hentry
                  split_ifs at hentry
                  obtain rfl := Option.some.inj hentry
                  have hlength := length_of_govChild_node haccepted
                  simp only [Option.isSome_some, Bool.not_true, Bool.false_eq_true, if_false]
                  omega
              | default value => cases hentry
              | path text => cases hentry
              | other => cases hentry

theorem describes_TraversalGovResource (element : ResElement) :
    Describes element (TraversalGovResource element.persistMode element.children
      (GovResNode.new element.resId element.persistMode)).2 := by
  have heq : ∃ available, (TraversalGovResource element.persistMode element.children
      (GovResNode.new element.resId element.persistMode)).2 =
        { element.govChildren.foldl (fun govResNode child => child.load govResNode)
            (GovResNode.new element.resId element.persistMode) with available := available } :=
    TraversalGovResource_eq _ _ _
  obtain ⟨available, heq⟩ := heq
  have hpaths := length_foldl_load element.govChildren
    (GovResNode.new element.resId element.persistMode)
  have hlookup := lookup_foldl_load element.govChildren
    (GovResNode.new element.resId element.persistMode)
  have hpersistent := persistent_foldl_load element.govChildren
    (GovResNode.new element.resId element.persistMode)
  simp only [GovResNode.new, List.length_nil, Nat.zero_add, AList.lookup_empty,
    Option.none_or] at hpaths hlookup
  rw [heq]
  constructor
  · exact hpersistent.1
  · exact hpersistent.2
  · exact defaultValue_foldl_load _ _ rfl
  · exact hpaths
  · intro level
    simp only [isNodeOf_eq, Option.isSome_eq_false_iff, Option.isNone_iff_eq_none]
    rw [← List.findSome?_eq_none_iff]
    exact Eq.congr_left (hlookup level)
  · intro level strs hsome
    have hlength := length_of_findSome_entry element.persistMode element.children level strs 0
      ((hlookup level).symm.trans hsome)
    rw [Nat.zero_add] at hlength
    exact hlength.trans hpaths.symm

end ResSched.SocPerfExecutor
