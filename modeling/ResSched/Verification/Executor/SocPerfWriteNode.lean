import ResSched.Library.Transition
import Mathlib.Data.List.TakeWhile
import ResSched.Model.Executor.SocPerfWriteNode
import ResSched.Verification.Executor.SocPerfConfig

/-! # Safe writing of the nodes of the frequency executor -/

namespace ResSched.SocPerfExecutor

open Transition

/-! ## The specification -/

/-- The pairs of resource id and value in the order they are served. -/
def Request.pairs (request : Request) : List (Int × Int) :=
  request.resIdVec.zip request.valueVec

def serve (executor : Executor) (pair : Int × Int) : Option Executor :=
  UpdateResIdCurrentValue executor pair.1 pair.2

/-- The level that a request for `value` reads. -/
def levelRead (defaultValue value : Int) : Int :=
  if value = NODE_DEFAULT_VALUE then defaultValue else value

/-- What is read under the level, if there is anything, has one string a path. -/
def EntryComplete (govResNode : GovResNode) (level : Int) : Prop :=
  govResNode.persistMode ≠ REPORT_TO_PERFSO → ∀ strs,
    govResNode.levelToStr.lookup level = some strs → strs.length = govResNode.paths.length

/-- The default level of a resource with something to write is there, with one string a path. -/
def DefaultPresent (govResNode : GovResNode) : Prop :=
  govResNode.persistMode ≠ REPORT_TO_PERFSO → govResNode.paths ≠ [] → ∃ strs,
    govResNode.levelToStr.lookup govResNode.defaultValue = some strs ∧
      strs.length = govResNode.paths.length

/-- Serving a pair reads what it needs and changes no acceptance. -/
structure PairSafe (executor : Executor) (pair : Int × Int) : Prop where
  inRange : (serve executor pair).isSome
  complete : ∀ govResNode,
    executor.resourceNodeInfo_.lookup pair.1 = some (some (.gov govResNode)) →
      EntryComplete govResNode (levelRead govResNode.defaultValue pair.2)
  unknown : IsValidResId executor pair.1 = false → ∀ after, serve executor pair = some after →
    after.written = executor.written
  accepted : ∀ after, serve executor pair = some after → ∀ resId,
    IsValidResId after resId = IsValidResId executor resId ∧
      IsGovResId after resId = IsGovResId executor resId

/-- The initialisation and the requests after it read nothing outside a vector and go through no
null pointer. -/
structure WritesSafe (cfgFiles : List Document) (requests : List Request) : Prop where
  defaults : ∀ resId govResNode,
    (SocPerfConfig_Init cfgFiles).2.lookup resId = some (.gov govResNode) →
      DefaultPresent govResNode
  started : (InitThreadWraps cfgFiles).isSome
  served : ((InitThreadWraps cfgFiles).bind fun executor =>
    requests.foldlM WriteNodeThreadWraps executor).isSome
  pairs : EachStep (attempt serve)
    (fun executor pair => ∃ before, executor = some before ∧ PairSafe before pair)
    (InitThreadWraps cfgFiles) (requests.flatMap Request.pairs)

/-- No path follows the first node of the level. -/
def ResElement.LevelComplete (element : ResElement) (level : Int) : Prop :=
  element.persistMode = REPORT_TO_PERFSO ∨
    ∀ child ∈ fromLevel level element.govChildren, child.isPath = false

/-- The element has no path, or has nodes of its default level, the first after all paths. -/
def ResElement.Writable (element : ResElement) : Prop :=
  element.persistMode = REPORT_TO_PERFSO ∨
    (∀ child ∈ element.govChildren, child.isPath = false) ∨
    (∃ child ∈ element.govChildren, child.isNodeOf (defaultOf element.govChildren) = true) ∧
      element.LevelComplete (defaultOf element.govChildren)

/-- The resource is configured, and no path of a governor resource follows the first node of the
level that the pair reads. -/
structure Servable (cfgFiles : List Document) (pair : Int × Int) : Prop where
  known : ((SocPerfConfig_Init cfgFiles).2.lookup pair.1).isSome
  complete : ∀ element, Kept cfgFiles element → element.resId = pair.1 →
    element.LevelComplete (levelRead (defaultOf element.govChildren) pair.2)

/-! ## Complete entries -/

theorem Describes.length_eq_iff {element : ResElement} {govResNode : GovResNode}
    (h : Describes element govResNode) {level : Int} {strs : List String}
    (hsome : govResNode.levelToStr.lookup level = some strs) :
    strs.length = govResNode.paths.length ↔
      ∀ child ∈ fromLevel level element.govChildren, child.isPath = false := by
  have hlength := h.present level strs hsome
  have hzero : strs.length = govResNode.paths.length ↔
      (fromLevel level element.govChildren).countP GovChild.isPath = 0 := by omega
  rw [hzero, List.countP_eq_zero]
  simp only [Bool.not_eq_true]

theorem Describes.fromLevel_of_absent {element : ResElement} {govResNode : GovResNode}
    (h : Describes element govResNode) {level : Int}
    (hnone : govResNode.levelToStr.lookup level = none) :
    fromLevel level element.govChildren = [] := by
  rw [fromLevel, List.dropWhile_eq_nil_iff]
  intro child hchild
  rw [(h.absent level).mp hnone child hchild]
  rfl

theorem Describes.entryComplete_iff {element : ResElement} {govResNode : GovResNode}
    (h : Describes element govResNode) (level : Int) :
    EntryComplete govResNode level ↔ element.LevelComplete level := by
  rw [EntryComplete, ResElement.LevelComplete, h.persistMode]
  by_cases hmode : element.persistMode = REPORT_TO_PERFSO
  · simp [hmode]
  · cases hlookup : govResNode.levelToStr.lookup level with
    | none => simp [h.fromLevel_of_absent hlookup]
    | some strs => simp [hmode, h.length_eq_iff hlookup]

theorem Describes.paths_eq_nil_iff {element : ResElement} {govResNode : GovResNode}
    (h : Describes element govResNode) :
    govResNode.paths = [] ↔ ∀ child ∈ element.govChildren, child.isPath = false := by
  rw [← List.length_eq_zero_iff, h.paths, List.countP_eq_zero]
  simp only [Bool.not_eq_true]

theorem Describes.defaultPresent_iff {element : ResElement} {govResNode : GovResNode}
    (h : Describes element govResNode) :
    DefaultPresent govResNode ↔ element.Writable := by
  rw [DefaultPresent, ResElement.Writable, ResElement.LevelComplete, h.persistMode,
    h.defaultValue, ← h.paths_eq_nil_iff]
  by_cases hmode : element.persistMode = REPORT_TO_PERFSO
  · simp [hmode]
  by_cases hpaths : govResNode.paths = []
  · simp [hpaths]
  cases hlookup : govResNode.levelToStr.lookup (defaultOf element.govChildren) with
  | none =>
      have habsent := (h.absent _).mp hlookup
      simp only [hmode, hpaths, reduceCtorEq, false_and, exists_false, false_or, ne_eq,
        not_false_eq_true, true_imp_iff, false_iff]
      rintro ⟨⟨child, hchild, hnode⟩, _⟩
      rw [habsent child hchild] at hnode
      cases hnode
  | some strs =>
      have hnode : ∃ child ∈ element.govChildren,
          child.isNodeOf (defaultOf element.govChildren) = true := by
        by_contra hmissing
        have habsent : ∀ child ∈ element.govChildren,
            child.isNodeOf (defaultOf element.govChildren) = false := by simpa using hmissing
        rw [(h.absent _).mpr habsent] at hlookup
        cases hlookup
      simp [hmode, hpaths, hnode, h.length_eq_iff hlookup]

/-! ## Writing -/

theorem at_of_lookup {executor : Executor} {resId : Int} {node : Option ResourceNode}
    (hsome : executor.resourceNodeInfo_.lookup resId = some node) :
    executor.at resId = (node, executor) := by
  rw [Executor.at, hsome]

theorem WriteNode_of_known {executor : Executor} {resId : Int}
    (hknown : (executor.resourceNodeInfo_.lookup resId).isSome) (filePath value : String) :
    (WriteNode executor resId filePath value).resourceNodeInfo_ = executor.resourceNodeInfo_ := by
  obtain ⟨node, hsome⟩ := Option.isSome_iff_exists.mp hknown
  rw [WriteNode, at_of_lookup hsome]
  cases node with
  | none => rfl
  | some node =>
      dsimp only
      split_ifs
      · rfl
      · rfl

/-- Enough strings are read without fault, and the resources stay as they are. -/
theorem writePaths_of_known {resId : Int} {paths strs : List String} {executor : Executor}
    (hknown : (executor.resourceNodeInfo_.lookup resId).isSome)
    (hlength : paths.length ≤ strs.length) :
    ∃ after, writePaths resId paths strs executor = some after ∧
      after.resourceNodeInfo_ = executor.resourceNodeInfo_ := by
  induction paths generalizing strs executor with
  | nil => exact ⟨executor, by rw [writePaths], rfl⟩
  | cons path paths ih =>
      cases strs with
      | nil => simp at hlength
      | cons str strs =>
          have hkept := WriteNode_of_known hknown path str
          rw [← hkept] at hknown
          rw [writePaths, ← hkept]
          exact ih hknown (by simpa using hlength)

/-! ## Initialisation -/

/-- The resources are those of the configuration. -/
def Configured (cfgFiles : List Document) (executor : Executor) : Prop :=
  executor.resourceNodeInfo_ = AssocMap.map some (SocPerfConfig_Init cfgFiles).2

theorem Configured.lookup {cfgFiles : List Document} {executor : Executor}
    (h : Configured cfgFiles executor) (resId : Int) :
    executor.resourceNodeInfo_.lookup resId =
      ((SocPerfConfig_Init cfgFiles).2.lookup resId).map some := by
  rw [h, AssocMap.lookup_map]

theorem Configured.known {cfgFiles : List Document} {executor : Executor}
    (h : Configured cfgFiles executor) {resId : Int} {node : ResourceNode}
    (hsome : (SocPerfConfig_Init cfgFiles).2.lookup resId = some node) :
    (executor.resourceNodeInfo_.lookup resId).isSome := by
  rw [h.lookup, hsome]
  rfl

theorem exists_InitResourceNodeInfo {cfgFiles : List Document} {executor : Executor}
    (h : Configured cfgFiles executor) {resId : Int} {node : ResourceNode}
    (hsome : (SocPerfConfig_Init cfgFiles).2.lookup resId = some node)
    (hdefault : ∀ govResNode, node = .gov govResNode → DefaultPresent govResNode) :
    ∃ after, InitResourceNodeInfo executor (some node) = some after ∧
      Configured cfgFiles after := by
  have hknown := h.known hsome
  rw [← lookup_ownId hsome] at hknown
  cases node with
  | res resNode =>
      rw [InitResourceNodeInfo]
      split_ifs
      · exact ⟨executor, rfl, h⟩
      · exact ⟨_, rfl, (WriteNode_of_known hknown _ _).trans h⟩
  | gov govResNode =>
      rw [InitResourceNodeInfo]
      split_ifs with hmode
      · exact ⟨executor, rfl, h⟩
      · have hlength : govResNode.paths.length ≤
            ((govResNode.levelToStr.lookup govResNode.defaultValue).getD []).length := by
          by_cases hpaths : govResNode.paths = []
          · simp [hpaths]
          · obtain ⟨strs, hlookup, hlength⟩ := hdefault govResNode rfl hmode hpaths
            rw [hlookup]
            exact hlength.ge
        obtain ⟨after, hwrite, hkept⟩ := writePaths_of_known hknown hlength
        exact ⟨after, hwrite, hkept.trans h⟩

theorem exists_InitThreadWraps {cfgFiles : List Document}
    (hdefaults : ∀ resId govResNode,
      (SocPerfConfig_Init cfgFiles).2.lookup resId = some (.gov govResNode) →
        DefaultPresent govResNode) :
    ∃ executor, InitThreadWraps cfgFiles = some executor ∧ Configured cfgFiles executor := by
  refine exists_foldlM_of_invariant _ _ ?_ rfl
  intro executor node hnode h
  obtain ⟨entry, hentry, rfl⟩ := List.mem_map.mp hnode
  obtain ⟨⟨resId, node⟩, hmem, rfl⟩ := List.mem_map.mp hentry
  have hsome := (AssocMap.mem_entries_iff _ _ _).mp hmem
  refine exists_InitResourceNodeInfo h hsome ?_
  rintro govResNode rfl
  exact hdefaults _ _ hsome

/-! ## Requests -/

theorem serve_eq {executor : Executor} {pair : Int × Int} {node : ResourceNode}
    (hsome : executor.resourceNodeInfo_.lookup pair.1 = some (some node)) :
    serve executor pair =
      UpdateCurrentValue executor pair.1 (levelRead node.base.defaultValue pair.2) := by
  rw [serve, UpdateResIdCurrentValue, levelRead, at_of_lookup hsome]
  split_ifs
  · rfl
  · rfl

/-- A known resource is served without fault when what is read is complete, and the resources stay
as they are. -/
theorem exists_serve {executor : Executor} {pair : Int × Int} {node : ResourceNode}
    (hsome : executor.resourceNodeInfo_.lookup pair.1 = some (some node))
    (hcomplete : ∀ govResNode, node = .gov govResNode →
      EntryComplete govResNode (levelRead govResNode.defaultValue pair.2)) :
    ∃ after, serve executor pair = some after ∧
      after.resourceNodeInfo_ = executor.resourceNodeInfo_ := by
  have hknown : (executor.resourceNodeInfo_.lookup pair.1).isSome := by
    rw [hsome]
    rfl
  rw [serve_eq hsome, UpdateCurrentValue, IsGovResId, hsome, at_of_lookup hsome]
  cases node with
  | res resNode => exact ⟨_, rfl, WriteNode_of_known hknown _ _⟩
  | gov govResNode =>
      simp only [ResourceNode.isGov, ResourceNode.base, Option.bind_eq_bind, Option.bind_some]
      split_ifs with hmode
      · exact ⟨executor, rfl, rfl⟩
      · cases hlookup : govResNode.levelToStr.lookup
            (levelRead govResNode.defaultValue pair.2) with
        | none => exact ⟨executor, rfl, rfl⟩
        | some strs =>
            have hlength := hcomplete govResNode rfl hmode strs hlookup
            exact writePaths_of_known hknown hlength.ge

/-- Under an id it does not know, the default is served by leaving a null pointer behind, and any
other value goes through that pointer. -/
theorem not_pairSafe_of_unknown {executor : Executor} {pair : Int × Int}
    (hnone : executor.resourceNodeInfo_.lookup pair.1 = none) : ¬ PairSafe executor pair := by
  have hat : executor.at pair.1 = (none,
      { executor with resourceNodeInfo_ := executor.resourceNodeInfo_.insert pair.1 none }) := by
    rw [Executor.at, hnone]
  intro hsafe
  by_cases hvalue : pair.2 = NODE_DEFAULT_VALUE
  · have hserve : serve executor pair = some
        { executor with resourceNodeInfo_ := executor.resourceNodeInfo_.insert pair.1 none } := by
      rw [serve, UpdateResIdCurrentValue, if_pos hvalue, hat]
    have haccepted := (hsafe.accepted _ hserve pair.1).1
    simp [IsValidResId, hnone] at haccepted
  · have hserve : serve executor pair = none := by
      rw [serve, UpdateResIdCurrentValue, if_neg hvalue, UpdateCurrentValue, IsGovResId, hnone, hat]
      rfl
    have hinRange := hsafe.inRange
    rw [hserve] at hinRange
    cases hinRange

theorem IsValidResId_congr {executor after : Executor}
    (hkept : after.resourceNodeInfo_ = executor.resourceNodeInfo_) (resId : Int) :
    IsValidResId after resId = IsValidResId executor resId ∧
      IsGovResId after resId = IsGovResId executor resId := by
  rw [IsValidResId, IsValidResId, IsGovResId, IsGovResId, hkept]
  exact ⟨rfl, rfl⟩

theorem Servable.exists_serve {cfgFiles : List Document} {executor : Executor}
    {pair : Int × Int} (hpair : Servable cfgFiles pair) (h : Configured cfgFiles executor) :
    ∃ after, serve executor pair = some after ∧ Configured cfgFiles after := by
  obtain ⟨node, hsome⟩ := Option.isSome_iff_exists.mp hpair.known
  have hlookup : executor.resourceNodeInfo_.lookup pair.1 = some (some node) := by
    rw [h.lookup, hsome]
    rfl
  obtain ⟨after, hserve, hkept⟩ := SocPerfExecutor.exists_serve hlookup (by
    rintro govResNode rfl
    obtain ⟨element, helement, hid, hdescribes⟩ := exists_kept_of_lookup hsome
    rw [hdescribes.entryComplete_iff, hdescribes.defaultValue]
    exact hpair.complete element helement hid)
  exact ⟨after, hserve, hkept.trans h⟩

theorem pairSafe_iff {cfgFiles : List Document} {executor : Executor}
    (h : Configured cfgFiles executor) (pair : Int × Int) :
    PairSafe executor pair ↔ Servable cfgFiles pair := by
  constructor
  · intro hsafe
    constructor
    · rw [← Option.ne_none_iff_isSome]
      intro hnone
      refine not_pairSafe_of_unknown ?_ hsafe
      rw [h.lookup, hnone]
      rfl
    · rintro element hkept hid
      obtain ⟨govResNode, hsome, hdescribes⟩ := hkept.exists_lookup
      have hlookup : executor.resourceNodeInfo_.lookup pair.1 =
          some (some (.gov govResNode)) := by
        rw [h.lookup, ← hid, hsome]
        rfl
      have hcomplete := hsafe.complete govResNode hlookup
      rwa [hdescribes.entryComplete_iff, hdescribes.defaultValue] at hcomplete
  · intro hpair
    obtain ⟨after, hserve, hconfigured⟩ := hpair.exists_serve h
    have hkept : after.resourceNodeInfo_ = executor.resourceNodeInfo_ :=
      hconfigured.trans h.symm
    constructor
    · rw [hserve]
      rfl
    · intro govResNode hlookup
      rw [h.lookup, Option.map_eq_some_iff] at hlookup
      obtain ⟨node, hsome, hnode⟩ := hlookup
      obtain rfl := Option.some.inj hnode
      obtain ⟨element, helement, hid, hdescribes⟩ := exists_kept_of_lookup hsome
      rw [hdescribes.entryComplete_iff, hdescribes.defaultValue]
      exact hpair.complete element helement hid
    · intro hunknown
      have hknown := hpair.known
      rw [IsValidResId, h.lookup, Option.isSome_map, hknown] at hunknown
      cases hunknown
    · intro after' hserve'
      obtain rfl := Option.some.inj (hserve.symm.trans hserve')
      exact IsValidResId_congr hkept

theorem exists_WriteNodeThreadWraps {cfgFiles : List Document} {executor : Executor}
    {request : Request} (hpairs : ∀ pair ∈ request.pairs, Servable cfgFiles pair)
    (h : Configured cfgFiles executor) :
    ∃ after, WriteNodeThreadWraps executor request = some after ∧ Configured cfgFiles after :=
  exists_foldlM_of_invariant request.pairs executor
    (fun _ pair hpair hconfigured => (hpairs pair hpair).exists_serve hconfigured) h

theorem eachStep_pairSafe_iff {cfgFiles : List Document} {executor : Executor}
    (h : Configured cfgFiles executor) (pairs : List (Int × Int)) :
    EachStep (attempt serve)
        (fun executor pair => ∃ before, executor = some before ∧ PairSafe before pair)
        (some executor) pairs ↔
      ∀ pair ∈ pairs, Servable cfgFiles pair := by
  rw [← eachStep_iff_forall_mem (attempt serve) (Servable cfgFiles) pairs (some executor)]
  refine eachStep_iff_of_invariant (attempt serve)
    (R := fun executor => ∃ before, executor = some before ∧ Configured cfgFiles before)
    ?_ ?_ pairs (some executor) ⟨executor, rfl, h⟩
  · rintro _ pair ⟨before, rfl, hconfigured⟩
    rw [← pairSafe_iff hconfigured pair]
    constructor
    · rintro ⟨_, heq, hsafe⟩
      obtain rfl := Option.some.inj heq
      exact hsafe
    · intro hsafe
      exact ⟨before, rfl, hsafe⟩
  · rintro _ pair ⟨before, rfl, hconfigured⟩ hpair
    exact hpair.exists_serve hconfigured

/-! ## The main result -/

/-- The writes are safe if and only if every element with a governor record can be written and
every pair asks a configured resource for a level that is complete. -/
theorem writesSafe_iff (cfgFiles : List Document) (requests : List Request) :
    WritesSafe cfgFiles requests ↔
      (∀ element, Kept cfgFiles element → element.Writable) ∧
        ∀ request ∈ requests, ∀ pair ∈ request.pairs, Servable cfgFiles pair := by
  have hmem : (∀ pair ∈ requests.flatMap Request.pairs, Servable cfgFiles pair) ↔
      ∀ request ∈ requests, ∀ pair ∈ request.pairs, Servable cfgFiles pair := by
    simp only [List.mem_flatMap]
    grind
  rw [← hmem]
  constructor
  · intro hsafe
    obtain ⟨executor, hstarted, hconfigured⟩ := exists_InitThreadWraps hsafe.defaults
    constructor
    · intro element hkept
      obtain ⟨govResNode, hsome, hdescribes⟩ := hkept.exists_lookup
      exact hdescribes.defaultPresent_iff.mp (hsafe.defaults _ _ hsome)
    · have hpairs := hsafe.pairs
      rw [hstarted] at hpairs
      exact (eachStep_pairSafe_iff hconfigured _).mp hpairs
  · rintro ⟨hwritable, hpairs⟩
    have hdefaults : ∀ resId govResNode,
        (SocPerfConfig_Init cfgFiles).2.lookup resId = some (.gov govResNode) →
          DefaultPresent govResNode := by
      intro resId govResNode hsome
      obtain ⟨element, hkept, _, hdescribes⟩ := exists_kept_of_lookup hsome
      exact hdescribes.defaultPresent_iff.mpr (hwritable element hkept)
    obtain ⟨executor, hstarted, hconfigured⟩ := exists_InitThreadWraps hdefaults
    constructor
    · exact hdefaults
    · rw [hstarted]
      rfl
    · rw [hstarted, Option.bind_some]
      obtain ⟨after, hserved, _⟩ := exists_foldlM_of_invariant requests executor
        (fun _ request hrequest hconfigured => exists_WriteNodeThreadWraps
          (hmem.mp hpairs request hrequest) hconfigured) hconfigured
      rw [hserved]
      rfl
    · rw [hstarted]
      exact (eachStep_pairSafe_iff hconfigured _).mpr hpairs

/-- A governor resource whose second path follows the node of its default level. -/
def latePathConfig : Document where
  path := "/system/etc/soc_perf/socperf_resource_config.xml"
  root := some ("Configs", [
    { name := "GovResource"
      children := [
        { name := "res"
          props := [("id", "2000"), ("name", "gov_cpu")]
          children := [
            ⟨"default", [], some "0"⟩,
            ⟨"path", [], some "/sys/first"⟩,
            ⟨"node", [("level", "0")], some "1"⟩,
            ⟨"path", [], some "/sys/second"⟩] }] }])

/-- The configuration is accepted, and writing its defaults reads outside the strings; and without
any configuration, a request for a resource goes through a null pointer. -/
theorem writesSafe_counterexample :
    ((SocPerfConfig_Init [latePathConfig]).1 = true ∧ InitThreadWraps [latePathConfig] = none ∧
      ¬ WritesSafe [latePathConfig] []) ∧
    UpdateResIdCurrentValue ⟨∅, []⟩ 2000 5 = none ∧ ¬ WritesSafe [] [⟨[2000], [5], rfl⟩] := by
  have hfault : InitThreadWraps [latePathConfig] = none :=
    Option.isNone_iff_eq_none.mp (by decide +kernel)
  have hserved : ((InitThreadWraps []).bind fun executor =>
      [(⟨[2000], [5], rfl⟩ : Request)].foldlM WriteNodeThreadWraps executor) = none := rfl
  refine ⟨⟨by decide +kernel, hfault, ?_⟩, rfl, ?_⟩
  · intro hsafe
    have hstarted := hsafe.started
    rw [hfault] at hstarted
    cases hstarted
  · intro hsafe
    have hsome := hsafe.served
    rw [hserved] at hsome
    cases hsome

end ResSched.SocPerfExecutor
