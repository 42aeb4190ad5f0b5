import ResSched.Verification.Executor.GovResource

/-! # What the frequency executor keeps of its configuration

Loading is a sequence of steps, one for every element and every check, that ends at the first
step that fails.
-/

namespace ResSched.SocPerfExecutor

/-! ## The steps of loading -/

inductive LoadStep where
  | reject
  | freq (grandson : ResElement)
  | gov (grandson : ResElement)
  | checkPair
  | checkDef

def LoadStep.load : LoadStep → Nodes → Bool × Nodes
  | .reject, nodes => (false, nodes)
  | .freq grandson, nodes =>
      if grandson.name = "res" then TraversalFreqResource grandson nodes else (true, nodes)
  | .gov grandson, nodes => loadGovElement grandson nodes
  | .checkPair, nodes => (CheckPairResIdValid nodes, nodes)
  | .checkDef, nodes => (CheckDefValid nodes, nodes)

def groupSteps (child : Group) : List LoadStep :=
  if child.name = "Resource" then child.children.map .freq ++ [.checkPair, .checkDef]
  else if child.name = "GovResource" then child.children.map .gov ++ [.checkDef]
  else []

def documentSteps (file : Document) : List LoadStep :=
  if file.path = "" then [.reject]
  else
    match file.root with
    | none => [.reject]
    | some (name, groups) =>
        if name ≠ "Configs" then [.reject]
        else if SOCPERF_RESOURCE_CONFIG_XML.toList <:+: file.path.toList then
          groups.flatMap groupSteps
        else []

def loadSteps (cfgFiles : List Document) : List LoadStep :=
  cfgFiles.reverse.flatMap documentSteps

def WellTagged (element : ResElement) : Prop :=
  element.name = "res" ∧
    CheckGovResourceTag (xmlGetProp element.props "id") (xmlGetProp element.props "name")
      (xmlGetProp element.props "switch") = true

/-- Loading reaches the element, whose id is new then. -/
structure ReachedAfter (nodes : Nodes) (front : List LoadStep) (element : ResElement) : Prop where
  loaded : (loadEach LoadStep.load front nodes).1 = true
  wellTagged : WellTagged element
  new : (loadEach LoadStep.load front nodes).2.lookup element.resId = none

/-- The governor elements the configuration keeps a record of. -/
def Kept (cfgFiles : List Document) (element : ResElement) : Prop :=
  ∃ front rest, loadSteps cfgFiles = front ++ .gov element :: rest ∧ ReachedAfter ∅ front element

/-! ## Loading one after the other -/

section

variable {α β : Type}

theorem loadEach_cons_of_loaded {load : α → Nodes → Bool × Nodes} {element : α} {nodes : Nodes}
    (hload : (load element nodes).1 = true) (rest : List α) :
    loadEach load (element :: rest) nodes = loadEach load rest (load element nodes).2 := by
  rw [loadEach]
  simp only [hload, if_true]

theorem loadEach_cons_of_failed {load : α → Nodes → Bool × Nodes} {element : α} {nodes : Nodes}
    (hload : (load element nodes).1 = false) (rest : List α) :
    loadEach load (element :: rest) nodes = load element nodes := by
  rw [loadEach]
  simp [hload, Prod.ext_iff]

theorem loadEach_cons_cases (load : α → Nodes → Bool × Nodes) (element : α) (rest : List α)
    (nodes : Nodes) :
    loadEach load (element :: rest) nodes = load element nodes ∨
      loadEach load (element :: rest) nodes = loadEach load rest (load element nodes).2 := by
  cases hload : (load element nodes).1 with
  | false => exact .inl (loadEach_cons_of_failed hload rest)
  | true => exact .inr (loadEach_cons_of_loaded hload rest)

/-- What every element keeps holds after all of them. -/
theorem loadEach_invariant {load : α → Nodes → Bool × Nodes} {P : Nodes → Prop}
    (hload : ∀ element nodes, P nodes → P (load element nodes).2) (elements : List α)
    (nodes : Nodes) (h : P nodes) : P (loadEach load elements nodes).2 := by
  induction elements generalizing nodes with
  | nil => exact h
  | cons element rest ih =>
      have hnext := hload element nodes h
      rcases loadEach_cons_cases load element rest nodes with hlast | hrest
      · rwa [hlast]
      · rw [hrest]
        exact ih _ hnext

theorem loadEach_cons_of_invariant {load : α → Nodes → Bool × Nodes} {P : Nodes → Prop}
    (hload : ∀ element nodes, P nodes → P (load element nodes).2) {element : α} {nodes : Nodes}
    (rest : List α) (h : P (load element nodes).2) :
    P (loadEach load (element :: rest) nodes).2 := by
  rcases loadEach_cons_cases load element rest nodes with hlast | hrest
  · rwa [hlast]
  · rw [hrest]
    exact loadEach_invariant hload rest _ h

theorem loadEach_append (load : α → Nodes → Bool × Nodes) (front rest : List α) (nodes : Nodes) :
    loadEach load (front ++ rest) nodes =
      if (loadEach load front nodes).1 then loadEach load rest (loadEach load front nodes).2
      else loadEach load front nodes := by
  induction front generalizing nodes with
  | nil => rfl
  | cons element front ih =>
      cases hload : (load element nodes).1 with
      | false => simp [loadEach_cons_of_failed hload, hload]
      | true =>
          rw [List.cons_append, loadEach_cons_of_loaded hload, loadEach_cons_of_loaded hload]
          exact ih (load element nodes).2

theorem loadEach_flatMap (load : α → Nodes → Bool × Nodes) (loadPart : β → Nodes → Bool × Nodes)
    (parts : α → List β) (hparts : ∀ element nodes,
      load element nodes = loadEach loadPart (parts element) nodes)
    (elements : List α) (nodes : Nodes) :
    loadEach load elements nodes = loadEach loadPart (elements.flatMap parts) nodes := by
  induction elements generalizing nodes with
  | nil => rfl
  | cons element rest ih =>
      rw [List.flatMap_cons, loadEach_append, ← hparts]
      cases hload : (load element nodes).1 with
      | false => simp [loadEach_cons_of_failed hload]
      | true => simpa [loadEach_cons_of_loaded hload] using ih (load element nodes).2

theorem loadEach_map (loadPart : β → Nodes → Bool × Nodes) (part : α → β) (elements : List α)
    (nodes : Nodes) :
    loadEach (fun element nodes => loadPart (part element) nodes) elements nodes =
      loadEach loadPart (elements.map part) nodes := by
  induction elements generalizing nodes with
  | nil => rfl
  | cons element rest ih => simp only [List.map_cons, loadEach, ih]

end

theorem LoadResource_eq (child : Group) (nodes : Nodes) :
    LoadResource child nodes = loadEach LoadStep.load
      (child.children.map .freq ++ [.checkPair, .checkDef]) nodes := by
  have hchecks : ∀ loaded : Bool × Nodes,
      (loaded.1 && CheckPairResIdValid loaded.2 && CheckDefValid loaded.2, loaded.2) =
        if loaded.1 then loadEach LoadStep.load [.checkPair, .checkDef] loaded.2 else loaded := by
    rintro ⟨loaded, nodes⟩
    cases loaded with
    | false => rfl
    | true =>
        cases hpair : CheckPairResIdValid nodes with
        | false => simp [loadEach, LoadStep.load, hpair]
        | true => cases hdef : CheckDefValid nodes <;> simp [loadEach, LoadStep.load, hpair, hdef]
  rw [loadEach_append, ← loadEach_map LoadStep.load LoadStep.freq]
  exact hchecks _

theorem LoadGovResource_eq (child : Group) (nodes : Nodes) :
    LoadGovResource child nodes =
      loadEach LoadStep.load (child.children.map .gov ++ [.checkDef]) nodes := by
  have hchecks : ∀ loaded : Bool × Nodes, (loaded.1 && CheckDefValid loaded.2, loaded.2) =
      if loaded.1 then loadEach LoadStep.load [.checkDef] loaded.2 else loaded := by
    rintro ⟨loaded, nodes⟩
    cases loaded with
    | false => rfl
    | true => cases hdef : CheckDefValid nodes <;> simp [loadEach, LoadStep.load, hdef]
  rw [loadEach_append, ← loadEach_map LoadStep.load LoadStep.gov]
  exact hchecks _

theorem ParseResourceXmlFile_eq (groups : List Group) (nodes : Nodes) :
    ParseResourceXmlFile groups nodes =
      loadEach LoadStep.load (groups.flatMap groupSteps) nodes := by
  refine loadEach_flatMap _ _ _ ?_ groups nodes
  intro child nodes
  rw [groupSteps]
  split_ifs
  · exact LoadResource_eq child nodes
  · exact LoadGovResource_eq child nodes
  · rfl

theorem LoadConfigXmlFile_eq (file : Document) (nodes : Nodes) :
    LoadConfigXmlFile file nodes = loadEach LoadStep.load (documentSteps file) nodes := by
  rw [LoadConfigXmlFile, documentSteps]
  by_cases hpath : file.path = ""
  · rw [if_pos hpath, if_pos hpath]
    rfl
  · rw [if_neg hpath, if_neg hpath]
    cases file.root with
    | none => rfl
    | some root =>
        dsimp only
        split_ifs
        · rfl
        · exact ParseResourceXmlFile_eq root.2 nodes
        · rfl

theorem SocPerfConfig_Init_eq (cfgFiles : List Document) :
    SocPerfConfig_Init cfgFiles = loadEach LoadStep.load (loadSteps cfgFiles) ∅ :=
  loadEach_flatMap _ _ _ LoadConfigXmlFile_eq cfgFiles.reverse ∅

/-! ## What a step inserts -/

/-- A step leaves the map as it was, or inserts one record under its own id, which was not in the
map; a governor record describes the element of the step. -/
inductive Inserts (step : LoadStep) (nodes : Nodes) : Nodes → Prop where
  | nothing : Inserts step nodes nodes
  | record (resId : Int) (node : ResourceNode) : nodes.lookup resId = none →
      node.base.id = resId → (∀ govResNode, node = .gov govResNode →
        ∃ element, step = .gov element ∧ WellTagged element ∧ element.resId = resId ∧
          Describes element govResNode) →
      Inserts step nodes (nodes.insert resId node)

/-- What the content of an element adds to a record; the rest stays. -/
structure FreqLoaded (children : List Leaf) (resNode resNode' : ResNode) : Prop where
  id : resNode'.id = resNode.id
  pair : resNode'.pair = resNode.pair
  isMaxValue : resNode'.isMaxValue = resNode.isMaxValue
  persistMode : resNode'.persistMode = resNode.persistMode
  default : ∃ text, (freqContent resNode.persistMode children).default = some text ∧
    IsNumber text = true ∧ resNode'.defaultValue = CLibrary.atoll text
  available : match (freqContent resNode.persistMode children).node with
    | none => resNode'.available = resNode.available
    | some node => LoadResourceAvailable node = some resNode'.available

theorem freqLoaded_of_load {children : List Leaf} {resNode resNode' : ResNode}
    (hload : LoadFreqResourceContent children resNode = some resNode') :
    FreqLoaded children resNode resNode' := by
  rw [LoadFreqResourceContent] at hload
  dsimp only at hload
  cases hdefault : (freqContent resNode.persistMode children).default with
  | none => simp [hdefault] at hload
  | some default =>
      simp only [hdefault, Option.ite_none_left_eq_some] at hload
      obtain ⟨hnumber, -, hload⟩ := hload
      have hnumber : IsNumber default = true := by simpa using hnumber
      cases hnode : (freqContent resNode.persistMode children).node with
      | none =>
          simp only [hnode] at hload
          obtain rfl := Option.some.inj hload
          exact ⟨rfl, rfl, rfl, rfl, ⟨default, hdefault, hnumber, rfl⟩, by simp only [hnode]⟩
      | some node =>
          simp only [hnode, Option.map_eq_some_iff] at hload
          obtain ⟨available, havailable, rfl⟩ := hload
          exact ⟨rfl, rfl, rfl, rfl, ⟨default, hdefault, hnumber, rfl⟩,
            by simpa only [hnode] using havailable⟩

theorem load_inserts (step : LoadStep) (nodes : Nodes) :
    Inserts step nodes (step.load nodes).2 := by
  cases step with
  | reject => exact .nothing
  | checkPair => exact .nothing
  | checkDef => exact .nothing
  | freq grandson =>
      rw [LoadStep.load]
      split_ifs with hname
      · rw [TraversalFreqResource]
        dsimp only
        split_ifs with htag hold
        · exact .nothing
        · exact .nothing
        · split
          · exact .nothing
          · next resNode hload =>
              refine .record _ (.res resNode) ?_ (freqLoaded_of_load hload).id ?_
              · simpa using hold
              · intro govResNode hgov
                cases hgov
      · exact .nothing
  | gov grandson =>
      rw [LoadStep.load, loadGovElement]
      dsimp only
      split_ifs with hname htag hold
      · exact .nothing
      · exact .nothing
      · exact .nothing
      · have hdescribes := describes_TraversalGovResource grandson
        have hnew : nodes.lookup grandson.resId = none := Option.not_isSome_iff_eq_none.mp hold
        refine .record grandson.resId _ hnew hdescribes.id ?_
        intro govResNode hgov
        cases hgov
        refine ⟨grandson, rfl, ⟨?_, ?_⟩, rfl, hdescribes⟩
        · simpa using hname
        · simpa using htag

theorem Inserts.lookup_of_some {step : LoadStep} {nodes nodes' : Nodes}
    (h : Inserts step nodes nodes') {resId : Int} {node : ResourceNode}
    (hsome : nodes.lookup resId = some node) : nodes'.lookup resId = some node := by
  cases h with
  | nothing => exact hsome
  | record resId' node' hnone hid hgov =>
      have hne : resId ≠ resId' := by
        rintro rfl
        rw [hnone] at hsome
        cases hsome
      rw [AssocMap.lookup_insert_ite, if_neg hne, hsome]

theorem Inserts.gov_of_lookup {step : LoadStep} {nodes nodes' : Nodes}
    (h : Inserts step nodes nodes') {resId : Int} {govResNode : GovResNode}
    (hnone : nodes.lookup resId = none)
    (hsome : nodes'.lookup resId = some (.gov govResNode)) :
    ∃ element, step = .gov element ∧ WellTagged element ∧ element.resId = resId ∧
      Describes element govResNode := by
  cases h with
  | nothing =>
      rw [hnone] at hsome
      cases hsome
  | record resId' node hnone' hid hgov =>
      rw [AssocMap.lookup_insert_ite] at hsome
      split_ifs at hsome with heq
      · rw [heq]
        exact hgov govResNode (Option.some.inj hsome)
      · rw [hnone] at hsome
        cases hsome

/-- Every record has the id it is stored under. -/
def OwnIds (nodes : Nodes) : Prop :=
  ∀ resId node, nodes.lookup resId = some node → node.base.id = resId

theorem Inserts.ownIds {step : LoadStep} {nodes nodes' : Nodes} (h : Inserts step nodes nodes')
    (hown : OwnIds nodes) : OwnIds nodes' := by
  cases h with
  | nothing => exact hown
  | record resId node hnone hid hgov =>
      intro resId' node' hlookup
      rw [AssocMap.lookup_insert_ite] at hlookup
      split_ifs at hlookup with heq
      · obtain rfl := Option.some.inj hlookup
        exact hid.trans heq.symm
      · exact hown resId' node' hlookup

/-! ## What loading keeps -/

theorem loadEach_ownIds (steps : List LoadStep) (nodes : Nodes) (hown : OwnIds nodes) :
    OwnIds (loadEach LoadStep.load steps nodes).2 :=
  loadEach_invariant (fun step nodes => (load_inserts step nodes).ownIds) steps nodes hown

theorem loadEach_lookup_of_some (step : LoadStep) (rest : List LoadStep) {nodes : Nodes}
    {resId : Int} {node : ResourceNode} (hsome : (step.load nodes).2.lookup resId = some node) :
    (loadEach LoadStep.load (step :: rest) nodes).2.lookup resId = some node :=
  loadEach_cons_of_invariant (P := fun nodes => nodes.lookup resId = some node)
    (fun step nodes => (load_inserts step nodes).lookup_of_some) rest hsome

/-- A record that loading adds is the one of the first step that adds one under its id. -/
theorem exists_step_of_lookup (steps : List LoadStep) (nodes : Nodes) {resId : Int}
    {node : ResourceNode} (hnone : nodes.lookup resId = none)
    (hsome : (loadEach LoadStep.load steps nodes).2.lookup resId = some node) :
    ∃ front step rest, steps = front ++ step :: rest ∧
      (loadEach LoadStep.load front nodes).1 = true ∧
      (loadEach LoadStep.load front nodes).2.lookup resId = none ∧
      (step.load (loadEach LoadStep.load front nodes).2).2.lookup resId = some node := by
  induction steps generalizing nodes with
  | nil =>
      rw [loadEach, hnone] at hsome
      cases hsome
  | cons step rest ih =>
      cases hstep : (step.load nodes).2.lookup resId with
      | some node' =>
          have hkept := loadEach_lookup_of_some step rest hstep
          obtain rfl := Option.some.inj (hkept.symm.trans hsome)
          exact ⟨[], step, rest, rfl, rfl, hnone, hstep⟩
      | none =>
          cases hload : (step.load nodes).1 with
          | false =>
              rw [loadEach_cons_of_failed hload, hstep] at hsome
              cases hsome
          | true =>
              rw [loadEach_cons_of_loaded hload] at hsome
              obtain ⟨front, step', rest', rfl, hfront, hnew, hrecord⟩ := ih _ hstep hsome
              refine ⟨step :: front, step', rest', rfl, ?_⟩
              rw [loadEach_cons_of_loaded hload]
              exact ⟨hfront, hnew, hrecord⟩

/-! ## The governor records -/

/-- Every governor record that loading adds is that of an element it reached. -/
theorem loadEach_gov (steps : List LoadStep) (nodes : Nodes) (resId : Int)
    (govResNode : GovResNode) (hnone : nodes.lookup resId = none)
    (hsome : (loadEach LoadStep.load steps nodes).2.lookup resId = some (.gov govResNode)) :
    ∃ front element rest, steps = front ++ .gov element :: rest ∧
      ReachedAfter nodes front element ∧ element.resId = resId ∧
        Describes element govResNode := by
  obtain ⟨front, step, rest, rfl, hfront, hnew, hrecord⟩ :=
    exists_step_of_lookup steps nodes hnone hsome
  obtain ⟨element, rfl, htagged, rfl, hdescribes⟩ :=
    (load_inserts step _).gov_of_lookup hnew hrecord
  exact ⟨front, element, rest, rfl, ⟨hfront, htagged, hnew⟩, rfl, hdescribes⟩

theorem load_gov_of_new {element : ResElement} {nodes : Nodes} (htagged : WellTagged element)
    (hnew : nodes.lookup element.resId = none) :
    ∃ govResNode, ((LoadStep.gov element).load nodes).2.lookup element.resId =
      some (.gov govResNode) ∧ Describes element govResNode := by
  refine ⟨_, ?_, describes_TraversalGovResource element⟩
  rw [LoadStep.load, loadGovElement, if_neg (not_not_intro htagged.1)]
  simp only [htagged.2, Bool.not_true, Bool.false_eq_true, if_false]
  have hold : ¬ (nodes.lookup element.resId).isSome = true := by simp [hnew]
  exact (congrArg (fun loaded : Bool × Nodes => loaded.2.lookup element.resId)
    (if_neg hold)).trans (AList.lookup_insert _)

/-- The governor records of the configuration are those of the kept elements. -/
theorem exists_kept_of_lookup {cfgFiles : List Document} {resId : Int} {govResNode : GovResNode}
    (hsome : (SocPerfConfig_Init cfgFiles).2.lookup resId = some (.gov govResNode)) :
    ∃ element, Kept cfgFiles element ∧ element.resId = resId ∧ Describes element govResNode := by
  rw [SocPerfConfig_Init_eq] at hsome
  obtain ⟨front, element, rest, hsteps, hreached, hid, hdescribes⟩ :=
    loadEach_gov _ _ _ _ (AList.lookup_empty _) hsome
  exact ⟨element, ⟨front, rest, hsteps, hreached⟩, hid, hdescribes⟩

theorem Kept.exists_lookup {cfgFiles : List Document} {element : ResElement}
    (hkept : Kept cfgFiles element) :
    ∃ govResNode,
      (SocPerfConfig_Init cfgFiles).2.lookup element.resId = some (.gov govResNode) ∧
        Describes element govResNode := by
  obtain ⟨front, rest, hsteps, hreached⟩ := hkept
  obtain ⟨govResNode, hlookup, hdescribes⟩ := load_gov_of_new hreached.wellTagged hreached.new
  refine ⟨govResNode, ?_, hdescribes⟩
  rw [SocPerfConfig_Init_eq, hsteps, loadEach_append, if_pos hreached.loaded]
  exact loadEach_lookup_of_some _ rest hlookup

theorem lookup_ownId {cfgFiles : List Document} {resId : Int} {node : ResourceNode}
    (hsome : (SocPerfConfig_Init cfgFiles).2.lookup resId = some node) : node.base.id = resId := by
  rw [SocPerfConfig_Init_eq] at hsome
  refine loadEach_ownIds _ ∅ ?_ resId node hsome
  intro resId node hlookup
  rw [AList.lookup_empty] at hlookup
  cases hlookup

end ResSched.SocPerfExecutor
