import ResSched.Library.DecimalText
import ResSched.Verification.Executor.SocPerfConfig

/-! # Which numbers of the configuration are stored as they are written -/

namespace ResSched.SocPerfExecutor

open CLibrary

/-! ## Numbers and their texts -/

/-- The text denotes the number, and a signed type of `bits` bits holds it. -/
def Denotes (bits : Nat) (text : String) (value : Int) : Prop :=
  IsDecimal text.toList value ∧ -(Nat.pow 2 (bits - 1) : Nat) ≤ value ∧
    value < (Nat.pow 2 (bits - 1) : Nat)

/-- The text has a digit, and the type holds the number it denotes. -/
structure Fits (bits : Nat) (text : String) : Prop where
  notEmpty : text ≠ ""
  notMinus : text ≠ "-"
  range : ∀ value, IsDecimal text.toList value →
    -(Nat.pow 2 (bits - 1) : Nat) ≤ value ∧ value < (Nat.pow 2 (bits - 1) : Nat)

/-- A text that is taken for a number is empty, a minus, or denotes one. -/
theorem isNumber_cases {text : String} (h : IsNumber text = true) :
    text = "" ∨ text = "-" ∨ ∃ value, IsDecimal text.toList value ∧
      ∀ bits, decimal bits text = toSigned bits value := by
  obtain ⟨cs, rfl⟩ : ∃ cs, text = String.ofList cs := ⟨text.toList, String.ofList_toList.symm⟩
  rw [IsNumber, String.toList_ofList] at h
  rw [String.toList_ofList]
  cases cs with
  | nil => exact Or.inl rfl
  | cons c cs =>
      right
      rw [Bool.and_eq_true, Bool.or_eq_true, beq_iff_eq, List.all_eq_true] at h
      obtain ⟨rfl | hc, hdigits⟩ := h
      · by_cases hne : cs = []
        · exact Or.inl (by rw [hne])
        · exact Or.inr ⟨_, ⟨[], cs, by simp, hne, hdigits, Or.inr (Or.inr ⟨rfl, rfl⟩)⟩,
            decimal_minus hdigits⟩
      · have hall : ∀ d ∈ c :: cs, d.isDigit = true := List.forall_mem_cons.mpr ⟨hc, hdigits⟩
        have hne : c :: cs ≠ [] := List.cons_ne_nil c cs
        exact Or.inr ⟨_, ⟨[], c :: cs, by simp, hne, hall, Or.inl ⟨rfl, rfl⟩⟩,
          decimal_digits hne hall⟩

theorem not_isDecimal_empty (value : Int) : ¬ IsDecimal "".toList value := by
  rw [← readDecimal_eq_some_iff]
  simp [readDecimal, splitSign]

theorem not_isDecimal_minus (value : Int) : ¬ IsDecimal "-".toList value := by
  rw [← readDecimal_eq_some_iff]
  have hnone : readDecimal "-".toList = none := by decide
  rw [hnone]
  intro h
  cases h

theorem Denotes.fits {bits : Nat} {text : String} {value : Int} (h : Denotes bits text value) :
    Fits bits text := by
  refine ⟨?_, ?_, ?_⟩
  · rintro rfl
    exact not_isDecimal_empty value h.1
  · rintro rfl
    exact not_isDecimal_minus value h.1
  · intro other hother
    rw [hother.unique h.1]
    exact h.2

/-- A number that fits is converted as it is. -/
theorem Fits.denotes {bits : Nat} {text : String} (h : Fits bits text)
    (hnumber : IsNumber text = true) (hbits : 0 < bits) :
    Denotes bits text (decimal bits text) := by
  rcases isNumber_cases hnumber with hempty | hminus | ⟨value, hdecimal, hconverted⟩
  · exact absurd hempty h.notEmpty
  · exact absurd hminus h.notMinus
  · have hrange := h.range value hdecimal
    rw [hconverted, toSigned_of_fits hbits hrange.1 hrange.2]
    exact ⟨hdecimal, hrange⟩

theorem Fits.mono {text : String} (h : Fits 32 text) : Fits 64 text := by
  have hlong : Nat.pow 2 (64 - 1) = 9223372036854775808 := rfl
  have hint : Nat.pow 2 (32 - 1) = 2147483648 := rfl
  refine ⟨h.notEmpty, h.notMinus, fun value hdecimal => ?_⟩
  have hrange := h.range value hdecimal
  rw [hint] at hrange
  rw [hlong]
  omega

/-! ## The numbers of an element -/

/-- The content of the last child called `default`. -/
def ResElement.defaultText (element : ResElement) : Option String :=
  (freqContent element.persistMode element.children).default

/-- The numbers in the last child called `node`. -/
def ResElement.nodeTexts (element : ResElement) : List String :=
  match (freqContent element.persistMode element.children).node with
  | none => []
  | some node => Split node ' '

/-- The contents of the children called `default`. -/
def defaultTexts (children : List Leaf) : List String :=
  children.filterMap fun child => if child.name = "default" then child.content else none

/-- The levels of the children called `node`, where these are read. -/
def levelTexts (persistMode : Int) (children : List Leaf) : List String :=
  children.filterMap fun child =>
    if persistMode ≠ REPORT_TO_PERFSO ∧ child.name = "node" then xmlGetProp child.props "level"
    else none

/-- The field holds the number of the attribute, or its value for an attribute that is absent. -/
def PropExact (element : ResElement) (prop : String) (otherwise value : Int) : Prop :=
  match xmlGetProp element.props prop with
  | none => value = otherwise
  | some text => Denotes 32 text value

structure ResExact (element : ResElement) (resNode : ResNode) : Prop where
  id : ∃ text, xmlGetProp element.props "id" = some text ∧ Denotes 32 text resNode.id
  pair : PropExact element "pair" INVALID_VALUE resNode.pair
  mode : ∃ mode, PropExact element "mode" 0 mode ∧
    resNode.isMaxValue = (mode == MAX_FREQUE_NODE)
  persistMode : PropExact element "switch" 0 resNode.persistMode
  defaultValue : ∃ text, element.defaultText = some text ∧ Denotes 64 text resNode.defaultValue
  available : (∀ text ∈ element.nodeTexts, ∃ value ∈ resNode.available, Denotes 64 text value) ∧
    ∀ value ∈ resNode.available, ∃ text ∈ element.nodeTexts, Denotes 64 text value

/-- All defaults are numbers and the last one is stored; the levels are the available values and
the keys of the strings. -/
structure GovExact (element : ResElement) (govResNode : GovResNode) : Prop where
  id : ∃ text, xmlGetProp element.props "id" = some text ∧ Denotes 32 text govResNode.id
  persistMode : PropExact element "switch" 0 govResNode.persistMode
  defaults : ∀ text ∈ defaultTexts element.children, ∃ value, Denotes 64 text value
  defaultValue : match (defaultTexts element.children).getLast? with
    | none => govResNode.defaultValue = INVALID_VALUE
    | some text => Denotes 64 text govResNode.defaultValue
  levels : ∀ text ∈ levelTexts element.persistMode element.children, ∃ value,
    Denotes 64 text value ∧ value ∈ govResNode.available ∧
      (govResNode.levelToStr.lookup value).isSome
  available : ∀ value ∈ govResNode.available,
    ∃ text ∈ levelTexts element.persistMode element.children, Denotes 64 text value
  keys : ∀ value, (govResNode.levelToStr.lookup value).isSome →
    ∃ text ∈ levelTexts element.persistMode element.children, Denotes 64 text value

structure ResFits (element : ResElement) : Prop where
  props : ∀ prop ∈ ["id", "pair", "mode", "switch"], ∀ text,
    xmlGetProp element.props prop = some text → Fits 32 text
  default : ∀ text, element.defaultText = some text → Fits 64 text
  nodes : ∀ text ∈ element.nodeTexts, Fits 64 text

structure GovFits (element : ResElement) : Prop where
  props : ∀ prop ∈ ["id", "switch"], ∀ text,
    xmlGetProp element.props prop = some text → Fits 32 text
  defaults : ∀ text ∈ defaultTexts element.children, Fits 64 text
  levels : ∀ text ∈ levelTexts element.persistMode element.children, Fits 32 text

/-! ## Attributes -/

/-- An attribute that is a number is stored exactly when it fits. -/
theorem propExact_iff {element : ResElement} {prop : String} {otherwise : Int}
    (hnumber : ∀ text, xmlGetProp element.props prop = some text → IsNumber text = true) :
    PropExact element prop otherwise (intProp (xmlGetProp element.props prop) otherwise) ↔
      ∀ text, xmlGetProp element.props prop = some text → Fits 32 text := by
  rw [PropExact]
  cases hprop : xmlGetProp element.props prop with
  | none => exact iff_of_true rfl (by simp)
  | some text =>
      dsimp only
      constructor
      · rintro h _ ⟨⟩
        exact h.fits
      · intro h
        exact (h text rfl).denotes (hnumber text hprop) (by decide)

theorem exists_propExact_iff {element : ResElement} {prop : String} {otherwise : Int}
    (hnumber : ∀ text, xmlGetProp element.props prop = some text → IsNumber text = true) :
    (∃ value, PropExact element prop otherwise value ∧
        (intProp (xmlGetProp element.props prop) otherwise == MAX_FREQUE_NODE) =
          (value == MAX_FREQUE_NODE)) ↔
      ∀ text, xmlGetProp element.props prop = some text → Fits 32 text := by
  constructor
  · rintro ⟨value, hvalue, -⟩ text htext
    rw [PropExact, htext] at hvalue
    exact hvalue.fits
  · intro h
    exact ⟨_, (propExact_iff hnumber).mpr h, rfl⟩

/-! ## Plain resources -/

theorem foldlM_available {texts : List String} {start available : Finset Int}
    (h : texts.foldlM
      (fun available str =>
        if IsNumber str then some (insert (atoll str) available) else none) start =
      some available) :
    (∀ text ∈ texts, IsNumber text = true) ∧
      ∀ value, value ∈ available ↔ value ∈ start ∨ ∃ text ∈ texts, atoll text = value := by
  induction texts generalizing start with
  | nil =>
      obtain rfl := Option.some.inj h
      simp
  | cons text texts ih =>
      rw [List.foldlM_cons] at h
      by_cases hnumber : IsNumber text = true
      · rw [if_pos hnumber] at h
        obtain ⟨hnumbers, hvalues⟩ := ih h
        refine ⟨List.forall_mem_cons.mpr ⟨hnumber, hnumbers⟩, fun value => ?_⟩
        rw [hvalues, Finset.mem_insert, List.exists_mem_cons_iff, or_comm (a := value = _),
          or_assoc, eq_comm (a := value)]
      · rw [if_neg hnumber] at h
        cases h

/-- The record that a `res` element of the plain resources is loaded into. -/
structure FreqRecorded (element : ResElement) (resNode : ResNode) : Prop where
  tag : CheckResourceTag (xmlGetProp element.props "id") (xmlGetProp element.props "name")
    (xmlGetProp element.props "pair") (xmlGetProp element.props "mode")
    (xmlGetProp element.props "switch") = true
  content : LoadFreqResourceContent element.children
    (ResNode.new element.resId (intProp (xmlGetProp element.props "mode") 0)
      (intProp (xmlGetProp element.props "pair") INVALID_VALUE) element.persistMode) = some resNode

/-- The fields of a record that has been loaded from an element. -/
structure FreqFields (element : ResElement) (resNode : ResNode) : Prop where
  id : resNode.id = element.resId
  pair : resNode.pair = intProp (xmlGetProp element.props "pair") INVALID_VALUE
  mode : resNode.isMaxValue = (intProp (xmlGetProp element.props "mode") 0 == MAX_FREQUE_NODE)
  persistMode : resNode.persistMode = element.persistMode
  default : ∃ text, element.defaultText = some text ∧ IsNumber text = true ∧
    resNode.defaultValue = atoll text
  nodes : ∀ text ∈ element.nodeTexts, IsNumber text = true
  available : ∀ value, value ∈ resNode.available ↔ ∃ text ∈ element.nodeTexts, atoll text = value

theorem FreqRecorded.fields {element : ResElement} {resNode : ResNode}
    (h : FreqRecorded element resNode) : FreqFields element resNode := by
  have hloaded := freqLoaded_of_load h.content
  have havailable := hloaded.available
  refine ⟨hloaded.id, hloaded.pair, hloaded.isMaxValue, hloaded.persistMode, hloaded.default,
    ?_, ?_⟩
  · intro text htext
    rw [ResElement.nodeTexts] at htext
    cases hnode : (freqContent element.persistMode element.children).node with
    | none => simp [hnode] at htext
    | some node =>
        rw [hnode] at htext
        simp only [ResNode.new, hnode] at havailable
        exact (foldlM_available havailable).1 text htext
  · intro value
    rw [ResElement.nodeTexts]
    cases hnode : (freqContent element.persistMode element.children).node with
    | none =>
        simp only [ResNode.new, hnode] at havailable
        simp [havailable]
    | some node =>
        simp only [ResNode.new, hnode] at havailable
        simp [(foldlM_available havailable).2]

/-- The checks of the tag accept numbers only. -/
theorem isNumber_of_tag {element : ResElement}
    (h : CheckResourceTag (xmlGetProp element.props "id") (xmlGetProp element.props "name")
      (xmlGetProp element.props "pair") (xmlGetProp element.props "mode")
      (xmlGetProp element.props "switch") = true) :
    (xmlGetProp element.props "id").isSome ∧
      ∀ prop ∈ ["id", "pair", "mode", "switch"], ∀ text,
        xmlGetProp element.props prop = some text → IsNumber text = true := by
  simp only [CheckResourceTag, CheckResourcePersistMode, Bool.and_eq_true, Option.all_eq_true,
    Option.any_eq_true] at h
  obtain ⟨⟨⟨⟨⟨id, hid, hidNumber, -⟩, -⟩, hpair⟩, hmode⟩, hswitch⟩ := h
  refine ⟨hid ▸ rfl, fun prop hprop text htext => ?_⟩
  simp only [List.mem_cons, List.not_mem_nil, or_false] at hprop
  rcases hprop with rfl | rfl | rfl | rfl
  · obtain rfl := Option.some.inj (hid.symm.trans htext)
    exact hidNumber
  · exact (hpair text htext).1
  · exact hmode text htext
  · exact (hswitch text htext).1

/-- A record of a plain resource is exact when the numbers of its element fit. -/
theorem resExact_iff {element : ResElement} {resNode : ResNode}
    (h : FreqRecorded element resNode) : ResExact element resNode ↔ ResFits element := by
  have hfields := h.fields
  obtain ⟨hid, hnumber⟩ := isNumber_of_tag h.tag
  obtain ⟨idText, hidText⟩ := Option.isSome_iff_exists.mp hid
  obtain ⟨defaultText, hdefault, hdefaultNumber, hdefaultValue⟩ := hfields.default
  have hpair := @propExact_iff element "pair" INVALID_VALUE (hnumber "pair" (by simp))
  have hmode := @exists_propExact_iff element "mode" 0 (hnumber "mode" (by simp))
  have hswitch := @propExact_iff element "switch" 0 (hnumber "switch" (by simp))
  rw [← hfields.pair] at hpair
  rw [← hfields.mode] at hmode
  constructor
  · intro hexact
    refine ⟨?_, ?_, ?_⟩
    · intro prop hprop
      simp only [List.mem_cons, List.not_mem_nil, or_false] at hprop
      rcases hprop with rfl | rfl | rfl | rfl
      · intro text htext
        obtain ⟨text', htext', hdenotes⟩ := hexact.id
        obtain rfl := Option.some.inj (htext'.symm.trans htext)
        exact hdenotes.fits
      · exact hpair.mp hexact.pair
      · exact hmode.mp hexact.mode
      · refine hswitch.mp ?_
        have hpersist := hexact.persistMode
        rw [hfields.persistMode] at hpersist
        exact hpersist
    · intro text htext
      obtain ⟨text', htext', hdenotes⟩ := hexact.defaultValue
      obtain rfl := Option.some.inj (htext'.symm.trans htext)
      exact hdenotes.fits
    · intro text htext
      obtain ⟨value, -, hdenotes⟩ := hexact.available.1 text htext
      exact hdenotes.fits
  · intro hfits
    have hnode (text : String) (htext : text ∈ element.nodeTexts) : Denotes 64 text (atoll text) :=
      (hfits.nodes text htext).denotes (hfields.nodes text htext) (by decide)
    refine ⟨⟨idText, hidText, ?_⟩, hpair.mpr (hfits.props "pair" (by simp)),
      hmode.mpr (hfits.props "mode" (by simp)), ?_, ⟨defaultText, hdefault, ?_⟩, ?_, ?_⟩
    · rw [hfields.id, ResElement.resId, hidText]
      exact (hfits.props "id" (by simp) idText hidText).denotes
        (hnumber "id" (by simp) idText hidText) (by decide)
    · rw [hfields.persistMode]
      exact hswitch.mpr (hfits.props "switch" (by simp))
    · rw [hdefaultValue]
      exact (hfits.default defaultText hdefault).denotes hdefaultNumber (by decide)
    · intro text htext
      exact ⟨atoll text, (hfields.available _).mpr ⟨text, htext, rfl⟩, hnode text htext⟩
    · intro value hvalue
      obtain ⟨text, htext, rfl⟩ := (hfields.available value).mp hvalue
      exact ⟨text, htext, hnode text htext⟩

/-! ## Governor resources -/

/-- What a governor record holds of the numbers of the children loaded so far. -/
structure GovLoaded (persistMode : Int) (children : List Leaf) (govResNode : GovResNode) :
    Prop where
  defaults : ∀ text ∈ defaultTexts children, IsNumber text = true
  defaultValue : govResNode.defaultValue =
    ((defaultTexts children).getLast?.map atoll).getD INVALID_VALUE
  levels : ∀ text ∈ levelTexts persistMode children, IsNumber text = true
  available : ∀ value, value ∈ govResNode.available ↔
    ∃ text ∈ levelTexts persistMode children, atoll text = value
  keys : ∀ value, (govResNode.levelToStr.lookup value).isSome ↔
    ∃ text ∈ levelTexts persistMode children, toSigned 32 (atoll text) = value

theorem defaultTexts_concat (children : List Leaf) (child : Leaf) :
    defaultTexts (children ++ [child]) =
      defaultTexts children ++ (if child.name = "default" then child.content else none).toList := by
  rw [defaultTexts, List.filterMap_append, List.filterMap_cons]
  split
  · next hnone => rw [hnone]; rfl
  · next text hsome => rw [hsome]; rfl

theorem levelTexts_concat (persistMode : Int) (children : List Leaf) (child : Leaf) :
    levelTexts persistMode (children ++ [child]) =
      levelTexts persistMode children ++
        (if persistMode ≠ REPORT_TO_PERFSO ∧ child.name = "node" then xmlGetProp child.props "level"
        else none).toList := by
  rw [levelTexts, List.filterMap_append, List.filterMap_cons]
  split
  · next hnone => rw [hnone]; rfl
  · next text hsome => rw [hsome]; rfl

/-- A child without numbers leaves them as they are. -/
theorem GovLoaded.other {persistMode : Int} {children : List Leaf}
    {govResNode govResNode' : GovResNode}
    (h : GovLoaded persistMode children govResNode) {child : Leaf}
    (hdefault : child.name ≠ "default")
    (hnode : ¬ (persistMode ≠ REPORT_TO_PERFSO ∧ child.name = "node"))
    (hvalue : govResNode'.defaultValue = govResNode.defaultValue)
    (havailable : govResNode'.available = govResNode.available)
    (hlevels : govResNode'.levelToStr = govResNode.levelToStr) :
    GovLoaded persistMode (children ++ [child]) govResNode' := by
  have hdefaults : defaultTexts (children ++ [child]) = defaultTexts children := by
    rw [defaultTexts_concat, if_neg hdefault, Option.toList_none, List.append_nil]
  have htexts : levelTexts persistMode (children ++ [child]) = levelTexts persistMode children := by
    rw [levelTexts_concat, if_neg hnode, Option.toList_none, List.append_nil]
  refine ⟨?_, ?_, ?_, ?_, ?_⟩
  · rw [hdefaults]
    exact h.defaults
  · rw [hdefaults, hvalue]
    exact h.defaultValue
  · rw [htexts]
    exact h.levels
  · rw [htexts, havailable]
    exact h.available
  · rw [htexts, hlevels]
    exact h.keys

theorem GovLoaded.default {persistMode : Int} {children : List Leaf} {govResNode : GovResNode}
    (h : GovLoaded persistMode children govResNode) {child : Leaf} {text : String}
    (hname : child.name = "default") (hcontent : child.content = some text)
    (hnumber : IsNumber text = true) :
    GovLoaded persistMode (children ++ [child]) { govResNode with defaultValue := atoll text } := by
  have hdefaults : defaultTexts (children ++ [child]) = defaultTexts children ++ [text] := by
    rw [defaultTexts_concat, if_pos hname, hcontent, Option.toList_some]
  have hnode : ¬ (persistMode ≠ REPORT_TO_PERFSO ∧ child.name = "node") := by
    rw [hname]
    exact fun hnode => absurd hnode.2 (by decide)
  have htexts : levelTexts persistMode (children ++ [child]) = levelTexts persistMode children := by
    rw [levelTexts_concat, if_neg hnode, Option.toList_none, List.append_nil]
  refine ⟨?_, ?_, ?_, ?_, ?_⟩
  · rw [hdefaults, List.forall_mem_append, List.forall_mem_singleton]
    exact ⟨h.defaults, hnumber⟩
  · rw [hdefaults, List.getLast?_concat]
    rfl
  · rw [htexts]
    exact h.levels
  · rw [htexts]
    exact h.available
  · rw [htexts]
    exact h.keys

theorem GovLoaded.node {persistMode : Int} {children : List Leaf} {govResNode : GovResNode}
    (h : GovLoaded persistMode children govResNode) {child : Leaf} {level node : String}
    (hnode : persistMode ≠ REPORT_TO_PERFSO ∧ child.name = "node")
    (hlevel : xmlGetProp child.props "level" = some level) (hnumber : IsNumber level = true)
    (hloaded : (LoadGovResourceAvailable govResNode level node).1 = true) :
    GovLoaded persistMode (children ++ [child])
      (LoadGovResourceAvailable govResNode level node).2 := by
  have hdefault : child.name ≠ "default" := by
    rw [hnode.2]
    decide
  have hdefaults : defaultTexts (children ++ [child]) = defaultTexts children := by
    rw [defaultTexts_concat, if_neg hdefault, Option.toList_none, List.append_nil]
  have htexts : levelTexts persistMode (children ++ [child]) =
      levelTexts persistMode children ++ [level] := by
    rw [levelTexts_concat, if_pos hnode, hlevel, Option.toList_some]
  have hresult : (LoadGovResourceAvailable govResNode level node).2 =
      (GovChild.node (atoll level) (Split node '|')).load govResNode := by
    by_cases hlength : (Split node '|').length = govResNode.paths.length
    · simp [LoadGovResourceAvailable, hlength, GovChild.load]
    · simp [LoadGovResourceAvailable, hlength] at hloaded
  rw [hresult]
  refine ⟨?_, ?_, ?_, ?_, ?_⟩
  · rw [hdefaults]
    exact h.defaults
  · rw [hdefaults]
    exact h.defaultValue
  · rw [htexts, List.forall_mem_append, List.forall_mem_singleton]
    exact ⟨h.levels, hnumber⟩
  · intro value
    simp only [GovChild.load, htexts, Finset.mem_insert, h.available, List.mem_append,
      List.mem_singleton, or_and_right, exists_or, exists_eq_left]
    rw [or_comm, eq_comm]
  · intro value
    simp only [htexts, List.mem_append, List.mem_singleton, or_and_right, exists_or,
      exists_eq_left]
    rw [← h.keys, lookup_load, Option.isSome_or, Bool.or_eq_true, GovChild.entry]
    split_ifs with hkey <;> simp [hkey]

/-- A child that is loaded adds its number. -/
theorem govLoaded_child {persistMode : Int} {children : List Leaf} {govResNode : GovResNode}
    (h : GovLoaded persistMode children govResNode) {child : Leaf}
    (hloaded : (loadGovChild persistMode child govResNode).1 = true) :
    GovLoaded persistMode (children ++ [child]) (loadGovChild persistMode child govResNode).2 := by
  rw [loadGovChild] at hloaded ⊢
  by_cases hdefault : child.name = "default"
  · simp only [if_pos hdefault] at hloaded ⊢
    cases hcontent : child.content with
    | none => simp [hcontent] at hloaded
    | some text =>
        simp only [hcontent] at hloaded ⊢
        by_cases hnumber : IsNumber text = true
        · simp only [hnumber]
          exact h.default hdefault hcontent hnumber
        · simp [hnumber] at hloaded
  simp only [if_neg hdefault] at hloaded ⊢
  by_cases hpath : persistMode ≠ REPORT_TO_PERFSO ∧ child.name = "path"
  · have hnode : ¬ (persistMode ≠ REPORT_TO_PERFSO ∧ child.name = "node") := by
      rw [hpath.2]
      exact fun hnode => absurd hnode.2 (by decide)
    simp only [if_pos hpath] at hloaded ⊢
    cases hcontent : child.content with
    | none => simp [hcontent] at hloaded
    | some path => exact h.other hdefault hnode rfl rfl rfl
  simp only [if_neg hpath] at hloaded ⊢
  by_cases hnode : persistMode ≠ REPORT_TO_PERFSO ∧ child.name = "node"
  · simp only [if_pos hnode] at hloaded ⊢
    cases hlevel : xmlGetProp child.props "level" with
    | none => simp [hlevel] at hloaded
    | some level =>
        cases hcontent : child.content with
        | none => simp [hlevel, hcontent] at hloaded
        | some node =>
            simp only [hlevel, hcontent] at hloaded ⊢
            by_cases hnumber : IsNumber level = true
            · simp only [hnumber] at hloaded ⊢
              exact h.node hnode hlevel hnumber hloaded
            · simp [hnumber] at hloaded
  · rw [if_neg hnode]
    exact h.other hdefault hnode rfl rfl rfl

theorem govLoaded_children (persistMode : Int) {children rest : List Leaf}
    {govResNode : GovResNode} (h : GovLoaded persistMode children govResNode)
    (hloaded : (TraversalGovResource persistMode rest govResNode).1 = true) :
    GovLoaded persistMode (children ++ rest)
      (TraversalGovResource persistMode rest govResNode).2 := by
  induction rest generalizing children govResNode with
  | nil =>
      rw [List.append_nil]
      exact h
  | cons child rest ih =>
      rw [TraversalGovResource] at hloaded ⊢
      dsimp only at hloaded ⊢
      cases hchild : (loadGovChild persistMode child govResNode).1 with
      | false => simp [hchild] at hloaded
      | true =>
          simp only [hchild, if_true] at hloaded ⊢
          have hrest := ih (govLoaded_child h hchild) hloaded
          rw [List.append_assoc, List.singleton_append] at hrest
          exact hrest

/-- The record that a `res` element of the governor resources is loaded into. -/
structure GovRecorded (element : ResElement) (govResNode : GovResNode) : Prop where
  tag : CheckGovResourceTag (xmlGetProp element.props "id") (xmlGetProp element.props "name")
    (xmlGetProp element.props "switch") = true
  content : TraversalGovResource element.persistMode element.children
    (GovResNode.new element.resId element.persistMode) = (true, govResNode)

theorem GovRecorded.loaded {element : ResElement} {govResNode : GovResNode}
    (h : GovRecorded element govResNode) :
    GovLoaded element.persistMode element.children govResNode := by
  have hstart : GovLoaded element.persistMode []
      (GovResNode.new element.resId element.persistMode) := by
    refine ⟨by simp [defaultTexts], rfl, by simp [levelTexts], ?_, ?_⟩
    · simp [levelTexts, GovResNode.new]
    · simp [levelTexts, GovResNode.new]
  have hloaded := govLoaded_children element.persistMode hstart (congrArg Prod.fst h.content)
  rw [h.content] at hloaded
  exact hloaded

theorem isNumber_of_govTag {element : ResElement}
    (h : CheckGovResourceTag (xmlGetProp element.props "id") (xmlGetProp element.props "name")
      (xmlGetProp element.props "switch") = true) :
    (xmlGetProp element.props "id").isSome ∧
      ∀ prop ∈ ["id", "switch"], ∀ text,
        xmlGetProp element.props prop = some text → IsNumber text = true := by
  simp only [CheckGovResourceTag, CheckResourcePersistMode, Bool.and_eq_true, Option.all_eq_true,
    Option.any_eq_true] at h
  obtain ⟨⟨⟨id, hid, hidNumber, -⟩, -⟩, hswitch⟩ := h
  refine ⟨hid ▸ rfl, fun prop hprop text htext => ?_⟩
  simp only [List.mem_cons, List.not_mem_nil, or_false] at hprop
  rcases hprop with rfl | rfl
  · obtain rfl := Option.some.inj (hid.symm.trans htext)
    exact hidNumber
  · exact (hswitch text htext).1

/-- A level that is available and a key is kept by the cut to 32 bits. -/
theorem fits_of_key {text : String} {value other : Int} (hdenotes : Denotes 64 text value)
    (hkey : toSigned 32 other = value) : Fits 32 text := by
  have hint : Nat.pow 2 (32 - 1) = 2147483648 := rfl
  have hmem := toSigned_mem other
  rw [hkey] at hmem
  refine Denotes.fits ⟨hdenotes.1, ?_, ?_⟩
  · rw [hint]
    exact hmem.1
  · rw [hint]
    exact hmem.2

/-- A record of a governor resource is exact when the numbers of its element fit. -/
theorem govExact_iff {element : ResElement} {govResNode : GovResNode}
    (h : GovRecorded element govResNode) : GovExact element govResNode ↔ GovFits element := by
  have hloaded := h.loaded
  have hdescribes := describes_TraversalGovResource element
  rw [h.content] at hdescribes
  obtain ⟨hid, hnumber⟩ := isNumber_of_govTag h.tag
  obtain ⟨idText, hidText⟩ := Option.isSome_iff_exists.mp hid
  have hswitch := @propExact_iff element "switch" 0 (hnumber "switch" (by simp))
  constructor
  · intro hexact
    refine ⟨?_, ?_, ?_⟩
    · intro prop hprop
      simp only [List.mem_cons, List.not_mem_nil, or_false] at hprop
      rcases hprop with rfl | rfl
      · intro text htext
        obtain ⟨text', htext', hdenotes⟩ := hexact.id
        obtain rfl := Option.some.inj (htext'.symm.trans htext)
        exact hdenotes.fits
      · refine hswitch.mp ?_
        have hpersist := hexact.persistMode
        rw [hdescribes.persistMode] at hpersist
        exact hpersist
    · intro text htext
      obtain ⟨value, hdenotes⟩ := hexact.defaults text htext
      exact hdenotes.fits
    · intro text htext
      obtain ⟨value, hdenotes, -, hkey⟩ := hexact.levels text htext
      obtain ⟨other, -, hother⟩ := (hloaded.keys value).mp hkey
      exact fits_of_key hdenotes hother
  · intro hfits
    have hlevel (text : String) (htext : text ∈ levelTexts element.persistMode element.children) :
        Denotes 64 text (atoll text) ∧ toSigned 32 (atoll text) = atoll text := by
      have hlong := (hfits.levels text htext).mono.denotes (hloaded.levels text htext) (by decide)
      have hrange := (hfits.levels text htext).range _ hlong.1
      exact ⟨hlong, toSigned_of_fits (by decide) hrange.1 hrange.2⟩
    refine ⟨⟨idText, hidText, ?_⟩, ?_, ?_, ?_, ?_, ?_, ?_⟩
    · rw [hdescribes.id, ResElement.resId, hidText]
      exact (hfits.props "id" (by simp) idText hidText).denotes
        (hnumber "id" (by simp) idText hidText) (by decide)
    · rw [hdescribes.persistMode]
      exact hswitch.mpr (hfits.props "switch" (by simp))
    · intro text htext
      exact ⟨_, (hfits.defaults text htext).denotes (hloaded.defaults text htext) (by decide)⟩
    · rw [hloaded.defaultValue]
      cases hlast : (defaultTexts element.children).getLast? with
      | none => rfl
      | some text =>
          have htext := List.mem_of_getLast? hlast
          exact (hfits.defaults text htext).denotes (hloaded.defaults text htext) (by decide)
    · intro text htext
      obtain ⟨hdenotes, hkey⟩ := hlevel text htext
      exact ⟨atoll text, hdenotes, (hloaded.available _).mpr ⟨text, htext, rfl⟩,
        (hloaded.keys _).mpr ⟨text, htext, hkey⟩⟩
    · intro value hvalue
      obtain ⟨text, htext, rfl⟩ := (hloaded.available value).mp hvalue
      exact ⟨text, htext, (hlevel text htext).1⟩
    · intro value hvalue
      obtain ⟨text, htext, rfl⟩ := (hloaded.keys value).mp hvalue
      rw [(hlevel text htext).2]
      exact ⟨text, htext, (hlevel text htext).1⟩

/-! ## Loading -/

/-- The step of loading that has stored the record of an id. -/
def StoredBy (cfgFiles : List Document) (resId : Int) (step : LoadStep) : Prop :=
  ∃ front rest, loadSteps cfgFiles = front ++ step :: rest ∧
    (loadEach LoadStep.load front ∅).1 = true ∧
    (loadEach LoadStep.load front ∅).2.lookup resId = none ∧
    ((step.load (loadEach LoadStep.load front ∅).2).2.lookup resId).isSome

/-- The record is the one its step loads from an element. -/
def Recorded : LoadStep → ResourceNode → Prop
  | .freq element, .res resNode => FreqRecorded element resNode
  | .gov element, .gov govResNode => GovRecorded element govResNode
  | _, _ => False

/-- The numbers of a record are those its element has the texts of. -/
def RecordExact : LoadStep → ResourceNode → Prop
  | .freq element, .res resNode => ResExact element resNode
  | .gov element, .gov govResNode => GovExact element govResNode
  | _, _ => False

def StepFits : LoadStep → Prop
  | .freq element => ResFits element
  | .gov element => GovFits element
  | _ => True

theorem recordExact_iff {step : LoadStep} {node : ResourceNode} (h : Recorded step node) :
    RecordExact step node ↔ StepFits step := by
  cases step with
  | freq element =>
      cases node with
      | res resNode => exact resExact_iff h
      | gov govResNode => exact h.elim
  | gov element =>
      cases node with
      | res resNode => exact h.elim
      | gov govResNode => exact govExact_iff h
  | reject => exact h.elim
  | checkPair => exact h.elim
  | checkDef => exact h.elim

/-- What a step that succeeds adds under an id is the record of its element. -/
theorem recorded_of_load {step : LoadStep} {nodes : Nodes} {resId : Int} {node : ResourceNode}
    (hloaded : (step.load nodes).1 = true) (hnone : nodes.lookup resId = none)
    (hsome : (step.load nodes).2.lookup resId = some node) : Recorded step node := by
  cases step with
  | reject => cases hloaded
  | checkPair => cases hnone.symm.trans hsome
  | checkDef => cases hnone.symm.trans hsome
  | freq element =>
      rw [LoadStep.load] at hloaded hsome
      split_ifs at hloaded hsome with hname
      · rw [TraversalFreqResource] at hloaded hsome
        dsimp only at hloaded hsome
        split_ifs at hloaded hsome with htag hold
        · cases hnone.symm.trans hsome
        · split at hsome
          · next hcontent => cases hnone.symm.trans hsome
          · next resNode hcontent =>
              rw [AssocMap.lookup_insert_ite] at hsome
              split_ifs at hsome with hid
              · obtain rfl := Option.some.inj hsome
                exact ⟨by simpa using htag, hcontent⟩
              · cases hnone.symm.trans hsome
      · cases hnone.symm.trans hsome
  | gov element =>
      rw [LoadStep.load, loadGovElement] at hloaded hsome
      dsimp only at hloaded hsome
      split_ifs at hloaded hsome with hname htag hold
      · cases hnone.symm.trans hsome
      · cases hnone.symm.trans hsome
      · rw [AssocMap.lookup_insert_ite] at hsome
        split_ifs at hsome with hid
        · obtain rfl := Option.some.inj hsome
          exact ⟨by simpa using htag, Prod.ext hloaded rfl⟩
        · cases hnone.symm.trans hsome

/-- In a configuration that is accepted the step that has stored an id has loaded its record. -/
theorem StoredBy.recorded {cfgFiles : List Document} {resId : Int} {step : LoadStep}
    (hstored : StoredBy cfgFiles resId step) (haccepted : (SocPerfConfig_Init cfgFiles).1 = true) :
    ∃ node, (SocPerfConfig_Init cfgFiles).2.lookup resId = some node ∧ Recorded step node := by
  obtain ⟨front, rest, hsteps, hfront, hnone, hstored⟩ := hstored
  obtain ⟨node, hsome⟩ := Option.isSome_iff_exists.mp hstored
  rw [SocPerfConfig_Init_eq, hsteps, loadEach_append, if_pos hfront] at haccepted ⊢
  have hloaded : (step.load (loadEach LoadStep.load front ∅).2).1 = true := by
    by_contra hfailed
    rw [Bool.not_eq_true] at hfailed
    rw [loadEach_cons_of_failed hfailed, hfailed] at haccepted
    cases haccepted
  exact ⟨node, loadEach_lookup_of_some step rest hsome, recorded_of_load hloaded hnone hsome⟩

theorem exists_storedBy {cfgFiles : List Document} {resId : Int} {node : ResourceNode}
    (hsome : (SocPerfConfig_Init cfgFiles).2.lookup resId = some node) :
    ∃ step, StoredBy cfgFiles resId step := by
  rw [SocPerfConfig_Init_eq] at hsome
  obtain ⟨front, step, rest, hsteps, hfront, hnone, hrecord⟩ :=
    exists_step_of_lookup _ _ (AList.lookup_empty _) hsome
  exact ⟨step, front, rest, hsteps, hfront, hnone, by rw [hrecord]; rfl⟩

/-! ## The result -/

/-- The records of the configuration hold the numbers of their elements. -/
def NumbersExact (cfgFiles : List Document) : Prop :=
  ∀ resId node step, (SocPerfConfig_Init cfgFiles).2.lookup resId = some node →
    StoredBy cfgFiles resId step → RecordExact step node

/-- Of the configurations that are accepted those are stored as they are written in whose stored
elements every number has a digit and fits: the levels and the attributes 32 bits, the defaults and
the values of the nodes 64. -/
theorem numbersExact_iff (cfgFiles : List Document)
    (haccepted : (SocPerfConfig_Init cfgFiles).1 = true) :
    (∀ resId node, (SocPerfConfig_Init cfgFiles).2.lookup resId = some node →
        ∃ step, StoredBy cfgFiles resId step ∧ Recorded step node) ∧
      (NumbersExact cfgFiles ↔ ∀ resId step, StoredBy cfgFiles resId step → StepFits step) := by
  refine ⟨?_, ?_, ?_⟩
  · intro resId node hsome
    obtain ⟨step, hstored⟩ := exists_storedBy hsome
    obtain ⟨node', hsome', hrecorded⟩ := hstored.recorded haccepted
    obtain rfl := Option.some.inj (hsome'.symm.trans hsome)
    exact ⟨step, hstored, hrecorded⟩
  · intro hexact resId step hstored
    obtain ⟨node, hsome, hrecorded⟩ := hstored.recorded haccepted
    exact (recordExact_iff hrecorded).mp (hexact resId node step hsome hstored)
  · intro hfits resId node step hsome hstored
    obtain ⟨node', hsome', hrecorded⟩ := hstored.recorded haccepted
    obtain rfl := Option.some.inj (hsome'.symm.trans hsome)
    exact (recordExact_iff hrecorded).mpr (hfits resId step hstored)

theorem documentSteps_of_resources {file : Document} {groups : List Group}
    (hpath : file.path ≠ "") (hroot : file.root = some ("Configs", groups))
    (hresources : SOCPERF_RESOURCE_CONFIG_XML.toList <:+: file.path.toList) :
    documentSteps file = groups.flatMap groupSteps := by
  rw [documentSteps, if_neg hpath, hroot]
  dsimp only
  rw [if_neg (not_not_intro rfl), if_pos hresources]

/-- A plain resource with the given default. -/
def freqElement (default : String) : ResElement where
  name := "res"
  props := [("id", "1000"), ("name", "lim_cpu")]
  children := [⟨"default", [], some default⟩, ⟨"path", [], some "/sys/max"⟩]

/-- A governor resource with one level. -/
def govElement (level : String) : ResElement where
  name := "res"
  props := [("id", "2000"), ("name", "gov_cpu")]
  children := [⟨"default", [], some level⟩, ⟨"path", [], some "/sys/first"⟩,
    ⟨"node", [("level", level)], some "1"⟩]

def freqAndGov (default level : String) : Document where
  path := "/system/etc/soc_perf/socperf_resource_config.xml"
  root := some ("Configs",
    [⟨"Resource", [freqElement default]⟩, ⟨"GovResource", [govElement level]⟩])

theorem numbersExact_smallNumbers :
    (SocPerfConfig_Init [freqAndGov "-1" "7"]).1 = true ∧
      (NumbersExact [freqAndGov "-1" "7"] ↔
        ∀ resId step, StoredBy [freqAndGov "-1" "7"] resId step → StepFits step) :=
  ⟨by decide +kernel, (numbersExact_iff [freqAndGov "-1" "7"] (by decide +kernel)).2⟩

/-- An empty default is stored as zero, and a level of 33 bits under the key of its low half. -/
theorem emptyDefault_and_longLevel_accepted :
    (SocPerfConfig_Init [freqAndGov "" "4294967297"]).1 = true ∧
      ((SocPerfConfig_Init [freqAndGov "" "4294967297"]).2.lookup 1000).map
        (fun node => node.base.defaultValue) = some 0 ∧
      ((loadGovElement (govElement "4294967297") ∅).2.lookup 2000).map
        (fun node => (node.base.available, match node with
          | .gov govResNode => govResNode.levelToStr.keys
          | .res _ => [])) = some ({4294967297}, [1]) ∧
      ¬ NumbersExact [freqAndGov "" "4294967297"] := by
  have haccepted : (SocPerfConfig_Init [freqAndGov "" "4294967297"]).1 = true := by decide +kernel
  have hsteps : loadSteps [freqAndGov "" "4294967297"] =
      .freq (freqElement "") :: [.checkPair, .checkDef, .gov (govElement "4294967297"),
        .checkDef] := by
    rw [loadSteps, List.reverse_singleton, List.flatMap_singleton,
      documentSteps_of_resources (by decide) rfl (by decide +kernel)]
    rfl
  have hstored : StoredBy [freqAndGov "" "4294967297"] 1000 (.freq (freqElement "")) :=
    ⟨[], _, hsteps, rfl, rfl, by decide +kernel⟩
  refine ⟨haccepted, by decide +kernel, by decide +kernel, fun hexact => ?_⟩
  obtain ⟨node, hsome, hrecorded⟩ := hstored.recorded haccepted
  have hfits := (recordExact_iff hrecorded).mp (hexact 1000 node _ hsome hstored)
  exact (hfits.default "" (by decide +kernel)).notEmpty rfl

end ResSched.SocPerfExecutor
