import Mathlib.Data.List.TakeWhile
import ResSched.Library.Transition
import ResSched.Model.ConfigContent

/-! # What loading a list of XML contents leaves

The configurations and the switch table after any list of good and bad contents.
-/

namespace ResSched

open Transition

/-! ## The specification -/

/-- The children that are elements of the tag. -/
def XmlNode.elements (node : XmlNode) (tag : String) : List XmlNode :=
  node.children.filter (XmlNode.isElement tag)

/-- The `config` elements named `configName` under those of the plugins that are named
`pluginName`. -/
def configsUnder (plugins : List XmlNode) (pluginName configName : String) : List XmlNode :=
  (plugins.filter fun plugin => xmlGetProp plugin XML_ATTR_NAME = some pluginName).flatMap
    fun plugin => (plugin.elements XML_TAG_CONFIG).filter fun config =>
      xmlGetProp config XML_ATTR_NAME = some configName

def configElements (root : XmlNode) (pluginName configName : String) : List XmlNode :=
  configsUnder (root.elements XML_TAG_PLUGIN) pluginName configName

def itemsOf (config : XmlNode) : List Item :=
  (config.elements XML_TAG_ITEM).map fun node => ⟨ParseProperties node, ParseSubItem node⟩

/-- A child of the root is skipped or a plugin. -/
def pluginOrSkipped (node : XmlNode) : Bool :=
  IsInvalidNode node || node.name = some XML_TAG_PLUGIN

/-- The children of a root are named plugins, but for those that are skipped. -/
def pluginsOk (nodes : List XmlNode) : Bool :=
  nodes.all pluginOrSkipped &&
    (nodes.filter (XmlNode.isElement XML_TAG_PLUGIN)).all fun plugin =>
      (xmlGetProp plugin XML_ATTR_NAME).isSome

/-- The root of a configuration content without fault. -/
def acceptedConfig (xmlReadMemory : String → Option XmlNode) (content : String) : Option XmlNode :=
  (xmlReadMemory content).filter fun root =>
    root.name = some XML_TAG_RES_SCHED && pluginsOk root.children

/-- The configuration of the last accepted content that has one. -/
def lastConfig (xmlReadMemory : String → Option XmlNode) (contents : List String)
    (pluginName configName : String) : PluginConfig :=
  match ((contents.filterMap (acceptedConfig xmlReadMemory)).filter fun root =>
      configElements root pluginName configName ≠ []).getLast? with
  | none => ⟨[]⟩
  | some root => ⟨(configElements root pluginName configName).flatMap itemsOf⟩

def loadConfig (xmlReadMemory : String → Option XmlNode) (reader : ConfigReader)
    (content : String) : ConfigReader :=
  (reader.LoadFromConfigContent xmlReadMemory content).2

def ConfigReader.start : ConfigReader :=
  ⟨∅⟩

/-- After the contents every configuration is the last one, and a content that is refused changes
nothing. -/
def ConfigsLoaded (xmlReadMemory : String → Option XmlNode) (contents : List String) : Prop :=
  (∀ pluginName configName,
    (run (loadConfig xmlReadMemory) .start contents).GetConfig pluginName configName =
      lastConfig xmlReadMemory contents pluginName configName) ∧
  EachStep (loadConfig xmlReadMemory) (fun reader content =>
    (reader.LoadFromConfigContent xmlReadMemory content).1 = false →
      (reader.LoadFromConfigContent xmlReadMemory content).2 = reader) .start contents

namespace PluginSwitch

/-- The entries of the plugin elements that have a library path. -/
def entriesIn (isRssExe : Bool) (nodes : List XmlNode) : List PluginInfo :=
  (nodes.filter (XmlNode.isElement XML_TAG_PLUGIN)).filterMap fun node =>
    FillinPluginInfo node isRssExe

def lastEntry (entries : List PluginInfo) (libPath : String) : Option PluginInfo :=
  (entries.filter fun info => info.libPath = libPath).getLast?

/-- The root of a switch content that is a list of plugins. -/
def switchRoot (xmlReadMemory : String → Option XmlNode) (content : String) : Option XmlNode :=
  (xmlReadMemory content).filter fun root => root.name = some XML_TAG_PLUGIN_LIST

/-- The root of a switch content without fault. -/
def acceptedSwitch (xmlReadMemory : String → Option XmlNode) (content : String) :
    Option XmlNode :=
  (switchRoot xmlReadMemory content).filter fun root => root.children.all pluginOrSkipped

/-- A content with the choice of the attribute that names the library path. -/
abbrev SwitchContent := String × Bool

def acceptedEntries (xmlReadMemory : String → Option XmlNode) (switch : SwitchContent) :
    List PluginInfo :=
  (acceptedSwitch xmlReadMemory switch.1).elim [] fun root => entriesIn switch.2 root.children

/-- The entries before the first wrong element. -/
def readEntries (xmlReadMemory : String → Option XmlNode) (switch : SwitchContent) :
    List PluginInfo :=
  (switchRoot xmlReadMemory switch.1).elim [] fun root =>
    entriesIn switch.2 (root.children.takeWhile pluginOrSkipped)

def loadSwitch (xmlReadMemory : String → Option XmlNode) (table : AssocMap String PluginInfo)
    (switch : SwitchContent) : AssocMap String PluginInfo :=
  (LoadFromConfigContent xmlReadMemory table switch.1 switch.2).2

/-- After the contents the table holds the last accepted entry of every library path, and a content
that is refused changes no entry. -/
def SwitchesLoaded (xmlReadMemory : String → Option XmlNode) (switches : List SwitchContent) :
    Prop :=
  (∀ libPath, (run (loadSwitch xmlReadMemory) ∅ switches).lookup libPath =
    lastEntry (switches.flatMap (acceptedEntries xmlReadMemory)) libPath) ∧
  EachStep (loadSwitch xmlReadMemory) (fun table switch =>
    (LoadFromConfigContent xmlReadMemory table switch.1 switch.2).1 = false → ∀ libPath,
      (LoadFromConfigContent xmlReadMemory table switch.1 switch.2).2.lookup libPath =
        table.lookup libPath) ∅ switches

/-- What a refused content has before its first wrong element only repeats the table: the last of
its entries of each library path is there already. -/
def RefusedRepeats (xmlReadMemory : String → Option XmlNode) (table : AssocMap String PluginInfo)
    (switch : SwitchContent) : Prop :=
  acceptedSwitch xmlReadMemory switch.1 = none → ∀ libPath info,
    lastEntry (readEntries xmlReadMemory switch) libPath = some info →
      table.lookup libPath = some info

end PluginSwitch

/-! ## One configuration content -/

/-- The configuration under both names. -/
def configIn (pluginConfigs : AssocMap String PluginConfigMap) (pluginName configName : String) :
    Option PluginConfig :=
  (pluginConfigs.lookup pluginName).bind fun configMap => configMap.lookup configName

theorem GetConfig_eq (reader : ConfigReader) (pluginName configName : String) :
    reader.GetConfig pluginName configName =
      (configIn reader.allPluginConfigs_ pluginName configName).getD ⟨[]⟩ := by
  rw [ConfigReader.GetConfig, configIn]
  cases reader.allPluginConfigs_.lookup pluginName <;> rfl

/-- The elements of one configuration, added to what is there. -/
def gather (found : Option PluginConfig) (configs : List XmlNode) : Option PluginConfig :=
  configs.foldl (fun found config => some (ParseItem config (found.getD ⟨[]⟩))) found

theorem ParseItem_eq (node : XmlNode) (pluginConfig : PluginConfig) :
    ParseItem node pluginConfig = ⟨pluginConfig.itemList ++ itemsOf node⟩ := by
  have hfold : ∀ (nodes : List XmlNode) (config : PluginConfig),
      nodes.foldl (fun config node =>
        (⟨config.itemList ++ [⟨ParseProperties node, ParseSubItem node⟩]⟩ : PluginConfig)) config =
      ⟨config.itemList ++ nodes.map fun node => ⟨ParseProperties node, ParseSubItem node⟩⟩ := by
    intro nodes
    induction nodes with
    | nil => simp
    | cons node nodes ih =>
        intro config
        rw [List.foldl_cons, ih]
        simp
  exact hfold _ pluginConfig

/-- The items of all elements stand one after the other. -/
theorem gather_eq (configs : List XmlNode) (found : Option PluginConfig) :
    gather found configs =
      if configs = [] then found
      else some ⟨(found.getD ⟨[]⟩).itemList ++ configs.flatMap itemsOf⟩ := by
  induction configs generalizing found with
  | nil => rfl
  | cons config configs ih =>
      rw [gather, List.foldl_cons, ← gather, ih, ParseItem_eq]
      by_cases hnil : configs = []
      · simp [hnil]
      · simp [hnil]

theorem lookup_ParseConfig (plugin : XmlNode) (configMap : PluginConfigMap)
    (configName : String) :
    (ParseConfig plugin configMap).lookup configName =
      gather (configMap.lookup configName) ((plugin.elements XML_TAG_CONFIG).filter fun config =>
        xmlGetProp config XML_ATTR_NAME = some configName) := by
  refine AssocMap.lookup_foldl_keyed (f := fun node found => ParseItem node (found.getD ⟨[]⟩)) ?_
    (plugin.elements XML_TAG_CONFIG) configMap configName
  intro configMap node
  cases xmlGetProp node XML_ATTR_NAME <;> rfl

theorem gather_append (found : Option PluginConfig) (configs configs' : List XmlNode) :
    gather found (configs ++ configs') = gather (gather found configs) configs' :=
  List.foldl_append

theorem configIn_insert (pluginConfigs : AssocMap String PluginConfigMap)
    (name pluginName configName : String) (configMap : PluginConfigMap) :
    configIn (pluginConfigs.insert name configMap) pluginName configName =
      if pluginName = name then configMap.lookup configName
      else configIn pluginConfigs pluginName configName := by
  rw [configIn, AssocMap.lookup_insert_ite, configIn]
  split_ifs <;> rfl

/-- The loop over the children of the root fails at a wrong one, and otherwise adds to every
configuration the elements of its names. -/
theorem foldlM_ParsePlugin (nodes : List XmlNode)
    (pluginConfigs : AssocMap String PluginConfigMap) :
    match nodes.foldlM ParsePlugin pluginConfigs with
    | none => pluginsOk nodes = false
    | some next => pluginsOk nodes = true ∧ ∀ pluginName configName,
        configIn next pluginName configName =
          gather (configIn pluginConfigs pluginName configName)
            (configsUnder (nodes.filter (XmlNode.isElement XML_TAG_PLUGIN)) pluginName
              configName) := by
  induction nodes generalizing pluginConfigs with
  | nil => exact ⟨rfl, fun _ _ => rfl⟩
  | cons node nodes ih =>
      rw [List.foldlM_cons, ParsePlugin]
      by_cases hinvalid : IsInvalidNode node = true
      · have hskip : node.isElement XML_TAG_PLUGIN = false := by
          rw [XmlNode.isElement, hinvalid]
          rfl
        have hok : pluginsOk (node :: nodes) = pluginsOk nodes := by
          rw [pluginsOk, List.all_cons, List.filter_cons_of_neg (by simp [hskip]),
            pluginOrSkipped, hinvalid, Bool.true_or, Bool.true_and, pluginsOk]
        rw [if_pos hinvalid, hok, List.filter_cons_of_neg (by simp [hskip])]
        exact ih pluginConfigs
      · rw [if_neg hinvalid]
        by_cases htag : node.name = some XML_TAG_PLUGIN
        · have helement : node.isElement XML_TAG_PLUGIN = true := by
            simp [XmlNode.isElement, hinvalid, htag]
          have hok : pluginsOk (node :: nodes) =
              ((xmlGetProp node XML_ATTR_NAME).isSome && pluginsOk nodes) := by
            simp [pluginsOk, pluginOrSkipped, List.filter_cons_of_pos helement, htag,
              Bool.and_left_comm]
          rw [if_pos htag, ParsePluginConfig, hok, List.filter_cons_of_pos helement]
          cases hname : xmlGetProp node XML_ATTR_NAME with
          | none => rfl
          | some name =>
              dsimp only
              have htail := ih (pluginConfigs.insert name
                (ParseConfig node ((pluginConfigs.lookup name).getD ∅)))
              revert htail
              rw [Option.bind_eq_bind, Option.bind_some]
              cases nodes.foldlM ParsePlugin (pluginConfigs.insert name
                (ParseConfig node ((pluginConfigs.lookup name).getD ∅))) with
              | none => exact id
              | some next =>
                  rintro ⟨hnodes, hnext⟩
                  refine ⟨hnodes, fun pluginName configName => ?_⟩
                  rw [hnext, configIn_insert]
                  by_cases hsame : pluginName = name
                  · subst hsame
                    rw [if_pos rfl, configsUnder, configsUnder,
                      List.filter_cons_of_pos (by simp [hname]), List.flatMap_cons,
                      gather_append, lookup_ParseConfig, configIn]
                    cases pluginConfigs.lookup pluginName <;> rfl
                  · rw [if_neg hsame, configsUnder, configsUnder,
                      List.filter_cons_of_neg (by simp [hname, Ne.symm hsame])]
        · rw [if_neg htag]
          change pluginsOk (node :: nodes) = false
          simp [pluginsOk, pluginOrSkipped, hinvalid, htag]

theorem configIn_MergeConfigList (reader : ConfigReader)
    (pluginConfigs : AssocMap String PluginConfigMap) (pluginName configName : String) :
    configIn (reader.MergeConfigList pluginConfigs).allPluginConfigs_ pluginName configName =
      (configIn pluginConfigs pluginName configName).or
        (configIn reader.allPluginConfigs_ pluginName configName) := by
  simp only [configIn, ConfigReader.MergeConfigList, AssocMap.lookup_merge]
  cases pluginConfigs.lookup pluginName with
  | none => rfl
  | some next =>
      cases reader.allPluginConfigs_.lookup pluginName with
      | none => simp
      | some current =>
          simp only [Option.bind_some, ConfigReader.MergePluginConfigMap, AssocMap.lookup_merge]
          cases next.lookup configName <;> rfl

section

variable (xmlReadMemory : String → Option XmlNode) (reader : ConfigReader) {content : String}

theorem LoadFromConfigContent_refused (h : acceptedConfig xmlReadMemory content = none) :
    reader.LoadFromConfigContent xmlReadMemory content = (false, reader) := by
  rw [acceptedConfig, Option.filter_eq_none_iff] at h
  rw [ConfigReader.LoadFromConfigContent]
  cases hroot : xmlReadMemory content with
  | none => rfl
  | some root =>
      have hfault := h root hroot
      by_cases hname : root.name = some XML_TAG_RES_SCHED
      · have hnodes := foldlM_ParsePlugin root.children ∅
        simp only [hname, ne_eq, not_true_eq_false, if_false]
        cases hload : root.children.foldlM ParsePlugin ∅ with
        | none => rfl
        | some next =>
            rw [hload] at hnodes
            exact absurd (by rw [hname, hnodes.1]; rfl) hfault
      · simp only [ne_eq, hname, not_false_eq_true, if_true]

theorem LoadFromConfigContent_accepted {root : XmlNode}
    (h : acceptedConfig xmlReadMemory content = some root) :
    (reader.LoadFromConfigContent xmlReadMemory content).1 = true ∧
      ∀ pluginName configName, configIn
          (reader.LoadFromConfigContent xmlReadMemory content).2.allPluginConfigs_ pluginName
          configName =
        if configElements root pluginName configName = [] then
          configIn reader.allPluginConfigs_ pluginName configName
        else some ⟨(configElements root pluginName configName).flatMap itemsOf⟩ := by
  rw [acceptedConfig, Option.filter_eq_some_iff, Bool.and_eq_true, decide_eq_true_eq] at h
  obtain ⟨hroot, hname, hok⟩ := h
  have hnodes := foldlM_ParsePlugin root.children ∅
  rw [ConfigReader.LoadFromConfigContent, hroot]
  simp only [hname, ne_eq, not_true_eq_false, if_false]
  cases hload : root.children.foldlM ParsePlugin ∅ with
  | none =>
      rw [hload] at hnodes
      rw [hok] at hnodes
      cases hnodes
  | some next =>
      rw [hload] at hnodes
      refine ⟨rfl, fun pluginName configName => ?_⟩
      rw [configIn_MergeConfigList, hnodes.2, gather_eq, ← XmlNode.elements, ← configElements]
      split_ifs <;> rfl

end

/-! ## All configuration contents -/

theorem configsLoaded (xmlReadMemory : String → Option XmlNode) (contents : List String) :
    ConfigsLoaded xmlReadMemory contents := by
  constructor
  · intro pluginName configName
    rw [GetConfig_eq]
    have hlast : configIn (run (loadConfig xmlReadMemory) .start contents).allPluginConfigs_
          pluginName configName =
        (((contents.filterMap (acceptedConfig xmlReadMemory)).filter fun root =>
          configElements root pluginName configName ≠ []).getLast?).map fun root =>
            ⟨(configElements root pluginName configName).flatMap itemsOf⟩ := by
      induction contents using List.reverseRecOn with
      | nil => rfl
      | append_singleton contents content ih =>
          rw [run_concat, loadConfig, List.filterMap_append]
          cases hcontent : acceptedConfig xmlReadMemory content with
          | none =>
              rw [LoadFromConfigContent_refused xmlReadMemory _ hcontent, ih]
              simp [hcontent]
          | some root =>
              rw [(LoadFromConfigContent_accepted xmlReadMemory _ hcontent).2, ih]
              by_cases hnone : configElements root pluginName configName = []
              · simp [hcontent, hnone]
              · simp [hcontent, hnone]
    rw [hlast, lastConfig]
    cases (((contents.filterMap (acceptedConfig xmlReadMemory)).filter fun root =>
      configElements root pluginName configName ≠ []).getLast?) <;> rfl
  · intro front content _ hrefused
    cases hcontent : acceptedConfig xmlReadMemory content with
    | none => rw [LoadFromConfigContent_refused xmlReadMemory _ hcontent]
    | some root =>
        rw [(LoadFromConfigContent_accepted xmlReadMemory _ hcontent).1] at hrefused
        cases hrefused

/-! ## Switch contents -/

namespace PluginSwitch

theorem lastEntry_cons (info : PluginInfo) (entries : List PluginInfo) (libPath : String) :
    lastEntry (info :: entries) libPath =
      (lastEntry entries libPath).or (if libPath = info.libPath then some info else none) := by
  rw [lastEntry, lastEntry]
  by_cases hsame : libPath = info.libPath
  · rw [List.filter_cons_of_pos (by simp [hsame]), List.getLast?_cons, if_pos hsame]
    cases (entries.filter fun info => info.libPath = libPath).getLast? <;> rfl
  · rw [List.filter_cons_of_neg (by simp [Ne.symm hsame]), if_neg hsame, Option.or_none]

theorem lastEntry_append (entries entries' : List PluginInfo) (libPath : String) :
    lastEntry (entries ++ entries') libPath =
      (lastEntry entries' libPath).or (lastEntry entries libPath) := by
  rw [lastEntry, List.filter_append, List.getLast?_append, lastEntry, lastEntry]

/-- The loop over the children of the root fails at a wrong one, and has written the entries before
it. -/
theorem LoadNodes_spec (isRssExe : Bool) (nodes : List XmlNode)
    (table : AssocMap String PluginInfo) :
    (LoadNodes isRssExe table nodes).1 = nodes.all pluginOrSkipped ∧ ∀ libPath,
      (LoadNodes isRssExe table nodes).2.lookup libPath =
        (lastEntry (entriesIn isRssExe (nodes.takeWhile pluginOrSkipped)) libPath).or
          (table.lookup libPath) := by
  induction nodes generalizing table with
  | nil => exact ⟨rfl, fun _ => rfl⟩
  | cons node nodes ih =>
      rw [LoadNodes]
      by_cases hinvalid : IsInvalidNode node = true
      · have hok : pluginOrSkipped node = true := by
          rw [pluginOrSkipped, hinvalid, Bool.true_or]
        have hskip : node.isElement XML_TAG_PLUGIN = false := by
          rw [XmlNode.isElement, hinvalid]
          rfl
        rw [if_pos hinvalid, List.all_cons, hok, Bool.true_and, List.takeWhile_cons_of_pos hok,
          entriesIn, List.filter_cons_of_neg (by simp [hskip]), ← entriesIn]
        exact ih table
      · rw [if_neg hinvalid]
        by_cases htag : node.name = some XML_TAG_PLUGIN
        · have hok : pluginOrSkipped node = true := by
            simp [pluginOrSkipped, htag]
          have helement : node.isElement XML_TAG_PLUGIN = true := by
            simp [XmlNode.isElement, hinvalid, htag]
          rw [if_neg (not_not_intro htag), List.all_cons, hok, Bool.true_and,
            List.takeWhile_cons_of_pos hok, entriesIn, List.filter_cons_of_pos helement]
          cases hinfo : FillinPluginInfo node isRssExe with
          | none =>
              rw [List.filterMap_cons, hinfo, ← entriesIn]
              exact ih table
          | some info =>
              rw [List.filterMap_cons, hinfo, ← entriesIn]
              refine ⟨(ih _).1, fun libPath => ?_⟩
              rw [(ih _).2, lastEntry_cons, AssocMap.lookup_insert_ite, Option.or_assoc]
              congr 1
              split_ifs <;> rfl
        · have hfault : pluginOrSkipped node = false := by
            simp [pluginOrSkipped, hinvalid, htag]
          rw [if_pos htag, List.all_cons, hfault, List.takeWhile_cons_of_neg (by simp [hfault])]
          exact ⟨rfl, fun _ => rfl⟩

/-- A content is accepted when it has no fault; either way the entries before the first wrong
element are written. -/
theorem LoadFromConfigContent_spec (xmlReadMemory : String → Option XmlNode)
    (table : AssocMap String PluginInfo) (switch : SwitchContent) :
    (LoadFromConfigContent xmlReadMemory table switch.1 switch.2).1 =
        (acceptedSwitch xmlReadMemory switch.1).isSome ∧ ∀ libPath,
      (LoadFromConfigContent xmlReadMemory table switch.1 switch.2).2.lookup libPath =
        (lastEntry (readEntries xmlReadMemory switch) libPath).or (table.lookup libPath) := by
  rw [LoadFromConfigContent, acceptedSwitch, readEntries, switchRoot]
  cases xmlReadMemory switch.1 with
  | none => exact ⟨rfl, fun _ => rfl⟩
  | some root =>
      dsimp only
      by_cases hname : root.name = some XML_TAG_PLUGIN_LIST
      · rw [if_neg (not_not_intro hname), Option.filter_some_pos (by simp [hname])]
        refine ⟨?_, (LoadNodes_spec switch.2 root.children table).2⟩
        rw [(LoadNodes_spec switch.2 root.children table).1]
        by_cases hall : root.children.all pluginOrSkipped = true
        · rw [Option.filter_some_pos (by exact hall), hall]
          rfl
        · rw [Option.filter_some_neg (by exact Bool.eq_false_of_not_eq_true hall),
            Bool.eq_false_of_not_eq_true hall]
          rfl
      · rw [if_pos hname, Option.filter_some_neg (by simp [hname])]
        exact ⟨rfl, fun _ => rfl⟩

theorem readEntries_of_accepted {xmlReadMemory : String → Option XmlNode}
    {switch : SwitchContent} {root : XmlNode}
    (h : acceptedSwitch xmlReadMemory switch.1 = some root) :
    readEntries xmlReadMemory switch = acceptedEntries xmlReadMemory switch := by
  rw [readEntries, acceptedEntries, h]
  rw [acceptedSwitch, Option.filter_eq_some_iff] at h
  rw [h.1, Option.elim_some, Option.elim_some, List.takeWhile_eq_self_iff.mpr]
  exact List.all_eq_true.mp h.2

/-- A refused content changes no entry exactly when its entries only repeat the table. -/
theorem refused_unchanged_iff (xmlReadMemory : String → Option XmlNode)
    (table : AssocMap String PluginInfo) (switch : SwitchContent) :
    ((LoadFromConfigContent xmlReadMemory table switch.1 switch.2).1 = false → ∀ libPath,
      (LoadFromConfigContent xmlReadMemory table switch.1 switch.2).2.lookup libPath =
        table.lookup libPath) ↔ RefusedRepeats xmlReadMemory table switch := by
  obtain ⟨haccepted, hlookup⟩ := LoadFromConfigContent_spec xmlReadMemory table switch
  rw [haccepted, Option.isSome_eq_false_iff, Option.isNone_iff_eq_none, RefusedRepeats]
  refine imp_congr_right fun _ => forall_congr' fun libPath => ?_
  rw [hlookup]
  cases lastEntry (readEntries xmlReadMemory switch) libPath with
  | none => simp
  | some info => simp [eq_comm]

/-- While refused contents only repeat the table, it holds the last accepted entries. -/
theorem lookup_run (xmlReadMemory : String → Option XmlNode) (switches : List SwitchContent)
    (h : EachStep (loadSwitch xmlReadMemory) (RefusedRepeats xmlReadMemory) ∅ switches)
    (libPath : String) :
    (run (loadSwitch xmlReadMemory) ∅ switches).lookup libPath =
      lastEntry (switches.flatMap (acceptedEntries xmlReadMemory)) libPath := by
  induction switches using List.reverseRecOn with
  | nil => rfl
  | append_singleton switches switch ih =>
      rw [eachStep_append, eachStep_cons] at h
      obtain ⟨hfront, hrepeats, -⟩ := h
      rw [run_concat, loadSwitch, List.flatMap_append, List.flatMap_singleton, lastEntry_append,
        ← ih hfront]
      cases haccepted : acceptedSwitch xmlReadMemory switch.1 with
      | none =>
          have hentries : acceptedEntries xmlReadMemory switch = [] := by
            rw [acceptedEntries, haccepted]
            rfl
          rw [hentries]
          refine (refused_unchanged_iff xmlReadMemory _ switch).mpr hrepeats ?_ libPath
          rw [(LoadFromConfigContent_spec xmlReadMemory _ switch).1, haccepted]
          rfl
      | some root =>
          rw [(LoadFromConfigContent_spec xmlReadMemory _ switch).2,
            readEntries_of_accepted haccepted]

end PluginSwitch

/-! ## Main result -/

/-- Whatever contents are loaded, each configuration is the last one given for its names and the
switch table holds the last accepted entries, and what is refused changes nothing, if and only if
every refused switch content only repeats the table before its first wrong element. -/
theorem contents_loaded_iff (xmlReadMemory : String → Option XmlNode) (contents : List String)
    (switches : List PluginSwitch.SwitchContent) :
    (ConfigsLoaded xmlReadMemory contents ∧ PluginSwitch.SwitchesLoaded xmlReadMemory switches) ↔
      EachStep (PluginSwitch.loadSwitch xmlReadMemory) (PluginSwitch.RefusedRepeats xmlReadMemory)
        ∅ switches := by
  rw [and_iff_right (configsLoaded xmlReadMemory contents), PluginSwitch.SwitchesLoaded]
  simp only [PluginSwitch.refused_unchanged_iff]
  exact and_iff_right_of_imp fun h libPath => PluginSwitch.lookup_run xmlReadMemory switches h libPath

/-- A list of plugins with a wrong element behind the first plugin. -/
def faultyList : XmlNode where
  name := some "pluginlist"
  isComment := false
  properties := []
  content := some ""
  children :=
    [⟨some "plugin", false, [⟨some "libpath", some "lib.so"⟩, ⟨some "switch", some "1"⟩], some "",
        []⟩,
      ⟨some "config", false, [], some "", []⟩]

def faultyContent : String :=
  "<pluginlist><plugin libpath=\"lib.so\" switch=\"1\"/><config/></pluginlist>"

theorem faultyList_switches :
    ¬ ∀ xmlReadMemory contents switches, ConfigsLoaded xmlReadMemory contents ∧
      PluginSwitch.SwitchesLoaded xmlReadMemory switches := by
  intro h
  obtain ⟨-, hloaded, -⟩ := h
    (fun content => if content = faultyContent then some faultyList else none) []
    [(faultyContent, false)]
  exact absurd (hloaded "lib.so") (by decide +kernel)

end ResSched
