import ResSched.Model.SocPerf.Lifecycle
import ResSched.Verification.Plugin.Repair
import ResSched.Verification.Plugin.Subscription
import ResSched.Verification.SocPerf.Focus

/-! # Repairing the SocPerf plugin after its configuration has been read -/

namespace ResSched

/-! ## Configurations that have been removed -/

/-- The configuration the reader holds, if it holds one. -/
def ConfigReader.config? (reader : ConfigReader) (pluginName configName : String) :
    Option PluginConfig :=
  (reader.allPluginConfigs_.lookup pluginName).bind fun configMap => configMap.lookup configName

theorem ConfigReader.getConfig_eq (reader : ConfigReader) (pluginName configName : String) :
    reader.GetConfig pluginName configName = (reader.config? pluginName configName).getD ⟨[]⟩ := by
  rw [ConfigReader.GetConfig, ConfigReader.config?]
  cases reader.allPluginConfigs_.lookup pluginName <;> rfl

theorem ConfigReader.config?_removeConfig (reader : ConfigReader)
    (pluginName configName plugin config : String) :
    (reader.RemoveConfig pluginName configName).config? plugin config =
      if plugin = pluginName ∧ config = configName then none
      else reader.config? plugin config := by
  rw [ConfigReader.RemoveConfig]
  cases hplugin : reader.allPluginConfigs_.lookup pluginName with
  | none =>
      show reader.config? plugin config = _
      split_ifs with hsame
      · rw [hsame.1, ConfigReader.config?, hplugin]
        rfl
      · rfl
  | some configMap =>
      have hsplit : (∀ config, reader.config? pluginName config = configMap.lookup config) := by
        intro config
        rw [ConfigReader.config?, hplugin]
        rfl
      show (if (configMap.lookup configName).isNone then reader else _).config? plugin config = _
      by_cases hconfig : (configMap.lookup configName).isNone
      · rw [if_pos hconfig]
        split_ifs with hsame
        · rw [hsame.1, hsame.2, hsplit]
          exact Option.isNone_iff_eq_none.mp hconfig
        · rfl
      · rw [if_neg hconfig]
        have herased := AssocMap.lookup_erase_ite configMap configName
        by_cases hempty : (AList.erase configName configMap).keys.length = 0
        · rw [if_pos hempty, ConfigReader.config?, AssocMap.lookup_erase_ite]
          by_cases hsame : plugin = pluginName
          · have hnone : (AList.erase configName configMap).lookup config = none := by
              rw [AList.lookup_eq_none, AList.mem_keys, List.length_eq_zero_iff.mp hempty]
              exact List.not_mem_nil
            rw [herased] at hnone
            rw [if_pos hsame, hsame, hsplit]
            by_cases hname : config = configName
            · rw [if_pos ⟨rfl, hname⟩]
              rfl
            · rw [if_neg hname] at hnone
              rw [if_neg fun h => hname h.2, hnone]
              rfl
          · rw [if_neg hsame, if_neg fun h => hsame h.1]
            rfl
        · rw [if_neg hempty, ConfigReader.config?, AssocMap.lookup_insert_ite]
          by_cases hsame : plugin = pluginName
          · rw [if_pos hsame, hsame, hsplit]
            show (AList.erase configName configMap).lookup config = _
            rw [herased]
            by_cases hname : config = configName
            · rw [if_pos hname, if_pos ⟨rfl, hname⟩]
            · rw [if_neg hname, if_neg fun h => hname h.2]
          · rw [if_neg hsame, if_neg fun h => hsame h.1]
            rfl

theorem ConfigReader.getConfig_removeConfig (reader : ConfigReader)
    (pluginName configName config : String) :
    (reader.RemoveConfig pluginName configName).GetConfig pluginName config =
      if config = configName then ⟨[]⟩ else reader.GetConfig pluginName config := by
  rw [ConfigReader.getConfig_eq, ConfigReader.config?_removeConfig, ConfigReader.getConfig_eq]
  by_cases hname : config = configName
  · rw [if_pos ⟨rfl, hname⟩, if_pos hname]
    rfl
  · rw [if_neg fun h => hname h.2, if_neg hname]

end ResSched

namespace ResSched.SocPerf.Lifecycle

/-! ## Init as a function of the configurations it finds -/

theorem initFrom_reader (configName : String) (load : Plugin → PluginConfig → Plugin)
    (system : System) :
    (system.initFrom configName load).reader =
      system.reader.RemoveConfig PLUGIN_NAME configName :=
  rfl

theorem initFrom_plugin (configName : String) (load : Plugin → PluginConfig → Plugin)
    (system : System) :
    (system.initFrom configName load).plugin =
      load system.plugin (system.reader.GetConfig PLUGIN_NAME configName) :=
  rfl

theorem initFrom_mgr (configName : String) (load : Plugin → PluginConfig → Plugin)
    (system : System) : (system.initFrom configName load).mgr = system.mgr :=
  rfl

/-- What `Init` makes of a plugin that finds the configurations `config`. -/
def initPlugin (env : External) (build : Build) (config : String → PluginConfig)
    (plugin : Plugin) : Plugin :=
  let plugin := loadEventId plugin (config CONFIG_NAME_SOCPERF_EVENT_ID)
  let plugin := setFunctionMap build (InitResTypeWithVal (InitResTypes build plugin))
  let plugin := loadFeatureSwitch plugin (config CONFIG_NAME_SOCPERF_FEATURE_SWITCH)
  let plugin := LoadSpecialExtension plugin (config SPECIAL_EXTENSION_STRING)
  let plugin := loadPerfCrucialSo env plugin (config CNOFIG_NAME_SOCPERF_CRUCIAL_FUNC)
  let plugin := InitBundleNameBoostLists plugin
    (config CONFIG_NAME_SOCPERF_BUNDLE_NAME_BOOST_LIST)
  let plugin := loadWeakInterAction env plugin (config WEAK_ACTION_STRING)
  let plugin := loadBatteryCapacityLimitFreq plugin
    (config CONFIG_NAME_SOCPERF_BATTERY_CAPACITY_LIMIT_FREQ)
  loadPolicyMode plugin (config CONFIG_NAME_SOCPERF_POLICY_MODE)
    (config CONFIG_NAME_SOCPERF_LIMIT_POLICY)

/-- The configurations `Init` reads, in order. -/
def configNames : List String :=
  [CONFIG_NAME_SOCPERF_EVENT_ID, CONFIG_NAME_SOCPERF_FEATURE_SWITCH, SPECIAL_EXTENSION_STRING,
    CNOFIG_NAME_SOCPERF_CRUCIAL_FUNC, CONFIG_NAME_SOCPERF_BUNDLE_NAME_BOOST_LIST,
    WEAK_ACTION_STRING, CONFIG_NAME_SOCPERF_BATTERY_CAPACITY_LIMIT_FREQ,
    CONFIG_NAME_SOCPERF_POLICY_MODE, CONFIG_NAME_SOCPERF_LIMIT_POLICY]

def removeAll (names : List String) (reader : ConfigReader) : ConfigReader :=
  names.foldl (fun reader name => reader.RemoveConfig PLUGIN_NAME name) reader

theorem getConfig_removeAll (names : List String) (reader : ConfigReader) (name : String) :
    (removeAll names reader).GetConfig PLUGIN_NAME name =
      if name ∈ names then ⟨[]⟩ else reader.GetConfig PLUGIN_NAME name := by
  induction names generalizing reader with
  | nil => rfl
  | cons first names ih =>
      show (removeAll names (reader.RemoveConfig PLUGIN_NAME first)).GetConfig PLUGIN_NAME name = _
      rw [ih, ConfigReader.getConfig_removeConfig]
      by_cases hmem : name ∈ names
      · rw [if_pos hmem, if_pos (List.mem_cons_of_mem first hmem)]
      · by_cases hfirst : name = first
        · rw [if_neg hmem, if_pos hfirst, hfirst, if_pos List.mem_cons_self]
        · rw [if_neg hmem, if_neg hfirst, if_neg fun h => ?_]
          exact (List.mem_cons.mp h).elim hfirst hmem

theorem init_reader (env : External) (build : Build) (system : System) :
    (Init env build system).reader = removeAll configNames system.reader := by
  simp only [Init, InitPolicyMode, InitBatteryCapacityLimitFreq, InitWeakInterAction,
    InitBundleNameBoostList, InitPerfCrucialSo, subscribe, InitSpecialExtension, InitFunctionMap,
    InitFeatureSwitch, InitEventId, initFrom_reader, removeAll, configNames, List.foldl_cons,
    List.foldl_nil]

theorem init_plugin (env : External) (build : Build) (system : System) :
    (Init env build system).plugin =
      initPlugin env build (system.reader.GetConfig PLUGIN_NAME) system.plugin := by
  simp only [Init, InitPolicyMode, InitBatteryCapacityLimitFreq, InitWeakInterAction,
    InitBundleNameBoostList, InitPerfCrucialSo, subscribe, InitSpecialExtension, InitFunctionMap,
    InitFeatureSwitch, InitEventId, initFrom_reader, initFrom_plugin, initPlugin]
  -- each configuration is read under a name that has not been removed yet
  simp (disch := decide) only [ConfigReader.getConfig_removeConfig, if_neg]

/-! ## What a sub-initialiser leaves alone -/

theorem foldl_keeps {α β γ : Type*} {f : β → α → β} {g : β → γ} (h : ∀ b a, g (f b a) = g b)
    (l : List α) (b : β) : g (l.foldl f b) = g b := by
  induction l generalizing b with
  | nil => rfl
  | cons a l ih => exact (ih (f b a)).trans (h b a)

/-- The fields a plugin is subscribed and dispatched by, and the feature switch. -/
def Plugin.typePart (plugin : Plugin) :
    Int × Int × List Nat × List (Nat × Int) × AssocMap Nat Handler × Bool :=
  (plugin.RES_TYPE_SCENE_BOARD_ID, plugin.RES_TYPE_RGM_BOOTING_STATUS, plugin.resTypes,
    plugin.resTypeWithVal_, plugin.functionMap, plugin.socperfGameBoostSwitch_)

/-- The fields about the function of the application types. -/
def Plugin.crucialPart (plugin : Plugin) :
    String × String × Option String × Option (String → Int) :=
  (plugin.perfReqAppTypeSoPath_, plugin.perfReqAppTypeSoFunc_, plugin.handle_,
    plugin.reqAppTypeFunc_)

theorem loadEventId_crucialPart (plugin : Plugin) (itemLists : PluginConfig) :
    (loadEventId plugin itemLists).crucialPart = plugin.crucialPart := by
  refine foldl_keeps (fun plugin sub => ?_) (subItems itemLists) plugin
  split_ifs <;> rfl

theorem loadSpecialExtension_parts (plugin : Plugin) (itemLists : PluginConfig) :
    (LoadSpecialExtension plugin itemLists).typePart = plugin.typePart ∧
      (LoadSpecialExtension plugin itemLists).crucialPart = plugin.crucialPart := by
  have hstep : ∀ (plugin : Plugin) (sub : SubItem),
      (if sub.name = INFO_STRING then AddSpecialExtension plugin sub else plugin).typePart =
          plugin.typePart ∧
        (if sub.name = INFO_STRING then AddSpecialExtension plugin sub else plugin).crucialPart =
          plugin.crucialPart := by
    intro plugin sub
    split_ifs
    · rw [AddSpecialExtension]
      split <;> exact ⟨rfl, rfl⟩
    · exact ⟨rfl, rfl⟩
  exact ⟨foldl_keeps (fun plugin sub => (hstep plugin sub).1) _ plugin,
    foldl_keeps (fun plugin sub => (hstep plugin sub).2) _ plugin⟩

theorem initBundleNameBoostLists_parts (plugin : Plugin) (itemLists : PluginConfig) :
    (InitBundleNameBoostLists plugin itemLists).typePart = plugin.typePart ∧
      (InitBundleNameBoostLists plugin itemLists).crucialPart = plugin.crucialPart := by
  constructor
  · refine foldl_keeps (fun plugin sub => ?_) (subItems itemLists) plugin
    split_ifs <;> rfl
  · refine foldl_keeps (fun plugin sub => ?_) (subItems itemLists) plugin
    split_ifs <;> rfl

/-! ## The function of the application types -/

/-- The library that is open and the function found in it, from the configured names and from
the function there was. -/
def crucialOf (env : External) (path func : String) (old : Option (String → Int)) :
    Option String × Option (String → Int) :=
  if path ≠ "" ∧ func ≠ "" then
    if env.dlopen (CLibrary.cString path) then
      match env.dlsym (CLibrary.cString path) (CLibrary.cString func) with
      | some reqAppTypeFunc_ => (some (CLibrary.cString path), some reqAppTypeFunc_)
      | none => (none, none)
    else (none, old)
  else (none, old)

/-- Loading again finds the same. -/
theorem crucialOf_again (env : External) (path func : String) :
    crucialOf env path func (crucialOf env path func none).2 = crucialOf env path func none := by
  rw [crucialOf, crucialOf]
  split_ifs
  · rfl
  · rfl
  · rfl

/-- The plugin with the names of the library and the function that a configuration gives. -/
def setCrucialNames (plugin : Plugin) (itemLists : PluginConfig) : Plugin :=
  (subItems itemLists).foldl (fun plugin sub =>
    let plugin :=
      if sub.name = SUB_ITEM_KEY_NAME_SOCPERF_RERQ_APPTYPE_PATH then
        { plugin with perfReqAppTypeSoPath_ := sub.value }
      else plugin
    if sub.name = SUB_ITEM_KEY_NAME_SOCPERF_RERQ_APPTYPE_FUNC then
      { plugin with perfReqAppTypeSoFunc_ := sub.value }
    else plugin) plugin

theorem setCrucialNames_keeps (plugin : Plugin) (itemLists : PluginConfig) :
    (setCrucialNames plugin itemLists).typePart = plugin.typePart ∧
      (setCrucialNames plugin itemLists).handle_ = plugin.handle_ ∧
        (setCrucialNames plugin itemLists).reqAppTypeFunc_ = plugin.reqAppTypeFunc_ := by
  refine ⟨?_, ?_, ?_⟩
  · refine foldl_keeps (fun plugin sub => ?_) (subItems itemLists) plugin
    split_ifs <;> rfl
  · refine foldl_keeps (fun plugin sub => ?_) (subItems itemLists) plugin
    split_ifs <;> rfl
  · refine foldl_keeps (fun plugin sub => ?_) (subItems itemLists) plugin
    split_ifs <;> rfl

theorem loadPerfCrucialSo_named (env : External) (plugin : Plugin) (itemLists : PluginConfig) :
    loadPerfCrucialSo env plugin itemLists =
      let named := setCrucialNames plugin itemLists
      if named.perfReqAppTypeSoPath_ ≠ "" ∧ named.perfReqAppTypeSoFunc_ ≠ "" then
        InitPerfCrucialFunc env named (CLibrary.cString named.perfReqAppTypeSoPath_)
          (CLibrary.cString named.perfReqAppTypeSoFunc_)
      else named :=
  rfl

theorem loadPerfCrucialSo_typePart (env : External) (plugin : Plugin)
    (itemLists : PluginConfig) :
    (loadPerfCrucialSo env plugin itemLists).typePart = plugin.typePart := by
  rw [← (setCrucialNames_keeps plugin itemLists).1, loadPerfCrucialSo_named]
  generalize setCrucialNames plugin itemLists = named
  simp only [InitPerfCrucialFunc]
  split_ifs
  · cases env.dlsym _ _ <;> rfl
  · rfl
  · rfl

theorem loadPerfCrucialSo_eq (env : External) (plugin : Plugin) (itemLists : PluginConfig)
    (hclosed : plugin.handle_ = none) :
    loadPerfCrucialSo env plugin itemLists =
      let named := setCrucialNames plugin itemLists
      let found := crucialOf env named.perfReqAppTypeSoPath_ named.perfReqAppTypeSoFunc_
        plugin.reqAppTypeFunc_
      { named with handle_ := found.1, reqAppTypeFunc_ := found.2 } := by
  obtain ⟨-, hhandle, hfunc⟩ := setCrucialNames_keeps plugin itemLists
  rw [loadPerfCrucialSo_named]
  rw [hclosed] at hhandle
  generalize setCrucialNames plugin itemLists = named at hhandle hfunc
  rw [← hfunc]
  simp only [crucialOf, InitPerfCrucialFunc]
  split_ifs
  · cases env.dlsym _ _ <;> rfl
  · rfl
  · rw [← hhandle]

/-! ## Types, pairs and handlers by the event ids -/

/-- A plugin that has been given the event ids only. -/
def withIds (scene rgm : Int) : Plugin :=
  { Plugin.created with RES_TYPE_SCENE_BOARD_ID := scene, RES_TYPE_RGM_BOOTING_STATUS := rgm }

def typesBy (build : Build) (scene rgm : Int) : List Nat :=
  (InitResTypes build (withIds scene rgm)).resTypes

def pairsBy (scene : Int) : List (Nat × Int) :=
  (InitResTypeWithVal (withIds scene 0)).resTypeWithVal_

def handlersBy (build : Build) (scene rgm : Int) : AssocMap Nat Handler :=
  (setFunctionMap build (withIds scene rgm)).functionMap

theorem initResTypes_eq (build : Build) (plugin : Plugin) :
    InitResTypes build plugin =
      { plugin with
        resTypes :=
          typesBy build plugin.RES_TYPE_SCENE_BOARD_ID plugin.RES_TYPE_RGM_BOOTING_STATUS } := by
  simp only [typesBy, InitResTypes, otherResTypes, withIds]

theorem initResTypeWithVal_eq (plugin : Plugin) :
    InitResTypeWithVal plugin =
      { plugin with resTypeWithVal_ := pairsBy plugin.RES_TYPE_SCENE_BOARD_ID } := by
  simp only [pairsBy, InitResTypeWithVal, withIds]

theorem setFunctionMap_eq (build : Build) (plugin : Plugin) :
    setFunctionMap build plugin =
      { plugin with
        functionMap :=
          handlersBy build plugin.RES_TYPE_SCENE_BOARD_ID plugin.RES_TYPE_RGM_BOOTING_STATUS } := by
  simp only [handlersBy, setFunctionMap, AddEventToFunctionMap, withIds]

theorem setTypes_eq (build : Build) (plugin : Plugin) :
    setFunctionMap build (InitResTypeWithVal (InitResTypes build plugin)) =
      { plugin with
        resTypes :=
          typesBy build plugin.RES_TYPE_SCENE_BOARD_ID plugin.RES_TYPE_RGM_BOOTING_STATUS
        resTypeWithVal_ := pairsBy plugin.RES_TYPE_SCENE_BOARD_ID
        functionMap :=
          handlersBy build plugin.RES_TYPE_SCENE_BOARD_ID plugin.RES_TYPE_RGM_BOOTING_STATUS } := by
  rw [initResTypes_eq, initResTypeWithVal_eq, setFunctionMap_eq]

/-! ## An initialised plugin -/

/-- What `Init` leaves and a repair relies on. -/
structure Ready (env : External) (build : Build) (plugin : Plugin) : Prop where
  types : plugin.resTypes =
    typesBy build plugin.RES_TYPE_SCENE_BOARD_ID plugin.RES_TYPE_RGM_BOOTING_STATUS
  pairs : plugin.resTypeWithVal_ = pairsBy plugin.RES_TYPE_SCENE_BOARD_ID
  handlers : plugin.functionMap =
    handlersBy build plugin.RES_TYPE_SCENE_BOARD_ID plugin.RES_TYPE_RGM_BOOTING_STATUS
  crucial : crucialOf env plugin.perfReqAppTypeSoPath_ plugin.perfReqAppTypeSoFunc_
    plugin.reqAppTypeFunc_ = (plugin.handle_, plugin.reqAppTypeFunc_)

/-- A plugin is ready by the two parts of its state. -/
theorem Ready.of_parts {env : External} {build : Build} {plugin plugin' : Plugin}
    (h : Ready env build plugin) (htypes : plugin'.typePart = plugin.typePart)
    (hcrucial : plugin'.crucialPart = plugin.crucialPart) : Ready env build plugin' := by
  simp only [Plugin.typePart, Prod.mk.injEq] at htypes
  simp only [Plugin.crucialPart, Prod.mk.injEq] at hcrucial
  obtain ⟨hscene, hrgm, hres, hval, hmap, -⟩ := htypes
  obtain ⟨hpath, hname, hhandle, hfunc⟩ := hcrucial
  constructor
  · rw [hres, hscene, hrgm]
    exact h.types
  · rw [hval, hscene]
    exact h.pairs
  · rw [hmap, hscene, hrgm]
    exact h.handlers
  · rw [hpath, hname, hhandle, hfunc]
    exact h.crucial

/-- A plugin whose types and handlers are set becomes ready with the function it loads. -/
theorem ready_loadPerfCrucialSo (env : External) (build : Build) (plugin typed : Plugin)
    (switches itemLists : PluginConfig) (hclosed : typed.handle_ = none)
    (hunset : typed.reqAppTypeFunc_ = none)
    (htypes : typed.typePart = (loadFeatureSwitch
      (setFunctionMap build (InitResTypeWithVal (InitResTypes build plugin))) switches).typePart) :
    Ready env build (loadPerfCrucialSo env typed itemLists) := by
  obtain ⟨hparts, -, -⟩ := setCrucialNames_keeps typed itemLists
  rw [loadPerfCrucialSo_eq env typed itemLists hclosed, hunset]
  rw [htypes, setTypes_eq] at hparts
  generalize setCrucialNames typed itemLists = named at hparts
  simp only [loadFeatureSwitch, Plugin.typePart, Prod.mk.injEq] at hparts
  obtain ⟨hscene, hrgm, hres, hval, hmap, -⟩ := hparts
  rw [← hscene, ← hrgm] at hres hmap
  rw [← hscene] at hval
  exact ⟨hres, hval, hmap, crucialOf_again env _ _⟩

/-- The last sub-initialisers set the focus and the battery only. -/
theorem late_parts (env : External) (plugin : Plugin)
    (weak battery mode limits : PluginConfig) :
    (loadPolicyMode (loadBatteryCapacityLimitFreq (loadWeakInterAction env plugin weak) battery)
        mode limits).typePart = plugin.typePart ∧
      (loadPolicyMode (loadBatteryCapacityLimitFreq (loadWeakInterAction env plugin weak) battery)
        mode limits).crucialPart = plugin.crucialPart :=
  ⟨rfl, rfl⟩

/-- `Init` sets types, handlers and switch by the ids it has loaded. -/
theorem initPlugin_typePart (env : External) (build : Build) (config : String → PluginConfig)
    (plugin : Plugin) :
    (initPlugin env build config plugin).typePart =
      (loadFeatureSwitch (setFunctionMap build (InitResTypeWithVal (InitResTypes build
        (loadEventId plugin (config CONFIG_NAME_SOCPERF_EVENT_ID)))))
        (config CONFIG_NAME_SOCPERF_FEATURE_SWITCH)).typePart := by
  simp only [initPlugin]
  rw [(late_parts env _ _ _ _ _).1, (initBundleNameBoostLists_parts _ _).1,
    loadPerfCrucialSo_typePart, (loadSpecialExtension_parts _ _).1]

theorem initPlugin_ready (env : External) (build : Build) (config : String → PluginConfig) :
    Ready env build (initPlugin env build config Plugin.created) := by
  simp only [initPlugin]
  generalize hids : loadEventId Plugin.created (config CONFIG_NAME_SOCPERF_EVENT_ID) = plugin
  have hcreated := loadEventId_crucialPart Plugin.created (config CONFIG_NAME_SOCPERF_EVENT_ID)
  rw [hids] at hcreated
  have hset : (setFunctionMap build (InitResTypeWithVal (InitResTypes build plugin))).crucialPart =
      plugin.crucialPart := by
    rw [setTypes_eq]
    rfl
  have hswitch : ∀ (plugin : Plugin) (itemLists : PluginConfig),
      (loadFeatureSwitch plugin itemLists).crucialPart = plugin.crucialPart := fun _ _ => rfl
  obtain ⟨htypes, hcrucial⟩ := loadSpecialExtension_parts
    (loadFeatureSwitch (setFunctionMap build (InitResTypeWithVal (InitResTypes build plugin)))
      (config CONFIG_NAME_SOCPERF_FEATURE_SWITCH)) (config SPECIAL_EXTENSION_STRING)
  have hnone := ((hcrucial.trans (hswitch _ _)).trans hset).trans hcreated
  simp only [Plugin.crucialPart, Prod.mk.injEq] at hnone
  have hready := ready_loadPerfCrucialSo env build plugin _
    (config CONFIG_NAME_SOCPERF_FEATURE_SWITCH) (config CNOFIG_NAME_SOCPERF_CRUCIAL_FUNC)
    hnone.2.2.1 hnone.2.2.2 htypes
  obtain ⟨hlistTypes, hlistCrucial⟩ := initBundleNameBoostLists_parts
    (loadPerfCrucialSo env _ (config CNOFIG_NAME_SOCPERF_CRUCIAL_FUNC))
    (config CONFIG_NAME_SOCPERF_BUNDLE_NAME_BOOST_LIST)
  obtain ⟨hlateTypes, hlateCrucial⟩ := late_parts env
    (InitBundleNameBoostLists
      (loadPerfCrucialSo env _ (config CNOFIG_NAME_SOCPERF_CRUCIAL_FUNC))
      (config CONFIG_NAME_SOCPERF_BUNDLE_NAME_BOOST_LIST))
    (config WEAK_ACTION_STRING) (config CONFIG_NAME_SOCPERF_BATTERY_CAPACITY_LIMIT_FREQ)
    (config CONFIG_NAME_SOCPERF_POLICY_MODE) (config CONFIG_NAME_SOCPERF_LIMIT_POLICY)
  exact (hready.of_parts hlistTypes hlistCrucial).of_parts hlateTypes hlateCrucial

/-- Without its configuration, initialising a disabled plugin again brings everything back but the
feature switch. -/
theorem initPlugin_disabled (env : External) (build : Build) (plugin : Plugin)
    (h : Ready env build plugin) :
    initPlugin env build (fun _ => ⟨[]⟩)
        { plugin with functionMap := ∅, resTypes := [], handle_ := none } =
      { plugin with socperfGameBoostSwitch_ := false } := by
  have htyped : setFunctionMap build (InitResTypeWithVal (InitResTypes build
      { plugin with functionMap := ∅, resTypes := [], handle_ := none })) =
        { plugin with handle_ := none } := by
    rw [setTypes_eq]
    simp only [← h.types, ← h.pairs, ← h.handlers]
  have hcrucial : loadPerfCrucialSo env
      { plugin with handle_ := none, socperfGameBoostSwitch_ := false } ⟨[]⟩ =
        { plugin with socperfGameBoostSwitch_ := false } := by
    rw [loadPerfCrucialSo_eq env _ _ rfl]
    show { plugin with
      handle_ := (crucialOf env plugin.perfReqAppTypeSoPath_ plugin.perfReqAppTypeSoFunc_
        plugin.reqAppTypeFunc_).1
      reqAppTypeFunc_ := (crucialOf env plugin.perfReqAppTypeSoPath_
        plugin.perfReqAppTypeSoFunc_ plugin.reqAppTypeFunc_).2
      socperfGameBoostSwitch_ := false } = _
    rw [h.crucial]
  have hearly : LoadSpecialExtension (loadFeatureSwitch (setFunctionMap build
      (InitResTypeWithVal (InitResTypes build (loadEventId
        { plugin with functionMap := ∅, resTypes := [], handle_ := none } ⟨[]⟩)))) ⟨[]⟩) ⟨[]⟩ =
          { plugin with handle_ := none, socperfGameBoostSwitch_ := false } := by
    rw [show loadEventId { plugin with functionMap := ∅, resTypes := [], handle_ := none } ⟨[]⟩ =
      { plugin with functionMap := ∅, resTypes := [], handle_ := none } from rfl, htyped]
    rfl
  simp only [initPlugin]
  rw [hearly, hcrucial]
  rfl

/-! ## Subscriptions -/

open ResSched.Plugin (PluginMgr Topic accurateTopic)

/-- Subscribing one after the other adds the topics of all. -/
theorem mem_foldl_subscribe {β : Type*} (f : PluginMgr → β → PluginMgr)
    (topicOf : Bool → β → Topic)
    (haccurately : ∀ mgr b,
      (f mgr b).subscriptionAccuractlyEnable = mgr.subscriptionAccuractlyEnable)
    (hstep : ∀ mgr b topic, LIB_NAME ∈ (f mgr b).subscribers topic ↔
      LIB_NAME ∈ mgr.subscribers topic ∨ topic = topicOf mgr.subscriptionAccuractlyEnable b)
    (l : List β) (mgr : PluginMgr) :
    (l.foldl f mgr).subscriptionAccuractlyEnable = mgr.subscriptionAccuractlyEnable ∧
      ∀ topic, LIB_NAME ∈ (l.foldl f mgr).subscribers topic ↔
        LIB_NAME ∈ mgr.subscribers topic ∨
          ∃ b ∈ l, topic = topicOf mgr.subscriptionAccuractlyEnable b := by
  induction l generalizing mgr with
  | nil =>
      refine ⟨rfl, fun topic => ?_⟩
      simp
  | cons b l ih =>
      obtain ⟨hacc, hmem⟩ := ih (f mgr b)
      refine ⟨hacc.trans (haccurately mgr b), fun topic => ?_⟩
      rw [List.foldl_cons, hmem topic, hstep, haccurately, List.exists_mem_cons_iff, or_assoc]

/-- Unsubscribing one after the other removes the topics of all. -/
theorem mem_foldl_unsubscribe {β : Type*} (f : PluginMgr → β → PluginMgr)
    (topicOf : Bool → β → Topic)
    (haccurately : ∀ mgr b,
      (f mgr b).subscriptionAccuractlyEnable = mgr.subscriptionAccuractlyEnable)
    (hstep : ∀ mgr b topic, LIB_NAME ∈ (f mgr b).subscribers topic ↔
      LIB_NAME ∈ mgr.subscribers topic ∧ topic ≠ topicOf mgr.subscriptionAccuractlyEnable b)
    (l : List β) (mgr : PluginMgr) :
    (l.foldl f mgr).subscriptionAccuractlyEnable = mgr.subscriptionAccuractlyEnable ∧
      ∀ topic, LIB_NAME ∈ (l.foldl f mgr).subscribers topic ↔
        LIB_NAME ∈ mgr.subscribers topic ∧
          ¬ ∃ b ∈ l, topic = topicOf mgr.subscriptionAccuractlyEnable b := by
  induction l generalizing mgr with
  | nil =>
      refine ⟨rfl, fun topic => ?_⟩
      simp
  | cons b l ih =>
      obtain ⟨hacc, hmem⟩ := ih (f mgr b)
      refine ⟨hacc.trans (haccurately mgr b), fun topic => ?_⟩
      rw [List.foldl_cons, hmem topic, hstep, haccurately, List.exists_mem_cons_iff, not_or,
        and_assoc]

/-- The topics a plugin with these types and pairs subscribes to. -/
def IsTopic (accurately : Bool) (types : List Nat) (pairs : List (Nat × Int)) (topic : Topic) :
    Prop :=
  (∃ resType ∈ types, topic = .type resType) ∨
    ∃ pair ∈ pairs, topic = accurateTopic accurately pair.1 pair.2

def subscribeTo (types : List Nat) (pairs : List (Nat × Int)) (mgr : PluginMgr) : PluginMgr :=
  pairs.foldl (fun mgr pair => mgr.SubscribeResourceAccurately LIB_NAME pair.1 pair.2)
    (types.foldl (fun mgr resType => mgr.SubscribeResource LIB_NAME resType) mgr)

def unsubscribeFrom (types : List Nat) (pairs : List (Nat × Int)) (mgr : PluginMgr) : PluginMgr :=
  pairs.foldl (fun mgr pair => mgr.UnSubscribeResourceAccurately LIB_NAME pair.1 pair.2)
    (types.foldl (fun mgr resType => mgr.UnSubscribeResource LIB_NAME resType) mgr)

theorem subscribe_accurately (mgr : PluginMgr) (pluginLib : String) (resType : Nat) :
    (mgr.SubscribeResource pluginLib resType).subscriptionAccuractlyEnable =
        mgr.subscriptionAccuractlyEnable ∧
      (mgr.UnSubscribeResource pluginLib resType).subscriptionAccuractlyEnable =
        mgr.subscriptionAccuractlyEnable := by
  rw [PluginMgr.SubscribeResource, PluginMgr.UnSubscribeResource]
  split_ifs <;> exact ⟨rfl, rfl⟩

theorem subscribeAccurately_accurately (mgr : PluginMgr) (pluginLib : String) (resType : Nat)
    (resValue : Int) :
    (mgr.SubscribeResourceAccurately pluginLib resType resValue).subscriptionAccuractlyEnable =
        mgr.subscriptionAccuractlyEnable ∧
      (mgr.UnSubscribeResourceAccurately pluginLib resType resValue).subscriptionAccuractlyEnable =
        mgr.subscriptionAccuractlyEnable := by
  rw [PluginMgr.SubscribeResourceAccurately, PluginMgr.UnSubscribeResourceAccurately]
  split_ifs
  · exact ⟨rfl, rfl⟩
  · exact subscribe_accurately mgr pluginLib resType
  · exact ⟨rfl, rfl⟩

theorem libName_ne : LIB_NAME ≠ "" := by
  decide

theorem mem_subscribeTo (types : List Nat) (pairs : List (Nat × Int)) (mgr : PluginMgr) :
    (subscribeTo types pairs mgr).subscriptionAccuractlyEnable =
        mgr.subscriptionAccuractlyEnable ∧
      ∀ topic, LIB_NAME ∈ (subscribeTo types pairs mgr).subscribers topic ↔
        LIB_NAME ∈ mgr.subscribers topic ∨
          IsTopic mgr.subscriptionAccuractlyEnable types pairs topic := by
  obtain ⟨hacc, hmem⟩ := mem_foldl_subscribe
    (fun mgr resType => mgr.SubscribeResource LIB_NAME resType)
    (fun _ resType => .type resType)
    (fun mgr resType => (subscribe_accurately mgr LIB_NAME resType).1)
    (fun mgr resType topic => by
      rw [Plugin.mem_subscribers_SubscribeResource mgr LIB_NAME resType libName_ne,
        and_iff_left rfl])
    types mgr
  obtain ⟨hacc', hmem'⟩ := mem_foldl_subscribe
    (fun mgr pair => mgr.SubscribeResourceAccurately LIB_NAME pair.1 pair.2)
    (fun accurately pair => accurateTopic accurately pair.1 pair.2)
    (fun mgr pair => (subscribeAccurately_accurately mgr LIB_NAME pair.1 pair.2).1)
    (fun mgr pair topic => by
      rw [Plugin.mem_subscribers_SubscribeResourceAccurately mgr LIB_NAME _ _ libName_ne,
        and_iff_left rfl])
    pairs (types.foldl (fun mgr resType => mgr.SubscribeResource LIB_NAME resType) mgr)
  refine ⟨hacc'.trans hacc, fun topic => ?_⟩
  rw [subscribeTo, hmem' topic, hmem topic, hacc, IsTopic, or_assoc]

theorem mem_unsubscribeFrom (types : List Nat) (pairs : List (Nat × Int)) (mgr : PluginMgr) :
    (unsubscribeFrom types pairs mgr).subscriptionAccuractlyEnable =
        mgr.subscriptionAccuractlyEnable ∧
      ∀ topic, LIB_NAME ∈ (unsubscribeFrom types pairs mgr).subscribers topic ↔
        LIB_NAME ∈ mgr.subscribers topic ∧
          ¬ IsTopic mgr.subscriptionAccuractlyEnable types pairs topic := by
  obtain ⟨hacc, hmem⟩ := mem_foldl_unsubscribe
    (fun mgr resType => mgr.UnSubscribeResource LIB_NAME resType)
    (fun _ resType => .type resType)
    (fun mgr resType => (subscribe_accurately mgr LIB_NAME resType).2)
    (fun mgr resType topic => by
      rw [Plugin.mem_subscribers_UnSubscribeResource mgr LIB_NAME resType libName_ne,
        and_iff_left rfl])
    types mgr
  obtain ⟨hacc', hmem'⟩ := mem_foldl_unsubscribe
    (fun mgr pair => mgr.UnSubscribeResourceAccurately LIB_NAME pair.1 pair.2)
    (fun accurately pair => accurateTopic accurately pair.1 pair.2)
    (fun mgr pair => (subscribeAccurately_accurately mgr LIB_NAME pair.1 pair.2).2)
    (fun mgr pair topic => by
      rw [Plugin.mem_subscribers_UnSubscribeResourceAccurately mgr LIB_NAME _ _ libName_ne,
        and_iff_left rfl])
    pairs (types.foldl (fun mgr resType => mgr.UnSubscribeResource LIB_NAME resType) mgr)
  refine ⟨hacc'.trans hacc, fun topic => ?_⟩
  rw [unsubscribeFrom, hmem' topic, hmem topic, hacc, IsTopic, not_or, and_assoc]

theorem init_mgr_ids (env : External) (build : Build) (system : System) :
    (Init env build system).mgr =
      subscribeTo
        (typesBy build
          (loadEventId system.plugin (system.reader.GetConfig PLUGIN_NAME
            CONFIG_NAME_SOCPERF_EVENT_ID)).RES_TYPE_SCENE_BOARD_ID
          (loadEventId system.plugin (system.reader.GetConfig PLUGIN_NAME
            CONFIG_NAME_SOCPERF_EVENT_ID)).RES_TYPE_RGM_BOOTING_STATUS)
        (pairsBy (loadEventId system.plugin (system.reader.GetConfig PLUGIN_NAME
          CONFIG_NAME_SOCPERF_EVENT_ID)).RES_TYPE_SCENE_BOARD_ID) system.mgr := by
  have hmgr : (Init env build system).mgr = (subscribe (InitSpecialExtension (InitFunctionMap
      build { InitEventId system with
        plugin := InitResTypeWithVal (InitResTypes build (InitEventId system).plugin) }))).mgr := by
    simp only [Init, InitPolicyMode, InitBatteryCapacityLimitFreq, InitWeakInterAction,
      InitBundleNameBoostList, InitPerfCrucialSo, initFrom_mgr]
  have hstage : ∀ (plugin : Plugin) (reader : ConfigReader) (mgr : PluginMgr),
      (subscribe (InitSpecialExtension (InitFunctionMap build
        ⟨InitResTypeWithVal (InitResTypes build plugin), reader, mgr⟩))).mgr =
          subscribeTo
            (typesBy build plugin.RES_TYPE_SCENE_BOARD_ID plugin.RES_TYPE_RGM_BOOTING_STATUS)
            (pairsBy plugin.RES_TYPE_SCENE_BOARD_ID) mgr := by
    intro plugin reader mgr
    have hparts := (loadSpecialExtension_parts (loadFeatureSwitch
      (setFunctionMap build (InitResTypeWithVal (InitResTypes build plugin)))
      (reader.GetConfig PLUGIN_NAME CONFIG_NAME_SOCPERF_FEATURE_SWITCH))
      ((reader.RemoveConfig PLUGIN_NAME CONFIG_NAME_SOCPERF_FEATURE_SWITCH).GetConfig PLUGIN_NAME
        SPECIAL_EXTENSION_STRING)).1
    rw [setTypes_eq] at hparts
    simp only [loadFeatureSwitch, Plugin.typePart, Prod.mk.injEq] at hparts
    obtain ⟨-, -, hres, hval, -⟩ := hparts
    simp only [subscribe, InitSpecialExtension, InitFunctionMap, InitFeatureSwitch,
      loadFeatureSwitch, initFrom_plugin, initFrom_reader, initFrom_mgr, setTypes_eq]
    rw [hres, hval]
    rfl
  rw [hmgr]
  exact hstage _ _ _

/-- `Init` subscribes to the types and pairs it leaves in the plugin. -/
theorem init_mgr (env : External) (build : Build) (system : System) :
    (Init env build system).mgr =
      subscribeTo (Init env build system).plugin.resTypes
        (Init env build system).plugin.resTypeWithVal_ system.mgr := by
  have hparts := initPlugin_typePart env build (system.reader.GetConfig PLUGIN_NAME) system.plugin
  rw [setTypes_eq] at hparts
  simp only [loadFeatureSwitch, Plugin.typePart, Prod.mk.injEq] at hparts
  obtain ⟨-, -, hres, hval, -⟩ := hparts
  rw [init_mgr_ids, init_plugin, hres, hval]

theorem disable_mgr (system : System) :
    (Disable system).mgr =
      unsubscribeFrom system.plugin.resTypes system.plugin.resTypeWithVal_ system.mgr :=
  rfl

/-! ## Repairs -/

/-- A repair by `PluginMgr`: the plugin is disabled and initialised again. -/
def repair (env : External) (build : Build) (system : System) : System :=
  Init env build (Disable system)

/-- What `RepairPlugin` calls into a plugin that it does not disable for good is a repair. -/
theorem onCall_repairPlugin (env : External) (build : Build) {noFront : Int}
    {dispatcher : ResSched.Plugin.Dispatcher} {endTime : Int} {libInfo : ResSched.Plugin.PluginLib}
    (hinit : libInfo.onPluginInitFunc_ = true) (hdisable : libInfo.onPluginDisableFunc_ = true)
    (hkept : ¬(2 ≤ (dispatcher.stat LIB_NAME).timeOutTime.length ∧
      ResSched.Plugin.crashTime noFront endTime (dispatcher.stat LIB_NAME).timeOutTime <
        ResSched.Plugin.DISABLE_PLUGIN_TIME)) (system : System) :
    ∃ calls, (ResSched.Plugin.RepairPlugin noFront dispatcher endTime LIB_NAME libInfo).calls =
        dispatcher.calls ++ calls ∧
      calls.foldl (System.onCall env build) system = repair env build system := by
  refine ⟨[.OnPluginDisable LIB_NAME, .OnPluginInit LIB_NAME], ?_, ?_⟩
  · rw [ResSched.Plugin.RepairPlugin_eq hinit hdisable]
    dsimp only
    rw [if_neg hkept]
    rfl
  · simp only [List.foldl_cons, List.foldl_nil, System.onCall, if_true, repair]

/-- Two systems with the same state of the plugin and the same subscriptions of its library. -/
def SameConfigured (system system' : System) : Prop :=
  system'.plugin = system.plugin ∧
    ∀ topic, LIB_NAME ∈ system'.mgr.subscribers topic ↔ LIB_NAME ∈ system.mgr.subscribers topic

/-- The configurations have been read, and the plugin is ready and subscribed. -/
structure Initialised (env : External) (build : Build) (system : System) : Prop where
  read : ∀ name ∈ configNames, system.reader.GetConfig PLUGIN_NAME name = ⟨[]⟩
  ready : Ready env build system.plugin
  subscribed : ∀ topic, IsTopic system.mgr.subscriptionAccuractlyEnable system.plugin.resTypes
    system.plugin.resTypeWithVal_ topic → LIB_NAME ∈ system.mgr.subscribers topic

theorem initPlugin_congr (env : External) (build : Build)
    {config config' : String → PluginConfig} (plugin : Plugin)
    (h : ∀ name ∈ configNames, config name = config' name) :
    initPlugin env build config plugin = initPlugin env build config' plugin := by
  simp only [initPlugin]
  rw [h CONFIG_NAME_SOCPERF_EVENT_ID (by decide), h CONFIG_NAME_SOCPERF_FEATURE_SWITCH (by decide),
    h SPECIAL_EXTENSION_STRING (by decide), h CNOFIG_NAME_SOCPERF_CRUCIAL_FUNC (by decide),
    h CONFIG_NAME_SOCPERF_BUNDLE_NAME_BOOST_LIST (by decide), h WEAK_ACTION_STRING (by decide),
    h CONFIG_NAME_SOCPERF_BATTERY_CAPACITY_LIMIT_FREQ (by decide),
    h CONFIG_NAME_SOCPERF_POLICY_MODE (by decide), h CONFIG_NAME_SOCPERF_LIMIT_POLICY (by decide)]

theorem getConfig_init (env : External) (build : Build) (system : System) (name : String)
    (hname : name ∈ configNames) :
    (Init env build system).reader.GetConfig PLUGIN_NAME name = ⟨[]⟩ := by
  rw [init_reader, getConfig_removeAll, if_pos hname]

/-- The first `Init` initialises. -/
theorem initialised_init (env : External) (build : Build) (reader : ConfigReader)
    (mgr : PluginMgr) : Initialised env build (Init env build ⟨Plugin.created, reader, mgr⟩) := by
  have hready : Ready env build (Init env build ⟨Plugin.created, reader, mgr⟩).plugin := by
    rw [init_plugin]
    exact initPlugin_ready env build _
  refine ⟨getConfig_init env build _, hready, ?_⟩
  intro topic htopic
  obtain ⟨hacc, hmem⟩ := mem_subscribeTo
    (Init env build ⟨Plugin.created, reader, mgr⟩).plugin.resTypes
    (Init env build ⟨Plugin.created, reader, mgr⟩).plugin.resTypeWithVal_ mgr
  rw [init_mgr, hacc] at htopic
  rw [init_mgr, hmem]
  exact Or.inr htopic

/-- A repair turns the feature switch off and brings everything else back. -/
theorem repair_plugin (env : External) (build : Build) (system : System)
    (h : Initialised env build system) :
    (repair env build system).plugin =
      { system.plugin with socperfGameBoostSwitch_ := false } := by
  have hread : ∀ name ∈ configNames,
      (Disable system).reader.GetConfig PLUGIN_NAME name = ⟨[]⟩ := h.read
  rw [repair, init_plugin, initPlugin_congr env build (Disable system).plugin hread]
  exact initPlugin_disabled env build system.plugin h.ready

theorem repair_mgr (env : External) (build : Build) (system : System)
    (h : Initialised env build system) :
    (repair env build system).mgr.subscriptionAccuractlyEnable =
        system.mgr.subscriptionAccuractlyEnable ∧
      ∀ topic, LIB_NAME ∈ (repair env build system).mgr.subscribers topic ↔
        LIB_NAME ∈ system.mgr.subscribers topic := by
  have hmgr : (repair env build system).mgr =
      subscribeTo system.plugin.resTypes system.plugin.resTypeWithVal_
        (unsubscribeFrom system.plugin.resTypes system.plugin.resTypeWithVal_ system.mgr) := by
    rw [← disable_mgr, repair, init_mgr, ← repair, repair_plugin env build system h]
  obtain ⟨haccOff, hmemOff⟩ :=
    mem_unsubscribeFrom system.plugin.resTypes system.plugin.resTypeWithVal_ system.mgr
  obtain ⟨haccOn, hmemOn⟩ :=
    mem_subscribeTo system.plugin.resTypes system.plugin.resTypeWithVal_
      (unsubscribeFrom system.plugin.resTypes system.plugin.resTypeWithVal_ system.mgr)
  rw [hmgr]
  refine ⟨haccOn.trans haccOff, fun topic => ?_⟩
  rw [hmemOn, hmemOff, haccOff]
  constructor
  · rintro (⟨hbefore, _⟩ | htopic)
    · exact hbefore
    · exact h.subscribed topic htopic
  · intro hbefore
    by_cases htopic : IsTopic system.mgr.subscriptionAccuractlyEnable system.plugin.resTypes
        system.plugin.resTypeWithVal_ topic
    · exact Or.inr htopic
    · exact Or.inl ⟨hbefore, htopic⟩

theorem repair_initialised (env : External) (build : Build) (system : System)
    (h : Initialised env build system) : Initialised env build (repair env build system) := by
  obtain ⟨hacc, hmem⟩ := repair_mgr env build system h
  refine ⟨getConfig_init env build _, ?_, ?_⟩
  · rw [repair_plugin env build system h]
    exact ⟨h.ready.types, h.ready.pairs, h.ready.handlers, h.ready.crucial⟩
  · intro topic htopic
    rw [hacc, repair_plugin env build system h] at htopic
    exact (hmem topic).mpr (h.subscribed topic htopic)

/-- What any number of repairs leaves, from the first on. -/
theorem repairs_spec (env : External) (build : Build) (system : System)
    (h : Initialised env build system) (n : Nat) :
    ((repair env build)^[n + 1] system).plugin =
        { system.plugin with socperfGameBoostSwitch_ := false } ∧
      (∀ topic, LIB_NAME ∈ ((repair env build)^[n + 1] system).mgr.subscribers topic ↔
        LIB_NAME ∈ system.mgr.subscribers topic) ∧
      Initialised env build ((repair env build)^[n + 1] system) := by
  induction n with
  | zero =>
      exact ⟨repair_plugin env build system h, (repair_mgr env build system h).2,
        repair_initialised env build system h⟩
  | succ n ih =>
      obtain ⟨hplugin, hmem, hinit⟩ := ih
      rw [Function.iterate_succ_apply']
      refine ⟨?_, fun topic => ?_, repair_initialised env build _ hinit⟩
      · rw [repair_plugin env build _ hinit, hplugin]
      · exact ((repair_mgr env build _ hinit).2 topic).trans (hmem topic)

/-- The first `Init` sets the feature switch as it is configured. -/
theorem init_switch (env : External) (build : Build) (reader : ConfigReader) (mgr : PluginMgr) :
    (Init env build ⟨Plugin.created, reader, mgr⟩).plugin.socperfGameBoostSwitch_ =
      featureSwitch (reader.GetConfig PLUGIN_NAME CONFIG_NAME_SOCPERF_FEATURE_SWITCH)
        SUB_ITEM_KEY_NAME_SOCPERF_GAME_BOOST := by
  have hparts := initPlugin_typePart env build (reader.GetConfig PLUGIN_NAME) Plugin.created
  rw [setTypes_eq] at hparts
  simp only [loadFeatureSwitch, Plugin.typePart, Prod.mk.injEq] at hparts
  rw [init_plugin]
  exact hparts.2.2.2.2.2

/-- After any number of repairs the plugin stands as the first `Init` left it, if and only if
there was none or the feature switch was not configured on. -/
theorem repairs_iff (env : External) (build : Build) (reader : ConfigReader) (mgr : PluginMgr)
    (n : Nat) :
    SameConfigured (Init env build ⟨Plugin.created, reader, mgr⟩)
        ((repair env build)^[n] (Init env build ⟨Plugin.created, reader, mgr⟩)) ↔
      n = 0 ∨ featureSwitch (reader.GetConfig PLUGIN_NAME CONFIG_NAME_SOCPERF_FEATURE_SWITCH)
        SUB_ITEM_KEY_NAME_SOCPERF_GAME_BOOST = false := by
  have hinit := initialised_init env build reader mgr
  rw [← init_switch env build reader mgr]
  generalize Init env build ⟨Plugin.created, reader, mgr⟩ = system at hinit
  cases n with
  | zero => exact iff_of_true ⟨rfl, fun _ => Iff.rfl⟩ (Or.inl rfl)
  | succ n =>
      obtain ⟨hplugin, hmem, -⟩ := repairs_spec env build system hinit n
      rw [SameConfigured, hplugin, and_iff_left hmem]
      constructor
      · intro hsame
        exact Or.inr (congrArg Plugin.socperfGameBoostSwitch_ hsame).symm
      · intro hoff
        rw [← hoff.resolve_left (Nat.succ_ne_zero n)]

/-- A reader whose only configuration switches the game boost on. -/
def gameBoostReader : ConfigReader where
  allPluginConfigs_ := AList.singleton PLUGIN_NAME
    (AList.singleton CONFIG_NAME_SOCPERF_FEATURE_SWITCH
      ⟨[⟨∅, [⟨SUB_ITEM_KEY_NAME_SOCPERF_GAME_BOOST, "1", ∅⟩]⟩]⟩)

/-- One repair turns a game boost off that is configured on. -/
theorem repairs_counterexample :
    ¬ ∀ (env : External) (build : Build) (reader : ConfigReader) (mgr : PluginMgr) (n : Nat),
      SameConfigured (Init env build ⟨Plugin.created, reader, mgr⟩)
        ((repair env build)^[n] (Init env build ⟨Plugin.created, reader, mgr⟩)) := by
  intro h
  let env : External := ⟨fun _ => false, fun _ _ => none, fun _ => "", fun _ => true⟩
  let build : Build := ⟨false, false, false⟩
  let mgr := PluginMgr.initialised true
  have hsame := (h env build gameBoostReader mgr 1).1
  have hrepaired := repair_plugin env build _ (initialised_init env build gameBoostReader mgr)
  have hswitch := congrArg Plugin.socperfGameBoostSwitch_ (hsame.symm.trans hrepaired)
  rw [init_switch] at hswitch
  exact absurd hswitch (by decide)

end ResSched.SocPerf.Lifecycle
