import ResSched.Library.Transition
import ResSched.Model.SocPerf.Battery
import Mathlib.Data.List.MinMax
import Mathlib.Order.Bounds.Basic

/-! # The battery limit in force is the one the last report selects -/

namespace ResSched.SocPerf.Battery

open Transition

/-! ## The loaded configuration -/

/-- What `InitBatteryCapacityLimitFreq` establishes and no battery event changes. -/
structure ConfigSpec (plugin : Plugin) : Prop where
  keys_le : ∀ key ∈ plugin.socperfBatteryConfig.keys, key ≤ plugin.maxBatteryLimitCapacity
  max_mem : plugin.maxBatteryLimitCapacity ≠ -1 →
    plugin.maxBatteryLimitCapacity ∈ plugin.socperfBatteryConfig.keys
  length_eq : ∀ capacity, (frequenciesOf plugin capacity).tags.length =
    (frequenciesOf plugin capacity).configs.length

theorem created_configSpec : ConfigSpec Plugin.created where
  keys_le := by simp [Plugin.created]
  max_mem := by simp [Plugin.created]
  length_eq := by simp [Plugin.created, frequenciesOf]

theorem frequenciesOf_HandleBatterySubValue (plugin : Plugin)
    (capacity tag config other : Int) :
    frequenciesOf (HandleBatterySubValue plugin capacity tag config) other =
      if other = capacity then
        ⟨(frequenciesOf plugin capacity).tags ++ [tag],
          (frequenciesOf plugin capacity).configs ++ [config]⟩
      else frequenciesOf plugin other := by
  unfold frequenciesOf HandleBatterySubValue
  rw [AssocMap.lookup_insert_ite]
  by_cases h : other = capacity
  · simp [h, frequenciesOf]
  · simp [h]

theorem HandleBatterySubValue_configSpec (plugin : Plugin) (capacity tag config : Int)
    (h : ConfigSpec plugin) :
    ConfigSpec (HandleBatterySubValue plugin capacity tag config) := by
  refine ⟨?_, ?_, ?_⟩
  · intro key hkey
    simp only [HandleBatterySubValue, ← AList.mem_keys, AList.mem_insert] at hkey ⊢
    rcases hkey with rfl | hkey
    · split <;> omega
    · have hle := h.keys_le key (AList.mem_keys.mp hkey)
      split <;> omega
  · intro hmax
    simp only [HandleBatterySubValue, ← AList.mem_keys, AList.mem_insert] at hmax ⊢
    by_cases hlt : capacity > plugin.maxBatteryLimitCapacity
    · simp [hlt]
    · simp only [hlt, if_false] at hmax ⊢
      exact Or.inr (AList.mem_keys.mpr (h.max_mem hmax))
  · intro other
    rw [frequenciesOf_HandleBatterySubValue]
    by_cases hother : other = capacity
    · simpa [hother] using h.length_eq capacity
    · simpa [hother] using h.length_eq other

theorem initItem_configSpec (plugin : Plugin) (item : Item) (h : ConfigSpec plugin) :
    ConfigSpec (initItem plugin item) := by
  rw [initItem]
  induction item.subItemList generalizing plugin with
  | nil => exact h
  | cons sub subs ih =>
      exact ih _ (HandleBatterySubValue_configSpec plugin _ _ _ h)

theorem init_configSpec (itemLists : PluginConfig) :
    ConfigSpec (InitBatteryCapacityLimitFreq itemLists) := by
  rw [InitBatteryCapacityLimitFreq]
  generalize hstart : Plugin.created = plugin
  have h : ConfigSpec plugin := hstart ▸ created_configSpec
  clear hstart
  induction itemLists.itemList generalizing plugin with
  | nil => exact h
  | cons item items ih => exact ih _ (initItem_configSpec plugin item h)

theorem initItem_lastBatteryLimitCap (plugin : Plugin) (item : Item) :
    (initItem plugin item).lastBatteryLimitCap = plugin.lastBatteryLimitCap := by
  rw [initItem]
  induction item.subItemList generalizing plugin with
  | nil => rfl
  | cons sub subs ih => exact ih _

/-- Loading applies no limit. -/
theorem init_lastBatteryLimitCap (itemLists : PluginConfig) :
    (InitBatteryCapacityLimitFreq itemLists).lastBatteryLimitCap = -1 := by
  have hitems : ∀ (items : List Item) (plugin : Plugin),
      (items.foldl initItem plugin).lastBatteryLimitCap = plugin.lastBatteryLimitCap := by
    intro items
    induction items with
    | nil => simp
    | cons item items ih =>
        intro plugin
        exact (ih _).trans (initItem_lastBatteryLimitCap plugin item)
  exact hitems itemLists.itemList Plugin.created

/-! ## The specification -/

/-- What a battery event says of the device. -/
structure Report where
  level : Int
  charging : Bool
  level_nonneg : 0 ≤ level

/-- The report of an event whose payload carries a charge state. -/
def reportOf (data : ResData) : Option Report :=
  (chargeStateOf data.payload).map
    (fun chargeState => ⟨data.value, isCharging chargeState, data.value_nonneg⟩)

/-- The smallest configured capacity that is at least the level, on a device that is not
charging. -/
def selectedCapacity (config : AssocMap Int Frequencies) (report : Report) : Option Int :=
  if report.charging then none
  else (config.keys.filter (fun key => report.level ≤ key)).min?

/-- The limits a selected capacity stands for; without one there are none. -/
def configuredLimits (config : AssocMap Int Frequencies) : Option Int → Limits
  | none => fun _ => none
  | some capacity =>
      let frequencies := (config.lookup capacity).getD ⟨[], []⟩
      limitRequest (fun _ => none) frequencies.tags frequencies.configs

/-- A run of the system beside the last report it was sent. -/
structure Observed where
  system : System
  report : Option Report

def Observed.start (itemLists : PluginConfig) : Observed :=
  ⟨System.start itemLists, none⟩

def Observed.handle (observed : Observed) (data : ResData) : Observed :=
  ⟨observed.system.handle data, (reportOf data).or observed.report⟩

/-- The limits in force are those of the capacity the last report selects. -/
def LimitsMatch (config : AssocMap Int Frequencies) (observed : Observed) : Prop :=
  observed.system.limits =
    configuredLimits config (observed.report.bind (selectedCapacity config))

/-- An event that moves the selection from one capacity to another finds every tag limited
for the first listed for the second. -/
def SwitchCovered (config : AssocMap Int Frequencies) (observed : Observed)
    (data : ResData) : Prop :=
  ∀ before after, observed.report.bind (selectedCapacity config) = some before →
    (reportOf data).bind (selectedCapacity config) = some after → before ≠ after →
    ∀ tag, configuredLimits config (some before) tag ≠ none →
      tag ∈ ((config.lookup after).getD ⟨[], []⟩).tags

/-! ## The selected capacity -/

theorem selectedCapacity_eq_some_iff (config : AssocMap Int Frequencies) (report : Report)
    (capacity : Int) :
    selectedCapacity config report = some capacity ↔
      report.charging = false ∧
        IsLeast {key | key ∈ config.keys ∧ report.level ≤ key} capacity := by
  rw [selectedCapacity]
  cases report.charging with
  | true => simp
  | false =>
      simp [List.min?_eq_some_iff, IsLeast, mem_lowerBounds, and_imp]

/-- A selected capacity is never the value that stands for no limit. -/
theorem selectedCapacity_nonneg (config : AssocMap Int Frequencies) (report : Report)
    (capacity : Int) (h : selectedCapacity config report = some capacity) : 0 ≤ capacity := by
  rw [selectedCapacity_eq_some_iff] at h
  exact report.level_nonneg.trans h.2.1.2

theorem selectedCapacity_of_charging (config : AssocMap Int Frequencies) (report : Report)
    (h : report.charging = true) : selectedCapacity config report = none := by
  simp [selectedCapacity, h]

theorem selectedCapacity_of_max_lt (plugin : Plugin) (hplugin : ConfigSpec plugin)
    (report : Report) (h : plugin.maxBatteryLimitCapacity < report.level) :
    selectedCapacity plugin.socperfBatteryConfig report = none := by
  rw [selectedCapacity]
  have hnil : plugin.socperfBatteryConfig.keys.filter (fun key => report.level ≤ key) = [] := by
    rw [List.filter_eq_nil_iff]
    intro key hkey
    have hle := hplugin.keys_le key hkey
    simp only [decide_eq_true_eq]
    omega
  simp [hnil]

/-- The loop keeps a bound it starts from or a configured capacity at least the level, and
ends at or below each of these. -/
theorem limitCapacity_loop (capacity : Int) (keys : List Int) (bound : Int) :
    let kept := keys.foldl (fun tempCap key =>
      if key ≥ capacity ∧ key ≤ tempCap then key else tempCap) bound
    (kept = bound ∨ (kept ∈ keys ∧ capacity ≤ kept)) ∧ kept ≤ bound ∧
      ∀ key ∈ keys, capacity ≤ key → kept ≤ key := by
  induction keys generalizing bound with
  | nil => simp
  | cons key keys ih =>
      simp only [List.foldl_cons]
      by_cases hkey : key ≥ capacity ∧ key ≤ bound
      · rw [if_pos hkey]
        obtain ⟨hkept, hle, hleast⟩ := ih key
        refine ⟨?_, hle.trans hkey.2, ?_⟩
        · rcases hkept with hkept | ⟨hmem, hge⟩
          · refine Or.inr ⟨by simp [hkept], ?_⟩
            rw [hkept]
            exact hkey.1
          · exact Or.inr ⟨List.mem_cons_of_mem _ hmem, hge⟩
        · intro other hother hge
          rcases List.mem_cons.mp hother with rfl | hother
          · exact hle
          · exact hleast other hother hge
      · rw [if_neg hkey]
        obtain ⟨hkept, hle, hleast⟩ := ih bound
        refine ⟨?_, hle, ?_⟩
        · rcases hkept with hkept | ⟨hmem, hge⟩
          · exact Or.inl hkept
          · exact Or.inr ⟨List.mem_cons_of_mem _ hmem, hge⟩
        · intro other hother hge
          rcases List.mem_cons.mp hother with rfl | hother
          · omega
          · exact hleast other hother hge

/-- Up to the largest configured capacity, `GetLimitCapacity` finds the selected one. -/
theorem GetLimitCapacity_spec (plugin : Plugin) (hplugin : ConfigSpec plugin)
    (report : Report) (hcharging : report.charging = false)
    (hle : report.level ≤ plugin.maxBatteryLimitCapacity) :
    selectedCapacity plugin.socperfBatteryConfig report =
      some (GetLimitCapacity plugin report.level) := by
  have hnonneg := report.level_nonneg
  have hmax := hplugin.max_mem (by omega)
  obtain ⟨hkept, _, hleast⟩ := limitCapacity_loop report.level
    plugin.socperfBatteryConfig.keys plugin.maxBatteryLimitCapacity
  rw [selectedCapacity_eq_some_iff]
  refine ⟨hcharging, ?_, ?_⟩
  · rcases hkept with hkept | hkept
    · rw [GetLimitCapacity]
      rw [hkept]
      exact ⟨hmax, hle⟩
    · exact hkept
  · intro key hkey
    exact hleast key hkey.1 hkey.2

/-! ## The limits of one request -/

theorem map_fst_limitWrite (tags configs : List Int) (h : tags.length = configs.length) :
    ((tags.zip configs).map limitWrite).map Prod.fst = tags := by
  have hfst : Prod.fst ∘ limitWrite = Prod.fst := rfl
  rw [List.map_map, hfst, List.map_fst_zip h.le]

theorem limitRequest_of_notMem (limits : Limits) (tags configs : List Int)
    (hlength : tags.length = configs.length) (tag : Int) (h : tag ∉ tags) :
    limitRequest limits tags configs tag = limits tag :=
  WriteLog.apply_of_notMem _ limits tag (by rwa [map_fst_limitWrite tags configs hlength])

theorem limitRequest_congr_of_mem (limits limits' : Limits) (tags configs : List Int)
    (hlength : tags.length = configs.length) (tag : Int) (h : tag ∈ tags) :
    limitRequest limits tags configs tag = limitRequest limits' tags configs tag :=
  WriteLog.apply_congr_of_mem _ limits limits' tag
    (by rwa [map_fst_limitWrite tags configs hlength])

/-- A request with the greatest value for every tag lifts the limits of these tags. -/
theorem limitRequest_GetConfigs (limits : Limits) (tags : List Int) (tag : Int) :
    limitRequest limits tags (GetConfigs tags.length) tag =
      if tag ∈ tags then none else limits tag := by
  have hlength : tags.length = (GetConfigs tags.length).length := by
    simp [GetConfigs]
  by_cases h : tag ∈ tags
  · rw [if_pos h]
    refine WriteLog.apply_induction _ limits tag (fun limit => limit = none) ?_ ?_
    · intro hnot
      rw [map_fst_limitWrite tags _ hlength] at hnot
      exact absurd h hnot
    · intro write hwrite _
      obtain ⟨request, hrequest, rfl⟩ := List.mem_map.mp hwrite
      have hvalue : request.2 = INT32_MAX :=
        List.eq_of_mem_replicate (List.of_mem_zip hrequest).2
      simp [limitWrite, hvalue]
  · rw [if_neg h, limitRequest_of_notMem limits tags _ hlength tag h]

/-- After a request the limits are the requested ones exactly when every tag limited before
is listed. -/
theorem limitRequest_eq_iff (limits : Limits) (tags configs : List Int)
    (hlength : tags.length = configs.length) :
    limitRequest limits tags configs = limitRequest (fun _ => none) tags configs ↔
      ∀ tag, limits tag ≠ none → tag ∈ tags := by
  constructor
  · intro h tag htag
    by_contra hnot
    have happly := congrFun h tag
    rw [limitRequest_of_notMem _ _ _ hlength tag hnot,
      limitRequest_of_notMem _ _ _ hlength tag hnot] at happly
    exact htag happly
  · intro h
    funext tag
    by_cases htag : tag ∈ tags
    · exact limitRequest_congr_of_mem _ _ _ _ hlength tag htag
    · rw [limitRequest_of_notMem _ _ _ hlength tag htag,
        limitRequest_of_notMem _ _ _ hlength tag htag]
      by_contra hlimit
      exact htag (h tag hlimit)

/-! ## One event -/

/-- An event acts as its report selects: it is ignored without a report, recovers when no
capacity is selected, and limits to the selected one otherwise. -/
theorem HandleBatteryStatusChange_eq (plugin : Plugin) (hplugin : ConfigSpec plugin)
    (hlast : plugin.socperfBatteryConfig.keys = [] → plugin.lastBatteryLimitCap = -1)
    (data : ResData) :
    HandleBatteryStatusChange plugin data =
      match reportOf data with
      | none => (plugin, [])
      | some report =>
          match selectedCapacity plugin.socperfBatteryConfig report with
          | none => HandleRecoverBatteryLimit plugin
          | some capacity =>
              if plugin.lastBatteryLimitCap = capacity then (plugin, [])
              else
                ({ plugin with lastBatteryLimitCap := capacity },
                  [.PowerLimitBoost true,
                    .LimitRequest (frequenciesOf plugin capacity).tags
                      (frequenciesOf plugin capacity).configs]) := by
  unfold HandleBatteryStatusChange reportOf
  cases chargeStateOf data.payload with
  | none => simp
  | some chargeState =>
      by_cases hkeys : plugin.socperfBatteryConfig.keys = []
      · simp [hkeys, selectedCapacity, HandleRecoverBatteryLimit, hlast hkeys]
      · simp only [hkeys, if_false, Option.map_some, HandleFreqLimit]
        set report : Report := ⟨data.value, isCharging chargeState, data.value_nonneg⟩
        by_cases hlift : data.value > plugin.maxBatteryLimitCapacity ∨
            isCharging chargeState = true
        · have hnone : selectedCapacity plugin.socperfBatteryConfig report = none := by
            rcases hlift with hlt | hcharging
            · exact selectedCapacity_of_max_lt plugin hplugin report hlt
            · exact selectedCapacity_of_charging _ report hcharging
          simp [hlift, hnone]
        · have hsome := GetLimitCapacity_spec plugin hplugin report
            (by simpa [report] using fun h => hlift (Or.inr h))
            (by simp only [report]; omega)
          simp [hlift, hsome, HandleBatteryLimit, report]

/-- The facts every run keeps: the configuration stays as loaded, and the plugin remembers the
capacity the last report selects. -/
structure Tracks (itemLists : PluginConfig) (observed : Observed) : Prop where
  config_eq : observed.system.plugin.socperfBatteryConfig =
    (InitBatteryCapacityLimitFreq itemLists).socperfBatteryConfig
  configSpec : ConfigSpec observed.system.plugin
  last_eq : observed.system.plugin.lastBatteryLimitCap =
    (observed.report.bind (selectedCapacity
      observed.system.plugin.socperfBatteryConfig)).getD (-1)

theorem start_tracks (itemLists : PluginConfig) :
    Tracks itemLists (Observed.start itemLists) where
  config_eq := rfl
  configSpec := init_configSpec itemLists
  last_eq := init_lastBatteryLimitCap itemLists

theorem Tracks.last_of_keys_nil {itemLists : PluginConfig} {observed : Observed}
    (h : Tracks itemLists observed)
    (hkeys : observed.system.plugin.socperfBatteryConfig.keys = []) :
    observed.system.plugin.lastBatteryLimitCap = -1 := by
  rw [h.last_eq]
  cases observed.report with
  | none => rfl
  | some report => simp [selectedCapacity, hkeys]

theorem HandleRecoverBatteryLimit_fst (plugin : Plugin) :
    (HandleRecoverBatteryLimit plugin).1 = { plugin with lastBatteryLimitCap := -1 } := by
  rw [HandleRecoverBatteryLimit]
  by_cases h : plugin.lastBatteryLimitCap = -1
  · rw [if_pos h, ← h]
  · rw [if_neg h]

theorem ConfigSpec.with_last {plugin : Plugin} (h : ConfigSpec plugin) (last : Int) :
    ConfigSpec { plugin with lastBatteryLimitCap := last } :=
  ⟨h.keys_le, h.max_mem, h.length_eq⟩

/-- An event changes nothing in the plugin but the remembered capacity, which becomes the one
selected by the last report. -/
theorem handle_plugin (itemLists : PluginConfig) (observed : Observed) (data : ResData)
    (h : Tracks itemLists observed) :
    (observed.handle data).system.plugin =
      { observed.system.plugin with
        lastBatteryLimitCap := ((observed.handle data).report.bind
          (selectedCapacity observed.system.plugin.socperfBatteryConfig)).getD (-1) } := by
  have hstep := HandleBatteryStatusChange_eq observed.system.plugin h.configSpec
    h.last_of_keys_nil data
  simp only [Observed.handle, System.handle]
  cases hreport : reportOf data with
  | none =>
      simp only [hreport] at hstep
      simp only [hstep, Option.none_or, ← h.last_eq]
  | some report =>
      simp only [hreport] at hstep
      cases hselected : selectedCapacity observed.system.plugin.socperfBatteryConfig report with
      | none =>
          simp only [hselected] at hstep
          simp [hstep, HandleRecoverBatteryLimit_fst, hselected]
      | some capacity =>
          simp only [hselected] at hstep
          by_cases hlast : observed.system.plugin.lastBatteryLimitCap = capacity
          · simp [hstep, hselected, ← hlast]
          · simp [hstep, hselected, hlast]

theorem handle_tracks (itemLists : PluginConfig) (observed : Observed) (data : ResData)
    (h : Tracks itemLists observed) : Tracks itemLists (observed.handle data) := by
  have hplugin := handle_plugin itemLists observed data h
  refine ⟨?_, ?_, ?_⟩
  · rw [hplugin]
    exact h.config_eq
  · rw [hplugin]
    exact h.configSpec.with_last _
  · rw [hplugin]

/-- Lifting the limits of a capacity leaves no limit of its configuration. -/
theorem limitRequest_lift_configured (plugin : Plugin) (hplugin : ConfigSpec plugin)
    (capacity : Int) :
    limitRequest (configuredLimits plugin.socperfBatteryConfig (some capacity))
      (frequenciesOf plugin capacity).tags
      (GetConfigs (frequenciesOf plugin capacity).configs.length) = fun _ => none := by
  funext tag
  rw [← hplugin.length_eq, limitRequest_GetConfigs]
  by_cases htag : tag ∈ (frequenciesOf plugin capacity).tags
  · rw [if_pos htag]
  · rw [if_neg htag]
    exact limitRequest_of_notMem _ _ _ (hplugin.length_eq capacity) tag htag

/-- An event keeps the limits in force equal to the selected ones exactly when it covers a
switch of the selection. -/
theorem handle_limitsMatch_iff (itemLists : PluginConfig) (observed : Observed) (data : ResData)
    (h : Tracks itemLists observed)
    (hmatch : LimitsMatch observed.system.plugin.socperfBatteryConfig observed) :
    LimitsMatch observed.system.plugin.socperfBatteryConfig (observed.handle data) ↔
      SwitchCovered observed.system.plugin.socperfBatteryConfig observed data := by
  have hstep := HandleBatteryStatusChange_eq observed.system.plugin h.configSpec
    h.last_of_keys_nil data
  have hlast := h.last_eq
  rw [LimitsMatch] at hmatch
  simp only [LimitsMatch, SwitchCovered, Observed.handle, System.handle]
  cases hreport : reportOf data with
  | none =>
      simp only [hreport] at hstep
      simpa [hstep] using hmatch
  | some report =>
      simp only [hreport] at hstep
      cases hselected : selectedCapacity observed.system.plugin.socperfBatteryConfig report with
      | none =>
          simp only [hselected] at hstep
          cases hbefore : observed.report.bind
              (selectedCapacity observed.system.plugin.socperfBatteryConfig) with
          | none =>
              rw [hbefore] at hlast hmatch
              simpa [hstep, hselected, HandleRecoverBatteryLimit, hlast] using hmatch
          | some before =>
              rw [hbefore] at hlast hmatch
              simp only [Option.getD_some] at hlast
              have hset : before ≠ -1 := by
                obtain ⟨previous, _, hprevious⟩ := Option.bind_eq_some_iff.mp hbefore
                have hnonneg := selectedCapacity_nonneg _ _ _ hprevious
                omega
              have hlift := limitRequest_lift_configured observed.system.plugin h.configSpec before
              simp only [hstep, HandleRecoverBatteryLimit, hlast, hset, if_false, List.foldl_cons,
                List.foldl_nil, serve, hmatch, hlift]
              simp [hselected, configuredLimits]
      | some after =>
          simp only [hselected] at hstep
          have hlength := h.configSpec.length_eq after
          cases hbefore : observed.report.bind
              (selectedCapacity observed.system.plugin.socperfBatteryConfig) with
          | none =>
              rw [hbefore] at hlast hmatch
              have hnonneg := selectedCapacity_nonneg _ _ _ hselected
              have hset : observed.system.plugin.lastBatteryLimitCap ≠ after := by
                simp only [Option.getD_none] at hlast
                omega
              simp [hstep, hselected, hset, serve, hmatch, configuredLimits, frequenciesOf]
          | some before =>
              rw [hbefore] at hlast hmatch
              simp only [Option.getD_some] at hlast
              by_cases hsame : before = after
              · simp [hstep, hselected, hlast, hsame, hmatch]
              · have hiff := limitRequest_eq_iff
                  (configuredLimits observed.system.plugin.socperfBatteryConfig (some before))
                  _ _ hlength
                simp only [hstep, hlast, hsame, if_false, List.foldl_cons, List.foldl_nil, serve,
                  hmatch, Option.some_or, Option.bind_some, hselected, Option.some.injEq]
                refine hiff.trans ⟨?_, fun hcovered => hcovered before after rfl rfl hsame⟩
                rintro htags _ _ rfl rfl _
                exact htags

/-! ## Runs -/

/-- In every run the limits in force are, after each event, those of the capacity its report
selects if and only if the run covers each switch from one capacity to another. -/
theorem limits_match_iff_switches_covered (itemLists : PluginConfig) (events : List ResData) :
    Always Observed.handle
        (LimitsMatch (InitBatteryCapacityLimitFreq itemLists).socperfBatteryConfig)
        (Observed.start itemLists) events ↔
      EachStep Observed.handle
        (SwitchCovered (InitBatteryCapacityLimitFreq itemLists).socperfBatteryConfig)
        (Observed.start itemLists) events := by
  refine always_iff_eachStep Observed.handle (I := Tracks itemLists)
    (handle_tracks itemLists) ?_ events _ (start_tracks itemLists) rfl
  intro observed data htracks hmatch
  rw [← htracks.config_eq] at hmatch ⊢
  exact handle_limitsMatch_iff itemLists observed data htracks hmatch

/-! ## A switch that is not covered -/

/-- Capacities 20 and 10, each limiting a tag of its own. -/
def disjointTiers : PluginConfig :=
  let item (capacity resId value : String) : Item :=
    ⟨(∅ : AssocMap String String).insert ITEM_KEY_CAPACITY capacity,
      [⟨"", value, (∅ : AssocMap String String).insert RES_ID resId⟩]⟩
  ⟨[item "20" "1" "100", item "10" "2" "200"]⟩

/-- A battery event at `level` with the given charge state. -/
def batteryEvent (level : Int) (chargeState : Int) (hnonneg : 0 ≤ level) (hle : level ≤ 100) :
    ResData :=
  ⟨level, .object [(COMMON_EVENT_CHARGE_STATE, .int chargeState)], hnonneg, hle⟩

/-- Discharging to 15 and then to 5 leaves the first tag limited, also after charging. -/
def drainAndCharge : List ResData :=
  [batteryEvent 15 2 (by decide) (by decide), batteryEvent 5 2 (by decide) (by decide),
    batteryEvent 5 1 (by decide) (by decide)]

theorem drainAndCharge_keeps_limit :
    ¬ ∀ (itemLists : PluginConfig) (events : List ResData),
      Always Observed.handle
        (LimitsMatch (InitBatteryCapacityLimitFreq itemLists).socperfBatteryConfig)
        (Observed.start itemLists) events := by
  intro h
  have hmatch := (h disjointTiers drainAndCharge).last
  rw [LimitsMatch] at hmatch
  have hlast := congrFun hmatch 1
  have hlimit : (run Observed.handle (Observed.start disjointTiers) drainAndCharge).system.limits 1
      = some 100 := by decide +kernel
  have hnone : configuredLimits (InitBatteryCapacityLimitFreq disjointTiers).socperfBatteryConfig
      ((run Observed.handle (Observed.start disjointTiers) drainAndCharge).report.bind
        (selectedCapacity (InitBatteryCapacityLimitFreq disjointTiers).socperfBatteryConfig)) 1
      = none := by decide +kernel
  rw [hlimit, hnone] at hlast
  exact absurd hlast (by decide)

end ResSched.SocPerf.Battery
