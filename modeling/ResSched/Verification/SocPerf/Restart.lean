import ResSched.Model.SocPerf.Restart
import ResSched.Verification.SocPerf.Focus

/-! # What a socperf service knows after the plugin has heard of its start -/

namespace ResSched.SocPerf.Restart

open Focus Transition

/-- The plugin handles a report that the socperf service has started. -/
def isStartReport : Step → Bool
  | .event (.ReportAbilityStatus data) =>
      integerByData data.payload "saId" = some SOC_PERF_SA_ID && data.value > 0
  | _ => false

/-- The service holds the status of the plugin and has been told each configured limit as a limit
of its own kind. -/
def Resynced (untold : Bool) (system : System) : Prop :=
  modeHeld untold system.told = system.plugin.weakActionStatus_ ∧
    (∀ onOffTag, system.plugin.powerLimit_ = some onOffTag →
      .PowerLimitBoost onOffTag ∈ system.told) ∧
    ∀ onOffTag, system.plugin.thermalLimit_ = some onOffTag →
      .ThermalLimitBoost onOffTag ∈ system.told

/-- A report of the start of a service that runs resynchronises it. -/
def Resyncs (env : External) (untold : Bool) (system : System) (step : Step) : Prop :=
  isStartReport step = true → system.running = true → Resynced untold (system.step env step)

/-- What weak interaction is to be by the state of the plugin. -/
def WeakDue (env : External) (plugin : Plugin) : Prop :=
  plugin.custGameState_ = false ∧ plugin.weakActionEnable_ = true ∧
    ∀ uid ∈ plugin.focusAppUids_, isKeyEntry env plugin (plugin.uidToAppMsgMap_.lookup uid) = false

/-- A report finds no thermal limit configured, and either a service that holds the cached status
or a cached status that is out of date. -/
def InStep (env : External) (untold : Bool) (system : System) (step : Step) : Prop :=
  isStartReport step = true → system.running = true →
    system.plugin.thermalLimit_ = none ∧
      (modeHeld untold system.told = system.plugin.weakActionStatus_ ∨
        ¬ (system.plugin.weakActionStatus_ = true ↔ WeakDue env system.plugin))

/-! ## Thermal limits -/

/-- No call tells of a thermal limit. -/
def NoThermal (calls : List Call) : Prop :=
  ∀ onOffTag, .ThermalLimitBoost onOffTag ∉ calls

theorem noThermal_nil : NoThermal [] :=
  fun _ => List.not_mem_nil

theorem noThermal_append {calls later : List Call} :
    NoThermal (calls ++ later) ↔ NoThermal calls ∧ NoThermal later := by
  constructor
  · intro h
    exact ⟨fun onOffTag hmem => h onOffTag (List.mem_append_left _ hmem),
      fun onOffTag hmem => h onOffTag (List.mem_append_right _ hmem)⟩
  · rintro ⟨hcalls, hlater⟩ onOffTag hmem
    rcases List.mem_append.mp hmem with hmem | hmem
    · exact hcalls onOffTag hmem
    · exact hlater onOffTag hmem

theorem noThermal_weakCalls (env : External) (plugin : Plugin) :
    NoThermal (weakCalls env plugin) := by
  intro onOffTag hmem
  rw [weakCalls] at hmem
  split_ifs at hmem
  · exact List.not_mem_nil hmem
  · cases List.mem_singleton.mp hmem

/-- The calls of both configured limits are calls for a power limit. -/
theorem noThermal_limitCalls (limit : Option Bool) :
    NoThermal (limit.map Call.PowerLimitBoost).toList := by
  intro onOffTag hmem
  obtain ⟨_, _, heq⟩ := Option.map_eq_some_iff.mp (Option.mem_toList.mp hmem)
  exact absurd heq nofun

theorem noThermal_updateWeakActionStatus (env : External) (plugin : Plugin)
    (h : NoThermal plugin.calls) : NoThermal (UpdateWeakActionStatus env plugin).calls := by
  rw [updateWeakActionStatus_eq]
  exact noThermal_append.mpr ⟨h, noThermal_weakCalls env plugin⟩

theorem noThermal_loadWeakInterAction (env : External) (plugin : Plugin)
    (itemLists : PluginConfig) (h : NoThermal plugin.calls) :
    NoThermal (LoadWeakInterAction env plugin itemLists).calls := by
  refine loadWeakInterAction_keeps env (P := fun p => NoThermal p.calls) plugin itemLists ?_
    (fun _ _ _ _ h => h) h
  intro p h
  exact noThermal_updateWeakActionStatus env p h

theorem withLate_calls (plugin : Plugin) (late : Option (Int × Option AppKeyMessage)) :
    (plugin.withLate late).calls = plugin.calls := by
  cases late <;> rfl

theorem noThermal_handleWindowFocus (env : External) (plugin : Plugin) (data : Focus.ResData)
    (h : NoThermal plugin.calls) : NoThermal (HandleWindowFocus env plugin data).calls := by
  rcases handleWindowFocus_cases env plugin data with
    ⟨-, heq⟩ | ⟨hvalue, huid⟩ | ⟨-, heq⟩
  · rw [heq]
    exact h
  · obtain ⟨types, heq⟩ := handleWindowFocus_focus env plugin data hvalue huid
    rw [heq]
    show NoThermal ((plugin.focused env _).withLate _).calls
    rw [withLate_calls]
    exact noThermal_updateWeakActionStatus env _ h
  · rw [heq]
    exact noThermal_updateWeakActionStatus env _ h

/-- No handler makes a call for a thermal limit. -/
theorem noThermal_dispatch (env : External) (plugin : Plugin) (event : Focus.Event)
    (h : NoThermal plugin.calls) : NoThermal (plugin.dispatch env event).calls := by
  cases event with
  | HandleWindowFocus data => exact noThermal_handleWindowFocus env plugin data h
  | HandleAppAbilityStart data =>
      rw [Plugin.dispatch, handleAppAbilityStart_eq, withLate_calls]
      exact h
  | HandleAppStateChange data =>
      rw [Plugin.dispatch, handleAppStateChange_eq, withLate_calls]
      exact h
  | HandleUninstallEvent data =>
      rw [Plugin.dispatch, handleUninstallEvent_eq env, withLate_calls]
      exact h
  | HandleProcessStateChange data =>
      obtain ⟨types, heq⟩ := handleProcessStateChange_eq plugin data
      rw [Plugin.dispatch, heq]
      exact h
  | HandleGameStateChange data =>
      rw [Plugin.dispatch, HandleGameStateChange]
      split
      · split_ifs
        · rw [UpdateCustGameState]
          refine noThermal_updateWeakActionStatus env _ ?_
          split_ifs <;> exact h
        · exact h
      · exact h
  | HandleRssCloudConfigUpdate weakInterAction =>
      cases weakInterAction with
      | none => exact h
      | some itemLists => exact noThermal_loadWeakInterAction env plugin itemLists h
  | ReportAbilityStatus data =>
      rw [Plugin.dispatch, Focus.ReportAbilityStatus]
      split
      · exact h
      · split_ifs
        · rw [ReportConfiguredLimitBoost]
          refine noThermal_append.mpr ⟨noThermal_append.mpr ⟨?_, noThermal_limitCalls _⟩,
            noThermal_limitCalls _⟩
          exact noThermal_updateWeakActionStatus env plugin h
        · exact h

theorem noThermal_deliver (system : System) (calls : List Call) (h : NoThermal system.told)
    (hcalls : NoThermal calls) : NoThermal (system.deliver calls).told := by
  rw [System.deliver]
  split_ifs
  · exact noThermal_append.mpr ⟨h, hcalls⟩
  · exact h

theorem noThermal_step (env : External) (system : System) (step : Step)
    (h : NoThermal system.told) : NoThermal (system.step env step).told := by
  cases step with
  | event event => exact noThermal_deliver _ _ h (noThermal_dispatch env _ event noThermal_nil)
  | screenEvent event =>
      refine noThermal_deliver _ _ h ?_
      intro onOffTag hmem
      obtain ⟨call, _, hcall⟩ := List.mem_filterMap.mp hmem
      cases call <;> exact absurd hcall nofun
  | stop => exact noThermal_nil
  | start => exact h

theorem noThermal_init (env : External) (configs : Configs) (running : Bool) :
    NoThermal (System.init env configs running).told := by
  refine noThermal_deliver _ _ noThermal_nil ?_
  obtain ⟨powerLimit_, thermalLimit_, hlimits⟩ := initPolicyMode_eq
    (LoadWeakInterAction env Plugin.created configs.weakInterAction) configs.socperfPolicy
    configs.limitPolicy
  rw [Init, hlimits]
  exact noThermal_loadWeakInterAction env Plugin.created configs.weakInterAction noThermal_nil

/-! ## A report of the start -/

theorem handle_startReport (env : External) (plugin : Plugin) (event : Focus.Event)
    (h : isStartReport (.event event) = true) :
    plugin.handle env event =
      { plugin with
        weakActionStatus_ := weakStatus env plugin
        calls := weakCalls env plugin ++ (plugin.powerLimit_.map Call.PowerLimitBoost).toList ++
          (plugin.thermalLimit_.map Call.PowerLimitBoost).toList } := by
  cases event with
  | ReportAbilityStatus data =>
      rw [isStartReport, Bool.and_eq_true, decide_eq_true_eq, decide_eq_true_eq] at h
      rw [Plugin.handle, Plugin.dispatch, Focus.ReportAbilityStatus, h.1]
      show (if SOC_PERF_SA_ID = SOC_PERF_SA_ID ∧ data.value > 0 then _ else _) = _
      rw [if_pos ⟨rfl, h.2⟩, updateWeakActionStatus_eq, ReportConfiguredLimitBoost]
      rfl
  | _ => exact absurd h Bool.false_ne_true

theorem modeHeld_append (untold : Bool) (told calls : List Call) :
    modeHeld untold (told ++ calls) = modeHeld (modeHeld untold told) calls :=
  List.foldl_append

theorem modeHeld_limitCalls (held : Bool) (limit : Option Bool) :
    modeHeld held (limit.map Call.PowerLimitBoost).toList = held := by
  cases limit <;> rfl

/-- A recomputation tells the service the status unless it is the cached one. -/
theorem modeHeld_weakCalls (env : External) (plugin : Plugin) (held : Bool) :
    modeHeld held (weakCalls env plugin) =
      if weakStatus env plugin = plugin.weakActionStatus_ then held else weakStatus env plugin := by
  rw [weakCalls]
  split_ifs
  · rfl
  · rfl

/-- The service holds the status after the report unless it held another state and the cached
status was up to date. -/
theorem modeHeld_report_iff (env : External) (untold : Bool) (plugin : Plugin)
    (told : List Call) :
    modeHeld untold (told ++ (weakCalls env plugin ++
        (plugin.powerLimit_.map Call.PowerLimitBoost).toList ++
          (plugin.thermalLimit_.map Call.PowerLimitBoost).toList)) = weakStatus env plugin ↔
      modeHeld untold told = plugin.weakActionStatus_ ∨
        ¬ (plugin.weakActionStatus_ = true ↔ WeakDue env plugin) := by
  rw [modeHeld_append, modeHeld_append, modeHeld_append, modeHeld_limitCalls,
    modeHeld_limitCalls, modeHeld_weakCalls, WeakDue, ← weakStatus_iff, ← Bool.eq_iff_iff]
  split_ifs with hsame
  · rw [hsame, or_iff_left (not_not.mpr rfl)]
  · exact iff_of_true rfl (Or.inr fun heq => hsame heq.symm)

theorem resyncs_iff (env : External) (untold : Bool) (system : System) (step : Step)
    (h : NoThermal system.told) :
    Resyncs env untold system step ↔ InStep env untold system step := by
  refine imp_congr_right fun hreport => imp_congr_right fun hrunning => ?_
  cases step with
  | event event =>
      have hstep : system.step env (.event event) =
          { system with
            plugin := system.plugin.handle env event
            told := system.told ++ (system.plugin.handle env event).calls } := if_pos hrunning
      have hthermal : NoThermal (system.told ++ (weakCalls env system.plugin ++
          (system.plugin.powerLimit_.map Call.PowerLimitBoost).toList ++
            (system.plugin.thermalLimit_.map Call.PowerLimitBoost).toList)) :=
        noThermal_append.mpr ⟨h, noThermal_append.mpr ⟨noThermal_append.mpr
          ⟨noThermal_weakCalls _ _, noThermal_limitCalls _⟩, noThermal_limitCalls _⟩⟩
      rw [hstep, handle_startReport env system.plugin event hreport, Resynced,
        modeHeld_report_iff, and_comm]
      refine and_congr_left fun _ => ?_
      constructor
      · rintro ⟨_, hall⟩
        refine Option.eq_none_iff_forall_ne_some.mpr fun onOffTag hsome => ?_
        exact hthermal onOffTag (hall onOffTag hsome)
      · intro hnone
        refine ⟨fun onOffTag hsome => ?_, fun onOffTag hsome => absurd hsome ?_⟩
        · have hmem : Call.PowerLimitBoost onOffTag ∈
              (system.plugin.powerLimit_.map Call.PowerLimitBoost).toList :=
            Option.mem_toList.mpr (Option.map_eq_some_iff.mpr ⟨onOffTag, hsome, rfl⟩)
          exact List.mem_append_right _ (List.mem_append_left _ (List.mem_append_right _ hmem))
        · rw [show system.plugin.thermalLimit_ = none from hnone]
          exact nofun
  | screenEvent event => exact absurd hreport Bool.false_ne_true
  | stop => exact absurd hreport Bool.false_ne_true
  | start => exact absurd hreport Bool.false_ne_true

/-! ## Runs -/

/-- In a run, every report of a start resynchronises the service if and only if each finds no
thermal limit configured, and a service that holds the cached status or a cached status that is
out of date. -/
theorem resyncs_runs_iff (env : External) (configs : Configs) (untold running : Bool)
    (steps : List Step) :
    EachStep (System.step env) (Resyncs env untold) (System.init env configs running) steps ↔
      EachStep (System.step env) (InStep env untold) (System.init env configs running) steps :=
  eachStep_iff_of_invariant (System.step env) (R := fun system => NoThermal system.told)
    (fun system step h => resyncs_iff env untold system step h)
    (fun system step h _ => noThermal_step env system step h)
    steps (System.init env configs running) (noThermal_init env configs running)

/-- A service that starts with weak interaction off, beside a plugin that believes it on. -/
theorem resyncs_counterexample :
    ¬ ∀ (env : External) (configs : Configs) (untold running : Bool) (steps : List Step),
      EachStep (System.step env) (Resyncs env untold) (System.init env configs running) steps := by
  intro h
  have hreport := h ⟨none, fun _ => "", fun _ => true⟩ ⟨⟨[]⟩, ⟨[]⟩, ⟨[]⟩⟩ false true
    [.stop, .start,
      .event (.ReportAbilityStatus ⟨1, .object [("saId", .int SOC_PERF_SA_ID)]⟩)]
    [.stop, .start] _ (List.prefix_refl _) (by decide) rfl
  exact absurd hreport.1 (by decide)

end ResSched.SocPerf.Restart
