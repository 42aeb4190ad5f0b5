import ResSched.Library.Channel
import ResSched.Model.Plugin.Lifecycle
import ResSched.Verification.Plugin.Repair

/-! # The calls a plugin receives over its life -/

namespace ResSched.Plugin.LifecycleMgr

open Transition

/-! ## The specification -/

/-- How a plugin that is initialised or not takes a call: it may be initialised only when it is
not, disabled only when it is, and be handed an event only when it is. -/
def takes (pluginLib : String) (initialised : Bool) : PluginCall → Option Bool
  | .OnPluginInit other =>
      if other = pluginLib then (if initialised then none else some true) else some initialised
  | .OnPluginDisable other =>
      if other = pluginLib then (if initialised then some false else none) else some initialised
  | .OnDispatchResource other =>
      if other = pluginLib then (if initialised then some true else none) else some initialised

/-- Whether the plugin is initialised after calls that it takes. -/
def after (pluginLib : String) (initialised : Bool) (calls : List PluginCall) : Option Bool :=
  calls.foldlM (takes pluginLib) initialised

/-- A plugin whose dispatch times out is still loaded when it returns. -/
def StillLoaded (mgr : LifecycleMgr) : Event → Prop
  | .EndDispatch _ endTime =>
      ∀ pluginLib libInfo beginTime, mgr.running = some (pluginLib, libInfo, beginTime) →
        timesOut beginTime endTime = true →
          (mgr.dispatcher.pluginLibMap_.lookup pluginLib).isSome = true
  | _ => True

/-- A plugin takes all its calls, and is initialised exactly while it is loaded. -/
def Obeys (dispatcher : Dispatcher) : Prop :=
  ∀ pluginLib, after pluginLib false dispatcher.calls =
    some (dispatcher.pluginLibMap_.lookup pluginLib).isSome

/-- Some plugin receives a call it does not take. -/
def Broken (mgr : LifecycleMgr) : Prop :=
  ∃ pluginLib, after pluginLib false mgr.dispatcher.calls = none

structure Inv (mgr : LifecycleMgr) : Prop where
  loaded : ∀ pluginLib libInfo, mgr.dispatcher.pluginLibMap_.lookup pluginLib = some libInfo →
    libInfo.onPluginInitFunc_ = true ∧ libInfo.onPluginDisableFunc_ = true
  running : ∀ pluginLib libInfo beginTime, mgr.running = some (pluginLib, libInfo, beginTime) →
    libInfo.onPluginInitFunc_ = true ∧ libInfo.onPluginDisableFunc_ = true
  obeys : Obeys mgr.dispatcher

/-! ## More calls -/

theorem after_append (pluginLib : String) (initialised : Bool) (calls more : List PluginCall) :
    after pluginLib initialised (calls ++ more) =
      (after pluginLib initialised calls).bind fun next => after pluginLib next more :=
  List.foldlM_append

theorem after_concat (pluginLib : String) (initialised : Bool) (calls : List PluginCall)
    (call : PluginCall) :
    after pluginLib initialised (calls ++ [call]) =
      (after pluginLib initialised calls).bind fun next => takes pluginLib next call := by
  rw [after_append]
  congr 1
  funext next
  simp [after]

/-- A plugin that did not take a call never recovers. -/
theorem after_none_of_prefix {pluginLib : String} {calls later : List PluginCall}
    (hearlier : calls <+: later) (h : after pluginLib false calls = none) :
    after pluginLib false later = none := by
  obtain ⟨more, rfl⟩ := hearlier
  rw [after_append, h]
  rfl

theorem calls_loadPlugin (dispatcher : Dispatcher) (info : PluginInfo) :
    dispatcher.calls <+: (loadPlugin dispatcher info).calls := by
  unfold loadPlugin
  split_ifs
  · exact List.prefix_refl _
  · exact List.prefix_refl _
  · cases LoadOnePlugin info.object with
    | none => exact List.prefix_refl _
    | some libInfo => exact List.prefix_append _ _

theorem calls_RepairPlugin (noFront : Int) (dispatcher : Dispatcher) (endTime : Int)
    (pluginLib : String) (libInfo : PluginLib) :
    dispatcher.calls <+: (RepairPlugin noFront dispatcher endTime pluginLib libInfo).calls := by
  unfold RepairPlugin
  dsimp only
  split_ifs <;> exact List.prefix_append _ _

theorem calls_disablePlugin (libMap : AssocMap String PluginLib) (dispatcher : Dispatcher)
    (pluginLib : String) :
    dispatcher.calls <+: (disablePlugin libMap dispatcher pluginLib).calls := by
  unfold disablePlugin
  cases libMap.lookup pluginLib with
  | none => exact List.prefix_refl _
  | some libInfo => exact List.prefix_append _ _

/-- A loop in which every iteration appends appends. -/
theorem calls_foldl {α : Type} {body : Dispatcher → α → Dispatcher}
    (hbody : ∀ dispatcher x, dispatcher.calls <+: (body dispatcher x).calls) (xs : List α)
    (dispatcher : Dispatcher) : dispatcher.calls <+: (xs.foldl body dispatcher).calls := by
  induction xs generalizing dispatcher with
  | nil => exact List.prefix_refl _
  | cons x xs ih => exact (hbody dispatcher x).trans (ih _)

theorem calls_step (mgr : LifecycleMgr) (event : Event) :
    mgr.dispatcher.calls <+: (mgr.step event).dispatcher.calls := by
  cases event with
  | Init => exact List.prefix_refl _
  | LoadPlugin pluginInfoList =>
      rw [step, LoadPlugin]
      split_ifs
      · exact List.prefix_refl _
      · exact calls_foldl calls_loadPlugin pluginInfoList mgr.dispatcher
  | BeginDispatch pluginLib beginTime =>
      rw [step, BeginDispatch]
      split
      · split_ifs
        · exact List.prefix_refl _
        · exact List.prefix_append _ _
      · exact List.prefix_refl _
  | EndDispatch noFront endTime =>
      rw [step, EndDispatch]
      split
      · exact List.prefix_refl _
      · dsimp only
        split_ifs
        · exact calls_RepairPlugin noFront (updateStat mgr.dispatcher _ _) endTime _ _
        · exact List.prefix_refl _
  | Stop => exact calls_foldl (calls_disablePlugin _) _ mgr.dispatcher

/-! ## Loading and stopping -/

theorem Obeys.loadPlugin {dispatcher : Dispatcher} (h : Obeys dispatcher) (info : PluginInfo) :
    Obeys (loadPlugin dispatcher info) := by
  unfold LifecycleMgr.loadPlugin
  split_ifs with hoff hloaded
  · exact h
  · exact h
  · cases LoadOnePlugin info.object with
    | none => exact h
    | some libInfo =>
        intro pluginLib
        dsimp only
        rw [Dispatcher.calls_call, after_concat, h pluginLib, Option.bind_some,
          AssocMap.lookup_insert_ite, takes]
        by_cases hsame : info.libPath = pluginLib
        · have hnone : (dispatcher.pluginLibMap_.lookup pluginLib).isSome = false := by
            rw [← hsame]
            exact Bool.eq_false_of_not_eq_true hloaded
          simp [hsame, hnone]
        · simp [hsame, Ne.symm hsame]

theorem Obeys.LoadPlugin {dispatcher : Dispatcher} (h : Obeys dispatcher)
    (pluginInfoList : List PluginInfo) :
    Obeys (pluginInfoList.foldl LifecycleMgr.loadPlugin dispatcher) := by
  induction pluginInfoList generalizing dispatcher with
  | nil => exact h
  | cons info rest ih => exact ih (h.loadPlugin info)

/-- The libraries are those of the model without calls. -/
theorem pluginLibMap_loadPlugin (dispatcher : Dispatcher) (pluginInfoList : List PluginInfo) :
    (pluginInfoList.foldl loadPlugin dispatcher).pluginLibMap_ =
      Plugin.LoadPlugin dispatcher.pluginLibMap_ pluginInfoList := by
  unfold Plugin.LoadPlugin
  induction pluginInfoList generalizing dispatcher with
  | nil => rfl
  | cons info rest ih =>
      rw [List.foldl_cons, List.foldl_cons, ih]
      congr 1
      unfold loadPlugin
      split_ifs
      · rfl
      · rfl
      · cases LoadOnePlugin info.object <;> rfl

/-- What one plugin sees of the loop that disables all of them. -/
theorem after_disablePlugin {libMap : AssocMap String PluginLib} {pluginLib : String}
    (hfunctions : ∀ libInfo, libMap.lookup pluginLib = some libInfo →
      libInfo.onPluginDisableFunc_ = true) (dispatcher : Dispatcher) :
    after pluginLib false (disablePlugin libMap dispatcher pluginLib).calls =
      if (libMap.lookup pluginLib).isSome then
        (after pluginLib false dispatcher.calls).bind fun next =>
          takes pluginLib next (.OnPluginDisable pluginLib)
      else after pluginLib false dispatcher.calls := by
  unfold disablePlugin
  cases hlookup : libMap.lookup pluginLib with
  | none => rfl
  | some libInfo => simp [hfunctions libInfo hlookup, after_concat]

theorem after_disablePlugin_of_ne (libMap : AssocMap String PluginLib) {pluginLib other : String}
    (hne : other ≠ pluginLib) (dispatcher : Dispatcher) :
    after pluginLib false (disablePlugin libMap dispatcher other).calls =
      after pluginLib false dispatcher.calls := by
  unfold disablePlugin
  cases libMap.lookup other with
  | none => rfl
  | some libInfo =>
      dsimp only
      rw [Dispatcher.calls_call]
      cases libInfo.onPluginDisableFunc_ with
      | false => simp
      | true => simp [after_concat, takes, hne]

theorem Inv.unLoadPlugin {mgr : LifecycleMgr} (hinv : Inv mgr) :
    Obeys (UnLoadPlugin mgr.dispatcher) := by
  intro pluginLib
  have hpass := view_run_of_own (disablePlugin mgr.dispatcher.pluginLibMap_)
    (fun dispatcher => after pluginLib false dispatcher.calls) pluginLib
    (fun seen =>
      if (mgr.dispatcher.pluginLibMap_.lookup pluginLib).isSome then
        seen.bind fun next => takes pluginLib next (.OnPluginDisable pluginLib)
      else seen)
    (after_disablePlugin fun libInfo hlookup => (hinv.loaded pluginLib libInfo hlookup).2)
    (fun dispatcher other hne => after_disablePlugin_of_ne _ hne dispatcher)
    _ (AssocMap.nodup_ascendingKeys mgr.dispatcher.pluginLibMap_) mgr.dispatcher
  refine hpass.trans ?_
  rw [hinv.obeys pluginLib]
  cases hlookup : mgr.dispatcher.pluginLibMap_.lookup pluginLib with
  | none => simp [UnLoadPlugin]
  | some libInfo =>
      have hmem : pluginLib ∈ mgr.dispatcher.pluginLibMap_.ascendingKeys :=
        (AssocMap.mem_ascendingKeys _ _).mpr ((AssocMap.mem_keys_iff _ _).mpr ⟨libInfo, hlookup⟩)
      simp [hmem, takes, UnLoadPlugin]

/-! ## The end of a dispatch -/

/-- A plugin is disabled for good, or disabled and initialised again. -/
theorem repairPlugin_cases (noFront : Int) (dispatcher : Dispatcher) (endTime : Int)
    (pluginLib : String) {libInfo : PluginLib} (hinit : libInfo.onPluginInitFunc_ = true)
    (hdisable : libInfo.onPluginDisableFunc_ = true) :
    ((RepairPlugin noFront dispatcher endTime pluginLib libInfo).calls =
        dispatcher.calls ++ [.OnPluginDisable pluginLib] ∧
      (RepairPlugin noFront dispatcher endTime pluginLib libInfo).pluginLibMap_ =
        dispatcher.pluginLibMap_.erase pluginLib) ∨
    ((RepairPlugin noFront dispatcher endTime pluginLib libInfo).calls =
        dispatcher.calls ++ [.OnPluginDisable pluginLib] ++ [.OnPluginInit pluginLib] ∧
      (RepairPlugin noFront dispatcher endTime pluginLib libInfo).pluginLibMap_ =
        dispatcher.pluginLibMap_) := by
  rw [RepairPlugin_eq hinit hdisable]
  dsimp only
  by_cases hforever : 2 ≤ (dispatcher.stat pluginLib).timeOutTime.length ∧
      crashTime noFront endTime (dispatcher.stat pluginLib).timeOutTime < DISABLE_PLUGIN_TIME
  · rw [if_pos hforever]
    exact Or.inl ⟨rfl, rfl⟩
  · rw [if_neg hforever]
    refine Or.inr ⟨?_, rfl⟩
    simp

/-- A plugin that is loaded takes the calls of a repair. -/
theorem Obeys.repairPlugin {dispatcher : Dispatcher} (h : Obeys dispatcher) (noFront endTime : Int)
    {pluginLib : String} {libInfo : PluginLib} (hinit : libInfo.onPluginInitFunc_ = true)
    (hdisable : libInfo.onPluginDisableFunc_ = true)
    (hloaded : (dispatcher.pluginLibMap_.lookup pluginLib).isSome = true) :
    Obeys (RepairPlugin noFront dispatcher endTime pluginLib libInfo) := by
  intro other
  obtain ⟨hcalls, hmap⟩ | ⟨hcalls, hmap⟩ :=
    repairPlugin_cases noFront dispatcher endTime pluginLib hinit hdisable
  · rw [hcalls, hmap, after_concat, h other, Option.bind_some, AssocMap.lookup_erase_ite, takes]
    by_cases hsame : pluginLib = other
    · subst hsame
      simp [hloaded]
    · simp [hsame, Ne.symm hsame]
  · rw [hcalls, hmap, after_concat, after_concat, h other, Option.bind_some]
    by_cases hsame : pluginLib = other
    · subst hsame
      simp [takes, hloaded]
    · simp [takes, hsame]

theorem loaded_LoadPlugin {dispatcher : Dispatcher} (pluginInfoList : List PluginInfo)
    (h : ∀ pluginLib libInfo, dispatcher.pluginLibMap_.lookup pluginLib = some libInfo →
      libInfo.onPluginInitFunc_ = true ∧ libInfo.onPluginDisableFunc_ = true) :
    ∀ pluginLib libInfo,
      (pluginInfoList.foldl loadPlugin dispatcher).pluginLibMap_.lookup pluginLib = some libInfo →
        libInfo.onPluginInitFunc_ = true ∧ libInfo.onPluginDisableFunc_ = true := by
  rw [pluginLibMap_loadPlugin]
  exact LoadPlugin_functions pluginInfoList dispatcher.pluginLibMap_ h

theorem lookup_RepairPlugin {noFront : Int} {dispatcher : Dispatcher} {endTime : Int}
    {pluginLib : String} {libInfo : PluginLib} (hinit : libInfo.onPluginInitFunc_ = true)
    (hdisable : libInfo.onPluginDisableFunc_ = true) {other : String} {found : PluginLib}
    (h : (RepairPlugin noFront dispatcher endTime pluginLib libInfo).pluginLibMap_.lookup other =
      some found) : dispatcher.pluginLibMap_.lookup other = some found := by
  obtain ⟨-, hmap⟩ | ⟨-, hmap⟩ :=
    repairPlugin_cases noFront dispatcher endTime pluginLib hinit hdisable
  · rw [hmap, AssocMap.lookup_erase_ite] at h
    split_ifs at h
    exact h
  · rwa [hmap] at h

theorem Inv.step {mgr : LifecycleMgr} (hinv : Inv mgr) {event : Event}
    (hloaded : StillLoaded mgr event) : Inv (mgr.step event) := by
  cases event with
  | Init => exact ⟨hinv.loaded, hinv.running, hinv.obeys⟩
  | LoadPlugin pluginInfoList =>
      rw [LifecycleMgr.step, LoadPlugin]
      split_ifs
      · exact hinv
      · exact ⟨loaded_LoadPlugin pluginInfoList hinv.loaded, hinv.running,
          hinv.obeys.LoadPlugin pluginInfoList⟩
  | BeginDispatch pluginLib beginTime =>
      rw [LifecycleMgr.step, BeginDispatch]
      split
      · rename_i libInfo hrunning hlookup
        split_ifs
        · exact hinv
        · refine ⟨hinv.loaded, ?_, ?_⟩
          · intro other found time hsome
            obtain ⟨rfl, rfl, rfl⟩ := Option.some.inj hsome
            exact hinv.loaded _ _ hlookup
          · intro other
            dsimp only
            rw [Dispatcher.calls_call, after_concat, hinv.obeys other, Option.bind_some, takes]
            by_cases hsame : pluginLib = other
            · subst hsame
              simp [hlookup, Dispatcher.call]
            · simp [hsame, Dispatcher.call]
      · exact hinv
  | EndDispatch noFront endTime =>
      rw [StillLoaded] at hloaded
      rw [LifecycleMgr.step, EndDispatch]
      cases hrunning : mgr.running with
      | none => exact hinv
      | some call =>
          obtain ⟨pluginLib, libInfo, beginTime⟩ := call
          obtain ⟨hinit, hdisable⟩ := hinv.running _ _ _ hrunning
          dsimp only
          have hobeys : Obeys (updateStat mgr.dispatcher pluginLib
              (costTimeUs beginTime endTime)) := hinv.obeys
          split_ifs with htime
          · refine ⟨?_, by simp, ?_⟩
            · intro other found hlookup
              have hkept : (updateStat mgr.dispatcher pluginLib
                  (costTimeUs beginTime endTime)).pluginLibMap_.lookup other = some found :=
                lookup_RepairPlugin hinit hdisable hlookup
              exact hinv.loaded other found hkept
            · have hstill := hloaded pluginLib libInfo beginTime hrunning htime
              exact hobeys.repairPlugin noFront endTime hinit hdisable hstill
          · exact ⟨hinv.loaded, by simp, hinv.obeys⟩
  | Stop => exact ⟨by simp [LifecycleMgr.step, UnLoadPlugin], hinv.running, hinv.unLoadPlugin⟩

theorem Broken.step {mgr : LifecycleMgr} (h : Broken mgr) (event : Event) :
    Broken (mgr.step event) := by
  obtain ⟨pluginLib, hnone⟩ := h
  exact ⟨pluginLib, after_none_of_prefix (calls_step mgr event) hnone⟩

/-- The two halves make up the dispatch to one plugin. -/
theorem dispatcher_EndDispatch_BeginDispatch (mgr : LifecycleMgr) (hidle : mgr.running = none)
    (noFront : Int) (pluginLib : String) (beginTime endTime : Int) :
    ((mgr.BeginDispatch pluginLib beginTime).EndDispatch noFront endTime).dispatcher =
      dispatchToPlugin noFront mgr.dispatcher pluginLib beginTime endTime := by
  rw [BeginDispatch, hidle, dispatchToPlugin]
  cases hlookup : mgr.dispatcher.pluginLibMap_.lookup pluginLib with
  | none => simp [EndDispatch, hidle]
  | some libInfo =>
      cases hdispatch : libInfo.onDispatchResourceFunc_ with
      | false => simp [EndDispatch, hidle, hdispatch]
      | true =>
          simp only [hdispatch, Bool.not_true, Bool.false_eq_true, if_false]
          rfl

end ResSched.Plugin.LifecycleMgr
