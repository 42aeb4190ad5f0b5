import ResSched.Library.Transition
import ResSched.Model.Plugin.Repair
import Mathlib.Tactic.NormNum

/-! # Repairing plugins whose dispatch times out -/

namespace ResSched.Plugin

open Transition

/-! ## Runs of dispatches -/

/-- A dispatch to one plugin, some time after the previous one. `noFront` is what reading the
front of an empty history yields. -/
structure Dispatch where
  pluginLib : String
  idle : Nat
  cost : Nat
  noFront : Int

/-- The dispatcher beside the clock and all the time-outs of each plugin, the last one first. -/
structure RepairWorld where
  dispatcher : Dispatcher
  now : Int
  timeOuts : AssocMap String (List Int)

namespace RepairWorld

def start (pluginInfoList : List PluginInfo) (now : Int) : RepairWorld where
  dispatcher := ⟨LoadPlugin ∅ pluginInfoList, ∅, []⟩
  now := now
  timeOuts := ∅

def beginTime (world : RepairWorld) (dispatch : Dispatch) : Int :=
  world.now + dispatch.idle

def endTime (world : RepairWorld) (dispatch : Dispatch) : Int :=
  world.beginTime dispatch + dispatch.cost

def timeOutsOf (world : RepairWorld) (pluginLib : String) : List Int :=
  (world.timeOuts.lookup pluginLib).getD []

def history (world : RepairWorld) (pluginLib : String) : List Int :=
  (world.dispatcher.stat pluginLib).timeOutTime

/-- The plugin is loaded and takes the event. -/
def runs (world : RepairWorld) (dispatch : Dispatch) : Bool :=
  (world.dispatcher.pluginLibMap_.lookup dispatch.pluginLib).any
    PluginLib.onDispatchResourceFunc_

def timedOut (world : RepairWorld) (dispatch : Dispatch) : Bool :=
  world.runs dispatch && timesOut (world.beginTime dispatch) (world.endTime dispatch)

def step (world : RepairWorld) (dispatch : Dispatch) : RepairWorld where
  dispatcher := dispatchToPlugin dispatch.noFront world.dispatcher dispatch.pluginLib
    (world.beginTime dispatch) (world.endTime dispatch)
  now := world.endTime dispatch
  timeOuts :=
    if world.timedOut dispatch then
      world.timeOuts.insert dispatch.pluginLib
        (world.endTime dispatch :: world.timeOutsOf dispatch.pluginLib)
    else world.timeOuts

end RepairWorld

/-! ## The specification -/

/-- With the two time-outs before it, a time-out lies within the limit of the earliest. -/
def WithinLimit (timeOuts : List Int) (endTime : Int) : Prop :=
  ∃ latest first older, timeOuts = latest :: first :: older ∧
    endTime - first < DISABLE_PLUGIN_TIME * nanosPerMilli

def PluginCall.pluginLib : PluginCall → String
  | .OnPluginDisable pluginLib => pluginLib
  | .OnPluginInit pluginLib => pluginLib
  | .OnDispatchResource pluginLib => pluginLib

/-- A time-out within the limit disables the plugin for good, any other one disables it and
initialises it again, and no other dispatch does either. The history stays within two entries,
and is not empty when its front is read; the elapsed time is exact. -/
structure RepairSpec (world : RepairWorld) (dispatch : Dispatch) : Prop where
  disabled : world.timedOut dispatch = true →
    WithinLimit (world.timeOutsOf dispatch.pluginLib) (world.endTime dispatch) →
      (world.step dispatch).dispatcher.pluginLibMap_ =
          world.dispatcher.pluginLibMap_.erase dispatch.pluginLib ∧
        (world.step dispatch).dispatcher.calls = world.dispatcher.calls ++
          [.OnDispatchResource dispatch.pluginLib, .OnPluginDisable dispatch.pluginLib]
  repaired : world.timedOut dispatch = true →
    ¬WithinLimit (world.timeOutsOf dispatch.pluginLib) (world.endTime dispatch) →
      (world.step dispatch).dispatcher.pluginLibMap_ = world.dispatcher.pluginLibMap_ ∧
        (world.step dispatch).dispatcher.calls = world.dispatcher.calls ++
          [.OnDispatchResource dispatch.pluginLib, .OnPluginDisable dispatch.pluginLib,
            .OnPluginInit dispatch.pluginLib]
  spared : world.timedOut dispatch = false →
    (world.step dispatch).dispatcher.pluginLibMap_ = world.dispatcher.pluginLibMap_ ∧
      (world.step dispatch).dispatcher.calls = world.dispatcher.calls ++
        (if world.runs dispatch then [.OnDispatchResource dispatch.pluginLib] else [])
  bounded : ∀ pluginLib, ((world.step dispatch).history pluginLib).length ≤ 2
  exact : world.timedOut dispatch = true →
    ∀ front, (world.history dispatch.pluginLib).head? = some front →
      crashTime dispatch.noFront (world.endTime dispatch) (world.history dispatch.pluginLib) =
        (world.endTime dispatch - front).tdiv nanosPerMilli
  front_read : world.timedOut dispatch = true → world.history dispatch.pluginLib ≠ []
  for_good : ∀ pluginLib, world.dispatcher.pluginLibMap_.lookup pluginLib = none →
    (world.step dispatch).dispatcher.pluginLibMap_.lookup pluginLib = none ∧
      (world.step dispatch).dispatcher.calls.filter (fun call => call.pluginLib = pluginLib) =
        world.dispatcher.calls.filter (fun call => call.pluginLib = pluginLib)

/-- The earlier of the last two time-outs, or the only one. -/
def windowFront (timeOuts : List Int) : Option Int :=
  (timeOuts.take 2).getLast?

/-- What a time-out needs to be handled as specified: the plugin timed out before, and the
milliseconds since the earlier of its last two time-outs fit 32 bits. -/
def RepairKept (world : RepairWorld) (dispatch : Dispatch) : Prop :=
  world.timedOut dispatch = true →
    ∃ front, windowFront (world.timeOutsOf dispatch.pluginLib) = some front ∧
      (world.endTime dispatch - front).tdiv nanosPerMilli < 2147483648

/-! ## The dispatcher after a dispatch -/

namespace Dispatcher

@[simp] theorem stat_call (dispatcher : Dispatcher) (calls : List PluginCall)
    (pluginLib : String) : (dispatcher.call calls).stat pluginLib = dispatcher.stat pluginLib :=
  rfl

@[simp] theorem calls_call (dispatcher : Dispatcher) (calls : List PluginCall) :
    (dispatcher.call calls).calls = dispatcher.calls ++ calls :=
  rfl

@[simp] theorem calls_setTimeOutTime (dispatcher : Dispatcher) (pluginLib : String)
    (timeOutTime : List Int) :
    (dispatcher.setTimeOutTime pluginLib timeOutTime).calls = dispatcher.calls :=
  rfl

@[simp] theorem timeOutTime_setTimeOutTime (dispatcher : Dispatcher) (pluginLib : String)
    (timeOutTime : List Int) (other : String) :
    ((dispatcher.setTimeOutTime pluginLib timeOutTime).stat other).timeOutTime =
      if other = pluginLib then timeOutTime else (dispatcher.stat other).timeOutTime := by
  rw [setTimeOutTime, stat, AssocMap.lookup_insert_ite]
  split_ifs <;> rfl

end Dispatcher

@[simp] theorem timeOutTime_Update (stat : PluginStat) (costTime : Int) :
    (stat.Update costTime).timeOutTime = stat.timeOutTime := by
  rw [PluginStat.Update]
  dsimp only
  split_ifs <;> rfl

/-- The dispatcher once the plugin has run and its cost is recorded. -/
def ran (dispatcher : Dispatcher) (pluginLib : String) (costTime : Int) : Dispatcher :=
  let called := dispatcher.call [.OnDispatchResource pluginLib]
  { called with
    pluginStat_ := called.pluginStat_.insert pluginLib ((called.stat pluginLib).Update costTime) }

@[simp] theorem pluginLibMap_ran (dispatcher : Dispatcher) (pluginLib : String) (costTime : Int) :
    (ran dispatcher pluginLib costTime).pluginLibMap_ = dispatcher.pluginLibMap_ :=
  rfl

@[simp] theorem calls_ran (dispatcher : Dispatcher) (pluginLib : String) (costTime : Int) :
    (ran dispatcher pluginLib costTime).calls =
      dispatcher.calls ++ [.OnDispatchResource pluginLib] :=
  rfl

@[simp] theorem timeOutTime_ran (dispatcher : Dispatcher) (pluginLib : String) (costTime : Int)
    (other : String) :
    ((ran dispatcher pluginLib costTime).stat other).timeOutTime =
      (dispatcher.stat other).timeOutTime := by
  rw [ran, Dispatcher.stat, AssocMap.lookup_insert_ite]
  by_cases hsame : other = pluginLib
  · rw [if_pos hsame, Option.getD_some, timeOutTime_Update, hsame, Dispatcher.stat_call]
  · rw [if_neg hsame]
    rfl

/-- What a repair does, for a plugin with both functions. -/
theorem RepairPlugin_eq {noFront : Int} {dispatcher : Dispatcher} {endTime : Int}
    {pluginLib : String} {libInfo : PluginLib} (hinit : libInfo.onPluginInitFunc_ = true)
    (hdisable : libInfo.onPluginDisableFunc_ = true) :
    RepairPlugin noFront dispatcher endTime pluginLib libInfo =
      let history := (dispatcher.stat pluginLib).timeOutTime
      if 2 ≤ history.length ∧ crashTime noFront endTime history < DISABLE_PLUGIN_TIME then
        { (dispatcher.call [.OnPluginDisable pluginLib]).setTimeOutTime pluginLib [] with
          pluginLibMap_ := dispatcher.pluginLibMap_.erase pluginLib }
      else
        (dispatcher.setTimeOutTime pluginLib
          (if 2 ≤ history.length then (history ++ [endTime]).tail
            else history ++ [endTime])).call
          [.OnPluginDisable pluginLib, .OnPluginInit pluginLib] := by
  have hlength : ∀ history : List Int,
      (history ++ [endTime]).length ≥ MAX_PLUGIN_TIMEOUT_TIMES ↔ 2 ≤ history.length := by
    intro history
    rw [List.length_append, List.length_singleton, MAX_PLUGIN_TIMEOUT_TIMES]
    omega
  simp only [RepairPlugin, hlength, hinit, hdisable, Bool.and_self, if_true]
  rfl

namespace RepairWorld

theorem step_spared {world : RepairWorld} {dispatch : Dispatch}
    (h : world.timedOut dispatch = false) :
    (world.step dispatch).dispatcher =
      if world.runs dispatch then
        ran world.dispatcher dispatch.pluginLib
          (costTimeUs (world.beginTime dispatch) (world.endTime dispatch))
      else world.dispatcher := by
  rw [timedOut] at h
  rw [step, dispatchToPlugin]
  rw [runs] at *
  cases hlookup : world.dispatcher.pluginLibMap_.lookup dispatch.pluginLib with
  | none => simp
  | some libInfo =>
      rw [hlookup, Option.any_some] at h
      cases hdispatch : libInfo.onDispatchResourceFunc_ with
      | false => simp [hdispatch]
      | true =>
          rw [hdispatch, Bool.true_and] at h
          simp only [hdispatch, h, Option.any_some, Bool.not_true, Bool.false_eq_true, if_false,
            if_true]
          rfl

theorem step_timedOut {world : RepairWorld} {dispatch : Dispatch}
    (h : world.timedOut dispatch = true) :
    ∃ libInfo, world.dispatcher.pluginLibMap_.lookup dispatch.pluginLib = some libInfo ∧
      (world.step dispatch).dispatcher =
        RepairPlugin dispatch.noFront
          (ran world.dispatcher dispatch.pluginLib
            (costTimeUs (world.beginTime dispatch) (world.endTime dispatch)))
          (world.endTime dispatch) dispatch.pluginLib libInfo := by
  obtain ⟨hruns, htime⟩ := (Bool.and_eq_true _ _).mp h
  rw [runs] at hruns
  cases hlookup : world.dispatcher.pluginLibMap_.lookup dispatch.pluginLib with
  | none => simp [hlookup] at hruns
  | some libInfo =>
  have hdispatch : libInfo.onDispatchResourceFunc_ = true := by simpa [hlookup] using hruns
  refine ⟨libInfo, rfl, ?_⟩
  rw [step, dispatchToPlugin, hlookup]
  simp only [hdispatch, htime, Bool.not_true, Bool.false_eq_true, if_false, if_true]
  rfl

/-! ## What every run keeps -/

/-- Every loaded plugin has both functions, the history of a loaded plugin is its last two
time-outs, and all time-outs are past. -/
structure Inv (world : RepairWorld) : Prop where
  loaded : ∀ pluginLib libInfo,
    world.dispatcher.pluginLibMap_.lookup pluginLib = some libInfo →
      libInfo.onPluginInitFunc_ = true ∧ libInfo.onPluginDisableFunc_ = true
  window : ∀ pluginLib libInfo,
    world.dispatcher.pluginLibMap_.lookup pluginLib = some libInfo →
      world.history pluginLib = ((world.timeOutsOf pluginLib).take 2).reverse
  bounded : ∀ pluginLib, (world.history pluginLib).length ≤ 2
  past : ∀ pluginLib, ∀ time ∈ world.timeOutsOf pluginLib, time ≤ world.now

/-- The dispatcher disables the plugin for good. -/
def disables (world : RepairWorld) (dispatch : Dispatch) : Prop :=
  2 ≤ (world.history dispatch.pluginLib).length ∧
    crashTime dispatch.noFront (world.endTime dispatch) (world.history dispatch.pluginLib) <
      DISABLE_PLUGIN_TIME

theorem outcome_spared {world : RepairWorld} {dispatch : Dispatch}
    (h : world.timedOut dispatch = false) :
    (world.step dispatch).dispatcher.pluginLibMap_ = world.dispatcher.pluginLibMap_ ∧
      (world.step dispatch).dispatcher.calls = world.dispatcher.calls ++
        (if world.runs dispatch then [.OnDispatchResource dispatch.pluginLib] else []) ∧
      ∀ pluginLib, (world.step dispatch).history pluginLib = world.history pluginLib := by
  simp only [history, step_spared h]
  cases world.runs dispatch with
  | false => simp
  | true => simp

theorem outcome_disabled {world : RepairWorld} (hinv : world.Inv) {dispatch : Dispatch}
    (h : world.timedOut dispatch = true) (hdisables : world.disables dispatch) :
    (world.step dispatch).dispatcher.pluginLibMap_ =
        world.dispatcher.pluginLibMap_.erase dispatch.pluginLib ∧
      (world.step dispatch).dispatcher.calls = world.dispatcher.calls ++
        [.OnDispatchResource dispatch.pluginLib, .OnPluginDisable dispatch.pluginLib] ∧
      ∀ pluginLib, (world.step dispatch).history pluginLib =
        if pluginLib = dispatch.pluginLib then [] else world.history pluginLib := by
  obtain ⟨libInfo, hlookup, hstep⟩ := step_timedOut h
  obtain ⟨hinit, hdisable⟩ := hinv.loaded _ _ hlookup
  rw [disables, history] at hdisables
  rw [RepairPlugin_eq hinit hdisable] at hstep
  simp only [timeOutTime_ran] at hstep
  rw [if_pos hdisables] at hstep
  simp only [history, hstep]
  refine ⟨rfl, ?_, ?_⟩
  · simp
  · intro pluginLib
    exact (Dispatcher.timeOutTime_setTimeOutTime _ _ _ _).trans (by simp)

theorem outcome_repaired {world : RepairWorld} (hinv : world.Inv) {dispatch : Dispatch}
    (h : world.timedOut dispatch = true) (hdisables : ¬world.disables dispatch) :
    (world.step dispatch).dispatcher.pluginLibMap_ = world.dispatcher.pluginLibMap_ ∧
      (world.step dispatch).dispatcher.calls = world.dispatcher.calls ++
        [.OnDispatchResource dispatch.pluginLib, .OnPluginDisable dispatch.pluginLib,
          .OnPluginInit dispatch.pluginLib] ∧
      ∀ pluginLib, (world.step dispatch).history pluginLib =
        if pluginLib = dispatch.pluginLib then
          ((world.endTime dispatch :: world.timeOutsOf pluginLib).take 2).reverse
        else world.history pluginLib := by
  obtain ⟨libInfo, hlookup, hstep⟩ := step_timedOut h
  obtain ⟨hinit, hdisable⟩ := hinv.loaded _ _ hlookup
  have hwindow : (world.dispatcher.stat dispatch.pluginLib).timeOutTime =
      ((world.timeOutsOf dispatch.pluginLib).take 2).reverse := hinv.window _ _ hlookup
  rw [disables, history] at hdisables
  rw [RepairPlugin_eq hinit hdisable] at hstep
  simp only [timeOutTime_ran] at hstep
  rw [if_neg hdisables, hwindow] at hstep
  simp only [history, hstep]
  refine ⟨rfl, by simp, ?_⟩
  intro pluginLib
  rw [Dispatcher.stat_call, Dispatcher.timeOutTime_setTimeOutTime, timeOutTime_ran]
  by_cases hsame : pluginLib = dispatch.pluginLib
  · rw [if_pos hsame, if_pos hsame, hsame]
    -- the history is full from the second time-out on
    cases world.timeOutsOf dispatch.pluginLib with
    | nil => rfl
    | cons latest rest =>
        cases rest with
        | nil => rfl
        | cons first older => rfl
  · rw [if_neg hsame, if_neg hsame]

/-! ### The steps keep the invariant -/

theorem endTime_le (world : RepairWorld) (dispatch : Dispatch) :
    world.now ≤ world.endTime dispatch := by
  simp only [endTime, beginTime]
  omega

theorem timeOutsOf_step (world : RepairWorld) (dispatch : Dispatch) (pluginLib : String) :
    (world.step dispatch).timeOutsOf pluginLib =
      if world.timedOut dispatch = true ∧ pluginLib = dispatch.pluginLib then
        world.endTime dispatch :: world.timeOutsOf pluginLib
      else world.timeOutsOf pluginLib := by
  simp only [timeOutsOf, step]
  cases world.timedOut dispatch with
  | false => simp
  | true =>
      simp only [if_true, true_and, AssocMap.lookup_insert_ite]
      by_cases hsame : pluginLib = dispatch.pluginLib
      · subst hsame
        simp
      · simp [hsame]

theorem inv_step (world : RepairWorld) (dispatch : Dispatch) (h : world.Inv) :
    (world.step dispatch).Inv := by
  have hpast : ∀ pluginLib, ∀ time ∈ (world.step dispatch).timeOutsOf pluginLib,
      time ≤ (world.step dispatch).now := by
    intro pluginLib time htime
    have hnow : (world.step dispatch).now = world.endTime dispatch := rfl
    have hmono := world.endTime_le dispatch
    rw [timeOutsOf_step] at htime
    split_ifs at htime
    · rcases List.mem_cons.mp htime with rfl | hold
      · exact le_of_eq hnow.symm
      · exact hnow ▸ (h.past pluginLib time hold).trans hmono
    · exact hnow ▸ (h.past pluginLib time htime).trans hmono
  cases htimedOut : world.timedOut dispatch with
  | false =>
      obtain ⟨hmap, _, hhistory⟩ := outcome_spared htimedOut
      refine ⟨?_, ?_, ?_, hpast⟩
      · simpa only [hmap] using h.loaded
      · simpa only [hmap, hhistory, timeOutsOf_step, htimedOut, Bool.false_eq_true, false_and,
          if_false] using h.window
      · simpa only [hhistory] using h.bounded
  | true =>
      by_cases hdisables : world.disables dispatch
      · obtain ⟨hmap, _, hhistory⟩ := outcome_disabled h htimedOut hdisables
        refine ⟨?_, ?_, ?_, hpast⟩
        · intro pluginLib libInfo hlookup
          rw [hmap, AssocMap.lookup_erase_ite] at hlookup
          split_ifs at hlookup
          exact h.loaded pluginLib libInfo hlookup
        · intro pluginLib libInfo hlookup
          rw [hmap, AssocMap.lookup_erase_ite] at hlookup
          split_ifs at hlookup with hsame
          rw [hhistory, if_neg hsame, timeOutsOf_step, if_neg fun hkey => hsame hkey.2]
          exact h.window pluginLib libInfo hlookup
        · intro pluginLib
          rw [hhistory]
          split_ifs
          · simp
          · exact h.bounded pluginLib
      · obtain ⟨hmap, _, hhistory⟩ := outcome_repaired h htimedOut hdisables
        refine ⟨?_, ?_, ?_, hpast⟩
        · simpa only [hmap] using h.loaded
        · intro pluginLib libInfo hlookup
          rw [hmap] at hlookup
          rw [hhistory, timeOutsOf_step]
          by_cases hsame : pluginLib = dispatch.pluginLib
          · rw [if_pos hsame, if_pos ⟨htimedOut, hsame⟩]
          · rw [if_neg hsame, if_neg fun hkey => hsame hkey.2]
            exact h.window pluginLib libInfo hlookup
        · intro pluginLib
          rw [hhistory]
          split_ifs
          · rw [List.length_reverse]
            exact List.length_take_le 2 _
          · exact h.bounded pluginLib

end RepairWorld

/-! ### Loaded plugins -/

theorem LoadOnePlugin_functions {object : SharedObject} {libInfo : PluginLib}
    (h : LoadOnePlugin object = some libInfo) :
    libInfo.onPluginInitFunc_ = true ∧ libInfo.onPluginDisableFunc_ = true := by
  rw [LoadOnePlugin] at h
  split_ifs at h with hopens hvalid
  obtain rfl := Option.some.inj h
  rw [CheckValidPlugin] at hvalid
  cases hinit : object.OnPluginInit with
  | none => simp [hinit] at hvalid
  | some initialised =>
      refine ⟨rfl, ?_⟩
      cases hdisable : object.OnPluginDisable with
      | false => simp [hinit, hdisable] at hvalid
      | true => rfl

/-- Every plugin that is loaded has the two functions a repair calls. -/
theorem LoadPlugin_functions (pluginInfoList : List PluginInfo) (libMap : AssocMap String PluginLib)
    (h : ∀ pluginLib libInfo, libMap.lookup pluginLib = some libInfo →
      libInfo.onPluginInitFunc_ = true ∧ libInfo.onPluginDisableFunc_ = true) :
    ∀ pluginLib libInfo, (LoadPlugin libMap pluginInfoList).lookup pluginLib = some libInfo →
      libInfo.onPluginInitFunc_ = true ∧ libInfo.onPluginDisableFunc_ = true := by
  induction pluginInfoList generalizing libMap with
  | nil => exact h
  | cons info rest ih =>
      refine ih _ ?_
      dsimp only
      split_ifs
      · exact h
      · exact h
      · cases hload : LoadOnePlugin info.object with
        | none => exact h
        | some libInfo =>
            intro pluginLib found hlookup
            rw [AssocMap.lookup_insert_ite] at hlookup
            split_ifs at hlookup
            · obtain rfl := Option.some.inj hlookup
              exact LoadOnePlugin_functions hload
            · exact h pluginLib found hlookup

theorem inv_start (pluginInfoList : List PluginInfo) (now : Int) :
    (RepairWorld.start pluginInfoList now).Inv := by
  refine ⟨LoadPlugin_functions pluginInfoList ∅ (by simp), ?_, ?_, ?_⟩
  · intro pluginLib libInfo _
    simp [RepairWorld.history, RepairWorld.timeOutsOf, RepairWorld.start, Dispatcher.stat,
      PluginStat.zero]
  · intro pluginLib
    simp [RepairWorld.history, RepairWorld.start, Dispatcher.stat, PluginStat.zero]
  · intro pluginLib
    simp [RepairWorld.timeOutsOf, RepairWorld.start]

/-! ## Main result -/

theorem windowFront_eq_head (timeOuts : List Int) :
    ((timeOuts.take 2).reverse).head? = windowFront timeOuts :=
  List.head?_reverse

/-- Within the limit means that the window is full and its front less than the limit ago. -/
theorem withinLimit_iff (timeOuts : List Int) (endTime : Int) :
    WithinLimit timeOuts endTime ↔
      2 ≤ (timeOuts.take 2).length ∧ ∃ front, windowFront timeOuts = some front ∧
        endTime - front < DISABLE_PLUGIN_TIME * nanosPerMilli := by
  cases timeOuts with
  | nil => simp [WithinLimit]
  | cons latest rest =>
      cases rest with
      | nil => simp [WithinLimit]
      | cons first older => simp [WithinLimit, windowFront]

theorem tdiv_lt_limit_iff {elapsed : Int} (h : 0 ≤ elapsed) :
    elapsed.tdiv nanosPerMilli < DISABLE_PLUGIN_TIME ↔
      elapsed < DISABLE_PLUGIN_TIME * nanosPerMilli := by
  rw [Int.tdiv_eq_ediv_of_nonneg h, nanosPerMilli, DISABLE_PLUGIN_TIME]
  omega

namespace RepairWorld

variable {world : RepairWorld} {dispatch : Dispatch}

/-- A plugin that times out is loaded, so its history is the window of its time-outs. -/
theorem Inv.history_of_timedOut (hinv : world.Inv) (h : world.timedOut dispatch = true) :
    world.history dispatch.pluginLib =
      ((world.timeOutsOf dispatch.pluginLib).take 2).reverse := by
  obtain ⟨libInfo, hlookup, _⟩ := step_timedOut h
  exact hinv.window dispatch.pluginLib libInfo hlookup

theorem Inv.elapsed_nonneg (hinv : world.Inv) {front : Int}
    (h : windowFront (world.timeOutsOf dispatch.pluginLib) = some front) :
    0 ≤ world.endTime dispatch - front := by
  have hmem : front ∈ world.timeOutsOf dispatch.pluginLib :=
    List.mem_of_mem_take (List.mem_of_getLast? h)
  have hpast := (hinv.past dispatch.pluginLib front hmem).trans (endTime_le world dispatch)
  omega

/-- The elapsed time is exact when it fits 32 bits, and only then. -/
theorem Inv.crashTime_exact_iff (hinv : world.Inv) (h : world.timedOut dispatch = true)
    {front : Int} (hfront : windowFront (world.timeOutsOf dispatch.pluginLib) = some front) :
    crashTime dispatch.noFront (world.endTime dispatch) (world.history dispatch.pluginLib) =
        (world.endTime dispatch - front).tdiv nanosPerMilli ↔
      (world.endTime dispatch - front).tdiv nanosPerMilli < 2147483648 := by
  have hnonneg : 0 ≤ (world.endTime dispatch - front).tdiv nanosPerMilli :=
    Int.tdiv_nonneg (hinv.elapsed_nonneg hfront) (by decide)
  rw [crashTime, hinv.history_of_timedOut h, windowFront_eq_head, hfront, Option.getD_some]
  rw [CLibrary.toSigned_eq_iff]
  omega

theorem Inv.disables_iff (hinv : world.Inv) (h : world.timedOut dispatch = true)
    (hkept : RepairKept world dispatch) :
    world.disables dispatch ↔
      WithinLimit (world.timeOutsOf dispatch.pluginLib) (world.endTime dispatch) := by
  obtain ⟨front, hfront, hshort⟩ := hkept h
  have hexact := (hinv.crashTime_exact_iff h hfront).mpr hshort
  rw [disables, hexact, hinv.history_of_timedOut h, List.length_reverse, withinLimit_iff,
    tdiv_lt_limit_iff (hinv.elapsed_nonneg hfront)]
  simp [hfront]

theorem for_good_of_outcome {pluginLib : String} {calls : List PluginCall}
    (hnone : world.dispatcher.pluginLibMap_.lookup pluginLib = none)
    (hmap : (world.step dispatch).dispatcher.pluginLibMap_ = world.dispatcher.pluginLibMap_ ∨
      (world.step dispatch).dispatcher.pluginLibMap_ =
        world.dispatcher.pluginLibMap_.erase dispatch.pluginLib)
    (hcalls : (world.step dispatch).dispatcher.calls = world.dispatcher.calls ++ calls)
    (hown : ∀ call ∈ calls, call.pluginLib = dispatch.pluginLib)
    (hruns : calls ≠ [] → world.runs dispatch = true) :
    (world.step dispatch).dispatcher.pluginLibMap_.lookup pluginLib = none ∧
      (world.step dispatch).dispatcher.calls.filter (fun call => call.pluginLib = pluginLib) =
        world.dispatcher.calls.filter (fun call => call.pluginLib = pluginLib) := by
  constructor
  · rcases hmap with hsame | herase
    · rwa [hsame]
    · rw [herase, AssocMap.lookup_erase_ite]
      split_ifs
      · rfl
      · exact hnone
  · have hother : calls.filter (fun call => call.pluginLib = pluginLib) = [] := by
      rw [List.filter_eq_nil_iff]
      intro call hcall
      have hran := hruns (List.ne_nil_of_mem hcall)
      have hne : dispatch.pluginLib ≠ pluginLib := by
        rintro rfl
        simp [runs, hnone] at hran
      simpa [hown call hcall] using hne
    rw [hcalls, List.filter_append, hother, List.append_nil]

/-- A plugin that is not loaded stays so and is not called. -/
theorem Inv.for_good (hinv : world.Inv) (pluginLib : String)
    (hnone : world.dispatcher.pluginLibMap_.lookup pluginLib = none) :
    (world.step dispatch).dispatcher.pluginLibMap_.lookup pluginLib = none ∧
      (world.step dispatch).dispatcher.calls.filter (fun call => call.pluginLib = pluginLib) =
        world.dispatcher.calls.filter (fun call => call.pluginLib = pluginLib) := by
  cases htimedOut : world.timedOut dispatch with
  | false =>
      obtain ⟨hmap, hcalls, _⟩ := outcome_spared htimedOut
      refine for_good_of_outcome hnone (.inl hmap) hcalls ?_ ?_
      · intro call hcall
        split_ifs at hcall
        · rw [List.mem_singleton.mp hcall, PluginCall.pluginLib]
        · exact absurd hcall List.not_mem_nil
      · intro hne
        by_contra hruns
        exact hne (if_neg hruns)
  | true =>
      have hruns : world.runs dispatch = true := ((Bool.and_eq_true _ _).mp htimedOut).1
      by_cases hdisables : world.disables dispatch
      · obtain ⟨hmap, hcalls, _⟩ := outcome_disabled hinv htimedOut hdisables
        exact for_good_of_outcome hnone (.inr hmap) hcalls (by simp [PluginCall.pluginLib])
          fun _ => hruns
      · obtain ⟨hmap, hcalls, _⟩ := outcome_repaired hinv htimedOut hdisables
        exact for_good_of_outcome hnone (.inl hmap) hcalls (by simp [PluginCall.pluginLib])
          fun _ => hruns

theorem Inv.repairSpec_of_kept (hinv : world.Inv) (hkept : RepairKept world dispatch) :
    RepairSpec world dispatch where
  disabled := by
    intro htimedOut hlimit
    obtain ⟨hmap, hcalls, _⟩ :=
      outcome_disabled hinv htimedOut ((hinv.disables_iff htimedOut hkept).mpr hlimit)
    exact ⟨hmap, hcalls⟩
  repaired := by
    intro htimedOut hlimit
    obtain ⟨hmap, hcalls, _⟩ := outcome_repaired hinv htimedOut
      fun hdisables => hlimit ((hinv.disables_iff htimedOut hkept).mp hdisables)
    exact ⟨hmap, hcalls⟩
  spared := by
    intro htimedOut
    obtain ⟨hmap, hcalls, _⟩ := outcome_spared htimedOut
    exact ⟨hmap, hcalls⟩
  bounded := (inv_step world dispatch hinv).bounded
  exact := by
    intro htimedOut front hfront
    obtain ⟨earlier, hearlier, hshort⟩ := hkept htimedOut
    rw [hinv.history_of_timedOut htimedOut, windowFront_eq_head, hearlier] at hfront
    obtain rfl := Option.some.inj hfront
    exact (hinv.crashTime_exact_iff htimedOut hearlier).mpr hshort
  front_read := by
    intro htimedOut hempty
    obtain ⟨front, hfront, _⟩ := hkept htimedOut
    rw [← windowFront_eq_head, ← hinv.history_of_timedOut htimedOut, hempty] at hfront
    exact Option.some_ne_none front hfront.symm
  for_good := fun pluginLib hnone => hinv.for_good pluginLib hnone

theorem Inv.kept_of_repairSpec (hinv : world.Inv) (h : RepairSpec world dispatch) :
    RepairKept world dispatch := by
  intro htimedOut
  obtain ⟨front, hfront⟩ : ∃ front, (world.history dispatch.pluginLib).head? = some front := by
    rw [← Option.isSome_iff_exists, List.isSome_head?]
    simpa using h.front_read htimedOut
  have hexact := h.exact htimedOut front hfront
  rw [hinv.history_of_timedOut htimedOut, windowFront_eq_head] at hfront
  exact ⟨front, hfront, (hinv.crashTime_exact_iff htimedOut hfront).mp hexact⟩

end RepairWorld

/-- In every run of dispatches, each dispatch is handled as specified if and only if, when it
times out, the plugin timed out before and the milliseconds since the earlier of its last two
time-outs fit 32 bits. -/
theorem repair_exact (pluginInfoList : List PluginInfo) (now : Int)
    (dispatches : List Dispatch) :
    EachStep RepairWorld.step (fun world dispatch =>
        RepairSpec world dispatch ↔ RepairKept world dispatch)
      (RepairWorld.start pluginInfoList now) dispatches := by
  intro front dispatch _
  have hinv : (run RepairWorld.step (RepairWorld.start pluginInfoList now) front).Inv :=
    (always_of_step RepairWorld.step RepairWorld.inv_step front _
      (inv_start pluginInfoList now)).last
  exact ⟨hinv.kept_of_repairSpec, hinv.repairSpec_of_kept⟩

/-- A plugin with all functions. -/
def plainPlugin (libPath : String) : PluginInfo :=
  ⟨libPath, true, ⟨true, some true, true, true⟩⟩

/-- The third time-out comes 2147483648 ms after the first one, almost 25 days later: the
plugin is disabled for good instead of being initialised again. -/
theorem repair_exact_counterexample :
    ¬ ∀ pluginInfoList now dispatches,
      EachStep RepairWorld.step RepairSpec (RepairWorld.start pluginInfoList now) dispatches := by
  intro h
  have hspec := h [plainPlugin "lib"] 0
    [⟨"lib", 0, 60000000, 0⟩, ⟨"lib", 0, 60000000, 0⟩,
      ⟨"lib", 2147483528000000, 60000000, 0⟩]
    [⟨"lib", 0, 60000000, 0⟩, ⟨"lib", 0, 60000000, 0⟩]
    ⟨"lib", 2147483528000000, 60000000, 0⟩ (List.prefix_refl _)
  have hlong : ¬WithinLimit [120000000, 60000000] 2147483708000000 := by
    rw [withinLimit_iff]
    decide
  have hmap := (hspec.repaired (by decide) hlong).1
  have hlookup := congrArg (fun libMap => (libMap.lookup "lib").isSome) hmap
  exact absurd hlookup (by decide)

end ResSched.Plugin
