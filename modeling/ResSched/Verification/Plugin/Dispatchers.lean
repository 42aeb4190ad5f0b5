import ResSched.Library.Balance
import ResSched.Library.Channel
import ResSched.Library.Latest
import ResSched.Model.Plugin.Dispatchers
import Mathlib.Algebra.Order.Group.Multiset

/-! # What the queues of the plugins carry

Each queue is a channel: the tasks of a plugin start in the order in which they were submitted.
-/

namespace ResSched.Plugin.Framework

open Transition

/-! ## The specification -/

/-- The tasks of the plugin that have started. -/
def started (fw : Framework) (pluginLib : String) : List Task :=
  (fw.calls.filter fun call => call.1 = pluginLib).map Prod.snd

def waiting (fw : Framework) (pluginLib : String) : List Task :=
  (fw.queue pluginLib).getD []

/-- The plugin is loaded, takes events and is not disabled. -/
def dispatches (fw : Framework) (pluginLib : String) : Bool :=
  pluginLib ∉ fw.disablePlugins_ &&
    (fw.pluginLibMap_.lookup pluginLib).any PluginLib.onDispatchResourceFunc_

/-- The callbacks of the plugin that are submitted outside its queue. -/
def pooled (fw : Framework) (pluginLib : String) : List Nat :=
  (fw.pool.filter fun entry => entry.1 = pluginLib).map Prod.snd

/-- What the framework holds of one plugin. -/
structure View where
  started : List Task
  dispatches : Bool
  queue : Option (List Task)
  pooled : List Nat
  pending : Option Nat

def view (pluginLib : String) (fw : Framework) : View where
  started := fw.started pluginLib
  dispatches := fw.dispatches pluginLib
  queue := fw.queue pluginLib
  pooled := fw.pooled pluginLib
  pending := fw.initFinishCallbacks_.lookup pluginLib

/-- Callbacks go into the queue, or to the pool when there is none. -/
def View.submitCallbacks (seen : View) (callbacks : List Nat) : View :=
  { seen with
    queue := seen.queue.map (· ++ callbacks.map .OnInitFinish)
    pooled := if seen.queue.isSome then seen.pooled else seen.pooled ++ callbacks }

/-- An event for a subscriber, and the callback it has registered. -/
def offered (env : External) (pluginLib : String) (fw : Framework) : Event → List Task
  | .DispatchResource resData =>
      if pluginLib ∈ fw.mgr.DispatchResource env resData then
        [.OnDispatchResource { resData with resType := dispatchedType env resData }]
      else []
  | .CompletePluginInitialization =>
      (fw.initFinishCallbacks_.lookup pluginLib).toList.map .OnInitFinish
  | _ => []

/-- The plugin has a queue, and is served when it is about an event. -/
def accepts (fw : Framework) (pluginLib : String) : Event → Bool
  | .DispatchResource _ => fw.dispatches pluginLib && (fw.queue pluginLib).isSome
  | _ => (fw.queue pluginLib).isSome

def submitted (env : External) (pluginLib : String) (fw : Framework) (event : Event) : List Task :=
  if fw.accepts pluginLib event then offered env pluginLib fw event else []

/-- The step empties the queue of the plugin. -/
def Event.cancels (pluginLib : String) : Event → Prop
  | .InitDispatchersAfterPluginLoad => True
  | .Stop => True
  | .HandlePluginTimeout blocked => blocked = pluginLib
  | .EnablePluginIfResume blocked => blocked = pluginLib
  | _ => False

instance (pluginLib : String) (event : Event) : Decidable (event.cancels pluginLib) := by
  cases event <;> unfold Event.cancels <;> infer_instance

/-- A task that waits is cancelled. -/
def Discards (pluginLib : String) (fw : Framework) (event : Event) : Prop :=
  fw.waiting pluginLib ≠ [] ∧ event.cancels pluginLib

/-! ## Queues after an update -/

theorem queue_setQueue (fw : Framework) (pluginLib other : String) (tasks : Option (List Task)) :
    (fw.setQueue other tasks).queue pluginLib =
      if pluginLib = other then tasks else fw.queue pluginLib := by
  rw [queue, setQueue, AssocMap.lookup_insert_ite]
  split_ifs with hsame
  · rfl
  · rfl

theorem view_setQueue (fw : Framework) (pluginLib : String) (tasks : Option (List Task)) :
    (fw.setQueue pluginLib tasks).view pluginLib = { fw.view pluginLib with queue := tasks } := by
  have hqueue : (fw.setQueue pluginLib tasks).queue pluginLib = tasks := by
    rw [queue_setQueue, if_pos rfl]
  simp only [view, hqueue]
  rfl

theorem view_setQueue_of_ne (fw : Framework) {pluginLib other : String} (hne : other ≠ pluginLib)
    (tasks : Option (List Task)) :
    (fw.setQueue other tasks).view pluginLib = fw.view pluginLib := by
  have hqueue : (fw.setQueue other tasks).queue pluginLib = fw.queue pluginLib := by
    rw [queue_setQueue, if_neg (Ne.symm hne)]
  simp only [view, hqueue]
  rfl

theorem queue_InitDispatchersAfterPluginLoad (fw : Framework) (pluginLib : String) :
    fw.InitDispatchersAfterPluginLoad.queue pluginLib =
      (fw.pluginLibMap_.lookup pluginLib).map fun _ => [] := by
  rw [queue, InitDispatchersAfterPluginLoad, AssocMap.lookup_map]
  cases fw.pluginLibMap_.lookup pluginLib <;> rfl

theorem queue_cancelAll (fw : Framework) (pluginLib other : String) :
    (fw.cancelAll other).queue pluginLib =
      if pluginLib = other then (fw.queue pluginLib).map fun _ => [] else fw.queue pluginLib := by
  rw [cancelAll]
  cases hqueue : fw.queue other with
  | none =>
      rw [queue_setQueue]
      split_ifs with hsame
      · rw [hsame, hqueue, Option.map_none]
      · rfl
  | some tasks =>
      rw [queue_setQueue]
      split_ifs with hsame
      · rw [hsame, hqueue, Option.map_some]
      · rfl

/-! ## A dispatch -/

theorem dispatchToQueue_eq (resData : ResData) (fw : Framework) (pluginLib : String) :
    dispatchToQueue resData fw pluginLib =
      if fw.dispatches pluginLib then
        fw.setQueue pluginLib ((fw.queue pluginLib).map (· ++ [.OnDispatchResource resData]))
      else fw := by
  unfold dispatchToQueue dispatches
  by_cases hdisabled : pluginLib ∈ fw.disablePlugins_
  · simp [hdisabled]
  · cases hlookup : fw.pluginLibMap_.lookup pluginLib with
    | none => simp
    | some libInfo =>
        cases hfunc : libInfo.onDispatchResourceFunc_ with
        | false => simp [hfunc]
        | true => cases hqueue : fw.queue pluginLib <;> simp [hdisabled, hfunc]

theorem nodup_DispatchResource (env : External) (mgr : PluginMgr) (resData : ResData) :
    (mgr.DispatchResource env resData).Nodup := by
  unfold PluginMgr.DispatchResource
  split_ifs
  · exact List.nodup_nil
  · exact List.nodup_dedup _

theorem view_DispatchResource (env : External) (fw : Framework) (resData : ResData)
    (pluginLib : String) :
    (fw.DispatchResource env resData).view pluginLib =
      { fw.view pluginLib with
        queue :=
          if fw.dispatches pluginLib then
            (fw.queue pluginLib).map (· ++ offered env pluginLib fw (.DispatchResource resData))
          else fw.queue pluginLib } := by
  let submits : View → View := fun seen =>
    { seen with
      queue :=
        if seen.dispatches then
          seen.queue.map
            (· ++ [.OnDispatchResource { resData with resType := dispatchedType env resData }])
        else seen.queue }
  have hpass := view_run_of_own
    (dispatchToQueue { resData with resType := dispatchedType env resData })
    (view pluginLib) pluginLib submits
    (fun s => by
      rw [dispatchToQueue_eq]
      cases hdispatches : s.dispatches pluginLib with
      | true =>
          rw [if_pos rfl, view_setQueue]
          simp [submits, view, hdispatches]
      | false => simp [submits, view, hdispatches])
    (fun s j hj => by
      rw [dispatchToQueue_eq]
      cases s.dispatches j with
      | true => exact view_setQueue_of_ne s hj _
      | false => rfl)
    _ (nodup_DispatchResource env fw.mgr resData) fw
  rw [DispatchResource]
  refine hpass.trans ?_
  by_cases hmem : pluginLib ∈ fw.mgr.DispatchResource env resData
  · rw [if_pos hmem, offered, if_pos hmem]
    rfl
  · rw [if_neg hmem, offered, if_neg hmem]
    simp [view]

/-! ## The end of the initialisation -/

theorem view_callOnInitFinish (callbacks : AssocMap String Nat) (fw : Framework)
    (pluginLib : String) :
    (callOnInitFinish callbacks fw pluginLib).view pluginLib =
      (fw.view pluginLib).submitCallbacks (callbacks.lookup pluginLib).toList := by
  unfold callOnInitFinish
  cases callbacks.lookup pluginLib with
  | none => simp [View.submitCallbacks, view]
  | some callback =>
      cases hqueue : fw.queue pluginLib with
      | none => simp_all [View.submitCallbacks, view, pooled, queue, started, dispatches]
      | some tasks =>
          dsimp only
          rw [view_setQueue]
          simp [View.submitCallbacks, view, hqueue]

theorem view_callOnInitFinish_of_ne (callbacks : AssocMap String Nat) (fw : Framework)
    {libName pluginLib : String} (hne : libName ≠ pluginLib) :
    (callOnInitFinish callbacks fw libName).view pluginLib = fw.view pluginLib := by
  unfold callOnInitFinish
  cases callbacks.lookup libName with
  | none => rfl
  | some callback =>
      cases hqueue : fw.queue libName with
      | some tasks => exact view_setQueue_of_ne fw hne _
      | none => simp [view, pooled, queue, started, dispatches, hne]

theorem view_CompletePluginInitialization (fw : Framework) (pluginLib : String) :
    fw.CompletePluginInitialization.view pluginLib =
      { (fw.view pluginLib).submitCallbacks (fw.initFinishCallbacks_.lookup pluginLib).toList with
        pending := none } := by
  have hpass := view_run_of_own (callOnInitFinish fw.initFinishCallbacks_)
    (fun s => s.view pluginLib) pluginLib
    (fun seen => seen.submitCallbacks (fw.initFinishCallbacks_.lookup pluginLib).toList)
    (fun s => view_callOnInitFinish fw.initFinishCallbacks_ s pluginLib)
    (fun s j hj => view_callOnInitFinish_of_ne fw.initFinishCallbacks_ s hj)
    _ (AssocMap.nodup_ascendingKeys fw.initFinishCallbacks_)
    { fw with mgr := { fw.mgr with isInit := true }, initFinishCallbacks_ := ∅ }
  rw [CompletePluginInitialization, CallOnInitFinishCallbacks]
  refine hpass.trans ?_
  by_cases hmem : pluginLib ∈ fw.initFinishCallbacks_.ascendingKeys
  · rw [if_pos hmem]
    rfl
  · have hnone : fw.initFinishCallbacks_.lookup pluginLib = none := by
      rw [AList.lookup_eq_none]
      exact fun hkey => hmem ((AssocMap.mem_ascendingKeys _ _).mpr (AList.mem_keys.mp hkey))
    rw [if_neg hmem, hnone]
    simp only [View.submitCallbacks, view, Option.toList_none, List.map_nil, List.append_nil,
      Option.map_id', ite_self]
    rfl

/-! ## One step -/

theorem view_runTask (fw : Framework) (pluginLib : String) :
    (fw.runTask pluginLib).view pluginLib =
      { fw.view pluginLib with
        started := fw.started pluginLib ++ (fw.waiting pluginLib).take 1
        queue := (fw.queue pluginLib).map (·.drop 1) } := by
  unfold runTask waiting
  cases hqueue : fw.queue pluginLib with
  | none => simp [view, hqueue]
  | some tasks =>
      cases tasks with
      | nil => simp [view, hqueue]
      | cons task tasks =>
          have hview := view_setQueue fw pluginLib (some tasks)
          simp only [view, View.mk.injEq] at hview ⊢
          obtain ⟨hstarted, hdispatches, hset, hpooled, hpending⟩ := hview
          refine ⟨?_, hdispatches, hset, hpooled, hpending⟩
          simp [started]

theorem view_runTask_of_ne (fw : Framework) {pluginLib other : String} (hne : other ≠ pluginLib) :
    (fw.runTask other).view pluginLib = fw.view pluginLib := by
  unfold runTask
  split
  · rename_i task tasks hqueue
    have hview := view_setQueue_of_ne fw hne (some tasks)
    simp only [view, View.mk.injEq] at hview ⊢
    obtain ⟨hstarted, hdispatches, hset, hpooled, hpending⟩ := hview
    refine ⟨?_, hdispatches, hset, hpooled, hpending⟩
    simp [started, hne]
  · rfl

theorem started_cancelAll (fw : Framework) (pluginLib other : String) :
    (fw.cancelAll other).started pluginLib = fw.started pluginLib := by
  unfold cancelAll
  cases fw.queue other <;> rfl

theorem queue_HandlePluginTimeout (fw : Framework) (pluginLib other : String) :
    (fw.HandlePluginTimeout other).started pluginLib = fw.started pluginLib ∧
      (fw.HandlePluginTimeout other).queue pluginLib = (fw.cancelAll other).queue pluginLib := by
  unfold HandlePluginTimeout
  split_ifs <;> exact ⟨started_cancelAll fw pluginLib other, rfl⟩

theorem queue_EnablePluginIfResume (fw : Framework) (pluginLib other : String) :
    (fw.EnablePluginIfResume other).started pluginLib = fw.started pluginLib ∧
      (fw.EnablePluginIfResume other).queue pluginLib = (fw.cancelAll other).queue pluginLib := by
  unfold EnablePluginIfResume
  split_ifs <;> exact ⟨started_cancelAll fw pluginLib other, rfl⟩

theorem submitted_eq_nil {env : External} {pluginLib : String} {fw : Framework} {event : Event}
    (h : offered env pluginLib fw event = []) : submitted env pluginLib fw event = [] := by
  rw [submitted, h, ite_self]

/-- A step that does not cancel appends what it submits. -/
theorem taken_step (env : External) (pluginLib : String) (fw : Framework) (event : Event)
    (hkept : ¬ event.cancels pluginLib) :
    (step env fw event).started pluginLib ++ (step env fw event).waiting pluginLib =
      fw.started pluginLib ++ fw.waiting pluginLib ++ submitted env pluginLib fw event := by
  cases event with
  | DispatchResource resData =>
      have hview := view_DispatchResource env fw resData pluginLib
      simp only [view, View.mk.injEq] at hview
      rw [step, hview.1, waiting, hview.2.2.1, waiting, submitted, accepts]
      cases fw.dispatches pluginLib <;> cases fw.queue pluginLib <;> simp
  | CompletePluginInitialization =>
      have hview := view_CompletePluginInitialization fw pluginLib
      simp only [view, View.submitCallbacks, View.mk.injEq] at hview
      rw [step, hview.1, waiting, hview.2.2.1, waiting]
      cases hqueue : fw.queue pluginLib <;> simp [submitted, accepts, offered, hqueue]
  | RunTask other =>
      have hnothing : submitted env pluginLib fw (.RunTask other) = [] := submitted_eq_nil rfl
      rw [step, hnothing, List.append_nil]
      by_cases hother : other = pluginLib
      · have hview := view_runTask fw pluginLib
        simp only [view, View.mk.injEq] at hview
        rw [hother, hview.1]
        unfold waiting
        rw [hview.2.2.1]
        cases fw.queue pluginLib with
        | none => simp
        | some tasks =>
            rw [Option.map_some, Option.getD_some, Option.getD_some, List.append_assoc,
              List.take_append_drop]
      · have hview := view_runTask_of_ne fw hother
        simp only [view, View.mk.injEq] at hview
        rw [hview.1]
        unfold waiting
        rw [hview.2.2.1]
  | HandlePluginTimeout other =>
      obtain ⟨hstarted, hqueue⟩ := queue_HandlePluginTimeout fw pluginLib other
      rw [step, hstarted, waiting, hqueue, queue_cancelAll, if_neg (Ne.symm hkept),
        submitted_eq_nil rfl, List.append_nil]
      rfl
  | EnablePluginIfResume other =>
      obtain ⟨hstarted, hqueue⟩ := queue_EnablePluginIfResume fw pluginLib other
      rw [step, hstarted, waiting, hqueue, queue_cancelAll, if_neg (Ne.symm hkept),
        submitted_eq_nil rfl, List.append_nil]
      rfl
  | InitDispatchersAfterPluginLoad => exact absurd trivial hkept
  | Stop => exact absurd trivial hkept
  | LoadPlugin pluginInfoList =>
      have hnothing : submitted env pluginLib fw (.LoadPlugin pluginInfoList) = [] :=
        submitted_eq_nil rfl
      rw [step, hnothing, List.append_nil]
      split_ifs <;> rfl
  | RegisterOnInitFinishCallback libName callback =>
      have hnothing :
          submitted env pluginLib fw (.RegisterOnInitFinishCallback libName callback) = [] :=
        submitted_eq_nil rfl
      rw [step, hnothing, List.append_nil]
      cases callback <;> rfl
  | Subscription call =>
      rw [submitted_eq_nil rfl, List.append_nil]
      rfl
  | Init =>
      rw [submitted_eq_nil rfl, List.append_nil]
      rfl
  | RecordRinningStat other isRunning =>
      rw [submitted_eq_nil rfl, List.append_nil]
      rfl

/-- A step that cancels leaves the queue empty, and submits nothing. -/
theorem step_of_cancels (env : External) (pluginLib : String) (fw : Framework) (event : Event)
    (hcancels : event.cancels pluginLib) :
    submitted env pluginLib fw event = [] ∧
      (step env fw event).started pluginLib = fw.started pluginLib ∧
      (step env fw event).waiting pluginLib = [] := by
  cases event with
  | InitDispatchersAfterPluginLoad =>
      refine ⟨submitted_eq_nil rfl, rfl, ?_⟩
      rw [step, waiting, queue_InitDispatchersAfterPluginLoad]
      cases fw.pluginLibMap_.lookup pluginLib <;> rfl
  | Stop => exact ⟨submitted_eq_nil rfl, rfl, rfl⟩
  | HandlePluginTimeout other =>
      obtain ⟨hstarted, hqueue⟩ := queue_HandlePluginTimeout fw pluginLib other
      refine ⟨submitted_eq_nil rfl, hstarted, ?_⟩
      rw [step, waiting, hqueue, queue_cancelAll, if_pos hcancels.symm]
      cases fw.queue pluginLib <;> rfl
  | EnablePluginIfResume other =>
      obtain ⟨hstarted, hqueue⟩ := queue_EnablePluginIfResume fw pluginLib other
      refine ⟨submitted_eq_nil rfl, hstarted, ?_⟩
      rw [step, waiting, hqueue, queue_cancelAll, if_pos hcancels.symm]
      cases fw.queue pluginLib <;> rfl
  | Subscription _ => exact absurd hcancels id
  | Init => exact absurd hcancels id
  | LoadPlugin _ => exact absurd hcancels id
  | CompletePluginInitialization => exact absurd hcancels id
  | RegisterOnInitFinishCallback _ _ => exact absurd hcancels id
  | DispatchResource _ => exact absurd hcancels id
  | RunTask _ => exact absurd hcancels id
  | RecordRinningStat _ _ => exact absurd hcancels id

/-- The queue of a plugin as a channel. -/
def taskChannel (env : External) (pluginLib : String) : Channel (step env) Task where
  accepted := submitted env pluginLib
  waiting fw := fw.waiting pluginLib
  handled fw := fw.started pluginLib
  discards := Discards pluginLib
  keeps := by
    intro fw event hkept
    by_cases hcancels : event.cancels pluginLib
    · have hempty : fw.waiting pluginLib = [] := by
        by_contra hne
        exact hkept ⟨hne, hcancels⟩
      obtain ⟨hnothing, hstarted, hwaiting⟩ := step_of_cancels env pluginLib fw event hcancels
      rw [hnothing, hstarted, hwaiting, hempty, List.append_nil, List.append_nil]
    · exact taken_step env pluginLib fw event hcancels
  drops := by
    intro fw event hdiscards
    obtain ⟨hnothing, hstarted, hwaiting⟩ := step_of_cancels env pluginLib fw event hdiscards.2
    exact ⟨hdiscards.1, hnothing, hstarted, hwaiting⟩

/-! ## Runs -/

/-- A plugin starts no task twice, and its tasks in the order in which they were submitted. One is
lost exactly when a step cancels it while it waits. -/
theorem started_once_in_order (env : External) (pluginLib : String) (fw : Framework)
    (events : List Event) :
    ((run (step env) fw events).started pluginLib ++
        (run (step env) fw events).waiting pluginLib).Sublist
      (fw.started pluginLib ++ fw.waiting pluginLib ++
        outputs (step env) (submitted env pluginLib) fw events) ∧
    ((run (step env) fw events).started pluginLib ++
        (run (step env) fw events).waiting pluginLib =
      fw.started pluginLib ++ fw.waiting pluginLib ++
        outputs (step env) (submitted env pluginLib) fw events ↔
      EachStep (step env) (fun fw event => ¬ Discards pluginLib fw event) fw events) :=
  ⟨(taskChannel env pluginLib).taken_sublist fw events,
    (taskChannel env pluginLib).taken_eq_iff fw events⟩

/-- The plugin is loaded, takes events, is not disabled and has a queue. -/
def Serves (pluginLib : String) (fw : Framework) : Prop :=
  fw.dispatches pluginLib = true ∧ (fw.queue pluginLib).isSome = true

theorem lookup_LoadPlugin (pluginInfoList : List PluginInfo) (libMap : AssocMap String PluginLib)
    {pluginLib : String} {libInfo : PluginLib} (h : libMap.lookup pluginLib = some libInfo) :
    (Plugin.LoadPlugin libMap pluginInfoList).lookup pluginLib = some libInfo := by
  unfold Plugin.LoadPlugin
  induction pluginInfoList generalizing libMap with
  | nil => exact h
  | cons info rest ih =>
      rw [List.foldl_cons]
      apply ih
      split_ifs with hoff hloaded
      · exact h
      · exact h
      · cases LoadOnePlugin info.object with
        | none => exact h
        | some loaded =>
            dsimp only
            rw [AssocMap.lookup_insert_ite]
            have hne : pluginLib ≠ info.libPath := by
              intro hsame
              rw [← hsame, h] at hloaded
              exact hloaded rfl
            rw [if_neg hne, h]

theorem dispatches_LoadPlugin (fw : Framework) (pluginLib : String)
    (pluginInfoList : List PluginInfo) (h : fw.dispatches pluginLib = true) :
    dispatches { fw with pluginLibMap_ := Plugin.LoadPlugin fw.pluginLibMap_ pluginInfoList }
      pluginLib = true := by
  rw [dispatches, Bool.and_eq_true] at h ⊢
  refine ⟨h.1, ?_⟩
  cases hlookup : fw.pluginLibMap_.lookup pluginLib with
  | none =>
      rw [hlookup] at h
      exact absurd h.2 (by simp)
  | some libInfo =>
      rw [hlookup] at h
      rw [lookup_LoadPlugin pluginInfoList fw.pluginLibMap_ hlookup]
      exact h.2

theorem dispatches_congr {fw fw' : Framework} {pluginLib : String}
    (hmap : fw'.pluginLibMap_ = fw.pluginLibMap_)
    (hdisabled : pluginLib ∈ fw'.disablePlugins_ ↔ pluginLib ∈ fw.disablePlugins_) :
    fw'.dispatches pluginLib = fw.dispatches pluginLib := by
  rw [dispatches, dispatches, hmap]
  simp only [hdisabled]

theorem dispatches_HandlePluginTimeout (fw : Framework) {pluginLib other : String}
    (hne : pluginLib ≠ other) :
    (fw.HandlePluginTimeout other).dispatches pluginLib = fw.dispatches pluginLib := by
  unfold HandlePluginTimeout cancelAll
  apply dispatches_congr
  · split_ifs <;> cases fw.queue other <;> rfl
  · split_ifs <;> cases fw.queue other <;> simp [setQueue, hne]

theorem dispatches_EnablePluginIfResume (fw : Framework) {pluginLib other : String}
    (hne : pluginLib ≠ other) :
    (fw.EnablePluginIfResume other).dispatches pluginLib = fw.dispatches pluginLib := by
  unfold EnablePluginIfResume cancelAll
  apply dispatches_congr
  · split_ifs <;> cases fw.queue other <;> rfl
  · split_ifs <;> cases fw.queue other <;> simp [setQueue, hne]

/-- A plugin stays served until a step cancels its tasks. -/
theorem Serves.step {env : External} {pluginLib : String} {fw : Framework}
    (h : Serves pluginLib fw) (event : Event) (hkept : ¬ event.cancels pluginLib) :
    Serves pluginLib (fw.step env event) := by
  obtain ⟨hdispatches, hqueue⟩ := h
  cases event with
  | DispatchResource resData =>
      have hview := view_DispatchResource env fw resData pluginLib
      simp only [view, View.mk.injEq] at hview
      refine ⟨hview.2.1.trans hdispatches, ?_⟩
      rw [Framework.step, hview.2.2.1, if_pos hdispatches, Option.isSome_map, hqueue]
  | CompletePluginInitialization =>
      have hview := view_CompletePluginInitialization fw pluginLib
      simp only [view, View.submitCallbacks, View.mk.injEq] at hview
      refine ⟨hview.2.1.trans hdispatches, ?_⟩
      rw [Framework.step, hview.2.2.1, Option.isSome_map, hqueue]
  | RunTask other =>
      by_cases hother : other = pluginLib
      · have hview := view_runTask fw pluginLib
        simp only [view, View.mk.injEq] at hview
        rw [hother]
        refine ⟨hview.2.1.trans hdispatches, ?_⟩
        rw [Framework.step, hview.2.2.1, Option.isSome_map, hqueue]
      · have hview := view_runTask_of_ne fw hother
        simp only [view, View.mk.injEq] at hview
        refine ⟨hview.2.1.trans hdispatches, ?_⟩
        rw [Framework.step, hview.2.2.1, hqueue]
  | HandlePluginTimeout other =>
      have hne : pluginLib ≠ other := Ne.symm hkept
      refine ⟨(dispatches_HandlePluginTimeout fw hne).trans hdispatches, ?_⟩
      rw [Framework.step, (queue_HandlePluginTimeout fw pluginLib other).2, queue_cancelAll,
        if_neg hne, hqueue]
  | EnablePluginIfResume other =>
      have hne : pluginLib ≠ other := Ne.symm hkept
      refine ⟨(dispatches_EnablePluginIfResume fw hne).trans hdispatches, ?_⟩
      rw [Framework.step, (queue_EnablePluginIfResume fw pluginLib other).2, queue_cancelAll,
        if_neg hne, hqueue]
  | InitDispatchersAfterPluginLoad => exact absurd trivial hkept
  | Stop => exact absurd trivial hkept
  | LoadPlugin pluginInfoList =>
      rw [Framework.step]
      split_ifs
      · exact ⟨hdispatches, hqueue⟩
      · exact ⟨dispatches_LoadPlugin fw pluginLib pluginInfoList hdispatches, hqueue⟩
  | RegisterOnInitFinishCallback libName callback =>
      cases callback <;> exact ⟨hdispatches, hqueue⟩
  | Subscription call => exact ⟨hdispatches, hqueue⟩
  | Init => exact ⟨hdispatches, hqueue⟩
  | RecordRinningStat other isRunning => exact ⟨hdispatches, hqueue⟩

/-- While none of its tasks is cancelled, a served plugin starts every event it subscribes to, and
every callback it has registered when an initialisation ends, once and in order. -/
theorem served_started_once_in_order (env : External) (pluginLib : String) (fw : Framework)
    (events : List Event) (hserves : Serves pluginLib fw)
    (hkept : ∀ event ∈ events, ¬ event.cancels pluginLib) :
    (run (step env) fw events).started pluginLib ++ (run (step env) fw events).waiting pluginLib =
      fw.started pluginLib ++ fw.waiting pluginLib ++
        outputs (step env) (offered env pluginLib) fw events := by
  have hsame : outputs (step env) (submitted env pluginLib) fw events =
      outputs (step env) (offered env pluginLib) fw events := by
    apply outputs_congr (I := Serves pluginLib)
    · intro s event hmem hs
      refine ⟨?_, hs.step event (hkept event hmem)⟩
      rw [submitted, if_pos]
      cases event <;> simp [accepts, hs.1, hs.2]
    · exact hserves
  rw [← hsame]
  apply (started_once_in_order env pluginLib fw events).2.mpr
  intro front event hfront hdiscards
  exact hkept event (hfront.subset (by simp)) hdiscards.2

/-- The framework once a plugin is loaded that subscribes to one type. -/
def booted : Framework :=
  run (step ⟨false, fun _ => none⟩) (constructed true)
    [.Subscription (.SubscribeResource "libframe_aware.z.so" 72), .Init,
      .LoadPlugin [⟨"libframe_aware.z.so", true, ⟨true, some true, true, true⟩⟩],
      .InitDispatchersAfterPluginLoad, .CompletePluginInitialization]

def frameEvent : ResData :=
  ⟨72, 1, .null⟩

theorem served_started_once_in_order_booted :
    (run (step ⟨false, fun _ => none⟩) booted
        [.DispatchResource frameEvent, .RunTask "libframe_aware.z.so"]).started
          "libframe_aware.z.so" ++
      (run (step ⟨false, fun _ => none⟩) booted
        [.DispatchResource frameEvent, .RunTask "libframe_aware.z.so"]).waiting
          "libframe_aware.z.so" =
      booted.started "libframe_aware.z.so" ++ booted.waiting "libframe_aware.z.so" ++
        outputs (step ⟨false, fun _ => none⟩)
          (offered ⟨false, fun _ => none⟩ "libframe_aware.z.so") booted
          [.DispatchResource frameEvent, .RunTask "libframe_aware.z.so"] :=
  served_started_once_in_order _ _ booted _
    ⟨by decide +kernel, by decide +kernel⟩
    (by simp [Event.cancels])

/-! ## Callbacks for the end of the initialisation -/

/-- The callback that waits for the next end of an initialisation. -/
def pending (pluginLib : String) (fw : Framework) : Multiset Nat :=
  (fw.initFinishCallbacks_.lookup pluginLib).toList

def registered (pluginLib : String) (_ : Framework) : Event → Multiset Nat
  | .RegisterOnInitFinishCallback libName callback =>
      if libName = pluginLib then callback.toList else 0
  | _ => 0

/-- A pending callback is called when an initialisation ends. -/
def called (pluginLib : String) (fw : Framework) : Event → Multiset Nat
  | .CompletePluginInitialization => fw.pending pluginLib
  | _ => 0

/-- A pending callback is replaced by the next one registered. -/
def replaced (pluginLib : String) (fw : Framework) : Event → Multiset Nat
  | .RegisterOnInitFinishCallback libName (some _) =>
      if libName = pluginLib then fw.pending pluginLib else 0
  | _ => 0

/-- The callback an event leaves pending, when it changes it. -/
def leaves (pluginLib : String) : Event → Option (Option Nat)
  | .RegisterOnInitFinishCallback libName (some callback) =>
      if libName = pluginLib then some (some callback) else none
  | .CompletePluginInitialization => some none
  | _ => none

end ResSched.Plugin.Framework
