import ResSched.Library.CallTrace
import ResSched.Model.FrameAware.FrameAwarePlugin
import Mathlib.Algebra.Group.Int.Defs

/-! # Which ids the frame-aware plugin reads right

A conversion depends on its text and on whether an earlier text of the thread has overflowed.
-/

namespace ResSched.FrameAware

open CLibrary CallTrace

/-! ## The specification -/

/-- The text denotes an id. -/
def IsId (text : String) (number : Int) : Prop :=
  IsDecimal text.toList number ∧ 0 ≤ number ∧ number ≤ INT_MAX

/-- The id a text denotes, and -1 for a text that denotes none. -/
structure ExactId (text : String) (result : Int) : Prop where
  id : ∀ number, IsId text number → result = number
  noId : (∀ number, ¬ IsId text number) → result = -1

/-- A number of 64 bits stands up to the first null character of the text, which denotes no id,
while the low half of the number is one. -/
def Wraps (text : String) : Prop :=
  (∀ id, ¬ IsId text id) ∧ ∃ number, IsDecimal (cString text).toList number ∧
    -2 ^ 63 ≤ number ∧ number < 2 ^ 63 ∧ 0 ≤ toSigned 32 number

/-- The text begins with a number of more than 64 bits. -/
def Overflows (text : String) : Prop :=
  ∃ number rest, readDecimal (cString text).toList = some (number, rest) ∧
    (number < -2 ^ 63 ∨ 2 ^ 63 ≤ number)

/-! ## One conversion -/

theorem overflows_iff (text : String) :
    (strtol 64 (cString text).toList).erange = true ↔ Overflows text := by
  have hlong : Nat.pow 2 (64 - 1) = 2 ^ 63 := rfl
  rw [strtol_erange_iff, Overflows, hlong]
  constructor
  · rintro ⟨number, rest, hread, hout⟩
    exact ⟨number, rest, hread, by omega⟩
  · rintro ⟨number, rest, hread, hout⟩
    exact ⟨number, rest, hread, by omega⟩

theorem toInteger_fst (erange : Bool) (text : String) :
    (toInteger erange text).1 = (erange || (strtol 64 (cString text).toList).erange) := by
  simp only [toInteger]
  split_ifs
  · rfl
  · rfl

/-- Behind an overflow everything is refused. -/
theorem toInteger_of_erange (text : String) : (toInteger true text).2 = -1 := by
  rw [toInteger]
  simp

theorem toInteger_of_notDecimal (erange : Bool) {text : String}
    (h : ∀ number, ¬ IsDecimal (cString text).toList number) :
    (toInteger erange text).2 = -1 := by
  simp only [toInteger]
  split_ifs with hrefused
  · rfl
  · simp only [not_or, Bool.not_eq_true, Bool.not_eq_false, not_not,
      Bool.not_eq_eq_eq_not, Bool.not_true] at hrefused
    obtain ⟨-, -, -, hconverted, hrest⟩ := hrefused
    obtain ⟨number, hdecimal⟩ := isDecimal_of_strtol hconverted hrest
    exact absurd hdecimal (h number)

theorem toInteger_of_decimal {text : String} {number : Int}
    (h : IsDecimal (cString text).toList number) (hlow : -2 ^ 63 ≤ number)
    (hhigh : number < 2 ^ 63) :
    (toInteger false text).2 = if toSigned 32 number < 0 then -1 else toSigned 32 number := by
  have hlong : Nat.pow 2 (64 - 1) = 2 ^ 63 := rfl
  have hread : strtol 64 (cString text).toList = ⟨number, true, false, []⟩ := by
    rw [strtol_eq_iff, hlong]
    exact ⟨h, by omega, by omega⟩
  have hmax : ¬ toSigned 32 number > INT_MAX := by
    have hmem := (toSigned_mem number).2
    rw [INT_MAX]
    omega
  rw [toInteger, hread]
  by_cases hnegative : toSigned 32 number < 0
  · simp [hnegative]
  · simp [hnegative, hmax]

theorem toInteger_of_overflow {text : String} (h : Overflows text) (erange : Bool) :
    (toInteger erange text).2 = -1 := by
  rw [toInteger, (overflows_iff text).mpr h]
  simp

/-- A conversion is exact unless its text wraps, and behind an overflow unless it denotes an id. -/
theorem toInteger_exact_iff (erange : Bool) (text : String) :
    ExactId text (toInteger erange text).2 ↔
      if erange then ∀ number, ¬ IsId text number else ¬ Wraps text := by
  cases erange with
  | true =>
      rw [toInteger_of_erange, if_pos rfl]
      constructor
      · intro h number hid
        have hnegative := h.id number hid
        have hnonneg := hid.2.1
        omega
      · intro h
        exact ⟨fun number hid => absurd hid (h number), fun _ => rfl⟩
  | false =>
      rw [if_neg Bool.false_ne_true]
      constructor
      · rintro h ⟨hnone, number, hdecimal, hlow, hhigh, hwrapped⟩
        have hresult := h.noId hnone
        rw [toInteger_of_decimal hdecimal hlow hhigh, if_neg (Int.not_lt.mpr hwrapped)] at hresult
        omega
      · intro h
        refine ⟨?_, ?_⟩
        · rintro number ⟨hdecimal, hnonneg, hle⟩
          rw [INT_MAX] at hle
          have hfits := (toSigned_eq_iff number).mpr ⟨by omega, by omega⟩
          rw [toInteger_of_decimal ((isDecimal_iff_cString ..).mp hdecimal).2 (by omega) (by omega),
            hfits, if_neg (Int.not_lt.mpr hnonneg)]
        · intro hnone
          by_cases hdecimal : ∃ number, IsDecimal (cString text).toList number
          · obtain ⟨number, hdecimal⟩ := hdecimal
            by_cases hrange : -2 ^ 63 ≤ number ∧ number < 2 ^ 63
            · rw [toInteger_of_decimal hdecimal hrange.1 hrange.2, if_pos]
              by_contra hwrapped
              exact h ⟨hnone, number, hdecimal, hrange.1, hrange.2, Int.not_lt.mp hwrapped⟩
            · refine toInteger_of_overflow ⟨number, [], ?_, by omega⟩ false
              exact (readDecimal_eq_some_iff ..).mpr hdecimal
          · exact toInteger_of_notDecimal false fun number h => hdecimal ⟨number, h⟩

/-! ## The conversions of one event -/

/-- Between two states of the plugin the texts have been converted, in order. -/
structure Calls (plugin plugin' : FrameAwarePlugin) (texts : List String) : Prop where
  initialized : plugin'.initialized = plugin.initialized
  erange : plugin'.erange = (callAll toInteger plugin.erange texts).1
  converted : plugin'.converted = plugin.converted ++ (callAll toInteger plugin.erange texts).2

theorem Calls.none (plugin : FrameAwarePlugin) : Calls plugin plugin [] :=
  ⟨rfl, rfl, (List.append_nil _).symm⟩

theorem Calls.append {plugin plugin' plugin'' : FrameAwarePlugin} {texts texts' : List String}
    (first : Calls plugin plugin' texts) (second : Calls plugin' plugin'' texts') :
    Calls plugin plugin'' (texts ++ texts') := by
  refine ⟨second.initialized.trans first.initialized, ?_, ?_⟩
  · rw [second.erange, first.erange, callAll_append]
  · rw [second.converted, first.converted, first.erange, callAll_append, List.append_assoc]

theorem Calls.report {plugin plugin' : FrameAwarePlugin} {texts : List String}
    (h : Calls plugin plugin' texts) (report : Report) :
    Calls plugin (plugin'.report report) texts :=
  ⟨h.initialized, h.erange, h.converted⟩

theorem ConvertToInteger_calls (plugin : FrameAwarePlugin) (data : ResData) (idtype : String) :
    Calls plugin (ConvertToInteger plugin data idtype).1 [data.text idtype] := by
  refine ⟨?_, ?_, ?_⟩
  · simp only [ConvertToInteger]
  · simp only [ConvertToInteger, callAll]
  · simp only [ConvertToInteger, callAll]

theorem ConvertToInteger_twice (plugin : FrameAwarePlugin) (data : ResData)
    (first second : String) :
    Calls plugin (ConvertToInteger (ConvertToInteger plugin data first).1 data second).1
      [data.text first, data.text second] :=
  (ConvertToInteger_calls plugin data first).append (ConvertToInteger_calls _ data second)

/-- The texts of the ids of an event that has all the strings its handler requires. -/
def ResData.ids (data : ResData) (required ids : List String) : List String :=
  if data.hasStrings required then ids.map data.text else []

/-- The display of a focus event where it has one. -/
def ResData.displayIds (data : ResData) : List String :=
  if data.hasStrings ["pid", "uid"] then data.ids ["displayId"] ["displayId"] else []

theorem HandleAppStateChange_calls (plugin : FrameAwarePlugin) (data : ResData) :
    Calls plugin (HandleAppStateChange plugin data)
      (data.ids ["pid", "uid", "bundleName"] ["pid", "uid"]) := by
  have hcalls := ConvertToInteger_twice plugin data "pid" "uid"
  simp only [HandleAppStateChange, ResData.ids]
  split_ifs
  · exact hcalls.report _
  · exact Calls.none plugin

theorem HandleProcessStateChange_calls (plugin : FrameAwarePlugin) (data : ResData) :
    Calls plugin (HandleProcessStateChange plugin data)
      (data.ids ["pid", "uid", "bundleName", "hostPid"] ["pid", "uid", "hostPid"]) := by
  have hcalls := (ConvertToInteger_twice plugin data "pid" "uid").append
    (ConvertToInteger_calls _ data "hostPid")
  simp only [HandleProcessStateChange, ResData.ids]
  split_ifs
  · exact hcalls.report _
  · exact Calls.none plugin

theorem HandleContinuousTask_calls (plugin : FrameAwarePlugin) (data : ResData) :
    Calls plugin (HandleContinuousTask plugin data)
      (data.ids ["pid", "uid"] ["pid", "uid"]) := by
  have hcalls := ConvertToInteger_twice plugin data "pid" "uid"
  simp only [HandleContinuousTask, ResData.ids]
  split_ifs
  · exact hcalls.report _
  · exact Calls.none plugin

theorem HandleCgroupAdjuster_calls (plugin : FrameAwarePlugin) (data : ResData) :
    Calls plugin (HandleCgroupAdjuster plugin data)
      (data.ids ["pid", "uid", "oldGroup", "newGroup"]
        ["pid", "uid", "oldGroup", "newGroup"]) := by
  have hcalls := (ConvertToInteger_twice plugin data "pid" "uid").append
    (ConvertToInteger_twice _ data "oldGroup" "newGroup")
  simp only [HandleCgroupAdjuster, ResData.ids]
  split_ifs
  · exact hcalls.report _
  · exact hcalls
  · exact Calls.none plugin

theorem HandleWindowsFocus_calls (plugin : FrameAwarePlugin) (data : ResData) :
    Calls plugin (HandleWindowsFocus plugin data)
      (data.displayIds ++ data.ids ["pid", "uid"] ["pid", "uid"]) := by
  have hcalls := ConvertToInteger_twice plugin data "pid" "uid"
  have hdisplay := (ConvertToInteger_calls plugin data "displayId").append
    (ConvertToInteger_twice _ data "pid" "uid")
  simp only [HandleWindowsFocus, ResData.displayIds, ResData.ids]
  split_ifs
  · exact hdisplay.report _
  · exact hcalls.report _
  · exact Calls.none plugin

theorem HandleReportRender_calls (plugin : FrameAwarePlugin) (data : ResData) :
    Calls plugin (HandleReportRender plugin data)
      (data.ids ["pid", "uid"] ["pid", "uid"]) := by
  have hcalls := ConvertToInteger_twice plugin data "pid" "uid"
  simp only [HandleReportRender, ResData.ids]
  split_ifs
  · exact hcalls.report _
  · exact Calls.none plugin

theorem HandleEventSlide_calls (plugin : FrameAwarePlugin) (data : ResData) :
    Calls plugin (HandleEventSlide plugin data)
      (data.ids ["clientPid", "callingUid"] ["clientPid", "callingUid"]) := by
  have hcalls := ConvertToInteger_twice plugin data "clientPid" "callingUid"
  simp only [HandleEventSlide, ResData.ids]
  split_ifs
  · exact hcalls.report _
  · exact Calls.none plugin

theorem HandleNetworkLatencyRequest_calls (plugin : FrameAwarePlugin) (data : ResData) :
    Calls plugin (HandleNetworkLatencyRequest plugin data) [] := by
  rw [HandleNetworkLatencyRequest]
  split_ifs
  · exact ⟨rfl, rfl, (List.append_nil _).symm⟩
  · exact Calls.none plugin

/-! ## The conversions of a run -/

/-- The texts an event has converted, in order. -/
def idTexts (schedEnable : Bool) (data : ResData) : List String :=
  if schedEnable = false then []
  else if data.resType = RES_TYPE_APP_STATE_CHANGE then
    data.ids ["pid", "uid", "bundleName"] ["pid", "uid"]
  else if data.resType = RES_TYPE_PROCESS_STATE_CHANGE then
    data.ids ["pid", "uid", "bundleName", "hostPid"] ["pid", "uid", "hostPid"]
  else if data.resType = RES_TYPE_CGROUP_ADJUSTER then
    data.ids ["pid", "uid", "oldGroup", "newGroup"] ["pid", "uid", "oldGroup", "newGroup"]
  else if data.resType = RES_TYPE_WINDOW_FOCUS then
    data.displayIds ++ data.ids ["pid", "uid"] ["pid", "uid"]
  else if data.resType = RES_TYPE_CONTINUOUS_TASK ∨
      data.resType = RES_TYPE_REPORT_RENDER_THREAD then
    data.ids ["pid", "uid"] ["pid", "uid"]
  else if data.resType = RES_TYPE_SLIDE_RECOGNIZE then
    data.ids ["clientPid", "callingUid"] ["clientPid", "callingUid"]
  else []

/-- The texts a run has converted, in order. -/
def runTexts (schedEnable : Bool) : Bool → List Action → List String
  | _, [] => []
  | _, .Init :: actions => runTexts schedEnable true actions
  | _, .Disable :: actions => runTexts schedEnable false actions
  | initialized, .DispatchResource data :: actions =>
      (if initialized then idTexts schedEnable data else []) ++
        runTexts schedEnable initialized actions

/-- A function of the map converts the ids of its type of event. -/
theorem functionMap_calls {schedEnable : Bool}
    {entry : Nat × (FrameAwarePlugin → ResData → FrameAwarePlugin)}
    (hentry : entry ∈ functionMap schedEnable) (plugin : FrameAwarePlugin) {data : ResData}
    (htype : entry.1 = data.resType) :
    Calls plugin (entry.2 plugin data) (idTexts schedEnable data) := by
  cases schedEnable with
  | false =>
      obtain rfl := List.mem_singleton.mp hentry
      exact HandleNetworkLatencyRequest_calls plugin data
  | true =>
      simp only [functionMap, if_true, List.cons_append, List.nil_append, List.mem_cons,
        List.not_mem_nil, or_false] at hentry
      rcases hentry with rfl | rfl | rfl | rfl | rfl | rfl | rfl | rfl | rfl | rfl | rfl
      · rw [idTexts, ← htype]
        exact HandleAppStateChange_calls plugin data
      · rw [idTexts, ← htype]
        exact HandleProcessStateChange_calls plugin data
      · rw [idTexts, ← htype]
        exact HandleContinuousTask_calls plugin data
      · rw [idTexts, ← htype]
        exact HandleCgroupAdjuster_calls plugin data
      · rw [idTexts, ← htype]
        exact HandleWindowsFocus_calls plugin data
      · rw [idTexts, ← htype]
        exact HandleReportRender_calls plugin data
      · rw [idTexts, ← htype]
        exact HandleEventSlide_calls plugin data
      · rw [idTexts, ← htype]
        exact Calls.none plugin
      · rw [idTexts, ← htype]
        exact Calls.none plugin
      · rw [idTexts, ← htype]
        exact (Calls.none plugin).report _
      · rw [idTexts, ← htype]
        exact HandleNetworkLatencyRequest_calls plugin data

theorem idTexts_of_notMem {schedEnable : Bool} {data : ResData}
    (h : ∀ entry ∈ functionMap schedEnable, entry.1 ≠ data.resType) :
    idTexts schedEnable data = [] := by
  cases schedEnable with
  | false => rfl
  | true =>
      simp only [functionMap, if_true, List.cons_append, List.nil_append, List.forall_mem_cons] at h
      obtain ⟨happ, hprocess, htask, hgroup, hfocus, hrender, hslide, -⟩ := h
      rw [idTexts, if_neg (by decide), if_neg happ.symm, if_neg hprocess.symm,
        if_neg hgroup.symm, if_neg hfocus.symm, if_neg, if_neg hslide.symm]
      rintro (h | h)
      · exact htask h.symm
      · exact hrender h.symm

theorem DispatchResource_calls (schedEnable : Bool) (plugin : FrameAwarePlugin) (data : ResData) :
    Calls plugin (DispatchResource schedEnable plugin data)
      (if plugin.initialized then idTexts schedEnable data else []) := by
  rw [DispatchResource]
  cases plugin.initialized with
  | false => exact Calls.none plugin
  | true =>
      simp only [if_true]
      cases hfound : (functionMap schedEnable).find? fun entry => entry.1 = data.resType with
      | none =>
          rw [idTexts_of_notMem fun entry hentry => by
            simpa using List.find?_eq_none.mp hfound entry hentry]
          exact Calls.none plugin
      | some entry =>
          have htype : entry.1 = data.resType := by simpa using List.find?_some hfound
          exact functionMap_calls (List.mem_of_find?_eq_some hfound) plugin htype

/-- The conversions of a run are those of its texts, whatever else the events do. -/
theorem run_calls (schedEnable : Bool) (actions : List Action) (plugin : FrameAwarePlugin) :
    let texts := runTexts schedEnable plugin.initialized actions
    let plugin' := actions.foldl (step schedEnable) plugin
    plugin'.erange = (callAll toInteger plugin.erange texts).1 ∧
      plugin'.converted = plugin.converted ++ (callAll toInteger plugin.erange texts).2 := by
  induction actions generalizing plugin with
  | nil => exact ⟨rfl, (List.append_nil _).symm⟩
  | cons action actions ih =>
      cases action with
      | Init => exact ih { plugin with initialized := true }
      | Disable => exact ih { plugin with initialized := false }
      | DispatchResource data =>
          have hcalls := DispatchResource_calls schedEnable plugin data
          have hrest := ih (DispatchResource schedEnable plugin data)
          simp only [hcalls.initialized, hcalls.erange, hcalls.converted] at hrest
          simp only [runTexts, callAll_append, ← List.append_assoc]
          exact hrest

/-! ## The result -/

/-- All conversions of a run are exact when no text wraps before the first overflow and none denotes
an id behind it. -/
theorem conversions_exact_iff (schedEnable : Bool) (actions : List Action) :
    (∀ call ∈ (run schedEnable actions).converted, ExactId call.1 call.2) ↔
      ∀ before text after, runTexts schedEnable false actions = before ++ text :: after →
        ((¬ ∃ earlier ∈ before, Overflows earlier) → ¬ Wraps text) ∧
          ((∃ earlier ∈ before, Overflows earlier) → ∀ number, ¬ IsId text number) := by
  have hconverted := (run_calls schedEnable actions FrameAwarePlugin.start).2
  rw [run, hconverted]
  simp only [FrameAwarePlugin.start, List.nil_append]
  rw [forall_callAll_iff toInteger false (runTexts schedEnable false actions) ExactId]
  refine forall_congr' fun before => forall_congr' fun text => forall_congr' fun after =>
    imp_congr_right fun _ => ?_
  have herange : (callAll toInteger false before).1 = true ↔
      ∃ earlier ∈ before, Overflows earlier := by
    rw [sticky toInteger_fst, Bool.false_or, List.any_eq_true]
    simp only [overflows_iff]
  rw [toInteger_exact_iff, ← herange]
  cases (callAll toInteger false before).1 with
  | false => simp
  | true => simp

/-- Two task events: an id beyond 32 bits and one beyond 64 bits, then two proper ones. -/
def overflowingTasks : List Action :=
  [.Init,
    .DispatchResource ⟨RES_TYPE_CONTINUOUS_TASK, 0, .object
      [("pid", .string "4294967297"), ("uid", .string "99999999999999999999")]⟩,
    .DispatchResource ⟨RES_TYPE_CONTINUOUS_TASK, 0, .object
      [("pid", .string "12"), ("uid", .string "10001")]⟩]

/-- The first event is reported for process 1, and the ids of the second one are refused. -/
theorem overflowingTasks_misread :
    (run true overflowingTasks).reports = [.ContinuousTask 1 (-1) 0, .ContinuousTask (-1) (-1) 0] ∧
      ¬ ∀ call ∈ (run true overflowingTasks).converted, ExactId call.1 call.2 := by
  have hid : IsId "12" 12 := ⟨(readDecimal_eq_some_iff ..).mp (by decide), by decide, by decide⟩
  refine ⟨by decide +kernel, ?_⟩
  intro hexact
  have hresult := (hexact ("12", -1) (by decide +kernel)).id 12 hid
  exact absurd hresult (by decide)

end ResSched.FrameAware
