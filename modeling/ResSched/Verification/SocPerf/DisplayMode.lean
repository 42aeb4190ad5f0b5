import ResSched.Library.SwitchGroup
import ResSched.Library.Transition
import ResSched.Model.SocPerf.Screen

/-! # Display-mode boosts match the selected mode -/

namespace ResSched.SocPerf.Screen

open Transition SwitchGroup

/-! ## The specification -/

/-- The four requests of the display mode. -/
def displayRequests : List Nat :=
  [PERF_REQUEST_CMD_ID_DISPLAY_MODE_FULL, PERF_REQUEST_CMD_ID_DISPLAY_MODE_MAIN,
    PERF_REQUEST_CMD_ID_DISPLAY_GLOBAL_L, PERF_REQUEST_CMD_ID_DISPLAY_GLOBAL_P]

/-- The request a display mode selects under an orientation. -/
def selectedRequest (mode orientation : String) : Option Nat :=
  if mode = DISPLAY_MODE_FULL then some PERF_REQUEST_CMD_ID_DISPLAY_MODE_FULL
  else if mode = DISPLAY_MODE_MAIN then some PERF_REQUEST_CMD_ID_DISPLAY_MODE_MAIN
  else if mode = DISPLAY_MODE_GLOBAL_FULL ∧ orientation = DISPLAY_ORIENTAYION_LANDSCAPE then
    some PERF_REQUEST_CMD_ID_DISPLAY_GLOBAL_L
  else if mode = DISPLAY_MODE_GLOBAL_FULL ∧ orientation = DISPLAY_ORIENTAYION_PORTRAIT then
    some PERF_REQUEST_CMD_ID_DISPLAY_GLOBAL_P
  else none

theorem selectedRequest_mem (mode orientation : String) (cmdId : Nat)
    (h : selectedRequest mode orientation = some cmdId) : cmdId ∈ displayRequests := by
  rw [selectedRequest] at h
  split_ifs at h <;> cases h <;> decide

/-- A mode that selects the same request as the global display mode is that mode. -/
theorem globalFull_of_selectedRequest {mode orientation : String} {cmdId : Nat}
    (h : selectedRequest mode orientation = some cmdId)
    (hglobal : selectedRequest DISPLAY_MODE_GLOBAL_FULL orientation = some cmdId) :
    mode = DISPLAY_MODE_GLOBAL_FULL := by
  have hfull : DISPLAY_MODE_GLOBAL_FULL ≠ DISPLAY_MODE_FULL := by decide
  have hmain : DISPLAY_MODE_GLOBAL_FULL ≠ DISPLAY_MODE_MAIN := by decide
  simp only [selectedRequest, hfull, hmain, if_false, true_and] at h hglobal
  by_contra hmode
  simp only [hmode, false_and, if_false] at h
  split_ifs at h hglobal <;> cases h <;> cases hglobal

/-! ## The handlers and the display requests -/

private theorem displaySwitched_keeps (mode : String) :
    Keeps displayRequests (requestsOf
      (if mode = DISPLAY_MODE_FULL ∨ mode = DISPLAY_MODE_GLOBAL_FULL ∨ mode = DISPLAY_MODE_MAIN then
        [.PerfRequestEx PERF_REQUEST_CMD_ID_SCREEN_SWITCHED true] else [])) := by
  split_ifs <;> decide

/-- A mode event of the display type switches to the selected request, on a screen that is
on. -/
theorem HandleSceenModeBoost_switchesTo (plugin : Plugin) (cmdId : Nat)
    (hon : plugin.screenStatus = SCREEN_ON)
    (hsel : selectedRequest plugin.deviceMode plugin.deviceOrientation = some cmdId) :
    SwitchesTo displayRequests cmdId
      (requestsOf (HandleSceenModeBoost plugin DISPLAY_MODE_KEY)) := by
  rw [HandleSceenModeBoost]
  simp only [ne_eq, not_true_eq_false, if_false, requestsOf_append, hon, true_and, and_true]
  refine SwitchesTo.append_keeps ?_ (displaySwitched_keeps plugin.deviceMode)
  rw [selectedRequest] at hsel
  split_ifs at hsel ⊢ <;> cases hsel <;> decide

theorem HandleSceenModeBoost_keeps (plugin : Plugin) (deviceModeType : String)
    (h : ¬ (deviceModeType = DISPLAY_MODE_KEY ∧ plugin.screenStatus = SCREEN_ON ∧
      selectedRequest plugin.deviceMode plugin.deviceOrientation ≠ none)) :
    Keeps displayRequests (requestsOf (HandleSceenModeBoost plugin deviceModeType)) := by
  rw [HandleSceenModeBoost]
  by_cases htype : deviceModeType = DISPLAY_MODE_KEY
  · rw [if_neg (not_not.mpr htype)]
    have hguard : plugin.screenStatus = SCREEN_ON →
        selectedRequest plugin.deviceMode plugin.deviceOrientation = none := by
      intro hon
      by_contra hsel
      exact h ⟨htype, hon, hsel⟩
    rw [selectedRequest] at hguard
    rw [requestsOf_append]
    refine Keeps.append ?_ (displaySwitched_keeps plugin.deviceMode)
    split_ifs at hguard ⊢ <;> first | decide | simp_all
  · rw [if_pos htype]
    decide

/-- An orientation event switches to the selected request in the global display mode, on a
screen that is on. -/
theorem HandleSceenOrientationBoost_switchesTo (plugin : Plugin) (cmdId : Nat)
    (hmode : plugin.deviceMode = DISPLAY_MODE_GLOBAL_FULL)
    (hon : plugin.screenStatus = SCREEN_ON)
    (hsel : selectedRequest plugin.deviceMode plugin.deviceOrientation = some cmdId) :
    SwitchesTo displayRequests cmdId
      (requestsOf (HandleSceenOrientationBoost plugin DEVICE_ORIENTATION_TYPE_KEY)) := by
  rw [HandleSceenOrientationBoost]
  simp only [hmode, hon, ne_eq, not_true_eq_false, if_false, true_and]
  have hfull : DISPLAY_MODE_GLOBAL_FULL ≠ DISPLAY_MODE_FULL := by decide
  have hmain : DISPLAY_MODE_GLOBAL_FULL ≠ DISPLAY_MODE_MAIN := by decide
  simp only [selectedRequest, hmode, hfull, hmain, if_false, true_and] at hsel
  split_ifs at hsel ⊢ <;> cases hsel <;> decide

theorem HandleSceenOrientationBoost_keeps (plugin : Plugin) (deviceOrientationType : String)
    (h : ¬ (deviceOrientationType = DEVICE_ORIENTATION_TYPE_KEY ∧
      plugin.deviceMode = DISPLAY_MODE_GLOBAL_FULL ∧ plugin.screenStatus = SCREEN_ON ∧
      selectedRequest plugin.deviceMode plugin.deviceOrientation ≠ none)) :
    Keeps displayRequests
      (requestsOf (HandleSceenOrientationBoost plugin deviceOrientationType)) := by
  rw [HandleSceenOrientationBoost]
  rw [selectedRequest] at h
  split_ifs at h ⊢ <;> first | decide | simp_all

private theorem screenOnPart_keeps (performanceMode : Int) :
    Keeps displayRequests (requestsOf
      ([.PerfRequestEx PERF_REQUEST_CMD_ID_SCREEN_OFF false,
        .PerfRequestEx PERF_REQUEST_CMD_ID_SCREEN_ON true] ++
      (if performanceMode = PERFORMANCE_MODE then
        [.PerfRequestEx PERF_REQUEST_CMD_ID_SCREEN_OFF_PERFORMANCE_MODE false,
          .PerfRequestEx PERF_REQUEST_CMD_ID_SCREEN_ON_PERFORMANCE_MODE true]
      else []))) := by
  split_ifs <;> decide

/-- `HandleScreenOn` turns the selected request on, and only in the global display mode the
others off. -/
theorem HandleScreenOn_raisesOnly (plugin : Plugin) (cmdId : Nat)
    (hsel : selectedRequest plugin.deviceMode plugin.deviceOrientation = some cmdId) :
    RaisesOnly displayRequests cmdId (requestsOf (HandleScreenOn plugin)) := by
  rw [HandleScreenOn]
  rw [requestsOf_append, requestsOf_append]
  refine RaisesOnly.append_keeps ?_ (by decide)
  refine RaisesOnly.keeps_append ?_ (screenOnPart_keeps plugin.performanceMode)
  rw [selectedRequest] at hsel
  split_ifs at hsel ⊢ <;> cases hsel <;> decide

theorem HandleScreenOn_keeps (plugin : Plugin)
    (hsel : selectedRequest plugin.deviceMode plugin.deviceOrientation = none) :
    Keeps displayRequests (requestsOf (HandleScreenOn plugin)) := by
  rw [HandleScreenOn]
  rw [requestsOf_append, requestsOf_append]
  refine Keeps.append (Keeps.append (screenOnPart_keeps plugin.performanceMode) ?_) (by decide)
  rw [selectedRequest] at hsel
  split_ifs at hsel ⊢
  decide

theorem HandleScreenOff_clears (plugin : Plugin) (hoff : plugin.screenStatus = SCREEN_OFF) :
    Clears displayRequests (requestsOf (HandleScreenOff plugin)) := by
  rw [HandleScreenOff]
  rw [if_pos hoff]
  split_ifs <;> decide

theorem HandleScreenOff_keeps (plugin : Plugin) (hoff : plugin.screenStatus ≠ SCREEN_OFF) :
    Keeps displayRequests (requestsOf (HandleScreenOff plugin)) := by
  rw [HandleScreenOff]
  rw [if_neg hoff]
  decide

theorem HandlePerformanceModeChange_keeps (plugin : Plugin) (value : Int) :
    Keeps displayRequests (requestsOf (HandlePerformanceModeChange plugin value).2) := by
  rw [HandlePerformanceModeChange]
  dsimp only
  split_ifs <;> dsimp only <;> decide

/-! ## Runs beside the events of the display mode -/

/-- A run of the system beside the display mode and the orientation its events name. -/
structure Observed where
  system : System
  displayMode : String
  orientation : String

def Observed.start : Observed :=
  ⟨System.start, "", ""⟩

/-- The name of an accepted mode event of the display type. -/
def displayModeOf : Event → Option String
  | .deviceModeStatus data =>
      match modeOf data with
      | some (modeType, name) => if modeType = DISPLAY_MODE_KEY then some name else none
      | none => none
  | _ => none

/-- The name of an accepted orientation event. -/
def orientationOf : Event → Option String
  | .deviceOrientationStatus data => (modeOf data).map Prod.snd
  | _ => none

def Observed.handle (observed : Observed) (event : Event) : Observed where
  system := observed.system.handle event
  displayMode := (displayModeOf event).getD observed.displayMode
  orientation := (orientationOf event).getD observed.orientation

/-- The active display requests are the one selected by the display mode and the
orientation, so at most one of the four. -/
structure DisplayMatch (observed : Observed) : Prop where
  exclusive : ∀ cmdId ∈ displayRequests, ∀ other ∈ displayRequests,
    observed.system.active cmdId = true → observed.system.active other = true → cmdId = other
  selected : ∀ cmdId ∈ displayRequests, observed.system.active cmdId = true →
    selectedRequest observed.displayMode observed.orientation = some cmdId

/-- No display request is active but the one `mode` and `orientation` select. -/
def OnlyActive (active : Nat → Bool) (mode orientation : String) : Prop :=
  ∀ cmdId ∈ displayRequests, active cmdId = true →
    selectedRequest mode orientation = some cmdId

/-- What an event needs for the display requests to match after it. A change of mode or
orientation reaches a screen that is on and selects a request, or finds no other request
active; the mode the plugin kept from an event of another type does not take over. -/
def DisplayHandled (observed : Observed) : Event → Prop
  | .deviceModeStatus data => ∀ name, modeOf data = some (DISPLAY_MODE_KEY, name) →
      (observed.system.plugin.screenStatus = SCREEN_ON ∧
        selectedRequest name observed.orientation ≠ none) ∨
      OnlyActive observed.system.active name observed.orientation
  | .deviceOrientationStatus data => ∀ modeType name, modeOf data = some (modeType, name) →
      if modeType = DEVICE_ORIENTATION_TYPE_KEY ∧
          observed.system.plugin.deviceMode = DISPLAY_MODE_GLOBAL_FULL ∧
          observed.system.plugin.screenStatus = SCREEN_ON ∧
          selectedRequest DISPLAY_MODE_GLOBAL_FULL name ≠ none then
        observed.displayMode = DISPLAY_MODE_GLOBAL_FULL
      else OnlyActive observed.system.active observed.displayMode name
  | .displayPowerWakeUp value => value = WAKE_UP_START →
      ∀ cmdId, selectedRequest observed.system.plugin.deviceMode observed.orientation =
        some cmdId → selectedRequest observed.displayMode observed.orientation = some cmdId
  | _ => True

theorem displayMatch_iff_onlyActive (observed : Observed) :
    DisplayMatch observed ↔
      OnlyActive observed.system.active observed.displayMode observed.orientation := by
  constructor
  · exact DisplayMatch.selected
  · intro h
    refine ⟨?_, h⟩
    intro cmdId hcmd other hother hactive hactive'
    have heq := (h cmdId hcmd hactive).symm.trans (h other hother hactive')
    exact Option.some.inj heq

/-! ## Active requests after the calls of a handler -/

theorem onlyActive_keeps_iff (log : List (Nat × Bool)) (h : Keeps displayRequests log)
    (active : Nat → Bool) (mode orientation : String) :
    OnlyActive (WriteLog.apply log active) mode orientation ↔
      OnlyActive active mode orientation := by
  rw [OnlyActive]
  refine forall₂_congr ?_
  intro cmdId hcmd
  rw [h.apply_eq active cmdId hcmd]

theorem onlyActive_clears (log : List (Nat × Bool)) (h : Clears displayRequests log)
    (active : Nat → Bool) (mode orientation : String) :
    OnlyActive (WriteLog.apply log active) mode orientation := by
  intro cmdId hcmd hactive
  rw [h.apply_eq active cmdId hcmd] at hactive
  exact absurd hactive (by decide)

theorem onlyActive_raisesOnly_iff (log : List (Nat × Bool)) (chosen : Nat)
    (hchosen : chosen ∈ displayRequests) (h : RaisesOnly displayRequests chosen log)
    (active : Nat → Bool) (mode orientation : String)
    (hactive : OnlyActive active mode orientation) :
    OnlyActive (WriteLog.apply log active) mode orientation ↔
      selectedRequest mode orientation = some chosen := by
  constructor
  · intro hafter
    exact hafter chosen hchosen (h.apply_chosen hchosen active)
  · intro hsel cmdId hcmd hon
    rcases h.of_apply active cmdId hcmd hon with rfl | hbefore
    · exact hsel
    · exact hactive cmdId hcmd hbefore

theorem onlyActive_switchesTo_iff (log : List (Nat × Bool)) (chosen : Nat)
    (hchosen : chosen ∈ displayRequests) (h : SwitchesTo displayRequests chosen log)
    (active : Nat → Bool) (mode orientation : String) :
    OnlyActive (WriteLog.apply log active) mode orientation ↔
      selectedRequest mode orientation = some chosen := by
  constructor
  · intro hafter
    exact hafter chosen hchosen (h.1.apply_chosen hchosen active)
  · intro hsel cmdId hcmd hon
    rw [h.apply_eq active cmdId hcmd, decide_eq_true_eq] at hon
    rwa [hon]

theorem screenOff_onlyActive (plugin : Plugin) (active : Nat → Bool) (mode orientation : String)
    (h : OnlyActive active mode orientation) :
    OnlyActive (WriteLog.apply (requestsOf (HandleScreenOff plugin)) active) mode orientation := by
  by_cases hoff : plugin.screenStatus = SCREEN_OFF
  · exact onlyActive_clears _ (HandleScreenOff_clears plugin hoff) active mode orientation
  · exact (onlyActive_keeps_iff _ (HandleScreenOff_keeps plugin hoff) active _ _).mpr h

/-! ## One event -/

theorem HandleEvent_deviceOrientation (plugin : Plugin) (event : Event) :
    (HandleEvent plugin event).1.deviceOrientation =
      (orientationOf event).getD plugin.deviceOrientation := by
  rw [HandleEvent_plugin]
  cases event <;> rfl

/-- The plugin keeps the orientation its events name. -/
def OrientationKept (observed : Observed) : Prop :=
  observed.system.plugin.deviceOrientation = observed.orientation

theorem handle_orientationKept (observed : Observed) (event : Event)
    (h : OrientationKept observed) : OrientationKept (observed.handle event) := by
  unfold OrientationKept Observed.handle System.handle
  rw [← h]
  exact HandleEvent_deviceOrientation observed.system.plugin event

theorem handle_deviceMode_iff (observed : Observed) (data : ResData)
    (horient : OrientationKept observed) (hmatch : DisplayMatch observed) :
    DisplayMatch (observed.handle (.deviceModeStatus data)) ↔
      DisplayHandled observed (.deviceModeStatus data) := by
  rw [displayMatch_iff_onlyActive] at hmatch ⊢
  simp only [Observed.handle, System.handle, HandleEvent, HandleDeviceModeStatusChange,
    DisplayHandled, displayModeOf, orientationOf, Option.getD_none]
  cases hmode : modeOf data with
  | none => exact iff_of_true hmatch (by simp)
  | some mode =>
      obtain ⟨modeType, name⟩ := mode
      simp only [Option.some.injEq, Prod.mk.injEq]
      let plugin : Plugin := { observed.system.plugin with deviceMode := name }
      change OnlyActive (WriteLog.apply (requestsOf (HandleSceenModeBoost plugin modeType))
        observed.system.active) _ _ ↔ _
      by_cases htype : modeType = DISPLAY_MODE_KEY
      · subst htype
        simp only [if_true, Option.getD_some, true_and, forall_eq']
        by_cases hguard : observed.system.plugin.screenStatus = SCREEN_ON ∧
            selectedRequest name observed.orientation ≠ none
        · obtain ⟨cmdId, hsel⟩ := Option.ne_none_iff_exists'.mp hguard.2
          have hswitch := HandleSceenModeBoost_switchesTo plugin cmdId hguard.1
            (by rw [← hsel, ← horient])
          rw [onlyActive_switchesTo_iff _ cmdId (selectedRequest_mem _ _ _ hsel) hswitch]
          exact ⟨fun _ => Or.inl hguard, fun _ => hsel⟩
        · have hkeep := HandleSceenModeBoost_keeps plugin DISPLAY_MODE_KEY
            (by
              rintro ⟨_, hon, hsel⟩
              exact hguard ⟨hon, by rwa [← horient]⟩)
          rw [onlyActive_keeps_iff _ hkeep]
          exact ⟨Or.inr, fun h => h.resolve_left hguard⟩
      · have hkeep := HandleSceenModeBoost_keeps plugin modeType (fun h => htype h.1)
        rw [onlyActive_keeps_iff _ hkeep]
        simpa [htype] using hmatch

theorem handle_deviceOrientation_iff (observed : Observed) (data : ResData)
    (hmatch : DisplayMatch observed) :
    DisplayMatch (observed.handle (.deviceOrientationStatus data)) ↔
      DisplayHandled observed (.deviceOrientationStatus data) := by
  rw [displayMatch_iff_onlyActive] at hmatch ⊢
  simp only [Observed.handle, System.handle, HandleEvent, HandleDeviceOrientationStatusChange,
    DisplayHandled, displayModeOf, orientationOf, Option.getD_none]
  cases hmode : modeOf data with
  | none => exact iff_of_true hmatch (by simp)
  | some mode =>
      obtain ⟨modeType, name⟩ := mode
      simp only [Option.some.injEq, Prod.mk.injEq, Option.map_some, Option.getD_some]
      let plugin : Plugin := { observed.system.plugin with deviceOrientation := name }
      change OnlyActive (WriteLog.apply
        (requestsOf (HandleSceenOrientationBoost plugin modeType)) observed.system.active)
        observed.displayMode name ↔ _
      by_cases hguard : modeType = DEVICE_ORIENTATION_TYPE_KEY ∧
          observed.system.plugin.deviceMode = DISPLAY_MODE_GLOBAL_FULL ∧
          observed.system.plugin.screenStatus = SCREEN_ON ∧
          selectedRequest DISPLAY_MODE_GLOBAL_FULL name ≠ none
      · obtain ⟨rfl, hglobal, hon, hsel⟩ := id hguard
        obtain ⟨cmdId, hsel⟩ := Option.ne_none_iff_exists'.mp hsel
        have hswitch := HandleSceenOrientationBoost_switchesTo plugin cmdId hglobal hon
          (by rw [← hsel, ← hglobal])
        rw [onlyActive_switchesTo_iff _ cmdId (selectedRequest_mem _ _ _ hsel) hswitch]
        constructor
        · rintro hselected _ _ ⟨rfl, rfl⟩
          rw [if_pos hguard]
          exact globalFull_of_selectedRequest hselected hsel
        · intro h
          have hmodeName := h _ _ ⟨rfl, rfl⟩
          rw [if_pos hguard] at hmodeName
          rw [hmodeName, hsel]
      · have hkeep := HandleSceenOrientationBoost_keeps plugin modeType
          (by
            rintro ⟨htype, hglobal, hon, hsel⟩
            exact hguard ⟨htype, hglobal, hon, by rwa [← hglobal]⟩)
        rw [onlyActive_keeps_iff _ hkeep]
        constructor
        · rintro h _ _ ⟨rfl, rfl⟩
          rwa [if_neg hguard]
        · intro h
          have hactive := h _ _ ⟨rfl, rfl⟩
          rwa [if_neg hguard] at hactive

theorem handle_displayPowerWakeUp_iff (observed : Observed) (value : Int)
    (horient : OrientationKept observed) (hmatch : DisplayMatch observed) :
    DisplayMatch (observed.handle (.displayPowerWakeUp value)) ↔
      DisplayHandled observed (.displayPowerWakeUp value) := by
  rw [displayMatch_iff_onlyActive] at hmatch ⊢
  rw [OrientationKept] at horient
  rw [← horient] at hmatch
  simp only [Observed.handle, System.handle, HandleEvent, HandleDisplayPowerWakeUp,
    DisplayHandled, displayModeOf, orientationOf, Option.getD_none, ← horient]
  by_cases hstart : value = WAKE_UP_START
  · simp only [hstart, if_true, forall_const]
    cases hsel : selectedRequest observed.system.plugin.deviceMode
        observed.system.plugin.deviceOrientation with
    | none =>
        rw [onlyActive_keeps_iff _ (HandleScreenOn_keeps _ hsel)]
        exact iff_of_true hmatch (by simp)
    | some cmdId =>
        rw [onlyActive_raisesOnly_iff _ cmdId (selectedRequest_mem _ _ _ hsel)
          (HandleScreenOn_raisesOnly _ cmdId hsel) _ _ _ hmatch]
        simp
  · refine iff_of_true ?_ (fun h => absurd h hstart)
    rw [if_neg hstart]
    split_ifs
    · exact screenOff_onlyActive observed.system.plugin _ _ _ hmatch
    · exact hmatch

theorem handle_displayMatch_iff (observed : Observed) (event : Event)
    (horient : OrientationKept observed) (hmatch : DisplayMatch observed) :
    DisplayMatch (observed.handle event) ↔ DisplayHandled observed event := by
  cases event with
  | screenStatus value =>
      refine iff_of_true ?_ trivial
      rw [displayMatch_iff_onlyActive] at hmatch ⊢
      simp only [Observed.handle, System.handle, HandleEvent, HandleScreenStatusAnalysis]
      split_ifs <;> exact hmatch
  | displayPowerWakeUp value => exact handle_displayPowerWakeUp_iff observed value horient hmatch
  | deviceModeStatus data => exact handle_deviceMode_iff observed data horient hmatch
  | deviceOrientationStatus data => exact handle_deviceOrientation_iff observed data hmatch
  | performanceMode value =>
      refine iff_of_true ?_ trivial
      rw [displayMatch_iff_onlyActive] at hmatch ⊢
      exact (onlyActive_keeps_iff _ (HandlePerformanceModeChange_keeps _ value) _ _ _).mpr hmatch
  | screenOffTask =>
      refine iff_of_true ?_ trivial
      rw [displayMatch_iff_onlyActive] at hmatch ⊢
      simp only [Observed.handle, System.handle, HandleEvent, runScreenOffTask]
      split_ifs
      · exact hmatch
      · exact screenOff_onlyActive observed.system.plugin _ _ _ hmatch

/-! ## Runs -/

/-- In every run at most one display request is active, the one the last display mode and
orientation select, in all states if and only if each event meets `DisplayHandled`. -/
theorem display_match_iff_events_handled (events : List Event) :
    Always Observed.handle DisplayMatch Observed.start events ↔
      EachStep Observed.handle DisplayHandled Observed.start events := by
  refine always_iff_eachStep Observed.handle (I := OrientationKept) handle_orientationKept
    handle_displayMatch_iff events Observed.start rfl ?_
  rw [displayMatch_iff_onlyActive]
  intro cmdId _ hactive
  simp [Observed.start, System.start] at hactive

/-! ## A mode change that is not handled -/

def displayModeEvent (name : String) : Event :=
  .deviceModeStatus ⟨MODE_ENTER, .object [(DEVICE_MODE_TYPE_KEY, .string DISPLAY_MODE_KEY),
    (DEVICE_MODE_PAYMODE_NAME, .string name)]⟩

/-- The device is folded while its screen is off, and woken up before the screen-off task
runs. -/
def foldAndWakeUp : List Event :=
  [displayModeEvent DISPLAY_MODE_FULL, .screenStatus SCREEN_OFF,
    displayModeEvent DISPLAY_MODE_MAIN, .displayPowerWakeUp WAKE_UP_START]

theorem foldAndWakeUp_activates_two :
    ¬ ∀ events : List Event, Always Observed.handle DisplayMatch Observed.start events := by
  intro h
  have hmatch := (h foldAndWakeUp).last
  have hfull : (run Observed.handle Observed.start foldAndWakeUp).system.active
      PERF_REQUEST_CMD_ID_DISPLAY_MODE_FULL = true := by decide +kernel
  have hmain : (run Observed.handle Observed.start foldAndWakeUp).system.active
      PERF_REQUEST_CMD_ID_DISPLAY_MODE_MAIN = true := by decide +kernel
  exact absurd (hmatch.exclusive _ (by decide) _ (by decide) hfull hmain) (by decide)

end ResSched.SocPerf.Screen
