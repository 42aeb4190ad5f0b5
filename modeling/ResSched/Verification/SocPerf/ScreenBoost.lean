import ResSched.Library.SwitchGroup
import ResSched.Library.Transition
import ResSched.Model.SocPerf.Screen

/-! # The screen boosts agree with the screen -/

namespace ResSched.SocPerf.Screen

open Transition SwitchGroup

/-- The requests of a screen that is on and of one that is off. -/
def screenRequests : List Nat :=
  [PERF_REQUEST_CMD_ID_SCREEN_ON, PERF_REQUEST_CMD_ID_SCREEN_OFF]

/-- The same requests of the performance mode. -/
def performanceRequests : List Nat :=
  [PERF_REQUEST_CMD_ID_SCREEN_ON_PERFORMANCE_MODE,
    PERF_REQUEST_CMD_ID_SCREEN_OFF_PERFORMANCE_MODE]

/-! ## What an event does to the screen requests -/

/-- The boost an event requests: that of the screen on, that of the screen off, or none. -/
def boostRun (plugin : Plugin) : Event → Option Bool
  | .displayPowerWakeUp value =>
      if value = WAKE_UP_START then some true
      else if value = WAKE_UP_TIMEOUT ∧ plugin.screenStatus = SCREEN_OFF then some false
      else none
  | .screenOffTask =>
      if plugin.screenOffTasks ≠ 0 ∧ plugin.screenStatus = SCREEN_OFF then some false else none
  | .performanceMode value =>
      if value < POWER_MODE_MIN ∨ value > POWER_MODE_MAX ∨ value = PERFORMANCE_MODE then none
      else if plugin.screenStatus = SCREEN_ON then some true
      else if plugin.screenStatus = SCREEN_OFF then some false
      else none
  | _ => none

/-- The request of the boost that is on when the screen is (`true`) or is not (`false`). -/
def boostRequest (on : Bool) : Nat :=
  if on then PERF_REQUEST_CMD_ID_SCREEN_ON else PERF_REQUEST_CMD_ID_SCREEN_OFF

theorem HandleScreenOn_screen (plugin : Plugin) :
    SwitchesTo screenRequests (boostRequest true) (requestsOf (HandleScreenOn plugin)) := by
  rw [HandleScreenOn]
  split_ifs <;> decide

theorem HandleScreenOff_screen (plugin : Plugin) (hoff : plugin.screenStatus = SCREEN_OFF) :
    SwitchesTo screenRequests (boostRequest false) (requestsOf (HandleScreenOff plugin)) := by
  rw [HandleScreenOff]
  split_ifs <;> decide

theorem HandlePerformanceModeChange_screen (plugin : Plugin) (value : Int) :
    match boostRun plugin (.performanceMode value) with
    | some on => SwitchesTo screenRequests (boostRequest on)
        (requestsOf (HandlePerformanceModeChange plugin value).2)
    | none => Keeps screenRequests (requestsOf (HandlePerformanceModeChange plugin value).2) := by
  unfold HandlePerformanceModeChange boostRun
  dsimp only
  by_cases hrange : value < POWER_MODE_MIN ∨ value > POWER_MODE_MAX
  · rw [if_pos hrange, if_pos (hrange.elim Or.inl (fun h => Or.inr (Or.inl h)))]
    dsimp only
    decide
  · have hrest : (value < POWER_MODE_MIN ∨ value > POWER_MODE_MAX ∨ value = PERFORMANCE_MODE) ↔
        value = PERFORMANCE_MODE := by tauto
    rw [if_neg hrange]
    simp only [hrest]
    split_ifs <;> dsimp only <;> decide

/-- Mode and orientation events leave the screen and performance requests alone. -/
theorem HandleSceenModeBoost_screen (plugin : Plugin) (deviceModeType : String) :
    Keeps (screenRequests ++ performanceRequests)
      (requestsOf (HandleSceenModeBoost plugin deviceModeType)) := by
  rw [HandleSceenModeBoost]
  split_ifs <;> decide

theorem HandleSceenOrientationBoost_screen (plugin : Plugin) (deviceOrientationType : String) :
    Keeps (screenRequests ++ performanceRequests)
      (requestsOf (HandleSceenOrientationBoost plugin deviceOrientationType)) := by
  rw [HandleSceenOrientationBoost]
  split_ifs <;> decide

theorem deviceMode_keeps (plugin : Plugin) (data : ResData) :
    Keeps (screenRequests ++ performanceRequests)
      (requestsOf (HandleDeviceModeStatusChange plugin data).2) := by
  rw [HandleDeviceModeStatusChange]
  cases modeOf data with
  | none => exact fun _ _ _ h => absurd h List.not_mem_nil
  | some mode => exact HandleSceenModeBoost_screen _ mode.1

theorem deviceOrientation_keeps (plugin : Plugin) (data : ResData) :
    Keeps (screenRequests ++ performanceRequests)
      (requestsOf (HandleDeviceOrientationStatusChange plugin data).2) := by
  rw [HandleDeviceOrientationStatusChange]
  cases modeOf data with
  | none => exact fun _ _ _ h => absurd h List.not_mem_nil
  | some mode => exact HandleSceenOrientationBoost_screen _ mode.1

/-- An event requests the boost `boostRun` says, and leaves the screen requests alone
otherwise. -/
theorem HandleEvent_screen (plugin : Plugin) (event : Event) :
    match boostRun plugin event with
    | some on => SwitchesTo screenRequests (boostRequest on)
        (requestsOf (HandleEvent plugin event).2)
    | none => Keeps screenRequests (requestsOf (HandleEvent plugin event).2) := by
  cases event with
  | screenStatus value =>
      simp only [boostRun, HandleEvent, HandleScreenStatusAnalysis]
      split_ifs <;> dsimp only <;> decide
  | displayPowerWakeUp value =>
      simp only [boostRun, HandleEvent, HandleDisplayPowerWakeUp]
      by_cases hstart : value = WAKE_UP_START
      · simp only [if_pos hstart]
        exact HandleScreenOn_screen plugin
      · by_cases htimeout : value = WAKE_UP_TIMEOUT
        · by_cases hoff : plugin.screenStatus = SCREEN_OFF
          · simp only [if_neg hstart, if_pos htimeout, if_pos (And.intro htimeout hoff)]
            exact HandleScreenOff_screen plugin hoff
          · simp only [if_neg hstart, if_pos htimeout, hoff, and_false, if_false,
              HandleScreenOff]
            decide
        · simp only [if_neg hstart, htimeout, false_and, if_false]
          decide
  | deviceModeStatus data =>
      exact fun k hk => deviceMode_keeps plugin data k (List.mem_append_left _ hk)
  | deviceOrientationStatus data =>
      exact fun k hk => deviceOrientation_keeps plugin data k (List.mem_append_left _ hk)
  | performanceMode value => exact HandlePerformanceModeChange_screen plugin value
  | screenOffTask =>
      simp only [boostRun, HandleEvent, runScreenOffTask]
      by_cases hnone : plugin.screenOffTasks = 0
      · simp only [hnone, ne_eq, not_true_eq_false, false_and, if_true, if_false]
        decide
      · by_cases hoff : plugin.screenStatus = SCREEN_OFF
        · simp only [ne_eq, hnone, not_false_eq_true, hoff, and_self, if_true, if_false]
          exact HandleScreenOff_screen plugin hoff
        · simp only [if_neg hnone, hoff, and_false, if_false, HandleScreenOff]
          decide

/-! ## What an event does to the performance-mode requests -/

theorem HandleScreenOn_performance (plugin : Plugin) :
    if plugin.performanceMode = PERFORMANCE_MODE then
      SwitchesTo performanceRequests PERF_REQUEST_CMD_ID_SCREEN_ON_PERFORMANCE_MODE
        (requestsOf (HandleScreenOn plugin))
    else Keeps performanceRequests (requestsOf (HandleScreenOn plugin)) := by
  rw [HandleScreenOn]
  split_ifs <;> decide

theorem HandleScreenOff_performance (plugin : Plugin) :
    if plugin.screenStatus = SCREEN_OFF ∧ plugin.performanceMode = PERFORMANCE_MODE then
      SwitchesTo performanceRequests PERF_REQUEST_CMD_ID_SCREEN_OFF_PERFORMANCE_MODE
        (requestsOf (HandleScreenOff plugin))
    else Keeps performanceRequests (requestsOf (HandleScreenOff plugin)) := by
  rw [HandleScreenOff]
  by_cases hoff : plugin.screenStatus = SCREEN_OFF
  · simp only [hoff, true_and, if_true]
    split_ifs <;> decide
  · simp only [hoff, false_and, if_false]
    decide

/-- The two performance-mode requests are not both on, and both are off outside the
performance mode. -/
structure PerformanceAgrees (system : System) : Prop where
  exclusive : ¬ (system.active PERF_REQUEST_CMD_ID_SCREEN_ON_PERFORMANCE_MODE = true ∧
    system.active PERF_REQUEST_CMD_ID_SCREEN_OFF_PERFORMANCE_MODE = true)
  outside : system.plugin.performanceMode ≠ PERFORMANCE_MODE →
    system.active PERF_REQUEST_CMD_ID_SCREEN_ON_PERFORMANCE_MODE = false ∧
      system.active PERF_REQUEST_CMD_ID_SCREEN_OFF_PERFORMANCE_MODE = false

theorem performanceAgrees_of_keeps (system : System) (h : PerformanceAgrees system)
    (plugin : Plugin) (log : List (Nat × Bool)) (hlog : Keeps performanceRequests log)
    (hmode : plugin.performanceMode ≠ PERFORMANCE_MODE →
      system.plugin.performanceMode ≠ PERFORMANCE_MODE) :
    PerformanceAgrees ⟨plugin, WriteLog.apply log system.active⟩ := by
  have hon := hlog.apply_eq system.active PERF_REQUEST_CMD_ID_SCREEN_ON_PERFORMANCE_MODE
    (by decide)
  have hoff := hlog.apply_eq system.active PERF_REQUEST_CMD_ID_SCREEN_OFF_PERFORMANCE_MODE
    (by decide)
  refine ⟨?_, fun hne => ?_⟩
  · simp only [hon, hoff]
    exact h.exclusive
  · simp only [hon, hoff]
    exact h.outside (hmode hne)

theorem performanceAgrees_of_switchesTo (active : Nat → Bool) (plugin : Plugin)
    (log : List (Nat × Bool)) (chosen : Nat) (hlog : SwitchesTo performanceRequests chosen log)
    (hmode : plugin.performanceMode = PERFORMANCE_MODE) :
    PerformanceAgrees ⟨plugin, WriteLog.apply log active⟩ := by
  have hon := hlog.apply_eq active PERF_REQUEST_CMD_ID_SCREEN_ON_PERFORMANCE_MODE (by decide)
  have hoff := hlog.apply_eq active PERF_REQUEST_CMD_ID_SCREEN_OFF_PERFORMANCE_MODE (by decide)
  refine ⟨?_, fun hne => absurd hmode hne⟩
  simp only [hon, hoff, decide_eq_true_eq]
  rintro ⟨rfl, h⟩
  exact absurd h (by decide)

theorem performanceAgrees_of_clears (active : Nat → Bool) (plugin : Plugin)
    (log : List (Nat × Bool)) (hlog : Clears performanceRequests log) :
    PerformanceAgrees ⟨plugin, WriteLog.apply log active⟩ := by
  have hon := hlog.apply_eq active PERF_REQUEST_CMD_ID_SCREEN_ON_PERFORMANCE_MODE (by decide)
  have hoff := hlog.apply_eq active PERF_REQUEST_CMD_ID_SCREEN_OFF_PERFORMANCE_MODE (by decide)
  exact ⟨by simp [hon], fun _ => ⟨hon, hoff⟩⟩

theorem screenOn_performanceAgrees (system : System) (h : PerformanceAgrees system) :
    PerformanceAgrees ⟨system.plugin,
      WriteLog.apply (requestsOf (HandleScreenOn system.plugin)) system.active⟩ := by
  have hcalls := HandleScreenOn_performance system.plugin
  by_cases hmode : system.plugin.performanceMode = PERFORMANCE_MODE
  · rw [if_pos hmode] at hcalls
    exact performanceAgrees_of_switchesTo _ _ _ _ hcalls hmode
  · rw [if_neg hmode] at hcalls
    exact performanceAgrees_of_keeps system h _ _ hcalls id

theorem screenOff_performanceAgrees (system : System) (h : PerformanceAgrees system)
    (tasks : Nat) :
    PerformanceAgrees ⟨{ system.plugin with screenOffTasks := tasks },
      WriteLog.apply (requestsOf (HandleScreenOff system.plugin)) system.active⟩ := by
  have hcalls := HandleScreenOff_performance system.plugin
  by_cases hmode : system.plugin.screenStatus = SCREEN_OFF ∧
      system.plugin.performanceMode = PERFORMANCE_MODE
  · rw [if_pos hmode] at hcalls
    exact performanceAgrees_of_switchesTo _ _ _ _ hcalls hmode.2
  · rw [if_neg hmode] at hcalls
    exact performanceAgrees_of_keeps system h _ _ hcalls id

theorem performanceMode_performanceAgrees (system : System) (h : PerformanceAgrees system)
    (value : Int) : PerformanceAgrees (system.handle (.performanceMode value)) := by
  simp only [System.handle, HandleEvent, HandlePerformanceModeChange]
  by_cases hrange : value < POWER_MODE_MIN ∨ value > POWER_MODE_MAX
  · rw [if_pos hrange]
    exact h
  · rw [if_neg hrange]
    by_cases hmode : value = PERFORMANCE_MODE
    · subst hmode
      simp only [if_true]
      split_ifs
      · exact performanceAgrees_of_switchesTo _ _ _
          PERF_REQUEST_CMD_ID_SCREEN_ON_PERFORMANCE_MODE (by decide) rfl
      · exact performanceAgrees_of_switchesTo _ _ _
          PERF_REQUEST_CMD_ID_SCREEN_OFF_PERFORMANCE_MODE (by decide) rfl
      · exact performanceAgrees_of_keeps system h _ _ (by decide) (fun hne => absurd rfl hne)
    · rw [if_neg hmode]
      refine performanceAgrees_of_clears _ _ _ ?_
      dsimp only
      split_ifs <;> decide

theorem handle_performanceAgrees (system : System) (event : Event)
    (h : PerformanceAgrees system) : PerformanceAgrees (system.handle event) := by
  cases event with
  | screenStatus value =>
      simp only [System.handle, HandleEvent, HandleScreenStatusAnalysis]
      split_ifs <;> exact ⟨h.exclusive, h.outside⟩
  | displayPowerWakeUp value =>
      simp only [System.handle, HandleEvent, HandleDisplayPowerWakeUp]
      split_ifs
      · exact screenOn_performanceAgrees system h
      · exact screenOff_performanceAgrees system h system.plugin.screenOffTasks
      · exact h
  | deviceModeStatus data =>
      refine performanceAgrees_of_keeps system h _ _
        (fun k hk => deviceMode_keeps system.plugin data k (List.mem_append_right _ hk)) ?_
      cases modeOf data <;> exact id
  | deviceOrientationStatus data =>
      refine performanceAgrees_of_keeps system h _ _
        (fun k hk => deviceOrientation_keeps system.plugin data k (List.mem_append_right _ hk)) ?_
      cases modeOf data <;> exact id
  | performanceMode value => exact performanceMode_performanceAgrees system h value
  | screenOffTask =>
      simp only [System.handle, HandleEvent, runScreenOffTask]
      split_ifs
      · exact h
      · exact screenOff_performanceAgrees system h _

/-! ## Runs beside the events of the screen -/

/-- A run of the system beside what its events say: the last screen status, whether a wake-up
has started since, and the last boost the plugin was led to request. -/
structure Watched where
  system : System
  lastStatus : Option Int
  wokenUp : Bool
  lastBoost : Option Bool

def Watched.start : Watched :=
  ⟨System.start, none, false, none⟩

def Watched.handle (watched : Watched) (event : Event) : Watched where
  system := watched.system.handle event
  lastStatus :=
    match event with
    | .screenStatus value => some value
    | _ => watched.lastStatus
  wokenUp :=
    match event with
    | .screenStatus _ => false
    | .displayPowerWakeUp value => value = WAKE_UP_START || watched.wokenUp
    | _ => watched.wokenUp
  lastBoost := (boostRun watched.system.plugin event).or watched.lastBoost

/-- The screen requests agree with the last status once no screen-off task is left. -/
structure BoostAgrees (watched : Watched) : Prop where
  on : watched.system.plugin.screenOffTasks = 0 → watched.lastStatus = some SCREEN_ON →
    watched.system.active PERF_REQUEST_CMD_ID_SCREEN_ON = true ∧
      watched.system.active PERF_REQUEST_CMD_ID_SCREEN_OFF = false
  off : watched.system.plugin.screenOffTasks = 0 → watched.lastStatus = some SCREEN_OFF →
    watched.wokenUp = false →
    watched.system.active PERF_REQUEST_CMD_ID_SCREEN_OFF = true ∧
      watched.system.active PERF_REQUEST_CMD_ID_SCREEN_ON = false
  performance : PerformanceAgrees watched.system

/-- The power service starts a wake-up before it reports the screen on. -/
def StatusSent (watched : Watched) (event : Event) : Prop :=
  event = .screenStatus SCREEN_ON → watched.wokenUp = true

/-- Between the wake-up and the report that the screen is on, nothing the plugin handles while
it holds the screen for off has requested the off boost again. -/
def WakeUpKept (watched : Watched) (event : Event) : Prop :=
  event = .screenStatus SCREEN_ON → watched.lastBoost ≠ some false

/-! ## One event -/

/-- The facts every run keeps. -/
structure WatchedInv (watched : Watched) : Prop where
  boost : ∀ on, watched.lastBoost = some on → ∀ cmdId ∈ screenRequests,
    watched.system.active cmdId = decide (cmdId = boostRequest on)
  status : ∀ value, watched.lastStatus = some value →
    watched.system.plugin.screenStatus = value
  woken : watched.wokenUp = true → watched.lastBoost ≠ none
  pending : watched.lastStatus = some SCREEN_OFF → watched.wokenUp = false →
    watched.system.plugin.screenOffTasks ≠ 0 ∨ watched.lastBoost = some false
  performance : PerformanceAgrees watched.system

theorem start_watchedInv : WatchedInv Watched.start := by
  refine ⟨?_, ?_, ?_, ?_, ?_, ?_⟩ <;> simp [Watched.start, System.start]

theorem lastBoost_ne_none (watched : Watched) (event : Event) (h : watched.lastBoost ≠ none) :
    (watched.handle event).lastBoost ≠ none := by
  simp only [Watched.handle]
  cases boostRun watched.system.plugin event with
  | none => exact h
  | some ran => simp

/-- While the plugin holds the screen for off, only the start of a wake-up requests the on
boost. -/
theorem boostRun_ne_true (plugin : Plugin) (hoff : plugin.screenStatus = SCREEN_OFF)
    (event : Event) (hevent : event ≠ .displayPowerWakeUp WAKE_UP_START) :
    boostRun plugin event ≠ some true := by
  have hstatus : plugin.screenStatus ≠ SCREEN_ON := by
    rw [hoff]
    decide
  cases event with
  | displayPowerWakeUp value =>
      have hstart : value ≠ WAKE_UP_START := fun h => hevent (by rw [h])
      simp only [boostRun, hstart, if_false]
      split_ifs <;> simp
  | performanceMode value =>
      simp only [boostRun, hstatus, if_false]
      split_ifs <;> simp
  | screenOffTask =>
      simp only [boostRun]
      split_ifs <;> simp
  | screenStatus _ => simp [boostRun]
  | deviceModeStatus _ => simp [boostRun]
  | deviceOrientationStatus _ => simp [boostRun]

theorem lastBoost_stays_false (watched : Watched) (event : Event)
    (hoff : watched.system.plugin.screenStatus = SCREEN_OFF)
    (hevent : event ≠ .displayPowerWakeUp WAKE_UP_START)
    (h : watched.lastBoost = some false) : (watched.handle event).lastBoost = some false := by
  have hran := boostRun_ne_true watched.system.plugin hoff event hevent
  simp only [Watched.handle]
  cases hrun : boostRun watched.system.plugin event with
  | none => exact h
  | some ran =>
      cases ran with
      | false => rfl
      | true => exact absurd hrun hran

/-- While the screen stays off and unwoken, a screen-off task is left or has run. -/
theorem handle_pending (watched : Watched) (event : Event) (h : WatchedInv watched)
    (hlast : (watched.handle event).lastStatus = some SCREEN_OFF)
    (hwoken : (watched.handle event).wokenUp = false) :
    (watched.handle event).system.plugin.screenOffTasks ≠ 0 ∨
      (watched.handle event).lastBoost = some false := by
  have hplugin : (watched.handle event).system.plugin =
      (HandleEvent watched.system.plugin event).1 := rfl
  rw [hplugin, HandleEvent_plugin]
  have hcarry : watched.lastStatus = some SCREEN_OFF → watched.wokenUp = false →
      event ≠ .displayPowerWakeUp WAKE_UP_START →
      watched.system.plugin.screenOffTasks ≠ 0 ∨ (watched.handle event).lastBoost = some false := by
    intro hlast hwoken hevent
    rcases h.pending hlast hwoken with htasks | hboost
    · exact Or.inl htasks
    · exact Or.inr (lastBoost_stays_false watched event (h.status _ hlast) hevent hboost)
  cases event with
  | screenStatus value =>
      obtain rfl : value = SCREEN_OFF := Option.some.inj hlast
      simp
  | displayPowerWakeUp value =>
      simp only [Watched.handle, Bool.or_eq_false_iff, decide_eq_false_iff_not] at hwoken
      exact hcarry hlast hwoken.2 (fun heq => hwoken.1 (Event.displayPowerWakeUp.inj heq))
  | deviceModeStatus data => exact hcarry hlast hwoken (by simp)
  | deviceOrientationStatus data => exact hcarry hlast hwoken (by simp)
  | performanceMode value => exact hcarry hlast hwoken (by simp)
  | screenOffTask =>
      rcases hcarry hlast hwoken (by simp) with htasks | hboost
      · refine Or.inr ?_
        have hoff : watched.system.plugin.screenStatus = SCREEN_OFF := h.status _ hlast
        simp [Watched.handle, boostRun, htasks, hoff]
      · exact Or.inr hboost

theorem handle_watchedInv (watched : Watched) (event : Event) (h : WatchedInv watched) :
    WatchedInv (watched.handle event) := by
  refine ⟨?_, ?_, ?_, handle_pending watched event h,
    handle_performanceAgrees watched.system event h.performance⟩
  · intro on hon cmdId hcmd
    have hcalls := HandleEvent_screen watched.system.plugin event
    simp only [Watched.handle] at hon ⊢
    cases hrun : boostRun watched.system.plugin event with
    | none =>
        simp only [hrun, Option.none_or] at hcalls hon
        rw [← h.boost on hon cmdId hcmd]
        exact hcalls.apply_eq watched.system.active cmdId hcmd
    | some ran =>
        simp only [hrun, Option.some_or, Option.some.injEq] at hcalls hon
        subst hon
        exact hcalls.apply_eq watched.system.active cmdId hcmd
  · intro value hvalue
    have hplugin : (watched.handle event).system.plugin =
        (HandleEvent watched.system.plugin event).1 := rfl
    rw [hplugin, HandleEvent_plugin]
    cases event with
    | screenStatus status => exact Option.some.inj hvalue
    | displayPowerWakeUp _ => exact h.status value hvalue
    | deviceModeStatus _ => exact h.status value hvalue
    | deviceOrientationStatus _ => exact h.status value hvalue
    | performanceMode _ => exact h.status value hvalue
    | screenOffTask => exact h.status value hvalue
  · intro hwoken
    cases event with
    | screenStatus _ => exact absurd hwoken (by simp [Watched.handle])
    | displayPowerWakeUp value =>
        by_cases hstart : value = WAKE_UP_START
        · simp [Watched.handle, boostRun, hstart]
        · refine lastBoost_ne_none watched _ (h.woken ?_)
          simpa [Watched.handle, hstart] using hwoken
    | deviceModeStatus _ => exact lastBoost_ne_none watched _ (h.woken hwoken)
    | deviceOrientationStatus _ => exact lastBoost_ne_none watched _ (h.woken hwoken)
    | performanceMode _ => exact lastBoost_ne_none watched _ (h.woken hwoken)
    | screenOffTask => exact lastBoost_ne_none watched _ (h.woken hwoken)

/-! ## Runs -/

/-- The invariant of the runs whose wake-ups are kept. -/
structure KeptInv (watched : Watched) : Prop where
  inv : WatchedInv watched
  on : watched.lastStatus = some SCREEN_ON → watched.lastBoost = some true

theorem KeptInv.boostAgrees {watched : Watched} (h : KeptInv watched) : BoostAgrees watched where
  on := by
    intro _ hlast
    have hboost := h.inv.boost true (h.on hlast)
    exact ⟨hboost _ (by decide), hboost _ (by decide)⟩
  off := by
    intro htasks hlast hwoken
    rcases h.inv.pending hlast hwoken with hne | hfalse
    · exact absurd htasks hne
    · have hboost := h.inv.boost false hfalse
      exact ⟨hboost _ (by decide), hboost _ (by decide)⟩
  performance := h.inv.performance

/-- While the plugin holds the screen for on, no event requests the off boost. -/
theorem boostRun_ne_false (plugin : Plugin) (hon : plugin.screenStatus = SCREEN_ON)
    (event : Event) : boostRun plugin event ≠ some false := by
  have hstatus : plugin.screenStatus ≠ SCREEN_OFF := by
    rw [hon]
    decide
  cases event with
  | displayPowerWakeUp value =>
      simp only [boostRun, hstatus, and_false, if_false]
      split_ifs <;> simp
  | performanceMode value =>
      simp only [boostRun, hstatus, if_false]
      split_ifs <;> simp
  | screenOffTask => simp [boostRun, hstatus]
  | screenStatus _ => simp [boostRun]
  | deviceModeStatus _ => simp [boostRun]
  | deviceOrientationStatus _ => simp [boostRun]

theorem handle_keptInv (watched : Watched) (event : Event) (h : KeptInv watched)
    (hguard : StatusSent watched event ∧ WakeUpKept watched event) :
    KeptInv (watched.handle event) := by
  refine ⟨handle_watchedInv watched event h.inv, ?_⟩
  intro hlast
  have hkeep : watched.lastStatus = some SCREEN_ON →
      (watched.handle event).lastBoost = some true := by
    intro hlast
    have hran := boostRun_ne_false watched.system.plugin (h.inv.status _ hlast) event
    simp only [Watched.handle]
    cases hrun : boostRun watched.system.plugin event with
    | none => exact h.on hlast
    | some ran =>
        cases ran with
        | true => rfl
        | false => exact absurd hrun hran
  cases event with
  | screenStatus value =>
      obtain rfl : value = SCREEN_ON := Option.some.inj hlast
      have hsome := h.inv.woken (hguard.1 rfl)
      have hkept := hguard.2 rfl
      obtain ⟨boost, hboost⟩ := Option.ne_none_iff_exists'.mp hsome
      cases boost with
      | true => exact hboost
      | false => exact absurd hboost hkept
  | displayPowerWakeUp _ => exact hkeep hlast
  | deviceModeStatus _ => exact hkeep hlast
  | deviceOrientationStatus _ => exact hkeep hlast
  | performanceMode _ => exact hkeep hlast
  | screenOffTask => exact hkeep hlast

/-- In every run in which no wake-up is undone before the screen is reported on, the screen
boosts agree with the screen in all states. -/
theorem screen_boost_agrees (events : List Event)
    (h : EachStep Watched.handle
      (fun watched event => StatusSent watched event ∧ WakeUpKept watched event)
      Watched.start events) :
    Always Watched.handle BoostAgrees Watched.start events := by
  have hstart : KeptInv Watched.start := ⟨start_watchedInv, by simp [Watched.start]⟩
  exact (always_of_eachStep Watched.handle handle_keptInv events Watched.start hstart h).mono
    Watched.handle (fun _ hkept => hkept.boostAgrees)

/-- A screen that is woken up and goes off again. -/
def wakeUpAndSleep : List Event :=
  [.displayPowerWakeUp WAKE_UP_START, .screenStatus SCREEN_ON, .performanceMode PERFORMANCE_MODE,
    .screenStatus SCREEN_OFF, .screenOffTask]

theorem wakeUpAndSleep_agrees :
    Always Watched.handle BoostAgrees Watched.start wakeUpAndSleep :=
  screen_boost_agrees wakeUpAndSleep (by
    simp [wakeUpAndSleep, eachStep_cons, StatusSent, WakeUpKept, Watched.handle, Watched.start,
      boostRun, SCREEN_ON, SCREEN_OFF])

/-- A wake-up overtaken by the screen-off task of the sleep before it. -/
def wakeUpOvertaken : List Event :=
  [.screenStatus SCREEN_OFF, .displayPowerWakeUp WAKE_UP_START, .screenOffTask,
    .screenStatus SCREEN_ON]

/-- The screen is on, no task is left, and its boost is off. -/
theorem wakeUpOvertaken_loses_boost :
    ¬ ∀ events : List Event, EachStep Watched.handle StatusSent Watched.start events →
      Always Watched.handle BoostAgrees Watched.start events := by
  intro h
  have hsent : EachStep Watched.handle StatusSent Watched.start wakeUpOvertaken := by
    simp [wakeUpOvertaken, eachStep_cons, StatusSent, Watched.handle, Watched.start, SCREEN_ON,
      SCREEN_OFF]
  have hagrees := (h wakeUpOvertaken hsent).last.on (by decide +kernel) (by decide +kernel)
  have hlost : (run Watched.handle Watched.start wakeUpOvertaken).system.active
      PERF_REQUEST_CMD_ID_SCREEN_ON = false := by decide +kernel
  rw [hlost] at hagrees
  exact absurd hagrees.1 (by decide)

end ResSched.SocPerf.Screen
