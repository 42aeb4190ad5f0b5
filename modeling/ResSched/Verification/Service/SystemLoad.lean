import ResSched.Model.Service.SystemLoad
import ResSched.Verification.NotifierMgr
import Mathlib.Tactic.IntervalCases

/-! # What the debug override of the system load leaves behind -/

namespace ResSched.SystemLoad

open Transition
open NotifierMgr (SystemloadLevel SYSTEMLOAD_LEVEL)

variable {Remote : Type*}

/-! ## Levels -/

theorem reportedLevel_systemload (level : Int) :
    NotifierMgr.reportedLevel SYSTEMLOAD_LEVEL level = SystemloadLevel.ofInt? level := by
  simp [NotifierMgr.reportedLevel]

theorem toInt_of_ofInt? {value : Int} {level : SystemloadLevel}
    (h : SystemloadLevel.ofInt? value = some level) : level.toInt = value := by
  unfold SystemloadLevel.ofInt? at h
  split at h <;> first
    | (obtain rfl := Option.some.inj h; rfl)
    | cases h

/-- The levels of a debug command are those of the manager. -/
theorem ofInt?_isSome_iff (value : Int) :
    (SystemloadLevel.ofInt? value).isSome ↔ 0 ≤ value ∧ value ≤ 7 := by
  constructor
  · intro h
    obtain ⟨level, hlevel⟩ := Option.isSome_iff_exists.mp h
    rw [← toInt_of_ofInt? hlevel]
    cases level <;> decide
  · rintro ⟨hlow, hhigh⟩
    interval_cases value <;> rfl

/-! ## The notifier manager after an event -/

/-- The manager holds and has saved the level that was passed on to it, if any, and delivered
levels for which `P` holds. -/
structure Passed (mgr : NotifierMgr.Mgr Remote) (passed : Option SystemloadLevel)
    (P : SystemloadLevel → Prop) (mgr' : NotifierMgr.Mgr Remote) : Prop where
  handler : mgr'.notifierHandler_ = mgr.notifierHandler_
  level : mgr'.systemloadLevel_ = passed.getD mgr.systemloadLevel_
  file : mgr'.SYSTEMLOAD_FILE = (passed.map SystemloadLevel.name).or mgr.SYSTEMLOAD_FILE
  delivered : ∀ delivery ∈ mgr'.delivered.drop mgr.delivered.length, P delivery.2

theorem passed_same (mgr : NotifierMgr.Mgr Remote) (P : SystemloadLevel → Prop) :
    Passed mgr none P mgr :=
  ⟨rfl, rfl, rfl, by simp⟩

theorem passed_OnDeviceLevelChanged {mgr : NotifierMgr.Mgr Remote}
    (hhandler : mgr.notifierHandler_ = true) (type level : Int) :
    Passed mgr (NotifierMgr.reportedLevel type level)
      (fun delivered => NotifierMgr.reportedLevel type level = some delivered)
      (NotifierMgr.OnDeviceLevelChanged mgr type level) := by
  rw [NotifierMgr.OnDeviceLevelChanged]
  cases NotifierMgr.reportedLevel type level with
  | none => exact passed_same mgr _
  | some reported =>
      have hready : ¬(!(NotifierMgr.storeLevel mgr reported).notifierHandler_) = true := by
        simpa [NotifierMgr.storeLevel] using hhandler
      dsimp only
      rw [if_neg hready]
      refine ⟨rfl, rfl, rfl, ?_⟩
      intro delivery hdelivery
      have hdrop := NotifierMgr.drop_delivered_HandleDeviceLevelChange
        (NotifierMgr.storeLevel mgr reported)
        (NotifierMgr.passArray (NotifierMgr.storeLevel mgr reported)) reported
      have hmem : delivery ∈ (NotifierMgr.passArray (NotifierMgr.storeLevel mgr reported)).map
          fun notifier => (notifier, reported) := hdrop ▸ hdelivery
      obtain ⟨notifier, _, rfl⟩ := List.mem_map.mp hmem
      rfl

theorem passed_RegisterNotifier (mgr : NotifierMgr.Mgr Remote) (pid : Int)
    (notifier : Option Remote) (hapApp : Bool) (P : SystemloadLevel → Prop) :
    Passed mgr none P (NotifierMgr.RegisterNotifier mgr pid notifier hapApp) := by
  rcases NotifierMgr.RegisterNotifier_cases mgr pid notifier hapApp with
    hsame | ⟨registered, _, hnew⟩
  · rw [hsame]
    exact passed_same mgr P
  · rw [hnew]
    exact ⟨rfl, rfl, rfl, by simp⟩

theorem passed_UnRegisterNotifier (mgr : NotifierMgr.Mgr Remote) (pid : Int)
    (P : SystemloadLevel → Prop) :
    Passed mgr none P (NotifierMgr.UnRegisterNotifier mgr pid) :=
  ⟨rfl, rfl, rfl, by simp [NotifierMgr.UnRegisterNotifier]⟩

theorem passed_OnRemoteNotifierDied [DecidableEq Remote] (mgr : NotifierMgr.Mgr Remote)
    (notifier : Option Remote) (P : SystemloadLevel → Prop) :
    Passed mgr none P (NotifierMgr.OnRemoteNotifierDied mgr notifier) := by
  cases notifier with
  | none => exact passed_same mgr P
  | some notifier =>
      rw [NotifierMgr.OnRemoteNotifierDied, NotifierMgr.RemoveNotifierLock]
      split
      · exact passed_same mgr P
      · exact ⟨rfl, rfl, rfl, by simp⟩

theorem passed_OnApplicationStateChange (mgr : NotifierMgr.Mgr Remote)
    (state : ApplicationState) (pid : Int) :
    Passed mgr none (fun delivered => mgr.systemloadLevel_ = delivered)
      (NotifierMgr.OnApplicationStateChange mgr state pid) := by
  have hspec := NotifierMgr.OnApplicationStateChange_spec mgr state pid
  refine ⟨hspec.handler, hspec.level, hspec.file, ?_⟩
  intro delivery hdelivery
  rw [hspec.delivered, List.drop_left] at hdelivery
  obtain ⟨notifier, _, rfl⟩ := List.mem_map.mp hdelivery
  rfl

/-! ## The events -/

inductive Event (Remote : Type*) where
  | OnDeviceLevelChanged (type level : Int)
  | DumpSetSystemLoad (args : List String)
  | RegisterNotifier (pid : Int) (notifier : Option Remote) (hapApp : Bool)
  | UnRegisterNotifier (pid : Int)
  | OnRemoteNotifierDied (notifier : Option Remote)
  | OnApplicationStateChange (state : ApplicationState) (pid : Int)

def Event.isDebug : Event Remote → Bool
  | .DumpSetSystemLoad _ => true
  | _ => false

/-- The level a genuine report brings for the system load, in range or not. -/
def Event.report? : Event Remote → Option Int
  | .OnDeviceLevelChanged type level => if type = SYSTEMLOAD_LEVEL then some level else none
  | _ => none

def lastReport (events : List (Event Remote)) : Option Int :=
  (events.filterMap Event.report?).getLast?

/-- The override a command leaves, given the one before it. -/
def overrideAfter (StrToInt : String → Option Int) (override : Option Int) (args : List String) :
    Option Int :=
  match args with
  | [_, switchStr] =>
      if switchStr = "reset" then none
      else
        match StrToInt switchStr with
        | none => override
        | some level => if 0 ≤ level ∧ level ≤ 7 then some level else override
  | _ => override

/-- The override that is on after the events. -/
def overrideOf (StrToInt : String → Option Int) (events : List (Event Remote)) : Option Int :=
  events.foldl (fun override event =>
    match event with
    | .DumpSetSystemLoad args => overrideAfter StrToInt override args
    | _ => override) none

/-- The level a report passes on when no override is on. -/
def Event.passed? (event : Event Remote) : Option SystemloadLevel :=
  event.report?.bind SystemloadLevel.ofInt?

/-- The last level that a report brought in range. -/
def lastInRange (events : List (Event Remote)) : Option SystemloadLevel :=
  (events.filterMap Event.passed?).getLast?

/-- What an event passes on to the manager, given the override and the last report before it: a
report its level or the override, a command its level, a reset the last report. -/
def passedOn (StrToInt : String → Option Int) (override reported : Option Int) :
    Event Remote → Option SystemloadLevel
  | .OnDeviceLevelChanged type level =>
      if type = SYSTEMLOAD_LEVEL then SystemloadLevel.ofInt? (override.getD level) else none
  | .DumpSetSystemLoad [_, switchStr] =>
      if switchStr = "reset" then SystemloadLevel.ofInt? (reported.getD 0)
      else (StrToInt switchStr).bind SystemloadLevel.ofInt?
  | _ => none

/-- The last level that `events` pass on when they follow `front`. -/
def lastPassed (StrToInt : String → Option Int) (front : List (Event Remote)) :
    List (Event Remote) → Option SystemloadLevel
  | [] => none
  | event :: rest =>
      (lastPassed StrToInt (front ++ [event]) rest).or
        (passedOn StrToInt (overrideOf StrToInt front) (lastReport front) event)

/-- What is saved once `passed` is the last level passed on. -/
def savedAfter (SYSTEMLOAD_FILE : Option String) (passed : Option SystemloadLevel) :
    Option String :=
  (passed.map SystemloadLevel.name).or SYSTEMLOAD_FILE

/-- What the events need for a reset to leave no trace. Without any report for the system load
the saved level is `LOW`, the one a reset falls back to. With the last report out of range, where
the reset has no effect, the last level passed on is the last one reported in range. -/
def TraceErased (StrToInt : String → Option Int) (SYSTEMLOAD_FILE : Option String)
    (events : List (Event Remote)) : Prop :=
  match lastReport events with
  | none => SYSTEMLOAD_FILE = some SystemloadLevel.LOW.name
  | some level => (SystemloadLevel.ofInt? level).isSome ∨
      savedAfter SYSTEMLOAD_FILE (lastPassed StrToInt [] events) =
        savedAfter SYSTEMLOAD_FILE (lastInRange events)

/-! ## Appending an event -/

/-- The override after an event. -/
def overrideStep (StrToInt : String → Option Int) (override : Option Int) :
    Event Remote → Option Int
  | .DumpSetSystemLoad args => overrideAfter StrToInt override args
  | _ => override

theorem overrideOf_concat (StrToInt : String → Option Int) (events : List (Event Remote))
    (event : Event Remote) :
    overrideOf StrToInt (events ++ [event]) =
      overrideStep StrToInt (overrideOf StrToInt events) event := by
  rw [overrideOf, overrideOf, List.foldl_append, List.foldl_cons, List.foldl_nil]
  cases event <;> rfl

theorem lastReport_concat (events : List (Event Remote)) (event : Event Remote) :
    lastReport (events ++ [event]) = event.report?.or (lastReport events) := by
  rw [lastReport, List.filterMap_append]
  cases hreport : event.report? with
  | none => simp [hreport, lastReport]
  | some level => simp [hreport]

theorem lastInRange_concat (events : List (Event Remote)) (event : Event Remote) :
    lastInRange (events ++ [event]) = event.passed?.or (lastInRange events) := by
  rw [lastInRange, List.filterMap_append]
  cases hpassed : event.passed? with
  | none => simp [hpassed, lastInRange]
  | some level => simp [hpassed]

/-- The last report decides which report in range is the last, when it is in range itself. -/
theorem lastInRange_of_lastReport (events : List (Event Remote)) :
    (lastReport events = none → lastInRange events = none) ∧
      ∀ value level, lastReport events = some value →
        SystemloadLevel.ofInt? value = some level → lastInRange events = some level := by
  induction events using List.reverseRecOn with
  | nil => exact ⟨fun _ => rfl, by simp [lastReport]⟩
  | append_singleton events event ih =>
      rw [lastReport_concat, lastInRange_concat, Event.passed?]
      cases event.report? with
      | none => exact ih
      | some report =>
          refine ⟨by simp, ?_⟩
          intro value level hvalue hlevel
          obtain rfl : report = value := by simpa using hvalue
          simp [hlevel]

theorem lastPassed_concat (StrToInt : String → Option Int) (front events : List (Event Remote))
    (event : Event Remote) :
    lastPassed StrToInt front (events ++ [event]) =
      (passedOn StrToInt (overrideOf StrToInt (front ++ events)) (lastReport (front ++ events))
        event).or (lastPassed StrToInt front events) := by
  induction events generalizing front with
  | nil => simp [lastPassed]
  | cons head rest ih =>
      rw [List.cons_append, lastPassed, ih, lastPassed, Option.or_assoc]
      simp only [List.append_assoc, List.singleton_append]

/-! ## The run without debug commands -/

theorem filter_concat_debug {event : Event Remote} (h : event.isDebug = true)
    (events : List (Event Remote)) :
    ((events ++ [event]).filter fun event => !event.isDebug) =
      events.filter fun event => !event.isDebug := by
  simp [List.filter_append, h]

theorem filter_concat_genuine {event : Event Remote} (h : event.isDebug = false)
    (events : List (Event Remote)) :
    ((events ++ [event]).filter fun event => !event.isDebug) =
      (events.filter fun event => !event.isDebug) ++ [event] := by
  simp [List.filter_append, h]

theorem overrideStep_genuine {event : Event Remote} (h : event.isDebug = false)
    (StrToInt : String → Option Int) (override : Option Int) :
    overrideStep StrToInt override event = override := by
  cases event with
  | DumpSetSystemLoad args => cases h
  | _ => rfl

theorem passed?_debug {event : Event Remote} (h : event.isDebug = true) :
    event.passed? = none := by
  cases event with
  | DumpSetSystemLoad args => rfl
  | _ => cases h

theorem passedOn_genuine {event : Event Remote} (h : event.isDebug = false)
    (StrToInt : String → Option Int) (reported : Option Int) :
    passedOn StrToInt none reported event = event.passed? := by
  cases event with
  | DumpSetSystemLoad args => cases h
  | OnDeviceLevelChanged type level =>
      rw [passedOn, Event.passed?, Event.report?, Option.getD_none]
      by_cases htype : type = SYSTEMLOAD_LEVEL
      · simp [htype]
      · simp [htype]
  | _ => rfl

theorem overrideOf_filter (StrToInt : String → Option Int) (events : List (Event Remote)) :
    overrideOf StrToInt (events.filter fun event => !event.isDebug) = none := by
  induction events using List.reverseRecOn with
  | nil => rfl
  | append_singleton events event ih =>
      cases hdebug : event.isDebug with
      | true => rw [filter_concat_debug hdebug, ih]
      | false =>
          rw [filter_concat_genuine hdebug, overrideOf_concat, overrideStep_genuine hdebug, ih]

theorem lastPassed_filter (StrToInt : String → Option Int) (events : List (Event Remote)) :
    lastPassed StrToInt [] (events.filter fun event => !event.isDebug) = lastInRange events := by
  induction events using List.reverseRecOn with
  | nil => rfl
  | append_singleton events event ih =>
      rw [lastInRange_concat]
      cases hdebug : event.isDebug with
      | true => rw [filter_concat_debug hdebug, passed?_debug hdebug, ih, Option.none_or]
      | false =>
          rw [filter_concat_genuine hdebug, lastPassed_concat, List.nil_append, overrideOf_filter,
            passedOn_genuine hdebug, ih]

/-! ## The service after a report or a command -/

/-- The override is on in the service as in the events, and is what the manager holds. -/
structure OverrideInv (service : Service Remote) (override : Option Int) : Prop where
  handler : service.notifierMgr.notifierHandler_ = true
  enabled : service.systemLoadLevelDebugEnable_ = override.isSome
  level : ∀ level, override = some level → service.debugSystemLoadLevel_ = level ∧
    SystemloadLevel.ofInt? level = some service.notifierMgr.systemloadLevel_

/-- An event keeps the override, and delivers only its level while it is on. -/
structure OverrideStep (before : Service Remote) (override : Option Int)
    (after : Service Remote) : Prop where
  inv : OverrideInv after override
  delivered : ∀ level, override = some level →
    ∀ delivery ∈ after.notifierMgr.delivered.drop before.notifierMgr.delivered.length,
      delivery.2.toInt = level

/-- Nothing but the level of the override is passed on while it is on. -/
theorem overrideStep_of_passed {before after : Service Remote} {override : Option Int}
    {passed : Option SystemloadLevel} {P : SystemloadLevel → Prop}
    (hinv : OverrideInv before override)
    (hpassed : Passed before.notifierMgr passed P after.notifierMgr)
    (henable : after.systemLoadLevelDebugEnable_ = before.systemLoadLevelDebugEnable_)
    (hdebug : after.debugSystemLoadLevel_ = before.debugSystemLoadLevel_)
    (hsame : ∀ level, override = some level →
      passed = none ∨ passed = some before.notifierMgr.systemloadLevel_)
    (hP : ∀ level, override = some level →
      ∀ delivered, P delivered → delivered = before.notifierMgr.systemloadLevel_) :
    OverrideStep before override after := by
  refine ⟨⟨hpassed.handler.trans hinv.handler, henable.trans hinv.enabled, ?_⟩, ?_⟩
  · intro level hlevel
    obtain ⟨hold, hheld⟩ := hinv.level level hlevel
    refine ⟨hdebug.trans hold, ?_⟩
    rw [hpassed.level]
    rcases hsame level hlevel with hnone | hsome
    · rw [hnone, Option.getD_none, hheld]
    · rw [hsome, Option.getD_some, hheld]
  · intro level hlevel delivery hdelivery
    rw [hP level hlevel delivery.2 (hpassed.delivered delivery hdelivery)]
    exact toInt_of_ofInt? (hinv.level level hlevel).2

/-- What a report passes on: the level of the override, or its own. -/
theorem OverrideInv.followed {service : Service Remote} {override : Option Int}
    (hinv : OverrideInv service override) (level : Int) :
    (if service.systemLoadLevelDebugEnable_ then service.debugSystemLoadLevel_ else level) =
      override.getD level := by
  rw [hinv.enabled]
  cases hoverride : override with
  | none => simp
  | some overridden => simp [(hinv.level overridden hoverride).1]

theorem overrideStep_report {service : Service Remote} {override : Option Int}
    (hinv : OverrideInv service override) (type level : Int) :
    OverrideStep service override (OnDeviceLevelChanged service type level false) := by
  rw [OnDeviceLevelChanged, hinv.followed]
  by_cases htype : type = SYSTEMLOAD_LEVEL
  · rw [if_pos htype, htype]
    have hheld : ∀ overridden, override = some overridden →
        NotifierMgr.reportedLevel SYSTEMLOAD_LEVEL (override.getD level) =
          some service.notifierMgr.systemloadLevel_ := by
      intro overridden hoverride
      rw [reportedLevel_systemload, hoverride, Option.getD_some]
      exact (hinv.level overridden hoverride).2
    refine overrideStep_of_passed hinv
      (passed_OnDeviceLevelChanged hinv.handler SYSTEMLOAD_LEVEL _) rfl rfl ?_ ?_
    · intro overridden hoverride
      exact .inr (hheld overridden hoverride)
    · intro overridden hoverride delivered hdelivered
      rw [hheld overridden hoverride] at hdelivered
      exact (Option.some.inj hdelivered).symm
  · have hnone : NotifierMgr.reportedLevel type level = none := by
      rw [NotifierMgr.reportedLevel, if_pos htype]
    rw [if_neg htype]
    refine overrideStep_of_passed hinv (passed_OnDeviceLevelChanged hinv.handler type level)
      rfl rfl (fun _ _ => .inl hnone) ?_
    intro _ _ delivered hdelivered
    rw [hnone] at hdelivered
    cases hdelivered

theorem overrideStep_same {service : Service Remote} {override : Option Int}
    (hinv : OverrideInv service override) : OverrideStep service override service :=
  ⟨hinv, by simp⟩

/-- What a command does: a reset hands the actual level on, a level in range overrides it, and
anything else changes nothing. -/
theorem DumpSetSystemLoad_eq (StrToInt : String → Option Int) (service : Service Remote)
    (args : List String) :
    (DumpSetSystemLoad StrToInt service args).1 =
      match args with
      | [_, switchStr] =>
          if switchStr = "reset" then
            OnDeviceLevelChanged
              { service with
                systemLoadLevelDebugEnable_ := false
                debugSystemLoadLevel_ := 0 }
              SYSTEMLOAD_LEVEL service.actualSystemLoadLevel_ false
          else
            match StrToInt switchStr with
            | none => service
            | some level =>
                if 0 ≤ level ∧ level ≤ 7 then
                  OnDeviceLevelChanged
                    { service with
                      systemLoadLevelDebugEnable_ := true
                      debugSystemLoadLevel_ := level }
                    SYSTEMLOAD_LEVEL level true
                else service
      | _ => service := by
  match args with
  | [] => rfl
  | [_] => rfl
  | [first, switchStr] =>
      simp only [DumpSetSystemLoad, DUMP_PARAM_INDEX, List.length_cons, List.length_nil,
        if_true, List.getD_cons_succ, List.getD_cons_zero]
      by_cases hreset : switchStr = "reset"
      · rw [if_pos hreset, if_pos hreset]
      · rw [if_neg hreset, if_neg hreset]
        cases StrToInt switchStr with
        | none => rfl
        | some level =>
            simp only [DEBUG_LEVEL_MAXIMUM, DEBUG_LEVEL_MINIMUM, and_comm]
            split_ifs <;> rfl
  | _ :: _ :: _ :: _ =>
      rw [DumpSetSystemLoad, if_neg]
      simp [DUMP_PARAM_INDEX]

theorem overrideStep_dump {service : Service Remote} {override : Option Int}
    (hinv : OverrideInv service override) (StrToInt : String → Option Int)
    (args : List String) :
    OverrideStep service (overrideAfter StrToInt override args)
      (DumpSetSystemLoad StrToInt service args).1 := by
  rw [DumpSetSystemLoad_eq]
  match args with
  | [] => exact overrideStep_same hinv
  | [_] => exact overrideStep_same hinv
  | [first, switchStr] =>
      simp only [overrideAfter]
      by_cases hreset : switchStr = "reset"
      · simp only [if_pos hreset, OnDeviceLevelChanged, if_true]
        have hpassed := passed_OnDeviceLevelChanged hinv.handler SYSTEMLOAD_LEVEL
          service.actualSystemLoadLevel_
        exact ⟨⟨hpassed.handler.trans hinv.handler, rfl, by simp⟩, by simp⟩
      · simp only [if_neg hreset]
        cases StrToInt switchStr with
        | none => exact overrideStep_same hinv
        | some level =>
            by_cases hrange : 0 ≤ level ∧ level ≤ 7
            · obtain ⟨held, hheld⟩ :=
                Option.isSome_iff_exists.mp ((ofInt?_isSome_iff level).mpr hrange)
              have hpassed := passed_OnDeviceLevelChanged hinv.handler SYSTEMLOAD_LEVEL level
              rw [reportedLevel_systemload, hheld] at hpassed
              simp only [if_pos hrange, OnDeviceLevelChanged, if_true]
              refine ⟨⟨hpassed.handler.trans hinv.handler, rfl, ?_⟩, ?_⟩
              · intro set hset
                obtain rfl := Option.some.inj hset
                refine ⟨rfl, ?_⟩
                rw [hheld, hpassed.level, Option.getD_some]
              · intro set hset delivery hdelivery
                obtain rfl := Option.some.inj hset
                rw [← Option.some.inj (hpassed.delivered delivery hdelivery)]
                exact toInt_of_ofInt? hheld
            · simp only [if_neg hrange]
              exact overrideStep_same hinv
  | _ :: _ :: _ :: _ => exact overrideStep_same hinv

theorem actual_OnDeviceLevelChanged (service : Service Remote) (type level : Int)
    (debugReport : Bool) :
    (OnDeviceLevelChanged service type level debugReport).actualSystemLoadLevel_ =
      if type = SYSTEMLOAD_LEVEL ∧ debugReport = false then level
      else service.actualSystemLoadLevel_ := by
  rw [OnDeviceLevelChanged]
  by_cases htype : type = SYSTEMLOAD_LEVEL
  · cases debugReport <;> simp [htype]
  · simp [htype]

/-- A debug command keeps the actual level. -/
theorem actual_DumpSetSystemLoad (StrToInt : String → Option Int) (service : Service Remote)
    (args : List String) :
    (DumpSetSystemLoad StrToInt service args).1.actualSystemLoadLevel_ =
      service.actualSystemLoadLevel_ := by
  rw [DumpSetSystemLoad_eq]
  match args with
  | [] => rfl
  | [_] => rfl
  | [first, switchStr] =>
      dsimp only
      split_ifs
      · simp [actual_OnDeviceLevelChanged]
      · cases StrToInt switchStr with
        | none => rfl
        | some level =>
            dsimp only
            split_ifs
            · simp [actual_OnDeviceLevelChanged]
            · rfl
  | _ :: _ :: _ :: _ => rfl

theorem passed_dump {service : Service Remote} {override reported : Option Int}
    (hinv : OverrideInv service override)
    (hactual : service.actualSystemLoadLevel_ = reported.getD 0)
    (StrToInt : String → Option Int) (args : List String) :
    ∃ P, Passed service.notifierMgr
      (passedOn StrToInt override reported (.DumpSetSystemLoad args : Event Remote)) P
      (DumpSetSystemLoad StrToInt service args).1.notifierMgr := by
  have hsame : ∃ P, Passed service.notifierMgr none P service.notifierMgr :=
    ⟨fun _ => True, passed_same _ _⟩
  rw [DumpSetSystemLoad_eq]
  match args with
  | [] => exact hsame
  | [_] => exact hsame
  | [first, switchStr] =>
      simp only [passedOn]
      by_cases hreset : switchStr = "reset"
      · have hpassed := passed_OnDeviceLevelChanged hinv.handler SYSTEMLOAD_LEVEL
          service.actualSystemLoadLevel_
        rw [reportedLevel_systemload, hactual] at hpassed
        simp only [if_pos hreset, OnDeviceLevelChanged, if_true, hactual]
        exact ⟨_, hpassed⟩
      · simp only [if_neg hreset]
        cases StrToInt switchStr with
        | none => exact hsame
        | some level =>
            by_cases hrange : 0 ≤ level ∧ level ≤ 7
            · have hpassed := passed_OnDeviceLevelChanged hinv.handler SYSTEMLOAD_LEVEL level
              rw [reportedLevel_systemload] at hpassed
              simp only [if_pos hrange, OnDeviceLevelChanged, if_true]
              exact ⟨_, hpassed⟩
            · have hnone : SystemloadLevel.ofInt? level = none := by
                rwa [← ofInt?_isSome_iff, Option.not_isSome_iff_eq_none] at hrange
              simp only [if_neg hrange, Option.bind_some, hnone]
              exact hsame
  | _ :: _ :: _ :: _ => exact hsame

/-! ## Runs of the service -/

section

variable [DecidableEq Remote]

def Service.withMgr (service : Service Remote) (mgr : NotifierMgr.Mgr Remote) :
    Service Remote :=
  { service with notifierMgr := mgr }

def step (StrToInt : String → Option Int) (service : Service Remote) :
    Event Remote → Service Remote
  | .OnDeviceLevelChanged type level => OnDeviceLevelChanged service type level false
  | .DumpSetSystemLoad args => (DumpSetSystemLoad StrToInt service args).1
  | .RegisterNotifier pid notifier hapApp =>
      service.withMgr (NotifierMgr.RegisterNotifier service.notifierMgr pid notifier hapApp)
  | .UnRegisterNotifier pid =>
      service.withMgr (NotifierMgr.UnRegisterNotifier service.notifierMgr pid)
  | .OnRemoteNotifierDied notifier =>
      service.withMgr (NotifierMgr.OnRemoteNotifierDied service.notifierMgr notifier)
  | .OnApplicationStateChange state pid =>
      service.withMgr (NotifierMgr.OnApplicationStateChange service.notifierMgr state pid)

/-- The command `setSystemLoadLevel reset`. -/
def reset : Event Remote :=
  .DumpSetSystemLoad ["setSystemLoadLevel", "reset"]

/-- What can be observed of the level: the one the notifier manager holds, the one the service
returns, and the one that is saved. -/
def Service.observed (service : Service Remote) : SystemloadLevel × Int × Option String :=
  (service.notifierMgr.systemloadLevel_, GetSystemloadLevel service,
    service.notifierMgr.SYSTEMLOAD_FILE)

/-- After a final reset nothing tells the run from the one without any debug command. -/
def LeavesNoTrace (StrToInt : String → Option Int) (SYSTEMLOAD_FILE : Option String)
    (events : List (Event Remote)) : Prop :=
  (run (step StrToInt) (Service.start SYSTEMLOAD_FILE) (events ++ [reset])).observed =
    (run (step StrToInt) (Service.start SYSTEMLOAD_FILE)
      (events.filter fun event => !event.isDebug)).observed

/-- While an override is on, the service returns its level, and so does every notification of
the event handled last. -/
def OverrideHeld (StrToInt : String → Option Int) (SYSTEMLOAD_FILE : Option String)
    (events : List (Event Remote)) (event : Event Remote) : Prop :=
  ∀ level, overrideOf StrToInt (events ++ [event]) = some level →
    let before := run (step StrToInt) (Service.start SYSTEMLOAD_FILE) events
    let after := step StrToInt before event
    GetSystemloadLevel after = level ∧
      ∀ delivery ∈ after.notifierMgr.delivered.drop before.notifierMgr.delivered.length,
        delivery.2.toInt = level

/-! ## The override -/

theorem overrideStep_step {service : Service Remote} {override : Option Int}
    (hinv : OverrideInv service override) (StrToInt : String → Option Int)
    (event : Event Remote) :
    OverrideStep service (overrideStep StrToInt override event) (step StrToInt service event) := by
  have hnone : ∀ level, override = some level → (none : Option SystemloadLevel) = none ∨
      none = some service.notifierMgr.systemloadLevel_ := fun _ _ => .inl rfl
  cases event with
  | OnDeviceLevelChanged type level => exact overrideStep_report hinv type level
  | DumpSetSystemLoad args => exact overrideStep_dump hinv StrToInt args
  | RegisterNotifier pid notifier hapApp =>
      exact overrideStep_of_passed hinv (passed_RegisterNotifier _ pid notifier hapApp _)
        rfl rfl hnone (fun _ _ _ h => h)
  | UnRegisterNotifier pid =>
      exact overrideStep_of_passed hinv (passed_UnRegisterNotifier _ pid _)
        rfl rfl hnone (fun _ _ _ h => h)
  | OnRemoteNotifierDied notifier =>
      exact overrideStep_of_passed hinv (passed_OnRemoteNotifierDied _ notifier _)
        rfl rfl hnone (fun _ _ _ h => h)
  | OnApplicationStateChange state pid =>
      exact overrideStep_of_passed hinv (passed_OnApplicationStateChange _ state pid)
        rfl rfl hnone (fun _ _ _ h => h.symm)

theorem overrideInv_run (StrToInt : String → Option Int) (SYSTEMLOAD_FILE : Option String)
    (events : List (Event Remote)) :
    OverrideInv (run (step StrToInt) (Service.start SYSTEMLOAD_FILE) events)
      (overrideOf StrToInt events) := by
  induction events using List.reverseRecOn with
  | nil => exact ⟨rfl, rfl, by simp [overrideOf]⟩
  | append_singleton events event ih =>
      rw [run_concat, overrideOf_concat]
      exact (overrideStep_step ih StrToInt event).inv

theorem overrideHeld (StrToInt : String → Option Int) (SYSTEMLOAD_FILE : Option String)
    (events : List (Event Remote)) (event : Event Remote) :
    OverrideHeld StrToInt SYSTEMLOAD_FILE events event := by
  intro level hlevel
  rw [overrideOf_concat] at hlevel
  have hstep := overrideStep_step (overrideInv_run StrToInt SYSTEMLOAD_FILE events) StrToInt event
  refine ⟨?_, hstep.delivered level hlevel⟩
  rw [GetSystemloadLevel, if_pos]
  · exact (hstep.inv.level level hlevel).1
  · rw [hstep.inv.enabled, hlevel, Option.isSome_some]

/-! ## The level that is held -/

/-- The actual level is the one last reported, and 0 before any report. -/
theorem actual_run (StrToInt : String → Option Int) (SYSTEMLOAD_FILE : Option String)
    (events : List (Event Remote)) :
    (run (step StrToInt) (Service.start SYSTEMLOAD_FILE) events).actualSystemLoadLevel_ =
      (lastReport events).getD 0 := by
  induction events using List.reverseRecOn with
  | nil => rfl
  | append_singleton events event ih =>
      rw [run_concat, lastReport_concat]
      cases event with
      | OnDeviceLevelChanged type level =>
          rw [step, actual_OnDeviceLevelChanged, Event.report?]
          by_cases htype : type = SYSTEMLOAD_LEVEL
          · simp [htype]
          · simpa [htype] using ih
      | DumpSetSystemLoad args =>
          rw [step, actual_DumpSetSystemLoad]
          exact ih
      | _ => exact ih

theorem passed_step {service : Service Remote} {override reported : Option Int}
    (hinv : OverrideInv service override)
    (hactual : service.actualSystemLoadLevel_ = reported.getD 0)
    (StrToInt : String → Option Int) (event : Event Remote) :
    ∃ P, Passed service.notifierMgr (passedOn StrToInt override reported event) P
      (step StrToInt service event).notifierMgr := by
  cases event with
  | OnDeviceLevelChanged type level =>
      rw [step, OnDeviceLevelChanged, hinv.followed, passedOn]
      by_cases htype : type = SYSTEMLOAD_LEVEL
      · have hpassed := passed_OnDeviceLevelChanged hinv.handler SYSTEMLOAD_LEVEL
          (override.getD level)
        rw [reportedLevel_systemload] at hpassed
        rw [if_pos htype, if_pos htype, htype]
        exact ⟨_, hpassed⟩
      · have hpassed := passed_OnDeviceLevelChanged hinv.handler type level
        rw [NotifierMgr.reportedLevel, if_pos htype] at hpassed
        rw [if_neg htype, if_neg htype]
        exact ⟨_, hpassed⟩
  | DumpSetSystemLoad args => exact passed_dump hinv hactual StrToInt args
  | RegisterNotifier pid notifier hapApp =>
      exact ⟨fun _ => True, passed_RegisterNotifier _ pid notifier hapApp _⟩
  | UnRegisterNotifier pid => exact ⟨fun _ => True, passed_UnRegisterNotifier _ pid _⟩
  | OnRemoteNotifierDied notifier =>
      exact ⟨fun _ => True, passed_OnRemoteNotifierDied _ notifier _⟩
  | OnApplicationStateChange state pid =>
      exact ⟨_, passed_OnApplicationStateChange _ state pid⟩

/-- The manager holds and has saved the last level passed on, or what was loaded. -/
theorem held_run (StrToInt : String → Option Int) (SYSTEMLOAD_FILE : Option String)
    (events : List (Event Remote)) :
    (run (step StrToInt) (Service.start SYSTEMLOAD_FILE) events).notifierMgr.systemloadLevel_ =
        (lastPassed StrToInt [] events).getD
          ((SYSTEMLOAD_FILE.bind SystemloadLevel.ofName?).getD .LOW) ∧
      (run (step StrToInt) (Service.start SYSTEMLOAD_FILE) events).notifierMgr.SYSTEMLOAD_FILE =
        savedAfter SYSTEMLOAD_FILE (lastPassed StrToInt [] events) := by
  induction events using List.reverseRecOn with
  | nil => exact ⟨rfl, rfl⟩
  | append_singleton events event ih =>
      obtain ⟨P, hpassed⟩ := passed_step (overrideInv_run StrToInt SYSTEMLOAD_FILE events)
        (actual_run StrToInt SYSTEMLOAD_FILE events) StrToInt event
      rw [run_concat, lastPassed_concat, List.nil_append, hpassed.level, hpassed.file, ih.1, ih.2]
      cases passedOn StrToInt (overrideOf StrToInt events) (lastReport events) event <;>
        exact ⟨rfl, rfl⟩

/-! ## Main result -/

/-- What is saved tells the level that is held. -/
theorem held_of_savedAfter (SYSTEMLOAD_FILE : Option String) (passed : Option SystemloadLevel) :
    passed.getD ((SYSTEMLOAD_FILE.bind SystemloadLevel.ofName?).getD .LOW) =
      ((savedAfter SYSTEMLOAD_FILE passed).bind SystemloadLevel.ofName?).getD .LOW := by
  cases passed with
  | none => rfl
  | some level => cases level <;> rfl

/-- Two runs that end without an override are observed alike when what they have saved is the
same. -/
theorem observed_eq_iff (StrToInt : String → Option Int) (SYSTEMLOAD_FILE : Option String)
    {events events' : List (Event Remote)} (h : overrideOf StrToInt events = none)
    (h' : overrideOf StrToInt events' = none) :
    (run (step StrToInt) (Service.start SYSTEMLOAD_FILE) events).observed =
        (run (step StrToInt) (Service.start SYSTEMLOAD_FILE) events').observed ↔
      savedAfter SYSTEMLOAD_FILE (lastPassed StrToInt [] events) =
        savedAfter SYSTEMLOAD_FILE (lastPassed StrToInt [] events') := by
  have hoff := (overrideInv_run StrToInt SYSTEMLOAD_FILE events).enabled
  have hoff' := (overrideInv_run StrToInt SYSTEMLOAD_FILE events').enabled
  obtain ⟨hlevel, hfile⟩ := held_run StrToInt SYSTEMLOAD_FILE events
  obtain ⟨hlevel', hfile'⟩ := held_run StrToInt SYSTEMLOAD_FILE events'
  rw [h, Option.isSome_none] at hoff
  rw [h', Option.isSome_none] at hoff'
  simp only [Service.observed, GetSystemloadLevel, NotifierMgr.GetSystemloadLevel, hoff, hoff',
    Bool.false_eq_true, if_false, Prod.mk.injEq, hlevel, hlevel', hfile, hfile',
    held_of_savedAfter]
  constructor
  · intro heq
    exact heq.2.2
  · intro heq
    rw [heq]
    exact ⟨rfl, rfl, rfl⟩

theorem leavesNoTrace_iff (StrToInt : String → Option Int) (SYSTEMLOAD_FILE : Option String)
    (events : List (Event Remote)) :
    LeavesNoTrace StrToInt SYSTEMLOAD_FILE events ↔
      TraceErased StrToInt SYSTEMLOAD_FILE events := by
  have hclosed : overrideOf StrToInt (events ++ [reset]) = none := by
    rw [overrideOf_concat]
    rfl
  have hreset : passedOn StrToInt (overrideOf StrToInt events) (lastReport events)
      (reset : Event Remote) = SystemloadLevel.ofInt? ((lastReport events).getD 0) := rfl
  rw [LeavesNoTrace, observed_eq_iff StrToInt SYSTEMLOAD_FILE hclosed
    (overrideOf_filter StrToInt events), lastPassed_filter, lastPassed_concat, List.nil_append,
    hreset, TraceErased]
  obtain ⟨hnever, hlast⟩ := lastInRange_of_lastReport events
  cases hreport : lastReport events with
  | none =>
      have hzero : SystemloadLevel.ofInt? 0 = some .LOW := rfl
      rw [hnever hreport, Option.getD_none, hzero, Option.some_or, savedAfter, savedAfter,
        Option.map_some, Option.map_none, Option.some_or, Option.none_or]
      exact eq_comm
  | some value =>
      rw [Option.getD_some]
      cases hrange : SystemloadLevel.ofInt? value with
      | none => simp [hrange]
      | some level => simp [hrange, hlast value level hreport hrange]

/-- A run that ends with a reset leaves no trace if and only if the last report is in range, or
there was none and `LOW` is what was saved, or it is out of range and the last level passed on is
the last one reported in range. While an override is on, its level is returned and delivered. -/
theorem debug_override_exact (StrToInt : String → Option Int) (SYSTEMLOAD_FILE : Option String)
    (events : List (Event Remote)) :
    (LeavesNoTrace StrToInt SYSTEMLOAD_FILE events ↔
      TraceErased StrToInt SYSTEMLOAD_FILE events) ∧
    ∀ event, OverrideHeld StrToInt SYSTEMLOAD_FILE events event :=
  ⟨leavesNoTrace_iff StrToInt SYSTEMLOAD_FILE events,
    overrideHeld StrToInt SYSTEMLOAD_FILE events⟩

/-- The service starts with `HIGH` saved, and a reset sets the level to `LOW` and saves it. -/
theorem debug_override_counterexample :
    ¬ ∀ (StrToInt : String → Option Int) (SYSTEMLOAD_FILE : Option String)
        (events : List (Event Nat)),
      LeavesNoTrace StrToInt SYSTEMLOAD_FILE events ∧
        ∀ event, OverrideHeld StrToInt SYSTEMLOAD_FILE events event := by
  intro h
  have htrace := (h (fun _ => some 5) (some "HIGH")
    [.DumpSetSystemLoad ["setSystemLoadLevel", "5"]]).1
  exact absurd htrace (by unfold LeavesNoTrace; decide)

end

end ResSched.SystemLoad
