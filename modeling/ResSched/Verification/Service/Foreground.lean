import ResSched.Library.Transition
import ResSched.Model.Service.Foreground
import ResSched.Model.Service.Permission

/-! # The foreground set and the states of the applications -/

namespace ResSched.Service.Foreground

open Transition

/-! ## The specification -/

/-- The set once the notifications on their way are handled. -/
def handled (inFlight : List Notification) (foregroundPids_ : Finset Int) : Finset Int :=
  inFlight.foldl
    (fun foregroundPids_ notification =>
      OnApplicationStateChange notification.state notification.pid foregroundPids_)
    foregroundPids_

def World.isForeground (world : World) (pid : Int) : Prop :=
  world.states.lookup pid = some .APP_STATE_FOREGROUND

instance (world : World) (pid : Int) : Decidable (world.isForeground pid) :=
  inferInstanceAs (Decidable (_ = _))

/-- After `InitForegroundAppInfo`, once all notifications are handled: the set holds the
foreground applications, and these are the applications a foreground type is accepted from. -/
structure Accurate (world : World) : Prop where
  pids : ∀ pid, pid ∈ handled world.inFlight world.foregroundPids_ ↔ world.isForeground pid
  accepted : ∀ (tables : ReportTables) (caller : Caller) (type : Nat),
    type ∈ tables.allowAllAppReportRes → type ∈ tables.allowFgAppReportRes →
      (IsThirdPartType tables
          (IsForegroundApp (handled world.inFlight world.foregroundPids_)) caller type = true ↔
        caller.tokenType = .TOKEN_HAP ∧ world.isForeground caller.pid)

def AccurateWhenHandled (world : World) : Prop :=
  world.fgapplist = none → world.initialised = true → Accurate world

/-- What a notification does to `pid` in the set, when it changes anything. -/
def effect (pid : Int) (notification : Notification) : Option Bool :=
  if notification.pid = pid then
    if notification.state = .APP_STATE_FOREGROUND then some true
    else if notification.state.leavesForeground then some false
    else none
  else none

/-- What the notifications do to `pid` in the set: the last that changes anything decides. -/
def verdict (pid : Int) : List Notification → Option Bool
  | [] => none
  | notification :: rest => (verdict pid rest).or (effect pid notification)

/-- A step keeps the set accurate: an application that is foreground does not move to a state
that no manager tells apart; and when the snapshot is inserted, every application that is not
foreground has its leaving on the way, or is in neither the set nor the snapshot. -/
def AccuracyKept (world : World) : Event → Prop
  | .changeState (.other _) pid =>
      world.fgapplist = none → world.initialised = true → ¬ world.isForeground pid
  | .changeState _ _ => True
  | .handleNotification => True
  | .GetForegroundApplications _ => True
  | .insertForegroundApps =>
      ∀ fgapplist, world.fgapplist = some fgapplist → ∀ pid, ¬ world.isForeground pid →
        verdict pid world.inFlight = some false ∨
          verdict pid world.inFlight = none ∧ pid ∉ world.foregroundPids_ ∧ pid ∉ fgapplist

/-! ## The set after the notifications -/

theorem mem_OnApplicationStateChange (notification : Notification)
    (foregroundPids_ : Finset Int) (pid : Int) :
    pid ∈ OnApplicationStateChange notification.state notification.pid foregroundPids_ ↔
      (effect pid notification).getD (decide (pid ∈ foregroundPids_)) = true := by
  rw [OnApplicationStateChange, effect]
  by_cases hpid : notification.pid = pid
  · cases notification.state <;> simp [ApplicationState.leavesForeground, hpid] <;> grind
  · cases notification.state <;> simp [ApplicationState.leavesForeground, hpid] <;> grind

theorem mem_handled (inFlight : List Notification) (foregroundPids_ : Finset Int) (pid : Int) :
    pid ∈ handled inFlight foregroundPids_ ↔
      (verdict pid inFlight).getD (decide (pid ∈ foregroundPids_)) = true := by
  induction inFlight generalizing foregroundPids_ with
  | nil => simp [handled, verdict]
  | cons notification rest ih =>
      have hcons : handled (notification :: rest) foregroundPids_ = handled rest
          (OnApplicationStateChange notification.state notification.pid foregroundPids_) := rfl
      rw [hcons, ih, verdict]
      cases verdict pid rest with
      | none => simp [mem_OnApplicationStateChange]
      | some stays => rfl

theorem verdict_concat (inFlight : List Notification) (notification : Notification) (pid : Int) :
    verdict pid (inFlight ++ [notification]) =
      (effect pid notification).or (verdict pid inFlight) := by
  induction inFlight with
  | nil => simp [verdict]
  | cons head rest ih => simp [verdict, ih, Option.or_assoc]

theorem mem_insertForegroundApps (foregroundPids_ : Finset Int) (fgapplist : List Int)
    (pid : Int) :
    pid ∈ insertForegroundApps foregroundPids_ fgapplist ↔
      pid ∈ foregroundPids_ ∨ pid ∈ fgapplist := by
  induction fgapplist generalizing foregroundPids_ with
  | nil => simp [insertForegroundApps]
  | cons head rest ih =>
      have hcons : insertForegroundApps foregroundPids_ (head :: rest) =
          insertForegroundApps
            (if head ∉ foregroundPids_ then insert head foregroundPids_ else foregroundPids_)
            rest := rfl
      rw [hcons, ih, List.mem_cons]
      split_ifs with hmem
      · grind
      · rw [Finset.mem_insert]
        tauto

theorem mem_foregroundApplications (states : AssocMap Int ApplicationState) (pid : Int) :
    pid ∈ foregroundApplications states ↔ states.lookup pid = some .APP_STATE_FOREGROUND := by
  rw [← AssocMap.mem_entries_iff, foregroundApplications, List.mem_map]
  constructor
  · rintro ⟨⟨pid', state⟩, hentry, rfl⟩
    obtain ⟨hmem, hstate⟩ := List.mem_filter.mp hentry
    obtain rfl : state = .APP_STATE_FOREGROUND := by simpa using hstate
    exact hmem
  · intro hmem
    exact ⟨⟨pid, .APP_STATE_FOREGROUND⟩, List.mem_filter.mpr ⟨hmem, by simp⟩, rfl⟩

/-! ## No foreground application is missed -/

/-- A foreground application that is not in the set is about to be put there. -/
structure Covered (world : World) (pid : Int) : Prop where
  stays : verdict pid world.inFlight ≠ some false
  arrives : verdict pid world.inFlight = none → pid ∈ world.foregroundPids_ ∨
    (∃ fgapplist, world.fgapplist = some fgapplist ∧ pid ∈ fgapplist) ∨
      world.fgapplist = none ∧ world.initialised = false

def NoneMissed (world : World) : Prop :=
  ∀ pid, world.isForeground pid → Covered world pid

theorem noneMissed_start (states : AssocMap Int ApplicationState) :
    NoneMissed (World.start states) := by
  intro pid _
  constructor
  · simp [World.start, verdict]
  · intro _
    exact .inr (.inr ⟨rfl, rfl⟩)

theorem isForeground_changeState (world : World) (state : ApplicationState) (pid pid' : Int) :
    (step world (.changeState state pid')).isForeground pid ↔
      if pid = pid' then state = .APP_STATE_FOREGROUND else world.isForeground pid := by
  rw [World.isForeground, step, AssocMap.lookup_insert_ite]
  split_ifs
  · simp
  · rfl

theorem noneMissed_changeState (world : World) (state : ApplicationState) (pid' : Int)
    (hinv : NoneMissed world) : NoneMissed (step world (.changeState state pid')) := by
  intro pid hforeground
  rw [isForeground_changeState] at hforeground
  have hverdict : verdict pid (step world (.changeState state pid')).inFlight =
      (effect pid ⟨state, pid'⟩).or (verdict pid world.inFlight) :=
    verdict_concat world.inFlight ⟨state, pid'⟩ pid
  by_cases hpid : pid = pid'
  · rw [if_pos hpid] at hforeground
    have heffect : effect pid ⟨state, pid'⟩ = some true := by
      rw [effect, if_pos hpid.symm, if_pos hforeground]
    rw [heffect] at hverdict
    constructor
    · simp [hverdict]
    · simp [hverdict]
  · rw [if_neg hpid] at hforeground
    have heffect : effect pid ⟨state, pid'⟩ = none := by
      rw [effect, if_neg (Ne.symm hpid)]
    rw [heffect, Option.none_or] at hverdict
    obtain ⟨hstays, harrives⟩ := hinv pid hforeground
    rw [← hverdict] at hstays harrives
    exact ⟨hstays, harrives⟩

theorem noneMissed_handleNotification (world : World) (hinv : NoneMissed world) :
    NoneMissed (step world .handleNotification) := by
  rw [step]
  split
  · exact hinv
  · rename_i notification rest hqueue
    intro pid hforeground
    obtain ⟨hstays, harrives⟩ := hinv pid hforeground
    rw [hqueue, verdict] at hstays harrives
    constructor
    · intro hleft
      rw [hleft] at hstays
      exact hstays rfl
    · intro hnone
      have hnone' : verdict pid rest = none := hnone
      rw [hnone', Option.none_or] at hstays harrives
      cases heffect : effect pid notification with
      | none =>
          refine (harrives heffect).imp_left ?_
          intro hmem
          rw [mem_OnApplicationStateChange, heffect]
          simpa using hmem
      | some stays =>
          cases stays with
          | false => exact absurd heffect hstays
          | true =>
              left
              rw [mem_OnApplicationStateChange, heffect]
              rfl

theorem noneMissed_GetForegroundApplications (world : World) (succeeds : Bool)
    (hinv : NoneMissed world) :
    NoneMissed (step world (.GetForegroundApplications succeeds)) := by
  rw [step]
  split_ifs with hskip
  · exact hinv
  · intro pid hforeground
    refine ⟨(hinv pid hforeground).stays, ?_⟩
    intro _
    right
    left
    exact ⟨_, rfl, (mem_foregroundApplications world.states pid).mpr hforeground⟩

theorem noneMissed_insertForegroundApps (world : World) (hinv : NoneMissed world) :
    NoneMissed (step world .insertForegroundApps) := by
  rw [step]
  split
  · exact hinv
  · rename_i fgapplist hsnapshot
    intro pid hforeground
    obtain ⟨hstays, harrives⟩ := hinv pid hforeground
    refine ⟨hstays, ?_⟩
    intro hnone
    left
    rw [mem_insertForegroundApps]
    rw [hsnapshot] at harrives
    obtain hmem | ⟨fgapplist', hsame, hmem⟩ | ⟨hnosnapshot, -⟩ := harrives hnone
    · exact .inl hmem
    · obtain rfl := Option.some.inj hsame
      exact .inr hmem
    · cases hnosnapshot

theorem noneMissed_step (world : World) (event : Event) (hinv : NoneMissed world) :
    NoneMissed (step world event) := by
  cases event with
  | changeState state pid => exact noneMissed_changeState world state pid hinv
  | handleNotification => exact noneMissed_handleNotification world hinv
  | GetForegroundApplications succeeds =>
      exact noneMissed_GetForegroundApplications world succeeds hinv
  | insertForegroundApps => exact noneMissed_insertForegroundApps world hinv

/-! ## What a step needs to keep the set accurate -/

theorem accurate_iff (world : World) :
    Accurate world ↔
      ∀ pid, pid ∈ handled world.inFlight world.foregroundPids_ ↔ world.isForeground pid := by
  constructor
  · intro h
    exact h.pids
  · intro hpids
    refine ⟨hpids, ?_⟩
    intro tables caller type hallApp hfgApp
    rw [IsThirdPartType, if_neg (not_not.mpr hallApp), ← hpids]
    by_cases hmem : caller.pid ∈ handled world.inFlight world.foregroundPids_
    · simp [IsForegroundApp, hmem]
    · simp [IsForegroundApp, hmem, hfgApp]

/-- With no foreground application missed, the set is accurate when nothing else is in it. -/
theorem accurate_iff_of_noneMissed (world : World) (hinv : NoneMissed world)
    (hsnapshot : world.fgapplist = none) (hinitialised : world.initialised = true) :
    Accurate world ↔ ∀ pid, ¬ world.isForeground pid →
      verdict pid world.inFlight = some false ∨
        verdict pid world.inFlight = none ∧ pid ∉ world.foregroundPids_ := by
  have hmissed : ∀ pid, world.isForeground pid →
      pid ∈ handled world.inFlight world.foregroundPids_ := by
    intro pid hforeground
    obtain ⟨hstays, harrives⟩ := hinv pid hforeground
    rw [mem_handled]
    cases hverdict : verdict pid world.inFlight with
    | none =>
        have harrived := harrives hverdict
        simpa [hsnapshot, hinitialised] using harrived
    | some stays =>
        cases stays with
        | false => exact absurd hverdict hstays
        | true => rfl
  rw [accurate_iff]
  constructor
  · intro h pid hforeground
    have hgone : pid ∉ handled world.inFlight world.foregroundPids_ := by
      rwa [h]
    rw [mem_handled] at hgone
    cases hverdict : verdict pid world.inFlight with
    | none => simpa [hverdict] using hgone
    | some stays => simpa [hverdict] using hgone
  · intro h pid
    refine ⟨?_, hmissed pid⟩
    intro hmem
    by_contra hforeground
    rw [mem_handled] at hmem
    obtain hleft | ⟨hnone, hgone⟩ := h pid hforeground
    · simp [hleft] at hmem
    · simp [hnone, hgone] at hmem

/-- A change of one application leaves the others as they were. -/
theorem accurate_changeState_iff (world : World) (state : ApplicationState) (pid : Int)
    (hinv : NoneMissed world) (hsnapshot : world.fgapplist = none)
    (hinitialised : world.initialised = true) (hs : Accurate world) :
    Accurate (step world (.changeState state pid)) ↔
      state.leavesForeground = true ∨ state = .APP_STATE_FOREGROUND ∨
        ¬ world.isForeground pid := by
  have hgone := (accurate_iff_of_noneMissed world hinv hsnapshot hinitialised).mp hs
  have hverdict : ∀ pid', verdict pid' (step world (.changeState state pid)).inFlight =
      (effect pid' ⟨state, pid⟩).or (verdict pid' world.inFlight) := by
    intro pid'
    exact verdict_concat world.inFlight ⟨state, pid⟩ pid'
  rw [accurate_iff_of_noneMissed _ (noneMissed_changeState world state pid hinv) hsnapshot
    hinitialised]
  simp only [isForeground_changeState, hverdict]
  constructor
  · intro h
    by_contra hno
    push Not at hno
    obtain ⟨hstays, hother, hforeground⟩ := hno
    have heffect : effect pid ⟨state, pid⟩ = none := by
      simp [effect, hother, hstays]
    have hpid := h pid (by simpa using hother)
    rw [heffect, Option.none_or] at hpid
    have hmem := (hs.pids pid).mpr hforeground
    rw [mem_handled] at hmem
    obtain hleft | ⟨hnone, hout⟩ := hpid
    · simp [hleft] at hmem
    · have hout' : pid ∉ world.foregroundPids_ := hout
      simp [hnone, hout'] at hmem
  · intro h pid' hforeground
    by_cases hpid : pid' = pid
    · subst hpid
      rw [if_pos rfl] at hforeground
      obtain hleaves | hsame | hbefore := h
      · left
        simp [effect, hforeground, hleaves]
      · exact absurd hsame hforeground
      · by_cases hleaves : state.leavesForeground = true
        · left
          simp [effect, hforeground, hleaves]
        · have heffect : effect pid' ⟨state, pid'⟩ = none := by
            simp [effect, hforeground, hleaves]
          rw [heffect, Option.none_or]
          exact hgone pid' hbefore
    · rw [if_neg hpid] at hforeground
      have heffect : effect pid' ⟨state, pid⟩ = none := by
        rw [effect, if_neg (Ne.symm hpid)]
      rw [heffect, Option.none_or]
      exact hgone pid' hforeground

theorem changeState_exact (world : World) (state : ApplicationState) (pid : Int)
    (hinv : NoneMissed world) (hs : AccurateWhenHandled world) :
    AccurateWhenHandled (step world (.changeState state pid)) ↔
      AccuracyKept world (.changeState state pid) := by
  have hiff : AccurateWhenHandled (step world (.changeState state pid)) ↔
      (world.fgapplist = none → world.initialised = true →
        state.leavesForeground = true ∨ state = .APP_STATE_FOREGROUND ∨
          ¬ world.isForeground pid) := by
    refine imp_congr_right fun hsnapshot => imp_congr_right fun hinitialised => ?_
    exact accurate_changeState_iff world state pid hinv hsnapshot hinitialised
      (hs hsnapshot hinitialised)
  rw [hiff]
  cases state <;> simp [AccuracyKept, ApplicationState.leavesForeground]

theorem handleNotification_accurate (world : World) (hs : AccurateWhenHandled world) :
    AccurateWhenHandled (step world .handleNotification) := by
  rw [step]
  split
  · exact hs
  · rename_i notification rest hqueue
    intro hsnapshot hinitialised
    have haccurate := hs hsnapshot hinitialised
    rw [accurate_iff, hqueue] at haccurate
    rw [accurate_iff]
    exact haccurate

theorem insertForegroundApps_exact (world : World) (hinv : NoneMissed world)
    (hs : AccurateWhenHandled world) :
    AccurateWhenHandled (step world .insertForegroundApps) ↔
      AccuracyKept world .insertForegroundApps := by
  have hnext := noneMissed_insertForegroundApps world hinv
  rw [AccuracyKept]
  cases hsnapshot : world.fgapplist with
  | none =>
      have hsame : step world .insertForegroundApps = world := by
        rw [step, hsnapshot]
      rw [hsame]
      simp [hs]
  | some fgapplist =>
      have hstep : step world .insertForegroundApps =
          { world with
            foregroundPids_ := insertForegroundApps world.foregroundPids_ fgapplist
            fgapplist := none
            initialised := true } := by
        rw [step, hsnapshot]
      rw [hstep] at hnext ⊢
      have hiff := accurate_iff_of_noneMissed _ hnext rfl rfl
      simp only [mem_insertForegroundApps, not_or] at hiff
      constructor
      · intro h fgapplist' hsame
        obtain rfl := Option.some.inj hsame
        exact hiff.mp (h rfl rfl)
      · intro h _ _
        exact hiff.mpr (h fgapplist rfl)

theorem accuracyKept_exact (world : World) (event : Event) (hinv : NoneMissed world)
    (hs : AccurateWhenHandled world) :
    AccurateWhenHandled (step world event) ↔ AccuracyKept world event := by
  cases event with
  | changeState state pid => exact changeState_exact world state pid hinv hs
  | handleNotification =>
      exact iff_of_true (handleNotification_accurate world hs) trivial
  | GetForegroundApplications succeeds =>
      refine iff_of_true ?_ trivial
      rw [step]
      split_ifs
      · exact hs
      · intro hsnapshot
        cases hsnapshot
  | insertForegroundApps => exact insertForegroundApps_exact world hinv hs

/-- The set is accurate throughout a run exactly when every step keeps it so. -/
theorem foreground_accurate_iff (states : AssocMap Int ApplicationState) (events : List Event) :
    Always step AccurateWhenHandled (World.start states) events ↔
      EachStep step AccuracyKept (World.start states) events := by
  refine always_iff_eachStep step noneMissed_step accuracyKept_exact events _
    (noneMissed_start states) ?_
  intro _ hinitialised
  cases hinitialised

/-- Application 7 leaves the foreground between the snapshot and its insertion, and the service
hears of it before the insertion. -/
def staleSnapshot : List Event :=
  [.GetForegroundApplications true, .changeState .APP_STATE_BACKGROUND 7, .handleNotification,
    .insertForegroundApps]

/-- The insertion puts the application back, and nothing takes it out. -/
theorem foreground_accurate_counterexample :
    ∃ states events, ¬ Always step AccurateWhenHandled (World.start states) events ∧
      (run step (World.start states) events).inFlight = [] ∧
      (run step (World.start states) events).foregroundPids_ = {7} ∧
      (run step (World.start states) events).states.lookup 7 = some .APP_STATE_BACKGROUND := by
  refine ⟨AList.insert 7 .APP_STATE_FOREGROUND ∅, staleSnapshot, ?_, by decide, by decide,
    by decide⟩
  intro halways
  have haccurate := Always.last step halways rfl rfl
  have hforeground := (haccurate.pids 7).mp (by decide)
  exact absurd hforeground (by decide)

end ResSched.Service.Foreground
