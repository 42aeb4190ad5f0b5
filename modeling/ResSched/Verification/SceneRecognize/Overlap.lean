import ResSched.Library.Pairing
import ResSched.Library.Transition
import ResSched.Model.SceneRecognize.Overlap

/-! # The overlap scene follows its documented rule -/

namespace ResSched.SceneRecognize.Overlap

open Transition Pairing

/-! ## The specification -/

/-- The documented rule: the foreground is not the scene board, and two or more apps hold
perceivable tasks or the only holder is not the foreground app. -/
def overlapRule (foreground sceneboard : Int) (holders : List Int) : Bool :=
  foreground != sceneboard &&
    match holders with
    | [] => false
    | [holder] => holder != foreground
    | _ :: _ :: _ => true

def State.rule (state : State) : Bool :=
  overlapRule state.foregroundPid state.sceneboardPid state.perceivableTasks.keys

def opens : BackgroundPerceivableStatus → Bool
  | .PERCEIVABLE_START => true
  | .PERCEIVABLE_STOP => false

/-- The scene flag equals the rule, and the reports alternate beginning with a start. -/
structure SceneAgrees (state : State) : Prop where
  flag : state.isInBackgroundPerceivableScene = state.rule
  reports : Alternates (state.reports.map opens)

/-! ## What an event changes -/

/-- The change an event makes to what the rule depends on. -/
inductive Change where
  | keep
  | foreground (pid : Int)
  | sceneboard (pid : Int)
  | hold (pid : Int) (typeIds : List Nat)
  | release (pid : Int)

def taskChangeOf (env : External) (state : State) (value pid : Int) (typeIds : List Nat) :
    Change :=
  if value = CONTINUOUS_TASK_START ∧ typeIds ≠ [] then
    if IsValidPid pid && IsValidFilteredTypeIds env typeIds then .hold pid typeIds else .keep
  else if value = CONTINUOUS_TASK_UPDATE then
    if typeIds = [] then .release pid else .hold pid typeIds
  else if value = CONTINUOUS_TASK_END ∧ (state.perceivableTasks.lookup pid).isSome then
    .release pid
  else .keep

def changeOf (env : External) (state : State) (event : Event) : Change :=
  match pidOf event.payload with
  | none => .keep
  | some pidText =>
      if event.resType = RES_TYPE_APP_STATE_CHANGE then
        if event.value = PROCESS_FOREGROUND then
          .foreground ((env.StrToInt pidText).getD state.foregroundPid)
        else .keep
      else if event.resType = RES_TYPE_CONTINUOUS_TASK then
        match typeIdsOf env event.payload with
        | none => .keep
        | some typeIds =>
            taskChangeOf env state event.value ((env.StrToInt pidText).getD (-1))
              (typeIds.filter (fun id => id ∈ PERCEIVABLE_MODES env))
      else if event.resType = RES_TYPE_REPORT_SCENE_BOARD then
        .sceneboard ((env.StrToInt pidText).getD state.sceneboardPid)
      else .keep

/-- The facts of the rule after a change. -/
def Change.update (state : State) : Change → State
  | .keep => state
  | .foreground pid => { state with foregroundPid := pid }
  | .sceneboard pid => { state with sceneboardPid := pid }
  | .hold pid typeIds =>
      { state with perceivableTasks := state.perceivableTasks.insert pid typeIds }
  | .release pid => { state with perceivableTasks := state.perceivableTasks.erase pid }

/-- How the recognizer reacts to the changed facts. -/
def Change.react (state : State) : Change → State
  | .keep => state
  | .foreground _ =>
      if state.foregroundPid = state.sceneboardPid ∧ state.isInBackgroundPerceivableScene then
        ExitScene state
      else if CheckEnterScene state then EnterScene state
      else state
  | .sceneboard _ => state
  | .hold _ _ => if CheckEnterScene state then EnterScene state else state
  | .release _ =>
      if !CheckEnterScene state && state.isInBackgroundPerceivableScene then ExitScene state
      else state

theorem HandleContinuousTask_eq (env : External) (state : State) (value pid : Int)
    (typeIds : List Nat) :
    (if value = CONTINUOUS_TASK_START ∧ typeIds ≠ [] then HandleTaskStart env state pid typeIds
      else if value = CONTINUOUS_TASK_UPDATE then HandleTaskUpdate state pid typeIds
      else if value = CONTINUOUS_TASK_END then HandleTaskStop state pid
      else state) =
    (taskChangeOf env state value pid typeIds).react
      ((taskChangeOf env state value pid typeIds).update state) := by
  rw [taskChangeOf]
  by_cases hstart : value = CONTINUOUS_TASK_START ∧ typeIds ≠ []
  · rw [if_pos hstart, if_pos hstart]
    rw [HandleTaskStart]
    by_cases hvalid : (IsValidPid pid && IsValidFilteredTypeIds env typeIds) = true
    · have hvalid' := hvalid
      rw [Bool.and_eq_true] at hvalid'
      rw [if_pos hvalid, hvalid'.1, hvalid'.2]
      rfl
    · have hinvalid : (!IsValidPid pid || !IsValidFilteredTypeIds env typeIds) = true := by
        simpa [Bool.and_eq_true, imp_iff_not_or] using hvalid
      rw [if_neg hvalid, if_pos hinvalid]
      rfl
  · rw [if_neg hstart, if_neg hstart]
    by_cases hupdate : value = CONTINUOUS_TASK_UPDATE
    · rw [if_pos hupdate, if_pos hupdate]
      rw [HandleTaskUpdate]
      by_cases hempty : typeIds = []
      · rw [if_pos hempty, if_pos hempty]
        rfl
      · rw [if_neg hempty, if_neg hempty]
        rfl
    · rw [if_neg hupdate, if_neg hupdate]
      rw [HandleTaskStop]
      by_cases hstop : value = CONTINUOUS_TASK_END ∧
          (state.perceivableTasks.lookup pid).isSome = true
      · simp only [if_pos hstop, if_pos hstop.1, if_pos hstop.2]
        rfl
      · rw [if_neg hstop]
        split_ifs with hend hheld
        · exact absurd ⟨hend, hheld⟩ hstop
        · rfl
        · rfl

/-- Each event is a change of the facts and the reaction to it. -/
theorem OnDispatchResource_eq (env : External) (state : State) (event : Event) :
    OnDispatchResource env state event =
      (changeOf env state event).react ((changeOf env state event).update state) := by
  unfold OnDispatchResource changeOf
  cases pidOf event.payload with
  | none => rfl
  | some pidText =>
      simp only
      split_ifs with hforeground hvalue htask hboard
      · simp only [HandleForeground, hvalue, ne_eq, not_true_eq_false, if_false]
        rfl
      · simp only [HandleForeground, hvalue, ne_eq, not_false_eq_true, if_true]
        rfl
      · rw [HandleContinuousTask]
        cases typeIdsOf env event.payload with
        | none => rfl
        | some typeIds => exact HandleContinuousTask_eq env state event.value _ _
      · rfl
      · rfl

/-! ## The rule under a change of the holders -/

theorem CheckEnterScene_eq (state : State) :
    CheckEnterScene state = (!state.isInBackgroundPerceivableScene && state.rule) := by
  have hlookup : (state.perceivableTasks.lookup state.foregroundPid).isNone = true ↔
      state.foregroundPid ∉ state.perceivableTasks.keys := by
    rw [Option.isNone_iff_eq_none, AList.lookup_eq_none, AList.mem_keys]
  unfold CheckEnterScene State.rule overlapRule
  simp only [hlookup]
  cases state.isInBackgroundPerceivableScene with
  | true => simp
  | false =>
      by_cases hboard : state.foregroundPid = state.sceneboardPid
      · simp [hboard]
      · match state.perceivableTasks.keys with
        | [] => simp [hboard]
        | [holder] =>
            by_cases hholder : holder = state.foregroundPid
            · simp [hboard, hholder]
            · simp [hboard, hholder, Ne.symm hholder]
        | _ :: _ :: _ => simp [hboard]

theorem overlapRule_of_two_le (foreground sceneboard : Int) (holders : List Int)
    (hboard : foreground ≠ sceneboard) (h : 2 ≤ holders.length) :
    overlapRule foreground sceneboard holders = true := by
  match holders, h with
  | _ :: _ :: _, _ => simp [overlapRule, hboard]

/-- A further holder keeps the rule true. -/
theorem overlapRule_insert (foreground sceneboard : Int) (holders : List Int) (pid : Int)
    (h : overlapRule foreground sceneboard holders = true) :
    overlapRule foreground sceneboard (pid :: holders.erase pid) = true := by
  have hboard : foreground ≠ sceneboard := by
    intro heq
    simp [overlapRule, heq] at h
  by_cases hmem : pid ∈ holders
  · match holders, h with
    | [holder], h =>
        obtain rfl : pid = holder := by simpa using hmem
        simpa using h
    | first :: second :: rest, _ =>
        refine overlapRule_of_two_le _ _ _ hboard ?_
        simp [List.length_erase_of_mem hmem]
  · rw [List.erase_of_not_mem hmem]
    match holders, h with
    | [], h => simp [overlapRule] at h
    | _ :: _, _ => exact overlapRule_of_two_le _ _ _ hboard (by simp)

/-- Without a holder the rule that is false stays false. -/
theorem overlapRule_erase (foreground sceneboard : Int) (holders : List Int) (pid : Int)
    (h : overlapRule foreground sceneboard holders = false) :
    overlapRule foreground sceneboard (holders.erase pid) = false := by
  by_cases hboard : foreground = sceneboard
  · simp [overlapRule, hboard]
  · match holders, h with
    | [], h => simpa using h
    | [holder], h =>
        by_cases hpid : holder = pid
        · simp [hpid, overlapRule]
        · rwa [List.erase_of_not_mem (by simpa using Ne.symm hpid)]
    | _ :: _ :: _, h => simp [overlapRule, hboard] at h

/-! ## One event -/

/-- The reports made are open exactly in the scene. -/
structure ReportsTrack (state : State) : Prop where
  open_eq : isOpen (state.reports.map opens) = state.isInBackgroundPerceivableScene
  alternates : Alternates (state.reports.map opens)

theorem EnterScene_tracks (state : State) (h : ReportsTrack state)
    (hout : state.isInBackgroundPerceivableScene = false) : ReportsTrack (EnterScene state) := by
  refine ⟨by simp [EnterScene, opens], ?_⟩
  simp only [EnterScene, List.map_append, List.map_cons, List.map_nil]
  rw [alternates_concat, h.open_eq, hout]
  exact ⟨h.alternates, rfl⟩

theorem ExitScene_tracks (state : State) (h : ReportsTrack state)
    (hin : state.isInBackgroundPerceivableScene = true) : ReportsTrack (ExitScene state) := by
  refine ⟨by simp [ExitScene, opens], ?_⟩
  simp only [ExitScene, List.map_append, List.map_cons, List.map_nil]
  rw [alternates_concat, h.open_eq, hin]
  exact ⟨h.alternates, rfl⟩

theorem update_tracks (state : State) (change : Change) (h : ReportsTrack state) :
    ReportsTrack (change.update state) := by
  cases change <;> exact ⟨h.open_eq, h.alternates⟩

theorem enterIfChecked_tracks (state : State) (h : ReportsTrack state) :
    ReportsTrack (if CheckEnterScene state then EnterScene state else state) := by
  split_ifs with hcheck
  · rw [CheckEnterScene_eq, Bool.and_eq_true, Bool.not_eq_true'] at hcheck
    exact EnterScene_tracks state h hcheck.1
  · exact h

theorem react_tracks (state : State) (change : Change) (h : ReportsTrack state) :
    ReportsTrack (change.react state) := by
  cases change with
  | keep => exact h
  | foreground pid =>
      simp only [Change.react]
      by_cases hexit : state.foregroundPid = state.sceneboardPid ∧
          state.isInBackgroundPerceivableScene = true
      · rw [if_pos hexit]
        exact ExitScene_tracks state h hexit.2
      · rw [if_neg hexit]
        exact enterIfChecked_tracks state h
  | sceneboard pid => exact h
  | hold pid typeIds => exact enterIfChecked_tracks state h
  | release pid =>
      simp only [Change.react]
      split_ifs with hexit
      · rw [Bool.and_eq_true] at hexit
        exact ExitScene_tracks state h hexit.2
      · exact h

theorem dispatch_tracks (env : External) (state : State) (event : Event)
    (h : ReportsTrack state) : ReportsTrack (OnDispatchResource env state event) := by
  rw [OnDispatchResource_eq]
  exact react_tracks _ _ (update_tracks state _ h)

/-- What an event needs for the flag to equal the rule after it: in the scene, a change of the
foreground to an app keeps the rule true and the loss of a holder makes it false; a new scene
board does not change it. -/
def Change.Follows (state : State) (change : Change) : Prop :=
  match change with
  | .keep => True
  | .foreground pid => state.rule = true → pid ≠ state.sceneboardPid →
      (change.update state).rule = true
  | .sceneboard _ => (change.update state).rule = state.rule
  | .hold _ _ => True
  | .release _ => state.rule = true → (change.update state).rule = false

def RuleFollowed (env : External) (state : State) (event : Event) : Prop :=
  (changeOf env state event).Follows state

theorem enterIfChecked_flag (state : State) :
    (if CheckEnterScene state then EnterScene state else state).isInBackgroundPerceivableScene =
      (state.isInBackgroundPerceivableScene || state.rule) := by
  rw [CheckEnterScene_eq]
  cases hin : state.isInBackgroundPerceivableScene with
  | true => simpa using hin
  | false =>
      cases state.rule with
      | true => simp [EnterScene]
      | false => simpa using hin

theorem react_rule (state : State) (change : Change) : (change.react state).rule = state.rule := by
  cases change with
  | keep => rfl
  | foreground pid =>
      simp only [Change.react]
      split_ifs <;> rfl
  | sceneboard pid => rfl
  | hold pid typeIds =>
      simp only [Change.react]
      split_ifs <;> rfl
  | release pid =>
      simp only [Change.react]
      split_ifs <;> rfl

/-- The flag equals the rule after a change exactly when the change follows the rule. -/
theorem react_flag_iff (state : State) (change : Change)
    (h : state.isInBackgroundPerceivableScene = state.rule) :
    (change.react (change.update state)).isInBackgroundPerceivableScene =
        (change.update state).rule ↔ change.Follows state := by
  have hflag : (change.update state).isInBackgroundPerceivableScene = state.rule := by
    rw [← h]
    cases change <;> rfl
  cases change with
  | keep => exact iff_of_true h trivial
  | foreground pid =>
      simp only [Change.react]
      by_cases hexit : (Change.update state (.foreground pid)).foregroundPid =
          (Change.update state (.foreground pid)).sceneboardPid ∧
          (Change.update state (.foreground pid)).isInBackgroundPerceivableScene = true
      · rw [if_pos hexit]
        have hfalse : (Change.update state (.foreground pid)).rule = false := by
          simp [State.rule, overlapRule, hexit.1]
        rw [hfalse]
        exact iff_of_true rfl (fun _ hne => absurd hexit.1 hne)
      · rw [if_neg hexit, enterIfChecked_flag, hflag]
        cases hrule : state.rule with
        | false => simp [Change.Follows, hrule]
        | true =>
            have hne : pid ≠ state.sceneboardPid := fun heq => hexit ⟨heq, hflag.trans hrule⟩
            simp only [Change.Follows, hrule, Bool.true_or, forall_const, ne_eq, hne,
              not_false_eq_true]
            exact eq_comm
  | sceneboard pid =>
      refine Iff.trans ?_ eq_comm
      rw [← h]
      rfl
  | hold pid typeIds =>
      refine iff_of_true ?_ trivial
      simp only [Change.react]
      rw [enterIfChecked_flag, hflag]
      cases hrule : state.rule with
      | false => simp
      | true =>
          have hnext : (Change.update state (.hold pid typeIds)).rule = true := by
            simp only [State.rule, Change.update, AList.keys_insert]
            exact overlapRule_insert _ _ _ pid hrule
          simp [hnext]
  | release pid =>
      simp only [Change.react, CheckEnterScene_eq, hflag]
      cases hrule : state.rule with
      | false =>
          have hnext : (Change.update state (.release pid)).rule = false := by
            simp only [State.rule, Change.update, AList.keys_erase]
            exact overlapRule_erase _ _ _ pid hrule
          simp [Change.Follows, hflag, hrule, hnext]
      | true =>
          simp only [Change.Follows, hrule, Bool.not_true, Bool.false_and, Bool.not_false,
            Bool.and_self, if_true, ExitScene, forall_const]
          exact eq_comm

theorem dispatch_agrees_iff (env : External) (state : State) (event : Event)
    (htracks : ReportsTrack state) (h : SceneAgrees state) :
    SceneAgrees (OnDispatchResource env state event) ↔ RuleFollowed env state event := by
  have halternates := (dispatch_tracks env state event htracks).alternates
  have hiff := react_flag_iff state (changeOf env state event) h.flag
  rw [← react_rule, ← OnDispatchResource_eq] at hiff
  exact ⟨fun hagrees => hiff.mp hagrees.flag, fun hfollowed => ⟨hiff.mpr hfollowed, halternates⟩⟩

/-! ## Runs -/

/-- In every run the scene flag equals the documented rule in all states, with reports that
alternate, if and only if each event follows the rule. -/
theorem scene_agrees_iff_rule_followed (env : External) (events : List Event) :
    Always (OnDispatchResource env) SceneAgrees State.created events ↔
      EachStep (OnDispatchResource env) (RuleFollowed env) State.created events :=
  always_iff_eachStep (OnDispatchResource env) (I := ReportsTrack) (dispatch_tracks env)
    (dispatch_agrees_iff env) events State.created ⟨rfl, rfl⟩ ⟨rfl, rfl⟩

/-- The reports alternate in every run, whatever the rule. -/
theorem reports_alternate (env : External) (events : List Event) :
    Always (OnDispatchResource env) ReportsTrack State.created events :=
  always_of_step (OnDispatchResource env) (dispatch_tracks env) events State.created ⟨rfl, rfl⟩

/-! ## A task whose end leaves the rule true -/

/-- Decimal parsing and the values of the background modes. -/
def platform : External where
  StrToInt := fun text => some (CLibrary.atoi text)
  floatToUInt32 := fun _ => 0
  DATA_TRANSFER := 1
  AUDIO_PLAYBACK := 2
  LOCATION := 4
  MULTI_DEVICE_CONNECTION := 6
  VOIP := 8
  END := 10

def taskEvent (value : Int) (pid : String) (typeIds : List Nat) : Event :=
  ⟨RES_TYPE_CONTINUOUS_TASK, value,
    .object [(PID_KEY, .string pid), (TYPE_IDS_KEY, .array (typeIds.map .uint))]⟩

/-- Under the foreground app 3000 two background apps play audio, and one of them stops. -/
def oneOfTwoStops : List Event :=
  [⟨RES_TYPE_APP_STATE_CHANGE, PROCESS_FOREGROUND, .object [(PID_KEY, .string "3000")]⟩,
    taskEvent CONTINUOUS_TASK_START "4000" [2], taskEvent CONTINUOUS_TASK_START "5000" [2],
    taskEvent CONTINUOUS_TASK_END "4000" []]

theorem oneOfTwoStops_leaves_scene :
    ¬ ∀ (env : External) (events : List Event),
      Always (OnDispatchResource env) SceneAgrees State.created events := by
  intro h
  have hflag := (h platform oneOfTwoStops).last.flag
  have hout : (run (OnDispatchResource platform) State.created
      oneOfTwoStops).isInBackgroundPerceivableScene = false := by decide +kernel
  have hrule : (run (OnDispatchResource platform) State.created oneOfTwoStops).rule = true := by
    decide +kernel
  rw [hout, hrule] at hflag
  exact absurd hflag (by decide)

end ResSched.SceneRecognize.Overlap
