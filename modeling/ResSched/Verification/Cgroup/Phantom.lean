import ResSched.Library.Transition
import ResSched.Model.Cgroup.Reload
import ResSched.Verification.Cgroup.Adjuster

/-! # Applications without processes -/

namespace ResSched.Cgroup

open Transition

/-! ## The specification -/

/-- The application has a process record. -/
def Application.Populated (app : Application) : Prop :=
  ∃ pid, (app.pidsMap.lookup pid).isSome = true

/-- Every application of the supervisor has a process record. -/
def AllPopulated (supervisor : Supervisor) : Prop :=
  ∀ uid app, supervisor.uidsMap.lookup uid = some app → app.Populated

/-- A report that an ability terminated. The state of a UI extension is read from the payload
the report is changed to. -/
def abilityTerminated (env : External) (payload : Payload) : Bool :=
  if ParseValue "abilityType" payload = some env.ABILITY_TYPE_EXTENSION then
    ((ParseValue "uiExtensionState" payload).bind fun uiExtensionState =>
      ParseValue "extensionState"
        (payload.set "extensionState" (.string (toString uiExtensionState)))) =
      some env.EXTENSION_STATE_TERMINATED
  else ParseValue "abilityState" payload = some env.ABILITY_STATE_TERMINATED

/-- The uid an event names that ends an activity or merely annotates one: a transient task, the
end of a continuous task, an ability or an extension that terminated, a window that lost the
focus or is invisible, and the audio of a web view. -/
def endedUid (env : External) : Event → Option Int
  | .HandleTransientTaskStatus value payload =>
      if value = TRANSIENT_TASK_START ∨ value = TRANSIENT_TASK_END then ParseValue "uid" payload
      else none
  | .HandleContinuousTaskStatus value payload =>
      if value = CONTINUOUS_TASK_END then ParseValue "uid" payload else none
  | .HandleAbilityStateChanged payload =>
      if abilityTerminated env payload then ParseValue "uid" payload else none
  | .HandleExtensionStateChanged payload =>
      if ParseValue "extensionState" payload = some env.EXTENSION_STATE_TERMINATED then
        ParseValue "uid" payload
      else none
  | .HandleFocusStateChange value payload =>
      if value = WINDOW_UNFOCUS then ParseValue "uid" payload else none
  | .HandleWindowVisibilityChanged value payload =>
      if value = 0 then ParseValue "uid" payload else none
  | .HandleReportWebviewAudioState _ payload => ParseValue "uid" payload
  | _ => none

/-- An event that ends or annotates the activity of an application without a record leaves the
records as they are. -/
def UnknownUnchanged (env : External) (supervisor : Supervisor) (event : Event) : Prop :=
  ∀ uid, endedUid env event = some uid → supervisor.uidsMap.lookup uid = none →
    supervisor.handle env event = supervisor

/-- The uid of the application an event makes on demand without a process. -/
def demandedUid (env : External) : Event → Option Int
  | .HandleApplicationStateChanged payload => do
      let uid ← ParseValue "uid" payload
      let _ ← ParseValue "pid" payload
      let _ ← ParseString "bundleName" payload
      let state ← ParseValue "state" payload
      if state = env.APP_STATE_TERMINATED then none else return uid
  | .HandleTransientTaskStatus value payload =>
      if value = TRANSIENT_TASK_START ∨ value = TRANSIENT_TASK_END then
        (ParseProcess payload).map Prod.fst
      else none
  | .HandleContinuousTaskStatus value payload =>
      if value = CONTINUOUS_TASK_END then do
        let uid ← ParseValue "uid" payload
        let _ ← ParseValue "pid" payload
        let _ ← ParseValue "abilityId" payload
        return uid
      else none
  | .HandleReportWebviewAudioState _ payload => (ParsePayload payload).map Prod.fst
  | _ => none

/-- An application an event makes on demand without a process is there already. -/
def DemandsKnown (env : External) (supervisor : Supervisor) (event : Event) : Prop :=
  ∀ uid, demandedUid env event = some uid → supervisor.uidsMap.lookup uid ≠ none

/-! ## Applications made on demand -/

theorem update_of_demanded (env : External) (supervisor : Supervisor) (event : Event) {uid : Int}
    (hdemanded : demandedUid env event = some uid)
    (hnone : supervisor.uidsMap.lookup uid = none) :
    supervisor.update env event = ⟨supervisor.withAppNonNull uid id, []⟩ := by
  have hrecord : ∀ pid, (supervisor.withAppNonNull uid id).record? uid pid = none := by
    intro pid
    simp [Supervisor.record?, Supervisor.withAppNonNull, hnone, Application.new]
  cases event with
  | HandleApplicationStateChanged payload =>
      simp only [demandedUid, Option.bind_eq_bind, Option.bind_eq_some_iff,
        Option.pure_def] at hdemanded
      obtain ⟨uid', huid, pid, hpid, bundleName, hname, state, hstate, hdemanded⟩ := hdemanded
      split_ifs at hdemanded with hterminated
      obtain rfl := Option.some.inj hdemanded
      simp [Supervisor.update, HandleApplicationStateChanged, huid, hpid, hname, hstate,
        Supervisor.parsed, hterminated]
  | HandleTransientTaskStatus value payload =>
      simp only [demandedUid] at hdemanded
      split_ifs at hdemanded with hvalue
      obtain ⟨⟨uid', pid⟩, hparse, rfl⟩ := Option.map_eq_some_iff.mp hdemanded
      simp only [Supervisor.update, HandleTransientTaskStatus, hparse, Supervisor.parsed,
        if_pos hvalue, Supervisor.withAppNonNull, hnone]
      rfl
  | HandleContinuousTaskStatus value payload =>
      simp only [demandedUid] at hdemanded
      split_ifs at hdemanded with hvalue
      simp only [Option.bind_eq_bind, Option.bind_eq_some_iff, Option.pure_def,
        Option.some.injEq] at hdemanded
      obtain ⟨uid', huid, pid, hpid, abilityId, hability, rfl⟩ := hdemanded
      simp [Supervisor.update, HandleContinuousTaskStatus, huid, hpid, hability,
        Supervisor.parsed, hvalue, HandleContinuousTaskCancel, Supervisor.withRecordAdjusted,
        hrecord, Supervisor.unchanged, CONTINUOUS_TASK_START, CONTINUOUS_TASK_UPDATE,
        CONTINUOUS_TASK_END]
  | HandleReportWebviewAudioState value payload =>
      obtain ⟨⟨uid', pid⟩, hparse, rfl⟩ := Option.map_eq_some_iff.mp hdemanded
      simp [Supervisor.update, HandleReportWebviewAudioState, hparse, Supervisor.parsed,
        Supervisor.withRecordAdjusted, hrecord, Supervisor.unchanged]
  | _ => cases hdemanded

theorem handle_of_demanded (env : External) (supervisor : Supervisor) (event : Event) {uid : Int}
    (hdemanded : demandedUid env event = some uid)
    (hnone : supervisor.uidsMap.lookup uid = none) :
    supervisor.handle env event = supervisor.withAppNonNull uid id := by
  rw [Supervisor.handle, update_of_demanded env supervisor event hdemanded hnone]
  rfl

/-! ## Events about an application without a record -/

/-- Only the uid an event names can be demanded. -/
theorem ended_eq_demanded (env : External) (event : Event) {uid uid' : Int}
    (hended : endedUid env event = some uid) (hdemanded : demandedUid env event = some uid') :
    uid = uid' := by
  have hprocess : ∀ payload uid', (ParseProcess payload).map Prod.fst = some uid' →
      ParseValue "uid" payload = some uid' := by
    intro payload uid' hmap
    obtain ⟨⟨_, pid⟩, hparse, rfl⟩ := Option.map_eq_some_iff.mp hmap
    simp only [ParseProcess, Option.bind_eq_bind, Option.bind_eq_some_iff, Option.pure_def,
      Option.some.injEq, Prod.mk.injEq] at hparse
    obtain ⟨_, huid, _, _, _, _, rfl, _⟩ := hparse
    exact huid
  have hpayload : ∀ payload uid', (ParsePayload payload).map Prod.fst = some uid' →
      ParseValue "uid" payload = some uid' := by
    intro payload uid' hmap
    obtain ⟨⟨_, pid⟩, hparse, rfl⟩ := Option.map_eq_some_iff.mp hmap
    simp only [ParsePayload, Option.bind_eq_bind, Option.bind_eq_some_iff,
      Option.pure_def] at hparse
    obtain ⟨_, huid, _, _, hparse⟩ := hparse
    split_ifs at hparse
    obtain ⟨rfl, _⟩ := Prod.mk.inj (Option.some.inj hparse)
    exact huid
  cases event with
  | HandleTransientTaskStatus value payload =>
      simp only [endedUid, demandedUid] at hended hdemanded
      split_ifs at hended hdemanded
      exact Option.some.inj (hended.symm.trans (hprocess payload uid' hdemanded))
  | HandleContinuousTaskStatus value payload =>
      simp only [endedUid, demandedUid] at hended hdemanded
      split_ifs at hended hdemanded
      simp only [Option.bind_eq_bind, Option.bind_eq_some_iff, Option.pure_def,
        Option.some.injEq] at hdemanded
      obtain ⟨_, huid, _, _, _, _, rfl⟩ := hdemanded
      exact Option.some.inj (hended.symm.trans huid)
  | HandleReportWebviewAudioState value payload =>
      exact Option.some.inj (hended.symm.trans (hpayload payload uid' hdemanded))
  | HandleApplicationStateChanged payload => cases hended
  | _ => cases hdemanded

/-- A process of an application without a record is not changed and not adjusted. -/
theorem withRecordAdjusted_of_none (supervisor : Supervisor) {uid : Int} (pid : Int)
    (f : ProcessRecord → ProcessRecord) (source : AdjustSource)
    (hnone : supervisor.uidsMap.lookup uid = none) :
    supervisor.withRecordAdjusted uid pid f source = supervisor.unchanged := by
  simp [Supervisor.withRecordAdjusted, Supervisor.record?, hnone]

theorem parsed_unchanged {α : Type} (supervisor : Supervisor) (args : Option α)
    (handler : α → Handled) (h : ∀ a, args = some a → handler a = supervisor.unchanged) :
    supervisor.parsed args handler = supervisor.unchanged := by
  cases args with
  | none => rfl
  | some a => exact h a rfl

theorem HandleExtensionStateChanged_of_none (env : External) (supervisor : Supervisor)
    (payload : Payload) {uid : Int} (huid : ParseValue "uid" payload = some uid)
    (hterminated : ParseValue "extensionState" payload = some env.EXTENSION_STATE_TERMINATED)
    (hnone : supervisor.uidsMap.lookup uid = none) :
    HandleExtensionStateChanged env supervisor payload = supervisor.unchanged := by
  apply parsed_unchanged
  rintro ⟨uid', pid, abilityName, recordId, extensionState, abilityType⟩ hargs
  simp only [huid, hterminated, Option.bind_eq_bind, Option.bind_eq_some_iff, Option.pure_def,
    Option.some.injEq, Prod.mk.injEq, exists_eq_left'] at hargs
  obtain ⟨_, -, _, -, _, -, _, -, _, -, rfl, rfl, rfl, rfl, rfl, rfl⟩ := hargs
  dsimp only
  rw [if_pos rfl]
  exact withRecordAdjusted_of_none supervisor _ _ _ hnone

/-- A payload keeps its uid when the state of its extension is set. -/
theorem ParseValue_uid_set (payload : Payload) (state : String) {uid : Int}
    (huid : ParseValue "uid" payload = some uid) :
    ParseValue "uid" (payload.set "extensionState" (.string state)) = some uid := by
  obtain ⟨text, htext, rfl⟩ := Option.map_eq_some_iff.mp huid
  obtain ⟨value, hvalue, htext⟩ := Option.bind_eq_some_iff.mp htext
  have hfind := Json.find?_set_ne payload "extensionState" "uid" (.string state) (by decide)
    (Json.is_object_of_find? hvalue)
  rw [ParseValue, ParseString, hfind, hvalue, Option.bind_some, htext]
  rfl

theorem HandleAbilityStateChanged_of_none (env : External) (supervisor : Supervisor)
    (payload : Payload) {uid : Int} (huid : ParseValue "uid" payload = some uid)
    (hterminated : abilityTerminated env payload = true)
    (hnone : supervisor.uidsMap.lookup uid = none) :
    HandleAbilityStateChanged env supervisor payload = supervisor.unchanged := by
  apply parsed_unchanged
  rintro ⟨uid', pid, abilityName, recordId, abilityState, abilityType⟩ hargs
  simp only [Option.bind_eq_bind, Option.bind_eq_some_iff, Option.pure_def, Option.some.injEq,
    Prod.mk.injEq] at hargs
  obtain ⟨_, huid', _, -, _, -, _, -, _, -, _, -, _, hstate, type, htype, rfl, rfl, rfl, rfl,
    rfl, rfl⟩ := hargs
  obtain rfl := Option.some.inj (huid.symm.trans huid')
  rw [abilityTerminated, htype] at hterminated
  dsimp only
  by_cases hextension : type = env.ABILITY_TYPE_EXTENSION
  · rw [if_pos (congrArg some hextension), decide_eq_true_eq] at hterminated
    rw [if_pos hextension]
    apply parsed_unchanged
    intro uiExtensionState hargs
    simp only [Option.bind_eq_bind, Option.bind_eq_some_iff] at hargs
    obtain ⟨_, -, hargs⟩ := hargs
    rw [hargs, Option.bind_some] at hterminated
    exact HandleExtensionStateChanged_of_none env supervisor _ (ParseValue_uid_set payload _ huid)
      hterminated hnone
  · rw [if_neg fun h => hextension (Option.some.inj h), hstate, decide_eq_true_eq] at hterminated
    rw [if_neg hextension, if_pos (Option.some.inj hterminated)]
    exact withRecordAdjusted_of_none supervisor _ _ _ hnone

/-- An event that ends or annotates the activity of an application without a record either
demands it or changes nothing. -/
theorem update_of_ended (env : External) (supervisor : Supervisor) (event : Event) {uid : Int}
    (hended : endedUid env event = some uid) (hdemanded : demandedUid env event = none)
    (hnone : supervisor.uidsMap.lookup uid = none) :
    supervisor.update env event = supervisor.unchanged := by
  cases event with
  | HandleTransientTaskStatus value payload =>
      apply parsed_unchanged
      rintro ⟨uid', pid⟩ hargs
      simp only [demandedUid, hargs, Option.map_some] at hdemanded
      split_ifs at hdemanded with hvalue
      exact if_neg hvalue
  | HandleContinuousTaskStatus value payload =>
      apply parsed_unchanged
      rintro ⟨uid', pid, abilityId⟩ hargs
      simp only [Option.bind_eq_bind, Option.bind_eq_some_iff, Option.pure_def, Option.some.injEq,
        Prod.mk.injEq] at hargs
      obtain ⟨_, huid, _, hpid, _, hability, rfl, rfl, rfl⟩ := hargs
      simp only [endedUid] at hended
      split_ifs at hended with hvalue
      simp [demandedUid, hvalue, huid, hpid, hability] at hdemanded
  | HandleAbilityStateChanged payload =>
      simp only [endedUid] at hended
      split_ifs at hended with hterminated
      exact HandleAbilityStateChanged_of_none env supervisor payload hended hterminated hnone
  | HandleExtensionStateChanged payload =>
      simp only [endedUid] at hended
      split_ifs at hended with hterminated
      exact HandleExtensionStateChanged_of_none env supervisor payload hended hterminated hnone
  | HandleFocusStateChange value payload =>
      simp only [endedUid] at hended
      split_ifs at hended with hvalue
      apply parsed_unchanged
      intro info hargs
      simp only [ParseFocus, hended, Option.bind_eq_bind, Option.bind_eq_some_iff, Option.pure_def,
        Option.some.injEq, exists_eq_left'] at hargs
      obtain ⟨_, -, _, -, _, -, _, -, rfl⟩ := hargs
      rw [if_neg (by rw [hvalue]; decide), if_pos hvalue, HandleUnfocusedWindow]
      simp [Supervisor.record?, hnone]
  | HandleWindowVisibilityChanged value payload =>
      simp only [endedUid] at hended
      split_ifs at hended with hvalue
      apply parsed_unchanged
      rintro ⟨pid, uid', windowId, windowType⟩ hargs
      simp only [hended, Option.bind_eq_bind, Option.bind_eq_some_iff, Option.pure_def,
        Option.some.injEq, Prod.mk.injEq, exists_eq_left'] at hargs
      obtain ⟨_, -, _, -, _, -, rfl, rfl, rfl, rfl⟩ := hargs
      simp [hvalue, Supervisor.record?, hnone]
  | HandleReportWebviewAudioState value payload =>
      apply parsed_unchanged
      rintro ids hargs
      simp [demandedUid, hargs] at hdemanded
  | _ => cases hended

/-! ## Applications that have a process -/

theorem populated_withRecord {app : Application} (pid : Int) (f : ProcessRecord → ProcessRecord)
    (h : app.Populated) : (app.withRecord pid f).Populated := by
  obtain ⟨other, hother⟩ := h
  refine ⟨other, ?_⟩
  rw [lookup_withRecord]
  split_ifs
  · rw [Option.isSome_map]
    exact hother
  · exact hother

theorem populated_withRecordNonNull (app : Application) (pid : Int)
    (f : ProcessRecord → ProcessRecord) : (app.withRecordNonNull pid f).Populated := by
  refine ⟨pid, ?_⟩
  rw [lookup_withRecordNonNull, if_pos rfl]
  rfl

theorem AppRegrouped.populated {before after : Application} (h : AppRegrouped before after)
    (hbefore : before.Populated) : after.Populated := by
  obtain ⟨pid, hpid⟩ := hbefore
  obtain ⟨record, hrecord⟩ := Option.isSome_iff_exists.mp hpid
  obtain ⟨record', hafter, -⟩ := h.found pid record hrecord
  exact ⟨pid, by rw [hafter]; rfl⟩

section

variable {supervisor : Supervisor} (h : AllPopulated supervisor)

include h

theorem allPopulated_withApp (uid : Int) (f : Application → Application)
    (hf : ∀ app, app.Populated → (f app).Populated) : AllPopulated (supervisor.withApp uid f) := by
  intro other app hlookup
  rw [Supervisor.withApp, AssocMap.lookup_modify] at hlookup
  split_ifs at hlookup
  · obtain ⟨before, hbefore, rfl⟩ := Option.map_eq_some_iff.mp hlookup
    exact hf before (h other before hbefore)
  · exact h other app hlookup

theorem allPopulated_withAppNonNull (uid : Int) (f : Application → Application)
    (hf : ∀ app, (f app).Populated) : AllPopulated (supervisor.withAppNonNull uid f) := by
  intro other app hlookup
  rw [Supervisor.withAppNonNull, AssocMap.lookup_insert_ite] at hlookup
  split_ifs at hlookup
  · obtain rfl := Option.some.inj hlookup
    exact hf _
  · exact h other app hlookup

/-- An application that is there already is not made on demand. -/
theorem allPopulated_withKnownApp (uid : Int) (f : Application → Application)
    (hknown : supervisor.uidsMap.lookup uid ≠ none)
    (hf : ∀ app, app.Populated → (f app).Populated) :
    AllPopulated (supervisor.withAppNonNull uid f) := by
  intro other app hlookup
  rw [Supervisor.withAppNonNull, AssocMap.lookup_insert_ite] at hlookup
  split_ifs at hlookup
  · obtain ⟨before, hbefore⟩ := Option.ne_none_iff_exists'.mp hknown
    rw [hbefore] at hlookup
    obtain rfl := Option.some.inj hlookup
    exact hf before (h uid before hbefore)
  · exact h other app hlookup

theorem allPopulated_RemoveApplication (uid : Int) :
    AllPopulated (supervisor.RemoveApplication uid) := by
  intro other app hlookup
  rw [Supervisor.RemoveApplication, AssocMap.lookup_erase_ite] at hlookup
  split_ifs at hlookup
  exact h other app hlookup

theorem allPopulated_parsed {α : Type} (args : Option α) (handler : α → Handled)
    (hhandler : ∀ a, args = some a → AllPopulated (handler a).supervisor) :
    AllPopulated (supervisor.parsed args handler).supervisor := by
  cases args with
  | none => exact h
  | some a => exact hhandler a rfl

theorem allPopulated_withRecordAdjusted (uid pid : Int) (f : ProcessRecord → ProcessRecord)
    (source : AdjustSource) :
    AllPopulated (supervisor.withRecordAdjusted uid pid f source).supervisor := by
  rw [Supervisor.withRecordAdjusted]
  cases supervisor.record? uid pid with
  | none => exact h
  | some _ => exact allPopulated_withApp h uid _ fun app => populated_withRecord pid f

theorem allPopulated_withRecordNonNull (uid pid : Int) (f : ProcessRecord → ProcessRecord) :
    AllPopulated (supervisor.withAppNonNull uid fun app => app.withRecordNonNull pid f) :=
  allPopulated_withAppNonNull h uid _ fun app => populated_withRecordNonNull app pid f

theorem allPopulated_procInfo (payload : Payload) (handler : Int × Int × Supervisor → Handled)
    (hhandler : ∀ uid pid after, AllPopulated after →
      AllPopulated (handler (uid, pid, after)).supervisor) :
    AllPopulated
      (supervisor.parsed (GetProcInfoByPayload supervisor payload) handler).supervisor := by
  refine allPopulated_parsed h _ _ ?_
  rintro ⟨uid, pid, after⟩ hargs
  apply hhandler
  rw [GetProcInfoByPayload_supervisor hargs]
  exact allPopulated_withApp h uid _ fun app _ => populated_withRecordNonNull app pid id

/-! ## The handlers -/

theorem HandleProcessStateChangedEx_populated (env : External) (value : Int) (payload : Payload) :
    AllPopulated (HandleProcessStateChangedEx env supervisor value payload).supervisor := by
  rw [HandleProcessStateChangedEx]
  split_ifs
  · refine allPopulated_parsed h _ _ fun info _ => allPopulated_withAppNonNull h _ _ fun app => ?_
    refine ⟨info.pid, ?_⟩
    rw [lookup_createApplication, if_pos rfl]
    rfl
  · refine allPopulated_parsed h _ _ ?_
    rintro ⟨uid, pid⟩ -
    dsimp only
    cases hlookup : supervisor.uidsMap.lookup uid with
    | none => exact h
    | some app =>
        dsimp only
        split_ifs with hkeys
        · exact allPopulated_RemoveApplication h uid
        · -- the application is kept when a process is left
          intro other after hafter
          rw [Supervisor.withApp, AssocMap.lookup_modify] at hafter
          split_ifs at hafter with hother
          · rw [hother, hlookup] at hafter
            obtain rfl := Option.some.inj hafter
            obtain ⟨left, hleft⟩ := List.exists_mem_of_ne_nil _ hkeys
            exact ⟨left, AList.lookup_isSome.mpr hleft⟩
          · exact h other after hafter
  · refine allPopulated_parsed h _ _ ?_
    rintro ⟨uid, pid, state⟩ -
    dsimp only
    split_ifs
    · exact allPopulated_withRecordNonNull h uid pid _
    · exact allPopulated_withRecordNonNull h uid pid _

theorem HandleExtensionStateChanged_populated (env : External) (payload : Payload) :
    AllPopulated (HandleExtensionStateChanged env supervisor payload).supervisor := by
  refine allPopulated_parsed h _ _ ?_
  rintro ⟨uid, pid, abilityName, recordId, extensionState, abilityType⟩ -
  dsimp only
  split_ifs
  · exact allPopulated_withRecordAdjusted h uid pid _ _
  · exact allPopulated_withRecordNonNull h uid pid _

theorem HandleAbilityStateChanged_populated (env : External) (payload : Payload) :
    AllPopulated (HandleAbilityStateChanged env supervisor payload).supervisor := by
  refine allPopulated_parsed h _ _ ?_
  rintro ⟨uid, pid, abilityName, recordId, abilityState, abilityType⟩ -
  dsimp only
  split_ifs
  · refine allPopulated_parsed h _ _ fun uiExtensionState _ => ?_
    exact HandleExtensionStateChanged_populated h env _
  · exact allPopulated_withRecordAdjusted h uid pid _ _
  · exact h
  · exact allPopulated_withRecordNonNull h uid pid _

theorem HandleFocusStateChange_populated (value : Int) (payload : Payload) :
    AllPopulated (HandleFocusStateChange supervisor value payload).supervisor := by
  refine allPopulated_parsed h _ _ fun info _ => ?_
  split_ifs
  · refine allPopulated_withAppNonNull h _ _ fun app => ⟨info.pid, ?_⟩
    rw [lookup_focusApplication, if_pos rfl]
    rfl
  · rw [HandleUnfocusedWindow]
    cases supervisor.record? info.uid info.pid with
    | none => exact h
    | some _ =>
        refine allPopulated_withApp h _ _ fun app happ => ?_
        exact populated_withRecord info.pid _ happ
  · exact h

theorem HandleWindowVisibilityChanged_populated (value : Int) (payload : Payload) :
    AllPopulated (HandleWindowVisibilityChanged supervisor value payload).supervisor := by
  refine allPopulated_parsed h _ _ ?_
  rintro ⟨pid, uid, windowId, windowType⟩ -
  dsimp only
  split_ifs
  · exact h
  · exact allPopulated_withRecordNonNull h uid pid _
  · exact allPopulated_withRecordNonNull h uid pid _

theorem HandleReportKeyThread_populated (tidIsInPid : Bool) (value : Int) (payload : Payload) :
    AllPopulated (HandleReportKeyThread supervisor tidIsInPid value payload).supervisor := by
  refine allPopulated_procInfo h payload _ fun uid pid after hafter => ?_
  refine allPopulated_parsed hafter _ _ ?_
  rintro ⟨keyTid, role⟩ -
  dsimp only
  split_ifs
  · exact hafter
  · rw [adjustHost_supervisor]
    exact allPopulated_withApp hafter uid _ fun app => populated_withRecord pid _
  · rw [adjustHost_supervisor]
    exact allPopulated_withApp hafter uid _ fun app => populated_withRecord pid _

theorem HandleReportWindowState_populated (payload : Payload) :
    AllPopulated (HandleReportWindowState supervisor payload).supervisor := by
  refine allPopulated_procInfo h payload _ fun uid pid after hafter => ?_
  refine allPopulated_parsed hafter _ _ ?_
  rintro ⟨windowId, state, nowSerialNum⟩ -
  dsimp only
  cases (after.record? uid pid).map ProcessRecord.serialNum with
  | none => exact hafter
  | some serialNum =>
      dsimp only
      split_ifs
      · exact hafter
      · rw [adjustHost_supervisor]
        exact allPopulated_withApp hafter uid _ fun app => populated_withRecord pid _

theorem HandleReportCosmicCubeState_populated (value : Int) (payload : Payload) :
    AllPopulated (HandleReportCosmicCubeState supervisor value payload).supervisor := by
  rw [HandleReportCosmicCubeState]
  cases ParsePayload payload with
  | none =>
      dsimp only
      rw [HandleEmptyPayloadForCosmicCubeState]
      split_ifs
      · exact h
      · dsimp only
        generalize AssocMap.ascendingKeys supervisor.uidsMap = uids
        induction uids generalizing supervisor with
        | nil => exact h
        | cons uid uids ih => exact ih (allPopulated_withApp h uid _ fun app happ => happ)
  | some ids =>
      obtain ⟨uid, pid⟩ := ids
      dsimp only
      cases supervisor.record? uid pid with
      | none => exact h
      | some record => exact allPopulated_withApp h uid _ fun app happ => happ

/-- The update of an event that demands no unknown application leaves none without a process. -/
theorem update_populated (env : External) (event : Event)
    (hknown : DemandsKnown env supervisor event) :
    AllPopulated (supervisor.update env event).supervisor := by
  cases event with
  | HandleApplicationStateChanged payload =>
      refine allPopulated_parsed h _ _ ?_
      rintro ⟨uid, state⟩ hargs
      simp only [Option.bind_eq_bind, Option.bind_eq_some_iff, Option.pure_def, Option.some.injEq,
        Prod.mk.injEq] at hargs
      obtain ⟨_, huid, _, hpid, _, hname, _, hstate, rfl, rfl⟩ := hargs
      dsimp only
      split_ifs with hterminated
      · exact h
      · refine allPopulated_withKnownApp h _ id (hknown _ ?_) fun app happ => happ
        simp [demandedUid, huid, hpid, hname, hstate, hterminated]
  | HandleProcessStateChangedEx value payload =>
      exact HandleProcessStateChangedEx_populated h env value payload
  | HandleOnAppStopped payload =>
      exact allPopulated_parsed h _ _ fun uid _ => allPopulated_RemoveApplication h uid
  | HandleAbilityStateChanged payload => exact HandleAbilityStateChanged_populated h env payload
  | HandleExtensionStateChanged payload =>
      exact HandleExtensionStateChanged_populated h env payload
  | HandleTransientTaskStatus value payload =>
      refine allPopulated_parsed h _ _ ?_
      rintro ⟨uid, pid⟩ hargs
      dsimp only
      split_ifs with hvalue
      · refine allPopulated_withKnownApp h uid _ (hknown uid ?_) fun app =>
          populated_withRecord pid _
        simp [demandedUid, hvalue, hargs]
      · exact h
  | HandleContinuousTaskStatus value payload =>
      refine allPopulated_parsed h _ _ ?_
      rintro ⟨uid, pid, abilityId⟩ hargs
      simp only [Option.bind_eq_bind, Option.bind_eq_some_iff, Option.pure_def, Option.some.injEq,
        Prod.mk.injEq] at hargs
      obtain ⟨_, huid, _, hpid, _, hability, rfl, rfl, rfl⟩ := hargs
      dsimp only
      split_ifs with hupdate hend
      · exact allPopulated_withRecordNonNull h _ _ _
      · refine allPopulated_withRecordAdjusted
          (allPopulated_withKnownApp h _ id (hknown _ ?_) fun app happ => happ) _ _ _ _
        simp [demandedUid, hend, huid, hpid, hability]
      · exact h
  | HandleFocusStateChange value payload => exact HandleFocusStateChange_populated h value payload
  | HandleWindowVisibilityChanged value payload =>
      exact HandleWindowVisibilityChanged_populated h value payload
  | HandleDrawingContentChangeWindow value payload =>
      refine allPopulated_parsed h _ _ ?_
      rintro ⟨pid, uid, windowId⟩ -
      exact allPopulated_withApp h uid _ fun app => populated_withRecord pid _
  | HandleReportKeyThread tidIsInPid value payload =>
      exact HandleReportKeyThread_populated h tidIsInPid value payload
  | HandleReportWindowState payload => exact HandleReportWindowState_populated h payload
  | HandleWebviewScreenCapture value payload =>
      refine allPopulated_procInfo h payload _ fun uid pid after hafter => ?_
      exact allPopulated_withRecordAdjusted hafter uid pid _ _
  | HandleReportWebviewVideoState value payload =>
      refine allPopulated_procInfo h payload _ fun uid pid after hafter => ?_
      exact allPopulated_withApp hafter uid _ fun app => populated_withRecord pid _
  | HandleReportAudioState value payload =>
      exact allPopulated_parsed h _ _ fun ids _ => allPopulated_withRecordAdjusted h _ _ _ _
  | HandleReportAudioCapTureState value payload =>
      exact allPopulated_parsed h _ _ fun ids _ => allPopulated_withRecordAdjusted h _ _ _ _
  | HandleReportWebviewAudioState value payload =>
      refine allPopulated_parsed h _ _ ?_
      rintro ⟨uid, pid⟩ hargs
      have happ := allPopulated_withKnownApp h uid id (hknown uid (by simp [demandedUid, hargs]))
        fun app happ => happ
      exact allPopulated_withRecordAdjusted happ uid pid _ _
  | HandleReportScreenCaptureEvent value payload =>
      exact allPopulated_parsed h _ _ fun ids _ => allPopulated_withRecordAdjusted h _ _ _ _
  | HandleReportCosmicCubeState value payload =>
      exact HandleReportCosmicCubeState_populated h value payload

/-- Adjusting groups takes no process away. -/
theorem perform_populated (env : External) (call : AdjustCall) :
    AllPopulated (supervisor.perform env call) := by
  cases call with
  | AdjustProcessGroup uid pid source =>
      refine allPopulated_withApp h uid _ fun app => ?_
      exact (AdjustProcessGroup_regrouped env app pid source).populated
  | AdjustAllProcessGroup uid source =>
      refine allPopulated_withApp h uid _ fun app => ?_
      exact (AdjustAllProcessGroup_regrouped env app source).populated

theorem handle_populated (env : External) (event : Event)
    (hknown : DemandsKnown env supervisor event) : AllPopulated (supervisor.handle env event) :=
  List.foldlRecOn _ _ (update_populated h env event hknown)
    fun _ hbefore call _ => perform_populated hbefore env call

theorem reload_populated (runningProcess : List RunningProcessInfo)
    (childProcess : List ChildProcessInfo) :
    AllPopulated (supervisor.InitSuperVisorContent runningProcess childProcess) := by
  have hrunning : AllPopulated (supervisor.ReloadApplication runningProcess) :=
    List.foldlRecOn _ _ h fun _ hbefore process _ =>
      allPopulated_withRecordNonNull hbefore process.uid process.pid id
  refine List.foldlRecOn _ _ hrunning fun _ hbefore process _ => ?_
  exact allPopulated_withAppNonNull hbefore process.hostUid _ fun app =>
    populated_withRecordNonNull _ process.pid _

end

/-! ## Every run -/

/-- What the events of the handler need; a reload needs nothing. -/
def NoticeDemandsKnown (env : External) (supervisor : Supervisor) : Notice → Prop
  | .cgroupEvent event => DemandsKnown env supervisor event
  | .ReportAbilityStatus _ _ _ _ => True

theorem notice_populated (env : External) (supervisor : Supervisor) (notice : Notice)
    (h : AllPopulated supervisor) (hknown : NoticeDemandsKnown env supervisor notice) :
    AllPopulated (supervisor.notice env notice) := by
  cases notice with
  | cgroupEvent event => exact handle_populated h env event hknown
  | ReportAbilityStatus value payload runningProcess childProcess =>
      simp only [Supervisor.notice, ReportAbilityStatus]
      split_ifs
      · exact reload_populated h runningProcess childProcess
      · exact h

theorem lookup_withAppNonNull_self (supervisor : Supervisor) {uid : Int}
    (hnone : supervisor.uidsMap.lookup uid = none) :
    (supervisor.withAppNonNull uid id).uidsMap.lookup uid = some Application.new := by
  rw [Supervisor.withAppNonNull, AList.lookup_insert, hnone]
  rfl

/-- An application made on demand has no process. -/
theorem demandsKnown_of_populated (env : External) (supervisor : Supervisor) (notice : Notice)
    (h : AllPopulated (supervisor.notice env notice)) :
    NoticeDemandsKnown env supervisor notice := by
  cases notice with
  | cgroupEvent event =>
      intro uid hdemanded hnone
      rw [Supervisor.notice, handle_of_demanded env supervisor event hdemanded hnone] at h
      obtain ⟨pid, hpid⟩ := h uid _ (lookup_withAppNonNull_self supervisor hnone)
      simp [Application.new] at hpid
  | ReportAbilityStatus _ _ _ _ => trivial

/-- An event about the activity of an application without a record changes nothing exactly when
it demands no application. -/
theorem unknownUnchanged_iff (env : External) (supervisor : Supervisor) (event : Event) :
    UnknownUnchanged env supervisor event ↔
      (endedUid env event ≠ none → DemandsKnown env supervisor event) := by
  constructor
  · intro h hended uid hdemanded hnone
    obtain ⟨uid', huid'⟩ := Option.ne_none_iff_exists'.mp hended
    obtain rfl := ended_eq_demanded env event huid' hdemanded
    have hmade := lookup_withAppNonNull_self supervisor hnone
    rw [← handle_of_demanded env supervisor event hdemanded hnone, h _ huid' hnone, hnone] at hmade
    cases hmade
  · intro h uid hended hnone
    have hdemanded : demandedUid env event = none := by
      rw [Option.eq_none_iff_forall_ne_some]
      intro uid' hdemanded
      obtain rfl := ended_eq_demanded env event hended hdemanded
      exact h (by rw [hended]; exact Option.some_ne_none _) _ hdemanded hnone
    rw [Supervisor.handle, update_of_ended env supervisor event hended hdemanded hnone]
    rfl

/-- An event about the activity of an unknown application changes nothing, and every application
has a process throughout a run, if and only if no event makes an application on demand without
a process. -/
theorem populated_runs_iff (env : External) (notices : List Notice) :
    (∀ supervisor event, UnknownUnchanged env supervisor event ↔
      (endedUid env event ≠ none → DemandsKnown env supervisor event)) ∧
    (Always (Supervisor.notice env) AllPopulated Supervisor.start notices ↔
      EachStep (Supervisor.notice env) (NoticeDemandsKnown env) Supervisor.start notices) := by
  refine ⟨unknownUnchanged_iff env, ?_⟩
  exact always_iff_eachStep_of_strong (Supervisor.notice env) (fun _ h => h)
    (notice_populated env)
    (fun supervisor notice _ hnext => demandsKnown_of_populated env supervisor notice hnext)
    notices Supervisor.start (fun _ _ hlookup => by cases hlookup)

/-- The end of a transient task of a process that died with its application. -/
def lateEnd : Event :=
  .HandleTransientTaskStatus TRANSIENT_TASK_END (.object
    [("uid", .string "2000"), ("pid", .string "3000"), ("bundleName", .string "a")])

theorem lateEnd_makes_phantom :
    ¬ ((∀ env supervisor event, UnknownUnchanged env supervisor event) ∧
      ∀ env notices, Always (Supervisor.notice env) AllPopulated Supervisor.start notices) := by
  rintro ⟨hunchanged, -⟩
  have hsame := hunchanged framework Supervisor.start lateEnd 2000 (by decide +kernel) rfl
  have hmade : ((Supervisor.start.handle framework lateEnd).uidsMap.lookup 2000).isSome = true := by
    decide +kernel
  rw [hsame] at hmade
  cases hmade

end ResSched.Cgroup
