import ResSched.Library.Transition
import ResSched.Verification.Cgroup.Adjuster

/-! # Applications do not disturb each other

What the supervisor holds of an application depends on the events that concern it, and on no
others: they can be left out, and it does not matter how they come between.
-/

namespace ResSched.Cgroup

open Transition

def Supervisor.entry (supervisor : Supervisor) (uid : Int) : Option Application :=
  supervisor.uidsMap.lookup uid

/-! ## The application of an event -/

def Event.payload : Event → Payload
  | .HandleApplicationStateChanged payload => payload
  | .HandleProcessStateChangedEx _ payload => payload
  | .HandleOnAppStopped payload => payload
  | .HandleAbilityStateChanged payload => payload
  | .HandleExtensionStateChanged payload => payload
  | .HandleTransientTaskStatus _ payload => payload
  | .HandleContinuousTaskStatus _ payload => payload
  | .HandleFocusStateChange _ payload => payload
  | .HandleWindowVisibilityChanged _ payload => payload
  | .HandleDrawingContentChangeWindow _ payload => payload
  | .HandleReportKeyThread _ _ payload => payload
  | .HandleReportWindowState payload => payload
  | .HandleWebviewScreenCapture _ payload => payload
  | .HandleReportWebviewVideoState _ payload => payload
  | .HandleReportAudioState _ payload => payload
  | .HandleReportAudioCapTureState _ payload => payload
  | .HandleReportWebviewAudioState _ payload => payload
  | .HandleReportScreenCaptureEvent _ payload => payload
  | .HandleReportCosmicCubeState _ payload => payload

/-- The uid an event names. An application that stops has a number there, not a text. -/
def Event.uid : Event → Option Int
  | .HandleOnAppStopped payload => ParseStopped payload
  | event => ParseValue "uid" event.payload

/-- An event concerns the application it names; when all that is hidden is shown again, every
application. -/
def Event.concerns (uid : Int) : Event → Bool
  | .HandleReportCosmicCubeState value payload =>
      match ParsePayload payload with
      | some (target, _) => target = uid
      | none => value = APPLICATION_ABOUT_TO_RECOVER
  | event => event.uid = some uid

/-- A window that becomes active is looked for in every application. -/
def Event.activatesWindow : Event → Bool
  | .HandleReportWindowState payload => ParseValue "state" payload = some ACTIVE
  | _ => false

def AdjustCall.uid : AdjustCall → Int
  | .AdjustProcessGroup uid _ _ => uid
  | .AdjustAllProcessGroup uid _ => uid

/-! ## Entries after a change -/

theorem entry_withApp (supervisor : Supervisor) (uid other : Int)
    (f : Application → Application) :
    (supervisor.withApp uid f).entry other =
      if other = uid then (supervisor.entry other).map f else supervisor.entry other :=
  AssocMap.lookup_modify supervisor.uidsMap uid other f

theorem entry_withAppNonNull (supervisor : Supervisor) (uid other : Int)
    (f : Application → Application) :
    (supervisor.withAppNonNull uid f).entry other =
      if other = uid then some (f ((supervisor.entry uid).getD Application.new))
      else supervisor.entry other :=
  AssocMap.lookup_insert_ite supervisor.uidsMap uid other _

theorem entry_RemoveApplication (supervisor : Supervisor) (uid other : Int) :
    (supervisor.RemoveApplication uid).entry other =
      if other = uid then none else supervisor.entry other :=
  AssocMap.lookup_erase_ite supervisor.uidsMap uid other

theorem record?_congr {supervisor supervisor' : Supervisor} {uid : Int}
    (h : supervisor.entry uid = supervisor'.entry uid) (pid : Int) :
    supervisor.record? uid pid = supervisor'.record? uid pid :=
  congrArg (fun entry => entry.bind fun app => app.pidsMap.lookup pid) h

/-- What an adjustment does to the entry it names. -/
def adjusted (env : External) (entry : Option Application) (call : AdjustCall) :
    Option Application :=
  match call with
  | .AdjustProcessGroup _ pid source => entry.map (fun app => AdjustProcessGroup env app pid source)
  | .AdjustAllProcessGroup _ source => entry.map (fun app => AdjustAllProcessGroup env app source)

theorem entry_perform (env : External) (supervisor : Supervisor) (call : AdjustCall)
    (uid : Int) :
    (supervisor.perform env call).entry uid =
      if call.uid = uid then adjusted env (supervisor.entry uid) call
      else supervisor.entry uid := by
  cases call with
  | AdjustProcessGroup target pid source =>
      refine (entry_withApp supervisor target uid _).trans ?_
      exact if_congr eq_comm rfl rfl
  | AdjustAllProcessGroup target source =>
      refine (entry_withApp supervisor target uid _).trans ?_
      exact if_congr eq_comm rfl rfl

def callsOf (uid : Int) (calls : List AdjustCall) : List AdjustCall :=
  calls.filter fun call => call.uid = uid

/-- An entry changes by the adjustments that name it. -/
theorem entry_foldl_perform (env : External) (uid : Int) (calls : List AdjustCall)
    (supervisor : Supervisor) :
    (calls.foldl (Supervisor.perform env) supervisor).entry uid =
      (callsOf uid calls).foldl (adjusted env) (supervisor.entry uid) := by
  induction calls generalizing supervisor with
  | nil => rfl
  | cons call calls ih =>
      rw [List.foldl_cons, ih, entry_perform]
      by_cases hcall : call.uid = uid
      · simp [hcall, callsOf]
      · simp [hcall, callsOf]

/-! ## Handlers that stay with one application -/

/-- No other entry is changed or adjusted. -/
structure Within (target : Int) (handler : Supervisor → Handled) : Prop where
  frame : ∀ supervisor uid, uid ≠ target →
    (handler supervisor).supervisor.entry uid = supervisor.entry uid
  calls : ∀ supervisor, ∀ call ∈ (handler supervisor).calls, call.uid = target

/-- Nor does another entry count. -/
structure ConfinedTo (target : Int) (handler : Supervisor → Handled) : Prop
    extends Within target handler where
  own : ∀ supervisor supervisor', supervisor.entry target = supervisor'.entry target →
    (handler supervisor).supervisor.entry target =
        (handler supervisor').supervisor.entry target ∧
      (handler supervisor).calls = (handler supervisor').calls

/-- A change of the records that stays with one application. -/
structure ChangesOnly (target : Int) (change : Supervisor → Supervisor) : Prop where
  frame : ∀ supervisor uid, uid ≠ target → (change supervisor).entry uid = supervisor.entry uid
  own : ∀ supervisor supervisor', supervisor.entry target = supervisor'.entry target →
    (change supervisor).entry target = (change supervisor').entry target

section

variable {target : Int}

theorem changesOnly_withApp (f : Application → Application) :
    ChangesOnly target fun supervisor => supervisor.withApp target f := by
  constructor
  · intro supervisor uid huid
    rw [entry_withApp, if_neg huid]
  · intro supervisor supervisor' h
    rw [entry_withApp, entry_withApp, h]

theorem changesOnly_withAppNonNull (f : Application → Application) :
    ChangesOnly target fun supervisor => supervisor.withAppNonNull target f := by
  constructor
  · intro supervisor uid huid
    rw [entry_withAppNonNull, if_neg huid]
  · intro supervisor supervisor' h
    rw [entry_withAppNonNull, entry_withAppNonNull, h]

theorem changesOnly_RemoveApplication :
    ChangesOnly target fun supervisor => supervisor.RemoveApplication target := by
  constructor
  · intro supervisor uid huid
    rw [entry_RemoveApplication, if_neg huid]
  · intro supervisor supervisor' _
    rw [entry_RemoveApplication, entry_RemoveApplication, if_pos rfl, if_pos rfl]

theorem confinedTo_change {change : Supervisor → Supervisor} (hchange : ChangesOnly target change)
    {calls : List AdjustCall} (hcalls : ∀ call ∈ calls, call.uid = target) :
    ConfinedTo target fun supervisor => ⟨change supervisor, calls⟩ where
  frame := hchange.frame
  calls := fun _ => hcalls
  own := fun supervisor supervisor' h => ⟨hchange.own supervisor supervisor' h, rfl⟩

/-- A handler that leaves the records alone and only asks for adjustments of `target`. -/
theorem confinedTo_calls {calls : List AdjustCall} (hcalls : ∀ call ∈ calls, call.uid = target) :
    ConfinedTo target fun supervisor => ⟨supervisor, calls⟩ where
  frame := fun _ _ _ => rfl
  calls := fun _ => hcalls
  own := fun _ _ h => ⟨h, rfl⟩

theorem confinedTo_unchanged : ConfinedTo target Supervisor.unchanged :=
  confinedTo_calls (by simp)

theorem ConfinedTo.comp {handler : Supervisor → Handled} (hhandler : ConfinedTo target handler)
    {change : Supervisor → Supervisor} (hchange : ChangesOnly target change) :
    ConfinedTo target fun supervisor => handler (change supervisor) where
  frame := fun supervisor uid huid =>
    (hhandler.frame (change supervisor) uid huid).trans (hchange.frame supervisor uid huid)
  calls := fun supervisor => hhandler.calls (change supervisor)
  own := fun supervisor supervisor' h =>
    hhandler.own (change supervisor) (change supervisor') (hchange.own supervisor supervisor' h)

/-- A handler that first reads its own application. -/
theorem confinedTo_read {α : Type} (read : Supervisor → α) (handler : α → Supervisor → Handled)
    (hread : ∀ supervisor supervisor', supervisor.entry target = supervisor'.entry target →
      read supervisor = read supervisor')
    (hhandler : ∀ a, ConfinedTo target (handler a)) :
    ConfinedTo target fun supervisor => handler (read supervisor) supervisor where
  frame := fun supervisor => (hhandler (read supervisor)).frame supervisor
  calls := fun supervisor => (hhandler (read supervisor)).calls supervisor
  own := fun supervisor supervisor' h => by
    rw [hread supervisor supervisor' h]
    exact (hhandler (read supervisor')).own supervisor supervisor' h

/-- A handler that first reads anything changes no other application either. -/
theorem within_read {α : Type} (read : Supervisor → α) (handler : α → Supervisor → Handled)
    (hhandler : ∀ a, Within target (handler a)) :
    Within target fun supervisor => handler (read supervisor) supervisor where
  frame := fun supervisor => (hhandler (read supervisor)).frame supervisor
  calls := fun supervisor => (hhandler (read supervisor)).calls supervisor

theorem confinedTo_parsed {α : Type} (args : Option α) (handler : α → Supervisor → Handled)
    (hhandler : ∀ a, args = some a → ConfinedTo target (handler a)) :
    ConfinedTo target fun supervisor => supervisor.parsed args fun a => handler a supervisor := by
  cases args with
  | none => exact confinedTo_unchanged
  | some a => exact hhandler a rfl

/-- What a handler does with a record that it may not find. -/
def withFound (handler : ProcessRecord → Supervisor → Handled) (record : Option ProcessRecord)
    (supervisor : Supervisor) : Handled :=
  match record with
  | none => supervisor.unchanged
  | some record => handler record supervisor

theorem confinedTo_record (pid : Int) (handler : ProcessRecord → Supervisor → Handled)
    (hhandler : ∀ record, ConfinedTo target (handler record)) :
    ConfinedTo target fun supervisor =>
      withFound handler (supervisor.record? target pid) supervisor := by
  apply confinedTo_read (fun supervisor => supervisor.record? target pid) (withFound handler)
  · exact fun _ _ h => record?_congr h pid
  · intro record
    cases record with
    | none => exact confinedTo_unchanged
    | some record => exact hhandler record

theorem confinedTo_withRecordAdjusted (pid : Int) (f : ProcessRecord → ProcessRecord)
    (source : AdjustSource) :
    ConfinedTo target fun supervisor => supervisor.withRecordAdjusted target pid f source := by
  apply confinedTo_record pid (fun _ supervisor =>
    ⟨supervisor.withApp target (fun app => app.withRecord pid f),
      [.AdjustProcessGroup target pid source]⟩)
  exact fun _ => confinedTo_change (changesOnly_withApp _) (by simp [AdjustCall.uid])

theorem confinedTo_withRecordNonNullAdjusted (pid : Int) (f : ProcessRecord → ProcessRecord)
    (source : AdjustSource) :
    ConfinedTo target fun supervisor =>
      supervisor.withRecordNonNullAdjusted target pid f source :=
  confinedTo_change (changesOnly_withAppNonNull _) (by simp [AdjustCall.uid])

/-- The adjustment of a host whose process may not be known. -/
def adjustFoundHost (uid : Int) (source : AdjustSource) (hostPid : Option Int)
    (supervisor : Supervisor) : Handled :=
  match hostPid with
  | none => supervisor.unchanged
  | some hostPid =>
      withFound (fun _ supervisor => ⟨supervisor, [.AdjustProcessGroup uid hostPid source]⟩)
        (supervisor.record? uid hostPid) supervisor

theorem confinedTo_adjustHost (pid : Int) (source : AdjustSource) :
    ConfinedTo target fun supervisor => supervisor.adjustHost target pid source := by
  apply confinedTo_read (fun supervisor => (supervisor.record? target pid).map ProcessRecord.hostPid)
    (adjustFoundHost target source)
  · intro supervisor supervisor' h
    rw [record?_congr h pid]
  · intro hostPid
    cases hostPid with
    | none => exact confinedTo_unchanged
    | some hostPid =>
        apply confinedTo_record hostPid (fun _ supervisor =>
          ⟨supervisor, [.AdjustProcessGroup target hostPid source]⟩)
        exact fun _ => confinedTo_calls (by simp [AdjustCall.uid])

theorem GetProcInfoByPayload_eq {payload : Payload} {pid : Int}
    (hparse : ParsePayload payload = some (target, pid)) (supervisor : Supervisor) :
    GetProcInfoByPayload supervisor payload =
      (supervisor.uidsMap.lookup target).map fun _ =>
        (target, pid, supervisor.withApp target fun app => app.withRecordNonNull pid id) := by
  rw [GetProcInfoByPayload, hparse]
  cases hentry : supervisor.uidsMap.lookup target <;> simp [hentry]

theorem GetProcInfoByPayload_of_none {payload : Payload} (hparse : ParsePayload payload = none)
    (supervisor : Supervisor) : GetProcInfoByPayload supervisor payload = none := by
  rw [GetProcInfoByPayload, hparse]
  rfl

/-- The record is made on demand in an application that exists. -/
theorem procInfo_eq {payload : Payload} {pid : Int}
    (hparse : ParsePayload payload = some (target, pid))
    (handler : Int × Int × Supervisor → Handled) :
    (fun supervisor : Supervisor =>
        supervisor.parsed (GetProcInfoByPayload supervisor payload) handler) =
      fun supervisor => match supervisor.uidsMap.lookup target with
        | none => supervisor.unchanged
        | some _ =>
            handler (target, pid,
              supervisor.withApp target fun app => app.withRecordNonNull pid id) := by
  funext supervisor
  rw [GetProcInfoByPayload_eq hparse]
  cases supervisor.uidsMap.lookup target <;> rfl

theorem confinedTo_procInfo {payload : Payload} {pid : Int}
    (hparse : ParsePayload payload = some (target, pid))
    (handler : Int × Int × Supervisor → Handled)
    (hhandler : ConfinedTo target fun supervisor => handler (target, pid, supervisor)) :
    ConfinedTo target fun supervisor =>
      supervisor.parsed (GetProcInfoByPayload supervisor payload) handler := by
  rw [procInfo_eq hparse]
  apply confinedTo_read (fun supervisor => supervisor.uidsMap.lookup target)
    (fun entry supervisor => match entry with
      | none => supervisor.unchanged
      | some _ =>
          handler (target, pid,
            supervisor.withApp target fun app => app.withRecordNonNull pid id))
  · exact fun _ _ h => h
  · intro entry
    cases entry with
    | none => exact confinedTo_unchanged
    | some _ => exact hhandler.comp (changesOnly_withApp _)

end

/-! ## The handlers -/

section

variable {target : Int} {payload : Payload} (huid : ParseValue "uid" payload = some target)

include huid

theorem uid_of_ParsePayload {uid pid : Int} (h : ParsePayload payload = some (uid, pid)) :
    uid = target := by
  rw [ParsePayload, huid] at h
  simp only [Option.bind_eq_bind, Option.bind_some, Option.bind_eq_some_iff] at h
  obtain ⟨_, _, h⟩ := h
  split_ifs at h
  simp only [Option.pure_def, Option.some.injEq, Prod.mk.injEq] at h
  exact h.1.symm

theorem uid_of_ParseProcess {uid pid : Int} (h : ParseProcess payload = some (uid, pid)) :
    uid = target := by
  rw [ParseProcess, huid] at h
  simp only [Option.bind_eq_bind, Option.bind_some, Option.bind_eq_some_iff, Option.pure_def,
    Option.some.injEq, Prod.mk.injEq] at h
  obtain ⟨_, _, _, _, h, _⟩ := h
  exact h.symm

theorem confinedTo_HandleApplicationStateChanged (env : External) :
    ConfinedTo target fun supervisor => HandleApplicationStateChanged env supervisor payload := by
  apply confinedTo_parsed
  intro args hargs
  rw [huid] at hargs
  simp only [Option.bind_eq_bind, Option.bind_some, Option.bind_eq_some_iff, Option.pure_def,
    Option.some.injEq] at hargs
  obtain ⟨_, _, _, _, state, _, rfl⟩ := hargs
  by_cases hend : state = env.APP_STATE_TERMINATED
  · simp only [hend, if_true]
    exact confinedTo_unchanged
  · simp only [hend, if_false]
    exact confinedTo_change (changesOnly_withAppNonNull id) (by simp)

theorem confinedTo_HandleProcessCreated (env : External) :
    ConfinedTo target fun supervisor => HandleProcessCreated env supervisor payload := by
  apply confinedTo_parsed
  intro info hinfo
  have htarget : info.uid = target := by
    rw [ParseProcessCreateInfo, huid] at hinfo
    simp only [Option.bind_eq_bind, Option.bind_some, Option.bind_eq_some_iff, Option.pure_def,
      Option.some.injEq] at hinfo
    obtain ⟨_, _, _, _, _, _, _, _, _, _, _, _, rfl⟩ := hinfo
    rfl
  rw [htarget]
  exact confinedTo_change (changesOnly_withAppNonNull _) (by simp [AdjustCall.uid])

theorem confinedTo_HandleProcessDied :
    ConfinedTo target fun supervisor => HandleProcessDied supervisor payload := by
  apply confinedTo_parsed
  rintro ⟨uid, pid⟩ hargs
  obtain rfl := uid_of_ParseProcess huid hargs
  apply confinedTo_read (fun supervisor => supervisor.uidsMap.lookup uid)
    (fun entry supervisor => match entry with
      | none => supervisor.unchanged
      | some app =>
          if (app.RemoveProcessRecord pid).pidsMap.keys = [] then
            ⟨supervisor.RemoveApplication uid, []⟩
          else ⟨supervisor.withApp uid (fun app => app.RemoveProcessRecord pid), []⟩)
  · exact fun _ _ h => h
  · intro entry
    cases entry with
    | none => exact confinedTo_unchanged
    | some app =>
        dsimp only
        by_cases hlast : (app.RemoveProcessRecord pid).pidsMap.keys = []
        · simp only [hlast, if_true]
          exact confinedTo_change changesOnly_RemoveApplication (by simp)
        · simp only [hlast, if_false]
          exact confinedTo_change (changesOnly_withApp _) (by simp)

theorem confinedTo_HandleProcessStateChanged (env : External) :
    ConfinedTo target fun supervisor => HandleProcessStateChanged env supervisor payload := by
  apply confinedTo_parsed
  intro args hargs
  rw [huid] at hargs
  simp only [Option.bind_eq_bind, Option.bind_some, Option.bind_eq_some_iff, Option.pure_def,
    Option.some.injEq] at hargs
  obtain ⟨pid, _, _, _, state, _, rfl⟩ := hargs
  dsimp only
  by_cases hlaunch :
      state = PROCESS_BACKGROUND ∧ (ParseValue "preloadMode" payload).getD (-1) = env.PRE_LAUNCH
  · simp only [hlaunch, and_self, if_true]
    exact confinedTo_change (changesOnly_withAppNonNull _) (by simp)
  · simp only [hlaunch, if_false]
    exact confinedTo_withRecordNonNullAdjusted pid _ _

theorem confinedTo_HandleExtensionStateChanged (env : External) :
    ConfinedTo target fun supervisor => HandleExtensionStateChanged env supervisor payload := by
  apply confinedTo_parsed
  intro args hargs
  rw [huid] at hargs
  simp only [Option.bind_eq_bind, Option.bind_some, Option.bind_eq_some_iff, Option.pure_def,
    Option.some.injEq] at hargs
  obtain ⟨pid, _, _, _, _, _, _, _, state, _, _, _, rfl⟩ := hargs
  dsimp only
  by_cases hend : state = env.EXTENSION_STATE_TERMINATED
  · simp only [hend, if_true]
    exact confinedTo_withRecordAdjusted pid _ _
  · simp only [hend, if_false]
    exact confinedTo_withRecordNonNullAdjusted pid _ _

end

/-- The payload of a UI extension is handed on with its state and the same uid. -/
theorem ParseValue_set_extensionState {target : Int} {payload : Payload}
    (huid : ParseValue "uid" payload = some target) (state : Payload) :
    ParseValue "uid" (payload.set "extensionState" state) = some target := by
  rw [← huid, ParseValue, ParseValue, ParseString, ParseString]
  cases hfind : payload.find? "uid" with
  | none =>
      rw [ParseValue, ParseString, hfind] at huid
      exact absurd huid (by simp)
  | some value =>
      rw [Json.find?_set_ne payload "extensionState" "uid" state (by decide)
        (Json.is_object_of_find? hfind), hfind]

section

variable {target : Int} {payload : Payload} (huid : ParseValue "uid" payload = some target)

include huid

theorem confinedTo_HandleUIExtensionAbilityStateChange (env : External) :
    ConfinedTo target fun supervisor =>
      HandleUIExtensionAbilityStateChange env supervisor payload := by
  apply confinedTo_parsed
  intro state _
  exact confinedTo_HandleExtensionStateChanged (ParseValue_set_extensionState huid _) env

theorem confinedTo_HandleAbilityStateChanged (env : External) :
    ConfinedTo target fun supervisor => HandleAbilityStateChanged env supervisor payload := by
  apply confinedTo_parsed
  intro args hargs
  rw [huid] at hargs
  simp only [Option.bind_eq_bind, Option.bind_some, Option.bind_eq_some_iff, Option.pure_def,
    Option.some.injEq] at hargs
  obtain ⟨pid, _, _, _, _, _, _, _, _, _, state, _, type, _, rfl⟩ := hargs
  dsimp only
  by_cases htype : type = env.ABILITY_TYPE_EXTENSION
  · simp only [htype, if_true]
    exact confinedTo_HandleUIExtensionAbilityStateChange huid env
  · simp only [htype, if_false]
    by_cases hend : state = env.ABILITY_STATE_TERMINATED
    · simp only [hend, if_true]
      exact confinedTo_withRecordAdjusted pid _ _
    · simp only [hend, if_false]
      cases HandlePrelaunch env state ((ParseValue "preloadMode" payload).getD (-1)) with
      | true => exact confinedTo_unchanged
      | false => exact confinedTo_withRecordNonNullAdjusted pid _ _

theorem confinedTo_HandleTransientTaskStatus (value : Int) :
    ConfinedTo target fun supervisor => HandleTransientTaskStatus supervisor value payload := by
  apply confinedTo_parsed
  rintro ⟨uid, pid⟩ hargs
  obtain rfl := uid_of_ParseProcess huid hargs
  dsimp only
  by_cases hvalue : value = TRANSIENT_TASK_START ∨ value = TRANSIENT_TASK_END
  · simp only [hvalue, if_true]
    exact confinedTo_change (changesOnly_withAppNonNull _) (by simp)
  · simp only [hvalue, if_false]
    exact confinedTo_unchanged

theorem confinedTo_HandleContinuousTaskStatus (value : Int) :
    ConfinedTo target fun supervisor => HandleContinuousTaskStatus supervisor value payload := by
  apply confinedTo_parsed
  intro args hargs
  rw [huid] at hargs
  simp only [Option.bind_eq_bind, Option.bind_some, Option.bind_eq_some_iff, Option.pure_def,
    Option.some.injEq] at hargs
  obtain ⟨pid, _, abilityId, _, rfl⟩ := hargs
  dsimp only
  by_cases hupdate : value = CONTINUOUS_TASK_START ∨ value = CONTINUOUS_TASK_UPDATE
  · simp only [hupdate, if_true]
    exact confinedTo_withRecordNonNullAdjusted pid _ _
  · simp only [hupdate, if_false]
    by_cases hend : value = CONTINUOUS_TASK_END
    · simp only [hend, if_true]
      exact (confinedTo_withRecordAdjusted pid _ _).comp (changesOnly_withAppNonNull id)
    · simp only [hend, if_false]
      exact confinedTo_unchanged

theorem confinedTo_HandleFocusStateChange (value : Int) :
    ConfinedTo target fun supervisor => HandleFocusStateChange supervisor value payload := by
  apply confinedTo_parsed
  intro info hinfo
  have htarget : info.uid = target := by
    rw [ParseFocus, huid] at hinfo
    simp only [Option.bind_eq_bind, Option.bind_some, Option.bind_eq_some_iff, Option.pure_def,
      Option.some.injEq] at hinfo
    obtain ⟨_, _, _, _, _, _, _, _, rfl⟩ := hinfo
    rfl
  rw [htarget]
  by_cases hfocus : value = WINDOW_FOCUS
  · simp only [hfocus, if_true]
    exact confinedTo_change (changesOnly_withAppNonNull _) (by simp [AdjustCall.uid])
  · simp only [hfocus, if_false]
    by_cases hunfocus : value = WINDOW_UNFOCUS
    · simp only [hunfocus, if_true]
      apply confinedTo_record info.pid (fun _ supervisor =>
        ⟨supervisor.withApp target
            (unfocusApplication info.windowId info.windowType info.displayId info.pid),
          [.AdjustAllProcessGroup target .ADJS_UNFOCUSED_WINDOW]⟩)
      exact fun _ => confinedTo_change (changesOnly_withApp _) (by simp [AdjustCall.uid])
    · simp only [hunfocus, if_false]
      exact confinedTo_unchanged

theorem confinedTo_HandleWindowVisibilityChanged (value : Int) :
    ConfinedTo target fun supervisor =>
      HandleWindowVisibilityChanged supervisor value payload := by
  apply confinedTo_parsed
  intro args hargs
  rw [huid] at hargs
  simp only [Option.bind_eq_bind, Option.bind_some, Option.bind_eq_some_iff, Option.pure_def,
    Option.some.injEq] at hargs
  obtain ⟨pid, _, windowId, _, windowType, _, rfl⟩ := hargs
  apply confinedTo_read (fun supervisor => supervisor.record? target pid)
    (fun record supervisor =>
      if !(decide (value ≠ 0)) && record.isNone then supervisor.unchanged
      else
        ⟨supervisor.withAppNonNull target (fun app => app.withRecordNonNull pid (fun record =>
            record.withWindowInfo (CLibrary.toUnsigned 32 windowId) (fun window =>
              { window with isVisible := value ≠ 0, windowType := windowType }))),
          if visibleStatusNotChanged record (CLibrary.toUnsigned 32 windowId) (value ≠ 0) then []
          else [.AdjustProcessGroup target pid .ADJS_WINDOW_VISIBILITY_CHANGED]⟩)
  · exact fun _ _ h => record?_congr h pid
  · intro record
    split_ifs
    · exact confinedTo_unchanged
    · exact confinedTo_change (changesOnly_withAppNonNull _) (by simp)
    · exact confinedTo_change (changesOnly_withAppNonNull _) (by simp [AdjustCall.uid])

theorem confinedTo_HandleDrawingContentChangeWindow (value : Int) :
    ConfinedTo target fun supervisor =>
      HandleDrawingContentChangeWindow supervisor value payload := by
  apply confinedTo_parsed
  intro args hargs
  rw [huid] at hargs
  simp only [Option.bind_eq_bind, Option.bind_some, Option.bind_eq_some_iff, Option.pure_def,
    Option.some.injEq] at hargs
  obtain ⟨pid, _, windowId, _, _, _, rfl⟩ := hargs
  exact confinedTo_change (changesOnly_withApp _) (by simp)

/-- A handler of reports that name a process with a positive uid and pid. -/
theorem confinedTo_ParsePayload (handler : Int × Int → Supervisor → Handled)
    (hhandler : ∀ pid, ConfinedTo target (handler (target, pid))) :
    ConfinedTo target fun supervisor =>
      supervisor.parsed (ParsePayload payload) fun ids => handler ids supervisor := by
  apply confinedTo_parsed
  rintro ⟨uid, pid⟩ hargs
  obtain rfl := uid_of_ParsePayload huid hargs
  exact hhandler pid

theorem confinedTo_GetProcInfoByPayload (handler : Int × Int × Supervisor → Handled)
    (hhandler : ∀ pid, ConfinedTo target fun supervisor => handler (target, pid, supervisor)) :
    ConfinedTo target fun supervisor =>
      supervisor.parsed (GetProcInfoByPayload supervisor payload) handler := by
  cases hparse : ParsePayload payload with
  | none =>
      simp only [GetProcInfoByPayload_of_none hparse]
      exact confinedTo_unchanged
  | some ids =>
      obtain ⟨uid, pid⟩ := ids
      obtain rfl := uid_of_ParsePayload huid hparse
      exact confinedTo_procInfo hparse handler (hhandler pid)

theorem confinedTo_HandleReportKeyThread (tidIsInPid : Bool) (value : Int) :
    ConfinedTo target fun supervisor =>
      HandleReportKeyThread supervisor tidIsInPid value payload := by
  apply confinedTo_GetProcInfoByPayload huid
  intro pid
  apply confinedTo_parsed
  rintro ⟨keyTid, role⟩ _
  cases tidIsInPid with
  | false => exact confinedTo_unchanged
  | true => exact (confinedTo_adjustHost pid _).comp (changesOnly_withApp _)

theorem confinedTo_HandleWebviewScreenCapture (value : Int) :
    ConfinedTo target fun supervisor => HandleWebviewScreenCapture supervisor value payload :=
  confinedTo_GetProcInfoByPayload huid _ fun pid => confinedTo_withRecordAdjusted pid _ _

theorem confinedTo_HandleReportWebviewVideoState (value : Int) :
    ConfinedTo target fun supervisor => HandleReportWebviewVideoState supervisor value payload :=
  confinedTo_GetProcInfoByPayload huid _ fun _ =>
    confinedTo_change (changesOnly_withApp _) (by simp)

theorem confinedTo_HandleReportAudioState (value : Int) :
    ConfinedTo target fun supervisor => HandleReportAudioState supervisor value payload :=
  confinedTo_ParsePayload huid _ fun pid => confinedTo_withRecordAdjusted pid _ _

theorem confinedTo_HandleReportAudioCapTureState (value : Int) :
    ConfinedTo target fun supervisor => HandleReportAudioCapTureState supervisor value payload :=
  confinedTo_ParsePayload huid _ fun pid => confinedTo_withRecordAdjusted pid _ _

theorem confinedTo_HandleReportScreenCaptureEvent (value : Int) :
    ConfinedTo target fun supervisor => HandleReportScreenCaptureEvent supervisor value payload :=
  confinedTo_ParsePayload huid _ fun pid => confinedTo_withRecordAdjusted pid _ _

theorem confinedTo_HandleReportWebviewAudioState (value : Int) :
    ConfinedTo target fun supervisor => HandleReportWebviewAudioState supervisor value payload :=
  confinedTo_ParsePayload huid _ fun pid =>
    (confinedTo_withRecordAdjusted pid _ _).comp (changesOnly_withAppNonNull id)

end

/-! ## The state of a window -/

/-- The record after a report of a window, with the answer of `SearchWindowId`. -/
def windowRecord (searched : Bool) (windowId : Nat) (state nowSerialNum : Int)
    (record : ProcessRecord) : ProcessRecord :=
  if state = ACTIVE then
    if searched then
      { record with serialNum := nowSerialNum, linkedWindow := some windowId, isActive := true }
    else { record with serialNum := nowSerialNum }
  else { record with serialNum := nowSerialNum, linkedWindow := none, isActive := false }

def windowStateSearched (searched : Bool) (uid pid : Int) (windowId : Nat)
    (state nowSerialNum : Int) (supervisor : Supervisor) : Handled :=
  match (supervisor.record? uid pid).map ProcessRecord.serialNum with
  | none => supervisor.unchanged
  | some serialNum =>
      if outdatedSerial serialNum nowSerialNum then supervisor.unchanged
      else
        (supervisor.withApp uid (fun app =>
          app.withRecord pid (windowRecord searched windowId state nowSerialNum))).adjustHost uid
          pid .ADJS_REPORT_WINDOW_STATE_CHANGED

/-- `HandleReportWindowState` with the answers of `SearchWindowId` given beforehand. -/
def HandleReportWindowStateSearched (payload : Payload) (search : Nat → Bool)
    (supervisor : Supervisor) : Handled :=
  supervisor.parsed (GetProcInfoByPayload supervisor payload) fun (uid, pid, supervisor) =>
    supervisor.parsed (do
        let windowId ← ParseValue "windowId" payload
        let state ← ParseValue "state" payload
        let nowSerialNum ← ParseValue "serialNum" payload
        return (CLibrary.toUnsigned 32 windowId, state, nowSerialNum))
      fun (windowId, state, nowSerialNum) =>
        windowStateSearched (search windowId) uid pid windowId state nowSerialNum supervisor

/-- What `SearchWindowId` answers once the record of the process is there. -/
def searchAnswers (payload : Payload) (supervisor : Supervisor) (windowId : Nat) : Bool :=
  match GetProcInfoByPayload supervisor payload with
  | some (_, _, supervisor) => supervisor.SearchWindowId windowId
  | none => false

theorem confinedTo_windowStateSearched (searched : Bool) (target pid : Int) (windowId : Nat)
    (state nowSerialNum : Int) :
    ConfinedTo target (windowStateSearched searched target pid windowId state nowSerialNum) := by
  apply confinedTo_read
    (fun supervisor => (supervisor.record? target pid).map ProcessRecord.serialNum)
    (fun serialNum supervisor => match serialNum with
      | none => supervisor.unchanged
      | some serialNum =>
          if outdatedSerial serialNum nowSerialNum then supervisor.unchanged
          else
            (supervisor.withApp target (fun app =>
              app.withRecord pid (windowRecord searched windowId state nowSerialNum))).adjustHost
              target pid .ADJS_REPORT_WINDOW_STATE_CHANGED)
  · intro supervisor supervisor' h
    rw [record?_congr h pid]
  · intro serialNum
    cases serialNum with
    | none => exact confinedTo_unchanged
    | some serialNum =>
        cases houtdated : outdatedSerial serialNum nowSerialNum with
        | true =>
            simp only [houtdated, if_true]
            exact confinedTo_unchanged
        | false =>
            simp only [houtdated, Bool.false_eq_true, if_false]
            exact (confinedTo_adjustHost pid _).comp (changesOnly_withApp _)

theorem confinedTo_HandleReportWindowStateSearched {target : Int} {payload : Payload}
    (huid : ParseValue "uid" payload = some target) (search : Nat → Bool) :
    ConfinedTo target (HandleReportWindowStateSearched payload search) := by
  apply confinedTo_GetProcInfoByPayload huid
  intro pid
  apply confinedTo_parsed
  rintro ⟨windowId, state, nowSerialNum⟩ _
  exact confinedTo_windowStateSearched (search windowId) target pid windowId state nowSerialNum

theorem HandleReportWindowState_eq (payload : Payload) (supervisor : Supervisor) :
    HandleReportWindowState supervisor payload =
      HandleReportWindowStateSearched payload (searchAnswers payload supervisor) supervisor := by
  have hanswers : ∀ uid pid after, GetProcInfoByPayload supervisor payload = some (uid, pid, after) →
      searchAnswers payload supervisor = after.SearchWindowId := by
    intro uid pid after hinfo
    funext windowId
    rw [searchAnswers, hinfo]
  rw [HandleReportWindowState, HandleReportWindowStateSearched]
  cases hinfo : GetProcInfoByPayload supervisor payload with
  | none => rfl
  | some info => rw [hanswers _ _ _ hinfo]; rfl

/-- Only an active window is looked for. -/
theorem HandleReportWindowState_of_not_active {payload : Payload}
    (hstate : ParseValue "state" payload ≠ some ACTIVE) (supervisor : Supervisor) :
    HandleReportWindowState supervisor payload =
      HandleReportWindowStateSearched payload (fun _ => false) supervisor := by
  rw [HandleReportWindowState_eq, HandleReportWindowStateSearched, HandleReportWindowStateSearched]
  cases GetProcInfoByPayload supervisor payload with
  | none => rfl
  | some info =>
      simp only [Supervisor.parsed]
      cases hwindow : ParseValue "windowId" payload with
      | none => rfl
      | some windowId =>
          cases hread : ParseValue "state" payload with
          | none => rfl
          | some state =>
              cases ParseValue "serialNum" payload with
              | none => rfl
              | some serialNum =>
                  have hne : state ≠ ACTIVE := fun h => hstate (by rw [hread, h])
                  have hsame : ∀ searched, windowRecord searched
                      (CLibrary.toUnsigned 32 windowId) state serialNum =
                      windowRecord false (CLibrary.toUnsigned 32 windowId) state serialNum := by
                    intro searched
                    funext record
                    rw [windowRecord, windowRecord, if_neg hne, if_neg hne]
                  simp only [Option.bind_eq_bind, Option.bind_some, Option.pure_def,
                    windowStateSearched, hsame]

/-! ## Any event -/

theorem update_of_uid_none (env : External) (supervisor : Supervisor) {event : Event}
    (huid : event.uid = none) (hcosmic : ∀ value payload,
      event ≠ .HandleReportCosmicCubeState value payload) :
    supervisor.update env event = supervisor.unchanged := by
  have hpayload : ∀ payload : Payload, ParseValue "uid" payload = none →
      ParsePayload payload = none := by
    intro payload h
    rw [ParsePayload, h]
    rfl
  have hprocess : ∀ payload : Payload, ParseValue "uid" payload = none →
      ParseProcess payload = none := by
    intro payload h
    rw [ParseProcess, h]
    rfl
  cases event with
  | HandleApplicationStateChanged payload =>
      have huid : ParseValue "uid" payload = none := huid
      simp [Supervisor.update, HandleApplicationStateChanged, huid, Supervisor.parsed]
  | HandleProcessStateChangedEx value payload =>
      have huid : ParseValue "uid" payload = none := huid
      simp [Supervisor.update, HandleProcessStateChangedEx, HandleProcessCreated,
        ParseProcessCreateInfo, HandleProcessDied, hprocess payload huid,
        HandleProcessStateChanged, huid, Supervisor.parsed]
  | HandleOnAppStopped payload =>
      have huid : ParseStopped payload = none := huid
      simp [Supervisor.update, HandleOnAppStopped, huid, Supervisor.parsed]
  | HandleAbilityStateChanged payload =>
      have huid : ParseValue "uid" payload = none := huid
      simp [Supervisor.update, HandleAbilityStateChanged, huid, Supervisor.parsed]
  | HandleExtensionStateChanged payload =>
      have huid : ParseValue "uid" payload = none := huid
      simp [Supervisor.update, HandleExtensionStateChanged, huid, Supervisor.parsed]
  | HandleTransientTaskStatus value payload =>
      simp [Supervisor.update, HandleTransientTaskStatus, hprocess payload huid, Supervisor.parsed]
  | HandleContinuousTaskStatus value payload =>
      have huid : ParseValue "uid" payload = none := huid
      simp [Supervisor.update, HandleContinuousTaskStatus, huid, Supervisor.parsed]
  | HandleFocusStateChange value payload =>
      have huid : ParseValue "uid" payload = none := huid
      simp [Supervisor.update, HandleFocusStateChange, ParseFocus, huid, Supervisor.parsed]
  | HandleWindowVisibilityChanged value payload =>
      have huid : ParseValue "uid" payload = none := huid
      simp [Supervisor.update, HandleWindowVisibilityChanged, huid, Supervisor.parsed]
  | HandleDrawingContentChangeWindow value payload =>
      have huid : ParseValue "uid" payload = none := huid
      simp [Supervisor.update, HandleDrawingContentChangeWindow, huid, Supervisor.parsed]
  | HandleReportKeyThread tidIsInPid value payload =>
      simp [Supervisor.update, HandleReportKeyThread,
        GetProcInfoByPayload_of_none (hpayload payload huid), Supervisor.parsed]
  | HandleReportWindowState payload =>
      simp [Supervisor.update, HandleReportWindowState,
        GetProcInfoByPayload_of_none (hpayload payload huid), Supervisor.parsed]
  | HandleWebviewScreenCapture value payload =>
      simp [Supervisor.update, HandleWebviewScreenCapture,
        GetProcInfoByPayload_of_none (hpayload payload huid), Supervisor.parsed]
  | HandleReportWebviewVideoState value payload =>
      simp [Supervisor.update, HandleReportWebviewVideoState,
        GetProcInfoByPayload_of_none (hpayload payload huid), Supervisor.parsed]
  | HandleReportAudioState value payload =>
      simp [Supervisor.update, HandleReportAudioState, hpayload payload huid, Supervisor.parsed]
  | HandleReportAudioCapTureState value payload =>
      simp [Supervisor.update, HandleReportAudioCapTureState, hpayload payload huid,
        Supervisor.parsed]
  | HandleReportWebviewAudioState value payload =>
      simp [Supervisor.update, HandleReportWebviewAudioState, hpayload payload huid,
        Supervisor.parsed]
  | HandleReportScreenCaptureEvent value payload =>
      simp [Supervisor.update, HandleReportScreenCaptureEvent, hpayload payload huid,
        Supervisor.parsed]
  | HandleReportCosmicCubeState value payload => exact absurd rfl (hcosmic value payload)

theorem update_confinedTo (env : External) {event : Event} {target : Int}
    (huid : event.uid = some target)
    (hcosmic : ∀ value payload, event ≠ .HandleReportCosmicCubeState value payload)
    (hwindow : event.activatesWindow = false) :
    ConfinedTo target fun supervisor => supervisor.update env event := by
  cases event with
  | HandleApplicationStateChanged payload =>
      exact confinedTo_HandleApplicationStateChanged huid env
  | HandleProcessStateChangedEx value payload =>
      by_cases hcreated : value = PROCESS_CREATED
      · simp only [Supervisor.update, HandleProcessStateChangedEx, hcreated, if_true]
        exact confinedTo_HandleProcessCreated huid env
      · by_cases hdied : value = PROCESS_DIED
        · have hne : PROCESS_DIED ≠ PROCESS_CREATED := by decide
          simp only [Supervisor.update, HandleProcessStateChangedEx, hdied, if_neg hne, if_true]
          exact confinedTo_HandleProcessDied huid
        · simp only [Supervisor.update, HandleProcessStateChangedEx, hcreated, hdied, if_false]
          exact confinedTo_HandleProcessStateChanged huid env
  | HandleOnAppStopped payload =>
      apply confinedTo_parsed
      intro uid hargs
      obtain rfl : target = uid := Option.some.inj (huid.symm.trans hargs)
      exact confinedTo_change changesOnly_RemoveApplication (by simp)
  | HandleAbilityStateChanged payload => exact confinedTo_HandleAbilityStateChanged huid env
  | HandleExtensionStateChanged payload => exact confinedTo_HandleExtensionStateChanged huid env
  | HandleTransientTaskStatus value payload =>
      exact confinedTo_HandleTransientTaskStatus huid value
  | HandleContinuousTaskStatus value payload =>
      exact confinedTo_HandleContinuousTaskStatus huid value
  | HandleFocusStateChange value payload => exact confinedTo_HandleFocusStateChange huid value
  | HandleWindowVisibilityChanged value payload =>
      exact confinedTo_HandleWindowVisibilityChanged huid value
  | HandleDrawingContentChangeWindow value payload =>
      exact confinedTo_HandleDrawingContentChangeWindow huid value
  | HandleReportKeyThread tidIsInPid value payload =>
      exact confinedTo_HandleReportKeyThread huid tidIsInPid value
  | HandleReportWindowState payload =>
      have hstate : ParseValue "state" payload ≠ some ACTIVE := of_decide_eq_false hwindow
      simp only [Supervisor.update, HandleReportWindowState_of_not_active hstate]
      exact confinedTo_HandleReportWindowStateSearched huid fun _ => false
  | HandleWebviewScreenCapture value payload =>
      exact confinedTo_HandleWebviewScreenCapture huid value
  | HandleReportWebviewVideoState value payload =>
      exact confinedTo_HandleReportWebviewVideoState huid value
  | HandleReportAudioState value payload => exact confinedTo_HandleReportAudioState huid value
  | HandleReportAudioCapTureState value payload =>
      exact confinedTo_HandleReportAudioCapTureState huid value
  | HandleReportWebviewAudioState value payload =>
      exact confinedTo_HandleReportWebviewAudioState huid value
  | HandleReportScreenCaptureEvent value payload =>
      exact confinedTo_HandleReportScreenCaptureEvent huid value
  | HandleReportCosmicCubeState value payload => exact absurd rfl (hcosmic value payload)

/-- A window that becomes active is looked for elsewhere, but changes nothing there. -/
theorem update_within (env : External) {event : Event} {target : Int}
    (huid : event.uid = some target)
    (hcosmic : ∀ value payload, event ≠ .HandleReportCosmicCubeState value payload) :
    Within target fun supervisor => supervisor.update env event := by
  cases hwindow : event.activatesWindow with
  | false => exact (update_confinedTo env huid hcosmic hwindow).toWithin
  | true =>
      cases event with
      | HandleReportWindowState payload =>
          simp only [Supervisor.update, HandleReportWindowState_eq]
          exact within_read (searchAnswers payload) (HandleReportWindowStateSearched payload)
            fun search => (confinedTo_HandleReportWindowStateSearched huid search).toWithin
      | _ => exact absurd hwindow Bool.false_ne_true

/-! ## Hidden applications -/

theorem confinedTo_HandleReportCosmicCubeState {value : Int} {payload : Payload} {target pid : Int}
    (hparse : ParsePayload payload = some (target, pid)) :
    ConfinedTo target fun supervisor => HandleReportCosmicCubeState supervisor value payload := by
  simp only [HandleReportCosmicCubeState, hparse]
  apply confinedTo_record pid (fun record supervisor =>
    ⟨supervisor.withApp target (fun app =>
        { app with isCosmicCubeStateHide := value = APPLICATION_ABOUT_TO_HIDE }),
      if record.processType = NORMAL then
        [.AdjustProcessGroup target pid .ADJS_PROCESS_STATE]
      else []⟩)
  intro record
  split_ifs
  · exact confinedTo_change (changesOnly_withApp _) (by simp [AdjustCall.uid])
  · exact confinedTo_change (changesOnly_withApp _) (by simp)

/-- The entry when all that is hidden is shown again. -/
def shown (entry : Option Application) : Option Application :=
  entry.map fun app => { app with isCosmicCubeStateHide := false }

/-- The adjustments of one application when all that is hidden is shown again. -/
def shownCalls (uid : Int) (entry : Option Application) : List AdjustCall :=
  match entry with
  | some app => if app.isCosmicCubeStateHide then adjustNormal uid app else []
  | none => []

theorem shown_shown (entry : Option Application) : shown (shown entry) = shown entry := by
  cases entry <;> rfl

theorem uid_of_mem_shownCalls {uid : Int} {entry : Option Application} {call : AdjustCall}
    (h : call ∈ shownCalls uid entry) : call.uid = uid := by
  cases entry with
  | none => exact absurd h List.not_mem_nil
  | some app =>
      rw [shownCalls] at h
      split_ifs at h with hhide
      · obtain ⟨pid, _, hcall⟩ := List.mem_filterMap.mp h
        cases hrecord : app.pidsMap.lookup pid with
        | none => simp [hrecord] at hcall
        | some record =>
            simp only [hrecord] at hcall
            split_ifs at hcall
            rw [← Option.some.inj hcall]
            rfl
      · exact absurd h List.not_mem_nil

theorem entry_foldl_shown (uids : List Int) (uid : Int) (supervisor : Supervisor) :
    (uids.foldl (fun (supervisor : Supervisor) uid =>
        supervisor.withApp uid (fun app => { app with isCosmicCubeStateHide := false }))
        supervisor).entry uid =
      if uid ∈ uids then shown (supervisor.entry uid) else supervisor.entry uid := by
  induction uids generalizing supervisor with
  | nil => rfl
  | cons first uids ih =>
      rw [List.foldl_cons, ih, entry_withApp]
      by_cases hfirst : uid = first
      · subst hfirst
        have hmap : (supervisor.entry uid).map (fun app =>
            { app with isCosmicCubeStateHide := false }) = shown (supervisor.entry uid) := rfl
        simp [hmap, shown_shown]
      · simp [hfirst]

/-- Of the adjustments of all applications those of one are its own. -/
theorem callsOf_flatMap_shownCalls {uids : List Int} (hnodup : uids.Nodup) (uid : Int)
    (entries : Int → Option Application) :
    callsOf uid (uids.flatMap fun uid => shownCalls uid (entries uid)) =
      if uid ∈ uids then shownCalls uid (entries uid) else [] := by
  induction uids with
  | nil => rfl
  | cons first uids ih =>
      rw [List.nodup_cons] at hnodup
      rw [List.flatMap_cons, callsOf, List.filter_append, ← callsOf, ← callsOf, ih hnodup.2]
      by_cases hfirst : uid = first
      · subst hfirst
        have hall : callsOf uid (shownCalls uid (entries uid)) = shownCalls uid (entries uid) :=
          List.filter_eq_self.mpr fun call hcall => by simp [uid_of_mem_shownCalls hcall]
        simp [hall, hnodup.1]
      · have hnone : callsOf uid (shownCalls first (entries first)) = [] :=
          List.filter_eq_nil_iff.mpr fun call hcall => by
            simp [uid_of_mem_shownCalls hcall, Ne.symm hfirst]
        simp [hnone, hfirst]

theorem entry_HandleEmptyPayloadForCosmicCubeState (supervisor : Supervisor) (uid : Int) :
    (HandleEmptyPayloadForCosmicCubeState supervisor
        APPLICATION_ABOUT_TO_RECOVER).supervisor.entry uid = shown (supervisor.entry uid) ∧
      callsOf uid (HandleEmptyPayloadForCosmicCubeState supervisor
        APPLICATION_ABOUT_TO_RECOVER).calls = shownCalls uid (supervisor.entry uid) := by
  have hkeys : uid ∈ AssocMap.ascendingKeys supervisor.uidsMap ↔ supervisor.entry uid ≠ none := by
    rw [AssocMap.mem_ascendingKeys, AssocMap.mem_keys_iff]
    exact Option.ne_none_iff_exists'.symm
  rw [HandleEmptyPayloadForCosmicCubeState, if_neg (not_not.mpr rfl)]
  constructor
  · dsimp only
    rw [entry_foldl_shown]
    split_ifs with hmem
    · rfl
    · rw [hkeys, not_not] at hmem
      rw [hmem]
      rfl
  · refine (callsOf_flatMap_shownCalls (AssocMap.nodup_ascendingKeys supervisor.uidsMap) uid
      supervisor.entry).trans ?_
    split_ifs with hmem
    · rfl
    · rw [hkeys, not_not] at hmem
      rw [hmem]
      rfl

/-! ## Entries after an event -/

section

variable (env : External)

theorem entry_handle (supervisor : Supervisor) (event : Event) (uid : Int) :
    (supervisor.handle env event).entry uid =
      (callsOf uid (supervisor.update env event).calls).foldl (adjusted env)
        ((supervisor.update env event).supervisor.entry uid) :=
  entry_foldl_perform env uid _ _

theorem entry_handle_of_within {event : Event} {target uid : Int}
    (hwithin : Within target fun supervisor => supervisor.update env event) (huid : uid ≠ target)
    (supervisor : Supervisor) : (supervisor.handle env event).entry uid = supervisor.entry uid := by
  have hcalls : callsOf uid (supervisor.update env event).calls = [] :=
    List.filter_eq_nil_iff.mpr fun call hcall => by
      simp [hwithin.calls supervisor call hcall, Ne.symm huid]
  rw [entry_handle, hcalls, List.foldl_nil]
  exact hwithin.frame supervisor uid huid

theorem entry_handle_of_confinedTo {event : Event} {target : Int}
    (hconfined : ConfinedTo target fun supervisor => supervisor.update env event)
    {supervisor supervisor' : Supervisor} {uid : Int}
    (h : supervisor.entry uid = supervisor'.entry uid) :
    (supervisor.handle env event).entry uid = (supervisor'.handle env event).entry uid := by
  by_cases huid : uid = target
  · subst huid
    obtain ⟨hentry, hcalls⟩ := hconfined.own supervisor supervisor' h
    rw [entry_handle, entry_handle, hentry, hcalls]
  · rw [entry_handle_of_within env hconfined.toWithin huid,
      entry_handle_of_within env hconfined.toWithin huid, h]

/-- An event that does not concern an application leaves it as it is. -/
theorem entry_handle_of_not_concerns {event : Event} {uid : Int}
    (h : event.concerns uid = false) (supervisor : Supervisor) :
    (supervisor.handle env event).entry uid = supervisor.entry uid := by
  have hnamed : (∀ value payload, event ≠ .HandleReportCosmicCubeState value payload) →
      event.uid ≠ some uid →
      (supervisor.handle env event).entry uid = supervisor.entry uid := by
    intro hcosmic hne
    cases hnames : event.uid with
    | none =>
        rw [Supervisor.handle, update_of_uid_none env supervisor hnames hcosmic]
        rfl
    | some target =>
        have huid : uid ≠ target := fun hsame => hne (hsame ▸ hnames)
        exact entry_handle_of_within env (update_within env hnames hcosmic) huid supervisor
  cases event with
  | HandleReportCosmicCubeState value payload =>
      cases hparse : ParsePayload payload with
      | some ids =>
          have huid : uid ≠ ids.1 := by
            simp only [Event.concerns, hparse, decide_eq_false_iff_not] at h
            exact Ne.symm h
          exact entry_handle_of_within env (confinedTo_HandleReportCosmicCubeState hparse).toWithin
            huid supervisor
      | none =>
          simp only [Event.concerns, hparse, decide_eq_false_iff_not] at h
          rw [Supervisor.handle, Supervisor.update, HandleReportCosmicCubeState, hparse]
          simp only [HandleEmptyPayloadForCosmicCubeState, ne_eq, h, not_false_eq_true, if_true]
          rfl
  | _ => exact hnamed (fun _ _ => by simp) (of_decide_eq_false h)

/-- An event changes an application by what is held of that application alone, unless a window
becomes active. -/
theorem entry_handle_congr {event : Event} {uid : Int}
    (hwindow : event.concerns uid = true → event.activatesWindow = false)
    {supervisor supervisor' : Supervisor} (h : supervisor.entry uid = supervisor'.entry uid) :
    (supervisor.handle env event).entry uid = (supervisor'.handle env event).entry uid := by
  cases hconcerns : event.concerns uid with
  | false =>
      rw [entry_handle_of_not_concerns env hconcerns, entry_handle_of_not_concerns env hconcerns, h]
  | true =>
      have hnamed : (∀ value payload, event ≠ .HandleReportCosmicCubeState value payload) →
          event.uid = some uid →
          (supervisor.handle env event).entry uid = (supervisor'.handle env event).entry uid :=
        fun hcosmic hnames => entry_handle_of_confinedTo env
          (update_confinedTo env hnames hcosmic (hwindow hconcerns)) h
      cases event with
      | HandleReportCosmicCubeState value payload =>
          cases hparse : ParsePayload payload with
          | some ids =>
              exact entry_handle_of_confinedTo env (confinedTo_HandleReportCosmicCubeState hparse) h
          | none =>
              simp only [Event.concerns, hparse, decide_eq_true_eq] at hconcerns
              subst hconcerns
              have hshown := entry_HandleEmptyPayloadForCosmicCubeState supervisor uid
              have hshown' := entry_HandleEmptyPayloadForCosmicCubeState supervisor' uid
              simp only [entry_handle, Supervisor.update, HandleReportCosmicCubeState, hparse]
              rw [hshown.1, hshown.2, hshown'.1, hshown'.2, h]
      | _ => exact hnamed (fun _ _ => by simp) (of_decide_eq_true hconcerns)

/-- What is held of an application after any events is what the events that concern it alone
leave, whatever is held of the others. -/
theorem entry_run_filter (uid : Int) (events : List Event)
    (hwindow : ∀ event ∈ events, event.concerns uid = true → event.activatesWindow = false)
    (supervisor supervisor' : Supervisor) (h : supervisor.entry uid = supervisor'.entry uid) :
    (run (Supervisor.handle env) supervisor events).entry uid =
      (run (Supervisor.handle env) supervisor' (events.filter (Event.concerns uid))).entry uid := by
  refine view_run_filter (Supervisor.handle env) (fun supervisor => supervisor.entry uid)
    (Event.concerns uid) ?_ events ?_ supervisor supervisor' h
  · exact fun supervisor event hconcerns => entry_handle_of_not_concerns env hconcerns supervisor
  · exact fun event hevent hconcerns _ _ h =>
      entry_handle_congr env (fun _ => hwindow event hevent hconcerns) h

end

/-- Windows of two applications get and lose the focus in turn. -/
def twoApplications : List Event :=
  [focusEvent WINDOW_FOCUS "2000" "3000" "1", focusEvent WINDOW_FOCUS "2001" "3001" "2",
    focusEvent WINDOW_UNFOCUS "2000" "3000" "1", focusEvent WINDOW_UNFOCUS "2001" "3001" "2"]

theorem entry_run_filter_twoApplications :
    (twoApplications.filter (Event.concerns 2000)).length = 2 ∧
      (run (Supervisor.handle framework) Supervisor.start twoApplications).entry 2000 =
        (run (Supervisor.handle framework) Supervisor.start
          (twoApplications.filter (Event.concerns 2000))).entry 2000 :=
  ⟨by decide +kernel,
    entry_run_filter framework 2000 twoApplications (by decide +kernel) Supervisor.start
      Supervisor.start rfl⟩

end ResSched.Cgroup
