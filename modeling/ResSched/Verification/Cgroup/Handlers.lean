import ResSched.Verification.Cgroup.Records

/-! # What an event does to the application of a uid -/

namespace ResSched.Cgroup

/-! ## Records after an access -/

theorem lookup_withRecord (app : Application) (pid other : Int)
    (f : ProcessRecord → ProcessRecord) :
    (app.withRecord pid f).pidsMap.lookup other =
      if other = pid then (app.pidsMap.lookup other).map f else app.pidsMap.lookup other :=
  AssocMap.lookup_modify app.pidsMap pid other f

theorem withRecord_of_none {app : Application} {pid : Int} (h : app.pidsMap.lookup pid = none)
    (f : ProcessRecord → ProcessRecord) : app.withRecord pid f = app := by
  unfold Application.withRecord AssocMap.modify
  rw [h]

theorem app_withRecordAdjusted (supervisor : Supervisor) (uid pid : Int)
    (f : ProcessRecord → ProcessRecord) (source : AdjustSource) (other : Int) :
    (supervisor.withRecordAdjusted uid pid f source).supervisor.app other =
      if other = uid then (supervisor.app uid).withRecord pid f else supervisor.app other := by
  rw [Supervisor.withRecordAdjusted]
  cases hrecord : supervisor.record? uid pid with
  | none =>
      rw [record?_eq] at hrecord
      rw [withRecord_of_none hrecord]
      dsimp only [Supervisor.unchanged]
      split_ifs with huid
      · rw [huid]
      · rfl
  | some record => simp only [app_withApp, isSome_lookup_of_record? hrecord, and_true]

theorem lookup_withRecordNonNull (app : Application) (pid : Int)
    (f : ProcessRecord → ProcessRecord) (other : Int) :
    (app.withRecordNonNull pid f).pidsMap.lookup other =
      if other = pid then
        some (f ((app.pidsMap.lookup pid).getD (ProcessRecord.new app.created)))
      else app.pidsMap.lookup other := by
  rw [Application.withRecordNonNull]
  cases app.pidsMap.lookup pid <;> simp only [AssocMap.lookup_insert_ite] <;> rfl

section

variable (supervisor : Supervisor) (uid pid : Int) (f : ProcessRecord → ProcessRecord)
  (source : AdjustSource) (other otherPid : Int)

theorem record?_withRecordAdjusted :
    (supervisor.withRecordAdjusted uid pid f source).supervisor.record? other otherPid =
      if other = uid ∧ otherPid = pid then (supervisor.record? uid pid).map f
      else supervisor.record? other otherPid := by
  rw [record?_eq, record?_eq, record?_eq, app_withRecordAdjusted]
  by_cases huid : other = uid
  · subst huid
    rw [if_pos rfl, lookup_withRecord]
    by_cases hpid : otherPid = pid
    · rw [if_pos hpid, if_pos ⟨rfl, hpid⟩, hpid]
    · rw [if_neg hpid, if_neg fun h => hpid h.2]
  · rw [if_neg huid, if_neg fun h => huid h.1]

theorem record?_withRecordNonNullAdjusted :
    (supervisor.withRecordNonNullAdjusted uid pid f source).supervisor.record? other otherPid =
      if other = uid ∧ otherPid = pid then
        some (f ((supervisor.record? uid pid).getD
          (ProcessRecord.new (supervisor.app uid).created)))
      else supervisor.record? other otherPid := by
  rw [record?_eq, record?_eq, record?_eq, Supervisor.withRecordNonNullAdjusted,
    app_withAppNonNull]
  by_cases huid : other = uid
  · subst huid
    rw [if_pos rfl, lookup_withRecordNonNull]
    by_cases hpid : otherPid = pid
    · rw [if_pos hpid, if_pos ⟨rfl, hpid⟩]
    · rw [if_neg hpid, if_neg fun h => hpid h.2]
  · rw [if_neg huid, if_neg fun h => huid h.1]

end

section

variable (windowId : Nat) (windowType displayId pid : Int) (app : Application)

theorem lookup_focusApplication (other : Int) :
    (focusApplication windowId windowType displayId pid app).pidsMap.lookup other =
      if other = pid then
        some
          { ((app.pidsMap.lookup pid).getD (ProcessRecord.new app.created)).withWindowInfo windowId
              (focusWindow true windowType displayId)
            with linkedWindow := some windowId }
      else app.pidsMap.lookup other :=
  lookup_withRecordNonNull app pid _ other

theorem lookup_unfocusApplication (other : Int) :
    (unfocusApplication windowId windowType displayId pid app).pidsMap.lookup other =
      if other = pid then
        (app.pidsMap.lookup other).map (fun record =>
          record.withWindowInfo windowId (focusWindow false windowType displayId))
      else app.pidsMap.lookup other :=
  lookup_withRecord app pid other _

end

theorem pidsMap_createApplication (env : External) (info : ProcessCreateInfo) (app : Application) :
    (createApplication env info app).pidsMap =
      (app.withRecordNonNull info.pid (createdRecord env info)).pidsMap := by
  unfold createApplication
  dsimp only
  split_ifs <;> rfl

theorem lookup_createApplication (env : External) (info : ProcessCreateInfo) (app : Application)
    (other : Int) :
    (createApplication env info app).pidsMap.lookup other =
      if other = info.pid then
        some (createdRecord env info
          ((app.pidsMap.lookup info.pid).getD (ProcessRecord.new app.created)))
      else app.pidsMap.lookup other := by
  rw [pidsMap_createApplication, lookup_withRecordNonNull]

theorem focusedProcess_createApplication (env : External) (info : ProcessCreateInfo)
    (app : Application) :
    (createApplication env info app).focusedProcess = app.focusedProcess := by
  have hsame : (app.withRecordNonNull info.pid (createdRecord env info)).focusedProcess =
      app.focusedProcess := by
    rw [withRecordNonNull_eq]
  unfold createApplication
  dsimp only
  split_ifs <;> exact hsame

theorem lookup_RemoveProcessRecord (app : Application) (pid other : Int) :
    (app.RemoveProcessRecord pid).pidsMap.lookup other =
      if other = pid then none else app.pidsMap.lookup other := by
  rw [Application.RemoveProcessRecord]
  by_cases hsome : (app.pidsMap.lookup pid).isSome = true
  · rw [if_pos hsome]
    exact AssocMap.lookup_erase_ite app.pidsMap pid other
  · rw [if_neg hsome]
    split_ifs with hother
    · subst hother
      exact Option.not_isSome_iff_eq_none.mp hsome
    · rfl

/-! ## What an event says about the records -/

inductive RecordAct where
  | focused (info : FocusInfo)
  | unfocused (info : FocusInfo)
  | created (info : ProcessCreateInfo)
  | died (uid pid : Int)
  | stopped (uid : Int)
  | other

def recordAct : Event → RecordAct
  | .HandleFocusStateChange value payload =>
      match ParseFocus payload with
      | some info =>
          if value = WINDOW_FOCUS then .focused info
          else if value = WINDOW_UNFOCUS then .unfocused info
          else .other
      | none => .other
  | .HandleProcessStateChangedEx value payload =>
      if value = PROCESS_CREATED then
        match ParseProcessCreateInfo payload with
        | some info => .created info
        | none => .other
      else if value = PROCESS_DIED then
        match ParseProcess payload with
        | some (uid, pid) => .died uid pid
        | none => .other
      else .other
  | .HandleOnAppStopped payload =>
      match ParseStopped payload with
      | some uid => .stopped uid
      | none => .other
  | _ => .other

/-- The application when a process has died; it goes with its last process. -/
def endProcess (pid : Int) (app : Application) : Application :=
  if (app.RemoveProcessRecord pid).pidsMap.keys = [] then Application.new
  else app.RemoveProcessRecord pid

/-- The change of the application of a uid before the adjuster is called. -/
def AppChange (env : External) (act : RecordAct) (uid : Int) (before after : Application) : Prop :=
  match act with
  | .focused info =>
      after = if uid = info.uid then
        focusApplication info.windowId info.windowType info.displayId info.pid before else before
  | .unfocused info =>
      after = if uid = info.uid then
        unfocusApplication info.windowId info.windowType info.displayId info.pid before else before
  | .created info => after = if uid = info.uid then createApplication env info before else before
  | .died ofUid pid => after = if uid = ofUid then endProcess pid before else before
  | .stopped ofUid => after = if uid = ofUid then Application.new else before
  | .other => AppKept before after

theorem unfocusApplication_of_none (windowId : Nat) (windowType displayId pid : Int)
    (app : Application) (h : app.pidsMap.lookup pid = none) :
    unfocusApplication windowId windowType displayId pid app = app := by
  have hpointer : app.pointer pid = none := by
    rw [Application.pointer]
    rw [h, Option.map_none]
  unfold unfocusApplication
  rw [withRecord_of_none h]
  dsimp only
  rw [hpointer]
  split_ifs with hfocused
  · rw [← hfocused]
  · rfl

theorem HandleUnfocusedWindow_app (supervisor : Supervisor) (info : FocusInfo) (uid : Int) :
    (HandleUnfocusedWindow supervisor info.windowId info.windowType info.displayId info.pid
      info.uid).supervisor.app uid =
        if uid = info.uid then
          unfocusApplication info.windowId info.windowType info.displayId info.pid
            (supervisor.app uid)
        else supervisor.app uid := by
  rw [HandleUnfocusedWindow]
  cases hrecord : supervisor.record? info.uid info.pid with
  | some record =>
      have hsome := isSome_lookup_of_record? hrecord
      dsimp only
      rw [app_withApp]
      by_cases huid : uid = info.uid
      · rw [if_pos ⟨huid, hsome⟩, if_pos huid, huid]
      · rw [if_neg fun h => huid h.1, if_neg huid]
  | none =>
      dsimp only [Supervisor.unchanged]
      split_ifs with huid
      · subst huid
        symm
        apply unfocusApplication_of_none
        rw [← record?_eq]
        exact hrecord
      · rfl

theorem HandleProcessDied_app (supervisor : Supervisor) (payload : Payload) (ofUid pid : Int)
    (hparse : ParseProcess payload = some (ofUid, pid)) (uid : Int) :
    (HandleProcessDied supervisor payload).supervisor.app uid =
      if uid = ofUid then endProcess pid (supervisor.app uid) else supervisor.app uid := by
  unfold HandleProcessDied Supervisor.parsed
  rw [hparse]
  dsimp only
  cases happ : supervisor.uidsMap.lookup ofUid with
  | none =>
      dsimp only [Supervisor.unchanged]
      split_ifs with huid
      · subst huid
        rw [Supervisor.app]
        rw [happ]
        rfl
      · rfl
  | some app =>
      have happ' : supervisor.app ofUid = app := by
        rw [Supervisor.app]
        rw [happ]
        rfl
      dsimp only
      by_cases huid : uid = ofUid
      · subst huid
        rw [if_pos rfl, happ', endProcess]
        split_ifs with hkeys
        · rw [app_RemoveApplication, if_pos rfl]
        · rw [app_withApp, if_pos ⟨rfl, by rw [happ]; rfl⟩, happ']
      · rw [if_neg huid]
        split_ifs with hkeys
        · rw [app_RemoveApplication, if_neg huid]
        · rw [app_withApp, if_neg fun h => huid h.1]

theorem recordAct_of_quiet (event : Event) (hquiet : Quiet event) : recordAct event = .other := by
  cases event with
  | HandleProcessStateChangedEx value payload =>
      exact (if_neg hquiet.1).trans (if_neg hquiet.2)
  | HandleOnAppStopped payload => exact absurd hquiet id
  | HandleFocusStateChange value payload => exact absurd hquiet id
  | _ => rfl

theorem update_appChange (env : External) (supervisor : Supervisor) (event : Event) (uid : Int) :
    AppChange env (recordAct event) uid (supervisor.app uid)
      ((supervisor.update env event).supervisor.app uid) := by
  by_cases hquiet : Quiet event
  · rw [recordAct_of_quiet event hquiet]
    exact update_kept env supervisor event hquiet uid
  · cases event with
    | HandleProcessStateChangedEx value payload =>
        simp only [recordAct, Supervisor.update, HandleProcessStateChangedEx]
        by_cases hcreated : value = PROCESS_CREATED
        · rw [if_pos hcreated, if_pos hcreated]
          rw [HandleProcessCreated]
          cases ParseProcessCreateInfo payload with
          | none => exact AppKept.refl _
          | some info =>
              refine (app_withAppNonNull supervisor info.uid uid _).trans ?_
              split_ifs with huid
              · rw [huid]
              · rfl
        · have hdied : value = PROCESS_DIED := by
            by_contra hdied
            exact hquiet ⟨hcreated, hdied⟩
          rw [if_neg hcreated, if_neg hcreated, if_pos hdied, if_pos hdied]
          cases hparse : ParseProcess payload with
          | some ids => exact HandleProcessDied_app supervisor payload ids.1 ids.2 hparse uid
          | none =>
              unfold HandleProcessDied Supervisor.parsed
              rw [hparse]
              exact AppKept.refl _
    | HandleOnAppStopped payload =>
        simp only [recordAct, Supervisor.update, HandleOnAppStopped]
        cases ParseStopped payload with
        | some ofUid => exact app_RemoveApplication supervisor ofUid uid
        | none => exact AppKept.refl _
    | HandleFocusStateChange value payload =>
        simp only [recordAct, Supervisor.update, HandleFocusStateChange]
        cases ParseFocus payload with
        | none => exact AppKept.refl _
        | some info =>
            dsimp only [Supervisor.parsed]
            split_ifs
            · refine (app_withAppNonNull supervisor info.uid uid _).trans ?_
              split_ifs with huid
              · rw [huid]
              · rfl
            · exact HandleUnfocusedWindow_app supervisor info uid
            · exact AppKept.refl _
    | _ => exact absurd trivial hquiet

end ResSched.Cgroup
