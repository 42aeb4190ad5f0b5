import ResSched.Model.Cgroup.EventHandler

/-! # What the handlers and the adjuster leave as it is -/

namespace ResSched.Cgroup

/-- The application of a uid; an application without a record is as a new one. -/
def Supervisor.app (supervisor : Supervisor) (uid : Int) : Application :=
  (supervisor.uidsMap.lookup uid).getD Application.new

theorem record?_eq (supervisor : Supervisor) (uid pid : Int) :
    supervisor.record? uid pid = (supervisor.app uid).pidsMap.lookup pid := by
  unfold Supervisor.record? Supervisor.app
  cases supervisor.uidsMap.lookup uid <;> rfl

/-- An application with a process exists. -/
theorem isSome_lookup_of_record? {supervisor : Supervisor} {uid pid : Int}
    {record : ProcessRecord} (h : supervisor.record? uid pid = some record) :
    (supervisor.uidsMap.lookup uid).isSome = true := by
  obtain ⟨app, happ, -⟩ := Option.bind_eq_some_iff.mp h
  rw [happ]
  rfl

/-! ## Changes of records -/

/-- Every record is kept up to `R`, and a new one is a fresh record up to `R`. -/
structure RecordsRelated (R : ProcessRecord → ProcessRecord → Prop)
    (before after : AssocMap Int ProcessRecord) : Prop where
  found : ∀ pid record, before.lookup pid = some record →
    ∃ record', after.lookup pid = some record' ∧ R record record'
  made : ∀ pid record', before.lookup pid = none → after.lookup pid = some record' →
    ∃ address, R (ProcessRecord.new address) record'

/-- The focus of a record: its address and whether one of its windows has the focus. -/
structure FocusKept (before after : ProcessRecord) : Prop where
  address : after.address = before.address
  focused : after.windows.any WindowInfo.isFocused = before.windows.any WindowInfo.isFocused
  distinct : (before.windows.map WindowInfo.windowId).Nodup →
    (after.windows.map WindowInfo.windowId).Nodup

/-- The group of a record and what makes it follow another one. -/
structure GroupKept (before after : ProcessRecord) : Prop where
  curSchedGroup : after.curSchedGroup = before.curSchedGroup
  processType : after.processType = before.processType
  hostPid : after.hostPid = before.hostPid

def RecordKept (before after : ProcessRecord) : Prop :=
  FocusKept before after ∧ GroupKept before after

theorem FocusKept.refl (record : ProcessRecord) : FocusKept record record :=
  ⟨rfl, rfl, id⟩

theorem FocusKept.trans {a b c : ProcessRecord} (h : FocusKept a b) (h' : FocusKept b c) :
    FocusKept a c :=
  ⟨h'.address.trans h.address, h'.focused.trans h.focused, h'.distinct ∘ h.distinct⟩

theorem RecordKept.refl (record : ProcessRecord) : RecordKept record record :=
  ⟨FocusKept.refl record, rfl, rfl, rfl⟩

/-- A change of other fields. -/
theorem recordKept_of_eq {before after : ProcessRecord}
    (h : (after.address, after.windows, after.curSchedGroup, after.processType, after.hostPid) =
      (before.address, before.windows, before.curSchedGroup, before.processType,
        before.hostPid)) : RecordKept before after := by
  simp only [Prod.mk.injEq] at h
  obtain ⟨haddress, hwindows, hgroup, htype, hhost⟩ := h
  exact ⟨⟨haddress, by rw [hwindows], by rw [hwindows]; exact id⟩, hgroup, htype, hhost⟩

theorem RecordKept.trans {a b c : ProcessRecord} (h : RecordKept a b) (h' : RecordKept b c) :
    RecordKept a c :=
  ⟨h.1.trans h'.1, h'.2.curSchedGroup.trans h.2.curSchedGroup,
    h'.2.processType.trans h.2.processType, h'.2.hostPid.trans h.2.hostPid⟩

section

variable {R : ProcessRecord → ProcessRecord → Prop}

theorem RecordsRelated.refl (hrefl : ∀ record, R record record)
    (records : AssocMap Int ProcessRecord) : RecordsRelated R records records :=
  ⟨fun _ record h => ⟨record, h, hrefl record⟩,
    fun _ _ hnone hsome => absurd (hnone.symm.trans hsome) (by simp)⟩

theorem RecordsRelated.mono {R' : ProcessRecord → ProcessRecord → Prop}
    {before after : AssocMap Int ProcessRecord} (h : RecordsRelated R before after)
    (himp : ∀ record record', R record record' → R' record record') :
    RecordsRelated R' before after := by
  refine ⟨?_, ?_⟩
  · intro pid record hlookup
    obtain ⟨record', hafter, hrel⟩ := h.found pid record hlookup
    exact ⟨record', hafter, himp _ _ hrel⟩
  · intro pid record' hnone hafter
    obtain ⟨address, hrel⟩ := h.made pid record' hnone hafter
    exact ⟨address, himp _ _ hrel⟩

theorem RecordsRelated.trans (htrans : ∀ a b c, R a b → R b c → R a c)
    {before middle after : AssocMap Int ProcessRecord} (h : RecordsRelated R before middle)
    (h' : RecordsRelated R middle after) : RecordsRelated R before after := by
  refine ⟨?_, ?_⟩
  · intro pid record hlookup
    obtain ⟨record', hmiddle, hrel⟩ := h.found pid record hlookup
    obtain ⟨record'', hafter, hrel'⟩ := h'.found pid record' hmiddle
    exact ⟨record'', hafter, htrans _ _ _ hrel hrel'⟩
  · intro pid record'' hnone hafter
    cases hmiddle : middle.lookup pid with
    | none => exact h'.made pid record'' hmiddle hafter
    | some record' =>
        obtain ⟨address, hrel⟩ := h.made pid record' hnone hmiddle
        obtain ⟨other, hother, hrel'⟩ := h'.found pid record' hmiddle
        obtain rfl := Option.some.inj (hother.symm.trans hafter)
        exact ⟨address, htrans _ _ _ hrel hrel'⟩

theorem related_modify (hrefl : ∀ record, R record record)
    (records : AssocMap Int ProcessRecord) (pid : Int) (f : ProcessRecord → ProcessRecord)
    (hf : ∀ record, R record (f record)) :
    RecordsRelated R records (AssocMap.modify pid f records) := by
  refine ⟨?_, ?_⟩
  · intro other record hlookup
    rw [AssocMap.lookup_modify, hlookup]
    split_ifs
    · exact ⟨f record, rfl, hf record⟩
    · exact ⟨record, rfl, hrefl record⟩
  · intro other record' hnone hafter
    rw [AssocMap.lookup_modify, hnone] at hafter
    simp at hafter

theorem related_withRecordNonNull (hrefl : ∀ record, R record record) (app : Application)
    (pid : Int) (f : ProcessRecord → ProcessRecord) (hf : ∀ record, R record (f record)) :
    RecordsRelated R app.pidsMap (app.withRecordNonNull pid f).pidsMap := by
  rw [Application.withRecordNonNull]
  cases hpid : app.pidsMap.lookup pid with
  | some record =>
      refine ⟨?_, ?_⟩
      · intro other record' hlookup
        rw [AssocMap.lookup_insert_ite]
        split_ifs with hother
        · subst hother
          obtain rfl := Option.some.inj (hpid.symm.trans hlookup)
          exact ⟨f record, rfl, hf record⟩
        · exact ⟨record', hlookup, hrefl record'⟩
      · intro other record' hnone hafter
        rw [AssocMap.lookup_insert_ite] at hafter
        split_ifs at hafter with hother
        · subst hother
          exact absurd (hnone.symm.trans hpid) (by simp)
        · exact absurd (hnone.symm.trans hafter) (by simp)
  | none =>
      refine ⟨?_, ?_⟩
      · intro other record' hlookup
        rw [AssocMap.lookup_insert_ite]
        split_ifs with hother
        · subst hother
          exact absurd (hpid.symm.trans hlookup) (by simp)
        · exact ⟨record', hlookup, hrefl record'⟩
      · intro other record' hnone hafter
        rw [AssocMap.lookup_insert_ite] at hafter
        split_ifs at hafter with hother
        · exact ⟨app.created, Option.some.inj hafter ▸ hf _⟩
        · exact absurd (hnone.symm.trans hafter) (by simp)

end

/-! ## Changes of windows and abilities -/

theorem focusKept_withWindowInfo (record : ProcessRecord) (windowId : Nat)
    (f : WindowInfo → WindowInfo) (hid : ∀ window, (f window).windowId = window.windowId)
    (hfocus : ∀ window, (f window).isFocused = window.isFocused) :
    FocusKept record (record.withWindowInfo windowId f) :=
  ⟨rfl, any_upsert _ _ _ _ _ hfocus rfl _, nodup_keys_upsert _ windowId _ _ rfl hid _⟩

theorem recordKept_withWindowInfo (record : ProcessRecord) (windowId : Nat)
    (f : WindowInfo → WindowInfo) (hid : ∀ window, (f window).windowId = window.windowId)
    (hfocus : ∀ window, (f window).isFocused = window.isFocused) :
    RecordKept record (record.withWindowInfo windowId f) :=
  ⟨focusKept_withWindowInfo record windowId f hid hfocus, rfl, rfl, rfl⟩

/-! ## Changes of applications -/

/-- An application with its focus, its host pids and its records kept. -/
structure AppKept (before after : Application) : Prop where
  focusedProcess : after.focusedProcess = before.focusedProcess
  hostPidsSet : after.hostPidsSet = before.hostPidsSet
  records : RecordsRelated RecordKept before.pidsMap after.pidsMap

theorem AppKept.refl (app : Application) : AppKept app app :=
  ⟨rfl, rfl, RecordsRelated.refl RecordKept.refl app.pidsMap⟩

theorem AppKept.trans {a b c : Application} (h : AppKept a b) (h' : AppKept b c) : AppKept a c :=
  ⟨h'.focusedProcess.trans h.focusedProcess, h'.hostPidsSet.trans h.hostPidsSet,
    RecordsRelated.trans (R := RecordKept) (fun _ _ _ => RecordKept.trans) h.records h'.records⟩

theorem appKept_withRecord (app : Application) (pid : Int) (f : ProcessRecord → ProcessRecord)
    (hf : ∀ record, RecordKept record (f record)) : AppKept app (app.withRecord pid f) :=
  ⟨rfl, rfl, related_modify RecordKept.refl app.pidsMap pid f hf⟩

theorem withRecordNonNull_eq (app : Application) (pid : Int)
    (f : ProcessRecord → ProcessRecord) :
    app.withRecordNonNull pid f =
      { app with
        pidsMap := (app.withRecordNonNull pid f).pidsMap
        created := (app.withRecordNonNull pid f).created } := by
  rw [Application.withRecordNonNull]
  cases app.pidsMap.lookup pid <;> rfl

theorem appKept_withRecordNonNull (app : Application) (pid : Int)
    (f : ProcessRecord → ProcessRecord) (hf : ∀ record, RecordKept record (f record)) :
    AppKept app (app.withRecordNonNull pid f) := by
  refine ⟨?_, ?_, related_withRecordNonNull RecordKept.refl app pid f hf⟩ <;>
    rw [withRecordNonNull_eq]

/-! ## Changes of the supervisor -/

@[simp] theorem app_withAppNonNull (supervisor : Supervisor) (uid other : Int)
    (f : Application → Application) :
    (supervisor.withAppNonNull uid f).app other =
      if other = uid then f (supervisor.app uid) else supervisor.app other := by
  unfold Supervisor.app Supervisor.withAppNonNull
  rw [AssocMap.lookup_insert_ite]
  split_ifs <;> rfl

theorem app_withApp (supervisor : Supervisor) (uid other : Int) (f : Application → Application) :
    (supervisor.withApp uid f).app other =
      if other = uid ∧ (supervisor.uidsMap.lookup uid).isSome then f (supervisor.app uid)
      else supervisor.app other := by
  unfold Supervisor.app Supervisor.withApp
  rw [AssocMap.lookup_modify]
  by_cases hother : other = uid
  · subst hother
    cases hlookup : supervisor.uidsMap.lookup other <;> simp
  · simp [hother]

@[simp] theorem app_RemoveApplication (supervisor : Supervisor) (uid other : Int) :
    (supervisor.RemoveApplication uid).app other =
      if other = uid then Application.new else supervisor.app other := by
  unfold Supervisor.app Supervisor.RemoveApplication
  rw [AssocMap.lookup_erase_ite]
  split_ifs <;> rfl

/-- Every application is kept. -/
def SupervisorKept (before after : Supervisor) : Prop :=
  ∀ uid, AppKept (before.app uid) (after.app uid)

theorem SupervisorKept.refl (supervisor : Supervisor) : SupervisorKept supervisor supervisor :=
  fun uid => AppKept.refl (supervisor.app uid)

theorem SupervisorKept.trans {a b c : Supervisor} (h : SupervisorKept a b)
    (h' : SupervisorKept b c) : SupervisorKept a c :=
  fun uid => (h uid).trans (h' uid)

theorem supervisorKept_withApp (supervisor : Supervisor) (uid : Int)
    (f : Application → Application) (hf : ∀ app, AppKept app (f app)) :
    SupervisorKept supervisor (supervisor.withApp uid f) := by
  intro other
  rw [app_withApp]
  split_ifs with h
  · rw [h.1]
    exact hf _
  · exact AppKept.refl _

theorem supervisorKept_withAppNonNull (supervisor : Supervisor) (uid : Int)
    (f : Application → Application) (hf : ∀ app, AppKept app (f app)) :
    SupervisorKept supervisor (supervisor.withAppNonNull uid f) := by
  intro other
  rw [app_withAppNonNull]
  split_ifs with h
  · rw [h]
    exact hf _
  · exact AppKept.refl _

theorem supervisorKept_withRecord (supervisor : Supervisor) (uid pid : Int)
    (f : ProcessRecord → ProcessRecord) (hf : ∀ record, RecordKept record (f record)) :
    SupervisorKept supervisor (supervisor.withApp uid (fun app => app.withRecord pid f)) :=
  supervisorKept_withApp supervisor uid _ fun app => appKept_withRecord app pid f hf

theorem supervisorKept_withRecordNonNull (supervisor : Supervisor) (uid pid : Int)
    (f : ProcessRecord → ProcessRecord) (hf : ∀ record, RecordKept record (f record)) :
    SupervisorKept supervisor
      (supervisor.withAppNonNull uid (fun app => app.withRecordNonNull pid f)) :=
  supervisorKept_withAppNonNull supervisor uid _ fun app => appKept_withRecordNonNull app pid f hf

/-! ## The handlers -/

theorem parsed_kept {α : Type} (before supervisor : Supervisor) (args : Option α)
    (handler : α → Handled) (h : SupervisorKept before supervisor)
    (hhandler : ∀ a, SupervisorKept before (handler a).supervisor) :
    SupervisorKept before (supervisor.parsed args handler).supervisor := by
  cases args with
  | none => exact h
  | some a => exact hhandler a

theorem withRecordAdjusted_kept (supervisor : Supervisor) (uid pid : Int)
    (f : ProcessRecord → ProcessRecord) (source : AdjustSource)
    (hf : ∀ record, RecordKept record (f record)) :
    SupervisorKept supervisor (supervisor.withRecordAdjusted uid pid f source).supervisor := by
  rw [Supervisor.withRecordAdjusted]
  cases supervisor.record? uid pid with
  | none => exact SupervisorKept.refl supervisor
  | some _ => exact supervisorKept_withRecord supervisor uid pid f hf

/-- The record of the process is made on demand. -/
theorem GetProcInfoByPayload_supervisor {supervisor after : Supervisor} {payload : Payload}
    {uid pid : Int} (h : GetProcInfoByPayload supervisor payload = some (uid, pid, after)) :
    after = supervisor.withApp uid (fun app => app.withRecordNonNull pid id) := by
  rw [GetProcInfoByPayload] at h
  simp only [Option.bind_eq_bind, Option.bind_eq_some_iff, Option.pure_def, Option.some.injEq,
    Prod.mk.injEq] at h
  obtain ⟨⟨_, _⟩, _, _, _, rfl, rfl, rfl⟩ := h
  rfl

theorem procInfo_kept (supervisor : Supervisor) (payload : Payload)
    (handler : Int × Int × Supervisor → Handled)
    (hhandler : ∀ uid pid after, SupervisorKept supervisor after →
      SupervisorKept supervisor (handler (uid, pid, after)).supervisor) :
    SupervisorKept supervisor
      (supervisor.parsed (GetProcInfoByPayload supervisor payload) handler).supervisor := by
  cases h : GetProcInfoByPayload supervisor payload with
  | none => exact SupervisorKept.refl supervisor
  | some found =>
      obtain ⟨uid, pid, after⟩ := found
      apply hhandler
      rw [GetProcInfoByPayload_supervisor h]
      exact supervisorKept_withApp supervisor uid _
        fun app => appKept_withRecordNonNull app pid id RecordKept.refl

theorem adjustHost_supervisor (supervisor : Supervisor) (uid pid : Int) (source : AdjustSource) :
    (supervisor.adjustHost uid pid source).supervisor = supervisor := by
  rw [Supervisor.adjustHost]
  cases (supervisor.record? uid pid).map ProcessRecord.hostPid with
  | none => rfl
  | some hostPid =>
      dsimp only
      cases supervisor.record? uid hostPid <;> rfl

/-- An event that creates, ends or focuses nothing. -/
def Quiet : Event → Prop
  | .HandleProcessStateChangedEx value _ => value ≠ PROCESS_CREATED ∧ value ≠ PROCESS_DIED
  | .HandleOnAppStopped _ => False
  | .HandleFocusStateChange _ _ => False
  | _ => True

theorem HandleProcessStateChanged_kept (env : External) (supervisor : Supervisor)
    (payload : Payload) :
    SupervisorKept supervisor (HandleProcessStateChanged env supervisor payload).supervisor := by
  apply parsed_kept _ _ _ _ (SupervisorKept.refl supervisor)
  rintro ⟨uid, pid, state⟩
  dsimp only
  split_ifs
  · exact supervisorKept_withRecordNonNull supervisor uid pid _ fun _ => recordKept_of_eq (by rfl)
  · exact supervisorKept_withRecordNonNull supervisor uid pid _ fun _ => recordKept_of_eq (by rfl)

theorem HandleExtensionStateChanged_kept (env : External) (supervisor : Supervisor)
    (payload : Payload) :
    SupervisorKept supervisor (HandleExtensionStateChanged env supervisor payload).supervisor := by
  apply parsed_kept _ _ _ _ (SupervisorKept.refl supervisor)
  rintro ⟨uid, pid, abilityName, recordId, extensionState, abilityType⟩
  dsimp only
  split_ifs
  · exact withRecordAdjusted_kept supervisor uid pid _ _ fun _ => recordKept_of_eq (by rfl)
  · exact supervisorKept_withRecordNonNull supervisor uid pid _ fun _ => recordKept_of_eq (by rfl)

theorem HandleAbilityStateChanged_kept (env : External) (supervisor : Supervisor)
    (payload : Payload) :
    SupervisorKept supervisor (HandleAbilityStateChanged env supervisor payload).supervisor := by
  apply parsed_kept _ _ _ _ (SupervisorKept.refl supervisor)
  rintro ⟨uid, pid, abilityName, recordId, abilityState, abilityType⟩
  dsimp only
  split_ifs
  · apply parsed_kept _ _ _ _ (SupervisorKept.refl supervisor)
    exact fun uiExtensionState => HandleExtensionStateChanged_kept env supervisor _
  · exact withRecordAdjusted_kept supervisor uid pid _ _ fun _ => recordKept_of_eq (by rfl)
  · exact SupervisorKept.refl supervisor
  · exact supervisorKept_withRecordNonNull supervisor uid pid _ fun _ => recordKept_of_eq (by rfl)

theorem HandleContinuousTaskStatus_kept (supervisor : Supervisor) (value : Int)
    (payload : Payload) :
    SupervisorKept supervisor (HandleContinuousTaskStatus supervisor value payload).supervisor := by
  apply parsed_kept _ _ _ _ (SupervisorKept.refl supervisor)
  rintro ⟨uid, pid, abilityId⟩
  dsimp only
  split_ifs
  · exact supervisorKept_withRecordNonNull supervisor uid pid _ fun _ => recordKept_of_eq (by rfl)
  · exact (supervisorKept_withAppNonNull supervisor uid id AppKept.refl).trans
      (withRecordAdjusted_kept _ uid pid _ _ fun _ => recordKept_of_eq (by rfl))
  · exact SupervisorKept.refl supervisor

theorem HandleWindowVisibilityChanged_kept (supervisor : Supervisor) (value : Int)
    (payload : Payload) :
    SupervisorKept supervisor
      (HandleWindowVisibilityChanged supervisor value payload).supervisor := by
  apply parsed_kept _ _ _ _ (SupervisorKept.refl supervisor)
  rintro ⟨pid, uid, windowId, windowType⟩
  dsimp only
  split_ifs
  · exact SupervisorKept.refl supervisor
  all_goals
    exact supervisorKept_withRecordNonNull supervisor uid pid _ fun record =>
      recordKept_withWindowInfo record windowId _ (fun _ => rfl) (fun _ => rfl)

theorem HandleReportKeyThread_kept (supervisor : Supervisor) (tidIsInPid : Bool) (value : Int)
    (payload : Payload) :
    SupervisorKept supervisor
      (HandleReportKeyThread supervisor tidIsInPid value payload).supervisor := by
  apply procInfo_kept
  intro uid pid after hafter
  apply parsed_kept _ _ _ _ hafter
  rintro ⟨keyTid, role⟩
  dsimp only
  split_ifs
  · exact hafter
  all_goals
    rw [adjustHost_supervisor]
    refine hafter.trans (supervisorKept_withRecord after uid pid _ fun _ => ?_)
    exact recordKept_of_eq rfl

theorem recordKept_UpdateActivepWebRenderInfo (supervisor : Supervisor) (state : Int)
    (windowId : Nat) (record : ProcessRecord) :
    RecordKept record (UpdateActivepWebRenderInfo supervisor state windowId record) := by
  rw [UpdateActivepWebRenderInfo]
  split_ifs <;> exact recordKept_of_eq (by rfl)

theorem HandleReportWindowState_kept (supervisor : Supervisor) (payload : Payload) :
    SupervisorKept supervisor (HandleReportWindowState supervisor payload).supervisor := by
  apply procInfo_kept
  intro uid pid after hafter
  apply parsed_kept _ _ _ _ hafter
  rintro ⟨windowId, state, nowSerialNum⟩
  dsimp only
  cases (after.record? uid pid).map ProcessRecord.serialNum with
  | none => exact hafter
  | some serialNum =>
      dsimp only
      split_ifs
      · exact hafter
      · rw [adjustHost_supervisor]
        refine hafter.trans (supervisorKept_withRecord after uid pid _ fun record => ?_)
        exact RecordKept.trans (b := { record with serialNum := nowSerialNum })
          (recordKept_of_eq (by rfl))
          (recordKept_UpdateActivepWebRenderInfo after state windowId _)

theorem HandleReportCosmicCubeState_kept (supervisor : Supervisor) (value : Int)
    (payload : Payload) :
    SupervisorKept supervisor
      (HandleReportCosmicCubeState supervisor value payload).supervisor := by
  have hshow : ∀ (hide : Bool) (app : Application),
      AppKept app { app with isCosmicCubeStateHide := hide } :=
    fun _ app => ⟨rfl, rfl, RecordsRelated.refl RecordKept.refl app.pidsMap⟩
  rw [HandleReportCosmicCubeState]
  cases ParsePayload payload with
  | none =>
      dsimp only
      rw [HandleEmptyPayloadForCosmicCubeState]
      split_ifs
      · exact SupervisorKept.refl supervisor
      · dsimp only
        generalize AssocMap.ascendingKeys supervisor.uidsMap = uids
        induction uids generalizing supervisor with
        | nil => exact SupervisorKept.refl supervisor
        | cons uid uids ih =>
            exact (supervisorKept_withApp supervisor uid _ (hshow false)).trans (ih _)
  | some ids =>
      obtain ⟨uid, pid⟩ := ids
      dsimp only
      cases supervisor.record? uid pid with
      | none => exact SupervisorKept.refl supervisor
      | some record => exact supervisorKept_withApp supervisor uid _ (hshow _)

/-- A quiet event keeps every application before the adjuster is called. -/
theorem update_kept (env : External) (supervisor : Supervisor) (event : Event)
    (hquiet : Quiet event) :
    SupervisorKept supervisor (supervisor.update env event).supervisor := by
  have hsame : ∀ (uid pid : Int) (f : ProcessRecord → ProcessRecord) (source : AdjustSource),
      (∀ record, RecordKept record (f record)) →
      SupervisorKept supervisor (supervisor.withRecordAdjusted uid pid f source).supervisor :=
    withRecordAdjusted_kept supervisor
  cases event with
  | HandleApplicationStateChanged payload =>
      apply parsed_kept _ _ _ _ (SupervisorKept.refl supervisor)
      rintro ⟨uid, state⟩
      dsimp only
      split_ifs
      · exact SupervisorKept.refl supervisor
      · exact supervisorKept_withAppNonNull supervisor uid id AppKept.refl
  | HandleProcessStateChangedEx value payload =>
      simp only [Supervisor.update, HandleProcessStateChangedEx, if_neg hquiet.1, if_neg hquiet.2]
      exact HandleProcessStateChanged_kept env supervisor payload
  | HandleOnAppStopped payload => exact absurd hquiet id
  | HandleAbilityStateChanged payload => exact HandleAbilityStateChanged_kept env supervisor payload
  | HandleExtensionStateChanged payload =>
      exact HandleExtensionStateChanged_kept env supervisor payload
  | HandleTransientTaskStatus value payload =>
      apply parsed_kept _ _ _ _ (SupervisorKept.refl supervisor)
      rintro ⟨uid, pid⟩
      dsimp only
      split_ifs
      · exact supervisorKept_withAppNonNull supervisor uid _ fun app =>
          appKept_withRecord app pid _ fun _ => recordKept_of_eq (by rfl)
      · exact SupervisorKept.refl supervisor
  | HandleContinuousTaskStatus value payload =>
      exact HandleContinuousTaskStatus_kept supervisor value payload
  | HandleFocusStateChange value payload => exact absurd hquiet id
  | HandleWindowVisibilityChanged value payload =>
      exact HandleWindowVisibilityChanged_kept supervisor value payload
  | HandleDrawingContentChangeWindow value payload =>
      apply parsed_kept _ _ _ _ (SupervisorKept.refl supervisor)
      rintro ⟨pid, uid, windowId⟩
      refine supervisorKept_withRecord supervisor uid pid _ fun record => ?_
      exact (recordKept_withWindowInfo record windowId
        (fun window => { window with drawingContentState := value ≠ 0 })
        (fun _ => rfl) (fun _ => rfl)).trans (recordKept_of_eq (by rfl))
  | HandleReportKeyThread tidIsInPid value payload =>
      exact HandleReportKeyThread_kept supervisor tidIsInPid value payload
  | HandleReportWindowState payload => exact HandleReportWindowState_kept supervisor payload
  | HandleWebviewScreenCapture value payload =>
      apply procInfo_kept
      intro uid pid after hafter
      refine hafter.trans (withRecordAdjusted_kept after uid pid _ _ fun _ => ?_)
      exact recordKept_of_eq rfl
  | HandleReportWebviewVideoState value payload =>
      apply procInfo_kept
      intro uid pid after hafter
      refine hafter.trans (supervisorKept_withRecord after uid pid _ fun _ => ?_)
      exact recordKept_of_eq rfl
  | HandleReportAudioState value payload =>
      apply parsed_kept _ _ _ _ (SupervisorKept.refl supervisor)
      exact fun ids => hsame ids.1 ids.2 _ _ fun _ => recordKept_of_eq (by rfl)
  | HandleReportAudioCapTureState value payload =>
      apply parsed_kept _ _ _ _ (SupervisorKept.refl supervisor)
      exact fun ids => hsame ids.1 ids.2 _ _ fun _ => recordKept_of_eq (by rfl)
  | HandleReportWebviewAudioState value payload =>
      apply parsed_kept _ _ _ _ (SupervisorKept.refl supervisor)
      rintro ⟨uid, pid⟩
      exact (supervisorKept_withAppNonNull supervisor uid id AppKept.refl).trans
        (withRecordAdjusted_kept _ uid pid _ _ fun _ => recordKept_of_eq (by rfl))
  | HandleReportScreenCaptureEvent value payload =>
      apply parsed_kept _ _ _ _ (SupervisorKept.refl supervisor)
      exact fun ids => hsame ids.1 ids.2 _ _ fun _ => recordKept_of_eq (by rfl)
  | HandleReportCosmicCubeState value payload =>
      exact HandleReportCosmicCubeState_kept supervisor value payload

end ResSched.Cgroup
