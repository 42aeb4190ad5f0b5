import ResSched.Verification.Cgroup.TopApp

/-! # The group of a process and the one its record asks for

A process that follows no host is grouped by the focus, its abilities, its windows and its state.
Its group is set when it is adjusted; it is current when adjusting it again would not change it.
-/

namespace ResSched.Cgroup

open Transition

/-! ## The property -/

/-- The group the rules give a process that follows no host, once it has been created. -/
def decidedGroup (env : External) (app : Application) (pid : Int) (record : ProcessRecord) :
    SchedPolicy :=
  if app.focusedProcess.map RecordPointer.pid = some pid then .SP_TOP_APP else ownGroup env record

/-- Every process that follows no host has been set to the group its record asks for. -/
def GroupsCurrent (env : External) (supervisor : Supervisor) : Prop :=
  ∀ uid pid record, supervisor.record? uid pid = some record → followsHost record = false →
    record.setSchedGroup = decidedGroup env (supervisor.app uid) pid record

/-- A process that follows no host, set to another group than its record asks for. -/
def Outdated (env : External) (app : Application) (pid : Int) : Prop :=
  ∃ record, app.pidsMap.lookup pid = some record ∧ followsHost record = false ∧
    record.setSchedGroup ≠ decidedGroup env app pid record

theorem groupsCurrent_iff (env : External) (supervisor : Supervisor) :
    GroupsCurrent env supervisor ↔ ∀ uid pid, ¬ Outdated env (supervisor.app uid) pid := by
  constructor
  · rintro h uid pid ⟨record, hlookup, hfollows, hne⟩
    exact hne (h uid pid record ((record?_eq supervisor uid pid).trans hlookup) hfollows)
  · intro h uid pid record hrecord hfollows
    by_contra hne
    exact h uid pid ⟨record, (record?_eq supervisor uid pid).symm.trans hrecord, hfollows, hne⟩

/-- What a process is grouped by is its record and the focus. -/
theorem outdated_congr {env : External} {app app' : Application} {pid : Int}
    (hlookup : app'.pidsMap.lookup pid = app.pidsMap.lookup pid)
    (hfocused : app'.focusedProcess = app.focusedProcess) :
    Outdated env app' pid ↔ Outdated env app pid := by
  unfold Outdated decidedGroup
  rw [hlookup, hfocused]

theorem not_outdated_new (env : External) (pid : Int) : ¬ Outdated env Application.new pid := by
  rintro ⟨record, hlookup, -⟩
  exact absurd hlookup (by simp [Application.new])

/-! ## Adjusting -/

theorem setSchedGroup_regroup (env : External) (pid : Int) (group : SchedPolicy)
    (record : ProcessRecord) : (regroup env pid group record).setSchedGroup = group := by
  unfold regroup ApplyProcessGroup
  split_ifs <;> rfl

theorem ownGroup_congr {env : External} {before after : ProcessRecord}
    (h : SameButGroups before after) : ownGroup env after = ownGroup env before := by
  obtain ⟨_, _, _, rfl⟩ := h
  rfl

theorem groupWithoutHost_eq (env : External) (app : Application) (pid : Int)
    (record : ProcessRecord) (source : AdjustSource) :
    groupWithoutHost env app pid record source =
      if source = .ADJS_PROCESS_CREATE then .SP_DEFAULT else decidedGroup env app pid record :=
  rfl

section

variable (env : External) (app : Application) (pid : Int) (source : AdjustSource)

/-- Adjusting a process that follows no host sets its group. -/
theorem lookup_AdjustProcessGroup_self {record : ProcessRecord}
    (hrecord : app.pidsMap.lookup pid = some record) (hfollows : followsHost record = false) :
    (AdjustProcessGroup env app pid source).pidsMap.lookup pid =
      some (regroup env pid (groupWithoutHost env app pid record source) record) := by
  have htype : record.processType ≠ RENDER := by
    intro hrender
    rw [followsHost, hrender] at hfollows
    exact absurd hfollows (by decide)
  have hnot : followsPid (regroup env pid (groupWithoutHost env app pid record source) record)
      pid = false := by
    rw [followsPid, (regroup_sameButGroups env pid _ record).followsHost, hfollows]
    rfl
  rw [lookup_AdjustProcessGroup env app pid source record hrecord, lookup_withRecord, if_pos rfl,
    hrecord, ComputeProcessGroup_other env app pid record source htype]
  simp [hnot]

/-- Of the others only the groups of followers change. -/
theorem lookup_AdjustProcessGroup_other {other : Int} (hother : other ≠ pid)
    {after : ProcessRecord} (hfollows : followsHost after = false) :
    (AdjustProcessGroup env app pid source).pidsMap.lookup other = some after ↔
      app.pidsMap.lookup other = some after := by
  cases hrecord : app.pidsMap.lookup pid with
  | none =>
      rw [AdjustProcessGroup]
      rw [hrecord]
  | some record =>
      rw [lookup_AdjustProcessGroup env app pid source record hrecord, lookup_withRecord,
        if_neg hother]
      cases hbefore : app.pidsMap.lookup other with
      | none => simp
      | some before =>
          rw [Option.map_some, Option.some.injEq, Option.some.injEq]
          split_ifs with hfollower
          · have htype := ((followsPid_iff before pid).mp hfollower.2).1
            constructor
            · rintro rfl
              rw [(regroup_sameButGroups env other _ before).followsHost, htype] at hfollows
              cases hfollows
            · rintro rfl
              rw [htype] at hfollows
              cases hfollows
          · exact Iff.rfl

theorem focusedProcess_AdjustProcessGroup :
    (AdjustProcessGroup env app pid source).focusedProcess = app.focusedProcess :=
  (AdjustProcessGroup_regrouped env app pid source).focusedProcess

theorem outdated_AdjustProcessGroup_other {other : Int} (hother : other ≠ pid) :
    Outdated env (AdjustProcessGroup env app pid source) other ↔ Outdated env app other := by
  unfold Outdated decidedGroup
  rw [focusedProcess_AdjustProcessGroup]
  refine exists_congr fun after => ?_
  constructor
  · rintro ⟨hlookup, hfollows, hne⟩
    exact ⟨(lookup_AdjustProcessGroup_other env app pid source hother hfollows).mp hlookup,
      hfollows, hne⟩
  · rintro ⟨hlookup, hfollows, hne⟩
    exact ⟨(lookup_AdjustProcessGroup_other env app pid source hother hfollows).mpr hlookup,
      hfollows, hne⟩

/-- After adjusting, a process is outdated only as one that has just been created. -/
theorem outdated_AdjustProcessGroup_self :
    Outdated env (AdjustProcessGroup env app pid source) pid ↔
      source = .ADJS_PROCESS_CREATE ∧ ∃ record, app.pidsMap.lookup pid = some record ∧
        followsHost record = false ∧ decidedGroup env app pid record ≠ .SP_DEFAULT := by
  have hset : ∀ record, app.pidsMap.lookup pid = some record → followsHost record = false →
      (Outdated env (AdjustProcessGroup env app pid source) pid ↔
        groupWithoutHost env app pid record source ≠ decidedGroup env app pid record) := by
    intro record hrecord hfollows
    have hsame := regroup_sameButGroups env pid (groupWithoutHost env app pid record source) record
    have hself := lookup_AdjustProcessGroup_self env app pid source hrecord hfollows
    have hdecided : decidedGroup env (AdjustProcessGroup env app pid source) pid
        (regroup env pid (groupWithoutHost env app pid record source) record) =
          decidedGroup env app pid record := by
      unfold decidedGroup
      rw [focusedProcess_AdjustProcessGroup, ownGroup_congr hsame]
    constructor
    · rintro ⟨after, hafter, -, hne⟩
      obtain rfl := Option.some.inj (hself.symm.trans hafter)
      rw [setSchedGroup_regroup, hdecided] at hne
      exact hne
    · intro hne
      refine ⟨_, hself, hsame.followsHost.trans hfollows, ?_⟩
      rw [setSchedGroup_regroup, hdecided]
      exact hne
  constructor
  · intro houtdated
    obtain ⟨after, hafter, hfollows, -⟩ := id houtdated
    obtain ⟨record, hrecord, hsame⟩ : ∃ record, app.pidsMap.lookup pid = some record ∧
        SameButGroups record after := by
      cases hrecord : app.pidsMap.lookup pid with
      | none =>
          have hnone := (AdjustProcessGroup_regrouped env app pid source).absent pid hrecord
          rw [hnone] at hafter
          cases hafter
      | some record =>
          obtain ⟨after', hafter', hsame⟩ :=
            (AdjustProcessGroup_regrouped env app pid source).found pid record hrecord
          obtain rfl := Option.some.inj (hafter.symm.trans hafter')
          exact ⟨record, rfl, hsame⟩
    rw [hsame.followsHost] at hfollows
    have hne := (hset record hrecord hfollows).mp houtdated
    rw [groupWithoutHost_eq] at hne
    split_ifs at hne with hcreate
    · exact ⟨hcreate, record, hrecord, hfollows, Ne.symm hne⟩
    · exact absurd rfl hne
  · rintro ⟨hcreate, record, hrecord, hfollows, hne⟩
    rw [hset record hrecord hfollows, groupWithoutHost_eq, if_pos hcreate]
    exact Ne.symm hne

end

/-- After all adjusting by other events, what is outdated was so and has not been adjusted. -/
theorem outdated_run_adjust (env : External) (adjustings : List Adjusting) (tracked : Tracked)
    (hsource : ∀ adjusting ∈ adjustings, adjusting.source ≠ .ADJS_PROCESS_CREATE) (uid pid : Int) :
    Outdated env ((run (Tracked.adjust env) tracked adjustings).supervisor.app uid) pid ↔
      Outdated env (tracked.supervisor.app uid) pid ∧
        ∀ adjusting ∈ adjustings, ¬(adjusting.uid = uid ∧ adjusting.pid = pid) := by
  induction adjustings generalizing tracked with
  | nil => simp
  | cons adjusting adjustings ih =>
      rw [List.forall_mem_cons] at hsource
      rw [run_cons, ih (tracked.adjust env adjusting) hsource.2, List.forall_mem_cons, ← and_assoc]
      refine and_congr_left fun _ => ?_
      rw [app_adjust]
      by_cases huid : uid = adjusting.uid
      · subst huid
        rw [if_pos rfl]
        by_cases hpid : pid = adjusting.pid
        · subst hpid
          rw [outdated_AdjustProcessGroup_self]
          simp [hsource.1]
        · rw [outdated_AdjustProcessGroup_other env _ _ _ hpid]
          simp [Ne.symm hpid]
      · rw [if_neg huid]
        simp [Ne.symm huid]

/-! ## What an event leaves -/

/-- What a handler leaves outdated, besides what was so before and is not adjusted, is what it
skips. -/
structure Leaves (env : External) (supervisor : Supervisor) (handled : Handled)
    (skipped : Int → Int → Prop) : Prop where
  plain : ∀ adjusting ∈ handled.adjustings, adjusting.source ≠ .ADJS_PROCESS_CREATE
  covered : ∀ uid pid, Outdated env (handled.supervisor.app uid) pid →
    Outdated env (supervisor.app uid) pid ∨
      (∃ adjusting ∈ handled.adjustings, adjusting.uid = uid ∧ adjusting.pid = pid) ∨
      skipped uid pid
  missed : ∀ uid pid, skipped uid pid → Outdated env (handled.supervisor.app uid) pid ∧
    ∀ adjusting ∈ handled.adjustings, ¬(adjusting.uid = uid ∧ adjusting.pid = pid)

/-- A handler that skips nothing. -/
abbrev Settles (env : External) (supervisor : Supervisor) (handled : Handled) : Prop :=
  Leaves env supervisor handled fun _ _ => False

/-- Nothing becomes outdated. -/
def Keeps (env : External) (before after : Supervisor) : Prop :=
  ∀ uid pid, Outdated env (after.app uid) pid → Outdated env (before.app uid) pid

section

variable {env : External} {supervisor : Supervisor}

theorem settles_of_keeps {handled : Handled} (hkeeps : Keeps env supervisor handled.supervisor)
    (hplain : ∀ adjusting ∈ handled.adjustings, adjusting.source ≠ .ADJS_PROCESS_CREATE) :
    Settles env supervisor handled where
  plain := hplain
  covered := fun uid pid houtdated => Or.inl (hkeeps uid pid houtdated)
  missed := fun _ _ hfalse => hfalse.elim

theorem settles_unchanged : Settles env supervisor supervisor.unchanged :=
  settles_of_keeps (fun _ _ houtdated => houtdated) (by simp [Supervisor.unchanged,
    Handled.adjustings])

theorem settles_parsed {α : Type} (args : Option α) (handler : α → Handled)
    (hhandler : ∀ a, args = some a → Settles env supervisor (handler a)) :
    Settles env supervisor (supervisor.parsed args handler) := by
  cases args with
  | none => exact settles_unchanged
  | some a => exact hhandler a rfl

theorem Settles.leaves {handled : Handled} (h : Settles env supervisor handled)
    {skipped : Int → Int → Prop} (hnone : ∀ uid pid, ¬ skipped uid pid) :
    Leaves env supervisor handled skipped where
  plain := h.plain
  covered := fun uid pid houtdated =>
    (h.covered uid pid houtdated).imp_right fun hcovered => hcovered.imp_right False.elim
  missed := fun uid pid hskipped => absurd hskipped (hnone uid pid)

theorem Leaves.after {before : Supervisor} {handled : Handled} {skipped : Int → Int → Prop}
    (h : Leaves env supervisor handled skipped) (hkeeps : Keeps env before supervisor) :
    Leaves env before handled skipped where
  plain := h.plain
  covered := fun uid pid houtdated => (h.covered uid pid houtdated).imp_left (hkeeps uid pid)
  missed := h.missed

end

/-! ## Changes of records -/

/-- A change of fields that the group of a process does not depend on. -/
structure DecisionKept (env : External) (before after : ProcessRecord) : Prop where
  setSchedGroup : after.setSchedGroup = before.setSchedGroup
  followsHost : followsHost after = Cgroup.followsHost before
  ownGroup : ownGroup env after = Cgroup.ownGroup env before

section

variable {env : External} {app : Application} {pid other : Int} {f : ProcessRecord → ProcessRecord}

theorem outdated_withRecord_ne (hother : other ≠ pid) :
    Outdated env (app.withRecord pid f) other ↔ Outdated env app other :=
  outdated_congr ((lookup_withRecord app pid other f).trans (if_neg hother)) rfl

theorem focusedProcess_withRecordNonNull :
    (app.withRecordNonNull pid f).focusedProcess = app.focusedProcess := by
  rw [withRecordNonNull_eq]

theorem outdated_withRecordNonNull_ne (hother : other ≠ pid) :
    Outdated env (app.withRecordNonNull pid f) other ↔ Outdated env app other :=
  outdated_congr ((lookup_withRecordNonNull app pid f other).trans (if_neg hother))
    focusedProcess_withRecordNonNull

/-- The record of one process changed in other fields. -/
theorem outdated_changed {app' : Application}
    (hlookup : app'.pidsMap.lookup pid = (app.pidsMap.lookup pid).map f)
    (hfocused : app'.focusedProcess = app.focusedProcess)
    (hf : ∀ record, app.pidsMap.lookup pid = some record → DecisionKept env record (f record)) :
    Outdated env app' pid ↔ Outdated env app pid := by
  unfold Outdated decidedGroup
  rw [hlookup, hfocused]
  cases hrecord : app.pidsMap.lookup pid with
  | none => simp
  | some record =>
      have hkept := hf record hrecord
      simp [hkept.setSchedGroup, hkept.followsHost, hkept.ownGroup]

theorem outdated_withRecord
    (hf : ∀ record, app.pidsMap.lookup pid = some record → DecisionKept env record (f record)) :
    Outdated env (app.withRecord pid f) other ↔ Outdated env app other := by
  by_cases hother : other = pid
  · subst hother
    exact outdated_changed ((lookup_withRecord app other other f).trans (if_pos rfl)) rfl hf
  · exact outdated_withRecord_ne hother

/-- A record that exists is not made on demand. -/
theorem outdated_withRecordNonNull {record : ProcessRecord}
    (hrecord : app.pidsMap.lookup pid = some record) (hf : DecisionKept env record (f record)) :
    Outdated env (app.withRecordNonNull pid f) other ↔ Outdated env app other := by
  by_cases hother : other = pid
  · subst hother
    apply outdated_changed (f := f)
    · rw [lookup_withRecordNonNull, if_pos rfl, hrecord]
      rfl
    · exact focusedProcess_withRecordNonNull
    · intro record' hrecord'
      obtain rfl := Option.some.inj (hrecord.symm.trans hrecord')
      exact hf
  · exact outdated_withRecordNonNull_ne hother

end

section

variable {env : External} (supervisor : Supervisor) (uid pid : Int)

theorem keeps_withApp {f : Application → Application}
    (hf : ∀ other, Outdated env (f (supervisor.app uid)) other →
      Outdated env (supervisor.app uid) other) :
    Keeps env supervisor (supervisor.withApp uid f) := by
  intro ofUid other
  rw [app_withApp]
  split_ifs with huid
  · rw [huid.1]
    exact hf other
  · exact id

theorem keeps_withAppNonNull {f : Application → Application}
    (hf : ∀ other, Outdated env (f (supervisor.app uid)) other →
      Outdated env (supervisor.app uid) other) :
    Keeps env supervisor (supervisor.withAppNonNull uid f) := by
  intro ofUid other
  rw [app_withAppNonNull]
  split_ifs with huid
  · rw [huid]
    exact hf other
  · exact id

/-- A handler that changes the record of one process and adjusts it. -/
theorem settles_adjusted {after : Supervisor} {source : AdjustSource}
    (hother : ∀ ofUid other, ¬(ofUid = uid ∧ other = pid) →
      Outdated env (after.app ofUid) other → Outdated env (supervisor.app ofUid) other)
    (hsource : source ≠ .ADJS_PROCESS_CREATE) :
    Settles env supervisor ⟨after, [.AdjustProcessGroup uid pid source]⟩ where
  plain := by simp [Handled.adjustings, Supervisor.adjustings, hsource]
  covered := by
    intro ofUid other houtdated
    by_cases hown : ofUid = uid ∧ other = pid
    · obtain ⟨rfl, rfl⟩ := hown
      exact Or.inr (Or.inl ⟨⟨ofUid, other, source⟩, List.mem_singleton_self _, rfl, rfl⟩)
    · exact Or.inl (hother ofUid other hown houtdated)
  missed := fun _ _ hfalse => hfalse.elim

theorem settles_withRecordAdjusted (f : ProcessRecord → ProcessRecord) {source : AdjustSource}
    (hsource : source ≠ .ADJS_PROCESS_CREATE) :
    Settles env supervisor (supervisor.withRecordAdjusted uid pid f source) := by
  rw [Supervisor.withRecordAdjusted]
  cases supervisor.record? uid pid with
  | none => exact settles_unchanged
  | some _ =>
      refine settles_adjusted supervisor uid pid ?_ hsource
      intro ofUid other hown
      rw [app_withApp]
      split_ifs with huid
      · obtain ⟨rfl, -⟩ := huid
        exact (outdated_withRecord_ne fun hpid => hown ⟨rfl, hpid⟩).mp
      · exact id

theorem settles_withRecordNonNullAdjusted (f : ProcessRecord → ProcessRecord)
    {source : AdjustSource} (hsource : source ≠ .ADJS_PROCESS_CREATE) :
    Settles env supervisor (supervisor.withRecordNonNullAdjusted uid pid f source) := by
  refine settles_adjusted supervisor uid pid ?_ hsource
  intro ofUid other hown
  rw [app_withAppNonNull]
  split_ifs with huid
  · subst huid
    exact (outdated_withRecordNonNull_ne fun hpid => hown ⟨rfl, hpid⟩).mp
  · exact id

end

/-! ## The handlers of processes and abilities -/

section

variable {env : External} {supervisor : Supervisor}

theorem settles_silent {after : Supervisor} (hkeeps : Keeps env supervisor after) :
    Settles env supervisor ⟨after, []⟩ :=
  settles_of_keeps hkeeps (by simp [Handled.adjustings])

variable (payload : Payload)

theorem settles_HandleApplicationStateChanged :
    Settles env supervisor (HandleApplicationStateChanged env supervisor payload) := by
  apply settles_parsed
  rintro ⟨uid, state⟩ -
  dsimp only
  split_ifs
  · exact settles_unchanged
  · exact settles_silent (keeps_withAppNonNull supervisor uid fun _ => id)

theorem outdated_RemoveProcessRecord {app : Application} {pid other : Int}
    (houtdated : Outdated env (app.RemoveProcessRecord pid) other) : Outdated env app other := by
  have hdropped := RemoveProcessRecord_dropped app pid
  obtain ⟨record, hafter, hfollows, hne⟩ := houtdated
  have hother : other ≠ pid := by
    rintro rfl
    rw [lookup_RemoveProcessRecord, if_pos rfl] at hafter
    cases hafter
  have hbefore := (hdropped.others other hother).symm.trans hafter
  refine ⟨record, hbefore, hfollows, ?_⟩
  -- the focus is dropped only when it is on the process that is removed
  have hdecided : decidedGroup env (app.RemoveProcessRecord pid) other record =
      decidedGroup env app other record := by
    unfold decidedGroup
    rw [hdropped.focusedProcess]
    by_cases hfocused : app.focusedProcess = app.pointer pid
    · have hnot : (app.pointer pid).map RecordPointer.pid ≠ some other := by
        rw [Application.pointer]
        rw [Option.map_map]
        cases app.pidsMap.lookup pid with
        | none => simp
        | some _ => simpa using Ne.symm hother
      rw [if_pos hfocused, hfocused, if_neg hnot]
      rfl
    · rw [if_neg hfocused]
  rw [← hdecided]
  exact hne

theorem outdated_endProcess {app : Application} {pid other : Int}
    (houtdated : Outdated env (endProcess pid app) other) : Outdated env app other := by
  rw [endProcess] at houtdated
  split_ifs at houtdated
  · exact absurd houtdated (not_outdated_new env other)
  · exact outdated_RemoveProcessRecord houtdated

theorem settles_HandleProcessDied :
    Settles env supervisor (HandleProcessDied supervisor payload) := by
  refine settles_of_keeps ?_ ?_
  · intro uid other
    cases hparse : ParseProcess payload with
    | none =>
        rw [HandleProcessDied, hparse]
        exact id
    | some ids =>
        rw [HandleProcessDied_app supervisor payload ids.1 ids.2 hparse uid]
        split_ifs
        · exact outdated_endProcess
        · exact id
  · rw [HandleProcessDied]
    cases ParseProcess payload with
    | none => simp [Supervisor.parsed, Supervisor.unchanged, Handled.adjustings]
    | some ids =>
        dsimp only [Supervisor.parsed]
        cases supervisor.uidsMap.lookup ids.1 with
        | none => simp [Supervisor.unchanged, Handled.adjustings]
        | some app =>
            dsimp only
            split_ifs <;> simp [Handled.adjustings]

theorem settles_HandleOnAppStopped :
    Settles env supervisor (HandleOnAppStopped supervisor payload) := by
  apply settles_parsed
  intro uid _
  refine settles_silent ?_
  intro ofUid other
  rw [app_RemoveApplication]
  split_ifs
  · exact fun houtdated => absurd houtdated (not_outdated_new env other)
  · exact id

theorem settles_HandleExtensionStateChanged :
    Settles env supervisor (HandleExtensionStateChanged env supervisor payload) := by
  apply settles_parsed
  rintro ⟨uid, pid, abilityName, recordId, extensionState, abilityType⟩ -
  dsimp only
  split_ifs
  · exact settles_withRecordAdjusted supervisor uid pid _ (by decide)
  · exact settles_withRecordNonNullAdjusted supervisor uid pid _ (by decide)

theorem settles_HandleAbilityStateChanged :
    Settles env supervisor (HandleAbilityStateChanged env supervisor payload) := by
  apply settles_parsed
  rintro ⟨uid, pid, abilityName, recordId, abilityState, abilityType⟩ -
  dsimp only
  split_ifs
  · apply settles_parsed
    exact fun _ _ => settles_HandleExtensionStateChanged _
  · exact settles_withRecordAdjusted supervisor uid pid _ (by decide)
  · exact settles_unchanged
  · exact settles_withRecordNonNullAdjusted supervisor uid pid _ (by decide)

/-! ## The handlers of tasks and windows -/

theorem settles_HandleTransientTaskStatus (value : Int) :
    Settles env supervisor (HandleTransientTaskStatus supervisor value payload) := by
  apply settles_parsed
  rintro ⟨uid, pid⟩ -
  dsimp only
  split_ifs
  · refine settles_silent (keeps_withAppNonNull supervisor uid fun other => ?_)
    refine (outdated_withRecord ?_).mp
    exact fun _ _ => ⟨rfl, rfl, rfl⟩
  · exact settles_unchanged

theorem settles_HandleContinuousTaskStatus (value : Int) :
    Settles env supervisor (HandleContinuousTaskStatus supervisor value payload) := by
  apply settles_parsed
  rintro ⟨uid, pid, abilityId⟩ -
  dsimp only
  split_ifs
  · exact settles_withRecordNonNullAdjusted supervisor uid pid _ (by decide)
  · exact (settles_withRecordAdjusted _ uid pid _ (by decide)).after
      (keeps_withAppNonNull supervisor uid fun _ => id)
  · exact settles_unchanged

/-- A handler that adjusts all processes of the application it changes. -/
theorem settles_adjustedAll {after : Supervisor} {uid : Int} {source : AdjustSource}
    (hother : ∀ ofUid, ofUid ≠ uid → after.app ofUid = supervisor.app ofUid)
    (hsource : source ≠ .ADJS_PROCESS_CREATE) :
    Settles env supervisor ⟨after, [.AdjustAllProcessGroup uid source]⟩ where
  plain := by
    simp only [Handled.adjustings, Supervisor.adjustings, List.flatMap_singleton, List.mem_map]
    rintro _ ⟨pid, -, rfl⟩
    exact hsource
  covered := by
    intro ofUid pid houtdated
    by_cases hown : ofUid = uid
    · subst hown
      obtain ⟨record, hlookup, hfollows, -⟩ := houtdated
      have hhost : pid ∈ (after.app ofUid).hosts := by
        refine List.mem_filter.mpr ⟨(mem_ascendingKeys_pidsMap _ pid).mpr ?_, ?_⟩
        · rw [hlookup]
          rfl
        · rw [hlookup, Option.any_some, hfollows]
          rfl
      refine Or.inr (Or.inl ⟨⟨ofUid, pid, source⟩, ?_, rfl, rfl⟩)
      simp only [Handled.adjustings, Supervisor.adjustings, List.flatMap_singleton]
      exact List.mem_map_of_mem hhost
    · rw [hother ofUid hown] at houtdated
      exact Or.inl houtdated
  missed := fun _ _ hfalse => hfalse.elim

theorem settles_HandleFocusStateChange (value : Int) :
    Settles env supervisor (HandleFocusStateChange supervisor value payload) := by
  apply settles_parsed
  intro info _
  split_ifs
  · refine settles_adjustedAll ?_ (by decide)
    intro ofUid hother
    rw [app_withAppNonNull, if_neg hother]
  · rw [HandleUnfocusedWindow]
    cases supervisor.record? info.uid info.pid with
    | none => exact settles_unchanged
    | some _ =>
        refine settles_adjustedAll ?_ (by decide)
        intro ofUid hother
        rw [app_withApp, if_neg fun h => hother h.1]
  · exact settles_unchanged

theorem decisionKept_withWindowInfo {record : ProcessRecord} {windowId : Nat}
    {f : WindowInfo → WindowInfo}
    (hvisible : (record.withWindowInfo windowId f).IsVisible = record.IsVisible) :
    DecisionKept env record (record.withWindowInfo windowId f) := by
  refine ⟨rfl, rfl, ?_⟩
  unfold ownGroup
  rw [hvisible]
  rfl

theorem isVisible_withWindowInfo (record : ProcessRecord) (windowId : Nat) (windowType : Int)
    {isVisible : Bool}
    (hsame : visibleStatusNotChanged (some record) windowId isVisible = true) :
    (record.withWindowInfo windowId fun window =>
      { window with isVisible := isVisible, windowType := windowType }).IsVisible =
        record.IsVisible := by
  apply any_upsert_of_entryOf
  have hstatus := eq_of_beq hsame
  rw [Option.bind_some, ProcessRecord.GetWindowInfo] at hstatus
  rw [← hstatus, entryOf]
  cases record.windows.find? fun window => window.windowId = windowId <;> rfl

theorem settles_HandleWindowVisibilityChanged (value : Int) :
    Settles env supervisor (HandleWindowVisibilityChanged supervisor value payload) := by
  apply settles_parsed
  rintro ⟨pid, uid, windowId, windowType⟩ -
  dsimp only
  split_ifs with hmissing hsame
  · exact settles_unchanged
  · cases hrecord : supervisor.record? uid pid with
    | none =>
        rw [hrecord] at hmissing hsame
        have hinvisible := eq_of_beq hsame
        rw [← hinvisible] at hmissing
        exact absurd rfl hmissing
    | some record =>
        rw [hrecord] at hsame
        refine settles_silent (keeps_withAppNonNull supervisor uid fun other => ?_)
        refine (outdated_withRecordNonNull ((record?_eq supervisor uid pid).symm.trans hrecord) ?_).mp
        exact decisionKept_withWindowInfo (isVisible_withWindowInfo record windowId windowType hsame)
  · refine settles_adjusted supervisor uid pid ?_ (by decide)
    intro ofUid other hown
    rw [app_withAppNonNull]
    split_ifs with huid
    · subst huid
      exact (outdated_withRecordNonNull_ne fun hpid => hown ⟨rfl, hpid⟩).mp
    · exact id

theorem settles_HandleDrawingContentChangeWindow (value : Int) :
    Settles env supervisor (HandleDrawingContentChangeWindow supervisor value payload) := by
  apply settles_parsed
  rintro ⟨pid, uid, windowId⟩ -
  refine settles_silent (keeps_withApp supervisor uid fun other => ?_)
  refine (outdated_withRecord ?_).mp
  intro record _
  have hkept : DecisionKept env record (record.withWindowInfo windowId fun window =>
      { window with drawingContentState := value ≠ 0 }) := by
    apply decisionKept_withWindowInfo
    apply any_upsert
    · exact fun _ => rfl
    · rfl
  exact ⟨hkept.setSchedGroup, hkept.followsHost, hkept.ownGroup⟩

end

/-! ## The handlers of reports -/

section

variable {env : External} {supervisor : Supervisor} (payload : Payload) (value : Int)

theorem settles_HandleReportAudioState :
    Settles env supervisor (HandleReportAudioState supervisor value payload) := by
  apply settles_parsed
  exact fun args _ => settles_withRecordAdjusted supervisor args.1 args.2 _ (by decide)

theorem settles_HandleReportAudioCapTureState :
    Settles env supervisor (HandleReportAudioCapTureState supervisor value payload) := by
  apply settles_parsed
  exact fun args _ => settles_withRecordAdjusted supervisor args.1 args.2 _ (by decide)

theorem settles_HandleReportWebviewAudioState :
    Settles env supervisor (HandleReportWebviewAudioState supervisor value payload) := by
  apply settles_parsed
  intro args _
  exact (settles_withRecordAdjusted _ args.1 args.2 _ (by decide)).after
    (keeps_withAppNonNull supervisor args.1 fun _ => id)

theorem settles_HandleReportScreenCaptureEvent :
    Settles env supervisor (HandleReportScreenCaptureEvent supervisor value payload) := by
  apply settles_parsed
  exact fun args _ => settles_withRecordAdjusted supervisor args.1 args.2 _ (by decide)

theorem keeps_cosmicCube (uid : Int) (hidden : Bool) :
    Keeps env supervisor (supervisor.withApp uid fun app =>
      { app with isCosmicCubeStateHide := hidden }) := by
  apply keeps_withApp
  exact fun other => (outdated_congr rfl rfl).mp

theorem keeps_foldl_cosmicCube (uids : List Int) (supervisor : Supervisor) :
    Keeps env supervisor (uids.foldl (fun supervisor uid =>
      supervisor.withApp uid fun app => { app with isCosmicCubeStateHide := false })
        supervisor) := by
  induction uids generalizing supervisor with
  | nil => exact fun _ _ => id
  | cons uid uids ih =>
      exact fun ofUid other houtdated =>
        keeps_cosmicCube uid false ofUid other (ih _ ofUid other houtdated)

theorem mem_adjustNormal {uid : Int} {app : Application} {call : AdjustCall}
    (h : call ∈ adjustNormal uid app) :
    ∃ pid, call = .AdjustProcessGroup uid pid .ADJS_PROCESS_STATE := by
  obtain ⟨pid, -, hcall⟩ := List.mem_filterMap.mp h
  cases hrecord : app.pidsMap.lookup pid with
  | none => simp [hrecord] at hcall
  | some record =>
      simp only [hrecord] at hcall
      split_ifs at hcall
      exact ⟨pid, (Option.some.inj hcall).symm⟩

theorem settles_HandleReportCosmicCubeState :
    Settles env supervisor (HandleReportCosmicCubeState supervisor value payload) := by
  rw [HandleReportCosmicCubeState]
  cases ParsePayload payload with
  | none =>
      dsimp only
      rw [HandleEmptyPayloadForCosmicCubeState]
      split_ifs
      · exact settles_unchanged
      · refine settles_of_keeps (keeps_foldl_cosmicCube _ supervisor) ?_
        intro adjusting hadjusting
        obtain ⟨call, hcall, hof⟩ := List.mem_flatMap.mp hadjusting
        obtain ⟨uid, -, hnormal⟩ := List.mem_flatMap.mp hcall
        cases happ : supervisor.uidsMap.lookup uid with
        | none => simp [happ] at hnormal
        | some app =>
            simp only [happ] at hnormal
            split_ifs at hnormal
            · obtain ⟨pid, rfl⟩ := mem_adjustNormal hnormal
              rw [List.mem_singleton.mp hof]
              exact (by decide : AdjustSource.ADJS_PROCESS_STATE ≠ .ADJS_PROCESS_CREATE)
            · exact absurd hnormal List.not_mem_nil
  | some args =>
      dsimp only
      cases supervisor.record? args.1 args.2 with
      | none => exact settles_unchanged
      | some record =>
          refine settles_of_keeps (keeps_cosmicCube args.1 _) ?_
          dsimp only
          split_ifs
          · simp [Handled.adjustings, Supervisor.adjustings]
          · simp [Handled.adjustings]

end

/-! ## The handlers of web processes -/

/-- A report about a web process that has no record yet, in an application that exists. The record
is made, and its group stays the initial one. -/
def ReportsUnknown (supervisor : Supervisor) (payload : Payload) (uid pid : Int) : Prop :=
  ParsePayload payload = some (uid, pid) ∧ (supervisor.uidsMap.lookup uid).isSome = true ∧
    supervisor.record? uid pid = none

/-- A handler that changes nothing the group of a process depends on and adjusts at most the host
of the process. -/
structure Annotates (env : External) (uid pid : Int) (supervisor : Supervisor)
    (handled : Handled) : Prop where
  keeps : ∀ ofUid other, Outdated env (handled.supervisor.app ofUid) other ↔
    Outdated env (supervisor.app ofUid) other
  plain : ∀ adjusting ∈ handled.adjustings, adjusting.source ≠ .ADJS_PROCESS_CREATE
  host : ∀ adjusting ∈ handled.adjustings, ∀ record, supervisor.record? uid pid = some record →
    adjusting.pid = record.hostPid

theorem pos_of_ParsePayload {payload : Payload} {uid pid : Int}
    (h : ParsePayload payload = some (uid, pid)) : 0 < pid := by
  simp only [ParsePayload, Option.bind_eq_bind, Option.bind_eq_some_iff] at h
  obtain ⟨_, _, _, _, h⟩ := h
  split_ifs at h with hpos
  simp only [Option.pure_def, Option.some.injEq, Prod.mk.injEq] at h
  omega

theorem decidedGroup_ne_upper (env : External) (app : Application) (pid : Int)
    (record : ProcessRecord) : decidedGroup env app pid record ≠ .SP_UPPER_LIMIT := by
  rw [decidedGroup, ownGroup]
  split_ifs <;> decide

section

variable {env : External} {supervisor : Supervisor} {uid pid : Int}

theorem annotates_unchanged : Annotates env uid pid supervisor supervisor.unchanged where
  keeps := fun _ _ => Iff.rfl
  plain := by simp [Supervisor.unchanged, Handled.adjustings]
  host := by simp [Supervisor.unchanged, Handled.adjustings]

theorem annotates_parsed {α : Type} (args : Option α) (handler : α → Handled)
    (hhandler : ∀ a, Annotates env uid pid supervisor (handler a)) :
    Annotates env uid pid supervisor (supervisor.parsed args handler) := by
  cases args with
  | none => exact annotates_unchanged
  | some a => exact hhandler a

theorem outdated_withApp_withRecord {f : ProcessRecord → ProcessRecord}
    (hf : ∀ record, DecisionKept env record (f record)) (ofUid other : Int) :
    Outdated env ((supervisor.withApp uid fun app => app.withRecord pid f).app ofUid) other ↔
      Outdated env (supervisor.app ofUid) other := by
  rw [app_withApp]
  split_ifs with huid
  · rw [huid.1]
    exact outdated_withRecord fun record _ => hf record
  · exact Iff.rfl

theorem annotates_silent {f : ProcessRecord → ProcessRecord}
    (hf : ∀ record, DecisionKept env record (f record)) :
    Annotates env uid pid supervisor
      ⟨supervisor.withApp uid fun app => app.withRecord pid f, []⟩ where
  keeps := outdated_withApp_withRecord hf
  plain := by simp [Handled.adjustings]
  host := by simp [Handled.adjustings]

theorem annotates_adjustHost {f : ProcessRecord → ProcessRecord}
    (hf : ∀ record, DecisionKept env record (f record) ∧ (f record).hostPid = record.hostPid)
    {source : AdjustSource} (hsource : source ≠ .ADJS_PROCESS_CREATE) :
    Annotates env uid pid supervisor
      ((supervisor.withApp uid fun app => app.withRecord pid f).adjustHost uid pid source) := by
  have hcalls : ∀ adjusting ∈ ((supervisor.withApp uid fun app =>
      app.withRecord pid f).adjustHost uid pid source).adjustings, adjusting.source = source ∧
        ∀ record, supervisor.record? uid pid = some record →
          adjusting.pid = record.hostPid := by
    intro adjusting hadjusting
    rw [Supervisor.adjustHost] at hadjusting
    cases hrecord : supervisor.record? uid pid with
    | none =>
        have hnone : (supervisor.withApp uid fun app => app.withRecord pid f).record? uid pid =
            none := by
          rw [record?_eq] at hrecord ⊢
          rw [app_withApp]
          split_ifs
          · rw [lookup_withRecord, if_pos rfl, hrecord]
            rfl
          · exact hrecord
        rw [hnone] at hadjusting
        simp [Supervisor.unchanged, Handled.adjustings] at hadjusting
    | some record =>
        have hsome : (supervisor.withApp uid fun app => app.withRecord pid f).record? uid pid =
            some (f record) := by
          have hexists := isSome_lookup_of_record? hrecord
          rw [record?_eq] at hrecord ⊢
          rw [app_withApp, if_pos ⟨rfl, hexists⟩, lookup_withRecord, if_pos rfl, hrecord]
          rfl
        rw [hsome, Option.map_some] at hadjusting
        dsimp only at hadjusting
        cases hhost : (supervisor.withApp uid fun app => app.withRecord pid f).record? uid
            (f record).hostPid with
        | none => simp [hhost, Supervisor.unchanged, Handled.adjustings] at hadjusting
        | some _ =>
            simp only [hhost, Handled.adjustings, Supervisor.adjustings, List.flatMap_singleton,
              List.mem_singleton] at hadjusting
            subst hadjusting
            refine ⟨rfl, ?_⟩
            rintro record' ⟨⟩
            exact (hf record).2
  refine ⟨?_, ?_, ?_⟩
  · intro ofUid other
    rw [adjustHost_supervisor]
    exact outdated_withApp_withRecord (fun record => (hf record).1) ofUid other
  · intro adjusting hadjusting
    rw [(hcalls adjusting hadjusting).1]
    exact hsource
  · exact fun adjusting hadjusting => (hcalls adjusting hadjusting).2

/-- The application of a process whose record is made on demand. -/
theorem app_procInfo {supervisor after : Supervisor} {payload : Payload} {uid pid : Int}
    (h : GetProcInfoByPayload supervisor payload = some (uid, pid, after)) :
    ParsePayload payload = some (uid, pid) ∧ (supervisor.uidsMap.lookup uid).isSome = true ∧
      ∀ ofUid, after.app ofUid =
        if ofUid = uid then (supervisor.app uid).withRecordNonNull pid id
        else supervisor.app ofUid := by
  simp only [GetProcInfoByPayload, Option.bind_eq_bind, Option.bind_eq_some_iff, Option.pure_def,
    Option.some.injEq, Prod.mk.injEq] at h
  obtain ⟨⟨_, _⟩, hparse, app, happ, rfl, rfl, rfl⟩ := h
  have hexists := Option.isSome_of_mem happ
  refine ⟨hparse, hexists, ?_⟩
  intro ofUid
  rw [app_withApp]
  simp only [hexists, and_true]

/-- A report annotates the process, and skips it when its record is made for the report. -/
theorem leaves_procInfo (payload : Payload) (handler : Int × Int × Supervisor → Handled)
    (hhandler : ∀ uid pid after, Annotates env uid pid after (handler (uid, pid, after))) :
    Leaves env supervisor (supervisor.parsed (GetProcInfoByPayload supervisor payload) handler)
      (ReportsUnknown supervisor payload) := by
  cases hfound : GetProcInfoByPayload supervisor payload with
  | none =>
      apply settles_unchanged.leaves
      rintro uid pid ⟨hparse, hexists, -⟩
      obtain ⟨app, happ⟩ := Option.isSome_iff_exists.mp hexists
      simp [GetProcInfoByPayload, hparse, happ] at hfound
  | some found =>
      obtain ⟨uid, pid, after⟩ := found
      obtain ⟨hparse, hexists, happ⟩ := app_procInfo hfound
      have hannotates := hhandler uid pid after
      have hother : ∀ ofUid other, ¬(ofUid = uid ∧ other = pid) →
          (Outdated env (after.app ofUid) other ↔ Outdated env (supervisor.app ofUid) other) := by
        intro ofUid other hown
        rw [happ]
        split_ifs with huid
        · subst huid
          exact outdated_withRecordNonNull_ne fun hpid => hown ⟨rfl, hpid⟩
        · exact Iff.rfl
      refine ⟨hannotates.plain, ?_, ?_⟩
      · intro ofUid other houtdated
        have hbefore := (hannotates.keeps ofUid other).mp houtdated
        by_cases hown : ofUid = uid ∧ other = pid
        · obtain ⟨rfl, rfl⟩ := hown
          cases hrecord : supervisor.record? ofUid other with
          | none => exact Or.inr (Or.inr ⟨hparse, hexists, hrecord⟩)
          | some record =>
              rw [record?_eq] at hrecord
              rw [happ, if_pos rfl] at hbefore
              exact Or.inl ((outdated_withRecordNonNull hrecord ⟨rfl, rfl, rfl⟩).mp hbefore)
        · exact Or.inl ((hother ofUid other hown).mp hbefore)
      · rintro ofUid other ⟨hparse', -, hnone⟩
        obtain ⟨rfl, rfl⟩ := Prod.mk.inj (Option.some.inj (hparse.symm.trans hparse'))
        have hmade : (after.app uid).pidsMap.lookup pid =
            some (ProcessRecord.new (supervisor.app uid).created) := by
          rw [happ, if_pos rfl, lookup_withRecordNonNull, if_pos rfl,
            (record?_eq supervisor uid pid).symm.trans hnone]
          rfl
        refine ⟨(hannotates.keeps uid pid).mpr ?_, ?_⟩
        · exact ⟨_, hmade, rfl, Ne.symm (decidedGroup_ne_upper env _ pid _)⟩
        · rintro adjusting hadjusting ⟨-, hpid⟩
          have hhost := hannotates.host adjusting hadjusting _ ((record?_eq after uid pid).trans hmade)
          have hpos := pos_of_ParsePayload hparse
          rw [← hpid, hhost] at hpos
          exact absurd hpos (by simp [ProcessRecord.new])

variable (payload : Payload) (value : Int)

theorem leaves_HandleReportKeyThread (tidIsInPid : Bool) :
    Leaves env supervisor (HandleReportKeyThread supervisor tidIsInPid value payload)
      (ReportsUnknown supervisor payload) := by
  apply leaves_procInfo
  intro uid pid after
  apply annotates_parsed
  intro args
  dsimp only
  by_cases hthread : (!tidIsInPid) = true
  · rw [if_pos hthread]
    exact annotates_unchanged
  · rw [if_neg hthread]
    apply annotates_adjustHost
    · exact fun _ => ⟨⟨rfl, rfl, rfl⟩, rfl⟩
    · decide

theorem decisionKept_UpdateActivepWebRenderInfo (env : External) (supervisor : Supervisor)
    (state : Int) (windowId : Nat) (record : ProcessRecord) :
    DecisionKept env record (UpdateActivepWebRenderInfo supervisor state windowId record) ∧
      (UpdateActivepWebRenderInfo supervisor state windowId record).hostPid = record.hostPid := by
  rw [UpdateActivepWebRenderInfo]
  split_ifs <;> exact ⟨⟨rfl, rfl, rfl⟩, rfl⟩

theorem leaves_HandleReportWindowState :
    Leaves env supervisor (HandleReportWindowState supervisor payload)
      (ReportsUnknown supervisor payload) := by
  apply leaves_procInfo
  intro uid pid after
  apply annotates_parsed
  rintro ⟨windowId, state, nowSerialNum⟩
  dsimp only
  cases (after.record? uid pid).map ProcessRecord.serialNum with
  | none => exact annotates_unchanged
  | some serialNum =>
      dsimp only
      split_ifs
      · exact annotates_unchanged
      · apply annotates_adjustHost
        · intro record
          have hkept := decisionKept_UpdateActivepWebRenderInfo env after state windowId
            { record with serialNum := nowSerialNum }
          exact ⟨⟨hkept.1.setSchedGroup, hkept.1.followsHost, hkept.1.ownGroup⟩, hkept.2⟩
        · decide

theorem leaves_HandleReportWebviewVideoState :
    Leaves env supervisor (HandleReportWebviewVideoState supervisor value payload)
      (ReportsUnknown supervisor payload) := by
  apply leaves_procInfo
  intro uid pid after
  apply annotates_silent
  exact fun _ => ⟨rfl, rfl, rfl⟩

/-- The record a screen capture makes on demand is adjusted. -/
theorem settles_HandleWebviewScreenCapture :
    Settles env supervisor (HandleWebviewScreenCapture supervisor value payload) := by
  apply settles_parsed
  rintro ⟨uid, pid, after⟩ hfound
  obtain ⟨-, hexists, happ⟩ := app_procInfo hfound
  have hmade : ∃ record, after.record? uid pid = some record := by
    rw [record?_eq, happ, if_pos rfl, lookup_withRecordNonNull, if_pos rfl]
    exact ⟨_, rfl⟩
  obtain ⟨record, hrecord⟩ := hmade
  dsimp only
  rw [Supervisor.withRecordAdjusted, hrecord]
  refine settles_adjusted supervisor uid pid ?_ (by decide)
  intro ofUid other hown
  rw [app_withApp, happ, happ]
  by_cases huid : ofUid = uid
  · subst huid
    have hpid : other ≠ pid := fun hpid => hown ⟨rfl, hpid⟩
    rw [if_pos rfl]
    split_ifs
    · exact fun houtdated => (outdated_withRecordNonNull_ne hpid).mp
        ((outdated_withRecord_ne hpid).mp houtdated)
    · exact (outdated_withRecordNonNull_ne hpid).mp
  · rw [if_neg huid, if_neg fun h => huid h.1]
    exact id

end

/-! ## The states and the creation of processes -/

/-- The record of a process, as it is made when there is none. -/
def Supervisor.recordNonNull (supervisor : Supervisor) (uid pid : Int) : ProcessRecord :=
  (supervisor.record? uid pid).getD (ProcessRecord.new (supervisor.app uid).created)

/-- A record that follows no host asks for another group. -/
def AsksForOther (env : External) (app : Application) (pid : Int) (record : ProcessRecord)
    (group : SchedPolicy) : Prop :=
  followsHost record = false ∧ group ≠ decidedGroup env app pid record

def ParseProcessState (payload : Payload) : Option (Int × Int × Int) := do
  let (uid, pid) ← ParseProcess payload
  let state ← ParseValue "state" payload
  return (uid, pid, state)

/-- A process that is launched beforehand goes to the background. Its group stays as it is, though
its record asks for another one now. -/
def BackgroundedUnadjusted (env : External) (supervisor : Supervisor) (payload : Payload)
    (uid pid : Int) : Prop :=
  ParseProcessState payload = some (uid, pid, PROCESS_BACKGROUND) ∧
    (ParseValue "preloadMode" payload).getD (-1) = env.PRE_LAUNCH ∧
    AsksForOther env (supervisor.app uid) pid
      { supervisor.recordNonNull uid pid with processState := PROCESS_BACKGROUND }
      (supervisor.recordNonNull uid pid).setSchedGroup

/-- A process is created. It gets the default group, though its record, which may have been made
before, asks for another one. -/
def CreatedUnadjusted (env : External) (supervisor : Supervisor) (payload : Payload)
    (uid pid : Int) : Prop :=
  ∃ info, ParseProcessCreateInfo payload = some info ∧ info.uid = uid ∧ info.pid = pid ∧
    createdSource info (ParseValue "isPreloadUIExtension" payload) = .ADJS_PROCESS_CREATE ∧
    AsksForOther env (supervisor.app uid) pid
      (createdRecord env info (supervisor.recordNonNull uid pid)) .SP_DEFAULT

theorem outdated_iff_of_lookup {env : External} {app app' : Application} {pid : Int}
    {record : ProcessRecord} (hlookup : app'.pidsMap.lookup pid = some record)
    (hfocused : app'.focusedProcess = app.focusedProcess) :
    Outdated env app' pid ↔ AsksForOther env app pid record record.setSchedGroup := by
  unfold Outdated AsksForOther decidedGroup
  rw [hlookup, hfocused]
  constructor
  · rintro ⟨record', hsome, hfollows, hne⟩
    obtain rfl := Option.some.inj hsome
    exact ⟨hfollows, hne⟩
  · rintro ⟨hfollows, hne⟩
    exact ⟨record, rfl, hfollows, hne⟩

section

variable {env : External} {supervisor : Supervisor} (payload : Payload)

theorem HandleProcessStateChanged_eq :
    HandleProcessStateChanged env supervisor payload =
      supervisor.parsed (ParseProcessState payload) fun (uid, pid, state) =>
        if state = PROCESS_BACKGROUND ∧
            (ParseValue "preloadMode" payload).getD (-1) = env.PRE_LAUNCH then
          ⟨supervisor.withAppNonNull uid (fun app =>
            app.withRecordNonNull pid (fun record => { record with processState := state })), []⟩
        else
          supervisor.withRecordNonNullAdjusted uid pid
            (fun record =>
              { record with
                processState := state
                preloadMode := (ParseValue "preloadMode" payload).getD (-1) })
            .ADJS_PROCESS_STATE := by
  rw [HandleProcessStateChanged, ParseProcessState, ParseProcess]
  cases ParseValue "uid" payload <;> cases ParseValue "pid" payload <;>
    cases ParseString "bundleName" payload <;> cases ParseValue "state" payload <;> rfl

theorem leaves_HandleProcessStateChanged :
    Leaves env supervisor (HandleProcessStateChanged env supervisor payload)
      (BackgroundedUnadjusted env supervisor payload) := by
  rw [HandleProcessStateChanged_eq]
  cases hparse : ParseProcessState payload with
  | none =>
      apply settles_unchanged.leaves
      rintro uid pid ⟨hsome, -⟩
      rw [hparse] at hsome
      cases hsome
  | some args =>
      obtain ⟨uid, pid, state⟩ := args
      dsimp only [Supervisor.parsed]
      by_cases hlaunch : state = PROCESS_BACKGROUND ∧
          (ParseValue "preloadMode" payload).getD (-1) = env.PRE_LAUNCH
      · rw [if_pos hlaunch]
        obtain ⟨rfl, hmode⟩ := hlaunch
        refine ⟨by simp [Handled.adjustings], ?_, ?_⟩
        · intro ofUid other houtdated
          rw [app_withAppNonNull] at houtdated
          split_ifs at houtdated with huid
          · subst huid
            by_cases hpid : other = pid
            · subst hpid
              rw [outdated_iff_of_lookup
                ((lookup_withRecordNonNull _ _ _ _).trans (if_pos rfl))
                focusedProcess_withRecordNonNull] at houtdated
              refine Or.inr (Or.inr ⟨hparse, hmode, ?_⟩)
              rw [Supervisor.recordNonNull, record?_eq]
              exact houtdated
            · exact Or.inl ((outdated_withRecordNonNull_ne hpid).mp houtdated)
          · exact Or.inl houtdated
        · rintro ofUid other ⟨hsome, -, hasks⟩
          rw [hparse] at hsome
          obtain ⟨rfl, rfl, -⟩ := hsome
          refine ⟨?_, by simp [Handled.adjustings]⟩
          rw [app_withAppNonNull, if_pos rfl, outdated_iff_of_lookup
            ((lookup_withRecordNonNull _ _ _ _).trans (if_pos rfl))
            focusedProcess_withRecordNonNull]
          rw [Supervisor.recordNonNull, record?_eq] at hasks
          exact hasks
      · rw [if_neg hlaunch]
        apply (settles_withRecordNonNullAdjusted supervisor uid pid _ (by decide)).leaves
        rintro ofUid other ⟨hsome, hmode, -⟩
        rw [hparse] at hsome
        obtain ⟨-, -, rfl⟩ := hsome
        exact hlaunch ⟨rfl, hmode⟩

/-- A process that is created, when it is not grouped by default, is grouped by its record. -/
theorem settles_HandleProcessCreated {info : ProcessCreateInfo}
    (hparse : ParseProcessCreateInfo payload = some info)
    (hsource : createdSource info (ParseValue "isPreloadUIExtension" payload) ≠
      .ADJS_PROCESS_CREATE) :
    Settles env supervisor (HandleProcessCreated env supervisor payload) := by
  rw [HandleProcessCreated, hparse]
  refine settles_adjusted supervisor info.uid info.pid ?_ hsource
  intro ofUid other hown
  rw [app_withAppNonNull]
  split_ifs with huid
  · subst huid
    have hpid : other ≠ info.pid := fun hpid => hown ⟨rfl, hpid⟩
    exact (outdated_congr ((lookup_createApplication env info _ other).trans (if_neg hpid))
      (focusedProcess_createApplication env info _)).mp
  · exact id

/-! ## Events -/

/-- The process that an event leaves in a group its record does not ask for. -/
def Unadjusted (env : External) (supervisor : Supervisor) (event : Event) (uid pid : Int) : Prop :=
  match event with
  | .HandleProcessStateChangedEx value payload =>
      if value = PROCESS_CREATED then CreatedUnadjusted env supervisor payload uid pid
      else if value = PROCESS_DIED then False
      else BackgroundedUnadjusted env supervisor payload uid pid
  | .HandleReportKeyThread _ _ payload => ReportsUnknown supervisor payload uid pid
  | .HandleReportWindowState payload => ReportsUnknown supervisor payload uid pid
  | .HandleReportWebviewVideoState _ payload => ReportsUnknown supervisor payload uid pid
  | _ => False

/-- An event is not the creation of a process that is grouped by default. -/
theorem leaves_update (event : Event)
    (hcreated : ∀ payload info, event = .HandleProcessStateChangedEx PROCESS_CREATED payload →
      ParseProcessCreateInfo payload = some info →
        createdSource info (ParseValue "isPreloadUIExtension" payload) ≠ .ADJS_PROCESS_CREATE) :
    Leaves env supervisor (supervisor.update env event) (Unadjusted env supervisor event) := by
  cases event with
  | HandleApplicationStateChanged payload => exact settles_HandleApplicationStateChanged payload
  | HandleProcessStateChangedEx value payload =>
      simp only [Supervisor.update, HandleProcessStateChangedEx]
      by_cases hvalue : value = PROCESS_CREATED
      · subst hvalue
        simp only [if_true]
        cases hparse : ParseProcessCreateInfo payload with
        | none =>
            rw [HandleProcessCreated, hparse]
            apply settles_unchanged.leaves
            rintro uid pid ⟨info, hsome, -⟩
            rw [hparse] at hsome
            cases hsome
        | some info =>
            have hsource := hcreated payload info rfl hparse
            apply (settles_HandleProcessCreated payload hparse hsource).leaves
            rintro uid pid ⟨info', hsome, -, -, hcreate, -⟩
            rw [hparse] at hsome
            obtain rfl := Option.some.inj hsome
            exact hsource hcreate
      · simp only [hvalue, if_false]
        by_cases hdied : value = PROCESS_DIED
        · simp only [hdied, if_true]
          exact settles_HandleProcessDied payload
        · have hskipped : Unadjusted env supervisor (.HandleProcessStateChangedEx value payload) =
              BackgroundedUnadjusted env supervisor payload := by
            funext uid pid
            simp only [Unadjusted, hvalue, hdied, if_false]
          rw [hskipped, if_neg hdied]
          exact leaves_HandleProcessStateChanged payload
  | HandleOnAppStopped payload => exact settles_HandleOnAppStopped payload
  | HandleAbilityStateChanged payload => exact settles_HandleAbilityStateChanged payload
  | HandleExtensionStateChanged payload => exact settles_HandleExtensionStateChanged payload
  | HandleTransientTaskStatus value payload => exact settles_HandleTransientTaskStatus payload value
  | HandleContinuousTaskStatus value payload =>
      exact settles_HandleContinuousTaskStatus payload value
  | HandleFocusStateChange value payload => exact settles_HandleFocusStateChange payload value
  | HandleWindowVisibilityChanged value payload =>
      exact settles_HandleWindowVisibilityChanged payload value
  | HandleDrawingContentChangeWindow value payload =>
      exact settles_HandleDrawingContentChangeWindow payload value
  | HandleReportKeyThread tidIsInPid value payload =>
      exact leaves_HandleReportKeyThread payload value tidIsInPid
  | HandleReportWindowState payload => exact leaves_HandleReportWindowState payload
  | HandleWebviewScreenCapture value payload =>
      exact settles_HandleWebviewScreenCapture payload value
  | HandleReportWebviewVideoState value payload =>
      exact leaves_HandleReportWebviewVideoState payload value
  | HandleReportAudioState value payload => exact settles_HandleReportAudioState payload value
  | HandleReportAudioCapTureState value payload =>
      exact settles_HandleReportAudioCapTureState payload value
  | HandleReportWebviewAudioState value payload =>
      exact settles_HandleReportWebviewAudioState payload value
  | HandleReportScreenCaptureEvent value payload =>
      exact settles_HandleReportScreenCaptureEvent payload value
  | HandleReportCosmicCubeState value payload =>
      exact settles_HandleReportCosmicCubeState payload value

theorem outdated_handle_of_leaves {event : Event} {skipped : Int → Int → Prop}
    (hleaves : Leaves env supervisor (supervisor.update env event) skipped)
    (hcurrent : ∀ uid pid, ¬ Outdated env (supervisor.app uid) pid) (uid pid : Int) :
    Outdated env ((supervisor.handle env event).app uid) pid ↔ skipped uid pid := by
  have happ : (supervisor.handle env event).app uid = _ := app_handle env ⟨supervisor, []⟩ event uid
  rw [happ, Tracked.adjustAll, outdated_run_adjust env _ _ hleaves.plain]
  constructor
  · rintro ⟨houtdated, hnot⟩
    rcases hleaves.covered uid pid houtdated with hbefore | ⟨adjusting, hmem, hown⟩ | hskipped
    · exact absurd hbefore (hcurrent uid pid)
    · exact absurd hown (hnot adjusting hmem)
    · exact hskipped
  · exact hleaves.missed uid pid

/-- A process that is created is set to the default group. -/
theorem outdated_handle_of_created {payload : Payload} {info : ProcessCreateInfo}
    (hparse : ParseProcessCreateInfo payload = some info)
    (hsource : createdSource info (ParseValue "isPreloadUIExtension" payload) =
      .ADJS_PROCESS_CREATE)
    (hcurrent : ∀ uid pid, ¬ Outdated env (supervisor.app uid) pid) (uid pid : Int) :
    Outdated env ((supervisor.handle env
        (.HandleProcessStateChangedEx PROCESS_CREATED payload)).app uid) pid ↔
      CreatedUnadjusted env supervisor payload uid pid := by
  have happ : ((supervisor.handle env
      (.HandleProcessStateChangedEx PROCESS_CREATED payload)).app uid) =
        if uid = info.uid then
          AdjustProcessGroup env (createApplication env info (supervisor.app info.uid)) info.pid
            .ADJS_PROCESS_CREATE
        else supervisor.app uid := by
    have hupdate : supervisor.update env (.HandleProcessStateChangedEx PROCESS_CREATED payload) =
        ⟨supervisor.withAppNonNull info.uid (createApplication env info),
          [.AdjustProcessGroup info.uid info.pid .ADJS_PROCESS_CREATE]⟩ := by
      simp only [Supervisor.update, HandleProcessStateChangedEx, if_true, HandleProcessCreated,
        hparse, Supervisor.parsed, hsource]
    rw [Supervisor.handle, hupdate]
    refine (app_withApp_of_new _ info.uid uid _ rfl).trans ?_
    rw [app_withAppNonNull, app_withAppNonNull, if_pos rfl]
    split_ifs <;> rfl
  have hlookup := lookup_createApplication env info (supervisor.app info.uid)
  have hfocused := focusedProcess_createApplication env info (supervisor.app info.uid)
  rw [happ]
  constructor
  · intro houtdated
    split_ifs at houtdated with huid
    · subst huid
      by_cases hpid : pid = info.pid
      · subst hpid
        obtain ⟨-, record, hrecord, hfollows, hne⟩ :=
          (outdated_AdjustProcessGroup_self env _ _ _).mp houtdated
        rw [hlookup, if_pos rfl] at hrecord
        obtain rfl := Option.some.inj hrecord
        refine ⟨info, hparse, rfl, rfl, hsource, ?_⟩
        rw [Supervisor.recordNonNull, record?_eq]
        refine ⟨hfollows, ?_⟩
        rw [decidedGroup, hfocused] at hne
        exact Ne.symm hne
      · rw [outdated_AdjustProcessGroup_other env _ _ _ hpid,
          outdated_congr ((hlookup pid).trans (if_neg hpid)) hfocused] at houtdated
        exact absurd houtdated (hcurrent info.uid pid)
    · exact absurd houtdated (hcurrent uid pid)
  · rintro ⟨info', hsome, rfl, rfl, -, hfollows, hne⟩
    rw [hparse] at hsome
    obtain rfl := Option.some.inj hsome
    rw [if_pos rfl, outdated_AdjustProcessGroup_self]
    rw [Supervisor.recordNonNull, record?_eq] at hfollows hne
    refine ⟨rfl, _, (hlookup info.pid).trans (if_pos rfl), hfollows, ?_⟩
    rw [decidedGroup, hfocused]
    exact Ne.symm hne

/-- What an event leaves outdated, where everything was current, is what it does not adjust. -/
theorem outdated_handle_iff (event : Event)
    (hcurrent : ∀ uid pid, ¬ Outdated env (supervisor.app uid) pid) (uid pid : Int) :
    Outdated env ((supervisor.handle env event).app uid) pid ↔
      Unadjusted env supervisor event uid pid := by
  by_cases hcreated : ∃ payload info,
      event = .HandleProcessStateChangedEx PROCESS_CREATED payload ∧
        ParseProcessCreateInfo payload = some info ∧
          createdSource info (ParseValue "isPreloadUIExtension" payload) = .ADJS_PROCESS_CREATE
  · obtain ⟨payload, info, rfl, hparse, hsource⟩ := hcreated
    exact outdated_handle_of_created hparse hsource hcurrent uid pid
  · refine outdated_handle_of_leaves (leaves_update event ?_) hcurrent uid pid
    exact fun payload info hevent hparse hsource =>
      hcreated ⟨payload, info, hevent, hparse, hsource⟩

end

/-! ## Runs -/

/-- The groups stay current, whatever the kernel answers, exactly as long as no event skips a
process: one made by a report about its web content, one launched beforehand that goes to the
background, or one created after its record, where these ask for another group. -/
theorem groups_current_iff (env : External) (supervisor : Supervisor) (events : List Event) :
    Always (Supervisor.handle env) (GroupsCurrent env) supervisor events ↔
      GroupsCurrent env supervisor ∧
        EachStep (Supervisor.handle env)
          (fun supervisor event => ∀ uid pid, ¬ Unadjusted env supervisor event uid pid)
          supervisor events := by
  have hexact : ∀ supervisor event, True → GroupsCurrent env supervisor →
      (GroupsCurrent env (supervisor.handle env event) ↔
        ∀ uid pid, ¬ Unadjusted env supervisor event uid pid) := by
    intro supervisor event _ hcurrent
    rw [groupsCurrent_iff] at hcurrent ⊢
    refine forall_congr' fun uid => forall_congr' fun pid => not_congr ?_
    exact outdated_handle_iff event hcurrent uid pid
  have hrun := always_iff_eachStep (Supervisor.handle env) (fun _ _ _ => trivial) hexact events
    supervisor trivial
  constructor
  · exact fun h => ⟨h.head, (hrun h.head).mp h⟩
  · exact fun h => (hrun h.1).mpr h.2

end ResSched.Cgroup
