import ResSched.Verification.Cgroup.Handlers

/-! # The effect of adjusting -/

namespace ResSched.Cgroup

/-! ## Regrouping one record -/

/-- Two records that differ in their groups at most. -/
def SameButGroups (before after : ProcessRecord) : Prop :=
  ∃ last cur set, after =
    { before with lastSchedGroup := last, curSchedGroup := cur, setSchedGroup := set }

theorem SameButGroups.refl (record : ProcessRecord) : SameButGroups record record :=
  ⟨_, _, _, rfl⟩

theorem SameButGroups.trans {a b c : ProcessRecord} (h : SameButGroups a b)
    (h' : SameButGroups b c) : SameButGroups a c := by
  obtain ⟨_, _, _, rfl⟩ := h
  obtain ⟨last, cur, set, rfl⟩ := h'
  exact ⟨last, cur, set, rfl⟩

theorem regroup_sameButGroups (env : External) (pid : Int) (group : SchedPolicy)
    (record : ProcessRecord) : SameButGroups record (regroup env pid group record) := by
  unfold regroup ApplyProcessGroup
  split_ifs <;> exact ⟨_, _, _, rfl⟩

/-- Every process can be moved. -/
def AllMoved (env : External) : Prop :=
  ∀ pid group, env.SetThreadGroupSchedPolicy pid group = 0

theorem curSchedGroup_regroup (env : External) (hmoved : AllMoved env) (pid : Int)
    (group : SchedPolicy) (record : ProcessRecord) :
    (regroup env pid group record).curSchedGroup = group := by
  unfold regroup ApplyProcessGroup
  by_cases h : record.curSchedGroup = group
  · rw [if_neg (not_not.mpr h)]
    exact h
  · rw [if_pos h, if_neg (not_not.mpr (hmoved pid group))]

/-- A record that already has the group keeps it, whatever the kernel answers. -/
theorem curSchedGroup_regroup_self (env : External) (pid : Int) (record : ProcessRecord) :
    (regroup env pid record.curSchedGroup record).curSchedGroup = record.curSchedGroup := by
  unfold regroup ApplyProcessGroup
  rw [if_neg (not_not.mpr rfl)]

/-! ## Regrouping in an application -/

/-- A record that follows the process of a pid. -/
def followsPid (record : ProcessRecord) (pid : Int) : Bool :=
  followsHost record && record.hostPid = pid

theorem lookup_followHost (env : External) (hostPid : Int) (app : Application) (pid : Int)
    (host : ProcessRecord) (hhost : app.pidsMap.lookup hostPid = some host) (other : Int) :
    (followHost env hostPid app pid).pidsMap.lookup other =
      if other = pid then
        (app.pidsMap.lookup other).map (fun record =>
          if followsPid record hostPid then regroup env other host.curSchedGroup record else record)
      else app.pidsMap.lookup other := by
  rw [followHost]
  cases hpid : app.pidsMap.lookup pid with
  | none =>
      by_cases hother : other = pid
      · subst hother
        simp [hpid]
      · simp [hother]
  | some record =>
      dsimp only
      by_cases hfollows : followsPid record hostPid = true
      · have hboth := hfollows
        rw [followsPid] at hboth
        rw [Bool.and_eq_true, decide_eq_true_eq] at hboth
        rw [if_pos hboth.1, hboth.2, hhost]
        dsimp only
        rw [if_neg (not_not.mpr rfl), lookup_withRecord]
        by_cases hother : other = pid
        · subst hother
          simp [hpid, hfollows]
        · simp [hother]
      · have hkept : (if other = pid then
            (app.pidsMap.lookup other).map (fun record =>
              if followsPid record hostPid then regroup env other host.curSchedGroup record
              else record)
            else app.pidsMap.lookup other) = app.pidsMap.lookup other := by
          by_cases hother : other = pid
          · subst hother
            simp [hpid, hfollows]
          · simp [hother]
        rw [hkept]
        by_cases htype : followsHost record = true
        · have hne : record.hostPid ≠ hostPid := by
            intro heq
            exact hfollows (by simp [followsPid, htype, heq])
          rw [if_pos htype]
          cases app.pidsMap.lookup record.hostPid with
          | none => rfl
          | some _ =>
              dsimp only
              rw [if_pos hne]
        · rw [if_neg htype]

/-- The loop regroups each follower once. The group of the host, which the loop reads anew each
time, does not change, even where the host is listed as its own follower. -/
theorem lookup_foldl_followHost (env : External) (hostPid : Int) (pids : List Int)
    (hnodup : pids.Nodup) (app : Application) (host : ProcessRecord)
    (hhost : app.pidsMap.lookup hostPid = some host) (other : Int) :
    (pids.foldl (followHost env hostPid) app).pidsMap.lookup other =
      if other ∈ pids then
        (app.pidsMap.lookup other).map (fun record =>
          if followsPid record hostPid then regroup env other host.curSchedGroup record else record)
      else app.pidsMap.lookup other := by
  induction pids generalizing app host with
  | nil => simp
  | cons pid pids ih =>
      rw [List.nodup_cons] at hnodup
      have hstep := lookup_followHost env hostPid app pid host hhost
      obtain ⟨host', hhost', hgroup⟩ : ∃ host',
          (followHost env hostPid app pid).pidsMap.lookup hostPid = some host' ∧
            host'.curSchedGroup = host.curSchedGroup := by
        rw [hstep hostPid, hhost]
        split_ifs with hself
        · refine ⟨_, rfl, ?_⟩
          dsimp only
          split_ifs
          · exact curSchedGroup_regroup_self env hostPid host
          · rfl
        · exact ⟨host, rfl, rfl⟩
      rw [List.foldl_cons, ih hnodup.2 _ host' hhost', hstep other, hgroup]
      by_cases hother : other = pid
      · subst hother
        simp [hnodup.1]
      · simp [hother]

theorem mem_ascendingKeys_pidsMap (app : Application) (pid : Int) :
    pid ∈ AssocMap.ascendingKeys app.pidsMap ↔ (app.pidsMap.lookup pid).isSome := by
  rw [AssocMap.mem_ascendingKeys, AssocMap.mem_keys_iff, Option.isSome_iff_exists]

/-- The effect of adjusting a process: it gets the computed group, and when it is listed as a
host each process that follows it gets the group it then has. -/
theorem lookup_AdjustProcessGroup (env : External) (app : Application) (pid : Int)
    (source : AdjustSource) (record : ProcessRecord)
    (hrecord : app.pidsMap.lookup pid = some record) (other : Int) :
    (AdjustProcessGroup env app pid source).pidsMap.lookup other =
      ((app.withRecord pid (regroup env pid
        (ComputeProcessGroup env app pid record source))).pidsMap.lookup other).map
        (fun follower =>
          if pid ∈ app.hostPidsSet ∧ followsPid follower pid then
            regroup env other
              (regroup env pid (ComputeProcessGroup env app pid record source) record).curSchedGroup
              follower
          else follower) := by
  rw [AdjustProcessGroup]
  rw [hrecord]
  dsimp only
  have hset : ∀ f, (app.withRecord pid f).hostPidsSet = app.hostPidsSet := fun _ => rfl
  rw [hset]
  by_cases hlisted : pid ∈ app.hostPidsSet
  · rw [if_neg (not_not.mpr hlisted)]
    rw [lookup_foldl_followHost env pid _ (AssocMap.nodup_ascendingKeys _) _
      (regroup env pid (ComputeProcessGroup env app pid record source) record)
      (by rw [lookup_withRecord, if_pos rfl, hrecord, Option.map_some]) other]
    simp only [mem_ascendingKeys_pidsMap, hlisted, true_and]
    cases hother : (app.withRecord pid (regroup env pid
        (ComputeProcessGroup env app pid record source))).pidsMap.lookup other with
    | none => rfl
    | some _ => rfl
  · rw [if_pos hlisted]
    simp [hlisted]

/-! ## What adjusting leaves as it is -/

/-- An application in which only groups have changed. -/
structure AppRegrouped (before after : Application) : Prop where
  focusedProcess : after.focusedProcess = before.focusedProcess
  hostPidsSet : after.hostPidsSet = before.hostPidsSet
  found : ∀ pid record, before.pidsMap.lookup pid = some record →
    ∃ record', after.pidsMap.lookup pid = some record' ∧ SameButGroups record record'
  absent : ∀ pid, before.pidsMap.lookup pid = none → after.pidsMap.lookup pid = none

theorem AppRegrouped.refl (app : Application) : AppRegrouped app app :=
  ⟨rfl, rfl, fun _ record h => ⟨record, h, SameButGroups.refl record⟩, fun _ h => h⟩

theorem AppRegrouped.trans {a b c : Application} (h : AppRegrouped a b) (h' : AppRegrouped b c) :
    AppRegrouped a c := by
  refine ⟨h'.focusedProcess.trans h.focusedProcess, h'.hostPidsSet.trans h.hostPidsSet, ?_,
    fun pid hnone => h'.absent pid (h.absent pid hnone)⟩
  intro pid record hlookup
  obtain ⟨record', hmiddle, hsame⟩ := h.found pid record hlookup
  obtain ⟨record'', hafter, hsame'⟩ := h'.found pid record' hmiddle
  exact ⟨record'', hafter, hsame.trans hsame'⟩

theorem withRecord_regrouped (app : Application) (pid : Int) (f : ProcessRecord → ProcessRecord)
    (hf : ∀ record, SameButGroups record (f record)) : AppRegrouped app (app.withRecord pid f) := by
  refine ⟨rfl, rfl, ?_, ?_⟩
  · intro other record hlookup
    rw [lookup_withRecord, hlookup]
    split_ifs
    · exact ⟨f record, rfl, hf record⟩
    · exact ⟨record, rfl, SameButGroups.refl record⟩
  · intro other hnone
    rw [lookup_withRecord, hnone]
    simp

theorem followHost_regrouped (env : External) (hostPid : Int) (app : Application) (pid : Int) :
    AppRegrouped app (followHost env hostPid app pid) := by
  rw [followHost]
  cases app.pidsMap.lookup pid with
  | none => exact AppRegrouped.refl app
  | some procRecord =>
      dsimp only
      by_cases htype : followsHost procRecord = true
      · rw [if_pos htype]
        cases app.pidsMap.lookup procRecord.hostPid with
        | none => exact AppRegrouped.refl app
        | some hostProcRecord =>
            dsimp only
            by_cases hne : procRecord.hostPid ≠ hostPid
            · rw [if_pos hne]
              exact AppRegrouped.refl app
            · rw [if_neg hne]
              exact withRecord_regrouped app pid _ fun record =>
                regroup_sameButGroups env pid _ record
      · rw [if_neg htype]
        exact AppRegrouped.refl app

/-- A loop whose iterations only regroup only regroups. -/
theorem foldl_regrouped (step : Application → Int → Application)
    (hstep : ∀ app pid, AppRegrouped app (step app pid)) (pids : List Int) (app : Application) :
    AppRegrouped app (pids.foldl step app) := by
  induction pids generalizing app with
  | nil => exact AppRegrouped.refl app
  | cons pid pids ih => exact (hstep app pid).trans (ih (step app pid))

theorem AdjustProcessGroup_regrouped (env : External) (app : Application) (pid : Int)
    (source : AdjustSource) : AppRegrouped app (AdjustProcessGroup env app pid source) := by
  rw [AdjustProcessGroup]
  cases app.pidsMap.lookup pid with
  | none => exact AppRegrouped.refl app
  | some record =>
      dsimp only
      have hown := withRecord_regrouped app pid
        (regroup env pid (ComputeProcessGroup env app pid record source))
        fun record => regroup_sameButGroups env pid _ record
      split_ifs
      · exact hown.trans (foldl_regrouped _ (followHost_regrouped env pid) _ _)
      · exact hown

theorem AdjustAllProcessGroup_regrouped (env : External) (app : Application)
    (source : AdjustSource) : AppRegrouped app (AdjustAllProcessGroup env app source) := by
  apply foldl_regrouped
  intro app pid
  cases app.pidsMap.lookup pid with
  | none => exact AppRegrouped.refl app
  | some procRecord =>
      dsimp only
      split_ifs
      · exact AppRegrouped.refl app
      · exact AdjustProcessGroup_regrouped env app pid source

/-- Every application has at most been regrouped. -/
def SupervisorRegrouped (before after : Supervisor) : Prop :=
  ∀ uid, AppRegrouped (before.app uid) (after.app uid)

theorem perform_regrouped (env : External) (supervisor : Supervisor) (call : AdjustCall) :
    SupervisorRegrouped supervisor (supervisor.perform env call) := by
  intro other
  cases call with
  | AdjustProcessGroup uid pid source =>
      simp only [Supervisor.perform, app_withApp]
      split_ifs with h
      · rw [h.1]
        exact AdjustProcessGroup_regrouped env _ pid source
      · exact AppRegrouped.refl _
  | AdjustAllProcessGroup uid source =>
      simp only [Supervisor.perform, app_withApp]
      split_ifs with h
      · rw [h.1]
        exact AdjustAllProcessGroup_regrouped env _ source
      · exact AppRegrouped.refl _

theorem performAll_regrouped (env : External) (calls : List AdjustCall) (supervisor : Supervisor) :
    SupervisorRegrouped supervisor (calls.foldl (Supervisor.perform env) supervisor) := by
  induction calls generalizing supervisor with
  | nil => exact fun uid => AppRegrouped.refl _
  | cons call calls ih =>
      exact fun uid => (perform_regrouped env supervisor call uid).trans (ih _ uid)

/-- What an event does beyond its update of the records is a regrouping. -/
theorem handle_regrouped (env : External) (supervisor : Supervisor) (event : Event) :
    SupervisorRegrouped (supervisor.update env event).supervisor (supervisor.handle env event) :=
  performAll_regrouped env _ _

/-! ## The ability framework -/

/-- The values of the framework's enumerations. Every process can be moved. -/
def framework : External where
  APP_STATE_FOREGROUND := 2
  APP_STATE_BACKGROUND := 4
  APP_STATE_TERMINATED := 5
  ABILITY_STATE_CREATE := 0
  ABILITY_STATE_BACKGROUND := 4
  ABILITY_STATE_TERMINATED := 5
  EXTENSION_STATE_TERMINATED := 4
  ABILITY_TYPE_SERVICE := 2
  ABILITY_TYPE_EXTENSION := 5
  ABILITY_TYPE_DATA := 3
  PROCESS_TYPE_EXTENSION := 1
  PROCESS_TYPE_RENDER := 2
  PROCESS_TYPE_GPU := 3
  PROCESS_TYPE_CHILD := 4
  PRE_LAUNCH := 3
  SetThreadGroupSchedPolicy := fun _ _ => 0

def focusEvent (value : Int) (uid pid windowId : String) : Event :=
  .HandleFocusStateChange value (.object
    [("pid", .string pid), ("uid", .string uid), ("windowId", .string windowId),
      ("windowType", .string "1"), ("displayId", .string "0")])

end ResSched.Cgroup
