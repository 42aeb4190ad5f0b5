import ResSched.Library.Transition
import ResSched.Verification.Cgroup.Follow

/-! # Followers and hosts in runs

The events are tracked together with the processes that have been adjusted.
-/

namespace ResSched.Cgroup

open Transition

/-! ## The processes an event adjusts -/

/-- One call of `AdjustProcessGroup`. -/
structure Adjusting where
  uid : Int
  pid : Int
  source : AdjustSource

/-- The processes of an application that `AdjustAllProcessGroup` adjusts. -/
def Application.hosts (app : Application) : List Int :=
  (AssocMap.ascendingKeys app.pidsMap).filter (fun pid =>
    !(app.pidsMap.lookup pid).any followsHost)

def Supervisor.adjustings (supervisor : Supervisor) : AdjustCall → List Adjusting
  | .AdjustProcessGroup uid pid source => [⟨uid, pid, source⟩]
  | .AdjustAllProcessGroup uid source =>
      (supervisor.app uid).hosts.map (fun pid => ⟨uid, pid, source⟩)

def Handled.adjustings (handled : Handled) : List Adjusting :=
  handled.calls.flatMap handled.supervisor.adjustings

/-! ## Tracking what has been adjusted -/

structure Tracked where
  supervisor : Supervisor
  /-- The uid and the pid of each record adjusted since it was made. -/
  adjusted : List (Int × Int)

def Tracked.start : Tracked :=
  ⟨Supervisor.start, []⟩

def Tracked.adjust (env : External) (tracked : Tracked) (adjusting : Adjusting) : Tracked where
  supervisor := tracked.supervisor.withApp adjusting.uid (fun app =>
    AdjustProcessGroup env app adjusting.pid adjusting.source)
  adjusted :=
    if (tracked.supervisor.record? adjusting.uid adjusting.pid).isSome then
      (adjusting.uid, adjusting.pid) :: tracked.adjusted
    else tracked.adjusted

/-- The update of the records; a record that goes is no longer an adjusted one. -/
def Tracked.update (env : External) (tracked : Tracked) (event : Event) : Tracked where
  supervisor := (tracked.supervisor.update env event).supervisor
  adjusted := tracked.adjusted.filter (fun entry =>
    ((tracked.supervisor.update env event).supervisor.record? entry.1 entry.2).isSome)

/-- The calls of the adjuster, one process at a time. -/
def Tracked.adjustAll (env : External) (tracked : Tracked) (event : Event) : Tracked :=
  run (Tracked.adjust env) (tracked.update env event)
    (tracked.supervisor.update env event).adjustings

def Tracked.handle (env : External) (tracked : Tracked) (event : Event) : Tracked where
  supervisor := tracked.supervisor.handle env event
  adjusted := (tracked.adjustAll env event).adjusted

/-! ## The property -/

def Tracked.adjustedOf (tracked : Tracked) (uid pid : Int) : Prop :=
  (uid, pid) ∈ tracked.adjusted

def Tracked.Follows (tracked : Tracked) : Prop :=
  ∀ uid, Cgroup.Follows (tracked.adjustedOf uid) (tracked.supervisor.app uid)

def AdjustKept (env : External) (tracked : Tracked) (adjusting : Adjusting) : Prop :=
  ∀ record, tracked.supervisor.record? adjusting.uid adjusting.pid = some record →
    FollowKept env (tracked.adjustedOf adjusting.uid) (tracked.supervisor.app adjusting.uid)
      adjusting.pid adjusting.source record

/-- The condition at each process the event adjusts. -/
def EventKept (env : External) (tracked : Tracked) (event : Event) : Prop :=
  EachStep (Tracked.adjust env) (AdjustKept env) (tracked.update env event)
    (tracked.supervisor.update env event).adjustings

/-! ## Tracked events -/

/-- Every adjusted record is live. -/
def Tracked.Live (tracked : Tracked) : Prop :=
  ∀ uid pid, tracked.adjustedOf uid pid →
    ((tracked.supervisor.app uid).pidsMap.lookup pid).isSome = true

/-- The property apart from one process. -/
structure Tracked.FollowsExcept (tracked : Tracked) (uid pid : Int) : Prop where
  own : Cgroup.FollowsExcept pid (tracked.adjustedOf uid) (tracked.supervisor.app uid)
  others : ∀ other, other ≠ uid →
    Cgroup.Follows (tracked.adjustedOf other) (tracked.supervisor.app other)

theorem Tracked.Follows.except {tracked : Tracked} (h : tracked.Follows) (uid pid : Int) :
    tracked.FollowsExcept uid pid :=
  ⟨fun other record host _ _ hrecord htype => h uid other record hrecord htype host,
    fun other _ => h other⟩

theorem AppRegrouped.isSome_lookup {before after : Application} (h : AppRegrouped before after)
    (pid : Int) : (after.pidsMap.lookup pid).isSome = (before.pidsMap.lookup pid).isSome := by
  cases hbefore : before.pidsMap.lookup pid with
  | some record =>
      obtain ⟨record', hafter, _⟩ := h.found pid record hbefore
      rw [hafter]
      rfl
  | none => rw [h.absent pid hbefore]

section

variable (env : External) (tracked : Tracked) (adjusting : Adjusting)

theorem adjust_regrouped :
    SupervisorRegrouped tracked.supervisor (tracked.adjust env adjusting).supervisor :=
  perform_regrouped env tracked.supervisor
    (.AdjustProcessGroup adjusting.uid adjusting.pid adjusting.source)

theorem adjustedOf_adjust (uid pid : Int) :
    (tracked.adjust env adjusting).adjustedOf uid pid ↔
      (uid = adjusting.uid ∧ pid = adjusting.pid ∧
        (tracked.supervisor.record? uid pid).isSome = true) ∨ tracked.adjustedOf uid pid := by
  unfold Tracked.adjustedOf Tracked.adjust
  dsimp only
  by_cases hsome : (tracked.supervisor.record? adjusting.uid adjusting.pid).isSome = true
  · rw [if_pos hsome, List.mem_cons, Prod.mk.injEq]
    constructor
    · rintro (⟨rfl, rfl⟩ | h)
      · exact Or.inl ⟨rfl, rfl, hsome⟩
      · exact Or.inr h
    · rintro (⟨rfl, rfl, _⟩ | h)
      · exact Or.inl ⟨rfl, rfl⟩
      · exact Or.inr h
  · rw [if_neg hsome]
    constructor
    · exact Or.inr
    · rintro (⟨rfl, rfl, h⟩ | h)
      · exact absurd h hsome
      · exact h

theorem adjust_live (hlive : tracked.Live) : (tracked.adjust env adjusting).Live := by
  intro uid pid hadjusted
  rw [(adjust_regrouped env tracked adjusting uid).isSome_lookup]
  rcases (adjustedOf_adjust env tracked adjusting uid pid).mp hadjusted with ⟨_, _, h⟩ | h
  · rw [← record?_eq]
    exact h
  · exact hlive uid pid h

theorem adjust_follows (hmoved : AllMoved env)
    (hexcept : tracked.FollowsExcept adjusting.uid adjusting.pid)
    (hkept : AdjustKept env tracked adjusting) : (tracked.adjust env adjusting).Follows := by
  intro uid
  have happ : (tracked.adjust env adjusting).supervisor.app uid =
      if uid = adjusting.uid ∧ (tracked.supervisor.uidsMap.lookup adjusting.uid).isSome = true then
        AdjustProcessGroup env (tracked.supervisor.app adjusting.uid) adjusting.pid adjusting.source
      else tracked.supervisor.app uid :=
    app_withApp tracked.supervisor adjusting.uid uid _
  have hadjusted := adjustedOf_adjust env tracked adjusting uid
  by_cases huid : uid = adjusting.uid
  · subst huid
    cases hrecord : tracked.supervisor.record? adjusting.uid adjusting.pid with
    | some record =>
        have hlookup := (record?_eq _ _ _).symm.trans hrecord
        rw [happ, if_pos ⟨rfl, isSome_lookup_of_record? hrecord⟩]
        intro pid after hafter htype host hhost hold
        refine (AdjustProcessGroup_follows_iff env hmoved _ _ adjusting.pid adjusting.source record
          hlookup hexcept.own).mpr (hkept record hrecord) pid after hafter htype host hhost ?_
        exact ((hadjusted _).mp hold).imp (fun h => h.2.1) id
    | none =>
        have hnone := (record?_eq _ _ _).symm.trans hrecord
        have hsame : AdjustProcessGroup env (tracked.supervisor.app adjusting.uid) adjusting.pid
            adjusting.source = tracked.supervisor.app adjusting.uid := by
          rw [AdjustProcessGroup]
          rw [hnone]
        rw [happ, hsame, ite_self]
        intro pid record hlookup htype host hhost hold
        refine hexcept.own pid record host ?_ ?_ hlookup htype hhost ?_
        · rintro rfl
          exact absurd (hnone.symm.trans hlookup) (by simp)
        · intro heq
          rw [heq] at hhost
          exact absurd (hnone.symm.trans hhost) (by simp)
        · rcases (hadjusted _).mp hold with ⟨_, heq, hsome⟩ | h
          · rw [heq, hrecord] at hsome
            exact absurd hsome (by simp)
          · exact h
  · rw [happ, if_neg fun h => huid h.1]
    intro pid record hlookup htype host hhost hold
    exact hexcept.others uid huid pid record hlookup htype host hhost
      (((hadjusted _).mp hold).resolve_left fun h => huid h.1)

end

/-! ## One event -/

theorem adjustedOf_update (env : External) (tracked : Tracked) (event : Event) (uid pid : Int) :
    (tracked.update env event).adjustedOf uid pid ↔
      tracked.adjustedOf uid pid ∧
        (((tracked.supervisor.update env event).supervisor.app uid).pidsMap.lookup
          pid).isSome = true := by
  unfold Tracked.adjustedOf Tracked.update
  rw [List.mem_filter, record?_eq]

theorem update_live (env : External) (tracked : Tracked) (event : Event) :
    (tracked.update env event).Live :=
  fun uid pid h => ((adjustedOf_update env tracked event uid pid).mp h).2

/-- The update keeps the property of an application in which it creates no process. -/
theorem update_follows_of_not_created (env : External) (tracked : Tracked) (event : Event)
    (hlive : tracked.Live) (hfollows : tracked.Follows) (uid : Int)
    (hcreated : ∀ info, recordAct event = .created info → uid ≠ info.uid) :
    Cgroup.Follows ((tracked.update env event).adjustedOf uid)
      ((tracked.update env event).supervisor.app uid) := by
  have hkept := appChange_groupsKept (update_appChange env tracked.supervisor event uid) hcreated
  intro pid record hrecord htype host hhost hadjusted
  exact follows_of_groupsKept hkept (hlive uid) (hfollows uid) pid record hrecord htype host hhost
    ((adjustedOf_update env tracked event uid _).mp hadjusted).1

theorem update_followsExcept_of_created (env : External) (tracked : Tracked) (event : Event)
    (hlive : tracked.Live) (hfollows : tracked.Follows) (info : ProcessCreateInfo)
    (hcreated : recordAct event = .created info) :
    (tracked.update env event).FollowsExcept info.uid info.pid := by
  constructor
  · have happ := update_appChange env tracked.supervisor event info.uid
    rw [hcreated] at happ
    simp only [AppChange, if_true] at happ
    intro pid record host hpid hhostPid hrecord htype hhost hadjusted
    change ((tracked.supervisor.update env event).supervisor.app info.uid).pidsMap.lookup pid =
      some record at hrecord
    change ((tracked.supervisor.update env event).supervisor.app info.uid).pidsMap.lookup
      record.hostPid = some host at hhost
    rw [happ] at hrecord hhost
    exact createApplication_followsExcept (hfollows info.uid) pid record host hpid hhostPid hrecord
      htype hhost ((adjustedOf_update env tracked event info.uid _).mp hadjusted).1
  · intro other hother
    apply update_follows_of_not_created env tracked event hlive hfollows
    intro info' hinfo'
    rw [hcreated] at hinfo'
    obtain rfl := RecordAct.created.inj hinfo'
    exact hother

/-- An event that creates a process adjusts just this process. -/
theorem adjustings_of_created (env : External) (supervisor : Supervisor) (event : Event)
    (info : ProcessCreateInfo) (hcreated : recordAct event = .created info) :
    ∃ source, (supervisor.update env event).adjustings = [⟨info.uid, info.pid, source⟩] := by
  cases event with
  | HandleProcessStateChangedEx value payload =>
      simp only [recordAct] at hcreated
      simp only [Supervisor.update, HandleProcessStateChangedEx]
      by_cases hvalue : value = PROCESS_CREATED
      · rw [if_pos hvalue] at hcreated ⊢
        rw [HandleProcessCreated]
        cases hparse : ParseProcessCreateInfo payload with
        | none => simp [hparse] at hcreated
        | some parsed =>
            rw [hparse] at hcreated
            obtain rfl := RecordAct.created.inj hcreated
            exact ⟨_, rfl⟩
      · rw [if_neg hvalue] at hcreated
        split_ifs at hcreated
        cases hparse : ParseProcess payload <;> simp [hparse] at hcreated
  | HandleFocusStateChange value payload =>
      simp only [recordAct] at hcreated
      cases hparse : ParseFocus payload with
      | none => simp [hparse] at hcreated
      | some parsed =>
          simp only [hparse] at hcreated
          split_ifs at hcreated
  | HandleOnAppStopped payload =>
      simp only [recordAct] at hcreated
      cases hparse : ParseStopped payload <;> simp [hparse] at hcreated
  | _ => exact absurd hcreated (by simp [recordAct])

theorem adjustAll_follows (env : External) (hmoved : AllMoved env) (tracked : Tracked)
    (event : Event) (h : tracked.Live ∧ tracked.Follows) (hkept : EventKept env tracked event) :
    (tracked.adjustAll env event).Live ∧ (tracked.adjustAll env event).Follows := by
  obtain ⟨hlive, hfollows⟩ := h
  have hupdated := update_live env tracked event
  rw [EventKept] at hkept
  rw [Tracked.adjustAll]
  cases hact : recordAct event with
  | created info =>
      obtain ⟨source, hadjustings⟩ := adjustings_of_created env tracked.supervisor event info hact
      rw [hadjustings] at hkept ⊢
      rw [eachStep_cons] at hkept
      exact ⟨adjust_live env _ _ hupdated, adjust_follows env _ _ hmoved
        (update_followsExcept_of_created env tracked event hlive hfollows info hact) hkept.1⟩
  | _ =>
      have hstart : (tracked.update env event).Follows := fun uid =>
        update_follows_of_not_created env tracked event hlive hfollows uid
          fun info hinfo => absurd (hact.symm.trans hinfo) (by simp)
      exact (always_of_eachStep (Tracked.adjust env)
        (P := fun tracked => tracked.Live ∧ tracked.Follows)
        (fun tracked adjusting hinv hguard => ⟨adjust_live env tracked adjusting hinv.1,
          adjust_follows env tracked adjusting hmoved (hinv.2.except _ _) hguard⟩)
        _ _ ⟨hupdated, hstart⟩ hkept).last

/-! ## One process at a time -/

theorem AppRegrouped.ascendingKeys {before after : Application} (h : AppRegrouped before after) :
    AssocMap.ascendingKeys after.pidsMap = AssocMap.ascendingKeys before.pidsMap := by
  apply AssocMap.ascendingKeys_eq _ _ (AssocMap.pairwise_ascendingKeys before.pidsMap)
  intro pid
  rw [mem_ascendingKeys_pidsMap, ← h.isSome_lookup pid, AssocMap.mem_keys_iff,
    Option.isSome_iff_exists]

theorem AppRegrouped.any_followsHost {before after : Application} (h : AppRegrouped before after)
    (pid : Int) :
    (after.pidsMap.lookup pid).any followsHost = (before.pidsMap.lookup pid).any followsHost := by
  cases hbefore : before.pidsMap.lookup pid with
  | some record =>
      obtain ⟨record', hafter, _, _, _, rfl⟩ := h.found pid record hbefore
      rw [hafter]
      rfl
  | none => rw [h.absent pid hbefore]

/-- The loop of `AdjustAllProcessGroup` adjusts the hosts one after the other. -/
theorem AdjustAllProcessGroup_eq (env : External) {before app : Application}
    (h : AppRegrouped before app) (source : AdjustSource) :
    AdjustAllProcessGroup env app source =
      before.hosts.foldl (fun app pid => AdjustProcessGroup env app pid source) app := by
  unfold AdjustAllProcessGroup Application.hosts
  rw [h.ascendingKeys]
  generalize AssocMap.ascendingKeys before.pidsMap = pids
  induction pids generalizing app with
  | nil => rfl
  | cons pid pids ih =>
      rw [List.foldl_cons, List.filter_cons, ← h.any_followsHost pid]
      cases hlookup : app.pidsMap.lookup pid with
      | none =>
          have hsame : AdjustProcessGroup env app pid source = app := by
            rw [AdjustProcessGroup]
            rw [hlookup]
          rw [if_pos (by simp), List.foldl_cons, hsame]
          exact ih h
      | some record =>
          dsimp only [Option.any_some]
          by_cases hfollows : followsHost record = true
          · rw [if_pos hfollows, if_neg (by simp [hfollows])]
            exact ih h
          · rw [if_neg hfollows, if_pos (by simp [hfollows]), List.foldl_cons]
            exact ih (h.trans (AdjustProcessGroup_regrouped env app pid source))

/-- A change that leaves a new application as it is. -/
theorem app_withApp_of_new (supervisor : Supervisor) (uid other : Int)
    (f : Application → Application) (hf : f Application.new = Application.new) :
    (supervisor.withApp uid f).app other =
      if other = uid then f (supervisor.app uid) else supervisor.app other := by
  rw [app_withApp]
  by_cases hother : other = uid
  · subst hother
    cases hlookup : supervisor.uidsMap.lookup other with
    | some app => rw [if_pos ⟨rfl, rfl⟩, if_pos rfl]
    | none =>
        have hnew : supervisor.app other = Application.new := by
          rw [Supervisor.app]
          rw [hlookup]
          rfl
        rw [if_neg (by simp), if_pos rfl, hnew, hf]
  · rw [if_neg fun h => hother h.1, if_neg hother]

theorem app_adjust (env : External) (tracked : Tracked) (adjusting : Adjusting) (uid : Int) :
    (tracked.adjust env adjusting).supervisor.app uid =
      if uid = adjusting.uid then
        AdjustProcessGroup env (tracked.supervisor.app adjusting.uid) adjusting.pid adjusting.source
      else tracked.supervisor.app uid :=
  app_withApp_of_new tracked.supervisor adjusting.uid uid _ rfl

theorem app_run_adjust (env : External) (uid : Int) (source : AdjustSource) (pids : List Int)
    (tracked : Tracked) (other : Int) :
    (run (Tracked.adjust env) tracked (pids.map (fun pid => ⟨uid, pid, source⟩))).supervisor.app
        other =
      if other = uid then
        pids.foldl (fun app pid => AdjustProcessGroup env app pid source)
          (tracked.supervisor.app uid)
      else tracked.supervisor.app other := by
  induction pids generalizing tracked with
  | nil =>
      split_ifs with hother
      · rw [hother]
        rfl
      · rfl
  | cons pid pids ih =>
      rw [List.map_cons, run_cons, ih, app_adjust, app_adjust, if_pos rfl, List.foldl_cons]
      split_ifs <;> rfl

/-- A call adjusts its processes, which may be listed from the records before earlier calls. -/
theorem app_perform (env : External) {before supervisor : Supervisor}
    (hregrouped : SupervisorRegrouped before supervisor) (tracked : Tracked)
    (hsame : ∀ uid, supervisor.app uid = tracked.supervisor.app uid) (call : AdjustCall)
    (uid : Int) :
    (supervisor.perform env call).app uid =
      (run (Tracked.adjust env) tracked (before.adjustings call)).supervisor.app uid := by
  cases call with
  | AdjustProcessGroup ofUid pid source =>
      have happ := app_withApp_of_new supervisor ofUid uid
        (fun app => AdjustProcessGroup env app pid source) rfl
      rw [hsame, hsame] at happ
      exact happ.trans (app_adjust env tracked ⟨ofUid, pid, source⟩ uid).symm
  | AdjustAllProcessGroup ofUid source =>
      have happ := app_withApp_of_new supervisor ofUid uid
        (fun app => AdjustAllProcessGroup env app source) rfl
      rw [AdjustAllProcessGroup_eq env (hregrouped ofUid), hsame, hsame] at happ
      exact happ.trans (app_run_adjust env ofUid source _ tracked uid).symm

theorem app_performAll (env : External) {before supervisor : Supervisor}
    (hregrouped : SupervisorRegrouped before supervisor) (tracked : Tracked)
    (hsame : ∀ uid, supervisor.app uid = tracked.supervisor.app uid) (calls : List AdjustCall)
    (uid : Int) :
    (calls.foldl (Supervisor.perform env) supervisor).app uid =
      (run (Tracked.adjust env) tracked (calls.flatMap before.adjustings)).supervisor.app uid := by
  induction calls generalizing supervisor tracked with
  | nil => exact hsame uid
  | cons call calls ih =>
      rw [List.foldl_cons, List.flatMap_cons, run_append]
      apply ih
      · exact fun other => (hregrouped other).trans (perform_regrouped env supervisor call other)
      · exact app_perform env hregrouped tracked hsame call

/-- Adjusting one process at a time is what the handler does. -/
theorem app_handle (env : External) (tracked : Tracked) (event : Event) (uid : Int) :
    (tracked.handle env event).supervisor.app uid =
      (tracked.adjustAll env event).supervisor.app uid :=
  app_performAll env (fun _ => AppRegrouped.refl _) (tracked.update env event) (fun _ => rfl) _ uid

theorem handle_follows (env : External) (hmoved : AllMoved env) (tracked : Tracked)
    (event : Event) (h : tracked.Live ∧ tracked.Follows) (hkept : EventKept env tracked event) :
    (tracked.handle env event).Live ∧ (tracked.handle env event).Follows := by
  obtain ⟨hlive, hfollows⟩ := adjustAll_follows env hmoved tracked event h hkept
  constructor
  · intro uid pid hadjusted
    rw [app_handle]
    exact hlive uid pid hadjusted
  · intro uid
    rw [app_handle]
    exact hfollows uid

/-! ## Runs -/

/-- When every process can be moved and each process an event adjusts meets the condition, every
follower has the group of its adjusted host after each event. -/
theorem followers_have_group_of_host (env : External) (hmoved : AllMoved env)
    (events : List Event)
    (hkept : EachStep (Tracked.handle env) (EventKept env) Tracked.start events) :
    Always (Tracked.handle env) Tracked.Follows Tracked.start events := by
  have hlive : Tracked.start.Live := fun _ _ h => absurd h List.not_mem_nil
  have hfollows : Tracked.start.Follows := fun _ _ _ _ _ _ _ h => absurd h List.not_mem_nil
  exact (always_of_eachStep (Tracked.handle env) (handle_follows env hmoved) events Tracked.start
    ⟨hlive, hfollows⟩ hkept).mono (Tracked.handle env) fun _ h => h.2

/-! ## Two runs -/

instance (adjusted : Int → Prop) [DecidablePred adjusted] (app : Application) :
    Decidable (Follows adjusted app) := by
  rw [Follows]
  infer_instance

instance (env : External) (adjusted : Int → Prop) [DecidablePred adjusted] (app : Application)
    (pid : Int) (source : AdjustSource) (record : ProcessRecord) :
    Decidable (FollowKept env adjusted app pid source record) :=
  decidable_of_iff _ (followKept_iff env adjusted app pid source record).symm

instance (tracked : Tracked) (uid : Int) : DecidablePred (tracked.adjustedOf uid) :=
  fun pid => inferInstanceAs (Decidable ((uid, pid) ∈ tracked.adjusted))

instance (env : External) (tracked : Tracked) (adjusting : Adjusting) :
    Decidable (AdjustKept env tracked adjusting) := by
  rw [AdjustKept]
  infer_instance

instance (env : External) (tracked : Tracked) (event : Event) :
    Decidable (EventKept env tracked event) :=
  inferInstanceAs (Decidable (EachStep _ _ _ _))

def createEvent (uid pid hostPid processType : String) : Event :=
  .HandleProcessStateChangedEx PROCESS_CREATED (.object
    [("uid", .string uid), ("pid", .string pid), ("bundleName", .string "app"),
      ("hostPid", .string hostPid), ("extensionType", .string "-1"),
      ("processType", .string processType), ("preloadMode", .string "-1")])

/-- A process and its render process are created, and the former gets the focus. -/
def renderFollowed : List Event :=
  [createEvent "2000" "3000" "0" "0", createEvent "2000" "3001" "3000" "2",
    focusEvent WINDOW_FOCUS "2000" "3000" "1"]

theorem renderFollowed_has_group_of_host :
    Always (Tracked.handle framework) Tracked.Follows Tracked.start renderFollowed :=
  followers_have_group_of_host framework (fun _ _ => rfl) renderFollowed (by decide +kernel)

/-- A focused process creates a GPU process. -/
def gpuCreated : List Event :=
  [createEvent "2000" "3000" "0" "0", focusEvent WINDOW_FOCUS "2000" "3000" "1",
    createEvent "2000" "3001" "3000" "3"]

theorem gpuCreated_parted_from_host :
    ¬ ∀ env : External, AllMoved env → ∀ events : List Event,
      Always (Tracked.handle env) Tracked.Follows Tracked.start events := by
  intro h
  have hfollows := (h framework (fun _ _ => rfl) gpuCreated).last
  exact absurd (hfollows 2000) (by decide +kernel)

end ResSched.Cgroup
