import ResSched.Model.Cgroup.Reload
import ResSched.Verification.Cgroup.Focus
import ResSched.Verification.Cgroup.FollowRuns

/-! # The process of an application in top-app -/

namespace ResSched.Cgroup

open Transition

/-- A process in top-app that follows no host. -/
def Application.InTopApp (app : Application) (pid : Int) : Prop :=
  ∃ record, app.pidsMap.lookup pid = some record ∧ followsHost record = false ∧
    record.curSchedGroup = .SP_TOP_APP

/-- Every process in top-app that follows no host is the focused one, so there is at most one. -/
structure OneTopApp (app : Application) : Prop where
  focused : ∀ pid, app.InTopApp pid → app.isFocusedProcess pid
  unique : ∀ pid other, app.InTopApp pid → app.InTopApp other → pid = other

/-! ## The invariant -/

/-- `focusedProcess_` points to the record its application has of that pid. -/
def FocusLive (app : Application) : Prop :=
  ∀ pointer, app.focusedProcess = some pointer → app.pointer pointer.pid = some pointer

/-- The processes in top-app are the focused one, those aside that are still to be adjusted. -/
structure Settled (stale : Int → Prop) (app : Application) : Prop where
  live : FocusLive app
  top : ∀ pid, ¬ stale pid → app.InTopApp pid → app.focusedProcess = app.pointer pid

theorem pointer_of_lookup {app : Application} {pid : Int} {record : ProcessRecord}
    (h : app.pidsMap.lookup pid = some record) : app.pointer pid = some ⟨pid, record.address⟩ := by
  rw [Application.pointer]
  rw [h, Option.map_some]

theorem Settled.oneTopApp {app : Application} (h : Settled (fun _ => False) app) :
    OneTopApp app := by
  refine ⟨?_, ?_⟩
  · intro pid htop
    have hfocused := h.top pid id htop
    obtain ⟨record, hlookup, -⟩ := htop
    refine ⟨?_, hfocused⟩
    rw [pointer_of_lookup hlookup]
    rfl
  · intro pid other htop htop'
    have hsame := (h.top pid id htop).symm.trans (h.top other id htop')
    obtain ⟨record, hlookup, -⟩ := htop
    obtain ⟨record', hlookup', -⟩ := htop'
    rw [pointer_of_lookup hlookup, pointer_of_lookup hlookup'] at hsame
    exact congrArg RecordPointer.pid (Option.some.inj hsame)

theorem Settled.mono {stale stale' : Int → Prop} {app : Application} (h : Settled stale app)
    (himp : ∀ pid, app.InTopApp pid → stale pid → stale' pid) : Settled stale' app where
  live := h.live
  top pid hstale htop := h.top pid (fun hbefore => hstale (himp pid htop hbefore)) htop

theorem settled_new (stale : Int → Prop) : Settled stale Application.new where
  live := by rintro _ ⟨⟩
  top := by rintro pid - ⟨record, ⟨⟩, -⟩

/-! ## Pointers to records that are kept -/

theorem SameFocus.pointer {before after : Application} (h : SameFocus before after) {pid : Int}
    {pointer : RecordPointer} (hpointer : before.pointer pid = some pointer) :
    after.pointer pid = some pointer := by
  obtain ⟨record, hlookup, rfl⟩ := Option.map_eq_some_iff.mp hpointer
  obtain ⟨record', hafter, hkept⟩ := h.records.found pid record hlookup
  rw [pointer_of_lookup hafter, hkept.address]

theorem SameFocus.live {before after : Application} (h : SameFocus before after)
    (hlive : FocusLive before) : FocusLive after := by
  intro pointer hfocused
  rw [h.focusedProcess] at hfocused
  exact h.pointer (hlive pointer hfocused)

/-- A process that was in top-app already stays the focused one. -/
theorem SameFocus.focused {before after : Application} (h : SameFocus before after) {pid : Int}
    (htop : before.InTopApp pid) (hfocused : before.focusedProcess = before.pointer pid) :
    after.focusedProcess = after.pointer pid := by
  obtain ⟨record, hlookup, -⟩ := htop
  have hpointer := pointer_of_lookup hlookup
  rw [h.focusedProcess, hfocused, hpointer, h.pointer hpointer]

theorem FocusDropped.live {pid : Int} {before after : Application}
    (h : FocusDropped pid before after) (hlive : FocusLive before) : FocusLive after := by
  intro pointer hfocused
  rw [h.focusedProcess] at hfocused
  split_ifs at hfocused with hdropped
  have hpointer := hlive pointer hfocused
  have hother : pointer.pid ≠ pid := by
    rintro rfl
    exact hdropped (hfocused.trans hpointer.symm)
  rw [Application.pointer] at hpointer ⊢
  rw [h.others pointer.pid hother]
  exact hpointer

/-! ## Adjusting -/

theorem ownGroup_ne_top (env : External) (record : ProcessRecord) :
    ownGroup env record ≠ .SP_TOP_APP := by
  rw [ownGroup]
  split_ifs <;> decide

/-- Only the focused process is put into top-app for itself. -/
theorem focused_of_group_top {env : External} {app : Application} {pid : Int}
    {record : ProcessRecord} {source : AdjustSource}
    (h : groupWithoutHost env app pid record source = .SP_TOP_APP) :
    app.focusedProcess.map RecordPointer.pid = some pid := by
  rw [groupWithoutHost] at h
  split_ifs at h with hcreated hfocused
  · exact hfocused
  · exact absurd h (ownGroup_ne_top env record)

theorem SameButGroups.followsHost {before after : ProcessRecord} (h : SameButGroups before after) :
    followsHost after = Cgroup.followsHost before := by
  obtain ⟨_, _, _, rfl⟩ := h
  rfl

/-- Adjusting a process settles it and keeps the others as they are. -/
theorem AdjustProcessGroup_settled (env : External) (hmoved : AllMoved env)
    {stale : Int → Prop} {app : Application} (h : Settled stale app) (pid : Int)
    (source : AdjustSource) :
    Settled (fun other => stale other ∧ other ≠ pid) (AdjustProcessGroup env app pid source) := by
  have hsame := (AdjustProcessGroup_regrouped env app pid source).sameFocus
  refine ⟨hsame.live h.live, ?_⟩
  rintro other hstale ⟨after, hafter, hfollows, hgroup⟩
  cases hrecord : app.pidsMap.lookup pid with
  | none =>
      have hunchanged : AdjustProcessGroup env app pid source = app := by
        rw [AdjustProcessGroup]
        rw [hrecord]
      rw [hunchanged] at hafter ⊢
      have hother : other ≠ pid := by
        rintro rfl
        rw [hrecord] at hafter
        cases hafter
      exact h.top other (fun hbefore => hstale ⟨hbefore, hother⟩) ⟨after, hafter, hfollows, hgroup⟩
  | some record =>
      obtain ⟨before, hbefore, hgroups, hset⟩ :=
        AdjustProcessGroup_effect env hmoved app pid source record hrecord other after hafter
      rw [hgroups.followsHost] at hfollows
      rw [hset] at hgroup
      by_cases hother : other = pid
      · subst hother
        obtain rfl := Option.some.inj (hrecord.symm.trans hbefore)
        have htype : record.processType ≠ RENDER := by
          intro hrender
          rw [followsHost, hrender] at hfollows
          exact absurd hfollows (by decide)
        rw [if_pos (Or.inl rfl), ComputeProcessGroup_other env app other record source htype]
          at hgroup
        obtain ⟨pointer, hfocused, rfl⟩ :=
          Option.map_eq_some_iff.mp (focused_of_group_top hgroup)
        rw [hsame.focusedProcess, hfocused]
        exact (hsame.pointer (h.live pointer hfocused)).symm
      · have hnot : ¬(pid ∈ app.hostPidsSet ∧ followsPid before pid = true) := by
          rintro ⟨-, hof⟩
          rw [((followsPid_iff before pid).mp hof).1] at hfollows
          cases hfollows
        rw [if_neg (not_or.mpr ⟨hother, hnot⟩)] at hgroup
        have htop : app.InTopApp other := ⟨before, hbefore, hfollows, hgroup⟩
        exact hsame.focused htop
          (h.top other (fun hbefore => hstale ⟨hbefore, hother⟩) htop)

theorem adjust_settled (env : External) (hmoved : AllMoved env) {stale : Int → Int → Prop}
    {tracked : Tracked} (h : ∀ uid, Settled (stale uid) (tracked.supervisor.app uid))
    (adjusting : Adjusting) (uid : Int) :
    Settled (fun pid => stale uid pid ∧ ¬(adjusting.uid = uid ∧ adjusting.pid = pid))
      ((tracked.adjust env adjusting).supervisor.app uid) := by
  rw [app_adjust]
  split_ifs with huid
  · subst huid
    refine (AdjustProcessGroup_settled env hmoved (h adjusting.uid) adjusting.pid
      adjusting.source).mono ?_
    rintro pid - ⟨hstale, hpid⟩
    exact ⟨hstale, fun hsame => hpid hsame.2.symm⟩
  · refine (h uid).mono ?_
    intro pid _ hstale
    exact ⟨hstale, fun hsame => huid hsame.1.symm⟩

/-- After all adjusting, what is stale has not been adjusted. -/
theorem run_adjust_settled (env : External) (hmoved : AllMoved env) (adjustings : List Adjusting)
    {stale : Int → Int → Prop} {tracked : Tracked}
    (h : ∀ uid, Settled (stale uid) (tracked.supervisor.app uid)) (uid : Int) :
    Settled (fun pid => stale uid pid ∧
        ∀ adjusting ∈ adjustings, ¬(adjusting.uid = uid ∧ adjusting.pid = pid))
      ((run (Tracked.adjust env) tracked adjustings).supervisor.app uid) := by
  induction adjustings generalizing stale tracked with
  | nil =>
      refine (h uid).mono ?_
      intro pid _ hstale
      exact ⟨hstale, fun adjusting hmem => absurd hmem List.not_mem_nil⟩
  | cons adjusting adjustings ih =>
      rw [run_cons]
      refine (ih fun uid => adjust_settled env hmoved h adjusting uid).mono ?_
      rintro pid - ⟨⟨hstale, hfirst⟩, hrest⟩
      exact ⟨hstale, List.forall_mem_cons.mpr ⟨hfirst, hrest⟩⟩

/-! ## The update of the records -/

theorem mem_hosts_of_inTopApp {app : Application} {pid : Int} (h : app.InTopApp pid) :
    pid ∈ app.hosts := by
  obtain ⟨record, hlookup, hfollows, -⟩ := h
  refine List.mem_filter.mpr ⟨?_, ?_⟩
  · rw [mem_ascendingKeys_pidsMap, hlookup]
    rfl
  · rw [hlookup, Option.any_some, hfollows]
    rfl

/-- An application whose hosts are all adjusted has nothing else to settle. -/
theorem settled_of_hosts {app : Application} (hlive : FocusLive app) (uid : Int)
    (source : AdjustSource) :
    Settled (fun pid => ∃ adjusting ∈ app.hosts.map (fun pid => Adjusting.mk uid pid source),
      adjusting.uid = uid ∧ adjusting.pid = pid) app where
  live := hlive
  top pid hstale htop :=
    absurd ⟨⟨uid, pid, source⟩, List.mem_map_of_mem (mem_hosts_of_inTopApp htop), rfl, rfl⟩ hstale

theorem AppKept.inTopApp {before after : Application} (h : AppKept before after) {pid : Int}
    (htop : after.InTopApp pid) : before.InTopApp pid := by
  obtain ⟨record', hafter, hfollows, hgroup⟩ := htop
  cases hbefore : before.pidsMap.lookup pid with
  | some record =>
      obtain ⟨record'', hafter', hkept⟩ := h.records.found pid record hbefore
      obtain rfl := Option.some.inj (hafter'.symm.trans hafter)
      rw [hkept.2.followsHost] at hfollows
      rw [hkept.2.curSchedGroup] at hgroup
      exact ⟨record, hbefore, hfollows, hgroup⟩
  | none =>
      obtain ⟨address, hkept⟩ := h.records.made pid record' hbefore hafter
      rw [hkept.2.curSchedGroup] at hgroup
      cases hgroup

theorem AppKept.settled {before after : Application} (h : AppKept before after)
    (hsettled : Settled (fun _ => False) before) : Settled (fun _ => False) after where
  live := h.sameFocus.live hsettled.live
  top pid _ htop :=
    h.sameFocus.focused (h.inTopApp htop) (hsettled.top pid id (h.inTopApp htop))

theorem focusApplication_live (windowId : Nat) (windowType displayId pid : Int)
    (app : Application) :
    FocusLive (focusApplication windowId windowType displayId pid app) := by
  intro pointer hfocused
  have hpointer : (focusApplication windowId windowType displayId pid app).pointer pid =
      some pointer := hfocused
  rw [pid_of_pointer hpointer]
  exact hpointer

theorem RemoveProcessRecord_settled {app : Application} (pid : Int)
    (h : Settled (fun _ => False) app) :
    Settled (fun _ => False) (app.RemoveProcessRecord pid) := by
  have hdropped := RemoveProcessRecord_dropped app pid
  refine ⟨hdropped.live h.live, ?_⟩
  rintro other - ⟨record, hafter, hfollows, hgroup⟩
  have hother : other ≠ pid := by
    rintro rfl
    rw [lookup_RemoveProcessRecord, if_pos rfl] at hafter
    cases hafter
  have hbefore := (hdropped.others other hother).symm.trans hafter
  have hfocused := h.top other id ⟨record, hbefore, hfollows, hgroup⟩
  have hkept : ¬ app.focusedProcess = app.pointer pid := by
    intro hsame
    rw [hfocused, pointer_of_lookup hbefore] at hsame
    exact hother (pid_of_pointer hsame.symm)
  rw [hdropped.focusedProcess, if_neg hkept, hfocused, pointer_of_lookup hbefore,
    pointer_of_lookup hafter]

theorem endProcess_settled {app : Application} (pid : Int)
    (h : Settled (fun _ => False) app) : Settled (fun _ => False) (endProcess pid app) := by
  rw [endProcess]
  split_ifs
  · exact settled_new _
  · exact RemoveProcessRecord_settled pid h

theorem createApplication_settled (env : External) (info : ProcessCreateInfo)
    {app : Application} (h : Settled (fun _ => False) app) :
    Settled (fun pid => info.pid = pid) (createApplication env info app) := by
  have hsame := createApplication_sameFocus env info app
  refine ⟨hsame.live h.live, ?_⟩
  rintro pid hpid ⟨record, hafter, hfollows, hgroup⟩
  rw [lookup_createApplication, if_neg (Ne.symm hpid)] at hafter
  have htop : app.InTopApp pid := ⟨record, hafter, hfollows, hgroup⟩
  exact hsame.focused htop (h.top pid id htop)

/-! ## Events -/

/-- Only an event about the focus of a window focuses or unfocuses one. -/
theorem event_of_focus {event : Event} {info : FocusInfo}
    (hact : recordAct event = .focused info ∨ recordAct event = .unfocused info) :
    ∃ value payload, event = .HandleFocusStateChange value payload ∧
      ParseFocus payload = some info := by
  cases event with
  | HandleFocusStateChange value payload =>
      simp only [recordAct] at hact
      cases hparse : ParseFocus payload with
      | none => simp [hparse] at hact
      | some parsed =>
          refine ⟨value, payload, rfl, ?_⟩
          simp only [hparse] at hact
          split_ifs at hact
          · rcases hact with hact | hact
            · rw [hparse, RecordAct.focused.inj hact]
            · cases hact
          · rcases hact with hact | hact
            · cases hact
            · rw [hparse, RecordAct.unfocused.inj hact]
          · rcases hact with hact | hact <;> cases hact
  | HandleProcessStateChangedEx value payload =>
      simp only [recordAct] at hact
      split_ifs at hact
      · cases hparse : ParseProcessCreateInfo payload <;> simp [hparse] at hact
      · cases hparse : ParseProcess payload <;> simp [hparse] at hact
      · simp at hact
  | HandleOnAppStopped payload =>
      simp only [recordAct] at hact
      cases hparse : ParseStopped payload <;> simp [hparse] at hact
  | _ => simp [recordAct] at hact

/-- An event that focuses a window adjusts all processes of the application. -/
theorem adjustings_of_focused (env : External) (supervisor : Supervisor) {event : Event}
    {info : FocusInfo} (hact : recordAct event = .focused info) :
    (supervisor.update env event).adjustings =
      ((supervisor.update env event).supervisor.app info.uid).hosts.map
        (fun pid => Adjusting.mk info.uid pid .ADJS_FOCUSED_WINDOW) := by
  obtain ⟨value, payload, rfl, hparse⟩ := event_of_focus (Or.inl hact)
  simp only [recordAct, hparse] at hact
  split_ifs at hact with hfocus
  simp only [Supervisor.update, HandleFocusStateChange, hparse, Supervisor.parsed]
  rw [if_pos hfocus]
  exact List.append_nil _

/-- An event that unfocuses a window of a process that has a record does so too. -/
theorem adjustings_of_unfocused (env : External) (supervisor : Supervisor) {event : Event}
    {info : FocusInfo} (hact : recordAct event = .unfocused info) :
    (supervisor.app info.uid).pidsMap.lookup info.pid = none ∨
      (supervisor.update env event).adjustings =
        ((supervisor.update env event).supervisor.app info.uid).hosts.map
          (fun pid => Adjusting.mk info.uid pid .ADJS_UNFOCUSED_WINDOW) := by
  obtain ⟨value, payload, rfl, hparse⟩ := event_of_focus (Or.inr hact)
  simp only [recordAct, hparse] at hact
  split_ifs at hact with hfocus hunfocus
  simp only [Supervisor.update, HandleFocusStateChange, hparse, Supervisor.parsed]
  rw [if_neg hfocus, if_pos hunfocus, HandleUnfocusedWindow, ← record?_eq]
  cases hrecord : supervisor.record? info.uid info.pid with
  | none => exact Or.inl rfl
  | some record => exact Or.inr (List.append_nil _)

/-- What an update leaves to settle is what the event then adjusts. -/
theorem update_settled (env : External) (supervisor : Supervisor) (event : Event)
    (h : ∀ uid, Settled (fun _ => False) (supervisor.app uid)) (uid : Int) :
    Settled (fun pid => ∃ adjusting ∈ (supervisor.update env event).adjustings,
        adjusting.uid = uid ∧ adjusting.pid = pid)
      ((supervisor.update env event).supervisor.app uid) := by
  have hchange := update_appChange env supervisor event uid
  have hrest : Settled (fun _ => False) ((supervisor.update env event).supervisor.app uid) →
      Settled (fun pid => ∃ adjusting ∈ (supervisor.update env event).adjustings,
        adjusting.uid = uid ∧ adjusting.pid = pid)
        ((supervisor.update env event).supervisor.app uid) :=
    fun hsettled => hsettled.mono fun _ _ hfalse => absurd hfalse id
  cases hact : recordAct event with
  | focused info =>
      rw [hact] at hchange
      simp only [AppChange] at hchange
      by_cases huid : uid = info.uid
      · subst huid
        rw [if_pos rfl] at hchange
        rw [adjustings_of_focused env supervisor hact]
        refine settled_of_hosts ?_ info.uid _
        rw [hchange]
        exact focusApplication_live _ _ _ _ _
      · rw [if_neg huid] at hchange
        refine hrest ?_
        rw [hchange]
        exact h uid
  | unfocused info =>
      rw [hact] at hchange
      simp only [AppChange] at hchange
      by_cases huid : uid = info.uid
      · subst huid
        rw [if_pos rfl] at hchange
        rcases adjustings_of_unfocused env supervisor hact with hnone | hall
        · rw [unfocusApplication_of_none _ _ _ _ _ hnone] at hchange
          refine hrest ?_
          rw [hchange]
          exact h info.uid
        · rw [hall]
          refine settled_of_hosts ?_ info.uid _
          rw [hchange]
          exact (unfocusApplication_dropped _ _ _ _ _).live (h info.uid).live
      · rw [if_neg huid] at hchange
        refine hrest ?_
        rw [hchange]
        exact h uid
  | created info =>
      rw [hact] at hchange
      simp only [AppChange] at hchange
      obtain ⟨source, hadjustings⟩ := adjustings_of_created env supervisor event info hact
      by_cases huid : uid = info.uid
      · subst huid
        rw [if_pos rfl] at hchange
        rw [hadjustings, hchange]
        refine (createApplication_settled env info (h info.uid)).mono ?_
        intro pid _ hpid
        exact ⟨⟨info.uid, info.pid, source⟩, List.mem_singleton_self _, rfl, hpid⟩
      · rw [if_neg huid] at hchange
        refine hrest ?_
        rw [hchange]
        exact h uid
  | died ofUid pid =>
      rw [hact] at hchange
      simp only [AppChange] at hchange
      refine hrest ?_
      rw [hchange]
      split_ifs
      · exact endProcess_settled pid (h uid)
      · exact h uid
  | stopped ofUid =>
      rw [hact] at hchange
      simp only [AppChange] at hchange
      refine hrest ?_
      rw [hchange]
      split_ifs
      · exact settled_new _
      · exact h uid
  | other =>
      rw [hact] at hchange
      exact hrest (AppKept.settled hchange (h uid))

theorem handle_settled (env : External) (hmoved : AllMoved env) (supervisor : Supervisor)
    (event : Event) (h : ∀ uid, Settled (fun _ => False) (supervisor.app uid)) (uid : Int) :
    Settled (fun _ => False) ((supervisor.handle env event).app uid) := by
  have hhandle := app_handle env ⟨supervisor, []⟩ event uid
  have hupdated : ∀ uid, Settled (fun pid =>
      ∃ adjusting ∈ (supervisor.update env event).adjustings,
        adjusting.uid = uid ∧ adjusting.pid = pid)
      ((Tracked.update env ⟨supervisor, []⟩ event).supervisor.app uid) :=
    update_settled env supervisor event h
  have hrun := run_adjust_settled env hmoved (supervisor.update env event).adjustings hupdated uid
  refine Eq.mp (congrArg (Settled _) hhandle.symm) (hrun.mono ?_)
  rintro pid - ⟨⟨adjusting, hmem, hsame⟩, hnone⟩
  exact hnone adjusting hmem hsame

/-! ## Reloading -/

theorem reloadChild_sameFocus (process : ChildProcessInfo) (app : Application) :
    SameFocus app (reloadChild process app) := by
  refine ⟨?_, ?_⟩
  · rw [reloadChild, withRecordNonNull_eq]
  · exact related_withRecordNonNull FocusKept.refl
      { app with hostPidsSet := insert process.hostPid app.hostPidsSet } process.pid
      (fun record => { record with processType := CHILD, hostPid := process.hostPid })
      fun _ => ⟨rfl, rfl, id⟩

theorem reloadChild_settled (process : ChildProcessInfo) {app : Application}
    (h : Settled (fun _ => False) app) : Settled (fun _ => False) (reloadChild process app) := by
  have hsame := reloadChild_sameFocus process app
  refine ⟨hsame.live h.live, ?_⟩
  rintro pid - ⟨record, hafter, hfollows, hgroup⟩
  rw [reloadChild, lookup_withRecordNonNull] at hafter
  split_ifs at hafter
  · obtain rfl := Option.some.inj hafter
    exact absurd hfollows (by simp [followsHost])
  · have htop : app.InTopApp pid := ⟨record, hafter, hfollows, hgroup⟩
    exact hsame.focused htop (h.top pid id htop)

theorem reloadApplication_settled (runningProcess : List RunningProcessInfo)
    {supervisor : Supervisor} (h : ∀ uid, Settled (fun _ => False) (supervisor.app uid)) :
    ∀ uid, Settled (fun _ => False) ((supervisor.ReloadApplication runningProcess).app uid) := by
  induction runningProcess generalizing supervisor with
  | nil => exact h
  | cons process runningProcess ih =>
      refine ih fun uid => ?_
      exact (supervisorKept_withRecordNonNull supervisor process.uid process.pid id
        RecordKept.refl uid).settled (h uid)

theorem reloadChildProcess_settled (childProcess : List ChildProcessInfo)
    {supervisor : Supervisor} (h : ∀ uid, Settled (fun _ => False) (supervisor.app uid)) :
    ∀ uid, Settled (fun _ => False) ((supervisor.ReloadChildProcess childProcess).app uid) := by
  induction childProcess generalizing supervisor with
  | nil => exact h
  | cons process childProcess ih =>
      refine ih fun uid => ?_
      rw [app_withAppNonNull]
      split_ifs
      · exact reloadChild_settled process (h process.hostUid)
      · exact h uid

/-! ## Runs -/

theorem notice_settled (env : External) (hmoved : AllMoved env) (supervisor : Supervisor)
    (notice : Notice) (h : ∀ uid, Settled (fun _ => False) (supervisor.app uid)) :
    ∀ uid, Settled (fun _ => False) ((supervisor.notice env notice).app uid) := by
  cases notice with
  | cgroupEvent event => exact handle_settled env hmoved supervisor event h
  | ReportAbilityStatus value payload runningProcess childProcess =>
      simp only [Supervisor.notice, ReportAbilityStatus]
      split_ifs
      · exact reloadChildProcess_settled childProcess (reloadApplication_settled runningProcess h)
      · exact h

/-- When every process can be moved, each process in top-app that follows no host is the focused
one of its application after every event. -/
theorem one_top_app (env : External) (hmoved : AllMoved env) (notices : List Notice) :
    Always (Supervisor.notice env) (fun supervisor => ∀ uid, OneTopApp (supervisor.app uid))
      Supervisor.start notices := by
  refine (always_of_step (Supervisor.notice env)
    (P := fun supervisor => ∀ uid, Settled (fun _ => False) (supervisor.app uid))
    (fun supervisor notice h => notice_settled env hmoved supervisor notice h) notices
    Supervisor.start fun _ => settled_new _).mono _ ?_
  exact fun supervisor h uid => (h uid).oneTopApp

instance (app : Application) (pid : Int) : Decidable (app.InTopApp pid) :=
  inferInstanceAs (Decidable (∃ record ∈ app.pidsMap.lookup pid,
    followsHost record = false ∧ record.curSchedGroup = .SP_TOP_APP))

/-- The focus moves from one process to another, and top-app with it. -/
def focusMoved : List Notice :=
  [.cgroupEvent (focusEvent WINDOW_FOCUS "2000" "3000" "1"),
    .cgroupEvent (focusEvent WINDOW_FOCUS "2000" "3001" "2")]

theorem focusMoved_one_top_app :
    Always (Supervisor.notice framework)
        (fun supervisor => ∀ uid, OneTopApp (supervisor.app uid)) Supervisor.start focusMoved ∧
      ((run (Supervisor.notice framework) Supervisor.start focusMoved).app 2000).InTopApp 3001 :=
  ⟨one_top_app framework (fun _ _ => rfl) focusMoved, by decide +kernel⟩

end ResSched.Cgroup
