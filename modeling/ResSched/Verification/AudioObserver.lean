import ResSched.Library.Ledger
import ResSched.Library.Pairing
import ResSched.Library.Transition
import ResSched.Model.AudioObserver

/-! # Audio reports come in pairs

For each process the reports about playing and about recording alternate, and tell whether one of
its sessions plays or records.
-/

namespace ResSched.Audio

open Transition Ledger Pairing

/-! ## The specification -/

/-- The session of the process is listed as running. -/
def AudioRendererChangeInfo.Runs (info : AudioRendererChangeInfo) (pid session : Int) : Prop :=
  info.clientPid = pid ∧ info.sessionId = session ∧ info.rendererState = .RENDERER_RUNNING

/-- The session of the process is listed as stopped, released or paused. -/
def AudioRendererChangeInfo.Ends (info : AudioRendererChangeInfo) (pid session : Int) : Prop :=
  info.clientPid = pid ∧ info.sessionId = session ∧
    (info.rendererState = .RENDERER_STOPPED ∨ info.rendererState = .RENDERER_RELEASED ∨
      info.rendererState = .RENDERER_PAUSED)

/-- The session has been listed as running after its last end. -/
def Plays (listings : List AudioRendererChangeInfo) (pid session : Int) : Prop :=
  Outstanding (fun info => info.Runs pid session) (fun info => info.Ends pid session) listings

def Event.renderers : Event → List AudioRendererChangeInfo
  | .OnRendererStateChange infos => infos
  | _ => []

def Event.BeginsCapture (event : Event) (pid session : Int) : Prop :=
  ∃ info, event = .handleCapturer (some info) ∧ info.clientPid = pid ∧ info.sessionId = session ∧
    info.capturerState = .CAPTURER_RUNNING

def Event.EndsCapture (event : Event) (pid session : Int) : Prop :=
  event = .ProcessCapturerEndCaseByUnregister ∨
    ∃ info, event = .handleCapturer (some info) ∧ info.clientPid = pid ∧
      info.sessionId = session ∧
      (info.capturerState = .CAPTURER_STOPPED ∨ info.capturerState = .CAPTURER_RELEASED)

/-- The session has been listed as running after its last end and after the last unregister. -/
def Records (events : List Event) (pid session : Int) : Prop :=
  Outstanding (fun event => event.BeginsCapture pid session)
    (fun event => event.EndsCapture pid session) events

def Report.innerMark (pid : Int) : Report → Option Bool
  | .RES_TYPE_INNER_AUDIO_STATE value payload =>
      if payload.pid = pid then some (value = .AUDIO_STATE_RUNNING) else none
  | _ => none

def Report.captureMark (pid : Int) : Report → Option Bool
  | .RES_TYPE_AUDIO_CAPTURE_STATUS_CHANGED value payload =>
      if payload.pid = pid then some (value = .AUDIO_CAPTURE_BEGIN) else none
  | _ => none

/-- The reports about a process that plays, `true` for the running ones. -/
def AudioObserver.innerMarks (observer : AudioObserver) (pid : Int) : List Bool :=
  observer.reports.filterMap (Report.innerMark pid)

/-- The reports about a process that records, `true` for the begins. -/
def AudioObserver.captureMarks (observer : AudioObserver) (pid : Int) : List Bool :=
  observer.reports.filterMap (Report.captureMark pid)

/-- The reports of each process alternate and the last one tells whether a session of it is active;
the two maps of the capturers have the same keys and no empty set. -/
structure AudioObserver.Paired (observer : AudioObserver) (events : List Event) : Prop where
  playing : ∀ pid, 0 < pid → pid ≤ INT32_MAX → Alternates (observer.innerMarks pid) ∧
    (isOpen (observer.innerMarks pid) = true ↔
      ∃ session, Plays (events.flatMap Event.renderers) pid session)
  capturing : ∀ pid, 0 < pid → Alternates (observer.captureMarks pid) ∧
    (isOpen (observer.captureMarks pid) = true ↔ ∃ session, Records events pid session)
  sameKeys : ∀ pid, (observer.capturerStateMap_.lookup pid).isSome =
    (observer.capturerInfoPidToUidMap_.lookup pid).isSome
  nonempty : ∀ pid sessions, observer.capturerStateMap_.lookup pid = some sessions → sessions ≠ ∅

/-- Each snapshot lists a session at most once. -/
def OncePerSnapshot (events : List Event) : Prop :=
  ∀ event ∈ events, (event.renderers.map AudioRendererChangeInfo.sessionId).Nodup

/-! ## Marks -/

section

variable (observer : AudioObserver) (report : Report) (pid : Int)

theorem innerMarks_ReportData : (observer.ReportData report).innerMarks pid =
    observer.innerMarks pid ++ (report.innerMark pid).toList := by
  rw [AudioObserver.innerMarks, AudioObserver.ReportData, List.filterMap_append, List.filterMap_cons]
  cases report.innerMark pid <;> rfl

theorem captureMarks_ReportData : (observer.ReportData report).captureMarks pid =
    observer.captureMarks pid ++ (report.captureMark pid).toList := by
  rw [AudioObserver.captureMarks, AudioObserver.ReportData, List.filterMap_append, List.filterMap_cons]
  cases report.captureMark pid <;> rfl

end

/-! ## The sessions of a process -/

/-- Whether the process has an entry. -/
def AudioObserver.has (observer : AudioObserver) (pid : Int) : Bool :=
  (observer.processRenderStateMap_.lookup pid).isSome

/-- The running sessions of the process. -/
def AudioObserver.sessions (observer : AudioObserver) (pid : Int) : Finset Int :=
  (observer.processRenderStateMap_.lookup pid).elim ∅ ProcessRenderState.renderRunningSessionSet

theorem has_setProcess (snapshot : Snapshot) (other pid : Int) (process : ProcessRenderState) :
    (snapshot.setProcess other process).observer.has pid =
      if pid = other then true else snapshot.observer.has pid := by
  rw [AudioObserver.has, Snapshot.setProcess, AssocMap.lookup_insert_ite]
  split_ifs <;> rfl

theorem sessions_setProcess (snapshot : Snapshot) (other pid : Int)
    (process : ProcessRenderState) :
    (snapshot.setProcess other process).observer.sessions pid =
      if pid = other then process.renderRunningSessionSet else snapshot.observer.sessions pid := by
  rw [AudioObserver.sessions, Snapshot.setProcess, AssocMap.lookup_insert_ite]
  split_ifs <;> rfl

/-! ## One stream of a snapshot -/

/-- What a stream does to a process. -/
structure Snapshot.Handled (pid : Int) (runs ends : Int → Prop) (before after : Snapshot) :
    Prop where
  sessions : ∀ session, session ∈ after.observer.sessions pid ↔
    runs session ∨ session ∈ before.observer.sessions pid ∧ ¬ ends session
  has : after.observer.has pid = true ↔ before.observer.has pid = true ∨ ∃ session, runs session
  new : pid ∈ after.newRunningPid ↔
    pid ∈ before.newRunningPid ∨ ¬ before.observer.has pid = true ∧ ∃ session, runs session
  stopped : pid ∈ after.newStopSessionPid ↔
    pid ∈ before.newStopSessionPid ∨ ∃ session, ends session
  marks : after.observer.innerMarks pid = before.observer.innerMarks pid

/-- A stream of another process, or one that neither runs nor ends, does nothing. -/
theorem handled_refl {pid : Int} {runs ends : Int → Prop} (snapshot : Snapshot)
    (hruns : ∀ session, ¬ runs session) (hends : ∀ session, ¬ ends session) :
    Snapshot.Handled pid runs ends snapshot snapshot := by
  constructor <;> simp [hruns, hends]

section

variable (snapshot : Snapshot) (info : AudioRendererChangeInfo) (pid : Int)

theorem handled_running :
    Snapshot.Handled pid (fun session => info.clientPid = pid ∧ info.sessionId = session)
      (fun _ => False) snapshot (snapshot.ProcessRunningSessionState info) := by
  rw [Snapshot.ProcessRunningSessionState]
  dsimp only
  cases hlookup : snapshot.observer.processRenderStateMap_.lookup info.clientPid with
  | some process =>
      have hhas : snapshot.observer.has info.clientPid = true := by
        rw [AudioObserver.has, hlookup]
        rfl
      have hsessions : snapshot.observer.sessions info.clientPid =
          process.renderRunningSessionSet := by
        rw [AudioObserver.sessions, hlookup]
        rfl
      constructor
      · intro session
        rw [sessions_setProcess]
        split_ifs with hpid
        · subst hpid
          simp [hsessions, eq_comm]
        · simp [Ne.symm hpid]
      · rw [has_setProcess]
        split_ifs with hpid
        · subst hpid
          simp [hhas]
        · simp [Ne.symm hpid]
      · by_cases hpid : info.clientPid = pid
        · subst hpid
          simp [hhas, Snapshot.setProcess]
        · simp [hpid, Snapshot.setProcess]
      · simp [Snapshot.setProcess]
      · rfl
  | none =>
      have hhas : snapshot.observer.has info.clientPid = false := by
        rw [AudioObserver.has, hlookup]
        rfl
      have hsessions : snapshot.observer.sessions info.clientPid = ∅ := by
        rw [AudioObserver.sessions, hlookup]
        rfl
      constructor
      · intro session
        dsimp only
        rw [sessions_setProcess]
        split_ifs with hpid
        · subst hpid
          simp [hsessions, eq_comm]
        · simp [Ne.symm hpid]
      · dsimp only
        rw [has_setProcess]
        split_ifs with hpid
        · subst hpid
          simp
        · simp [Ne.symm hpid]
      · dsimp only
        rw [List.mem_insert_iff]
        by_cases hpid : info.clientPid = pid
        · subst hpid
          simp [hhas]
        · simp [hpid, Ne.symm hpid]
      · simp [Snapshot.setProcess]
      · rfl

theorem handled_stopped (hvalid : IsValidPid pid = true) :
    Snapshot.Handled pid (fun _ => False)
      (fun session => info.clientPid = pid ∧ info.sessionId = session) snapshot
      (snapshot.ProcessStopSessionState info) := by
  rw [Snapshot.ProcessStopSessionState]
  dsimp only
  by_cases hpid : info.clientPid = pid
  · subst hpid
    rw [hvalid, if_neg (by simp)]
    cases hlookup : snapshot.observer.processRenderStateMap_.lookup info.clientPid with
    | none =>
        have hsessions : snapshot.observer.sessions info.clientPid = ∅ := by
          rw [AudioObserver.sessions, hlookup]
          rfl
        constructor
        · intro session
          change session ∈ snapshot.observer.sessions info.clientPid ↔ _
          simp [hsessions]
        · simp [AudioObserver.has]
        · simp
        · simp
        · rfl
    | some process =>
        have hhas : snapshot.observer.has info.clientPid = true := by
          rw [AudioObserver.has, hlookup]
          rfl
        have hsessions : snapshot.observer.sessions info.clientPid =
            process.renderRunningSessionSet := by
          rw [AudioObserver.sessions, hlookup]
          rfl
        constructor
        · intro session
          rw [sessions_setProcess, if_pos rfl]
          simp [hsessions, and_comm, eq_comm]
        · rw [has_setProcess, if_pos rfl]
          simp [hhas]
        · simp [Snapshot.setProcess]
        · simp [Snapshot.setProcess]
        · rfl
  · split_ifs
    · exact handled_refl snapshot (fun _ => not_false) fun _ h => hpid h.1
    · cases hlookup : snapshot.observer.processRenderStateMap_.lookup info.clientPid with
      | none =>
          constructor
          · intro session
            change session ∈ snapshot.observer.sessions pid ↔ _
            simp [hpid]
          · simp [AudioObserver.has]
          · simp
          · simp [hpid, Ne.symm hpid]
          · rfl
      | some process =>
          constructor
          · intro session
            rw [sessions_setProcess, if_neg (Ne.symm hpid)]
            change session ∈ snapshot.observer.sessions pid ↔ _
            simp [hpid]
          · rw [has_setProcess, if_neg (Ne.symm hpid)]
            simp [AudioObserver.has]
          · simp [Snapshot.setProcess]
          · simp [hpid, Ne.symm hpid, Snapshot.setProcess]
          · rfl

end

/-- The snapshot after reports that are about no process. -/
def Snapshot.addReports (snapshot : Snapshot) (reports : List Report) : Snapshot :=
  { snapshot with observer := { snapshot.observer with
      reports := snapshot.observer.reports ++ reports } }

/-- What the body of the loop does: a report about the stream, and what its state says. -/
theorem handleInfo_cases (snapshot : Snapshot) (info : AudioRendererChangeInfo) :
    ∃ reports, (∀ pid, reports.filterMap (Report.innerMark pid) = []) ∧
      (∀ pid, reports.filterMap (Report.captureMark pid) = []) ∧
      (info.rendererState = .RENDERER_RUNNING ∧
          snapshot.handleInfo info =
            (snapshot.addReports reports).ProcessRunningSessionState info ∨
        (info.rendererState = .RENDERER_STOPPED ∨ info.rendererState = .RENDERER_RELEASED ∨
            info.rendererState = .RENDERER_PAUSED) ∧
          snapshot.handleInfo info = (snapshot.addReports reports).ProcessStopSessionState info ∨
        (∃ value, info.rendererState = .other value) ∧
          snapshot.handleInfo info = snapshot.addReports reports) := by
  refine ⟨if snapshot.observer.IsRenderStateChange info = true then
    [.RES_TYPE_AUDIO_RENDER_STATE_CHANGE info.rendererState info] else [], ?_, ?_, ?_⟩
  · intro pid
    split_ifs <;> rfl
  · intro pid
    split_ifs <;> rfl
  · have hreported : (if snapshot.observer.IsRenderStateChange info = true then
          { snapshot with
            observer := snapshot.observer.ReportData
              (.RES_TYPE_AUDIO_RENDER_STATE_CHANGE info.rendererState info) }
        else snapshot) =
        snapshot.addReports (if snapshot.observer.IsRenderStateChange info = true then
          [.RES_TYPE_AUDIO_RENDER_STATE_CHANGE info.rendererState info] else []) := by
      split_ifs
      · rfl
      · rw [Snapshot.addReports, List.append_nil]
    rw [Snapshot.handleInfo, hreported, Snapshot.HandleInnerAudioStateChange]
    cases hstate : info.rendererState with
    | RENDERER_RUNNING => exact Or.inl ⟨rfl, rfl⟩
    | RENDERER_STOPPED => exact Or.inr (Or.inl ⟨Or.inl rfl, rfl⟩)
    | RENDERER_RELEASED => exact Or.inr (Or.inl ⟨Or.inr (Or.inl rfl), rfl⟩)
    | RENDERER_PAUSED => exact Or.inr (Or.inl ⟨Or.inr (Or.inr rfl), rfl⟩)
    | other value => exact Or.inr (Or.inr ⟨⟨value, rfl⟩, rfl⟩)

/-- A stream of the snapshot does to a process what its state says. -/
theorem handled_handleInfo (snapshot : Snapshot) (info : AudioRendererChangeInfo) {pid : Int}
    (hvalid : IsValidPid pid = true) :
    Snapshot.Handled pid (info.Runs pid) (info.Ends pid) snapshot (snapshot.handleInfo info) := by
  obtain ⟨reports, hinner, -, hcases⟩ := handleInfo_cases snapshot info
  have hreported : ∀ {runs ends after}, Snapshot.Handled pid runs ends
      (snapshot.addReports reports) after → Snapshot.Handled pid runs ends snapshot after := by
    intro runs ends after h
    refine ⟨h.sessions, h.has, h.new, h.stopped, h.marks.trans ?_⟩
    rw [AudioObserver.innerMarks, Snapshot.addReports, List.filterMap_append, hinner,
      List.append_nil]
    rfl
  obtain ⟨hstate, hafter⟩ | ⟨hstate, hafter⟩ | ⟨⟨value, hstate⟩, hafter⟩ := hcases
  · have hruns : info.Runs pid = fun session => info.clientPid = pid ∧ info.sessionId = session := by
      funext session
      simp [AudioRendererChangeInfo.Runs, hstate]
    have hends : info.Ends pid = fun _ => False := by
      funext session
      simp [AudioRendererChangeInfo.Ends, hstate]
    rw [hafter, hruns, hends]
    exact hreported (handled_running _ info pid)
  · have hruns : info.Runs pid = fun _ => False := by
      funext session
      obtain h | h | h := hstate <;> simp [AudioRendererChangeInfo.Runs, h]
    have hends : info.Ends pid = fun session => info.clientPid = pid ∧ info.sessionId = session := by
      funext session
      simp [AudioRendererChangeInfo.Ends, hstate]
    rw [hafter, hruns, hends]
    exact hreported (handled_stopped _ info pid hvalid)
  · rw [hafter]
    refine hreported (handled_refl _ (fun session h => ?_) fun session h => ?_)
    · simp [AudioRendererChangeInfo.Runs, hstate] at h
    · simp [AudioRendererChangeInfo.Ends, hstate] at h

/-! ## All streams of a snapshot -/

/-- What the loop has done to a process after some of the streams. -/
structure Snapshot.Looped (pid : Int) (before : AudioObserver)
    (listings infos : List AudioRendererChangeInfo) (snapshot : Snapshot) : Prop where
  sessions : ∀ session, session ∈ snapshot.observer.sessions pid ↔
    Plays (listings ++ infos) pid session
  has : snapshot.observer.has pid = true ↔
    before.has pid = true ∨ ∃ info ∈ infos, ∃ session, info.Runs pid session
  new : pid ∈ snapshot.newRunningPid ↔
    ¬ before.has pid = true ∧ ∃ info ∈ infos, ∃ session, info.Runs pid session
  stopped : pid ∈ snapshot.newStopSessionPid ↔ ∃ info ∈ infos, ∃ session, info.Ends pid session
  marks : snapshot.observer.innerMarks pid = before.innerMarks pid

theorem looped_foldl {pid : Int} (hvalid : IsValidPid pid = true) {before : AudioObserver}
    {listings : List AudioRendererChangeInfo}
    (hsessions : ∀ session, session ∈ before.sessions pid ↔ Plays listings pid session)
    (infos : List AudioRendererChangeInfo) :
    Snapshot.Looped pid before listings infos (infos.foldl Snapshot.handleInfo ⟨before, [], []⟩) := by
  induction infos using List.reverseRecOn with
  | nil =>
      constructor
      · intro session
        rw [List.append_nil]
        exact hsessions session
      · simp
      · simp
      · simp
      · rfl
  | append_singleton infos info ih =>
      rw [List.foldl_append]
      have hstep := handled_handleInfo (infos.foldl Snapshot.handleInfo ⟨before, [], []⟩) info hvalid
      constructor
      · intro session
        rw [← List.append_assoc, Plays, outstanding_concat_iff]
        exact (hstep.sessions session).trans (by rw [ih.sessions session]; rfl)
      · refine hstep.has.trans ?_
        rw [ih.has, or_assoc]
        simp [or_and_right, exists_or]
      · refine hstep.new.trans ?_
        rw [ih.new, ih.has]
        simp only [List.mem_append, List.mem_singleton, or_and_right, exists_or, exists_eq_left]
        by_cases hran : ∃ info ∈ infos, ∃ session, info.Runs pid session
        · simp only [hran, true_or, or_true, not_true, and_true, false_and, or_false]
        · simp only [hran, false_or, or_false, and_false]
      · refine hstep.stopped.trans ?_
        rw [ih.stopped]
        simp [or_and_right, exists_or]
      · exact hstep.marks.trans ih.marks

/-! ## Starting and stopping -/

/-- Every entry holds its own pid. -/
def OwnPids (observer : AudioObserver) : Prop :=
  ∀ pid process, observer.processRenderStateMap_.lookup pid = some process → process.pid = pid

theorem ownPids_setProcess {snapshot : Snapshot} (h : OwnPids snapshot.observer) {other : Int}
    {process : ProcessRenderState} (hprocess : process.pid = other) :
    OwnPids (snapshot.setProcess other process).observer := by
  intro pid found hlookup
  rw [Snapshot.setProcess, AssocMap.lookup_insert_ite] at hlookup
  split_ifs at hlookup with hpid
  · rw [← Option.some.inj hlookup, hprocess, hpid]
  · exact h pid found hlookup

theorem ownPids_handleInfo {snapshot : Snapshot} (h : OwnPids snapshot.observer)
    (info : AudioRendererChangeInfo) : OwnPids (snapshot.handleInfo info).observer := by
  obtain ⟨reports, -, -, ⟨-, hafter⟩ | ⟨-, hafter⟩ | ⟨-, hafter⟩⟩ := handleInfo_cases snapshot info
  · rw [hafter, Snapshot.ProcessRunningSessionState]
    dsimp only
    split
    · next process hlookup => exact ownPids_setProcess h (h _ process hlookup)
    · exact @ownPids_setProcess (snapshot.addReports reports) h _ _ rfl
  · rw [hafter, Snapshot.ProcessStopSessionState]
    dsimp only
    split_ifs
    · exact h
    · split
      · exact h
      · next process hlookup => exact ownPids_setProcess h (h _ process hlookup)
  · rw [hafter]
    exact h

theorem ownPids_foldl {observer : AudioObserver} (h : OwnPids observer)
    (infos : List AudioRendererChangeInfo) :
    OwnPids (infos.foldl Snapshot.handleInfo ⟨observer, [], []⟩).observer := by
  induction infos using List.reverseRecOn with
  | nil => exact h
  | append_singleton infos info ih =>
      rw [List.foldl_append]
      exact ownPids_handleInfo ih info

theorem startPid_map (observer : AudioObserver) (pid : Int) :
    (observer.startPid pid).processRenderStateMap_ = observer.processRenderStateMap_ := by
  rw [AudioObserver.startPid]
  split
  · rfl
  · split_ifs <;> rfl

theorem HandleStart_map (observer : AudioObserver) (pids : List Int) :
    (observer.HandleStartAudioStateEvent pids).processRenderStateMap_ =
      observer.processRenderStateMap_ := by
  rw [AudioObserver.HandleStartAudioStateEvent]
  induction pids generalizing observer with
  | nil => rfl
  | cons pid pids ih => rw [List.foldl_cons, ih, startPid_map]

/-- The report of a pid about itself, and none about another. -/
theorem startPid_marks {observer : AudioObserver} (h : OwnPids observer) (other pid : Int) :
    (observer.startPid other).innerMarks pid = observer.innerMarks pid ++
      if other = pid ∧ observer.sessions pid ≠ ∅ then [true] else [] := by
  rw [AudioObserver.startPid]
  cases hlookup : observer.processRenderStateMap_.lookup other with
  | none =>
      rw [if_neg]
      · exact (List.append_nil _).symm
      · rintro ⟨rfl, hsessions⟩
        rw [AudioObserver.sessions, hlookup] at hsessions
        exact hsessions rfl
  | some process =>
      have hown := h other process hlookup
      by_cases hother : other = pid
      · subst hother
        have hsessions : observer.sessions other = process.renderRunningSessionSet := by
          rw [AudioObserver.sessions, hlookup]
          rfl
        dsimp only
        rw [hsessions]
        split_ifs with hempty hset hset
        · exact absurd hempty hset.2
        · exact (List.append_nil _).symm
        · rw [innerMarks_ReportData, Report.innerMark,
            AudioObserver.MarshallingInnerAudioRendererChangeInfo, hown, if_pos rfl]
          rfl
        · exact absurd ⟨rfl, hempty⟩ hset
      · rw [if_neg fun hboth => hother hboth.1, List.append_nil]
        dsimp only
        split_ifs
        · rfl
        · rw [innerMarks_ReportData, Report.innerMark,
            AudioObserver.MarshallingInnerAudioRendererChangeInfo, hown, if_neg hother]
          exact List.append_nil _

theorem HandleStart_marks {observer : AudioObserver} (h : OwnPids observer) {pids : List Int}
    (hnodup : pids.Nodup) (pid : Int) :
    (observer.HandleStartAudioStateEvent pids).innerMarks pid = observer.innerMarks pid ++
      if pid ∈ pids ∧ observer.sessions pid ≠ ∅ then [true] else [] := by
  rw [AudioObserver.HandleStartAudioStateEvent]
  induction pids generalizing observer with
  | nil => simp
  | cons other pids ih =>
      have hmap := startPid_map observer other
      have hown : OwnPids (observer.startPid other) := by
        rw [OwnPids, hmap]
        exact h
      have hsessions : (observer.startPid other).sessions pid = observer.sessions pid := by
        rw [AudioObserver.sessions, hmap]
        rfl
      rw [List.nodup_cons] at hnodup
      rw [List.foldl_cons, ih hown hnodup.2, startPid_marks h, hsessions, List.append_assoc]
      by_cases hother : other = pid
      · subst hother
        simp [hnodup.1]
      · simp [hother, Ne.symm hother]

/-- What the loop over the stopped pids does to a process: it ends when its pid is met and no
session of it runs. -/
structure Stopped (pid : Int) (met : Prop) [Decidable met] (before after : AudioObserver) :
    Prop where
  ownPids : OwnPids after
  sessions : after.sessions pid = before.sessions pid
  has : after.has pid = (before.has pid && !decide (met ∧ before.sessions pid = ∅))
  marks : after.innerMarks pid = before.innerMarks pid ++
    if met ∧ before.has pid = true ∧ before.sessions pid = ∅ then [false] else []

theorem stopped_stopPid {observer : AudioObserver} (h : OwnPids observer) (other pid : Int) :
    Stopped pid (other = pid) observer (observer.stopPid other) := by
  rw [AudioObserver.stopPid]
  cases hlookup : observer.processRenderStateMap_.lookup other with
  | none =>
      refine ⟨h, rfl, ?_, ?_⟩
      · by_cases hother : other = pid
        · subst hother
          simp [AudioObserver.has, hlookup]
        · simp [hother]
      · rw [if_neg]
        · exact (List.append_nil _).symm
        · rintro ⟨rfl, hhas, -⟩
          rw [AudioObserver.has, hlookup] at hhas
          cases hhas
  | some process =>
      have hown := h other process hlookup
      have hhas : observer.has other = true := by
        rw [AudioObserver.has, hlookup]
        rfl
      have hsessions : observer.sessions other = process.renderRunningSessionSet := by
        rw [AudioObserver.sessions, hlookup]
        rfl
      dsimp only
      split_ifs with hempty
      · refine ⟨h, rfl, ?_, ?_⟩
        · by_cases hother : other = pid
          · subst hother
            simp [hsessions, hempty]
          · simp [hother]
        · rw [if_neg, List.append_nil]
          rintro ⟨rfl, -, hnone⟩
          exact hempty (hsessions ▸ hnone)
      · rw [ne_eq, not_not] at hempty
        have hother' : ∀ pid, (observer.processRenderStateMap_.erase other).lookup pid =
            if pid = other then none else observer.processRenderStateMap_.lookup pid :=
          fun pid => AssocMap.lookup_erase_ite _ other pid
        constructor
        · intro pid found hfound
          change (observer.processRenderStateMap_.erase other).lookup pid = some found at hfound
          rw [hother'] at hfound
          split_ifs at hfound
          exact h pid found hfound
        · change ((observer.processRenderStateMap_.erase other).lookup pid).elim ∅ _ = _
          rw [hother']
          split_ifs with hpid
          · rw [hpid, hsessions, hempty]
            rfl
          · rfl
        · change ((observer.processRenderStateMap_.erase other).lookup pid).isSome = _
          rw [hother']
          split_ifs with hpid
          · simp [hpid, hsessions, hempty]
          · simp [Ne.symm hpid, AudioObserver.has]
        · rw [innerMarks_ReportData, Report.innerMark,
            AudioObserver.MarshallingInnerAudioRendererChangeInfo, hown]
          by_cases hpid : other = pid
          · subst hpid
            rw [if_pos rfl, if_pos ⟨rfl, hhas, hsessions.trans hempty⟩]
            rfl
          · rw [if_neg hpid, if_neg fun hall => hpid hall.1]
            rfl

theorem stopped_HandleStop {observer : AudioObserver} (h : OwnPids observer) {pids : List Int}
    (hnodup : pids.Nodup) (pid : Int) :
    Stopped pid (pid ∈ pids) observer (observer.HandleStopAudioStateEvent pids) := by
  rw [AudioObserver.HandleStopAudioStateEvent]
  induction pids generalizing observer with
  | nil => exact ⟨h, rfl, by simp, by simp⟩
  | cons other pids ih =>
      rw [List.nodup_cons] at hnodup
      have hstep := stopped_stopPid h other pid
      have hrest := ih hstep.ownPids hnodup.2
      rw [List.foldl_cons]
      by_cases hother : other = pid
      · subst hother
        refine ⟨hrest.ownPids, hrest.sessions.trans hstep.sessions, ?_, ?_⟩
        · rw [hrest.has, hstep.has]
          simp [hnodup.1]
        · rw [hrest.marks, hstep.marks]
          simp [hnodup.1]
      · have hmem : (pid ∈ other :: pids) = (pid ∈ pids) := by
          simp [Ne.symm hother]
        refine ⟨hrest.ownPids, hrest.sessions.trans hstep.sessions, ?_, ?_⟩
        · rw [hrest.has, hstep.has, hstep.sessions]
          simp [hother, Ne.symm hother]
        · rw [hrest.marks, hstep.marks, hstep.has, hstep.sessions]
          simp [hother, Ne.symm hother]

/-! ## One call -/

/-- The entries and the reports of the players stand as the listings say. -/
structure AudioObserver.Playing (observer : AudioObserver)
    (listings : List AudioRendererChangeInfo) : Prop where
  ownPids : OwnPids observer
  sessions : ∀ pid, IsValidPid pid = true → ∀ session,
    session ∈ observer.sessions pid ↔ Plays listings pid session
  has : ∀ pid, IsValidPid pid = true → (observer.has pid = true ↔ observer.sessions pid ≠ ∅)
  marks : ∀ pid, IsValidPid pid = true → Alternates (observer.innerMarks pid) ∧
    isOpen (observer.innerMarks pid) = observer.has pid

/-- A session that a snapshot lists once, as running, plays afterwards. -/
theorem plays_of_runs {listings infos : List AudioRendererChangeInfo}
    (hnodup : (infos.map AudioRendererChangeInfo.sessionId).Nodup) {info : AudioRendererChangeInfo}
    (hmem : info ∈ infos) {pid session : Int} (hruns : info.Runs pid session) :
    Plays (listings ++ infos) pid session := by
  rw [Plays, outstanding_append_iff]
  obtain ⟨before, after, rfl⟩ := List.append_of_mem hmem
  refine Or.inl ⟨before, info, after, rfl, hruns, fun later hlater hends => ?_⟩
  rw [List.map_append, List.map_cons] at hnodup
  have hafter := (List.nodup_cons.mp (List.nodup_append.mp hnodup).2.1).1
  refine hafter ?_
  rw [hruns.2.1, ← hends.2.1]
  exact List.mem_map_of_mem hlater

theorem nodup_handleInfo (snapshot : Snapshot) (info : AudioRendererChangeInfo)
    (h : snapshot.newRunningPid.Nodup ∧ snapshot.newStopSessionPid.Nodup) :
    (snapshot.handleInfo info).newRunningPid.Nodup ∧
      (snapshot.handleInfo info).newStopSessionPid.Nodup := by
  obtain ⟨reports, -, -, ⟨-, hafter⟩ | ⟨-, hafter⟩ | ⟨-, hafter⟩⟩ := handleInfo_cases snapshot info
  · rw [hafter, Snapshot.ProcessRunningSessionState]
    dsimp only
    split
    · exact h
    · exact ⟨h.1.insert, h.2⟩
  · rw [hafter, Snapshot.ProcessStopSessionState]
    dsimp only
    split_ifs
    · exact h
    · split
      · exact ⟨h.1, h.2.insert⟩
      · exact ⟨h.1, h.2.insert⟩
  · rw [hafter]
    exact h

theorem nodup_foldl (observer : AudioObserver) (infos : List AudioRendererChangeInfo) :
    (infos.foldl Snapshot.handleInfo ⟨observer, [], []⟩).newRunningPid.Nodup ∧
      (infos.foldl Snapshot.handleInfo ⟨observer, [], []⟩).newStopSessionPid.Nodup := by
  induction infos using List.reverseRecOn with
  | nil => exact ⟨List.nodup_nil, List.nodup_nil⟩
  | append_singleton infos info ih =>
      rw [List.foldl_append]
      exact nodup_handleInfo _ info ih

/-- What a call does to a process, by the loop over the streams and the two loops behind it. -/
structure Called (pid : Int) (before : AudioObserver) (snapshot : Snapshot)
    (after : AudioObserver) : Prop where
  sessions : after.sessions pid = snapshot.observer.sessions pid
  has : after.has pid = (snapshot.observer.has pid &&
    !decide (pid ∈ snapshot.newStopSessionPid ∧ snapshot.observer.sessions pid = ∅))
  marks : after.innerMarks pid = snapshot.observer.innerMarks pid ++
    (if pid ∈ snapshot.newRunningPid ∧ snapshot.observer.sessions pid ≠ ∅ then [true] else []) ++
    if pid ∈ snapshot.newStopSessionPid ∧ snapshot.observer.has pid = true ∧
      snapshot.observer.sessions pid = ∅ then [false] else []

theorem called_OnRendererStateChange (iteration : Iteration) {observer : AudioObserver}
    (h : OwnPids observer) (infos : List AudioRendererChangeInfo) :
    OwnPids (observer.OnRendererStateChange iteration infos) ∧
      ∀ pid, Called pid observer (infos.foldl Snapshot.handleInfo ⟨observer, [], []⟩)
        (observer.OnRendererStateChange iteration infos) := by
  have hown := ownPids_foldl h infos
  have hnodup := nodup_foldl observer infos
  rw [AudioObserver.OnRendererStateChange]
  dsimp only
  revert hown hnodup
  generalize infos.foldl Snapshot.handleInfo ⟨observer, [], []⟩ = snapshot
  intro hown hnodup
  have hnew := iteration.perm snapshot.newRunningPid
  have hstop := iteration.perm snapshot.newStopSessionPid
  -- The states that are stored for the next call are not read by the two loops.
  generalize hstored : ({ snapshot.observer with
    renderState_ := infos.foldl
      (fun states (info : AudioRendererChangeInfo) =>
        states.insert info.sessionId info.rendererState) ∅ } : AudioObserver) = stored
  have hownStored : OwnPids stored := by
    rw [← hstored]
    exact hown
  have hmap := HandleStart_map stored (iteration.order snapshot.newRunningPid)
  have hmarks := HandleStart_marks hownStored (hnew.nodup_iff.mpr hnodup.1)
  have hownStarted : OwnPids (stored.HandleStartAudioStateEvent
      (iteration.order snapshot.newRunningPid)) := by
    rw [OwnPids, hmap]
    exact hownStored
  have hstopped := stopped_HandleStop hownStarted (hstop.nodup_iff.mpr hnodup.2)
  refine ⟨(hstopped 0).ownPids, fun pid => ?_⟩
  have hsessions : (stored.HandleStartAudioStateEvent
      (iteration.order snapshot.newRunningPid)).sessions pid = snapshot.observer.sessions pid := by
    rw [AudioObserver.sessions, hmap, ← hstored]
    rfl
  have hhas : (stored.HandleStartAudioStateEvent
      (iteration.order snapshot.newRunningPid)).has pid = snapshot.observer.has pid := by
    rw [AudioObserver.has, hmap, ← hstored]
    rfl
  refine ⟨(hstopped pid).sessions.trans hsessions, ?_, ?_⟩
  · rw [(hstopped pid).has, hhas, hsessions]
    simp only [hstop.mem_iff]
  · rw [(hstopped pid).marks, hmarks, hhas, hsessions]
    simp only [hnew.mem_iff, hstop.mem_iff]
    rw [← hstored]
    rfl

theorem sessions_eq_empty {observer : AudioObserver} {pid : Int}
    (h : ¬ observer.has pid = true) : observer.sessions pid = ∅ := by
  rw [AudioObserver.has, Option.not_isSome_iff_eq_none] at h
  rw [AudioObserver.sessions, h]
  rfl

theorem playing_call (iteration : Iteration) {observer : AudioObserver}
    {listings infos : List AudioRendererChangeInfo} (h : observer.Playing listings)
    (honce : (infos.map AudioRendererChangeInfo.sessionId).Nodup) :
    (observer.OnRendererStateChange iteration infos).Playing (listings ++ infos) := by
  obtain ⟨hown, hcalled⟩ := called_OnRendererStateChange iteration h.ownPids infos
  have hloop := fun pid (hvalid : IsValidPid pid = true) =>
    looped_foldl hvalid (h.sessions pid hvalid) infos
  revert hcalled hloop
  generalize infos.foldl Snapshot.handleInfo ⟨observer, [], []⟩ = snapshot
  intro hcalled hloop
  have hstands : ∀ pid, IsValidPid pid = true →
      ((observer.OnRendererStateChange iteration infos).has pid = true ↔
        (observer.OnRendererStateChange iteration infos).sessions pid ≠ ∅) ∧
      Alternates ((observer.OnRendererStateChange iteration infos).innerMarks pid) ∧
      isOpen ((observer.OnRendererStateChange iteration infos).innerMarks pid) =
        (observer.OnRendererStateChange iteration infos).has pid := by
    intro pid hvalid
    have hafter := hcalled pid
    have hlooped := hloop pid hvalid
    obtain ⟨halternates, hopen⟩ := h.marks pid hvalid
    rw [hafter.sessions, hafter.has, hafter.marks, hlooped.marks]
    by_cases hbefore : observer.has pid = true
    · have hnew : pid ∉ snapshot.newRunningPid := fun hmem => (hlooped.new.mp hmem).1 hbefore
      have hhas : snapshot.observer.has pid = true := hlooped.has.mpr (Or.inl hbefore)
      by_cases hempty : snapshot.observer.sessions pid = ∅
      · -- A session that played does so no longer, so the snapshot lists its end.
        obtain ⟨session, hsession⟩ := Finset.nonempty_iff_ne_empty.mpr
          ((h.has pid hvalid).mp hbefore)
        have hplays := (h.sessions pid hvalid session).mp hsession
        have hnot : ¬ Plays (listings ++ infos) pid session := by
          rw [← hlooped.sessions, hempty]
          exact Finset.notMem_empty session
        have hstop : pid ∈ snapshot.newStopSessionPid := by
          rw [hlooped.stopped]
          by_contra hnone
          refine hnot ((outstanding_append_iff listings infos).mpr (Or.inr ⟨hplays, ?_⟩))
          exact fun later hlater hends => hnone ⟨later, hlater, session, hends⟩
        simp [hnew, hhas, hempty, hstop, alternates_concat, halternates, hopen, hbefore]
      · simp [hnew, hhas, hempty, halternates, hopen, hbefore]
    · by_cases hran : ∃ info ∈ infos, ∃ session, info.Runs pid session
      · have hnew : pid ∈ snapshot.newRunningPid := hlooped.new.mpr ⟨hbefore, hran⟩
        have hhas : snapshot.observer.has pid = true := hlooped.has.mpr (Or.inr hran)
        have hempty : snapshot.observer.sessions pid ≠ ∅ := by
          obtain ⟨info, hmem, session, hruns⟩ := hran
          have hsession := (hlooped.sessions session).mpr (plays_of_runs honce hmem hruns)
          exact Finset.ne_empty_of_mem hsession
        simp [hnew, hhas, hempty, alternates_concat, halternates, hopen, hbefore]
      · have hnew : pid ∉ snapshot.newRunningPid := fun hmem => hran (hlooped.new.mp hmem).2
        have hhas : ¬ snapshot.observer.has pid = true := fun hhas =>
          (hlooped.has.mp hhas).elim hbefore hran
        simp [hnew, hhas, sessions_eq_empty hhas, halternates, hopen, hbefore]
  refine ⟨hown, ?_, fun pid hvalid => (hstands pid hvalid).1,
    fun pid hvalid => (hstands pid hvalid).2⟩
  intro pid hvalid session
  rw [(hcalled pid).sessions]
  exact (hloop pid hvalid).sessions session

/-! ## What the calls leave alone -/

structure SameCapturers (before after : AudioObserver) : Prop where
  states : after.capturerStateMap_ = before.capturerStateMap_
  uids : after.capturerInfoPidToUidMap_ = before.capturerInfoPidToUidMap_
  marks : ∀ pid, after.captureMarks pid = before.captureMarks pid

structure SameRenderers (before after : AudioObserver) : Prop where
  states : after.processRenderStateMap_ = before.processRenderStateMap_
  marks : ∀ pid, after.innerMarks pid = before.innerMarks pid

theorem SameCapturers.trans {first second third : AudioObserver} (h : SameCapturers first second)
    (h' : SameCapturers second third) : SameCapturers first third :=
  ⟨h'.states.trans h.states, h'.uids.trans h.uids, fun pid => (h'.marks pid).trans (h.marks pid)⟩

theorem SameRenderers.trans {first second third : AudioObserver} (h : SameRenderers first second)
    (h' : SameRenderers second third) : SameRenderers first third :=
  ⟨h'.states.trans h.states, fun pid => (h'.marks pid).trans (h.marks pid)⟩

/-- A loop leaves the capturers alone when its body does. -/
theorem sameCapturers_foldl {ε : Type} {step : AudioObserver → ε → AudioObserver}
    (hstep : ∀ observer e, SameCapturers observer (step observer e)) (es : List ε)
    (observer : AudioObserver) : SameCapturers observer (es.foldl step observer) := by
  induction es generalizing observer with
  | nil => exact ⟨rfl, rfl, fun _ => rfl⟩
  | cons e es ih => exact (hstep observer e).trans (ih _)

theorem sameCapturers_handleInfo (snapshot : Snapshot) (info : AudioRendererChangeInfo) :
    SameCapturers snapshot.observer (snapshot.handleInfo info).observer := by
  obtain ⟨reports, -, hcapture, hcases⟩ := handleInfo_cases snapshot info
  have hreported : SameCapturers snapshot.observer (snapshot.addReports reports).observer := by
    refine ⟨rfl, rfl, fun pid => ?_⟩
    rw [AudioObserver.captureMarks, Snapshot.addReports, List.filterMap_append, hcapture,
      List.append_nil]
    rfl
  refine hreported.trans ?_
  obtain ⟨-, hafter⟩ | ⟨-, hafter⟩ | ⟨-, hafter⟩ := hcases
  · rw [hafter, Snapshot.ProcessRunningSessionState]
    dsimp only
    split
    · exact ⟨rfl, rfl, fun _ => rfl⟩
    · exact ⟨rfl, rfl, fun _ => rfl⟩
  · rw [hafter, Snapshot.ProcessStopSessionState]
    dsimp only
    split_ifs
    · exact ⟨rfl, rfl, fun _ => rfl⟩
    · split
      · exact ⟨rfl, rfl, fun _ => rfl⟩
      · exact ⟨rfl, rfl, fun _ => rfl⟩
  · rw [hafter]
    exact ⟨rfl, rfl, fun _ => rfl⟩

theorem sameCapturers_inner (observer : AudioObserver) (value : InnerAudioState)
    (payload : ProcessPayload) :
    SameCapturers observer
      (observer.ReportData (.RES_TYPE_INNER_AUDIO_STATE value payload)) := by
  refine ⟨rfl, rfl, fun pid => ?_⟩
  rw [captureMarks_ReportData]
  exact List.append_nil _

theorem sameCapturers_OnRendererStateChange (iteration : Iteration) (observer : AudioObserver)
    (infos : List AudioRendererChangeInfo) :
    SameCapturers observer (observer.OnRendererStateChange iteration infos) := by
  have hloop : SameCapturers observer
      (infos.foldl Snapshot.handleInfo ⟨observer, [], []⟩).observer := by
    induction infos using List.reverseRecOn with
    | nil => exact ⟨rfl, rfl, fun _ => rfl⟩
    | append_singleton infos info ih =>
        rw [List.foldl_append]
        exact ih.trans (sameCapturers_handleInfo _ info)
  rw [AudioObserver.OnRendererStateChange]
  refine SameCapturers.trans ?_ (sameCapturers_foldl (fun observer pid => ?_) _ _)
  · refine SameCapturers.trans ?_ (sameCapturers_foldl (fun observer pid => ?_) _ _)
    · exact hloop.trans ⟨rfl, rfl, fun _ => rfl⟩
    · rw [AudioObserver.startPid]
      split
      · exact ⟨rfl, rfl, fun _ => rfl⟩
      · split_ifs
        · exact ⟨rfl, rfl, fun _ => rfl⟩
        · exact sameCapturers_inner _ _ _
  · rw [AudioObserver.stopPid]
    split
    · exact ⟨rfl, rfl, fun _ => rfl⟩
    · split_ifs
      · exact ⟨rfl, rfl, fun _ => rfl⟩
      · have herased : SameCapturers observer { observer with
            processRenderStateMap_ := observer.processRenderStateMap_.erase pid } :=
          ⟨rfl, rfl, fun _ => rfl⟩
        exact herased.trans (sameCapturers_inner _ _ _)

theorem AudioObserver.Playing.of_same {before after : AudioObserver}
    {listings : List AudioRendererChangeInfo} (h : before.Playing listings)
    (hsame : SameRenderers before after) : after.Playing listings := by
  have hsessions : ∀ pid, after.sessions pid = before.sessions pid := by
    intro pid
    rw [AudioObserver.sessions, hsame.states]
    rfl
  have hhas : ∀ pid, after.has pid = before.has pid := by
    intro pid
    rw [AudioObserver.has, hsame.states]
    rfl
  constructor
  · rw [OwnPids, hsame.states]
    exact h.ownPids
  · intro pid hvalid session
    rw [hsessions]
    exact h.sessions pid hvalid session
  · intro pid hvalid
    rw [hsessions, hhas]
    exact h.has pid hvalid
  · intro pid hvalid
    rw [hhas, hsame.marks]
    exact h.marks pid hvalid

/-! ## Capturers -/

/-- The sessions of the process that record. -/
def AudioObserver.capturing (observer : AudioObserver) (pid : Int) : Finset Int :=
  (observer.capturerStateMap_.lookup pid).getD ∅

/-- The maps and the reports of the capturers stand as the events say. -/
structure AudioObserver.Recording (observer : AudioObserver) (events : List Event) : Prop where
  sameKeys : ∀ pid, (observer.capturerStateMap_.lookup pid).isSome =
    (observer.capturerInfoPidToUidMap_.lookup pid).isSome
  nonempty : ∀ pid sessions, observer.capturerStateMap_.lookup pid = some sessions → sessions ≠ ∅
  sessions : ∀ pid, pid ≠ 0 → ∀ session,
    session ∈ observer.capturing pid ↔ Records events pid session
  marks : ∀ pid, Alternates (observer.captureMarks pid) ∧
    isOpen (observer.captureMarks pid) = (observer.capturerStateMap_.lookup pid).isSome

/-- An event that is about no capturer. -/
theorem AudioObserver.Recording.of_same {before after : AudioObserver} {events : List Event}
    (h : before.Recording events) (hsame : SameCapturers before after) {event : Event}
    (hbegins : ∀ pid, pid ≠ 0 → ∀ session, ¬ event.BeginsCapture pid session)
    (hends : ∀ pid, pid ≠ 0 → ∀ session, ¬ event.EndsCapture pid session) :
    after.Recording (events ++ [event]) := by
  constructor
  · rw [hsame.states, hsame.uids]
    exact h.sameKeys
  · rw [hsame.states]
    exact h.nonempty
  · intro pid hpid session
    rw [Records, outstanding_concat_iff, or_iff_right (hbegins pid hpid session),
      and_iff_left (hends pid hpid session), AudioObserver.capturing, hsame.states]
    exact h.sessions pid hpid session
  · intro pid
    rw [hsame.states, hsame.marks]
    exact h.marks pid

theorem sameRenderers_capture (observer : AudioObserver) (value : AudioCaptureState)
    (payload : ProcessPayload) :
    SameRenderers observer
      (observer.ReportData (.RES_TYPE_AUDIO_CAPTURE_STATUS_CHANGED value payload)) := by
  refine ⟨rfl, fun pid => ?_⟩
  rw [innerMarks_ReportData]
  exact List.append_nil _

/-- What a step does to the capturers of a process: `sessions` are the ones afterwards, with an entry
exactly when there are any. -/
structure CaptureStep (before after : AudioObserver) (sessions : Int → Finset Int) : Prop where
  renderers : SameRenderers before after
  states : ∀ pid, after.capturerStateMap_.lookup pid =
    if sessions pid = ∅ then none else some (sessions pid)
  uids : ∀ pid, (after.capturerInfoPidToUidMap_.lookup pid).isSome = decide (sessions pid ≠ ∅)
  marks : ∀ pid, after.captureMarks pid = record (before.capturerStateMap_.lookup pid).isSome
    (decide (sessions pid ≠ ∅)) (before.captureMarks pid)

/-- A step keeps the maps and the reports when its sessions are those that record. -/
theorem AudioObserver.Recording.step {before after : AudioObserver} {events : List Event}
    {event : Event} {sessions : Int → Finset Int} (h : before.Recording events)
    (hstep : CaptureStep before after sessions)
    (hsessions : ∀ pid, pid ≠ 0 → ∀ session, session ∈ sessions pid ↔
      event.BeginsCapture pid session ∨
        session ∈ before.capturing pid ∧ ¬ event.EndsCapture pid session) :
    after.Recording (events ++ [event]) := by
  have hsome : ∀ pid, (after.capturerStateMap_.lookup pid).isSome = decide (sessions pid ≠ ∅) := by
    intro pid
    rw [hstep.states]
    split_ifs with hempty <;> simp [hempty]
  constructor
  · intro pid
    rw [hsome, hstep.uids]
  · intro pid found hfound
    rw [hstep.states] at hfound
    split_ifs at hfound with hempty
    rw [← Option.some.inj hfound]
    exact hempty
  · intro pid hpid session
    have hcapturing : after.capturing pid = sessions pid := by
      rw [AudioObserver.capturing, hstep.states]
      split_ifs with hempty
      · exact hempty.symm
      · rfl
    rw [hcapturing, Records, outstanding_concat_iff, hsessions pid hpid, h.sessions pid hpid]
    rfl
  · intro pid
    rw [hsome, hstep.marks]
    exact record_spec (h.marks pid).1 (h.marks pid).2 _

section

variable {observer : AudioObserver} {events : List Event} (h : observer.Recording events)

include h

/-- The entries hold what the processes record. -/
theorem AudioObserver.Recording.lookup (pid : Int) :
    observer.capturerStateMap_.lookup pid =
      if observer.capturing pid = ∅ then none else some (observer.capturing pid) := by
  rw [AudioObserver.capturing]
  cases hlookup : observer.capturerStateMap_.lookup pid with
  | none => rfl
  | some sessions =>
      have hnonempty := h.nonempty pid sessions hlookup
      rw [Option.getD_some, if_neg hnonempty]

theorem AudioObserver.Recording.isSome (pid : Int) :
    (observer.capturerStateMap_.lookup pid).isSome = decide (observer.capturing pid ≠ ∅) := by
  rw [h.lookup]
  split_ifs with hempty <;> simp [hempty]

theorem captureStep_refl : CaptureStep observer observer observer.capturing where
  renderers := ⟨rfl, fun _ => rfl⟩
  states := h.lookup
  uids := fun pid => (h.sameKeys pid).symm.trans (h.isSome pid)
  marks := by
    intro pid
    rw [record, if_pos (h.isSome pid)]

theorem captureStep_begin (pid uid sessionId : Int) :
    CaptureStep observer (observer.ProcessCapturerBegin pid uid sessionId)
      (Function.update observer.capturing pid (insert sessionId (observer.capturing pid))) := by
  rw [AudioObserver.ProcessCapturerBegin]
  constructor
  · split
    · exact ⟨rfl, (sameRenderers_capture observer _ _).marks⟩
    · exact ⟨rfl, fun _ => rfl⟩
  · intro other
    dsimp only
    rw [AssocMap.lookup_insert_ite]
    by_cases hother : other = pid
    · subst hother
      rw [if_pos rfl, Function.update_self, if_neg (Finset.insert_ne_empty _ _)]
      rfl
    · rw [if_neg hother, Function.update_of_ne hother]
      exact h.lookup other
  · intro other
    dsimp only
    rw [AssocMap.lookup_insert_ite]
    by_cases hother : other = pid
    · subst hother
      rw [if_pos rfl, Function.update_self]
      simp
    · rw [if_neg hother, Function.update_of_ne hother, ← h.sameKeys, h.isSome]
  · intro other
    by_cases hother : other = pid
    · subst hother
      rw [Function.update_self, record]
      cases hfound : observer.capturerStateMap_.lookup other with
      | none =>
          refine (captureMarks_ReportData _ _ _).trans ?_
          simp [Report.captureMark]
      | some sessions =>
          simp [AudioObserver.captureMarks]
    · rw [Function.update_of_ne hother, record, if_pos (h.isSome other)]
      split
      · refine (captureMarks_ReportData _ _ _).trans ?_
        simp [Report.captureMark, Ne.symm hother]
      · rfl

theorem captureStep_end (pid uid sessionId : Int) :
    CaptureStep observer (observer.ProcessCapturerEnd pid uid sessionId)
      (Function.update observer.capturing pid ((observer.capturing pid).erase sessionId)) := by
  rw [AudioObserver.ProcessCapturerEnd]
  cases hlookup : observer.capturerStateMap_.lookup pid with
  | none =>
      have hcapturing : observer.capturing pid = ∅ := by
        rw [AudioObserver.capturing, hlookup]
        rfl
      have hsame : (observer.capturing pid).erase sessionId = observer.capturing pid := by
        rw [hcapturing]
        rfl
      rw [hsame, Function.update_eq_self]
      exact captureStep_refl h
  | some sessions =>
      have hcapturing : observer.capturing pid = sessions := by
        rw [AudioObserver.capturing, hlookup]
        rfl
      rw [hcapturing]
      dsimp only
      split_ifs with hempty
      · rw [hempty]
        constructor
        · exact ⟨rfl, (sameRenderers_capture observer _ _).marks⟩
        · intro other
          refine (AssocMap.lookup_erase_ite _ pid other).trans ?_
          by_cases hother : other = pid
          · rw [if_pos hother, hother, Function.update_self, if_pos rfl]
          · rw [if_neg hother, Function.update_of_ne hother]
            exact h.lookup other
        · intro other
          refine (congrArg Option.isSome (AssocMap.lookup_erase_ite _ pid other)).trans ?_
          by_cases hother : other = pid
          · rw [if_pos hother, hother, Function.update_self]
            rfl
          · rw [if_neg hother, Function.update_of_ne hother, ← h.sameKeys, h.isSome]
        · intro other
          refine (captureMarks_ReportData _ _ _).trans ?_
          by_cases hother : other = pid
          · subst hother
            rw [Function.update_self, hlookup]
            simp [record, Report.captureMark, AudioObserver.captureMarks]
          · rw [Function.update_of_ne hother, record, if_pos (h.isSome other)]
            simp [Report.captureMark, Ne.symm hother, AudioObserver.captureMarks]
      · constructor
        · exact ⟨rfl, fun _ => rfl⟩
        · intro other
          refine (AssocMap.lookup_insert_ite _ pid other _).trans ?_
          by_cases hother : other = pid
          · rw [if_pos hother, hother, Function.update_self, if_neg hempty]
          · rw [if_neg hother, Function.update_of_ne hother]
            exact h.lookup other
        · intro other
          by_cases hother : other = pid
          · subst hother
            rw [Function.update_self, ← h.sameKeys, hlookup]
            simp [hempty]
          · rw [Function.update_of_ne hother, ← h.sameKeys, h.isSome]
        · intro other
          by_cases hother : other = pid
          · subst hother
            rw [Function.update_self, hlookup, record, if_pos (by simp [hempty])]
            rfl
          · rw [Function.update_of_ne hother, record, if_pos (h.isSome other)]
            rfl

end

/-- What the loop of the unregister does to a process. -/
theorem endPids_spec {pids : List Int} (hnodup : pids.Nodup) (observer : AudioObserver) :
    SameRenderers observer (pids.foldl AudioObserver.endPid observer) ∧
      (∀ pid, (pids.foldl AudioObserver.endPid observer).capturerInfoPidToUidMap_.lookup pid =
        if pid ∈ pids then none else observer.capturerInfoPidToUidMap_.lookup pid) ∧
      ∀ pid, (pids.foldl AudioObserver.endPid observer).captureMarks pid =
        observer.captureMarks pid ++ if pid ∈ pids then [false] else [] := by
  induction pids generalizing observer with
  | nil => exact ⟨⟨rfl, fun _ => rfl⟩, by simp, by simp⟩
  | cons other pids ih =>
      rw [List.nodup_cons] at hnodup
      obtain ⟨hsame, huids, hmarks⟩ := ih hnodup.2 (observer.endPid other)
      have hstep : SameRenderers observer (observer.endPid other) :=
        ⟨rfl, (sameRenderers_capture observer .AUDIO_CAPTURE_END
          ⟨(observer.capturerInfoPidToUidMap_.lookup other).getD 0, other⟩).marks⟩
      have huid : ∀ pid, (observer.endPid other).capturerInfoPidToUidMap_.lookup pid =
          if pid = other then none else observer.capturerInfoPidToUidMap_.lookup pid :=
        fun pid => AssocMap.lookup_erase_ite _ other pid
      have hmark : ∀ pid, (observer.endPid other).captureMarks pid =
          observer.captureMarks pid ++ if other = pid then [false] else [] := by
        intro pid
        refine (captureMarks_ReportData _ _ _).trans ?_
        rw [Report.captureMark]
        split_ifs <;> rfl
      rw [List.foldl_cons]
      refine ⟨hstep.trans hsame, fun pid => ?_, fun pid => ?_⟩
      · rw [huids, huid]
        by_cases hpid : pid = other <;> simp [hpid]
      · rw [hmarks, hmark, List.append_assoc]
        by_cases hpid : pid = other
        · subst hpid
          simp [hnodup.1]
        · simp [hpid, Ne.symm hpid]

theorem captureStep_unregister (iteration : Iteration) {observer : AudioObserver}
    {events : List Event} (h : observer.Recording events) :
    CaptureStep observer (observer.ProcessCapturerEndCaseByUnregister iteration) fun _ => ∅ := by
  have hperm := iteration.perm observer.capturerStateMap_.keys
  have hmem : ∀ pid, pid ∈ iteration.order observer.capturerStateMap_.keys ↔
      (observer.capturerStateMap_.lookup pid).isSome = true := by
    intro pid
    rw [hperm.mem_iff, AssocMap.mem_keys_iff, Option.isSome_iff_exists]
  obtain ⟨hsame, huids, hmarks⟩ := endPids_spec
    (hperm.nodup_iff.mpr (AList.keys_nodup observer.capturerStateMap_)) observer
  rw [AudioObserver.ProcessCapturerEndCaseByUnregister]
  split_ifs with hkeys
  · have hnone : observer.capturing = fun _ => ∅ := by
      funext pid
      have hlookup : observer.capturerStateMap_.lookup pid = none := by
        rw [AList.lookup_eq_none]
        change pid ∉ observer.capturerStateMap_.keys
        rw [List.isEmpty_iff.mp hkeys]
        exact List.not_mem_nil
      rw [AudioObserver.capturing, hlookup]
      rfl
    rw [← hnone]
    exact captureStep_refl h
  · refine ⟨⟨hsame.states, hsame.marks⟩, fun _ => rfl, fun pid => ?_, fun pid => ?_⟩
    · refine (congrArg Option.isSome (huids pid)).trans ?_
      split_ifs with hpid
      · rfl
      · rw [hmem, Bool.not_eq_true] at hpid
        rw [← h.sameKeys, hpid]
        rfl
    · refine (hmarks pid).trans ?_
      rw [record]
      cases hsome : (observer.capturerStateMap_.lookup pid).isSome with
      | true =>
          rw [if_pos ((hmem pid).mpr hsome)]
          rfl
      | false =>
          rw [if_neg fun hpid => by simp [(hmem pid).mp hpid] at hsome, List.append_nil]
          rfl

/-! ## One event -/

theorem beginsCapture_iff (info : AudioCapturerChangeInfo) (pid session : Int) :
    (Event.handleCapturer (some info)).BeginsCapture pid session ↔
      info.clientPid = pid ∧ info.sessionId = session ∧
        info.capturerState = .CAPTURER_RUNNING := by
  simp [Event.BeginsCapture]

theorem endsCapture_iff (info : AudioCapturerChangeInfo) (pid session : Int) :
    (Event.handleCapturer (some info)).EndsCapture pid session ↔
      info.clientPid = pid ∧ info.sessionId = session ∧
        (info.capturerState = .CAPTURER_STOPPED ∨ info.capturerState = .CAPTURER_RELEASED) := by
  simp [Event.EndsCapture]

theorem recording_handleCapturer {observer : AudioObserver} {events : List Event}
    (h : observer.Recording events) (info? : Option AudioCapturerChangeInfo) :
    (observer.handleCapturer info?).Recording (events ++ [.handleCapturer info?]) ∧
      SameRenderers observer (observer.handleCapturer info?) := by
  have hrefl : SameCapturers observer observer := ⟨rfl, rfl, fun _ => rfl⟩
  cases info? with
  | none =>
      refine ⟨h.of_same hrefl (fun _ _ _ => ?_) fun _ _ _ => ?_, rfl, fun _ => rfl⟩
      · simp [Event.BeginsCapture]
      · simp [Event.EndsCapture]
  | some info =>
      simp only [AudioObserver.handleCapturer]
      split_ifs with hzero
      · refine ⟨h.of_same hrefl (fun pid hpid session => ?_) fun pid hpid session => ?_,
          rfl, fun _ => rfl⟩
        · rw [beginsCapture_iff, hzero]
          exact fun hbegins => hpid hbegins.1.symm
        · rw [endsCapture_iff, hzero]
          exact fun hends => hpid hends.1.symm
      · have hend : (info.capturerState = .CAPTURER_STOPPED ∨
            info.capturerState = .CAPTURER_RELEASED) →
            (observer.ProcessCapturerEnd info.clientPid info.clientUID info.sessionId).Recording
                (events ++ [.handleCapturer (some info)]) ∧
              SameRenderers observer
                (observer.ProcessCapturerEnd info.clientPid info.clientUID info.sessionId) := by
          intro hstate
          have hstep := captureStep_end h info.clientPid info.clientUID info.sessionId
          refine ⟨h.step hstep fun pid _ session => ?_, hstep.renderers⟩
          have hnot : info.capturerState ≠ .CAPTURER_RUNNING := by
            obtain hstate | hstate := hstate <;> simp [hstate]
          rw [beginsCapture_iff, endsCapture_iff]
          by_cases hpid : pid = info.clientPid
          · subst hpid
            simp only [Function.update_self, Finset.mem_erase, hnot, hstate, and_false, false_or,
              and_true, true_and]
            exact ⟨fun h => ⟨h.2, Ne.symm h.1⟩, fun h => ⟨Ne.symm h.2, h.1⟩⟩
          · rw [Function.update_of_ne hpid]
            simp [Ne.symm hpid]
        cases hstate : info.capturerState with
        | CAPTURER_RUNNING =>
            have hstep := captureStep_begin h info.clientPid info.clientUID info.sessionId
            refine ⟨h.step hstep fun pid _ session => ?_, hstep.renderers⟩
            rw [beginsCapture_iff, endsCapture_iff, hstate]
            by_cases hpid : pid = info.clientPid
            · subst hpid
              rw [Function.update_self]
              simp [eq_comm]
            · rw [Function.update_of_ne hpid]
              simp [Ne.symm hpid]
        | CAPTURER_STOPPED => exact hend (Or.inl hstate)
        | CAPTURER_RELEASED => exact hend (Or.inr hstate)
        | other value =>
            refine ⟨h.of_same hrefl (fun _ _ _ => ?_) fun _ _ _ => ?_, rfl, fun _ => rfl⟩
            · rw [beginsCapture_iff, hstate]
              simp
            · rw [endsCapture_iff, hstate]
              simp

theorem handle_kept (iteration : Iteration) {observer : AudioObserver} {events : List Event}
    (hplaying : observer.Playing (events.flatMap Event.renderers))
    (hrecording : observer.Recording events) (event : Event)
    (honce : (event.renderers.map AudioRendererChangeInfo.sessionId).Nodup) :
    (observer.handle iteration event).Playing ((events ++ [event]).flatMap Event.renderers) ∧
      (observer.handle iteration event).Recording (events ++ [event]) := by
  rw [List.flatMap_append, List.flatMap_singleton]
  cases event with
  | OnRendererStateChange infos =>
      refine ⟨playing_call iteration hplaying honce, ?_⟩
      refine hrecording.of_same (sameCapturers_OnRendererStateChange iteration observer infos) ?_ ?_
      · simp [Event.BeginsCapture]
      · simp [Event.EndsCapture]
  | ReportCapturerStateChange infos =>
      simp only [Event.renderers, List.append_nil]
      have hrenderers : SameRenderers observer (observer.ReportCapturerStateChange infos) :=
        ⟨rfl, fun _ => (innerMarks_ReportData _ _ _).trans (List.append_nil _)⟩
      have hcapturers : SameCapturers observer (observer.ReportCapturerStateChange infos) :=
        ⟨rfl, rfl, fun _ => (captureMarks_ReportData _ _ _).trans (List.append_nil _)⟩
      refine ⟨hplaying.of_same hrenderers, hrecording.of_same hcapturers ?_ ?_⟩
      · simp [Event.BeginsCapture]
      · simp [Event.EndsCapture]
  | handleCapturer info? =>
      simp only [Event.renderers, List.append_nil]
      obtain ⟨hafter, hsame⟩ := recording_handleCapturer hrecording info?
      exact ⟨hplaying.of_same hsame, hafter⟩
  | ProcessCapturerEndCaseByUnregister =>
      simp only [Event.renderers, List.append_nil]
      have hstep := captureStep_unregister iteration hrecording
      refine ⟨hplaying.of_same hstep.renderers, hrecording.step hstep fun pid _ session => ?_⟩
      simp [Event.BeginsCapture, Event.EndsCapture]

/-! ## Every run -/

/-- A call of `OnCapturerStateChange` takes its steps. -/
theorem run_OnCapturerStateChange (iteration : Iteration) (observer : AudioObserver)
    (infos : List (Option AudioCapturerChangeInfo)) :
    run (AudioObserver.handle iteration) observer (Event.OnCapturerStateChange infos) =
      observer.OnCapturerStateChange infos := by
  rw [Event.OnCapturerStateChange, run_cons, AudioObserver.OnCapturerStateChange, run,
    List.foldl_map]
  rfl

theorem playing_start : AudioObserver.start.Playing [] where
  ownPids := fun _ _ h => nomatch h
  sessions := by
    intro pid _ session
    refine iff_of_false (Finset.notMem_empty session) fun hplays => ?_
    obtain ⟨info, hmem, -⟩ := hplays.exists_opens
    exact List.not_mem_nil hmem
  has := fun _ _ => iff_of_false Bool.false_ne_true fun h => h rfl
  marks := fun _ _ => ⟨rfl, rfl⟩

theorem recording_start : AudioObserver.start.Recording [] where
  sameKeys := fun _ => rfl
  nonempty := fun _ _ h => nomatch h
  sessions := by
    intro pid _ session
    refine iff_of_false (Finset.notMem_empty session) fun hrecords => ?_
    obtain ⟨event, hmem, -⟩ := hrecords.exists_opens
    exact List.not_mem_nil hmem
  marks := fun _ => ⟨rfl, rfl⟩

theorem kept_run (iteration : Iteration) (events : List Event) (honce : OncePerSnapshot events) :
    (run (AudioObserver.handle iteration) .start events).Playing
        (events.flatMap Event.renderers) ∧
      (run (AudioObserver.handle iteration) .start events).Recording events := by
  induction events using List.reverseRecOn with
  | nil => exact ⟨playing_start, recording_start⟩
  | append_singleton events event ih =>
      rw [run_concat]
      obtain ⟨hplaying, hrecording⟩ := ih fun event hmem => honce event (List.mem_append_left _ hmem)
      exact handle_kept iteration hplaying hrecording event
        (honce event (List.mem_append_right _ List.mem_cons_self))

/-- In whatever order streams appear, change and leave the snapshots, and wherever the service is
unregistered, the reports of each process alternate, the last one tells whether one of its sessions
plays or records, and the maps of the capturers agree. -/
theorem audio_reports_paired (iteration : Iteration) (events : List Event)
    (honce : OncePerSnapshot events) :
    (run (AudioObserver.handle iteration) .start events).Paired events := by
  obtain ⟨hplaying, hrecording⟩ := kept_run iteration events honce
  constructor
  · intro pid hpositive hmax
    have hvalid : IsValidPid pid = true := by
      simp [IsValidPid, PID_MIN, hpositive, hmax]
    obtain ⟨halternates, hopen⟩ := hplaying.marks pid hvalid
    refine ⟨halternates, ?_⟩
    rw [hopen, hplaying.has pid hvalid, ← Finset.nonempty_iff_ne_empty]
    exact exists_congr (hplaying.sessions pid hvalid)
  · intro pid hpositive
    obtain ⟨halternates, hopen⟩ := hrecording.marks pid
    refine ⟨halternates, ?_⟩
    rw [hopen, hrecording.isSome, decide_eq_true_eq, ← Finset.nonempty_iff_ne_empty]
    exact exists_congr (hrecording.sessions pid hpositive.ne')
  · exact hrecording.sameKeys
  · exact hrecording.nonempty

def inOrder : Iteration where
  order := id
  perm := fun _ => List.Perm.refl _

/-- A process plays one session after the other, and records until the unregister. -/
def handover : List Event :=
  [.OnRendererStateChange [⟨20010, 10, 1, .RENDERER_RUNNING, 0, 0⟩],
    .handleCapturer (some ⟨20010, 10, 5, .CAPTURER_RUNNING, 0⟩),
    .OnRendererStateChange [⟨20010, 10, 1, .RENDERER_STOPPED, 0, 0⟩,
      ⟨20010, 10, 2, .RENDERER_RUNNING, 0, 0⟩],
    .ProcessCapturerEndCaseByUnregister]

theorem audio_reports_paired_handover :
    (run (AudioObserver.handle inOrder) .start handover).innerMarks 10 = [true] ∧
      (run (AudioObserver.handle inOrder) .start handover).captureMarks 10 = [true, false] ∧
      (run (AudioObserver.handle inOrder) .start handover).Paired handover :=
  ⟨by decide, by decide, audio_reports_paired inOrder handover (by unfold OncePerSnapshot; decide)⟩

end ResSched.Audio
