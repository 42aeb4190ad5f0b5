import ResSched.Library.Transition
import ResSched.Verification.Cgroup.Adjuster
import ResSched.Verification.Cgroup.Handlers

/-! # Serial numbers of window-state reports

When exactly the newer reports about a render process are applied.
-/

namespace ResSched.Cgroup

open CLibrary Transition

/-! ## The specification -/

/-- The fields of a process record that a window-state report sets. -/
structure RenderState where
  serialNum : Int
  linkedWindow : Option Nat
  isActive : Bool
deriving DecidableEq

def renderState (record : ProcessRecord) : RenderState :=
  ⟨record.serialNum, record.linkedWindow, record.isActive⟩

/-- The state of a process; one without a record is as a new one. -/
def Supervisor.render (supervisor : Supervisor) (uid pid : Int) : RenderState :=
  renderState (((supervisor.app uid).pidsMap.lookup pid).getD (ProcessRecord.new 0))

/-- A window-state report. -/
structure WindowReport where
  uid : Int
  pid : Int
  windowId : Nat
  state : Int
  nowSerialNum : Int

def ParseReport (payload : Payload) : Option WindowReport := do
  let (uid, pid) ← ParsePayload payload
  let windowId ← ParseValue "windowId" payload
  let state ← ParseValue "state" payload
  let nowSerialNum ← ParseValue "serialNum" payload
  return ⟨uid, pid, toUnsigned 32 windowId, state, nowSerialNum⟩

/-- The report a payload brings about a process of a known application. -/
def Supervisor.reported (supervisor : Supervisor) (payload : Payload) : Option WindowReport :=
  (ParseReport payload).filter fun report => (supervisor.uidsMap.lookup report.uid).isSome

/-- A serial number that is to be taken: it is larger than the stored one, or so far behind it
that counting has begun again. -/
def Newer (serialNum nowSerialNum : Int) : Prop :=
  serialNum < nowSerialNum ∨ MAX_SPAN_SERIAL < serialNum - nowSerialNum

instance (serialNum nowSerialNum : Int) : Decidable (Newer serialNum nowSerialNum) :=
  inferInstanceAs (Decidable (_ ∨ _))

/-- The state with a report applied. An active process is linked to the window, where some
process has it. -/
def WindowReport.applied (supervisor : Supervisor) (report : WindowReport) (before : RenderState) :
    RenderState where
  serialNum := report.nowSerialNum
  linkedWindow :=
    if report.state = ACTIVE then
      if supervisor.SearchWindowId report.windowId then some report.windowId
      else before.linkedWindow
    else none
  isActive :=
    if report.state = ACTIVE then supervisor.SearchWindowId report.windowId || before.isActive
    else false

/-- The state of a process after a report has been filtered by the exact comparison. -/
def Supervisor.filtered (supervisor : Supervisor) (payload : Payload) (uid pid : Int) :
    RenderState :=
  match supervisor.reported payload with
  | none => supervisor.render uid pid
  | some report =>
      if (uid = report.uid ∧ pid = report.pid) ∧
          Newer (supervisor.render uid pid).serialNum report.nowSerialNum then
        report.applied supervisor (supervisor.render uid pid)
      else supervisor.render uid pid

/-- A report sets the state of every process as the exact comparison asks. -/
def Filtered (env : External) (supervisor : Supervisor) (payload : Payload) : Prop :=
  ∀ uid pid, (supervisor.handle env (.HandleReportWindowState payload)).render uid pid =
    supervisor.filtered payload uid pid

/-- The subtraction of the serial numbers, where it is evaluated, does not overflow. -/
def NoOverflow (supervisor : Supervisor) (payload : Payload) : Prop :=
  ∀ report, supervisor.reported payload = some report →
    report.nowSerialNum ≤ (supervisor.render report.uid report.pid).serialNum →
      toSigned 32 ((supervisor.render report.uid report.pid).serialNum - report.nowSerialNum) =
        (supervisor.render report.uid report.pid).serialNum - report.nowSerialNum

/-- A report is less than `2^31` behind the stored serial number. -/
def SpanFits (supervisor : Supervisor) (payload : Payload) : Prop :=
  ∀ report, supervisor.reported payload = some report →
    (supervisor.render report.uid report.pid).serialNum - report.nowSerialNum < 2147483648

instance (supervisor : Supervisor) (payload : Payload) :
    Decidable (SpanFits supervisor payload) :=
  decidable_of_iff
    ((supervisor.reported payload).all (fun report =>
      (supervisor.render report.uid report.pid).serialNum - report.nowSerialNum < 2147483648) =
        true)
    (by simp [SpanFits, Option.all_eq_true])

/-- The stored serial numbers are of 32 bits. -/
def SerialsFit (supervisor : Supervisor) : Prop :=
  ∀ uid pid, -2147483648 ≤ (supervisor.render uid pid).serialNum ∧
    (supervisor.render uid pid).serialNum < 2147483648

/-- A supervisor with, for every process, the serial number of the last report that was to be
taken. -/
structure SerialRun where
  supervisor : Supervisor
  lastSerial : Int → Int → Int

def Supervisor.serialRun (supervisor : Supervisor) : SerialRun :=
  ⟨supervisor, fun uid pid => (supervisor.render uid pid).serialNum⟩

def SerialRun.handle (env : External) (current : SerialRun) (payload : Payload) : SerialRun where
  supervisor := current.supervisor.handle env (.HandleReportWindowState payload)
  lastSerial := fun uid pid =>
    match current.supervisor.reported payload with
    | none => current.lastSerial uid pid
    | some report =>
        if (uid = report.uid ∧ pid = report.pid) ∧
            Newer (current.lastSerial uid pid) report.nowSerialNum then report.nowSerialNum
        else current.lastSerial uid pid

/-- The stored serial numbers are those of the last reports that were to be taken. -/
def SerialRun.Follows (current : SerialRun) : Prop :=
  ∀ uid pid, (current.supervisor.render uid pid).serialNum = current.lastSerial uid pid

/-! ## What the handler does -/

theorem SupervisorRegrouped.render {before after : Supervisor}
    (h : SupervisorRegrouped before after) (uid pid : Int) :
    after.render uid pid = before.render uid pid := by
  rw [Supervisor.render, Supervisor.render]
  cases hbefore : (before.app uid).pidsMap.lookup pid with
  | none => rw [(h uid).absent pid hbefore]
  | some record =>
      obtain ⟨record', hafter, _, _, _, rfl⟩ := (h uid).found pid record hbefore
      rw [hafter]
      rfl

theorem SearchWindowId_iff (supervisor : Supervisor) (windowId : Nat) :
    supervisor.SearchWindowId windowId = true ↔
      ∃ uid pid record, supervisor.record? uid pid = some record ∧
        (record.GetWindowInfo windowId).isSome = true := by
  simp only [Supervisor.SearchWindowId, List.any_eq_true, Supervisor.record?,
    Option.bind_eq_some_iff]
  constructor
  · rintro ⟨⟨uid, app⟩, happ, ⟨pid, record⟩, hrecord, hwindow⟩
    exact ⟨uid, pid, record, ⟨app, (AssocMap.mem_entries_iff _ _ _).mp happ,
      (AssocMap.mem_entries_iff _ _ _).mp hrecord⟩, hwindow⟩
  · rintro ⟨uid, pid, record, ⟨app, happ, hrecord⟩, hwindow⟩
    exact ⟨⟨uid, app⟩, (AssocMap.mem_entries_iff _ _ _).mpr happ, ⟨pid, record⟩,
      (AssocMap.mem_entries_iff _ _ _).mpr hrecord, hwindow⟩

/-- The supervisor with the record of a process made on demand. -/
def Supervisor.demanded (supervisor : Supervisor) (uid pid : Int) : Supervisor :=
  supervisor.withApp uid fun app => app.withRecordNonNull pid id

section

variable {supervisor : Supervisor} {uid : Int}
  (hknown : (supervisor.uidsMap.lookup uid).isSome = true) (pid : Int)

include hknown

theorem record?_demanded (other otherPid : Int) :
    (supervisor.demanded uid pid).record? other otherPid =
      if other = uid ∧ otherPid = pid then
        some ((supervisor.record? uid pid).getD (ProcessRecord.new (supervisor.app uid).created))
      else supervisor.record? other otherPid := by
  simp only [record?_eq, Supervisor.demanded, app_withApp, hknown, and_true]
  by_cases huid : other = uid
  · subst huid
    rw [if_pos rfl, lookup_withRecordNonNull]
    by_cases hpid : otherPid = pid
    · subst hpid
      rw [if_pos rfl, if_pos ⟨rfl, rfl⟩]
      rfl
    · rw [if_neg hpid, if_neg fun h => hpid h.2]
  · rw [if_neg huid, if_neg fun h => huid h.1]

theorem SearchWindowId_demanded (windowId : Nat) :
    (supervisor.demanded uid pid).SearchWindowId windowId = supervisor.SearchWindowId windowId := by
  rw [Bool.eq_iff_iff, SearchWindowId_iff, SearchWindowId_iff]
  constructor
  · rintro ⟨other, otherPid, record, hrecord, hwindow⟩
    rw [record?_demanded hknown] at hrecord
    split_ifs at hrecord with hsame
    · cases hold : supervisor.record? uid pid with
      | none =>
          -- A new record has no window.
          rw [hold, Option.getD_none, Option.some.injEq] at hrecord
          subst hrecord
          cases hwindow
      | some old =>
          rw [hold, Option.getD_some] at hrecord
          exact ⟨uid, pid, record, hold.trans hrecord, hwindow⟩
    · exact ⟨other, otherPid, record, hrecord, hwindow⟩
  · rintro ⟨other, otherPid, record, hrecord, hwindow⟩
    by_cases hsame : other = uid ∧ otherPid = pid
    · obtain ⟨rfl, rfl⟩ := hsame
      refine ⟨other, otherPid, record, ?_, hwindow⟩
      rw [record?_demanded hknown, if_pos ⟨rfl, rfl⟩, hrecord, Option.getD_some]
    · refine ⟨other, otherPid, record, ?_, hwindow⟩
      rw [record?_demanded hknown, if_neg hsame, hrecord]

theorem render_demanded (other otherPid : Int) :
    (supervisor.demanded uid pid).render other otherPid = supervisor.render other otherPid := by
  simp only [Supervisor.render, ← record?_eq]
  rw [record?_demanded hknown]
  split_ifs with hsame
  · rw [hsame.1, hsame.2]
    cases supervisor.record? uid pid <;> rfl
  · rfl

end

/-- The state of a process that has a record. -/
theorem render_of_record? {supervisor : Supervisor} {uid pid : Int} {record : ProcessRecord}
    (h : supervisor.record? uid pid = some record) : supervisor.render uid pid =
      renderState record := by
  rw [Supervisor.render, ← record?_eq, h, Option.getD_some]

/-- What changes one record changes the state of that process. -/
theorem render_withRecord {supervisor : Supervisor} {uid pid : Int} {record : ProcessRecord}
    (h : supervisor.record? uid pid = some record) (f : ProcessRecord → ProcessRecord)
    (other otherPid : Int) :
    (supervisor.withApp uid fun app => app.withRecord pid f).render other otherPid =
      if other = uid ∧ otherPid = pid then renderState (f record)
      else supervisor.render other otherPid := by
  have hknown := isSome_lookup_of_record? h
  rw [record?_eq] at h
  simp only [Supervisor.render, app_withApp, hknown, and_true]
  by_cases huid : other = uid
  · subst huid
    rw [if_pos rfl, lookup_withRecord]
    by_cases hpid : otherPid = pid
    · subst hpid
      rw [if_pos rfl, if_pos ⟨rfl, rfl⟩, h]
      rfl
    · rw [if_neg hpid, if_neg fun hsame => hpid hsame.2]
  · rw [if_neg huid, if_neg fun hsame => huid hsame.1]

theorem renderState_UpdateActivepWebRenderInfo (supervisor : Supervisor) (report : WindowReport)
    (record : ProcessRecord) :
    renderState (UpdateActivepWebRenderInfo supervisor report.state report.windowId
        { record with serialNum := report.nowSerialNum }) =
      report.applied supervisor (renderState record) := by
  rw [UpdateActivepWebRenderInfo, WindowReport.applied]
  split_ifs with hactive hknown
  · rw [hknown]
    rfl
  · rw [Bool.not_eq_true] at hknown
    rw [hknown]
    rfl
  · rfl

/-! ## The handler on a report -/

/-- A payload that brings no report about a process of a known application sets nothing. -/
theorem render_of_not_reported {supervisor : Supervisor} {payload : Payload}
    (h : supervisor.reported payload = none) (uid pid : Int) :
    (HandleReportWindowState supervisor payload).supervisor.render uid pid =
      supervisor.render uid pid := by
  rw [HandleReportWindowState, GetProcInfoByPayload]
  cases hparse : ParsePayload payload with
  | none => rfl
  | some ids =>
      obtain ⟨ofUid, ofPid⟩ := ids
      cases happ : supervisor.uidsMap.lookup ofUid with
      | none =>
          simp only [Option.bind_eq_bind, Option.bind_some, happ, Option.bind_none]
          rfl
      | some app =>
          have hknown : (supervisor.uidsMap.lookup ofUid).isSome = true := by rw [happ]; rfl
          simp only [Option.bind_eq_bind, Option.bind_some, happ, Supervisor.parsed, Option.pure_def]
          rw [← Supervisor.demanded]
          have hargs : ((ParseValue "windowId" payload).bind fun windowId =>
              (ParseValue "state" payload).bind fun state =>
                (ParseValue "serialNum" payload).bind fun nowSerialNum =>
                  some (toUnsigned 32 windowId, state, nowSerialNum)) = none := by
            rw [Supervisor.reported, Option.filter_eq_none_iff] at h
            refine Option.eq_none_iff_forall_not_mem.mpr ?_
            rintro ⟨windowId, state, nowSerialNum⟩ hargs
            simp only [Option.mem_def, Option.bind_eq_some_iff, Option.some.injEq] at hargs
            obtain ⟨window, hwindow, state', hstate, serial, hserial, -⟩ := hargs
            refine h ⟨ofUid, ofPid, toUnsigned 32 window, state', serial⟩ ?_ hknown
            simp [ParseReport, hparse, hwindow, hstate, hserial]
          rw [hargs]
          exact render_demanded hknown ofPid uid pid

/-- A report that is not outdated is applied to its process; an outdated one sets nothing. -/
theorem render_of_reported {supervisor : Supervisor} {payload : Payload} {report : WindowReport}
    (h : supervisor.reported payload = some report) (uid pid : Int) :
    (HandleReportWindowState supervisor payload).supervisor.render uid pid =
      if (uid = report.uid ∧ pid = report.pid) ∧
          outdatedSerial (supervisor.render report.uid report.pid).serialNum
            report.nowSerialNum = false then
        report.applied supervisor (supervisor.render report.uid report.pid)
      else supervisor.render uid pid := by
  rw [Supervisor.reported, Option.filter_eq_some_iff] at h
  obtain ⟨hparse, hknown⟩ := h
  simp only [ParseReport, Option.bind_eq_bind, Option.bind_eq_some_iff, Option.pure_def,
    Option.some.injEq] at hparse
  obtain ⟨⟨ofUid, ofPid⟩, hids, window, hwindow, state, hstate, serial, hserial, rfl⟩ := hparse
  dsimp only at hknown ⊢
  obtain ⟨app, happ⟩ := Option.isSome_iff_exists.mp hknown
  have hrecord := record?_demanded hknown ofPid ofUid ofPid
  rw [if_pos ⟨rfl, rfl⟩] at hrecord
  have hrender := render_demanded hknown ofPid
  rw [HandleReportWindowState, GetProcInfoByPayload]
  simp only [hids, happ, hwindow, hstate, hserial, Option.bind_eq_bind, Option.bind_some,
    Option.pure_def, Supervisor.parsed]
  rw [← Supervisor.demanded, hrecord, Option.map_some]
  dsimp only
  rw [← hrender ofUid ofPid, render_of_record? hrecord, ← hrender uid pid]
  by_cases houtdated : outdatedSerial
      ((supervisor.record? ofUid ofPid).getD
        (ProcessRecord.new (supervisor.app ofUid).created)).serialNum serial = true
  · rw [if_pos houtdated, if_neg]
    · rfl
    · rw [renderState]
      exact fun hsame => absurd (houtdated.symm.trans hsame.2) Bool.noConfusion
  · rw [if_neg houtdated, adjustHost_supervisor, render_withRecord hrecord]
    by_cases hsame : uid = ofUid ∧ pid = ofPid
    · rw [if_pos hsame, if_pos ⟨hsame, Bool.eq_false_of_not_eq_true houtdated⟩]
      have hupdate := renderState_UpdateActivepWebRenderInfo (supervisor.demanded ofUid ofPid)
        ⟨ofUid, ofPid, toUnsigned 32 window, state, serial⟩
        ((supervisor.record? ofUid ofPid).getD
          (ProcessRecord.new (supervisor.app ofUid).created))
      dsimp only at hupdate
      rw [hupdate, WindowReport.applied, WindowReport.applied,
        SearchWindowId_demanded hknown]
    · rw [if_neg hsame, if_neg fun h => hsame h.1]

/-! ## One report -/

/-- The comparison on 32 bits is the exact one unless the report is `2^31` or more behind. -/
theorem outdatedSerial_iff {serialNum nowSerialNum : Int}
    (hserial : -2147483648 ≤ serialNum ∧ serialNum < 2147483648)
    (hnow : -2147483648 ≤ nowSerialNum ∧ nowSerialNum < 2147483648) :
    (outdatedSerial serialNum nowSerialNum = false ↔ Newer serialNum nowSerialNum) ↔
      serialNum - nowSerialNum < 2147483648 := by
  rw [outdatedSerial, Newer, MAX_SPAN_SERIAL, Bool.and_eq_false_iff, decide_eq_false_iff_not,
    decide_eq_false_iff_not, Int.not_le, Int.not_le]
  constructor
  · intro hexact
    by_contra hspan
    -- Beyond the range the difference wraps to a negative number.
    have hwrap : toSigned 32 (serialNum - nowSerialNum) =
        serialNum - nowSerialNum - 4294967296 := by
      have hbits : Nat.pow 2 32 = 4294967296 := rfl
      rw [toSigned, hbits, Int.bmod_eq_iff (by decide)]
      omega
    rw [hwrap] at hexact
    omega
  · intro hspan
    by_cases hahead : serialNum < nowSerialNum
    · exact iff_of_true (Or.inl hahead) (Or.inl hahead)
    · rw [(toSigned_eq_iff _).mpr (by omega)]

/-- The serial number of a report is of 32 bits. -/
theorem serial_of_reported {supervisor : Supervisor} {payload : Payload} {report : WindowReport}
    (h : supervisor.reported payload = some report) :
    -2147483648 ≤ report.nowSerialNum ∧ report.nowSerialNum < 2147483648 := by
  rw [Supervisor.reported, Option.filter_eq_some_iff] at h
  simp only [ParseReport, ParseValue, Option.bind_eq_bind, Option.bind_eq_some_iff,
    Option.map_eq_some_iff, Option.pure_def, Option.some.injEq] at h
  obtain ⟨⟨_, _, _, _, _, _, serial, ⟨text, _, rfl⟩, rfl⟩, _⟩ := h
  exact atoi_mem text

theorem handle_render (env : External) (supervisor : Supervisor) (payload : Payload)
    (uid pid : Int) :
    (supervisor.handle env (.HandleReportWindowState payload)).render uid pid =
      (HandleReportWindowState supervisor payload).supervisor.render uid pid :=
  (handle_regrouped env supervisor (.HandleReportWindowState payload)).render uid pid

section

variable {supervisor : Supervisor} (hfit : SerialsFit supervisor) (payload : Payload)

include hfit

/-- A report is filtered as the exact comparison asks exactly when it is less than `2^31`
behind. -/
theorem filtered_iff (env : External) :
    Filtered env supervisor payload ↔ SpanFits supervisor payload := by
  simp only [Filtered, handle_render, Supervisor.filtered, SpanFits]
  cases hreported : supervisor.reported payload with
  | none => simp [render_of_not_reported hreported]
  | some report =>
      have hserial := hfit report.uid report.pid
      have hnow := serial_of_reported hreported
      simp only [render_of_reported hreported, Option.some.injEq, forall_eq']
      rw [← outdatedSerial_iff hserial hnow]
      constructor
      · intro hsame
        have hown := hsame report.uid report.pid
        simp only [and_self, true_and] at hown
        by_contra hdiffer
        -- A report that is applied leaves another serial number than one that is dropped.
        have hother : report.nowSerialNum ≠ (supervisor.render report.uid report.pid).serialNum := by
          intro heq
          refine hdiffer ?_
          rw [heq, outdatedSerial, Newer, MAX_SPAN_SERIAL]
          simp [toSigned]
        have hserials := congrArg RenderState.serialNum hown
        split_ifs at hserials with htaken hnewer hnewer
        · exact hdiffer (iff_of_true htaken hnewer)
        · exact hother hserials
        · exact hother hserials.symm
        · exact hdiffer (iff_of_false htaken hnewer)
      · intro hexact uid pid
        by_cases hsame : uid = report.uid ∧ pid = report.pid
        · obtain ⟨rfl, rfl⟩ := hsame
          simp only [and_self, true_and, hexact]
        · rw [if_neg fun h => hsame h.1, if_neg fun h => hsame h.1]

theorem noOverflow_iff : NoOverflow supervisor payload ↔ SpanFits supervisor payload := by
  rw [NoOverflow, SpanFits]
  refine forall₂_congr fun report hreported => ?_
  have hserial := hfit report.uid report.pid
  have hnow := serial_of_reported hreported
  rw [toSigned_eq_iff]
  omega

/-- The serial number stored after a report is the one stored before or that of the report. -/
theorem handle_serialsFit (env : External) :
    SerialsFit (supervisor.handle env (.HandleReportWindowState payload)) := by
  intro uid pid
  rw [handle_render]
  cases hreported : supervisor.reported payload with
  | none =>
      rw [render_of_not_reported hreported]
      exact hfit uid pid
  | some report =>
      rw [render_of_reported hreported]
      split_ifs
      · exact serial_of_reported hreported
      · exact hfit uid pid

end

theorem report_follows (env : External) {current : SerialRun} {payload : Payload}
    (hfollows : current.Follows) (hfiltered : Filtered env current.supervisor payload) :
    (current.handle env payload).Follows := by
  intro uid pid
  rw [SerialRun.handle, hfiltered uid pid, Supervisor.filtered]
  cases current.supervisor.reported payload with
  | none => exact hfollows uid pid
  | some report =>
      dsimp only
      rw [hfollows uid pid]
      split_ifs
      · rfl
      · exact hfollows uid pid

/-! ## Main result -/

/-- Every report of a run is applied exactly when its serial number is to be taken, no subtraction
overflows and the stored serial numbers are those of the last applied reports, if and only if no
report of the run is `2^31` or more behind the serial number stored then. -/
theorem windowReports_filtered_iff (env : External) {supervisor : Supervisor}
    (h : SerialsFit supervisor) (payloads : List Payload) :
    (EachStep (SerialRun.handle env) (fun current payload =>
        Filtered env current.supervisor payload ∧ NoOverflow current.supervisor payload)
        supervisor.serialRun payloads ∧
      Always (SerialRun.handle env) SerialRun.Follows supervisor.serialRun payloads) ↔
    EachStep (SerialRun.handle env) (fun current payload => SpanFits current.supervisor payload)
      supervisor.serialRun payloads := by
  refine eachStep_and_always_iff (SerialRun.handle env)
    (R := fun current => SerialsFit current.supervisor ∧ current.Follows)
    (fun _ hinv => hinv.2) ?_ ?_ ?_ payloads supervisor.serialRun ⟨h, fun _ _ => rfl⟩
  · intro current payload hinv hspan
    exact ⟨(filtered_iff hinv.1 payload env).mpr hspan, (noOverflow_iff hinv.1 payload).mpr hspan⟩
  · intro current payload hinv hspan
    exact ⟨handle_serialsFit hinv.1 payload env,
      report_follows env hinv.2 ((filtered_iff hinv.1 payload env).mpr hspan)⟩
  · intro current payload hinv hstep _
    exact (filtered_iff hinv.1 payload env).mp hstep.1

/-- An application whose render process has no record yet. -/
def withBrowser : Supervisor :=
  Supervisor.start.withAppNonNull 2000 id

theorem serialsFit_withBrowser : SerialsFit withBrowser := by
  have hnew : ∀ uid pid, (withBrowser.render uid pid).serialNum = -1 := by
    intro uid pid
    rw [Supervisor.render, withBrowser, app_withAppNonNull]
    split_ifs <;> rfl
  intro uid pid
  rw [hnew]
  omega

/-- A report that the window of the render process is inactive. -/
def inactiveReport (serialNum : String) : Payload :=
  .object [("uid", .string "2000"), ("pid", .string "3000"), ("windowId", .string "1"),
    ("state", .string "1"), ("serialNum", .string serialNum)]

theorem olderReport_filtered :
    EachStep (SerialRun.handle framework) (fun current payload =>
        Filtered framework current.supervisor payload ∧ NoOverflow current.supervisor payload)
        withBrowser.serialRun [inactiveReport "200", inactiveReport "150", inactiveReport "7"] ∧
      Always (SerialRun.handle framework) SerialRun.Follows withBrowser.serialRun
        [inactiveReport "200", inactiveReport "150", inactiveReport "7"] := by
  rw [windowReports_filtered_iff framework serialsFit_withBrowser]
  decide +kernel

theorem farOlderReport_dropped :
    ¬ ∀ env supervisor payloads, SerialsFit supervisor →
      EachStep (SerialRun.handle env) (fun current payload =>
        Filtered env current.supervisor payload ∧ NoOverflow current.supervisor payload)
        supervisor.serialRun payloads ∧
      Always (SerialRun.handle env) SerialRun.Follows supervisor.serialRun payloads := by
  intro h
  obtain ⟨-, hfollows⟩ := h framework withBrowser
    [inactiveReport "2147483647", inactiveReport "-2"] serialsFit_withBrowser
  have hlast := hfollows.last _ 2000 3000
  exact absurd hlast (by decide +kernel)

end ResSched.Cgroup
