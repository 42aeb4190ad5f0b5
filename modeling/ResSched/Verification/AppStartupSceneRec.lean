import ResSched.Library.SplitRuns
import ResSched.Library.Transition
import ResSched.Model.AppStartupSceneRec

/-! # Continuous start-ups are reported burst by burst -/

namespace ResSched.Startup

open SplitRuns Transition

/-! ## The specification -/

structure Start where
  uid : String
  bundleName : String
  time : Int
deriving DecidableEq

/-- A start follows another within the time-out. -/
def follows (earlier later : Start) : Bool :=
  decide (later.time - earlier.time < CONTINUOUS_START_TIME_OUT)

/-- The maximal runs of starts with gaps below the time-out. -/
def bursts (starts : List Start) : List (List Start) :=
  starts.splitBy follows

/-- A burst of enough starts of enough applications. -/
def Due (burst : List Start) : Prop :=
  MAX_CONTINUOUS_START_NUM ≤ burst.length ∧
    MAX_NO_REPEAT_APP_COUNT ≤ (burst.map Start.uid).toFinset.card

instance (burst : List Start) : Decidable (Due burst) :=
  inferInstanceAs (Decidable (_ ∧ _))

/-- What is reported of a burst. -/
def burstReports (ended : Bool) (burst : List Start) : List ContinuousStartupStatus :=
  if Due burst then
    .START_CONTINUOUS_STARTUP :: (if ended then [.STOP_CONTINUOUS_STARTUP] else [])
  else []

/-- What is to be reported of the starts; all bursts but the last one have ended. -/
def expected (starts : List Start) (ended : Bool) : List ContinuousStartupStatus :=
  (bursts starts).dropLast.flatMap (burstReports true) ++
    ((bursts starts).getLast?.map (burstReports ended)).getD []

/-- The system beside the starts, and whether the exit task of the last one has run since. -/
structure Watched where
  system : System
  starts : List Start
  ended : Bool

namespace Watched

def start : Watched where
  system := System.start
  starts := []
  ended := false

def handle (watched : Watched) (event : Event) : Watched where
  system := watched.system.handle event
  starts :=
    match event with
    | .RecordIsContinuousStartup uid bundleName curTime =>
        watched.starts ++ [⟨uid, bundleName, curTime⟩]
    | _ => watched.starts
  ended :=
    match event with
    | .RecordIsContinuousStartup _ _ _ => false
    | .beginExit _ => watched.ended
    | .runExit task =>
        watched.ended || decide (task ∈ watched.system.begun ∧ task + 1 = watched.starts.length)

end Watched

/-- Starts and stops alternate, beginning with a start. -/
structure Alternate (reports : List ContinuousStartupStatus) : Prop where
  first : reports.head? ≠ some .STOP_CONTINUOUS_STARTUP
  chain : reports.IsChain (· ≠ ·)

/-- The reports are those due for the bursts so far, they alternate, and no start of a burst that
goes on and is not reported has been cleared. -/
structure BurstsReported (watched : Watched) : Prop where
  reports : watched.system.scene.reports = expected watched.starts watched.ended
  alternate : Alternate watched.system.scene.reports
  kept : watched.ended = false → ∀ burst ∈ (bursts watched.starts).getLast?, ¬ Due burst →
    watched.system.scene.startPkgs = burst.map Start.bundleName

/-- The exit task of an earlier start does not run while the burst of the last one goes on, and a
start does not join a burst whose last exit task has run. -/
def ExitsLast (watched : Watched) : Event → Prop
  | .RecordIsContinuousStartup uid bundleName curTime =>
      ∀ last ∈ watched.starts.getLast?, follows last ⟨uid, bundleName, curTime⟩ = true →
        watched.ended = false
  | .beginExit _ => True
  | .runExit task =>
      task ∈ watched.system.begun → task + 1 = watched.starts.length ∨ watched.ended = true

/-! ## Bursts -/

theorem Due.concat {burst : List Start} (h : Due burst) (next : Start) :
    Due (burst ++ [next]) := by
  refine ⟨?_, h.2.trans (Finset.card_le_card ?_)⟩
  · rw [List.length_append]
    exact h.1.trans (Nat.le_add_right _ _)
  · intro uid
    simp only [List.map_append, List.toFinset_append, Finset.mem_union]
    exact Or.inl

theorem not_due_singleton (first : Start) : ¬ Due [first] := by
  rintro ⟨hlength, -⟩
  exact absurd hlength (by simp [MAX_CONTINUOUS_START_NUM])

theorem bursts_cases (starts : List Start) :
    starts = [] ∨ ∃ earlier last, last ≠ [] ∧ bursts starts = earlier ++ [last] := by
  rcases List.eq_nil_or_concat (bursts starts) with hnil | ⟨earlier, last, hconcat⟩
  · exact Or.inl (List.splitBy_eq_nil.mp hnil)
  · refine Or.inr ⟨earlier, last, ?_, by rw [hconcat, List.concat_eq_append]⟩
    rintro rfl
    exact List.nil_notMem_splitBy follows starts (by
      rw [← bursts, hconcat, List.concat_eq_append]
      exact List.mem_append_right _ (List.mem_singleton_self _))

theorem expected_eq {starts : List Start} {earlier : List (List Start)} {last : List Start}
    (h : bursts starts = earlier ++ [last]) (ended : Bool) :
    expected starts ended = earlier.flatMap (burstReports true) ++ burstReports ended last := by
  rw [expected, h, List.dropLast_concat, List.getLast?_concat]
  rfl

/-- A start that does not follow the last one opens a burst, and that of the last one has ended. -/
theorem expected_opened {starts : List Start} {next : Start}
    (h : ∀ last ∈ starts.getLast?, follows last next = false) :
    bursts (starts ++ [next]) = bursts starts ++ [[next]] ∧
      expected (starts ++ [next]) false = expected starts true := by
  have hbursts : bursts (starts ++ [next]) = bursts starts ++ [[next]] :=
    splitBy_concat_of_false h
  refine ⟨hbursts, ?_⟩
  rw [expected_eq hbursts, burstReports, if_neg (not_due_singleton next), List.append_nil]
  rcases bursts_cases starts with rfl | ⟨earlier, last, -, hsplit⟩
  · rfl
  · rw [expected_eq hsplit, hsplit, List.flatMap_append, List.flatMap_singleton]

theorem burstReports_of_due {burst : List Start} (h : Due burst) :
    burstReports false burst = [.START_CONTINUOUS_STARTUP] ∧
      burstReports true burst = [.START_CONTINUOUS_STARTUP, .STOP_CONTINUOUS_STARTUP] :=
  ⟨if_pos h, if_pos h⟩

theorem burstReports_of_not_due {burst : List Start} (h : ¬ Due burst) (ended : Bool) :
    burstReports ended burst = [] :=
  if_neg h

theorem burstReports_concat (burst : List Start) (next : Start) :
    burstReports false (burst ++ [next]) = burstReports false burst ++
      if ¬ Due burst ∧ Due (burst ++ [next]) then [.START_CONTINUOUS_STARTUP] else [] := by
  by_cases hdue : Due burst
  · rw [(burstReports_of_due hdue).1, (burstReports_of_due (hdue.concat next)).1,
      if_neg fun h => h.1 hdue]
    rfl
  · rw [burstReports_of_not_due hdue]
    by_cases hnext : Due (burst ++ [next])
    · rw [(burstReports_of_due hnext).1, if_pos ⟨hdue, hnext⟩]
      rfl
    · rw [burstReports_of_not_due hnext, if_neg fun h => hnext h.2]
      rfl

/-! ## The record of a burst -/

/-- The scene holds the record of a burst that goes on; of no start before it begins. -/
structure Records (scene : AppStartupSceneRec) (burst : List Start) : Prop where
  reported : scene.isReportContinuousStartup = decide (Due burst)
  startPkgs : ¬ Due burst → scene.startPkgs = burst.map Start.bundleName
  startUidSet : ¬ Due burst → scene.startUidSet = (burst.map Start.uid).toFinset

theorem clean_records (scene : AppStartupSceneRec) : Records scene.CleanRecordSceneData [] := by
  rw [AppStartupSceneRec.CleanRecordSceneData]
  dsimp only
  split_ifs with hreported
  · exact ⟨rfl, fun _ => rfl, fun _ => rfl⟩
  · refine ⟨?_, fun _ => rfl, fun _ => rfl⟩
    rw [Bool.not_eq_true] at hreported
    exact hreported

theorem clean_reports (scene : AppStartupSceneRec) : scene.CleanRecordSceneData.reports =
    scene.reports ++
      if scene.isReportContinuousStartup then [.STOP_CONTINUOUS_STARTUP] else [] := by
  rw [AppStartupSceneRec.CleanRecordSceneData]
  dsimp only
  split_ifs
  · rfl
  · exact (List.append_nil _).symm

theorem uids_concat (burst : List Start) (next : Start) :
    ((burst ++ [next]).map Start.uid).toFinset =
      insert next.uid (burst.map Start.uid).toFinset := by
  ext uid
  simp

theorem clean_lastAppStartTime (scene : AppStartupSceneRec) :
    scene.CleanRecordSceneData.lastAppStartTime = scene.lastAppStartTime := by
  rw [AppStartupSceneRec.CleanRecordSceneData]
  dsimp only
  split_ifs <;> rfl

section

variable {scene : AppStartupSceneRec} {burst : List Start} (h : Records scene burst)
  (next : Start)

include h

theorem countStart_of_due (hdue : Due burst) :
    scene.countStart next.uid next.bundleName next.time = { scene with
      lastAppStartTime := next.time, appStartCount := scene.appStartCount + 1 } := by
  have hreported : scene.isReportContinuousStartup = true :=
    h.reported.trans (decide_eq_true hdue)
  simp [AppStartupSceneRec.countStart, AppStartupSceneRec.UpdateAppStartupNum, hreported]

/-- Before it is reported, a burst is recorded start by start. -/
theorem update_of_not_due (hdue : ¬ Due burst) :
    scene.UpdateAppStartupNum next.uid next.time next.bundleName =
      { scene with
        lastAppStartTime := next.time
        appStartCount := scene.appStartCount + 1
        startPkgs := (burst ++ [next]).map Start.bundleName
        startUidSet := ((burst ++ [next]).map Start.uid).toFinset } := by
  have hunreported : scene.isReportContinuousStartup = false :=
    h.reported.trans (decide_eq_false hdue)
  rw [uids_concat, List.map_append, ← h.startPkgs hdue, ← h.startUidSet hdue]
  simp [AppStartupSceneRec.UpdateAppStartupNum, hunreported]

/-- A counted start joins the burst, which is reported when it becomes due. -/
theorem countStart_records :
    Records (scene.countStart next.uid next.bundleName next.time) (burst ++ [next]) ∧
      (scene.countStart next.uid next.bundleName next.time).reports = scene.reports ++
        if ¬ Due burst ∧ Due (burst ++ [next]) then [.START_CONTINUOUS_STARTUP] else [] := by
  by_cases hdue : Due burst
  · have hnext := hdue.concat next
    rw [countStart_of_due h next hdue, if_neg fun hnew => hnew.1 hdue, List.append_nil]
    refine ⟨⟨?_, fun hnot => absurd hnext hnot, fun hnot => absurd hnext hnot⟩, rfl⟩
    rw [decide_eq_true hnext]
    exact h.reported.trans (decide_eq_true hdue)
  · have hunreported : scene.isReportContinuousStartup = false :=
      h.reported.trans (decide_eq_false hdue)
    obtain ⟨updated, hupdated⟩ : ∃ updated,
        updated = scene.UpdateAppStartupNum next.uid next.time next.bundleName := ⟨_, rfl⟩
    have heq := hupdated.trans (update_of_not_due h next hdue)
    have hpkgs : updated.startPkgs = (burst ++ [next]).map Start.bundleName := by rw [heq]
    have huids : updated.startUidSet = ((burst ++ [next]).map Start.uid).toFinset := by rw [heq]
    have hflag : updated.isReportContinuousStartup = false := by
      rw [heq]
      exact hunreported
    have hreports : updated.reports = scene.reports := by rw [heq]
    have hcontinuous : updated.IsContinuousStartup = true ↔ Due (burst ++ [next]) := by
      simp only [AppStartupSceneRec.IsContinuousStartup, hpkgs, huids, Due, List.length_map,
        decide_eq_true_eq, ge_iff_le]
    rw [AppStartupSceneRec.countStart, ← hupdated]
    by_cases hnext : Due (burst ++ [next])
    · rw [if_pos ⟨hcontinuous.mpr hnext, hflag⟩, if_pos ⟨hdue, hnext⟩, ← hreports]
      exact ⟨⟨(decide_eq_true hnext).symm, fun hnot => absurd hnext hnot,
        fun hnot => absurd hnext hnot⟩, rfl⟩
    · rw [if_neg fun hnew => hnext (hcontinuous.mp hnew.1), if_neg fun hnew => hnext hnew.2,
        List.append_nil]
      exact ⟨⟨hflag.trans (decide_eq_false hnext).symm, fun _ => hpkgs, fun _ => huids⟩, hreports⟩

end

/-- A start that does not follow the last one in time comes after the record has been cleared. -/
theorem recordStart_eq (scene : AppStartupSceneRec) (next : Start) :
    scene.recordStart next.uid next.bundleName next.time =
      (if next.time - scene.lastAppStartTime < CONTINUOUS_START_TIME_OUT then scene
        else scene.CleanRecordSceneData).countStart next.uid next.bundleName next.time := by
  rw [AppStartupSceneRec.recordStart]
  by_cases hlate : next.time - scene.lastAppStartTime ≥ CONTINUOUS_START_TIME_OUT
  · rw [if_pos hlate, if_neg (not_lt.mpr hlate)]
  · rw [if_neg hlate, if_pos (not_le.mp hlate)]

theorem countStart_lastAppStartTime (scene : AppStartupSceneRec) (uid bundleName : String)
    (curTime : Int) : (scene.countStart uid bundleName curTime).lastAppStartTime = curTime := by
  simp only [AppStartupSceneRec.countStart, AppStartupSceneRec.UpdateAppStartupNum]
  split_ifs <;> rfl

/-! ## Alternation -/

/-- The flag tells which status was reported last. -/
structure Alternates (scene : AppStartupSceneRec) : Prop where
  reports : Alternate scene.reports
  flag : scene.isReportContinuousStartup = true ↔
    scene.reports.getLast? = some .START_CONTINUOUS_STARTUP

theorem Alternate.concat {reports : List ContinuousStartupStatus}
    {status : ContinuousStartupStatus} (h : Alternate reports)
    (hfirst : reports = [] → status ≠ .STOP_CONTINUOUS_STARTUP)
    (hlast : reports.getLast? ≠ some status) : Alternate (reports ++ [status]) := by
  refine ⟨?_, ?_⟩
  · cases reports with
    | nil => exact fun heq => hfirst rfl (Option.some.inj heq)
    | cons first rest => exact h.first
  · rw [List.isChain_append]
    refine ⟨h.chain, List.isChain_singleton _, ?_⟩
    rintro last hmem next hnext rfl
    obtain rfl : status = last := by simpa using hnext
    exact hlast hmem

theorem clean_alternates {scene : AppStartupSceneRec} (h : Alternates scene) :
    Alternates scene.CleanRecordSceneData := by
  rw [AppStartupSceneRec.CleanRecordSceneData]
  dsimp only
  split_ifs with hreported
  · have hlast := h.flag.mp hreported
    refine ⟨h.reports.concat ?_ ?_, ?_⟩
    · intro hnil
      rw [hnil] at hlast
      cases hlast
    · rw [hlast]
      exact fun heq => by cases heq
    · rw [List.getLast?_concat]
      exact iff_of_false Bool.false_ne_true fun heq => by cases heq
  · exact ⟨h.reports, h.flag⟩

theorem countStart_alternates {scene : AppStartupSceneRec} (h : Alternates scene)
    (uid bundleName : String) (curTime : Int) :
    Alternates (scene.countStart uid bundleName curTime) := by
  have hupdate : ∀ scene : AppStartupSceneRec, Alternates scene →
      Alternates (scene.UpdateAppStartupNum uid curTime bundleName) := by
    intro scene h
    rw [AppStartupSceneRec.UpdateAppStartupNum]
    dsimp only
    split_ifs <;> exact ⟨h.reports, h.flag⟩
  have hcounted := hupdate scene h
  rw [AppStartupSceneRec.countStart]
  split_ifs with hnew
  · have hlast := mt hcounted.flag.mpr (Bool.eq_false_iff.mp hnew.2)
    refine ⟨hcounted.reports.concat (fun _ heq => by cases heq) hlast, ?_⟩
    rw [List.getLast?_concat]
    exact iff_of_true rfl rfl
  · exact hcounted

theorem recordStart_alternates {scene : AppStartupSceneRec} (h : Alternates scene)
    (uid bundleName : String) (curTime : Int) :
    Alternates (scene.recordStart uid bundleName curTime) := by
  rw [AppStartupSceneRec.recordStart]
  split_ifs
  · exact countStart_alternates (clean_alternates h) uid bundleName curTime
  · exact countStart_alternates h uid bundleName curTime

/-! ## One event -/

namespace Watched

/-- The starts of the burst that goes on. -/
def current (watched : Watched) : List Start :=
  if watched.ended then [] else (bursts watched.starts).getLast?.getD []

/-- What holds before every event while the exit tasks leave the bursts that go on alone. -/
structure Tracked (watched : Watched) : Prop where
  reports : watched.system.scene.reports = expected watched.starts watched.ended
  alternates : Alternates watched.system.scene
  records : Records watched.system.scene watched.current
  lastTime : ∀ last ∈ watched.starts.getLast?,
    watched.system.scene.lastAppStartTime = last.time
  begun : ∀ task ∈ watched.system.queued ++ watched.system.begun, task < watched.starts.length
  submitted : watched.system.submitted = watched.starts.length

theorem current_of_ended {watched : Watched} (h : watched.ended = true) : watched.current = [] :=
  if_pos h

theorem current_of_not_ended {watched : Watched} {earlier : List (List Start)}
    {last : List Start} (h : watched.ended = false)
    (hbursts : bursts watched.starts = earlier ++ [last]) : watched.current = last := by
  rw [current, h, hbursts, List.getLast?_concat]
  rfl

theorem Tracked.burstsReported {watched : Watched} (h : watched.Tracked) :
    BurstsReported watched := by
  refine ⟨h.reports, h.alternates.reports, fun hended burst hburst hdue => ?_⟩
  have hcurrent : watched.current = burst := by
    rw [current, hended, Option.mem_def.mp hburst]
    rfl
  rw [h.records.startPkgs (hcurrent.symm ▸ hdue), hcurrent]

/-- Clearing the scene reports what remains to be reported of the last burst. -/
theorem Tracked.clean_reports {watched : Watched} (h : watched.Tracked) :
    watched.system.scene.CleanRecordSceneData.reports = expected watched.starts true := by
  rw [Startup.clean_reports, h.reports, h.records.reported]
  cases hended : watched.ended with
  | true =>
      rw [current_of_ended hended]
      exact List.append_nil _
  | false =>
      rcases bursts_cases watched.starts with hnil | ⟨earlier, last, -, hbursts⟩
      · rw [hnil, current, hended, hnil]
        rfl
      · rw [current_of_not_ended hended hbursts, expected_eq hbursts, expected_eq hbursts,
          List.append_assoc]
        congr 1
        by_cases hdue : Due last
        · rw [(burstReports_of_due hdue).1, (burstReports_of_due hdue).2, decide_eq_true hdue]
          rfl
        · rw [burstReports_of_not_due hdue, burstReports_of_not_due hdue, decide_eq_false hdue]
          rfl

theorem cancelExit_scene (system : System) : system.cancelExit.scene =
    { system.scene with exitContinuousStartupTask := none } := by
  obtain ⟨⟨_, _, _, _, _, exit, _⟩, _, _, _⟩ := system
  cases exit <;> rfl

theorem cancelExit_rest (system : System) : system.cancelExit.queued ⊆ system.queued ∧
    system.cancelExit.begun = system.begun ∧ system.cancelExit.submitted = system.submitted := by
  rw [System.cancelExit]
  cases system.scene.exitContinuousStartupTask with
  | none => exact ⟨List.Subset.refl _, rfl, rfl⟩
  | some task => exact ⟨List.erase_subset, rfl, rfl⟩

/-- The cancellation of the exit task changes nothing that is tracked. -/
theorem Tracked.cancel {watched : Watched} (h : watched.Tracked) :
    Tracked { watched with system := watched.system.cancelExit } := by
  obtain ⟨hqueued, hbegun, hsubmitted⟩ := cancelExit_rest watched.system
  have hscene := cancelExit_scene watched.system
  refine ⟨?_, ?_, ?_, ?_, ?_, hsubmitted.trans h.submitted⟩
  · rw [hscene]
    exact h.reports
  · rw [hscene]
    exact ⟨h.alternates.reports, h.alternates.flag⟩
  · rw [hscene]
    exact ⟨h.records.reported, h.records.startPkgs, h.records.startUidSet⟩
  · rw [hscene]
    exact h.lastTime
  · intro task htask
    rw [hbegun] at htask
    refine h.begun task ?_
    rcases List.mem_append.mp htask with hold | hold
    · exact List.mem_append_left _ (hqueued hold)
    · exact List.mem_append_right _ hold

/-- The event of a start. -/
def record (next : Start) : Event :=
  .RecordIsContinuousStartup next.uid next.bundleName next.time

section

variable {watched : Watched} (h : watched.Tracked) (next : Start)

include h

/-- The start and its burst decide what is tracked after its record. -/
theorem tracked_record {burst : List Start}
    (hrecords : Records (watched.system.cancelExit.scene.recordStart next.uid next.bundleName
      next.time) burst)
    (hcurrent : (bursts (watched.starts ++ [next])).getLast? = some burst)
    (hreports : (watched.system.cancelExit.scene.recordStart next.uid next.bundleName
      next.time).reports = expected (watched.starts ++ [next]) false) :
    Tracked (watched.handle (record next)) := by
  obtain ⟨hqueued, hbegun, hsubmitted⟩ := cancelExit_rest watched.system
  have halternates := recordStart_alternates h.cancel.alternates next.uid next.bundleName next.time
  refine ⟨hreports, ⟨halternates.reports, halternates.flag⟩, ?_, ?_, ?_, ?_⟩
  · have hburst : (watched.handle (record next)).current = burst := by
      change ((bursts (watched.starts ++ [next])).getLast?.getD []) = burst
      rw [hcurrent]
      rfl
    rw [hburst]
    exact ⟨hrecords.reported, hrecords.startPkgs, hrecords.startUidSet⟩
  · intro last hlast
    obtain rfl : next = last := by simpa [handle, record] using hlast
    change (watched.system.cancelExit.scene.recordStart _ _ _).lastAppStartTime = next.time
    rw [recordStart_eq, countStart_lastAppStartTime]
  · intro task htask
    change task < (watched.starts ++ [next]).length
    rw [List.length_append, List.length_singleton]
    change task ∈ (watched.system.cancelExit.queued ++ [watched.system.cancelExit.submitted]) ++
      watched.system.cancelExit.begun at htask
    rw [hbegun, hsubmitted, h.submitted] at htask
    simp only [List.mem_append, List.mem_singleton] at htask
    rcases htask with (hold | rfl) | hold
    · exact Nat.lt_succ_of_lt (h.begun task (List.mem_append_left _ (hqueued hold)))
    · exact Nat.lt_succ_self _
    · exact Nat.lt_succ_of_lt (h.begun task (List.mem_append_right _ hold))
  · change watched.system.cancelExit.submitted + 1 = (watched.starts ++ [next]).length
    rw [hsubmitted, h.submitted, List.length_append, List.length_singleton]

/-- A start that opens a burst finds the scene cleared of the last one. -/
theorem record_opened_tracked
    (hopened : ∀ last ∈ watched.starts.getLast?, follows last next = false) :
    Tracked (watched.handle (record next)) := by
  obtain ⟨hbursts, hexpected⟩ := expected_opened hopened
  have hcancel := h.cancel
  have hbase : ∃ base : AppStartupSceneRec, Records base [] ∧
      base.reports = expected watched.starts true ∧
      watched.system.cancelExit.scene.recordStart next.uid next.bundleName next.time =
        base.countStart next.uid next.bundleName next.time := by
    have hrecord := recordStart_eq watched.system.cancelExit.scene next
    by_cases hgap : next.time - watched.system.cancelExit.scene.lastAppStartTime <
        CONTINUOUS_START_TIME_OUT
    · rw [if_pos hgap] at hrecord
      have hnil : watched.starts = [] := by
        rw [← List.getLast?_eq_none_iff, Option.eq_none_iff_forall_ne_some]
        intro last hlast
        rw [hcancel.lastTime last hlast] at hgap
        exact absurd (hopened last hlast) (Bool.not_eq_false _ ▸ decide_eq_true hgap)
      have hcurrent : watched.current = [] := by
        rw [current, hnil]
        exact ite_self _
      refine ⟨_, hcurrent ▸ hcancel.records, hcancel.reports.trans ?_, hrecord⟩
      rw [hnil]
      rfl
    · rw [if_neg hgap] at hrecord
      exact ⟨_, clean_records _, hcancel.clean_reports, hrecord⟩
  obtain ⟨base, hrecords, hreports, hrecord⟩ := hbase
  obtain ⟨hnext, hnextReports⟩ := countStart_records hrecords next
  rw [← hrecord] at hnext hnextReports
  refine tracked_record h next hnext ?_ ?_
  · rw [hbursts, List.getLast?_concat]
    rfl
  · rw [hnextReports, hreports, hexpected, if_neg fun hdue => not_due_singleton next hdue.2,
      List.append_nil]

/-- A start that follows the last one joins its burst. -/
theorem record_joined_tracked {last : Start} (hlast : watched.starts.getLast? = some last)
    (hfollows : follows last next = true) (hended : watched.ended = false) :
    Tracked (watched.handle (record next)) := by
  have hcancel := h.cancel
  rcases bursts_cases watched.starts with hnil | ⟨earlier, burst, -, hbursts⟩
  · rw [hnil] at hlast
    cases hlast
  · have hjoined : bursts (watched.starts ++ [next]) = earlier ++ [burst ++ [next]] := by
      refine splitBy_concat_of_true hbursts fun other hother => ?_
      rw [hlast] at hother
      obtain rfl := Option.some.inj hother
      exact hfollows
    have hgap : next.time - watched.system.cancelExit.scene.lastAppStartTime <
        CONTINUOUS_START_TIME_OUT := by
      rw [hcancel.lastTime last hlast]
      exact of_decide_eq_true hfollows
    have hrecord := recordStart_eq watched.system.cancelExit.scene next
    rw [if_pos hgap] at hrecord
    have hrecords : Records watched.system.cancelExit.scene burst := by
      have hcurrent := hcancel.records
      rwa [current_of_not_ended (by exact hended) (by exact hbursts)] at hcurrent
    obtain ⟨hnext, hnextReports⟩ := countStart_records hrecords next
    rw [← hrecord] at hnext hnextReports
    refine tracked_record h next hnext ?_ ?_
    · rw [hjoined, List.getLast?_concat]
    · rw [hnextReports, hcancel.reports, expected_eq hjoined, burstReports_concat, hended,
        expected_eq hbursts, List.append_assoc]

end

theorem beginExit_of_absent {watched : Watched} {task : Nat} (h : task ∉ watched.system.queued) :
    watched.handle (.beginExit task) = watched := by
  have hsystem : watched.system.handle (.beginExit task) = watched.system := if_neg h
  simp only [handle, hsystem]

theorem runExit_of_absent {watched : Watched} {task : Nat} (h : task ∉ watched.system.begun) :
    watched.handle (.runExit task) = watched := by
  have hsystem : watched.system.handle (.runExit task) = watched.system := if_neg h
  simp only [handle, hsystem, h, false_and, decide_false, Bool.or_false]

theorem beginExit_tracked {watched : Watched} (h : watched.Tracked) (task : Nat) :
    Tracked (watched.handle (.beginExit task)) := by
  by_cases hqueued : task ∈ watched.system.queued
  · have hsystem : (watched.handle (.beginExit task)).system = { watched.system with
        queued := watched.system.queued.erase task
        begun := watched.system.begun ++ [task] } := if_pos hqueued
    refine ⟨?_, ?_, ?_, ?_, ?_, ?_⟩
    · rw [hsystem]
      exact h.reports
    · rw [hsystem]
      exact h.alternates
    · rw [hsystem]
      exact h.records
    · rw [hsystem]
      exact h.lastTime
    · rw [hsystem]
      intro other hother
      refine h.begun other ?_
      simp only [List.mem_append, List.mem_singleton] at hother ⊢
      rcases hother with hother | hother | rfl
      · exact Or.inl (List.mem_of_mem_erase hother)
      · exact Or.inr hother
      · exact Or.inl hqueued
    · rw [hsystem]
      exact h.submitted
  · rw [beginExit_of_absent hqueued]
    exact h

/-- The exit task of the last start ends its burst; once it is over an exit task finds nothing to
clear. -/
theorem runExit_tracked {watched : Watched} (h : watched.Tracked) {task : Nat}
    (hexits : ExitsLast watched (.runExit task)) :
    Tracked (watched.handle (.runExit task)) := by
  by_cases hbegun : task ∈ watched.system.begun
  · have hended : (watched.handle (.runExit task)).ended = true := by
      rcases hexits hbegun with hlast | hended
      · exact Bool.or_eq_true_iff.mpr (Or.inr (decide_eq_true ⟨hbegun, hlast⟩))
      · exact Bool.or_eq_true_iff.mpr (Or.inl hended)
    have hsystem : (watched.handle (.runExit task)).system = { watched.system with
        scene := watched.system.scene.CleanRecordSceneData
        begun := watched.system.begun.erase task } := if_pos hbegun
    refine ⟨?_, ?_, ?_, ?_, ?_, ?_⟩
    · rw [hended, hsystem]
      exact h.clean_reports
    · rw [hsystem]
      exact clean_alternates h.alternates
    · rw [current_of_ended hended, hsystem]
      exact clean_records _
    · rw [hsystem]
      exact fun last hlast => (clean_lastAppStartTime _).trans (h.lastTime last hlast)
    · rw [hsystem]
      intro other hother
      refine h.begun other ?_
      simp only [List.mem_append] at hother ⊢
      exact hother.imp_right List.mem_of_mem_erase
    · rw [hsystem]
      exact h.submitted
  · rw [runExit_of_absent hbegun]
    exact h

theorem handle_tracked {watched : Watched} (h : watched.Tracked) (event : Event)
    (hexits : ExitsLast watched event) : Tracked (watched.handle event) := by
  cases event with
  | RecordIsContinuousStartup uid bundleName curTime =>
      cases hlast : watched.starts.getLast? with
      | none =>
          refine record_opened_tracked h ⟨uid, bundleName, curTime⟩ fun last hmem => ?_
          rw [hlast] at hmem
          cases hmem
      | some last =>
          cases hfollows : follows last ⟨uid, bundleName, curTime⟩ with
          | false =>
              refine record_opened_tracked h ⟨uid, bundleName, curTime⟩ fun other hmem => ?_
              rw [hlast] at hmem
              obtain rfl := Option.some.inj hmem
              exact hfollows
          | true =>
              exact record_joined_tracked h ⟨uid, bundleName, curTime⟩ hlast hfollows
                (hexits last hlast hfollows)
  | beginExit task => exact beginExit_tracked h task
  | runExit task => exact runExit_tracked h hexits

/-! ## What an exit task of an earlier start does -/

theorem expected_ne_of_ended {starts : List Start} {earlier : List (List Start)}
    {last : List Start} (hbursts : bursts starts = earlier ++ [last]) (hdue : Due last) :
    expected starts true ≠ expected starts false := by
  rw [expected_eq hbursts, expected_eq hbursts, (burstReports_of_due hdue).1,
    (burstReports_of_due hdue).2]
  intro heq
  cases List.append_cancel_left heq

/-- Clearing the scene while a burst goes on loses its starts or reports its end. -/
theorem exitsLast_of_runExit {watched : Watched} (h : watched.Tracked) {task : Nat}
    (hafter : BurstsReported (watched.handle (.runExit task))) :
    ExitsLast watched (.runExit task) := by
  intro hbegun
  by_contra hneither
  obtain ⟨hother, hended⟩ := not_or.mp hneither
  have hgoes : (watched.handle (.runExit task)).ended = false := by
    rw [Bool.not_eq_true] at hended
    change (watched.ended || decide (task ∈ watched.system.begun ∧
      task + 1 = watched.starts.length)) = false
    rw [hended, decide_eq_false fun hlast => hother hlast.2]
    rfl
  have hscene : (watched.handle (.runExit task)).system.scene =
      watched.system.scene.CleanRecordSceneData := by
    simp only [handle, System.handle, if_pos hbegun]
  have hlt := h.begun task (List.mem_append_right _ hbegun)
  rcases bursts_cases watched.starts with hnil | ⟨earlier, last, hne, hbursts⟩
  · rw [hnil] at hlt
    exact absurd hlt (Nat.not_lt_zero _)
  · have hdue : ¬ Due last := by
      intro hdue
      have hreports := hafter.reports
      rw [hscene, hgoes, h.clean_reports] at hreports
      exact expected_ne_of_ended hbursts hdue hreports
    have hkept := hafter.kept hgoes last
      (by rw [handle, hbursts, List.getLast?_concat]; rfl) hdue
    rw [hscene, (clean_records _).startPkgs (by decide)] at hkept
    exact hne (List.map_eq_nil_iff.mp hkept.symm)

/-- A start that joins a burst whose record has been cleared is recorded as its first. -/
theorem exitsLast_of_record {watched : Watched} (h : watched.Tracked) (next : Start)
    (hafter : BurstsReported (watched.handle (record next))) : ExitsLast watched (record next) := by
  intro last hlast hfollows
  by_contra hended
  rw [Bool.not_eq_false] at hended
  have hcancel := h.cancel
  rcases bursts_cases watched.starts with hnil | ⟨earlier, burst, hne, hbursts⟩
  · rw [hnil] at hlast
    cases hlast
  · have hjoined : bursts (watched.starts ++ [next]) = earlier ++ [burst ++ [next]] := by
      refine splitBy_concat_of_true hbursts fun other hother => ?_
      rw [hlast] at hother
      obtain rfl := Option.some.inj hother
      exact hfollows
    have hgap : next.time - watched.system.cancelExit.scene.lastAppStartTime <
        CONTINUOUS_START_TIME_OUT := by
      rw [hcancel.lastTime last hlast]
      exact of_decide_eq_true hfollows
    have hrecord := recordStart_eq watched.system.cancelExit.scene next
    rw [if_pos hgap] at hrecord
    have hrecords : Records watched.system.cancelExit.scene [] := by
      have hcurrent := hcancel.records
      rwa [current_of_ended (by exact hended)] at hcurrent
    obtain ⟨hnext, hnextReports⟩ := countStart_records hrecords next
    rw [← hrecord] at hnext hnextReports
    have hdue : ¬ Due (burst ++ [next]) := by
      intro hdue
      have hreports : (watched.system.cancelExit.scene.recordStart next.uid next.bundleName
          next.time).reports = expected (watched.starts ++ [next]) false := hafter.reports
      rw [hnextReports, if_neg fun hnew => not_due_singleton next hnew.2, List.append_nil,
        hcancel.reports, hended, expected_eq hbursts, expected_eq hjoined,
        (burstReports_of_due hdue).1] at hreports
      have hburst := List.append_cancel_left hreports
      by_cases hearly : Due burst
      · rw [(burstReports_of_due hearly).2] at hburst
        cases hburst
      · rw [burstReports_of_not_due hearly] at hburst
        cases hburst
    have hkept : (watched.system.cancelExit.scene.recordStart next.uid next.bundleName
        next.time).startPkgs = (burst ++ [next]).map Start.bundleName :=
      hafter.kept rfl (burst ++ [next]) (by
        change (bursts (watched.starts ++ [next])).getLast? = _
        rw [hjoined, List.getLast?_concat]) hdue
    rw [hnext.startPkgs (not_due_singleton next), List.nil_append, List.map_append,
      List.map_singleton] at hkept
    have hlength := congrArg List.length hkept
    rw [List.length_append, List.length_map] at hlength
    exact hne (List.length_eq_zero_iff.mp (by simpa using hlength))

theorem exitsLast_of_burstsReported (watched : Watched) (event : Event) (h : watched.Tracked)
    (hafter : BurstsReported (watched.handle event)) : ExitsLast watched event := by
  cases event with
  | RecordIsContinuousStartup uid bundleName curTime =>
      exact exitsLast_of_record h ⟨uid, bundleName, curTime⟩ hafter
  | beginExit task => trivial
  | runExit task => exact exitsLast_of_runExit h hafter

/-! ## Runs -/

theorem created_alternates : Alternates AppStartupSceneRec.created := by
  refine ⟨⟨?_, List.isChain_nil⟩, iff_of_false ?_ ?_⟩
  · exact fun heq => by cases heq
  · exact Bool.false_ne_true
  · exact fun heq => by cases heq

theorem start_tracked : Tracked start where
  reports := rfl
  alternates := created_alternates
  records := ⟨rfl, fun _ => rfl, fun _ => rfl⟩
  lastTime := fun _ hlast => by cases hlast
  begun := fun _ htask => by cases htask
  submitted := rfl

/-- Over every order of starts and exit tasks, each burst is reported when it becomes due and when
it ends and no burst that goes on is cleared, if and only if an exit task runs only for the last
start, and no start joins its burst afterwards. -/
theorem bursts_reported_iff (events : List Event) :
    Always handle BurstsReported start events ↔ EachStep handle ExitsLast start events :=
  always_iff_eachStep_of_strong handle (fun _ h => h.burstsReported)
    (fun _ event h hexits => handle_tracked h event hexits)
    (fun watched event h hafter => exitsLast_of_burstsReported watched event h hafter)
    events start start_tracked

/-- The exit task of the fifth start has begun when the sixth start takes the lock, less than the
time-out after the fifth. -/
def lateExit : List Event :=
  [.RecordIsContinuousStartup "1" "a" 20000000, .RecordIsContinuousStartup "2" "b" 21000000,
    .RecordIsContinuousStartup "3" "c" 22000000, .RecordIsContinuousStartup "4" "d" 23000000,
    .RecordIsContinuousStartup "1" "a" 24000000, .beginExit 4,
    .RecordIsContinuousStartup "5" "e" 38999999, .runExit 4]

theorem lateExit_stops_burst : ¬ ∀ events, Always handle BurstsReported start events := by
  intro h
  have hreports := (h lateExit).last.reports
  have hstopped : (run handle start lateExit).system.scene.reports =
      [.START_CONTINUOUS_STARTUP, .STOP_CONTINUOUS_STARTUP] := by
    decide +kernel
  have hexpected : expected (run handle start lateExit).starts (run handle start lateExit).ended =
      [.START_CONTINUOUS_STARTUP] := by
    decide +kernel
  rw [hstopped, hexpected] at hreports
  cases hreports

end Watched

end ResSched.Startup
