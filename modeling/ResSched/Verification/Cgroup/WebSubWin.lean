import ResSched.Library.Transition
import ResSched.Model.Cgroup.WebSubWin

/-! # Time-outs of web sub-window tasks

When exactly every running web sub-window task has a time-out of its own.
-/

namespace ResSched.Cgroup

open Transition

/-! ## The specification -/

def DelayTask.process (task : DelayTask) : Int × Int :=
  (task.uid, task.pid)

/-- The process an event is a report about. -/
def WebSubWin.reported (world : WebSubWin) : WebSubWinEvent → Option (Int × Int)
  | .HandleReportWebSubWinTaskStatus _ payload => world.supervisor.webSubWinProcess payload
  | .timeout _ => none

/-- The event is an end report about the process, or its time-out. -/
def WebSubWin.Ends (world : WebSubWin) (process : Int × Int) : WebSubWinEvent → Prop
  | .HandleReportWebSubWinTaskStatus value payload =>
      value ≠ WEB_SUBWIN_CALL_START ∧ world.supervisor.webSubWinProcess payload = some process
  | .timeout handle =>
      ∃ task, world.queue.pending.lookup handle = some task ∧ task.process = process

/-- A run with, for every process, the handle of the task its latest start report posted. -/
structure WebSubWinRun where
  world : WebSubWin
  latestStart : AssocMap (Int × Int) Nat

def WebSubWinRun.start (supervisor : Supervisor) : WebSubWinRun :=
  ⟨.start supervisor, ∅⟩

def WebSubWinRun.handle (current : WebSubWinRun) (event : WebSubWinEvent) : WebSubWinRun where
  world := current.world.handle event
  latestStart :=
    match event with
    | .HandleReportWebSubWinTaskStatus value payload =>
        match current.world.supervisor.webSubWinProcess payload with
        | none => current.latestStart
        | some process =>
            if value = WEB_SUBWIN_CALL_START then
              current.latestStart.insert process current.world.queue.submitted
            else current.latestStart
    | .timeout _ => current.latestStart

/-- Every process whose state is set has a pending task of its own that its latest start report
posted. -/
def WebSubWinRun.Armed (current : WebSubWinRun) : Prop :=
  ∀ process ∈ current.world.webSubWinTaskState, ∃ handle task,
    current.latestStart.lookup process = some handle ∧
      current.world.queue.pending.lookup handle = some task ∧ task.process = process

/-- A report about a process leaves the pending tasks of the other processes where they are. -/
def OthersKept (world : WebSubWin) (event : WebSubWinEvent) : Prop :=
  ∀ process, world.reported event = some process → ∀ handle task,
    world.queue.pending.lookup handle = some task → task.process ≠ process →
      (world.handle event).queue.pending.lookup handle = some task

/-- A state is cleared by the end report or the time-out of the process only. -/
def EndsOwn (world : WebSubWin) (event : WebSubWinEvent) : Prop :=
  ∀ process ∈ world.webSubWinTaskState,
    process ∉ (world.handle event).webSubWinTaskState → world.Ends process event

/-- No other process whose state is set has the task name of the one a report is about. -/
def NoNamesake (world : WebSubWin) (event : WebSubWinEvent) : Prop :=
  ∀ process, world.reported event = some process → ∀ other ∈ world.webSubWinTaskState,
    webSubWinTaskName other.2 other.1 = webSubWinTaskName process.2 process.1 → other = process

/-! ## The delayed tasks -/

namespace DelayQueue

/-- The map holds the handles of exactly the pending tasks, and later tasks get new handles. -/
structure Mirrored (queue : DelayQueue) : Prop where
  mapped : ∀ taskName handle, queue.delayTaskMap.lookup taskName = some handle ↔
    ∃ task, queue.pending.lookup handle = some task ∧ task.taskName = taskName
  fresh : ∀ handle task, queue.pending.lookup handle = some task → handle < queue.submitted

variable {queue : DelayQueue} (h : queue.Mirrored)

include h

theorem Mirrored.handle_of_name {handle : Nat} {task : DelayTask}
    (hpending : queue.pending.lookup handle = some task) :
    queue.delayTaskMap.lookup task.taskName = some handle :=
  (h.mapped _ _).mpr ⟨task, hpending, rfl⟩

theorem lookup_RemoveTask (taskName : String) (handle : Nat) (task : DelayTask) :
    (queue.RemoveTask taskName).pending.lookup handle = some task ↔
      queue.pending.lookup handle = some task ∧ task.taskName ≠ taskName := by
  rw [RemoveTask]
  cases hname : queue.delayTaskMap.lookup taskName with
  | none =>
      refine (and_iff_left_of_imp ?_).symm
      rintro hpending rfl
      rw [h.handle_of_name hpending] at hname
      cases hname
  | some removed =>
      rw [AssocMap.lookup_erase_ite]
      obtain ⟨task', hremoved, htask'⟩ := (h.mapped _ _).mp hname
      split_ifs with hsame
      · subst hsame
        rw [hremoved]
        simp only [false_iff]
        rintro ⟨hpending, hother⟩
        obtain rfl := Option.some.inj hpending
        exact hother htask'
      · refine (and_iff_left_of_imp ?_).symm
        rintro hpending rfl
        rw [h.handle_of_name hpending] at hname
        exact hsame (Option.some.inj hname)

/-- A pending task is the only one of its name. -/
theorem Mirrored.unique {handle handle' : Nat} {task task' : DelayTask}
    (hpending : queue.pending.lookup handle = some task)
    (hpending' : queue.pending.lookup handle' = some task')
    (hname : task.taskName = task'.taskName) : handle = handle' := by
  have hmap := h.handle_of_name hpending
  rw [hname, h.handle_of_name hpending'] at hmap
  exact (Option.some.inj hmap).symm

theorem Mirrored.RemoveTask (taskName : String) : (queue.RemoveTask taskName).Mirrored := by
  constructor
  · intro name handle
    simp only [lookup_RemoveTask h]
    have hmapped := h.mapped name handle
    rw [DelayQueue.RemoveTask]
    cases hname : queue.delayTaskMap.lookup taskName with
    | none =>
        rw [hmapped]
        refine exists_congr fun task => ?_
        have hother : queue.pending.lookup handle = some task → task.taskName ≠ taskName := by
          rintro hpending rfl
          rw [h.handle_of_name hpending] at hname
          cases hname
        tauto
    | some removed =>
        rw [AssocMap.lookup_erase_ite]
        split_ifs with hsame
        · subst hsame
          simp only [false_iff, not_exists]
          rintro task ⟨⟨_, hother⟩, hequal⟩
          exact hother hequal
        · rw [hmapped]
          refine exists_congr fun task => ?_
          constructor
          · rintro ⟨hpending, rfl⟩
            exact ⟨⟨hpending, hsame⟩, rfl⟩
          · rintro ⟨⟨hpending, _⟩, hequal⟩
            exact ⟨hpending, hequal⟩
  · intro handle task hpending
    have hsubmitted : (queue.RemoveTask taskName).submitted = queue.submitted := by
      rw [DelayQueue.RemoveTask]
      cases queue.delayTaskMap.lookup taskName <;> rfl
    rw [hsubmitted]
    exact h.fresh handle task ((lookup_RemoveTask h taskName handle task).mp hpending).1

theorem Mirrored.finish {handle : Nat} {task : DelayTask}
    (hpending : queue.pending.lookup handle = some task) : (queue.finish handle task).Mirrored := by
  constructor
  · intro name handle'
    simp only [DelayQueue.finish, AssocMap.lookup_erase_ite]
    have hmapped := h.mapped name handle'
    by_cases hname : name = task.taskName
    · subst hname
      rw [if_pos rfl]
      simp only [false_iff, not_exists, reduceCtorEq]
      rintro task' ⟨hpending', hequal⟩
      split_ifs at hpending' with hsame
      exact hsame (h.unique hpending' hpending hequal)
    · rw [if_neg hname, hmapped]
      refine exists_congr fun task' => and_congr_left ?_
      rintro rfl
      by_cases hsame : handle' = handle
      · subst hsame
        rw [if_pos rfl, hpending]
        simp only [Option.some.injEq, reduceCtorEq, iff_false]
        rintro rfl
        exact hname rfl
      · rw [if_neg hsame]
  · intro handle' task' hpending'
    rw [DelayQueue.finish, AssocMap.lookup_erase_ite] at hpending'
    split_ifs at hpending'
    exact h.fresh handle' task' hpending'

/-- A task may be posted when none of its name is pending. -/
theorem Mirrored.PostTask {task : DelayTask}
    (hfree : ∀ handle task', queue.pending.lookup handle = some task' →
      task'.taskName ≠ task.taskName) : (queue.PostTask task).Mirrored := by
  constructor
  · intro name handle
    simp only [DelayQueue.PostTask, AssocMap.lookup_insert_ite]
    have hmapped := h.mapped name handle
    by_cases hhandle : handle = queue.submitted
    · subst hhandle
      rw [if_pos rfl]
      split_ifs with hname
      · simp [hname]
      · rw [hmapped]
        constructor
        · rintro ⟨task', hpending, _⟩
          exact absurd (h.fresh _ _ hpending) (lt_irrefl _)
        · rintro ⟨task', hposted, hequal⟩
          obtain rfl := Option.some.inj hposted
          exact absurd hequal.symm hname
    · rw [if_neg hhandle]
      split_ifs with hname
      · subst hname
        refine iff_of_false (fun hequal => hhandle (Option.some.inj hequal).symm) ?_
        rintro ⟨task', hpending, hequal⟩
        exact hfree handle task' hpending hequal
      · exact hmapped
  · intro handle task' hpending
    rw [DelayQueue.PostTask, AssocMap.lookup_insert_ite] at hpending
    split_ifs at hpending with hhandle
    · subst hhandle
      exact Nat.lt_succ_self _
    · exact Nat.lt_succ_of_lt (h.fresh handle task' hpending)

end DelayQueue

/-! ## What one event does -/

/-- What holds of the queue and the records at every time. -/
structure WebSubWin.Orderly (world : WebSubWin) : Prop where
  queue : world.queue.Mirrored
  named : ∀ handle task, world.queue.pending.lookup handle = some task →
    task.taskName = webSubWinTaskName task.pid task.uid
  known : ∀ handle task, world.queue.pending.lookup handle = some task →
    (world.supervisor.record? task.uid task.pid).isSome = true
  running : ∀ handle task, world.queue.pending.lookup handle = some task →
    task.process ∈ world.webSubWinTaskState

theorem record?_of_webSubWinProcess {supervisor : Supervisor} {payload : Payload}
    {process : Int × Int} (h : supervisor.webSubWinProcess payload = some process) :
    (supervisor.record? process.1 process.2).isSome = true := by
  simp only [Supervisor.webSubWinProcess, Option.bind_eq_bind, Option.bind_eq_some_iff] at h
  obtain ⟨pid, _, h⟩ := h
  split_ifs at h
  rw [Option.bind_eq_some_iff] at h
  obtain ⟨uid, hfind, h⟩ := h
  obtain rfl := Option.some.inj h
  exact List.find?_some (p := fun uid => (supervisor.record? uid pid).isSome) hfind

namespace WebSubWin

variable {world : WebSubWin}

theorem handle_supervisor (world : WebSubWin) (event : WebSubWinEvent) :
    (world.handle event).supervisor = world.supervisor := by
  cases event with
  | HandleReportWebSubWinTaskStatus value payload =>
      rw [handle, HandleReportWebSubWinTaskStatus]
      cases world.supervisor.webSubWinProcess payload with
      | none => rfl
      | some process =>
          dsimp only
          split_ifs <;> rfl
  | timeout handle =>
      rw [WebSubWin.handle]
      cases world.queue.pending.lookup handle with
      | none => rfl
      | some task =>
          dsimp only
          rw [CheckWebSubWinTaskStatus]
          cases world.supervisor.record? task.uid task.pid <;> rfl

section

variable {value : Int} {payload : Payload} {process : Int × Int}
  (h : world.supervisor.webSubWinProcess payload = some process)

include h

theorem lookup_report (hqueue : world.queue.Mirrored) (handle : Nat) (task : DelayTask) :
    (world.handle (.HandleReportWebSubWinTaskStatus value payload)).queue.pending.lookup handle =
        some task ↔
      if value = WEB_SUBWIN_CALL_START ∧ handle = world.queue.submitted then
        task = ⟨process.1, process.2, webSubWinTaskName process.2 process.1⟩
      else world.queue.pending.lookup handle = some task ∧
        task.taskName ≠ webSubWinTaskName process.2 process.1 := by
  have hsubmitted : (world.queue.RemoveTask
      (webSubWinTaskName process.2 process.1)).submitted = world.queue.submitted := by
    rw [DelayQueue.RemoveTask]
    cases world.queue.delayTaskMap.lookup (webSubWinTaskName process.2 process.1) <;> rfl
  rw [WebSubWin.handle, HandleReportWebSubWinTaskStatus, h]
  dsimp only
  by_cases hstart : value = WEB_SUBWIN_CALL_START
  · rw [if_pos hstart]
    simp only [hstart, true_and]
    rw [DelayQueue.PostTask, AssocMap.lookup_insert_ite, hsubmitted]
    split_ifs
    · rw [Option.some.injEq, eq_comm]
    · exact DelayQueue.lookup_RemoveTask hqueue _ handle task
  · rw [if_neg hstart, if_neg fun hboth => hstart hboth.1]
    exact DelayQueue.lookup_RemoveTask hqueue _ handle task

theorem mem_state_report (other : Int × Int) :
    other ∈ (world.handle (.HandleReportWebSubWinTaskStatus value payload)).webSubWinTaskState ↔
      if other = process then value = WEB_SUBWIN_CALL_START
      else other ∈ world.webSubWinTaskState := by
  rw [WebSubWin.handle, HandleReportWebSubWinTaskStatus, h]
  dsimp only
  split_ifs with hstart hother hother
  · simp [hstart, hother]
  · simp [hother]
  · simp [hstart, hother]
  · simp [hother]

theorem mirrored_report (hqueue : world.queue.Mirrored) :
    (world.handle (.HandleReportWebSubWinTaskStatus value payload)).queue.Mirrored := by
  rw [WebSubWin.handle, HandleReportWebSubWinTaskStatus, h]
  dsimp only
  split_ifs
  · refine (hqueue.RemoveTask _).PostTask ?_
    intro handle task hpending
    exact ((DelayQueue.lookup_RemoveTask hqueue _ handle task).mp hpending).2
  · exact hqueue.RemoveTask _

end

section

variable {handle : Nat} {task : DelayTask}
  (h : world.queue.pending.lookup handle = some task)

include h

theorem timeout_queue : (world.handle (.timeout handle)).queue = world.queue.finish handle task := by
  rw [WebSubWin.handle, h]

theorem lookup_timeout (handle' : Nat) :
    (world.handle (.timeout handle)).queue.pending.lookup handle' =
      if handle' = handle then none else world.queue.pending.lookup handle' := by
  rw [timeout_queue h, DelayQueue.finish, AssocMap.lookup_erase_ite]

theorem mem_state_timeout (horderly : world.Orderly) (other : Int × Int) :
    other ∈ (world.handle (.timeout handle)).webSubWinTaskState ↔
      other ≠ task.process ∧ other ∈ world.webSubWinTaskState := by
  obtain ⟨record, hrecord⟩ := Option.isSome_iff_exists.mp (horderly.known handle task h)
  rw [WebSubWin.handle, h]
  dsimp only
  rw [CheckWebSubWinTaskStatus, hrecord, Finset.mem_erase, DelayTask.process]

end

/-- Two pending tasks of one process are the same one. -/
theorem Orderly.handle_eq (horderly : world.Orderly) {handle handle' : Nat}
    {task task' : DelayTask} (h : world.queue.pending.lookup handle = some task)
    (h' : world.queue.pending.lookup handle' = some task') (hsame : task.process = task'.process) :
    handle = handle' := by
  rw [DelayTask.process, DelayTask.process, Prod.mk.injEq] at hsame
  refine horderly.queue.unique h h' ?_
  rw [horderly.named handle task h, horderly.named handle' task' h', hsame.1, hsame.2]

theorem orderly_start (supervisor : Supervisor) : (start supervisor).Orderly := by
  have hnone : ∀ handle task, (start supervisor).queue.pending.lookup handle ≠ some task :=
    fun _ _ hpending => by cases hpending
  constructor
  · constructor
    · intro taskName handle
      refine iff_of_false (fun hname => by cases hname) ?_
      rintro ⟨task, hpending, _⟩
      exact hnone handle task hpending
    · exact fun handle task hpending => absurd hpending (hnone handle task)
  · exact fun handle task hpending => absurd hpending (hnone handle task)
  · exact fun handle task hpending => absurd hpending (hnone handle task)
  · exact fun handle task hpending => absurd hpending (hnone handle task)

theorem orderly_handle (h : world.Orderly) (event : WebSubWinEvent) :
    (world.handle event).Orderly := by
  cases event with
  | HandleReportWebSubWinTaskStatus value payload =>
      cases hprocess : world.supervisor.webSubWinProcess payload with
      | none =>
          rw [handle, HandleReportWebSubWinTaskStatus, hprocess]
          exact h
      | some process =>
          -- A pending task is the new one or an old one of another name.
          refine ⟨mirrored_report hprocess h.queue, ?_, ?_, ?_⟩
          · intro handle task hpending
            rw [lookup_report hprocess h.queue] at hpending
            split_ifs at hpending
            · rw [hpending]
            · exact h.named handle task hpending.1
          · intro handle task hpending
            rw [lookup_report hprocess h.queue] at hpending
            rw [handle_supervisor]
            split_ifs at hpending
            · rw [hpending]
              exact record?_of_webSubWinProcess hprocess
            · exact h.known handle task hpending.1
          · intro handle task hpending
            rw [lookup_report hprocess h.queue] at hpending
            rw [mem_state_report hprocess]
            split_ifs at hpending with hnew
            · rw [if_pos (by rw [hpending, DelayTask.process])]
              exact hnew.1
            · rw [if_neg]
              · exact h.running handle task hpending.1
              · rintro rfl
                exact hpending.2 (h.named handle task hpending.1)
  | timeout handle =>
      cases hpending : world.queue.pending.lookup handle with
      | none =>
          rw [WebSubWin.handle, hpending]
          exact h
      | some task =>
          have hold : ∀ handle' task',
              (world.handle (.timeout handle)).queue.pending.lookup handle' = some task' →
                handle' ≠ handle ∧ world.queue.pending.lookup handle' = some task' := by
            intro handle' task' hlookup
            rw [lookup_timeout hpending] at hlookup
            split_ifs at hlookup with hsame
            exact ⟨hsame, hlookup⟩
          refine ⟨?_, ?_, ?_, ?_⟩
          · rw [timeout_queue hpending]
            exact h.queue.finish hpending
          · exact fun handle' task' hlookup => h.named handle' task' (hold handle' task' hlookup).2
          · intro handle' task' hlookup
            rw [handle_supervisor]
            exact h.known handle' task' (hold handle' task' hlookup).2
          · intro handle' task' hlookup
            obtain ⟨hother, hlookup⟩ := hold handle' task' hlookup
            rw [mem_state_timeout hpending h]
            refine ⟨?_, h.running handle' task' hlookup⟩
            exact fun hsame => hother (h.handle_eq hlookup hpending hsame)

/-- Whatever the task names are, only its own end report or time-out clears a state. -/
theorem endsOwn (h : world.Orderly) (event : WebSubWinEvent) : EndsOwn world event := by
  intro process hset hcleared
  cases event with
  | HandleReportWebSubWinTaskStatus value payload =>
      cases hprocess : world.supervisor.webSubWinProcess payload with
      | none =>
          rw [handle, HandleReportWebSubWinTaskStatus, hprocess] at hcleared
          exact absurd hset hcleared
      | some reported =>
          rw [mem_state_report hprocess] at hcleared
          split_ifs at hcleared with hsame
          · subst hsame
            exact ⟨hcleared, hprocess⟩
          · exact absurd hset hcleared
  | timeout handle =>
      cases hpending : world.queue.pending.lookup handle with
      | none =>
          rw [WebSubWin.handle, hpending] at hcleared
          exact absurd hset hcleared
      | some task =>
          rw [mem_state_timeout hpending h] at hcleared
          refine ⟨task, hpending, ?_⟩
          by_contra hother
          exact hcleared ⟨fun hsame => hother hsame.symm, hset⟩

end WebSubWin

/-! ## What a report does to the tasks of the others -/

theorem othersKept_iff {current : WebSubWinRun} (h : current.world.Orderly)
    (harmed : current.Armed) (event : WebSubWinEvent) :
    OthersKept current.world event ↔ NoNamesake current.world event := by
  cases event with
  | timeout handle => simp [OthersKept, NoNamesake, WebSubWin.reported]
  | HandleReportWebSubWinTaskStatus value payload =>
      refine forall₂_congr fun process hprocess => ?_
      simp only [WebSubWin.lookup_report hprocess h.queue]
      constructor
      · intro hkept other hother hname
        obtain ⟨handle, task, _, hpending, rfl⟩ := harmed other hother
        by_contra hdiffers
        have hstays := hkept handle task hpending hdiffers
        split_ifs at hstays with hnew
        · exact absurd (h.queue.fresh handle task hpending) (by omega)
        · exact hstays.2 ((h.named handle task hpending).trans hname)
      · intro hfree handle task hpending hdiffers
        rw [if_neg]
        · refine ⟨hpending, fun hname => hdiffers ?_⟩
          refine hfree task.process (h.running handle task hpending) ?_
          rw [← hname, h.named handle task hpending, DelayTask.process]
        · rintro ⟨_, rfl⟩
          exact absurd (h.queue.fresh _ task hpending) (lt_irrefl _)

theorem armed_handle {current : WebSubWinRun} (h : current.world.Orderly)
    (harmed : current.Armed) {event : WebSubWinEvent} (hfree : NoNamesake current.world event) :
    (current.handle event).Armed := by
  intro process hset
  cases event with
  | HandleReportWebSubWinTaskStatus value payload =>
      cases hprocess : current.world.supervisor.webSubWinProcess payload with
      | none =>
          simp only [WebSubWinRun.handle, WebSubWin.handle, HandleReportWebSubWinTaskStatus,
            hprocess] at hset ⊢
          exact harmed process hset
      | some reported =>
          simp only [WebSubWinRun.handle, hprocess] at hset ⊢
          simp only [WebSubWin.lookup_report hprocess h.queue]
          rw [WebSubWin.mem_state_report hprocess] at hset
          split_ifs at hset with hsame
          · -- The report has started the process.
            subst hsame
            refine ⟨current.world.queue.submitted,
              ⟨process.1, process.2, webSubWinTaskName process.2 process.1⟩, ?_, ?_, rfl⟩
            · rw [if_pos hset, AssocMap.lookup_insert_ite, if_pos rfl]
            · rw [if_pos ⟨hset, rfl⟩]
          · obtain ⟨handle, task, hlatest, hpending, rfl⟩ := harmed process hset
            refine ⟨handle, task, ?_, ?_, rfl⟩
            · split_ifs
              · rw [AssocMap.lookup_insert_ite, if_neg hsame, hlatest]
              · exact hlatest
            · have hfresh := h.queue.fresh handle task hpending
              rw [if_neg fun hnew => absurd hnew.2 (by omega)]
              refine ⟨hpending, fun hname => hsame ?_⟩
              refine hfree reported hprocess task.process hset ?_
              rw [← hname, h.named handle task hpending, DelayTask.process]
  | timeout handle =>
      cases hpending : current.world.queue.pending.lookup handle with
      | none =>
          simp only [WebSubWinRun.handle, WebSubWin.handle, hpending] at hset ⊢
          exact harmed process hset
      | some task =>
          simp only [WebSubWinRun.handle] at hset ⊢
          rw [WebSubWin.mem_state_timeout hpending h] at hset
          obtain ⟨handle', task', hlatest, hpending', rfl⟩ := harmed process hset.2
          refine ⟨handle', task', hlatest, ?_, rfl⟩
          rw [WebSubWin.lookup_timeout hpending, if_neg]
          · exact hpending'
          · rintro rfl
            obtain rfl := Option.some.inj (hpending.symm.trans hpending')
            exact hset.1 rfl

/-! ## Main result -/

/-- Throughout a run every process whose state is set has its own time-out pending, no report takes
the pending task of another process and only its own end or time-out clears a state, if and only if
no report is about a process that has the task name of another one whose state is set. -/
theorem timeouts_separate_iff (supervisor : Supervisor) (events : List WebSubWinEvent) :
    (EachStep WebSubWinRun.handle (fun current event =>
        OthersKept current.world event ∧ EndsOwn current.world event)
        (.start supervisor) events ∧
      Always WebSubWinRun.handle WebSubWinRun.Armed (.start supervisor) events) ↔
    EachStep WebSubWinRun.handle (fun current event => NoNamesake current.world event)
      (.start supervisor) events := by
  refine eachStep_and_always_iff WebSubWinRun.handle
    (R := fun current => current.world.Orderly ∧ current.Armed) (fun _ hinv => hinv.2) ?_ ?_ ?_
    events _ ⟨WebSubWin.orderly_start supervisor, ?_⟩
  · intro current event hinv hfree
    exact ⟨(othersKept_iff hinv.1 hinv.2 event).mpr hfree, WebSubWin.endsOwn hinv.1 event⟩
  · intro current event hinv hfree
    exact ⟨WebSubWin.orderly_handle hinv.1 event, armed_handle hinv.1 hinv.2 hfree⟩
  · intro current event hinv hstep _
    exact (othersKept_iff hinv.1 hinv.2 event).mp hstep.1
  · intro process hset
    cases hset

/-- Two applications with one process each. -/
def twoBrowsers (uid pid uid' pid' : Int) : Supervisor :=
  (Supervisor.start.withAppNonNull uid fun app => app.withRecordNonNull pid id).withAppNonNull uid'
    fun app => app.withRecordNonNull pid' id

def startReport (pid : String) : WebSubWinEvent :=
  .HandleReportWebSubWinTaskStatus WEB_SUBWIN_CALL_START (.object [("pid", .string pid)])

example : webSubWinTaskName 12 20020010 = webSubWinTaskName 12200 20010 := by decide +kernel

theorem namesake_disarms :
    ¬ ∀ supervisor events, EachStep WebSubWinRun.handle (fun current event =>
        OthersKept current.world event ∧ EndsOwn current.world event)
        (.start supervisor) events ∧
      Always WebSubWinRun.handle WebSubWinRun.Armed (.start supervisor) events := by
  intro h
  obtain ⟨hsteps, -⟩ := h (twoBrowsers 20020010 12 20010 12200)
    [startReport "12", startReport "12200"]
  -- The second report cancels the task of the first process.
  obtain ⟨hkept, -⟩ := hsteps [startReport "12"] (startReport "12200") (by simp)
  have hstays := hkept (20010, 12200) (by decide +kernel) 0
    ⟨20020010, 12, webSubWinTaskName 12 20020010⟩ (by decide +kernel) (by decide +kernel)
  exact absurd hstays (by decide +kernel)

end ResSched.Cgroup
