import ResSched.Library.BitFlags
import ResSched.Library.Transition
import ResSched.Verification.Cgroup.Adjuster

/-! # The flag of continuous tasks and the tasks that run -/

namespace ResSched.Cgroup

open CLibrary Transition

/-! ## The specification -/

/-- An ability of a process that can run a continuous task. -/
structure TaskAbility where
  uid : Int
  pid : Int
  abilityId : Int
deriving DecidableEq

/-- A continuous-task event: its value and its payload. -/
structure TaskEvent where
  value : Int
  payload : Payload

def unsigned? : Json String → Option Nat
  | .uint typeId => some typeId
  | _ => none

/-- The unsigned numbers among the type ids of a payload. -/
def listedIds (payload : Payload) : List Nat :=
  match payload.find? "typeIds" with
  | some (.array elements) => elements.filterMap unsigned?
  | _ => []

def ParseTask (payload : Payload) : Option TaskAbility := do
  let uid ← ParseValue "uid" payload
  let pid ← ParseValue "pid" payload
  let abilityId ← ParseValue "abilityId" payload
  return ⟨uid, pid, abilityId⟩

/-- The type ids in the latest event of each ability whose task has started and not ended. -/
abbrev Tasks := AssocMap TaskAbility (List Nat)

def Tasks.after (tasks : Tasks) (event : TaskEvent) : Tasks :=
  match ParseTask event.payload with
  | none => tasks
  | some ability =>
      if event.value = CONTINUOUS_TASK_START ∨ event.value = CONTINUOUS_TASK_UPDATE then
        tasks.insert ability (listedIds event.payload)
      else if event.value = CONTINUOUS_TASK_END then tasks.erase ability
      else tasks

/-- The records beside the tasks that run. -/
structure TaskRun where
  supervisor : Supervisor
  tasks : Tasks

def TaskRun.handle (env : External) (current : TaskRun) (event : TaskEvent) : TaskRun where
  supervisor :=
    current.supervisor.handle env (.HandleContinuousTaskStatus event.value event.payload)
  tasks := current.tasks.after event

/-- Some task of the process lists the type id. -/
def Tasks.Lists (tasks : Tasks) (uid pid : Int) (typeId : Nat) : Prop :=
  ∃ abilityId typeIds, tasks.lookup ⟨uid, pid, abilityId⟩ = some typeIds ∧ typeId ∈ typeIds

/-- A bit of `continuousTaskFlag_`. -/
def Supervisor.taskBit (supervisor : Supervisor) (uid pid : Int) (i : Nat) : Bool :=
  ((supervisor.record? uid pid).map fun record => record.continuousTaskFlag.getLsbD i).getD false

/-- Exactly the bits of the listed types are set. -/
def FlagsExact (current : TaskRun) : Prop :=
  ∀ uid pid i, i < 32 → (current.supervisor.taskBit uid pid i = true ↔
    current.tasks.Lists uid pid i)

/-- The flags have been computed with shifts by less than 32. -/
def ShiftsDefined (current : TaskRun) : Prop :=
  ∀ uid pid record, current.supervisor.record? uid pid = some record →
    ∀ abilityId typeIds, record.abilityIdAndContinuousTaskFlagMap.lookup abilityId = some typeIds →
      ∀ typeId ∈ typeIds, typeId < 32

/-- Cut to 32 bits, each listed type id is below 32 and listed as such. -/
def IdsFit (tasks : Tasks) : Prop :=
  ∀ uid pid typeId, tasks.Lists uid pid typeId →
    toUnsigned 32 typeId < 32 ∧ tasks.Lists uid pid (toUnsigned 32 typeId)

/-- No process has a continuous task yet. -/
def NoTasks (supervisor : Supervisor) : Prop :=
  ∀ uid pid record, supervisor.record? uid pid = some record →
    record.continuousTaskFlag = 0 ∧ record.abilityIdAndContinuousTaskFlagMap = ∅

/-! ## The flag of a map of lists -/

theorem getLsbD_continuousTaskFlagOf (taskFlags : AssocMap Int (List Nat)) {i : Nat}
    (hi : i < 32) : (continuousTaskFlagOf taskFlags).getLsbD i = true ↔
      ∃ abilityId typeIds, taskFlags.lookup abilityId = some typeIds ∧
        ∃ typeId ∈ typeIds, typeId % 32 = i := by
  have hlist : ∀ (flag : BitVec 32) (entry : (_ : Int) × List Nat),
      (entry.2.foldl (fun flag typeId => flag ||| (1#32 <<< (typeId % 32))) flag).getLsbD i =
        (flag.getLsbD i || entry.2.any fun typeId => decide (typeId % 32 = i)) :=
    fun flag entry => BitFlags.getLsbD_foldl
      (fun flag typeId => BitFlags.getLsbD_or_mask flag (typeId % 32) hi) entry.2 flag
  rw [continuousTaskFlagOf, BitFlags.getLsbD_foldl hlist]
  simp only [BitVec.ofNat_eq_ofNat, BitVec.getLsbD_zero, Bool.false_or, List.any_eq_true,
    decide_eq_true_eq]
  constructor
  · rintro ⟨⟨abilityId, typeIds⟩, hmem, hid⟩
    exact ⟨abilityId, typeIds, (AssocMap.mem_entries_iff _ _ _).mp hmem, hid⟩
  · rintro ⟨abilityId, typeIds, hlookup, hid⟩
    exact ⟨⟨abilityId, typeIds⟩, (AssocMap.mem_entries_iff _ _ _).mpr hlookup, hid⟩

/-! ## The tasks of a process -/

/-- The flag of a record and the lists it is computed from. -/
def taskFlags (record : ProcessRecord) : BitVec 32 × AssocMap Int (List Nat) :=
  (record.continuousTaskFlag, record.abilityIdAndContinuousTaskFlagMap)

def Supervisor.taskFlags? (supervisor : Supervisor) (uid pid : Int) :
    Option (BitVec 32 × AssocMap Int (List Nat)) :=
  (supervisor.record? uid pid).map taskFlags

/-- A flag that has just been computed. -/
def computed (lists : AssocMap Int (List Nat)) : BitVec 32 × AssocMap Int (List Nat) :=
  (continuousTaskFlagOf lists, lists)

theorem SupervisorRegrouped.taskFlags? {before after : Supervisor}
    (h : SupervisorRegrouped before after) (uid pid : Int) :
    after.taskFlags? uid pid = before.taskFlags? uid pid := by
  rw [Supervisor.taskFlags?, Supervisor.taskFlags?, record?_eq, record?_eq]
  cases hbefore : (before.app uid).pidsMap.lookup pid with
  | none => rw [(h uid).absent pid hbefore]
  | some record =>
      obtain ⟨record', hafter, _, _, _, rfl⟩ := (h uid).found pid record hbefore
      rw [hafter]
      rfl

/-- The lists of a process; a process without a record has none. -/
def Supervisor.taskLists (supervisor : Supervisor) (uid pid : Int) : AssocMap Int (List Nat) :=
  ((supervisor.taskFlags? uid pid).map Prod.snd).getD ∅

section

variable (supervisor : Supervisor) (uid pid abilityId : Int) (other otherPid : Int)

theorem taskFlags?_HandleContinuousTaskUpdate (typeIds : List Nat) :
    (HandleContinuousTaskUpdate supervisor uid pid typeIds abilityId).supervisor.taskFlags?
        other otherPid =
      if other = uid ∧ otherPid = pid then
        some (computed ((supervisor.taskLists uid pid).insert abilityId typeIds))
      else supervisor.taskFlags? other otherPid := by
  rw [Supervisor.taskFlags?, HandleContinuousTaskUpdate, record?_withRecordNonNullAdjusted]
  split_ifs with hsame
  · rw [Supervisor.taskLists, Supervisor.taskFlags?]
    cases supervisor.record? uid pid <;> rfl
  · rfl

theorem taskFlags?_HandleContinuousTaskCancel :
    (HandleContinuousTaskCancel supervisor uid pid abilityId).supervisor.taskFlags?
        other otherPid =
      if other = uid ∧ otherPid = pid then
        (supervisor.taskFlags? uid pid).map fun flags => computed (flags.2.erase abilityId)
      else supervisor.taskFlags? other otherPid := by
  have hrecords : ∀ u p, (supervisor.withAppNonNull uid id).record? u p =
      supervisor.record? u p := by
    intro u p
    rw [record?_eq, record?_eq, app_withAppNonNull]
    split_ifs with h
    · rw [h]
      rfl
    · rfl
  rw [Supervisor.taskFlags?, HandleContinuousTaskCancel, record?_withRecordAdjusted, hrecords,
    hrecords]
  split_ifs with hsame
  · rw [Supervisor.taskFlags?]
    cases supervisor.record? uid pid <;> rfl
  · rfl

end

/-! ## What the records hold of the tasks -/

/-- The lists of a process are those of its running tasks, cut to 32 bits, and every flag has been
computed from its lists. -/
structure Agrees (current : TaskRun) : Prop where
  stored : ∀ uid pid abilityId, (current.supervisor.taskLists uid pid).lookup abilityId =
    (current.tasks.lookup ⟨uid, pid, abilityId⟩).map
      (List.map fun typeId : Nat => toUnsigned 32 typeId)
  flags : ∀ uid pid flags, current.supervisor.taskFlags? uid pid = some flags →
    flags.1 = continuousTaskFlagOf flags.2

theorem GetTypeIdsFromJson_eq (payload : Payload) :
    GetTypeIdsFromJson payload "typeIds" =
      (listedIds payload).map fun typeId : Nat => toUnsigned 32 typeId := by
  rw [GetTypeIdsFromJson, listedIds]
  cases payload.find? "typeIds" with
  | none => rfl
  | some listed =>
      cases listed with
      | array elements =>
          simp only [List.map_filterMap]
          congr 1
          funext element
          cases element <;> rfl
      | _ => rfl

theorem agrees_start {supervisor : Supervisor} (h : NoTasks supervisor) :
    Agrees ⟨supervisor, ∅⟩ := by
  refine ⟨?_, ?_⟩
  · intro uid pid abilityId
    rw [Supervisor.taskLists, Supervisor.taskFlags?]
    cases hrecord : supervisor.record? uid pid with
    | none => rfl
    | some record =>
        have hlists := (h uid pid record hrecord).2
        simp only [Option.map_some, taskFlags, hlists]
        rfl
  · intro uid pid flags hflags
    obtain ⟨record, hrecord, rfl⟩ := Option.map_eq_some_iff.mp hflags
    obtain ⟨hflag, hlists⟩ := h uid pid record hrecord
    rw [taskFlags, hflag, hlists]
    rfl

/-- What an event does to the flag and the lists of each process. -/
theorem taskFlags?_handle (env : External) (supervisor : Supervisor) (event : TaskEvent)
    (uid pid : Int) :
    (supervisor.handle env (.HandleContinuousTaskStatus event.value event.payload)).taskFlags?
        uid pid =
      (HandleContinuousTaskStatus supervisor event.value event.payload).supervisor.taskFlags?
        uid pid :=
  SupervisorRegrouped.taskFlags? (handle_regrouped env supervisor _) uid pid

theorem HandleContinuousTaskStatus_of_none {event : TaskEvent} (supervisor : Supervisor)
    (h : ParseTask event.payload = none) :
    (HandleContinuousTaskStatus supervisor event.value event.payload).supervisor = supervisor := by
  revert h
  rw [ParseTask, HandleContinuousTaskStatus]
  cases ParseValue "uid" event.payload <;> cases ParseValue "pid" event.payload <;>
    cases ParseValue "abilityId" event.payload <;> intro h <;> first | rfl | cases h

theorem HandleContinuousTaskStatus_of_some {event : TaskEvent} {ability : TaskAbility}
    (supervisor : Supervisor) (h : ParseTask event.payload = some ability) :
    HandleContinuousTaskStatus supervisor event.value event.payload =
      if event.value = CONTINUOUS_TASK_START ∨ event.value = CONTINUOUS_TASK_UPDATE then
        HandleContinuousTaskUpdate supervisor ability.uid ability.pid
          ((listedIds event.payload).map fun typeId : Nat => toUnsigned 32 typeId)
          ability.abilityId
      else if event.value = CONTINUOUS_TASK_END then
        HandleContinuousTaskCancel supervisor ability.uid ability.pid ability.abilityId
      else supervisor.unchanged := by
  rw [← GetTypeIdsFromJson_eq]
  revert h
  rw [ParseTask, HandleContinuousTaskStatus]
  cases ParseValue "uid" event.payload <;> cases ParseValue "pid" event.payload <;>
    cases ParseValue "abilityId" event.payload <;> intro h <;> first | cases h; rfl | cases h

/-- What an event does to a flag and its lists carries over to the tasks. -/
theorem Agrees.of_taskFlags? {current after : TaskRun} (h : Agrees current)
    (hflags : ∀ uid pid, after.supervisor.taskFlags? uid pid =
      current.supervisor.taskFlags? uid pid) (htasks : after.tasks = current.tasks) :
    Agrees after := by
  refine ⟨?_, ?_⟩
  · intro uid pid abilityId
    rw [Supervisor.taskLists, hflags, htasks]
    exact h.stored uid pid abilityId
  · intro uid pid flags hsome
    rw [hflags] at hsome
    exact h.flags uid pid flags hsome

/-- The lists of one process may change together with the tasks of its abilities. -/
theorem Agrees.of_replaced {current after : TaskRun} (h : Agrees current) (uid pid : Int)
    (lists : Option (AssocMap Int (List Nat)))
    (hflags : ∀ other otherPid, after.supervisor.taskFlags? other otherPid =
      if other = uid ∧ otherPid = pid then lists.map computed
      else current.supervisor.taskFlags? other otherPid)
    (hstored : ∀ abilityId, (lists.getD ∅).lookup abilityId =
      (after.tasks.lookup ⟨uid, pid, abilityId⟩).map
        (List.map fun typeId : Nat => toUnsigned 32 typeId))
    (hothers : ∀ other otherPid abilityId, ¬(other = uid ∧ otherPid = pid) →
      after.tasks.lookup ⟨other, otherPid, abilityId⟩ =
        current.tasks.lookup ⟨other, otherPid, abilityId⟩) : Agrees after := by
  refine ⟨?_, ?_⟩
  · intro other otherPid abilityId
    rw [Supervisor.taskLists, hflags]
    by_cases hsame : other = uid ∧ otherPid = pid
    · obtain ⟨rfl, rfl⟩ := hsame
      rw [if_pos ⟨rfl, rfl⟩, ← hstored, Option.map_map]
      cases lists <;> rfl
    · rw [if_neg hsame, hothers _ _ _ hsame, ← h.stored, Supervisor.taskLists]
  · intro other otherPid flags hsome
    rw [hflags] at hsome
    by_cases hsame : other = uid ∧ otherPid = pid
    · rw [if_pos hsame] at hsome
      obtain ⟨_, _, rfl⟩ := Option.map_eq_some_iff.mp hsome
      rfl
    · rw [if_neg hsame] at hsome
      exact h.flags other otherPid flags hsome

theorem TaskAbility.ne_of_process {uid pid abilityId other otherPid otherId : Int}
    (h : ¬(other = uid ∧ otherPid = pid)) :
    (⟨other, otherPid, otherId⟩ : TaskAbility) ≠ ⟨uid, pid, abilityId⟩ := by
  intro heq
  injection heq with huid hpid _
  exact h ⟨huid, hpid⟩

theorem agrees_update {current after : TaskRun} (h : Agrees current) {uid pid abilityId : Int}
    {typeIds : List Nat}
    (hflags : ∀ other otherPid, after.supervisor.taskFlags? other otherPid =
      (HandleContinuousTaskUpdate current.supervisor uid pid
        (typeIds.map fun typeId : Nat => toUnsigned 32 typeId) abilityId).supervisor.taskFlags?
          other otherPid)
    (htasks : after.tasks = current.tasks.insert ⟨uid, pid, abilityId⟩ typeIds) :
    Agrees after := by
  refine h.of_replaced uid pid (some _)
    (fun other otherPid => (hflags other otherPid).trans (taskFlags?_HandleContinuousTaskUpdate ..))
    ?_ ?_
  · intro otherId
    rw [htasks, Option.getD_some, AssocMap.lookup_insert_ite, AssocMap.lookup_insert_ite]
    by_cases hid : otherId = abilityId
    · rw [if_pos hid, hid, if_pos rfl]
      rfl
    · rw [if_neg hid, if_neg fun heq => hid (TaskAbility.mk.inj heq).2.2]
      exact h.stored uid pid otherId
  · intro other otherPid otherId hother
    rw [htasks, AList.lookup_insert_ne (TaskAbility.ne_of_process hother)]

theorem agrees_cancel {current after : TaskRun} (h : Agrees current) {uid pid abilityId : Int}
    (hflags : ∀ other otherPid, after.supervisor.taskFlags? other otherPid =
      (HandleContinuousTaskCancel current.supervisor uid pid abilityId).supervisor.taskFlags?
        other otherPid)
    (htasks : after.tasks = current.tasks.erase ⟨uid, pid, abilityId⟩) : Agrees after := by
  have hlists : ∀ otherId, (((current.supervisor.taskFlags? uid pid).map
      fun flags : BitVec 32 × AssocMap Int (List Nat) =>
        flags.2.erase abilityId).getD ∅).lookup otherId =
        if otherId = abilityId then none
        else (current.supervisor.taskLists uid pid).lookup otherId := by
    intro otherId
    rw [Supervisor.taskLists]
    cases current.supervisor.taskFlags? uid pid with
    | none => exact (ite_self _).symm
    | some flags => exact AssocMap.lookup_erase_ite _ _ _
  refine h.of_replaced uid pid ((current.supervisor.taskFlags? uid pid).map
    fun flags => flags.2.erase abilityId) (fun other otherPid => ?_) ?_ ?_
  · rw [hflags, taskFlags?_HandleContinuousTaskCancel, Option.map_map]
    rfl
  · intro otherId
    rw [hlists, htasks, AssocMap.lookup_erase_ite]
    by_cases hid : otherId = abilityId
    · rw [if_pos hid, hid, if_pos rfl]
      rfl
    · rw [if_neg hid, if_neg fun heq => hid (TaskAbility.mk.inj heq).2.2]
      exact h.stored uid pid otherId
  · intro other otherPid otherId hother
    rw [htasks, AList.lookup_erase_ne (TaskAbility.ne_of_process hother)]

theorem agrees_handle (env : External) (current : TaskRun) (event : TaskEvent)
    (h : Agrees current) : Agrees (current.handle env event) := by
  have hflags := taskFlags?_handle env current.supervisor event
  cases hparse : ParseTask event.payload with
  | none =>
      refine h.of_taskFlags? (fun uid pid => ?_) ?_
      · rw [TaskRun.handle, hflags, HandleContinuousTaskStatus_of_none _ hparse]
      · rw [TaskRun.handle, Tasks.after, hparse]
  | some ability =>
      rw [HandleContinuousTaskStatus_of_some _ hparse] at hflags
      by_cases hupdate : event.value = CONTINUOUS_TASK_START ∨
          event.value = CONTINUOUS_TASK_UPDATE
      · rw [if_pos hupdate] at hflags
        refine agrees_update h hflags ?_
        simp only [TaskRun.handle, Tasks.after, hparse, if_pos hupdate]
      · rw [if_neg hupdate] at hflags
        by_cases hend : event.value = CONTINUOUS_TASK_END
        · rw [if_pos hend] at hflags
          refine agrees_cancel h hflags ?_
          simp only [TaskRun.handle, Tasks.after, hparse, if_neg hupdate, if_pos hend]
        · rw [if_neg hend] at hflags
          refine h.of_taskFlags? hflags ?_
          simp only [TaskRun.handle, Tasks.after, hparse, if_neg hupdate, if_neg hend]

theorem agrees_run (env : External) {supervisor : Supervisor} (h : NoTasks supervisor)
    (events : List TaskEvent) : Agrees (run (TaskRun.handle env) ⟨supervisor, ∅⟩ events) :=
  (always_of_step _ (agrees_handle env) events _ (agrees_start h)).last

theorem tasks_run (env : External) (events : List TaskEvent) (current : TaskRun) :
    (run (TaskRun.handle env) current events).tasks = run Tasks.after current.tasks events := by
  induction events generalizing current with
  | nil => rfl
  | cons event events ih => exact ih _

/-! ## When the flag is exact -/

theorem toUnsigned_of_lt {typeId : Nat} (h : typeId < 32) : toUnsigned 32 typeId = typeId := by
  rw [toUnsigned, show (Nat.pow 2 32 : Nat) = 4294967296 from rfl]
  omega


section

variable {current : TaskRun} (h : Agrees current)

include h

/-- The stored type ids of a process are the listed ones, cut to 32 bits. -/
theorem Agrees.exists_stored_iff (uid pid : Int) (P : Nat → Prop) :
    (∃ abilityId typeIds, (current.supervisor.taskLists uid pid).lookup abilityId = some typeIds ∧
        ∃ typeId ∈ typeIds, P typeId) ↔
      ∃ typeId : Nat, current.tasks.Lists uid pid typeId ∧ P (toUnsigned 32 typeId) := by
  constructor
  · rintro ⟨abilityId, stored, hstored, typeId, hmem, hP⟩
    rw [h.stored] at hstored
    obtain ⟨typeIds, htask, rfl⟩ := Option.map_eq_some_iff.mp hstored
    obtain ⟨listed, hlisted, rfl⟩ := List.mem_map.mp hmem
    exact ⟨listed, ⟨abilityId, typeIds, htask, hlisted⟩, hP⟩
  · rintro ⟨typeId, ⟨abilityId, typeIds, htask, hmem⟩, hP⟩
    refine ⟨abilityId, _, (h.stored uid pid abilityId).trans (congrArg _ htask), _,
      List.mem_map_of_mem hmem, hP⟩

theorem Agrees.taskBit_eq (uid pid : Int) (i : Nat) : current.supervisor.taskBit uid pid i =
    (continuousTaskFlagOf (current.supervisor.taskLists uid pid)).getLsbD i := by
  have hflags := h.flags uid pid
  rw [Supervisor.taskFlags?] at hflags
  rw [Supervisor.taskBit, Supervisor.taskLists, Supervisor.taskFlags?]
  cases hrecord : current.supervisor.record? uid pid with
  | none => exact (BitVec.getLsbD_zero).symm
  | some record =>
      rw [hrecord] at hflags
      exact congrArg (BitVec.getLsbD · i) (hflags _ rfl)

theorem Agrees.taskBit_iff (uid pid : Int) {i : Nat} (hi : i < 32) :
    current.supervisor.taskBit uid pid i = true ↔
      ∃ typeId : Nat, current.tasks.Lists uid pid typeId ∧ toUnsigned 32 typeId % 32 = i := by
  rw [h.taskBit_eq, getLsbD_continuousTaskFlagOf _ hi]
  exact h.exists_stored_iff uid pid (· % 32 = i)

theorem Agrees.shiftsDefined_iff : ShiftsDefined current ↔
    ∀ uid pid (typeId : Nat), current.tasks.Lists uid pid typeId → toUnsigned 32 typeId < 32 := by
  constructor
  · intro hdefined uid pid typeId hlists
    by_contra hlarge
    obtain ⟨abilityId, stored, hstored, id, hmem, hid⟩ :=
      (h.exists_stored_iff uid pid fun id => ¬id < 32).mpr ⟨typeId, hlists, hlarge⟩
    revert hstored
    rw [Supervisor.taskLists, Supervisor.taskFlags?]
    cases hrecord : current.supervisor.record? uid pid with
    | none =>
        intro hstored
        cases hstored
    | some record =>
        intro hstored
        exact hid (hdefined uid pid record hrecord abilityId stored hstored id hmem)
  · intro hsmall uid pid record hrecord abilityId stored hstored id hmem
    have hlookup : (current.supervisor.taskLists uid pid).lookup abilityId = some stored := by
      rw [Supervisor.taskLists, Supervisor.taskFlags?, hrecord]
      exact hstored
    obtain ⟨typeId, hlists, rfl⟩ := (h.exists_stored_iff uid pid fun other => other = id).mp
      ⟨abilityId, stored, hlookup, id, hmem, rfl⟩
    exact hsmall uid pid typeId hlists

theorem Agrees.exact_iff : FlagsExact current ∧ ShiftsDefined current ↔ IdsFit current.tasks := by
  rw [h.shiftsDefined_iff]
  constructor
  · rintro ⟨hexact, hdefined⟩ uid pid typeId hlists
    have hlt := hdefined uid pid typeId hlists
    refine ⟨hlt, (hexact uid pid _ hlt).mp ?_⟩
    exact (h.taskBit_iff uid pid hlt).mpr ⟨typeId, hlists, Nat.mod_eq_of_lt hlt⟩
  · intro hfit
    refine ⟨fun uid pid i hi => ?_, fun uid pid typeId hlists => (hfit uid pid typeId hlists).1⟩
    rw [h.taskBit_iff uid pid hi]
    constructor
    · rintro ⟨typeId, hlists, rfl⟩
      obtain ⟨hlt, hcut⟩ := hfit uid pid typeId hlists
      rwa [Nat.mod_eq_of_lt hlt]
    · intro hlists
      exact ⟨i, hlists, by rw [toUnsigned_of_lt hi, Nat.mod_eq_of_lt hi]⟩

end

/-- After each event the bits of the listed types are set and no shift by 32 or more has been
evaluated, if and only if after each event the listed ids fit. -/
theorem flag_exact_iff (env : External) {supervisor : Supervisor} (h : NoTasks supervisor)
    (events : List TaskEvent) :
    Always (TaskRun.handle env) (fun current => FlagsExact current ∧ ShiftsDefined current)
        ⟨supervisor, ∅⟩ events ↔ Always Tasks.after IdsFit ∅ events := by
  refine forall_congr' fun front => imp_congr_right fun _ => ?_
  have htasks := tasks_run env front ⟨supervisor, ∅⟩
  exact (agrees_run env h front).exact_iff.trans (by rw [htasks])

/-- Ids below 32 always fit. -/
theorem idsFit_of_small (events : List TaskEvent)
    (h : ∀ event ∈ events, ∀ typeId ∈ listedIds event.payload, typeId < 32) :
    Always Tasks.after IdsFit ∅ events := by
  have hstep : ∀ (tasks : Tasks) (event : TaskEvent),
      (∀ uid pid typeId, tasks.Lists uid pid typeId → typeId < 32) →
      (∀ typeId ∈ listedIds event.payload, typeId < 32) →
        ∀ uid pid typeId, (tasks.after event).Lists uid pid typeId → typeId < 32 := by
    rintro tasks event htasks hevent uid pid typeId ⟨abilityId, typeIds, hlookup, hmem⟩
    rw [Tasks.after] at hlookup
    cases hparse : ParseTask event.payload with
    | none =>
        rw [hparse] at hlookup
        exact htasks uid pid typeId ⟨abilityId, typeIds, hlookup, hmem⟩
    | some ability =>
        simp only [hparse] at hlookup
        split_ifs at hlookup with hupdate hend
        · rw [AssocMap.lookup_insert_ite] at hlookup
          split_ifs at hlookup
          · obtain rfl := Option.some.inj hlookup
            exact hevent typeId hmem
          · exact htasks uid pid typeId ⟨abilityId, typeIds, hlookup, hmem⟩
        · rw [AssocMap.lookup_erase_ite] at hlookup
          split_ifs at hlookup
          exact htasks uid pid typeId ⟨abilityId, typeIds, hlookup, hmem⟩
        · exact htasks uid pid typeId ⟨abilityId, typeIds, hlookup, hmem⟩
  have hempty : ∀ uid pid typeId, Tasks.Lists ∅ uid pid typeId → typeId < 32 := by
    rintro uid pid typeId ⟨_, _, hlookup, _⟩
    cases hlookup
  have hsmall := always_of_eachStep Tasks.after hstep events ∅ hempty
    ((eachStep_iff_forall_mem _ _ _ _).mpr h)
  refine hsmall.mono _ fun tasks hids uid pid typeId hlists => ?_
  have hlt := hids uid pid typeId hlists
  rw [toUnsigned_of_lt hlt]
  exact ⟨hlt, hlists⟩

theorem noTasks_start : NoTasks Supervisor.start := by
  intro uid pid record hrecord
  rw [record?_eq] at hrecord
  cases hrecord

/-- An event of one ability whose payload lists the type ids. -/
def taskEvent (value : Int) (typeIds : List Nat) : TaskEvent where
  value := value
  payload := .object [("uid", .string "2000"), ("pid", .string "3000"),
    ("abilityId", .string "1"), ("typeIds", .array (typeIds.map .uint))]

theorem shrunkList_flag_exact :
    Always (TaskRun.handle framework)
      (fun current => FlagsExact current ∧ ShiftsDefined current) ⟨Supervisor.start, ∅⟩
      [taskEvent CONTINUOUS_TASK_START [1, 3], taskEvent CONTINUOUS_TASK_UPDATE [3]] := by
  rw [flag_exact_iff framework noTasks_start]
  exact idsFit_of_small _ (by decide +kernel)

theorem largeId_shifts :
    ¬ ∀ env supervisor events, NoTasks supervisor → Always (TaskRun.handle env)
      (fun current => FlagsExact current ∧ ShiftsDefined current) ⟨supervisor, ∅⟩ events := by
  intro h
  obtain ⟨-, hdefined⟩ := (h framework Supervisor.start [taskEvent CONTINUOUS_TASK_START [35]]
    noTasks_start).last
  have hids : (((run (TaskRun.handle framework) ⟨Supervisor.start, ∅⟩
      [taskEvent CONTINUOUS_TASK_START [35]]).supervisor.record? 2000 3000).bind fun record =>
        record.abilityIdAndContinuousTaskFlagMap.lookup 1) = some [35] := by
    decide +kernel
  obtain ⟨record, hrecord, hlookup⟩ := Option.bind_eq_some_iff.mp hids
  exact absurd (hdefined 2000 3000 record hrecord 1 [35] hlookup 35 (by decide)) (by decide)

end ResSched.Cgroup
