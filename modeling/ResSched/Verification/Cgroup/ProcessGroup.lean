import ResSched.Library.Transition
import ResSched.Model.Cgroup.ProcessGroup
import ResSched.Verification.Cgroup.Adjuster

/-! # Moves of processes and what is recorded of them

Which controllers count as enabled, and when the recorded group of a process is the group the
kernel has it in.
-/

namespace ResSched.CgroupSetting

/-! ## Which controllers are enabled -/

/-- The calls that ask whether controllers are enabled. -/
inductive EnableCall where
  | IsEnabled (name : String)
  | SetThreadSchedPolicy (tid : Int) (policy : Nat) (isThreadGroup : Bool)
  | FindAllEnableCgroupControllers

/-- The controllers a call asks, in order. -/
def CgroupMap.asked (cgroupMap : CgroupMap) : EnableCall → List CgroupController
  | .IsEnabled name => (cgroupMap.controllers_.lookup name).toList
  | .SetThreadSchedPolicy .. => cgroupMap.controllers
  | .FindAllEnableCgroupControllers => cgroupMap.controllers

/-- The map after a call. -/
def CgroupMap.step (kernel : Kernel) (cgroupMap : CgroupMap) : EnableCall → CgroupMap
  | .IsEnabled name =>
      match cgroupMap.controllers_.lookup name with
      | none => cgroupMap
      | some controller =>
          { cgroupMap with enabled := (controller.IsEnabled kernel cgroupMap.enabled).1 }
  | .SetThreadSchedPolicy tid policy isThreadGroup =>
      (cgroupMap.SetThreadSchedPolicy kernel tid policy isThreadGroup).1
  | .FindAllEnableCgroupControllers => (cgroupMap.FindAllEnableCgroupControllers kernel).1

/-- The call takes every controller as enabled or not by the controller's own tasks file. -/
def CgroupMap.AnswersForOwnPath (kernel : Kernel) (cgroupMap : CgroupMap) : EnableCall → Prop
  | .IsEnabled name =>
      ∀ controller, cgroupMap.controllers_.lookup name = some controller →
        (controller.IsEnabled kernel cgroupMap.enabled).2 = controller.hasTasks kernel
  | .SetThreadSchedPolicy tid policy isThreadGroup =>
      (cgroupMap.SetThreadSchedPolicy kernel tid policy isThreadGroup).2.1 =
        (cgroupMap.controllers.filter (CgroupController.hasTasks kernel)).map fun controller =>
          (controller, controller.SetThreadSchedPolicy kernel tid policy isThreadGroup)
  | .FindAllEnableCgroupControllers =>
      (cgroupMap.FindAllEnableCgroupControllers kernel).2.1 =
        cgroupMap.controllers.filter (CgroupController.hasTasks kernel)

theorem step_controllers (kernel : Kernel) (cgroupMap : CgroupMap) (call : EnableCall) :
    (cgroupMap.step kernel call).controllers_ = cgroupMap.controllers_ := by
  cases call with
  | IsEnabled name =>
      rw [CgroupMap.step]
      cases cgroupMap.controllers_.lookup name with
      | none => rfl
      | some controller => rfl
  | SetThreadSchedPolicy tid policy isThreadGroup => rfl
  | FindAllEnableCgroupControllers => rfl

theorem step_enabled (kernel : Kernel) (cgroupMap : CgroupMap) (call : EnableCall) :
    (cgroupMap.step kernel call).enabled =
      FirstAnswer.keptAfter (CgroupController.hasTasks kernel) cgroupMap.enabled
        (cgroupMap.asked call) := by
  cases call with
  | IsEnabled name =>
      rw [CgroupMap.step, CgroupMap.asked]
      cases cgroupMap.controllers_.lookup name with
      | none => simp [FirstAnswer.keptAfter]
      | some controller =>
          cases cgroupMap.enabled with
          | none => simp [FirstAnswer.keptAfter, CgroupController.IsEnabled, FirstAnswer.ask]
          | some b => simp [FirstAnswer.keptAfter, CgroupController.IsEnabled, FirstAnswer.ask]
  | SetThreadSchedPolicy tid policy isThreadGroup =>
      simp [CgroupMap.step, CgroupMap.SetThreadSchedPolicy, FirstAnswer.collect_eq,
        CgroupMap.asked]
  | FindAllEnableCgroupControllers =>
      simp [CgroupMap.step, CgroupMap.FindAllEnableCgroupControllers, FirstAnswer.collect_eq,
        CgroupMap.asked]

theorem answersForOwnPath_iff (kernel : Kernel) (cgroupMap : CgroupMap) (call : EnableCall) :
    cgroupMap.AnswersForOwnPath kernel call ↔
      FirstAnswer.Uniform (CgroupController.hasTasks kernel) cgroupMap.enabled
        (cgroupMap.asked call) := by
  cases call with
  | IsEnabled name =>
      rw [CgroupMap.AnswersForOwnPath, CgroupMap.asked]
      cases cgroupMap.controllers_.lookup name with
      | none => simpa using FirstAnswer.uniform_nil _ _
      | some controller =>
          rw [Option.toList_some, ← FirstAnswer.ask_snd_iff]
          simp [CgroupController.IsEnabled]
  | SetThreadSchedPolicy tid policy isThreadGroup =>
      exact FirstAnswer.collect_snd_iff (CgroupController.hasTasks kernel) _ cgroupMap.enabled
        cgroupMap.controllers
  | FindAllEnableCgroupControllers =>
      rw [CgroupMap.asked, ← FirstAnswer.collect_snd_iff _ id, List.map_id]
      rfl

/-- The controllers asked depend on the loaded ones only. -/
theorem asked_congr {cgroupMap cgroupMap' : CgroupMap}
    (h : cgroupMap'.controllers_ = cgroupMap.controllers_) (call : EnableCall) :
    cgroupMap'.asked call = cgroupMap.asked call := by
  cases call with
  | IsEnabled name => rw [CgroupMap.asked, CgroupMap.asked, h]
  | SetThreadSchedPolicy tid policy isThreadGroup =>
      rw [CgroupMap.asked, CgroupMap.asked, CgroupMap.controllers, CgroupMap.controllers, h]
  | FindAllEnableCgroupControllers =>
      rw [CgroupMap.asked, CgroupMap.asked, CgroupMap.controllers, CgroupMap.controllers, h]

theorem eachStep_answers_iff (kernel : Kernel) (calls : List EnableCall) (cgroupMap : CgroupMap) :
    Transition.EachStep (CgroupMap.step kernel) (CgroupMap.AnswersForOwnPath kernel) cgroupMap
        calls ↔
      FirstAnswer.Uniform (CgroupController.hasTasks kernel) cgroupMap.enabled
        (calls.flatMap cgroupMap.asked) := by
  induction calls generalizing cgroupMap with
  | nil => simpa using FirstAnswer.uniform_nil _ _
  | cons call calls ih =>
      have hasked : (cgroupMap.step kernel call).asked = cgroupMap.asked :=
        funext fun later => asked_congr (step_controllers kernel cgroupMap call) later
      rw [Transition.eachStep_cons, ih, List.flatMap_cons, FirstAnswer.uniform_append_iff,
        answersForOwnPath_iff, step_enabled, hasked]

/-- From the load of the configuration on, every call answers for the controllers' own paths if
and only if the controllers asked in all of them agree on whether they have a tasks file. -/
theorem answersForOwnPath_runs_iff (kernel : Kernel)
    (controllers_ : AssocMap String CgroupController) (calls : List EnableCall) :
    Transition.EachStep (CgroupMap.step kernel) (CgroupMap.AnswersForOwnPath kernel)
        ⟨controllers_, none⟩ calls ↔
      ∀ first ∈ calls.flatMap (CgroupMap.asked ⟨controllers_, none⟩),
        ∀ second ∈ calls.flatMap (CgroupMap.asked ⟨controllers_, none⟩),
          first.hasTasks kernel = second.hasTasks kernel := by
  rw [eachStep_answers_iff, FirstAnswer.uniform_none_iff]

theorem mem_controllers_iff (cgroupMap : CgroupMap) (controller : CgroupController) :
    controller ∈ cgroupMap.controllers ↔
      ∃ name, cgroupMap.controllers_.lookup name = some controller := by
  rw [CgroupMap.controllers, List.mem_filterMap]
  constructor
  · rintro ⟨name, -, hlookup⟩
    exact ⟨name, hlookup⟩
  · rintro ⟨name, hlookup⟩
    refine ⟨name, ?_, hlookup⟩
    rw [AssocMap.mem_ascendingKeys, AssocMap.mem_keys_iff]
    exact ⟨controller, hlookup⟩

/-- A controller with a tasks file and one without. -/
def twoControllers : AssocMap String CgroupController :=
  ((∅ : AssocMap String CgroupController).insert "cpuset" ⟨"cpuset", "/dev/cpuset", ∅, ∅⟩).insert
    "cpu" ⟨"cpu", "/dev/cpuctl", ∅, ∅⟩

def onlyCpuset : Kernel where
  access file := file = "/dev/cpuset/tasks"
  write _ value := ⟨value.length, 0⟩

theorem lookup_twoControllers (name : String) :
    twoControllers.lookup name =
      if name = "cpu" then some ⟨"cpu", "/dev/cpuctl", ∅, ∅⟩
      else if name = "cpuset" then some ⟨"cpuset", "/dev/cpuset", ∅, ∅⟩
      else none := by
  rw [twoControllers, AssocMap.lookup_insert_ite, AssocMap.lookup_insert_ite, AList.lookup_empty]

/-- Two controllers of different roots are both taken as the first one is. -/
theorem answersForOwnPath_counterexample :
    (∀ name name' controller controller',
      twoControllers.lookup name = some controller →
        twoControllers.lookup name' = some controller' → name ≠ name' →
          controller.path_ ≠ controller'.path_) ∧
      ¬ Transition.EachStep (CgroupMap.step onlyCpuset) (CgroupMap.AnswersForOwnPath onlyCpuset)
        ⟨twoControllers, none⟩ [.FindAllEnableCgroupControllers] := by
  refine ⟨?_, ?_⟩
  · intro name name' controller controller' h h' hne
    have hpath : ∀ name controller, twoControllers.lookup name = some controller →
        controller.path_ = "/dev/cpuctl" ∧ name = "cpu" ∨
          controller.path_ = "/dev/cpuset" ∧ name = "cpuset" := by
      intro name controller h
      rw [lookup_twoControllers] at h
      split_ifs at h with hcpu hcpuset
      · obtain rfl := Option.some.inj h
        exact Or.inl ⟨rfl, hcpu⟩
      · obtain rfl := Option.some.inj h
        exact Or.inr ⟨rfl, hcpuset⟩
    rcases hpath name controller h with ⟨hp, rfl⟩ | ⟨hp, rfl⟩
    · rcases hpath name' controller' h' with ⟨_, rfl⟩ | ⟨hp', rfl⟩
      · exact absurd rfl hne
      · rw [hp, hp']
        decide
    · rcases hpath name' controller' h' with ⟨hp', rfl⟩ | ⟨_, rfl⟩
      · rw [hp, hp']
        decide
      · exact absurd rfl hne
  · rw [eachStep_answers_iff, FirstAnswer.uniform_none_iff]
    intro h
    have hasked : ∀ name controller, twoControllers.lookup name = some controller →
        controller ∈ [EnableCall.FindAllEnableCgroupControllers].flatMap
          (CgroupMap.asked ⟨twoControllers, none⟩) := by
      intro name controller hlookup
      simpa [CgroupMap.asked] using (mem_controllers_iff ⟨twoControllers, none⟩ controller).mpr
        ⟨name, hlookup⟩
    have hcpu := hasked "cpu" ⟨"cpu", "/dev/cpuctl", ∅, ∅⟩ (by simp [lookup_twoControllers])
    have hcpuset := hasked "cpuset" ⟨"cpuset", "/dev/cpuset", ∅, ∅⟩
      (by simp [lookup_twoControllers])
    have hsame := h _ hcpu _ hcpuset
    simp [CgroupController.hasTasks, onlyCpuset] at hsame

/-! ## The recorded group of a process -/

open Cgroup (SchedPolicy ProcessRecord ApplyProcessGroup)

/-- The number of a policy. -/
def policyNumber : SchedPolicy → Nat
  | .SP_DEFAULT => 0
  | .SP_BACKGROUND => 1
  | .SP_FOREGROUND => 2
  | .SP_SYSTEM_BACKGROUND => 3
  | .SP_TOP_APP => 4
  | .SP_UPPER_LIMIT => SP_UPPER_LIMIT

/-- The adjuster on the path without the executor. -/
def directPath (env : Cgroup.External) (kernel : Kernel) (action : CgroupAction) :
    Cgroup.External :=
  { env with
    SetThreadGroupSchedPolicy := fun pid policy =>
      (SetThreadGroupSchedPolicy kernel action none pid (policyNumber policy)).2 }

/-- The controllers that count as enabled. -/
def CgroupAction.enabledControllers (kernel : Kernel) (action : CgroupAction) :
    List CgroupController :=
  (action.cgroupMap.FindAllEnableCgroupControllers kernel).2.1

/-- The kernel puts the process into the group the controller has for the policy, or says that
the process is exiting. -/
def CgroupController.Takes (kernel : Kernel) (controller : CgroupController) (pid : Int)
    (policy : Nat) : Prop :=
  0 ≤ controller.policyFd policy true ∧
    ((kernel.write (controller.policyFd policy true) (toString pid)).returned =
        (toString pid).length ∨
      (kernel.write (controller.policyFd policy true) (toString pid)).errno = ESRCH)

/-- A record changes its group only when every enabled controller takes the process, and a
controller that does not take it is reported and leaves the record as it is. -/
structure Recorded (env : Cgroup.External) (kernel : Kernel) (action : CgroupAction) (pid : Int)
    (record : ProcessRecord) : Prop where
  changed :
    (ApplyProcessGroup (directPath env kernel action) pid record).curSchedGroup ≠
        record.curSchedGroup →
      ∀ controller ∈ action.enabledControllers kernel,
        controller.Takes kernel pid (policyNumber record.setSchedGroup)
  failed :
    record.curSchedGroup ≠ record.setSchedGroup →
      (∃ controller ∈ action.enabledControllers kernel,
        ¬ controller.Takes kernel pid (policyNumber record.setSchedGroup)) →
        (SetThreadGroupSchedPolicy kernel action none pid
            (policyNumber record.setSchedGroup)).2 ≠ 0 ∧
          ApplyProcessGroup (directPath env kernel action) pid record = record

/-- No controller is asked to take the process. -/
def NotAsked (action : CgroupAction) (pid : Int) (policy : Nat) : Prop :=
  pid ≤ 0 ∨ action.IsSchedPolicyValid policy = false ∨ action.enable = false

theorem setThreadSchedPolicy_iff (kernel : Kernel) (controller : CgroupController) (pid : Int)
    (policy : Nat) :
    controller.SetThreadSchedPolicy kernel pid policy true = true ↔
      controller.Takes kernel pid policy := by
  simp only [CgroupController.SetThreadSchedPolicy, AddTidToCgroup, CgroupController.Takes]
  split_ifs with hfd hreturned herrno
  · exact iff_of_false (by simp) fun h => absurd h.1 (not_le.mpr hfd)
  · exact iff_of_true rfl ⟨not_lt.mp hfd, Or.inl hreturned⟩
  · exact iff_of_true rfl ⟨not_lt.mp hfd, Or.inr herrno⟩
  · exact iff_of_false (by simp) fun h => h.2.elim hreturned herrno

/-- The failures of the controllers get as far as the loop over the map. -/
theorem moves_eq (kernel : Kernel) (action : CgroupAction) (pid : Int) (policy : Nat)
    (hvalid : action.IsSchedPolicyValid policy = true) (henable : action.enable = true) :
    (action.SetThreadGroupSchedPolicy kernel pid policy).2.1 =
      (action.enabledControllers kernel).map fun controller =>
        (controller, controller.SetThreadSchedPolicy kernel pid policy true) := by
  simp only [CgroupAction.SetThreadGroupSchedPolicy, hvalid, henable, Bool.not_true,
    Bool.false_eq_true, if_false, CgroupMap.SetThreadSchedPolicy, CgroupAction.enabledControllers,
    CgroupMap.FindAllEnableCgroupControllers, FirstAnswer.collect_eq, List.map_id]
  split_ifs with henabled
  · rfl
  · rfl

/-- The direct path answers success whatever the controllers do. -/
theorem setThreadGroupSchedPolicy_iff (kernel : Kernel) (action : CgroupAction) (pid : Int)
    (policy : Nat) :
    (SetThreadGroupSchedPolicy kernel action none pid policy).2 ≠ 0 ↔
      NotAsked action pid policy := by
  rw [NotAsked, SetThreadGroupSchedPolicy]
  split_ifs with hpid
  · simp [hpid]
  · simp only [CgroupAction.SetThreadGroupSchedPolicy]
    cases hvalid : action.IsSchedPolicyValid policy with
    | false => simp
    | true =>
        cases henable : action.enable with
        | false => simp
        | true => simpa [CgroupMap.SetThreadSchedPolicy] using not_le.mp hpid

theorem applyProcessGroup_of_notAsked (env : Cgroup.External) (kernel : Kernel)
    (action : CgroupAction) (pid : Int) (record : ProcessRecord)
    (h : NotAsked action pid (policyNumber record.setSchedGroup)) :
    ApplyProcessGroup (directPath env kernel action) pid record = record := by
  rw [ApplyProcessGroup]
  split_ifs with hgroup hset
  · rfl
  · exact absurd ((setThreadGroupSchedPolicy_iff kernel action pid _).mpr h) hset
  · rfl

theorem applyProcessGroup_of_asked (env : Cgroup.External) (kernel : Kernel)
    (action : CgroupAction) (pid : Int) (record : ProcessRecord)
    (h : ¬ NotAsked action pid (policyNumber record.setSchedGroup)) :
    (ApplyProcessGroup (directPath env kernel action) pid record).curSchedGroup =
      record.setSchedGroup := by
  rw [ApplyProcessGroup]
  split_ifs with hgroup hset
  · exact absurd ((setThreadGroupSchedPolicy_iff kernel action pid _).mp hset) h
  · rfl
  · exact not_not.mp hgroup

/-- The record follows the kernel exactly when no move is asked for, or none fails. -/
theorem recorded_iff (env : Cgroup.External) (kernel : Kernel) (action : CgroupAction)
    (pid : Int) (record : ProcessRecord) :
    Recorded env kernel action pid record ↔
      record.curSchedGroup = record.setSchedGroup ∨
        NotAsked action pid (policyNumber record.setSchedGroup) ∨
        ∀ controller ∈ action.enabledControllers kernel,
          controller.Takes kernel pid (policyNumber record.setSchedGroup) := by
  constructor
  · intro h
    by_cases hgroup : record.curSchedGroup = record.setSchedGroup
    · exact Or.inl hgroup
    · by_cases hasked : NotAsked action pid (policyNumber record.setSchedGroup)
      · exact Or.inr (Or.inl hasked)
      · refine Or.inr (Or.inr (h.changed ?_))
        rw [applyProcessGroup_of_asked env kernel action pid record hasked]
        exact Ne.symm hgroup
  · rintro (hgroup | hasked | htakes)
    · refine ⟨?_, fun hne => absurd hgroup hne⟩
      intro hchanged
      rw [ApplyProcessGroup, if_neg (not_not.mpr hgroup)] at hchanged
      exact absurd rfl hchanged
    · have hkept := applyProcessGroup_of_notAsked env kernel action pid record hasked
      refine ⟨?_, ?_⟩
      · intro hchanged
        rw [hkept] at hchanged
        exact absurd rfl hchanged
      · intro _ _
        exact ⟨(setThreadGroupSchedPolicy_iff kernel action pid _).mpr hasked, hkept⟩
    · refine ⟨fun _ => htakes, ?_⟩
      rintro _ ⟨controller, hcontroller, hfails⟩
      exact absurd (htakes controller hcontroller) hfails

/-- A controller with a group for the top application. -/
def cpuset : CgroupController where
  name_ := "cpuset"
  path_ := "/dev/cpuset"
  policyToTaskFd_ := (∅ : AssocMap Nat Int).insert 4 8
  policyToProcFd_ := (∅ : AssocMap Nat Int).insert 4 7

def cpusetAction : CgroupAction where
  fullNames_ := (∅ : AssocMap Nat String).insert 4 "sp_top_app"
  enable := true
  cgroupMap := ⟨(∅ : AssocMap String CgroupController).insert "cpuset" cpuset, some true⟩

/-- Every write is refused with `EACCES`. -/
def refusing : Kernel where
  access _ := true
  write _ _ := ⟨-1, 13⟩

/-- The only write fails, and the record says that the process is in the new group. -/
theorem recorded_counterexample :
    ¬ Recorded Cgroup.framework refusing cpusetAction 100
      { ProcessRecord.new 0 with
        curSchedGroup := .SP_DEFAULT
        setSchedGroup := .SP_TOP_APP } := by
  intro h
  have hmem : cpuset ∈ cpusetAction.enabledControllers refusing := by
    have hcpuset : cpuset ∈ cpusetAction.cgroupMap.controllers :=
      (mem_controllers_iff _ _).mpr ⟨"cpuset", AList.lookup_insert _⟩
    simpa [CgroupAction.enabledControllers, CgroupMap.FindAllEnableCgroupControllers,
      FirstAnswer.collect_eq, FirstAnswer.keptAfter, cpusetAction] using hcpuset
  have hfails := h.failed (by decide)
    ⟨cpuset, hmem, by simp [CgroupController.Takes, refusing, ESRCH]⟩
  exact hfails.1 (by decide)

end ResSched.CgroupSetting
