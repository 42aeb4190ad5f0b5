import ResSched.Library.HandleStore
import ResSched.Library.Transition
import ResSched.Model.Cgroup.LoadPolicies

/-! # Descriptors of the scheduling policies

When exactly every policy has both descriptors or none, and no descriptor is lost.
-/

namespace ResSched.CgroupSetting

open Transition

/-! ## The specification -/

/-- The two files of a policy. -/
inductive PolicyFile where
  | tasks
  | procs
deriving DecidableEq

def PolicyFile.name : PolicyFile → String
  | .tasks => "tasks"
  | .procs => "cgroup.procs"

/-- The descriptor of a policy, if it is set. -/
def CgroupController.fd? (controller : CgroupController) (policy : Nat) (file : PolicyFile) :
    Option Int :=
  ((match file with
    | .tasks => controller.policyToTaskFd_
    | .procs => controller.policyToProcFd_).lookup policy).filter fun fd => fd ≠ -1

def FileAnswer.opened (answer : FileAnswer) : Bool :=
  answer.resolves && answer.opens

def PolicyAnswers.bothOpened (answers : PolicyAnswers) : Bool :=
  answers.tasks.opened && answers.procs.opened

/-- An object of a configuration, and how its files answer. -/
structure CgroupEntry where
  cgroupObj : Json String
  answers : Nat → PolicyAnswers

/-- The name, the path and the policies of an entry that is not skipped. -/
def CgroupEntry.config (entry : CgroupEntry) : Option (String × String × Json String) :=
  (CheckCgroupConfigFormat entry.cgroupObj).filter fun config =>
    config.1 ≠ "" && config.2.1 ≠ ""

/-- The subgroup an entry gives a policy, both of whose files open. -/
def CgroupEntry.subgroup? (fullNames : AssocMap Nat String) (entry : CgroupEntry) (name : String)
    (policy : Nat) : Option String :=
  entry.config.bind fun found =>
    if found.1 = name ∧ (entry.answers policy).bothOpened = true then
      ((configuredPolicies fullNames found.2.2).find? fun config => config.1 = policy).map Prod.snd
    else none

/-- The subgroup of the last entry for which both files open. -/
def lastSubgroup (fullNames : AssocMap Nat String) (entries : List CgroupEntry) (name : String)
    (policy : Nat) : Option String :=
  entries.foldl (fun last entry => (entry.subgroup? fullNames name policy).or last) none

/-- The files a configuration object makes the map open. -/
structure ConfigObject where
  jsonObj : Json String
  answers : Nat → Nat → PolicyAnswers

def ConfigObject.entries (object : ConfigObject) : List CgroupEntry :=
  match object.jsonObj.find? JSON_KEY_CGROUPS with
  | some (.array objects) => objects.zipIdx.map fun cgroup => ⟨cgroup.1, object.answers cgroup.2⟩
  | _ => []

/-- Every policy of a controller has both descriptors or none; they are those of the files in its
last subgroup; and every open descriptor is stored. -/
structure LoadedMap.AllOrNothing (loaded : LoadedMap) (last : String → Nat → Option String) :
    Prop where
  paired : ∀ name controller, loaded.controllers_.lookup name = some controller → ∀ policy,
    ((controller.fd? policy .tasks).isSome ↔ (controller.fd? policy .procs).isSome)
  subgroup : ∀ name controller, loaded.controllers_.lookup name = some controller →
    ∀ policy file, match last name policy with
      | none => controller.fd? policy file = none
      | some subgroup => ∃ fd, controller.fd? policy file = some fd ∧
          loaded.opened.lookup fd = some (controller.filePath subgroup file.name)
  stored : ∀ fd file, loaded.opened.lookup fd = some file → ∃ name controller policy file',
    loaded.controllers_.lookup name = some controller ∧ controller.fd? policy file' = some fd

/-- In an entry that is kept, every policy whose tasks file opens has its procs file open, too, and
was not set before. An entry is kept when its controller is there or when both files of one of its
policies open. -/
def EntryInOrder (fullNames : AssocMap Nat String) (loaded : LoadedMap) (entry : CgroupEntry) :
    Prop :=
  ∀ name rootPath policyObj, entry.config = some (name, rootPath, policyObj) →
    ((loaded.controllers_.lookup name).isSome = true ∨
      ∃ config ∈ configuredPolicies fullNames policyObj,
        (entry.answers config.1).bothOpened = true) →
    ∀ config ∈ configuredPolicies fullNames policyObj,
      (entry.answers config.1).tasks.opened = true →
        (entry.answers config.1).procs.opened = true ∧
          ∀ controller, loaded.controllers_.lookup name = some controller →
            controller.fd? config.1 .tasks = none

def LoadedMap.loadEntry (allocator : Allocator) (fullNames : AssocMap Nat String)
    (loaded : LoadedMap) (entry : CgroupEntry) : LoadedMap :=
  (loaded.LoadCgroup allocator fullNames entry.cgroupObj entry.answers).2

def LoadedMap.load (allocator : Allocator) (fullNames : AssocMap Nat String) (loaded : LoadedMap)
    (object : ConfigObject) : LoadedMap :=
  (loaded.LoadConfigFromJsonObj allocator fullNames object.jsonObj object.answers).2

/-! ## The store of descriptors -/

/-- Where a descriptor is stored. -/
structure Place where
  name : String
  policy : Nat
  file : PolicyFile
deriving DecidableEq

abbrev Store := HandleStore Place Int String

def storeOf (controllers : AssocMap String CgroupController) (opened : AssocMap Int String) :
    Store where
  kept := fun place =>
    (controllers.lookup place.name).bind fun controller => controller.fd? place.policy place.file
  opened := opened.lookup

/-- The store with the controller that is being loaded. -/
def Loading.store (controllers : AssocMap String CgroupController) (name : String)
    (loading : Loading) : Store :=
  storeOf (controllers.insert name loading.controller) loading.opened

/-- Every policy with a procs descriptor has a tasks descriptor. -/
def Led (s : Store) : Prop :=
  ∀ name policy, s.kept ⟨name, policy, .procs⟩ ≠ none → s.kept ⟨name, policy, .tasks⟩ ≠ none

/-- Some policy has a tasks descriptor only. -/
def Half (s : Store) : Prop :=
  ∃ name policy, s.kept ⟨name, policy, .tasks⟩ ≠ none ∧ s.kept ⟨name, policy, .procs⟩ = none

/-- A descriptor is lost, or a policy is only half set. -/
def Bad (s : Store) : Prop :=
  s.Leaks ∨ Half s

/-- What adding a policy does to the store, as its files answer. -/
inductive Added (name : String) (policy : Nat) (path : PolicyFile → String)
    (answers : PolicyAnswers) (s : Store) : Store → Prop where
  | failed (htasks : answers.tasks.opened = false) : Added name policy path answers s s
  | tasksOnly (htasks : answers.tasks.opened = true) (hprocs : answers.procs.opened = false)
      (fd : Int) (hfresh : s.opened fd = none) :
      Added name policy path answers s (s.put ⟨name, policy, .tasks⟩ fd (path .tasks))
  | both (htasks : answers.tasks.opened = true) (hprocs : answers.procs.opened = true)
      (fd fd' : Int) (hfresh : s.opened fd = none)
      (hfresh' : (s.put ⟨name, policy, .tasks⟩ fd (path .tasks)).opened fd' = none) :
      Added name policy path answers s ((s.put ⟨name, policy, .tasks⟩ fd (path .tasks)).put
        ⟨name, policy, .procs⟩ fd' (path .procs))

section

variable {name : String} {policy : Nat} {path : PolicyFile → String} {answers : PolicyAnswers}
  {s s' : Store} (hadded : Added name policy path answers s s')

include hadded

theorem Added.sound (h : s.Sound) : s'.Sound := by
  cases hadded with
  | failed => exact h
  | tasksOnly _ _ fd hfresh => exact h.put hfresh
  | both _ _ fd fd' hfresh hfresh' => exact (h.put hfresh).put hfresh'

/-- The places of the other policies keep what they keep. -/
theorem Added.frame {place : Place} (hother : (place.name, place.policy) ≠ (name, policy)) :
    s'.kept place = s.kept place := by
  have hne : ∀ file, place ≠ ⟨name, policy, file⟩ := by
    rintro file rfl
    exact hother rfl
  cases hadded with
  | failed => rfl
  | tasksOnly => rw [HandleStore.kept_put_of_ne (hne _)]
  | both => rw [HandleStore.kept_put_of_ne (hne _), HandleStore.kept_put_of_ne (hne _)]

/-- What is open stays open on the same file. -/
theorem Added.opened {fd : Int} {file : String} (hopen : s.opened fd = some file) :
    s'.opened fd = some file := by
  cases hadded with
  | failed => exact hopen
  | tasksOnly _ _ _ hfresh => exact HandleStore.opened_put_of_some hfresh hopen
  | both _ _ _ _ hfresh hfresh' =>
      exact HandleStore.opened_put_of_some hfresh' (HandleStore.opened_put_of_some hfresh hopen)

/-- No place is emptied. -/
theorem Added.kept {place : Place} (hkept : s.kept place ≠ none) : s'.kept place ≠ none := by
  have hput : ∀ (t : Store) other fd file, t.kept place ≠ none →
      (t.put other fd file).kept place ≠ none := by
    intro t other fd file ht
    by_cases hsame : place = other
    · rw [hsame, HandleStore.kept_put_self]
      exact Option.some_ne_none fd
    · rwa [HandleStore.kept_put_of_ne hsame]
  cases hadded with
  | failed => exact hkept
  | tasksOnly => exact hput _ _ _ _ hkept
  | both => exact hput _ _ _ _ (hput _ _ _ _ hkept)

/-- The tasks descriptor comes first. -/
theorem Added.led (h : Led s) : Led s' := by
  intro other otherPolicy hprocs
  by_cases hsame : (other, otherPolicy) = (name, policy)
  · obtain ⟨rfl, rfl⟩ := Prod.mk.inj hsame
    cases hadded with
    | failed => exact h _ _ hprocs
    | tasksOnly =>
        rw [HandleStore.kept_put_self]
        exact Option.some_ne_none _
    | both =>
        rw [HandleStore.kept_put_of_ne (by simp), HandleStore.kept_put_self]
        exact Option.some_ne_none _
  · rw [hadded.frame hsame] at hprocs ⊢
    exact h _ _ hprocs

theorem Added.leaks (h : s.Leaks) : s'.Leaks := by
  cases hadded with
  | failed => exact h
  | tasksOnly _ _ _ hfresh => exact h.put hfresh
  | both _ _ _ _ hfresh hfresh' => exact (h.put hfresh).put hfresh'

/-- A policy that is set already loses its tasks descriptor when the file opens again. -/
theorem Added.leaks_of_kept (h : s.Sound) (htasks : answers.tasks.opened = true)
    (hkept : s.kept ⟨name, policy, .tasks⟩ ≠ none) : s'.Leaks := by
  cases hadded with
  | failed hfailed =>
      rw [htasks] at hfailed
      cases hfailed
  | tasksOnly _ _ _ hfresh => exact HandleStore.leaks_put_of_kept h hfresh hkept
  | both _ _ _ _ hfresh hfresh' =>
      exact (HandleStore.leaks_put_of_kept h hfresh hkept).put hfresh'

/-- A store that is bad stays bad. -/
theorem Added.bad (h : s.Sound) (hbad : Bad s) : Bad s' := by
  obtain hleaks | ⟨other, otherPolicy, htasks, hprocs⟩ := hbad
  · exact Or.inl (hadded.leaks hleaks)
  · by_cases hsame : (other, otherPolicy) = (name, policy)
    · obtain ⟨rfl, rfl⟩ := Prod.mk.inj hsame
      by_cases hopen : answers.tasks.opened = true
      · exact Or.inl (hadded.leaks_of_kept h hopen htasks)
      · cases hadded with
        | failed => exact Or.inr ⟨_, _, htasks, hprocs⟩
        | tasksOnly hopened => exact absurd hopened hopen
        | both hopened => exact absurd hopened hopen
    · refine Or.inr ⟨other, otherPolicy, ?_, ?_⟩
      · rwa [hadded.frame hsame]
      · rwa [hadded.frame hsame]

/-- A policy whose tasks file opens makes the store bad when it was set or its procs file fails. -/
theorem Added.bad_of_broken (h : s.Sound) (hled : Led s)
    (htasks : answers.tasks.opened = true)
    (hbroken : answers.procs.opened = false ∨ s.kept ⟨name, policy, .tasks⟩ ≠ none) : Bad s' := by
  by_cases hkept : s.kept ⟨name, policy, .tasks⟩ = none
  · cases hadded with
    | failed hfailed =>
        rw [htasks] at hfailed
        cases hfailed
    | tasksOnly =>
        refine Or.inr ⟨name, policy, ?_, ?_⟩
        · rw [HandleStore.kept_put_self]
          exact Option.some_ne_none _
        · rw [HandleStore.kept_put_of_ne (by simp)]
          by_contra hprocs
          exact hled name policy hprocs hkept
    | both _ hopened =>
        obtain hfailed | hset := hbroken
        · rw [hopened] at hfailed
          cases hfailed
        · exact absurd hkept hset
  · exact Or.inl (hadded.leaks_of_kept h htasks hkept)

/-- A policy that was not set loses no descriptor. -/
theorem Added.not_leaks (h : ¬ s.Leaks) (hled : Led s)
    (hempty : answers.tasks.opened = true → s.kept ⟨name, policy, .tasks⟩ = none) :
    ¬ s'.Leaks := by
  cases hadded with
  | failed => exact h
  | tasksOnly htasks => exact HandleStore.not_leaks_put h (hempty htasks)
  | both htasks =>
      refine HandleStore.not_leaks_put (HandleStore.not_leaks_put h (hempty htasks)) ?_
      rw [HandleStore.kept_put_of_ne (by simp)]
      by_contra hprocs
      exact hled name policy hprocs (hempty htasks)

/-- A policy both of whose files open is set to them. -/
theorem Added.linked (hboth : answers.bothOpened = true) (file : PolicyFile) :
    ∃ fd, s'.kept ⟨name, policy, file⟩ = some fd ∧ s'.opened fd = some (path file) := by
  rw [PolicyAnswers.bothOpened, Bool.and_eq_true] at hboth
  cases hadded with
  | failed hfailed =>
      rw [hboth.1] at hfailed
      cases hfailed
  | tasksOnly _ hfailed =>
      rw [hboth.2] at hfailed
      cases hfailed
  | both _ _ fd fd' hfresh hfresh' =>
      cases file with
      | tasks =>
          refine ⟨fd, ?_, HandleStore.opened_put_of_some hfresh' HandleStore.opened_put_self⟩
          rw [HandleStore.kept_put_of_ne (by simp), HandleStore.kept_put_self]
      | procs => exact ⟨fd', HandleStore.kept_put_self, HandleStore.opened_put_self⟩

/-- A policy whose tasks file fails stays as it was. -/
theorem Added.eq_of_failed (hfailed : answers.tasks.opened = false) : s' = s := by
  cases hadded with
  | failed => rfl
  | tasksOnly htasks =>
      rw [hfailed] at htasks
      cases htasks
  | both htasks =>
      rw [hfailed] at htasks
      cases htasks

end

/-! ## Adding the policies of a controller -/

theorem openFile_spec (allocator : Allocator) (opened : AssocMap Int String) (filePath : String)
    (answer : FileAnswer) :
    openFile allocator opened filePath answer =
      if answer.opened = true then
        some (allocator.fd opened, opened.insert (allocator.fd opened) filePath)
      else none := by
  rw [openFile, FileAnswer.opened]
  cases answer.resolves <;> cases answer.opens <;> rfl

section

variable (controllers : AssocMap String CgroupController) (name : String) (loading : Loading)

theorem store_kept (place : Place) :
    (loading.store controllers name).kept place =
      if place.name = name then loading.controller.fd? place.policy place.file
      else (controllers.lookup place.name).bind fun controller =>
        controller.fd? place.policy place.file := by
  rw [Loading.store, storeOf]
  dsimp only
  rw [AssocMap.lookup_insert_ite]
  split_ifs <;> rfl

/-- A descriptor that has been opened is kept at the place of its policy. -/
theorem store_put {policy : Nat} {file : PolicyFile} {controller : CgroupController} {fd : Int}
    {filePath : String} (hself : controller.fd? policy file = some fd)
    (hother : ∀ policy' file', (policy', file') ≠ (policy, file) →
      controller.fd? policy' file' = loading.controller.fd? policy' file') :
    Loading.store controllers name ⟨controller, loading.opened.insert fd filePath⟩ =
      (loading.store controllers name).put ⟨name, policy, file⟩ fd filePath := by
  have hkept : (Loading.store controllers name
        ⟨controller, loading.opened.insert fd filePath⟩).kept =
      ((loading.store controllers name).put ⟨name, policy, file⟩ fd filePath).kept := by
    funext place
    rw [store_kept]
    by_cases hplace : place = ⟨name, policy, file⟩
    · subst hplace
      rw [HandleStore.kept_put_self, if_pos rfl, hself]
    · rw [HandleStore.kept_put_of_ne hplace, store_kept]
      split_ifs with hname
      · refine hother place.policy place.file fun hsame => hplace ?_
        obtain ⟨rfl, rfl⟩ := Prod.mk.inj hsame
        rw [← hname]
      · rfl
  have hopened : (Loading.store controllers name
        ⟨controller, loading.opened.insert fd filePath⟩).opened =
      ((loading.store controllers name).put ⟨name, policy, file⟩ fd filePath).opened := by
    funext fd'
    by_cases hfd : fd' = fd
    · rw [hfd, HandleStore.opened_put_self]
      exact AList.lookup_insert _
    · rw [HandleStore.opened_put_of_ne hfd]
      exact AList.lookup_insert_ne hfd
  rw [HandleStore.mk.injEq]
  exact ⟨hkept, hopened⟩

variable (allocator : Allocator) (policy : Nat) (subgroup : String)

/-- The files of a policy, by the path of the controller. -/
def Loading.path (loading : Loading) (subgroup : String) (file : PolicyFile) : String :=
  loading.controller.filePath subgroup file.name

/-- The controller with a descriptor for one of the files of a policy. -/
def CgroupController.withFd (controller : CgroupController) (policy : Nat) (fd : Int) :
    PolicyFile → CgroupController
  | .tasks => { controller with policyToTaskFd_ := controller.policyToTaskFd_.insert policy fd }
  | .procs => { controller with policyToProcFd_ := controller.policyToProcFd_.insert policy fd }

theorem path_withFd (controller : CgroupController) (fd : Int) (file : PolicyFile) :
    (controller.withFd policy fd file).path_ = controller.path_ := by
  cases file <;> rfl

theorem fd?_withFd_self (controller : CgroupController) {fd : Int} (hnonneg : 0 ≤ fd)
    (file : PolicyFile) : (controller.withFd policy fd file).fd? policy file = some fd := by
  have hset : (some fd).filter (fun fd => fd ≠ -1) = some fd := by
    rw [Option.filter_some_pos]
    rw [decide_eq_true_eq]
    omega
  cases file <;>
    rw [CgroupController.fd?, CgroupController.withFd, AList.lookup_insert, hset]

theorem fd?_withFd_of_ne (controller : CgroupController) (fd : Int) {file file' : PolicyFile}
    {policy' : Nat} (hne : (policy', file') ≠ (policy, file)) :
    (controller.withFd policy fd file).fd? policy' file' = controller.fd? policy' file' := by
  by_cases hfile : file' = file
  · subst hfile
    have hpolicy : policy' ≠ policy := fun hsame => hne (by rw [hsame])
    cases file' <;>
      simp only [CgroupController.fd?, CgroupController.withFd, AList.lookup_insert_ne hpolicy]
  · cases file <;> cases file' <;> first | rfl | exact absurd rfl hfile

/-- Adding a policy to the controller, for one of its files. -/
def Loading.addFile (file : PolicyFile) (answer : FileAnswer) : Bool × Loading :=
  match openFile allocator loading.opened (loading.path subgroup file) answer with
  | none => (false, loading)
  | some (fd, opened) => (true, ⟨loading.controller.withFd policy fd file, opened⟩)

theorem AddThreadSchedPolicy_eq (answer : FileAnswer) :
    loading.AddThreadSchedPolicy allocator policy subgroup answer =
      loading.addFile allocator policy subgroup .tasks answer :=
  rfl

theorem AddThreadGroupSchedPolicy_eq (answer : FileAnswer) :
    loading.AddThreadGroupSchedPolicy allocator policy subgroup answer =
      loading.addFile allocator policy subgroup .procs answer :=
  rfl

theorem addFile_spec (file : PolicyFile) (answer : FileAnswer) :
    if answer.opened = true then
      (loading.addFile allocator policy subgroup file answer).1 = true ∧
      (loading.addFile allocator policy subgroup file answer).2.controller.path_ =
        loading.controller.path_ ∧
      (loading.addFile allocator policy subgroup file answer).2.store controllers name =
        (loading.store controllers name).put ⟨name, policy, file⟩
          (allocator.fd loading.opened) (loading.path subgroup file)
    else loading.addFile allocator policy subgroup file answer = (false, loading) := by
  rw [Loading.addFile, openFile_spec]
  split_ifs with hopen
  · refine ⟨rfl, path_withFd policy _ _ file, store_put controllers name loading ?_ ?_⟩
    · exact fd?_withFd_self policy _ (allocator.nonneg loading.opened) file
    · exact fun policy' file' hne => fd?_withFd_of_ne policy _ _ hne
  · rfl

/-- What adding a policy returns and does. -/
theorem AddSchedPolicy_spec (answers : PolicyAnswers) :
    (loading.AddSchedPolicy allocator policy subgroup answers).1 = answers.bothOpened ∧
      (loading.AddSchedPolicy allocator policy subgroup answers).2.controller.path_ =
        loading.controller.path_ ∧
      Added name policy (loading.path subgroup) answers (loading.store controllers name)
        ((loading.AddSchedPolicy allocator policy subgroup answers).2.store controllers name) := by
  have htasks := addFile_spec controllers name loading allocator policy subgroup .tasks
    answers.tasks
  rw [Loading.AddSchedPolicy, AddThreadSchedPolicy_eq, PolicyAnswers.bothOpened]
  revert htasks
  cases hanswer : answers.tasks.opened with
  | false =>
      rintro htasks
      rw [if_neg Bool.false_ne_true] at htasks
      rw [htasks]
      exact ⟨rfl, rfl, .failed hanswer⟩
  | true =>
      rintro ⟨hreturned, hpath, hstore⟩
      revert hreturned hpath hstore
      generalize loading.addFile allocator policy subgroup .tasks answers.tasks = added
      obtain ⟨returned, after⟩ := added
      rintro rfl hpath hstore
      dsimp only at hpath hstore ⊢
      have hfresh : (loading.store controllers name).opened (allocator.fd loading.opened) = none :=
        allocator.fresh loading.opened
      have hfiles : after.path subgroup .procs = loading.path subgroup .procs := by
        rw [Loading.path, Loading.path, CgroupController.filePath, CgroupController.filePath, hpath]
      have hprocs := addFile_spec controllers name after allocator policy subgroup .procs
        answers.procs
      rw [AddThreadGroupSchedPolicy_eq, Bool.true_and]
      revert hprocs
      cases hanswer' : answers.procs.opened with
      | false =>
          intro hprocs
          rw [if_neg Bool.false_ne_true] at hprocs
          rw [hprocs]
          refine ⟨rfl, hpath, ?_⟩
          dsimp only
          rw [hstore]
          exact .tasksOnly hanswer hanswer' _ hfresh
      | true =>
          rintro ⟨hreturned', hpath', hstore'⟩
          refine ⟨hreturned', hpath'.trans hpath, ?_⟩
          have hfresh' : (after.store controllers name).opened (allocator.fd after.opened) = none :=
            allocator.fresh after.opened
          rw [hstore] at hfresh'
          rw [hstore', hstore, hfiles]
          exact .both hanswer hanswer' _ _ hfresh hfresh'

end

/-! ## Adding all policies of a controller -/

/-- The loop over the configured policies. -/
def Loading.addAll (allocator : Allocator) (answers : Nat → PolicyAnswers) (loading : Loading)
    (configs : List (Nat × String)) : Loading :=
  configs.foldl (fun loading config =>
    (loading.AddSchedPolicy allocator config.1 config.2 (answers config.1)).2) loading

theorem LoadSchedPolicyConfig_eq (allocator : Allocator) (fullNames : AssocMap Nat String)
    (loading : Loading) {policyObj : Json String} (hobject : policyObj.is_object = true)
    (answers : Nat → PolicyAnswers) :
    LoadSchedPolicyConfig allocator fullNames loading policyObj answers =
      ((configuredPolicies fullNames policyObj).any fun config => (answers config.1).bothOpened,
        loading.addAll allocator answers (configuredPolicies fullNames policyObj)) := by
  have hfold : ∀ (configs : List (Nat × String)) (count : Nat) (loading : Loading),
      configs.foldl (fun (state : Nat × Loading) (config : Nat × String) =>
        let added := state.2.AddSchedPolicy allocator config.1 config.2 (answers config.1)
        (if added.1 then state.1 + 1 else state.1, added.2)) (count, loading) =
      (count + configs.countP fun config => (answers config.1).bothOpened,
        loading.addAll allocator answers configs) := by
    intro configs
    induction configs with
    | nil => exact fun _ _ => rfl
    | cons config configs ih =>
        intro count loading
        rw [List.foldl_cons, ih, (AddSchedPolicy_spec ∅ "" loading allocator config.1 config.2
          (answers config.1)).1, List.countP_cons, Loading.addAll, Loading.addAll,
          List.foldl_cons]
        split_ifs <;> simp [Nat.add_assoc, Nat.add_comm]
  rw [LoadSchedPolicyConfig, hobject]
  simp only [Bool.not_true, Bool.false_eq_true, if_false]
  rw [hfold]
  rw [Prod.mk.injEq, Bool.eq_iff_iff, decide_eq_true_eq, gt_iff_lt, Nat.zero_add,
    List.countP_pos_iff, List.any_eq_true]
  exact ⟨Iff.rfl, rfl⟩

section

variable (controllers : AssocMap String CgroupController) (name : String) (allocator : Allocator)
  (answers : Nat → PolicyAnswers)

theorem added_head (loading : Loading) (config : Nat × String) :
    Added name config.1 (loading.path config.2) (answers config.1)
      (loading.store controllers name)
      ((loading.AddSchedPolicy allocator config.1 config.2 (answers config.1)).2.store controllers
        name) :=
  (AddSchedPolicy_spec controllers name loading allocator config.1 config.2 (answers config.1)).2.2

/-- A property of the store that adding a policy keeps is kept by the loop. -/
theorem addAll_induction {P : Store → Prop}
    (hstep : ∀ policy path policyAnswers s s', Added name policy path policyAnswers s s' →
      P s → P s') (loading : Loading) (configs : List (Nat × String))
    (h : P (loading.store controllers name)) :
    P ((loading.addAll allocator answers configs).store controllers name) := by
  induction configs generalizing loading with
  | nil => exact h
  | cons config configs ih =>
      exact ih _ (hstep _ _ _ _ _ (added_head controllers name allocator answers loading config) h)

variable {controllers name}

theorem addAll_opened {loading : Loading} (configs : List (Nat × String)) {fd : Int}
    {file : String} (h : loading.opened.lookup fd = some file) :
    (loading.addAll allocator answers configs).opened.lookup fd = some file :=
  addAll_induction ∅ "" allocator answers (P := fun s => s.opened fd = some file)
    (fun _ _ _ _ _ hadded hopen => hadded.opened hopen) loading configs h

theorem addAll_path (loading : Loading) (configs : List (Nat × String)) :
    (loading.addAll allocator answers configs).controller.path_ = loading.controller.path_ := by
  induction configs generalizing loading with
  | nil => rfl
  | cons config configs ih =>
      exact (ih _).trans (AddSchedPolicy_spec ∅ "" loading allocator config.1 config.2
        (answers config.1)).2.1

/-- The loop leaves the places of the policies that are not configured. -/
theorem addAll_frame (loading : Loading) (configs : List (Nat × String)) {place : Place}
    (hother : place.name ≠ name ∨ place.policy ∉ configs.map Prod.fst) :
    ((loading.addAll allocator answers configs).store controllers name).kept place =
      (loading.store controllers name).kept place := by
  induction configs generalizing loading with
  | nil => rfl
  | cons config configs ih =>
      rw [List.map_cons, List.mem_cons, not_or] at hother
      refine (ih _ (hother.imp_right And.right)).trans ?_
      refine (added_head controllers name allocator answers loading config).frame fun hsame => ?_
      obtain ⟨hname, hpolicy⟩ := Prod.mk.inj hsame
      exact hother.elim (fun hne => hne hname) fun hne => hne.1 hpolicy

variable {loading : Loading} {configs : List (Nat × String)}

theorem addAll_sound (h : (loading.store controllers name).Sound) :
    ((loading.addAll allocator answers configs).store controllers name).Sound :=
  addAll_induction controllers name allocator answers (fun _ _ _ _ _ hadded => hadded.sound)
    loading configs h

theorem addAll_led (h : Led (loading.store controllers name)) :
    Led ((loading.addAll allocator answers configs).store controllers name) :=
  addAll_induction controllers name allocator answers (fun _ _ _ _ _ hadded => hadded.led)
    loading configs h

theorem addAll_bad (h : (loading.store controllers name).Sound)
    (hbad : Bad (loading.store controllers name)) :
    Bad ((loading.addAll allocator answers configs).store controllers name) :=
  (addAll_induction controllers name allocator answers (P := fun s => s.Sound ∧ Bad s)
    (fun _ _ _ _ _ hadded hs => ⟨hadded.sound hs.1, hadded.bad hs.1 hs.2⟩) loading configs
    ⟨h, hbad⟩).2

/-- A configured policy whose tasks file opens makes the store bad when it was set or its procs file
fails. -/
theorem addAll_bad_of_broken (h : (loading.store controllers name).Sound)
    (hled : Led (loading.store controllers name)) {config : Nat × String} (hmem : config ∈ configs)
    (htasks : (answers config.1).tasks.opened = true)
    (hbroken : (answers config.1).procs.opened = false ∨
      (loading.store controllers name).kept ⟨name, config.1, .tasks⟩ ≠ none) :
    Bad ((loading.addAll allocator answers configs).store controllers name) := by
  induction configs generalizing loading with
  | nil => cases hmem
  | cons head configs ih =>
      have hadded := added_head controllers name allocator answers loading head
      rcases List.mem_cons.mp hmem with rfl | hmem
      · refine @addAll_bad controllers name allocator answers _ configs (hadded.sound h) ?_
        exact hadded.bad_of_broken h hled htasks hbroken
      · exact ih (hadded.sound h) (hadded.led hled) hmem (hbroken.imp_right hadded.kept)

/-- The loop loses no descriptor when the policies whose tasks files open were not set. -/
theorem addAll_not_leaks (hnodup : (configs.map Prod.fst).Nodup)
    (h : ¬ (loading.store controllers name).Leaks) (hled : Led (loading.store controllers name))
    (hempty : ∀ config ∈ configs, (answers config.1).tasks.opened = true →
      (loading.store controllers name).kept ⟨name, config.1, .tasks⟩ = none) :
    ¬ ((loading.addAll allocator answers configs).store controllers name).Leaks := by
  induction configs generalizing loading with
  | nil => exact h
  | cons head configs ih =>
      rw [List.map_cons, List.nodup_cons] at hnodup
      have hadded := added_head controllers name allocator answers loading head
      refine ih hnodup.2 (hadded.not_leaks h hled (hempty head List.mem_cons_self))
        (hadded.led hled) ?_
      intro config hmem htasks
      rw [hadded.frame, hempty config (List.mem_cons_of_mem _ hmem) htasks]
      intro hsame
      have hpolicy := (Prod.mk.inj hsame).2
      exact hnodup.1 (hpolicy ▸ List.mem_map_of_mem hmem)

/-- A configured policy both of whose files open is set to them. -/
theorem addAll_linked (hnodup : (configs.map Prod.fst).Nodup) {config : Nat × String}
    (hmem : config ∈ configs) (hboth : (answers config.1).bothOpened = true) (file : PolicyFile) :
    ∃ fd, ((loading.addAll allocator answers configs).store controllers name).kept
        ⟨name, config.1, file⟩ = some fd ∧
      (loading.addAll allocator answers configs).opened.lookup fd =
        some (loading.path config.2 file) := by
  induction configs generalizing loading with
  | nil => cases hmem
  | cons head configs ih =>
      rw [List.map_cons, List.nodup_cons] at hnodup
      have hpath := (AddSchedPolicy_spec controllers name loading allocator head.1 head.2
        (answers head.1)).2.1
      rcases List.mem_cons.mp hmem with rfl | hmem
      · obtain ⟨fd, hkept, hopen⟩ :=
          (added_head controllers name allocator answers loading config).linked hboth file
        refine ⟨fd, ?_, addAll_opened allocator answers configs hopen⟩
        exact (addAll_frame allocator answers _ configs (Or.inr hnodup.1)).trans hkept
      · obtain ⟨fd, hkept, hopen⟩ := @ih (loading.AddSchedPolicy allocator head.1 head.2
          (answers head.1)).2 hnodup.2 hmem
        refine ⟨fd, hkept, hopen.trans ?_⟩
        rw [Loading.path, Loading.path, CgroupController.filePath, CgroupController.filePath, hpath]

/-- A configured policy whose tasks file fails stays as it was. -/
theorem addAll_of_failed (hnodup : (configs.map Prod.fst).Nodup) {config : Nat × String}
    (hmem : config ∈ configs) (hfailed : (answers config.1).tasks.opened = false)
    (file : PolicyFile) :
    ((loading.addAll allocator answers configs).store controllers name).kept
        ⟨name, config.1, file⟩ =
      (loading.store controllers name).kept ⟨name, config.1, file⟩ := by
  induction configs generalizing loading with
  | nil => cases hmem
  | cons head configs ih =>
      rw [List.map_cons, List.nodup_cons] at hnodup
      have hadded := added_head controllers name allocator answers loading head
      rcases List.mem_cons.mp hmem with rfl | hmem
      · refine (addAll_frame allocator answers _ configs (Or.inr hnodup.1)).trans ?_
        rw [hadded.eq_of_failed hfailed]
      · refine (ih hnodup.2 hmem).trans (hadded.frame fun hsame => ?_)
        have hpolicy := (Prod.mk.inj hsame).2
        exact hnodup.1 (hpolicy ▸ List.mem_map_of_mem hmem)

end

theorem nodup_configuredPolicies (fullNames : AssocMap Nat String) (policyObj : Json String) :
    ((configuredPolicies fullNames policyObj).map Prod.fst).Nodup := by
  rw [configuredPolicies, List.map_filterMap]
  refine (AssocMap.nodup_ascendingKeys fullNames).sublist ?_
  have hsub : ∀ policies : List Nat, (policies.filterMap fun policy =>
      Option.map Prod.fst (do
        let keyString ← fullNames.lookup policy
        if keyString = "error" then none
        else
          let subgroup ← (policyObj.find? keyString).bind Json.string?
          return (policy, subgroup))).Sublist policies := by
    intro policies
    induction policies with
    | nil => exact List.Sublist.refl _
    | cons policy policies ih =>
        rw [List.filterMap_cons]
        split
        · exact ih.cons policy
        · next found hfound =>
            have hsame : found = policy := by
              simp only [Option.bind_eq_bind, Option.map_eq_some_iff,
                Option.bind_eq_some_iff] at hfound
              obtain ⟨config, ⟨keyString, _, hconfig⟩, rfl⟩ := hfound
              split_ifs at hconfig
              rw [Option.bind_eq_some_iff] at hconfig
              obtain ⟨subgroup, _, hconfig⟩ := hconfig
              rw [← Option.some.inj hconfig]
            rw [hsame]
            exact ih.cons_cons policy
  exact hsub _

/-! ## One entry -/

/-- A new controller has no descriptor set. -/
theorem fd?_new (policyList : List Nat) (name path : String) (policy : Nat) (file : PolicyFile) :
    (CgroupController.new policyList name path).fd? policy file = none := by
  have hfold : ∀ (fds : AssocMap Nat Int), (∀ fd, fds.lookup policy = some fd → fd = -1) →
      ∀ fd, (policyList.foldl (fun fds policy => fds.insert policy (-1)) fds).lookup policy =
        some fd → fd = -1 := by
    induction policyList with
    | nil => exact fun _ h => h
    | cons other policyList ih =>
        intro fds hfds
        refine ih (fds.insert other (-1)) fun fd hfd => ?_
        rw [AssocMap.lookup_insert_ite] at hfd
        split_ifs at hfd
        · exact (Option.some.inj hfd).symm
        · exact hfds fd hfd
  have hunset := hfold ∅ (by simp)
  cases file with
  | tasks => exact Option.filter_eq_none_iff.mpr fun fd hfd => by simp [hunset fd hfd]
  | procs => exact Option.filter_eq_none_iff.mpr fun fd hfd => by simp [hunset fd hfd]

section

variable (allocator : Allocator) (fullNames : AssocMap Nat String) (loaded : LoadedMap)
  {entry : CgroupEntry}

theorem loadEntry_of_skipped (h : entry.config = none) :
    loaded.loadEntry allocator fullNames entry = loaded := by
  rw [CgroupEntry.config, Option.filter_eq_none_iff] at h
  rw [LoadedMap.loadEntry, LoadedMap.LoadCgroup]
  cases hcheck : CheckCgroupConfigFormat entry.cgroupObj with
  | none => rfl
  | some config =>
      obtain ⟨name, rootPath, policyObj⟩ := config
      have hempty := h _ hcheck
      dsimp only
      rw [if_pos]
      by_contra hnot
      rw [not_or] at hnot
      exact hempty (by simp [hnot])

/-- The controller an entry is loaded into. -/
def LoadedMap.target (name rootPath : String) : CgroupController :=
  (loaded.controllers_.lookup name).getD
    (CgroupController.new (AssocMap.ascendingKeys fullNames) name rootPath)

/-- What an entry makes of the controller and of the open descriptors. -/
def LoadedMap.added (name rootPath : String) (policyObj : Json String)
    (answers : Nat → PolicyAnswers) : Loading :=
  Loading.addAll allocator answers ⟨loaded.target fullNames name rootPath, loaded.opened⟩
    (configuredPolicies fullNames policyObj)

theorem is_object_of_config {name rootPath : String} {policyObj : Json String}
    (h : entry.config = some (name, rootPath, policyObj)) :
    CheckCgroupConfigFormat entry.cgroupObj = some (name, rootPath, policyObj) ∧
      ¬ (name = "" ∨ rootPath = "") ∧ policyObj.is_object = true := by
  rw [CgroupEntry.config, Option.filter_eq_some_iff] at h
  obtain ⟨hcheck, hnames⟩ := h
  refine ⟨hcheck, by simpa using hnames, ?_⟩
  simp only [CheckCgroupConfigFormat, Option.bind_eq_bind, Option.bind_eq_some_iff] at hcheck
  obtain ⟨_, _, _, _, found, _, hfound⟩ := hcheck
  split_ifs at hfound with hobject
  rw [Option.pure_def, Option.some.injEq] at hfound
  obtain ⟨-, -, rfl⟩ := hfound
  exact hobject

theorem loadEntry_of_config {name rootPath : String} {policyObj : Json String}
    (h : entry.config = some (name, rootPath, policyObj)) :
    loaded.loadEntry allocator fullNames entry =
      if (loaded.controllers_.lookup name).isSome = true ∨
          ∃ config ∈ configuredPolicies fullNames policyObj,
            (entry.answers config.1).bothOpened = true then
        ⟨loaded.controllers_.insert name
          (loaded.added allocator fullNames name rootPath policyObj entry.answers).controller,
          (loaded.added allocator fullNames name rootPath policyObj entry.answers).opened⟩
      else
        { loaded with
          opened := (loaded.added allocator fullNames name rootPath policyObj
            entry.answers).controller.destroy
              (loaded.added allocator fullNames name rootPath policyObj entry.answers).opened } := by
  obtain ⟨hcheck, hnames, hobject⟩ := is_object_of_config h
  rw [LoadedMap.loadEntry, LoadedMap.LoadCgroup, hcheck]
  dsimp only
  rw [if_neg hnames, LoadedMap.added, LoadedMap.target]
  cases hlookup : loaded.controllers_.lookup name with
  | some controller =>
      simp only [Option.isSome_some, true_or, if_true]
      rw [LoadSchedPolicyConfig_eq _ _ _ hobject]
      rfl
  | none =>
      dsimp only
      rw [LoadSchedPolicyConfig_eq _ _ _ hobject]
      by_cases hkept : ∃ config ∈ configuredPolicies fullNames policyObj,
          (entry.answers config.1).bothOpened = true
      · rw [if_pos (Or.inr hkept), List.any_eq_true.mpr hkept]
        rfl
      · have hany : ((configuredPolicies fullNames policyObj).any fun config =>
            (entry.answers config.1).bothOpened) = false := by
          rw [Bool.eq_false_iff, ne_eq, List.any_eq_true]
          exact hkept
        rw [if_neg (by simpa using hkept), hany]
        rfl

/-- The controller that is loaded has kept nothing else than what the map says. -/
theorem store_target (name rootPath : String) :
    Loading.store loaded.controllers_ name
        ⟨loaded.target fullNames name rootPath, loaded.opened⟩ =
      storeOf loaded.controllers_ loaded.opened := by
  rw [HandleStore.mk.injEq]
  refine ⟨?_, rfl⟩
  funext place
  refine (store_kept loaded.controllers_ name
    ⟨loaded.target fullNames name rootPath, loaded.opened⟩ place).trans ?_
  by_cases hname : place.name = name
  · rw [if_pos hname, LoadedMap.target, ← hname]
    change _ = (loaded.controllers_.lookup place.name).bind _
    cases loaded.controllers_.lookup place.name with
    | none => exact fd?_new _ _ _ _ _
    | some controller => rfl
  · rw [if_neg hname]
    rfl

/-- The destructor closes the descriptors of the controller, and no others. -/
theorem lookup_destroy (controller : CgroupController) (opened : AssocMap Int String) (fd : Int) :
    (∃ policy file, controller.fd? policy file = some fd) ∧
        (controller.destroy opened).lookup fd = none ∨
      (¬ ∃ policy file, controller.fd? policy file = some fd) ∧
        (controller.destroy opened).lookup fd = opened.lookup fd := by
  have hmem : ∀ policyToFd : AssocMap Nat Int,
      fd ∈ ((policyToFd.entries.map fun entry => entry.2).filter fun fd => fd ≠ -1) ↔
        ∃ policy, (policyToFd.lookup policy).filter (fun fd => fd ≠ -1) = some fd := by
    intro policyToFd
    simp only [List.mem_filter, List.mem_map, Option.filter_eq_some_iff]
    constructor
    · rintro ⟨⟨entry, hentry, rfl⟩, hset⟩
      exact ⟨entry.1, (AssocMap.mem_entries_iff policyToFd entry.1 entry.2).mp hentry, hset⟩
    · rintro ⟨policy, hpolicy, hset⟩
      exact ⟨⟨⟨policy, fd⟩, (AssocMap.mem_entries_iff policyToFd policy fd).mpr hpolicy, rfl⟩, hset⟩
  rw [CgroupController.destroy, AssocMap.lookup_eraseKeys, AssocMap.lookup_eraseKeys]
  by_cases hprocs : ∃ policy, controller.fd? policy .procs = some fd
  · obtain ⟨policy, hpolicy⟩ := hprocs
    exact Or.inl ⟨⟨policy, .procs, hpolicy⟩, if_pos ((hmem _).mpr ⟨policy, hpolicy⟩)⟩
  · have hnot := fun h => hprocs ((hmem controller.policyToProcFd_).mp h)
    by_cases htasks : ∃ policy, controller.fd? policy .tasks = some fd
    · obtain ⟨policy, hpolicy⟩ := htasks
      exact Or.inl ⟨⟨policy, .tasks, hpolicy⟩,
        (if_neg hnot).trans (if_pos ((hmem _).mpr ⟨policy, hpolicy⟩))⟩
    · refine Or.inr ⟨?_, (if_neg hnot).trans (if_neg fun h => htasks ((hmem _).mp h))⟩
      rintro ⟨policy, file, hpolicy⟩
      cases file with
      | tasks => exact htasks ⟨policy, hpolicy⟩
      | procs => exact hprocs ⟨policy, hpolicy⟩

/-- A controller that is not kept closes what it has opened. -/
theorem storeOf_destroy {controllers : AssocMap String CgroupController} {name : String}
    (hnone : controllers.lookup name = none) (loading : Loading) :
    storeOf controllers (loading.controller.destroy loading.opened) =
      (loading.store controllers name).release fun place => place.name = name := by
  rw [HandleStore.release, storeOf, HandleStore.mk.injEq]
  constructor
  · funext place
    rw [store_kept]
    split_ifs with hname
    · rw [hname, hnone]
      rfl
    · rfl
  · funext fd
    have hplaces : (∃ place : Place, place.name = name ∧
        (loading.store controllers name).kept place = some fd) ↔
          ∃ policy file, loading.controller.fd? policy file = some fd := by
      constructor
      · rintro ⟨place, hname, hkept⟩
        rw [store_kept, if_pos hname] at hkept
        exact ⟨place.policy, place.file, hkept⟩
      · rintro ⟨policy, file, hkept⟩
        refine ⟨⟨name, policy, file⟩, rfl, ?_⟩
        rw [store_kept, if_pos rfl]
        exact hkept
    rw [hplaces]
    obtain ⟨hmine, hclosed⟩ | ⟨hother, hopen⟩ :=
      lookup_destroy loading.controller loading.opened fd
    · rw [if_pos hmine, hclosed]
    · rw [if_neg hother, hopen]
      rfl

end

/-! ## The subgroup an entry gives -/

section

variable {fullNames : AssocMap Nat String} {entry : CgroupEntry}

theorem subgroup?_of_skipped (h : entry.config = none) (name : String) (policy : Nat) :
    entry.subgroup? fullNames name policy = none := by
  rw [CgroupEntry.subgroup?, h]
  rfl

variable {name rootPath : String} {policyObj : Json String}
  (h : entry.config = some (name, rootPath, policyObj))

include h

theorem subgroup?_of_config (other : String) (policy : Nat) :
    entry.subgroup? fullNames other policy =
      if name = other ∧ (entry.answers policy).bothOpened = true then
        ((configuredPolicies fullNames policyObj).find? fun config => config.1 = policy).map Prod.snd
      else none := by
  rw [CgroupEntry.subgroup?, h]
  rfl

theorem subgroup?_of_not_mem {policy : Nat}
    (hpolicy : policy ∉ (configuredPolicies fullNames policyObj).map Prod.fst) (other : String) :
    entry.subgroup? fullNames other policy = none := by
  rw [subgroup?_of_config h]
  split_ifs
  · rw [Option.map_eq_none_iff, List.find?_eq_none]
    intro config hmem hsame
    rw [decide_eq_true_eq] at hsame
    exact hpolicy (hsame ▸ List.mem_map_of_mem hmem)
  · rfl

theorem subgroup?_of_mem {config : Nat × String}
    (hmem : config ∈ configuredPolicies fullNames policyObj)
    (hboth : (entry.answers config.1).bothOpened = true) :
    entry.subgroup? fullNames name config.1 = some config.2 := by
  rw [subgroup?_of_config h, if_pos ⟨rfl, hboth⟩, Option.map_eq_some_iff]
  refine ⟨config, ?_, rfl⟩
  have hnodup := nodup_configuredPolicies fullNames policyObj
  revert hnodup hmem
  generalize configuredPolicies fullNames policyObj = configs
  intro hmem hnodup
  induction configs with
  | nil => cases hmem
  | cons head configs ih =>
      rw [List.map_cons, List.nodup_cons] at hnodup
      rw [List.find?_cons]
      rcases List.mem_cons.mp hmem with rfl | hmem
      · simp
      · have hne : head.1 ≠ config.1 := by
          intro hsame
          exact hnodup.1 (hsame ▸ List.mem_map_of_mem hmem)
        simp only [hne, decide_false]
        exact ih hmem hnodup.2

end

/-! ## Maps in order and maps out of order -/

/-- The place keeps a descriptor of its file in the subgroup, or none. -/
def LoadedMap.Linked (loaded : LoadedMap) (place : Place) : Option String → Prop
  | none => (storeOf loaded.controllers_ loaded.opened).kept place = none
  | some subgroup => ∃ controller fd, loaded.controllers_.lookup place.name = some controller ∧
      controller.fd? place.policy place.file = some fd ∧
      loaded.opened.lookup fd = some (controller.filePath subgroup place.file.name)

structure LoadedMap.Good (loaded : LoadedMap) (last : String → Nat → Option String) : Prop where
  sound : (storeOf loaded.controllers_ loaded.opened).Sound
  not_leaks : ¬ (storeOf loaded.controllers_ loaded.opened).Leaks
  linked : ∀ place, loaded.Linked place (last place.name place.policy)

structure LoadedMap.Broken (loaded : LoadedMap) : Prop where
  sound : (storeOf loaded.controllers_ loaded.opened).Sound
  led : Led (storeOf loaded.controllers_ loaded.opened)
  bad : Bad (storeOf loaded.controllers_ loaded.opened)

/-- A place that keeps its descriptor stays linked while the descriptor stays open. -/
theorem LoadedMap.Linked.of_kept {loaded loaded' : LoadedMap} {place : Place}
    {last : Option String} (h : loaded.Linked place last)
    (hkept : (storeOf loaded'.controllers_ loaded'.opened).kept place =
      (storeOf loaded.controllers_ loaded.opened).kept place)
    (hpath : ∀ controller, loaded.controllers_.lookup place.name = some controller →
      ∃ controller', loaded'.controllers_.lookup place.name = some controller' ∧
        controller'.path_ = controller.path_)
    (hopened : ∀ fd file, (storeOf loaded.controllers_ loaded.opened).kept place = some fd →
      loaded.opened.lookup fd = some file → loaded'.opened.lookup fd = some file) :
    loaded'.Linked place last := by
  cases last with
  | none => exact hkept.trans h
  | some subgroup =>
      obtain ⟨controller, fd, hlookup, hfd, hopen⟩ := h
      obtain ⟨controller', hlookup', hsame⟩ := hpath controller hlookup
      have hfd' : (storeOf loaded.controllers_ loaded.opened).kept place = some fd := by
        rw [storeOf]
        dsimp only
        rw [hlookup]
        exact hfd
      refine ⟨controller', fd, hlookup', ?_, ?_⟩
      · rw [hfd', storeOf] at hkept
        dsimp only at hkept
        rw [hlookup'] at hkept
        exact hkept
      · rw [hopened fd _ hfd' hopen, CgroupController.filePath, CgroupController.filePath, hsame]

/-- Both files of a policy are linked to its last subgroup. -/
theorem LoadedMap.Good.fd? {loaded : LoadedMap} {last : String → Nat → Option String}
    (h : loaded.Good last) {name : String} {controller : CgroupController}
    (hlookup : loaded.controllers_.lookup name = some controller) (policy : Nat)
    (file : PolicyFile) :
    match last name policy with
      | none => controller.fd? policy file = none
      | some subgroup => ∃ fd, controller.fd? policy file = some fd ∧
          loaded.opened.lookup fd = some (controller.filePath subgroup file.name) := by
  have hlinked := h.linked ⟨name, policy, file⟩
  revert hlinked
  dsimp only
  cases last name policy with
  | none =>
      intro hkept
      rw [LoadedMap.Linked, storeOf] at hkept
      dsimp only at hkept
      rwa [hlookup] at hkept
  | some subgroup =>
      rintro ⟨controller', fd, hlookup', hfd, hopen⟩
      dsimp only at hlookup' hfd hopen
      obtain rfl := Option.some.inj (hlookup.symm.trans hlookup')
      exact ⟨fd, hfd, hopen⟩

theorem LoadedMap.Good.led {loaded : LoadedMap} {last : String → Nat → Option String}
    (h : loaded.Good last) : Led (storeOf loaded.controllers_ loaded.opened) := by
  intro name policy hprocs
  have hlinked := h.linked ⟨name, policy, .procs⟩
  have hlinked' := h.linked ⟨name, policy, .tasks⟩
  revert hlinked hlinked'
  dsimp only
  cases last name policy with
  | none => exact fun hnone => absurd hnone hprocs
  | some subgroup =>
      rintro - ⟨controller, fd, hlookup, hfd, -⟩
      rw [storeOf]
      dsimp only at hlookup hfd ⊢
      rw [hlookup, Option.bind_some, hfd]
      exact Option.some_ne_none fd

theorem LoadedMap.Good.allOrNothing {loaded : LoadedMap} {last : String → Nat → Option String}
    (h : loaded.Good last) : loaded.AllOrNothing last where
  paired := by
    intro name controller hlookup policy
    have htasks := h.fd? hlookup policy .tasks
    have hprocs := h.fd? hlookup policy .procs
    revert htasks hprocs
    cases last name policy with
    | none =>
        intro htasks hprocs
        rw [htasks, hprocs]
    | some subgroup =>
        rintro ⟨fd, hfd, -⟩ ⟨fd', hfd', -⟩
        rw [hfd, hfd']
        rfl
  subgroup := fun _ _ hlookup policy file => h.fd? hlookup policy file
  stored := by
    intro fd file hopen
    by_contra hnowhere
    refine h.not_leaks ⟨fd, ?_, ?_⟩
    · change loaded.opened.lookup fd ≠ none
      rw [hopen]
      exact Option.some_ne_none file
    · intro place hkept
      obtain ⟨controller, hlookup, hfd⟩ := Option.bind_eq_some_iff.mp hkept
      exact hnowhere ⟨place.name, controller, place.policy, place.file, hlookup, hfd⟩

theorem LoadedMap.Broken.not_allOrNothing {loaded : LoadedMap} (h : loaded.Broken)
    (last : String → Nat → Option String) : ¬ loaded.AllOrNothing last := by
  intro hall
  obtain ⟨fd, hopen, hnowhere⟩ | ⟨name, policy, htasks, hprocs⟩ := h.bad
  · obtain ⟨file, hfile⟩ := Option.ne_none_iff_exists'.mp hopen
    obtain ⟨name, controller, policy, file', hlookup, hfd⟩ := hall.stored fd file hfile
    exact hnowhere ⟨name, policy, file'⟩ (Option.bind_eq_some_iff.mpr ⟨controller, hlookup, hfd⟩)
  · obtain ⟨fd, hkept⟩ := Option.ne_none_iff_exists'.mp htasks
    obtain ⟨controller, hlookup, hfd⟩ := Option.bind_eq_some_iff.mp hkept
    have hpaired := hall.paired name controller hlookup policy
    have hprocs' : controller.fd? policy .procs = none := by
      rw [storeOf] at hprocs
      dsimp only at hprocs hlookup
      rwa [hlookup] at hprocs
    dsimp only at hfd
    rw [hfd, hprocs'] at hpaired
    simp at hpaired

/-! ## What an entry keeps -/

/-- The last subgroups with those of another entry. -/
def addSubgroups (fullNames : AssocMap Nat String) (last : String → Nat → Option String)
    (entry : CgroupEntry) : String → Nat → Option String :=
  fun name policy => (entry.subgroup? fullNames name policy).or (last name policy)

section

variable {allocator : Allocator} {fullNames : AssocMap Nat String} {loaded : LoadedMap}
  {last : String → Nat → Option String} {entry : CgroupEntry} {name rootPath : String}
  {policyObj : Json String}

/-- What stands in the map when the policies of an entry have been added. -/
def LoadedMap.addedStore (allocator : Allocator) (fullNames : AssocMap Nat String)
    (loaded : LoadedMap) (name rootPath : String) (policyObj : Json String)
    (answers : Nat → PolicyAnswers) : Store :=
  (loaded.added allocator fullNames name rootPath policyObj answers).store loaded.controllers_ name

/-- The places of the other controllers keep what they keep. -/
theorem addedStore_frame (answers : Nat → PolicyAnswers) {place : Place}
    (hother : place.name ≠ name) :
    (loaded.addedStore allocator fullNames name rootPath policyObj answers).kept place =
      (storeOf loaded.controllers_ loaded.opened).kept place := by
  rw [← store_target fullNames loaded name rootPath]
  exact addAll_frame allocator answers _ _ (Or.inl hother)

/-- A configured policy whose tasks file opens was not set before. -/
theorem kept_eq_none_of_order (hconfig : entry.config = some (name, rootPath, policyObj))
    (horder : EntryInOrder fullNames loaded entry)
    (hkept : (loaded.controllers_.lookup name).isSome = true ∨
      ∃ config ∈ configuredPolicies fullNames policyObj,
        (entry.answers config.1).bothOpened = true)
    {config : Nat × String} (hmem : config ∈ configuredPolicies fullNames policyObj)
    (htasks : (entry.answers config.1).tasks.opened = true) :
    (storeOf loaded.controllers_ loaded.opened).kept ⟨name, config.1, .tasks⟩ = none := by
  have hunset := (horder name rootPath policyObj hconfig hkept config hmem htasks).2
  rw [storeOf]
  dsimp only
  cases hlookup : loaded.controllers_.lookup name with
  | none => rfl
  | some controller => exact hunset controller hlookup

theorem kept_eq_none_of_new (hnew : loaded.controllers_.lookup name = none) (policy : Nat)
    (file : PolicyFile) :
    (storeOf loaded.controllers_ loaded.opened).kept ⟨name, policy, file⟩ = none := by
  rw [storeOf]
  dsimp only
  rw [hnew]
  rfl

/-- The store loses no descriptor when no configured policy is set again. -/
theorem addedStore_not_leaks (hgood : loaded.Good last) (answers : Nat → PolicyAnswers)
    (hempty : ∀ config ∈ configuredPolicies fullNames policyObj,
      (answers config.1).tasks.opened = true →
        (storeOf loaded.controllers_ loaded.opened).kept ⟨name, config.1, .tasks⟩ = none) :
    ¬ (loaded.addedStore allocator fullNames name rootPath policyObj answers).Leaks := by
  have htarget := store_target fullNames loaded name rootPath
  refine addAll_not_leaks allocator answers (nodup_configuredPolicies fullNames policyObj) ?_ ?_ ?_
  · rw [htarget]
    exact hgood.not_leaks
  · rw [htarget]
    exact hgood.led
  · rw [htarget]
    exact hempty

theorem addedStore_sound (hsound : (storeOf loaded.controllers_ loaded.opened).Sound)
    (answers : Nat → PolicyAnswers) :
    (loaded.addedStore allocator fullNames name rootPath policyObj answers).Sound := by
  refine addAll_sound allocator answers ?_
  rwa [store_target]

theorem addedStore_led (hled : Led (storeOf loaded.controllers_ loaded.opened))
    (answers : Nat → PolicyAnswers) :
    Led (loaded.addedStore allocator fullNames name rootPath policyObj answers) := by
  refine addAll_led allocator answers ?_
  rwa [store_target]

/-- The places of the entry's controller, when its policies have been added in order. -/
theorem linked_added (hgood : loaded.Good last)
    (hconfig : entry.config = some (name, rootPath, policyObj))
    (horder : ∀ config ∈ configuredPolicies fullNames policyObj,
      (entry.answers config.1).tasks.opened = true →
        (entry.answers config.1).procs.opened = true)
    (policy : Nat) (file : PolicyFile) :
    (LoadedMap.mk (loaded.controllers_.insert name
        (loaded.added allocator fullNames name rootPath policyObj entry.answers).controller)
      (loaded.added allocator fullNames name rootPath policyObj entry.answers).opened).Linked
        ⟨name, policy, file⟩ (addSubgroups fullNames last entry name policy) := by
  have htarget := store_target fullNames loaded name rootPath
  have hnodup := nodup_configuredPolicies fullNames policyObj
  have hpath := addAll_path allocator entry.answers
    ⟨loaded.target fullNames name rootPath, loaded.opened⟩ (configuredPolicies fullNames policyObj)
  have hopened : ∀ fd file, loaded.opened.lookup fd = some file →
      (loaded.added allocator fullNames name rootPath policyObj
        entry.answers).opened.lookup fd = some file :=
    fun fd file hopen => addAll_opened allocator entry.answers
      (configuredPolicies fullNames policyObj) hopen
  -- A place that the loop leaves stays linked to its last subgroup.
  have hleft : entry.subgroup? fullNames name policy = none →
      (loaded.addedStore allocator fullNames name rootPath policyObj entry.answers).kept
          ⟨name, policy, file⟩ =
        (Loading.store loaded.controllers_ name
          ⟨loaded.target fullNames name rootPath, loaded.opened⟩).kept ⟨name, policy, file⟩ →
      (LoadedMap.mk (loaded.controllers_.insert name
          (loaded.added allocator fullNames name rootPath policyObj entry.answers).controller)
        (loaded.added allocator fullNames name rootPath policyObj entry.answers).opened).Linked
          ⟨name, policy, file⟩ (addSubgroups fullNames last entry name policy) := by
    intro hnone hkept
    rw [addSubgroups, hnone, Option.none_or]
    refine (hgood.linked ⟨name, policy, file⟩).of_kept (hkept.trans (by rw [htarget])) ?_ ?_
    · intro controller hlookup
      refine ⟨_, AList.lookup_insert _, hpath.trans ?_⟩
      dsimp only at hlookup ⊢
      rw [LoadedMap.target, hlookup]
      rfl
    · exact fun fd file _ hopen => hopened fd file hopen
  by_cases hmem : policy ∈ (configuredPolicies fullNames policyObj).map Prod.fst
  · obtain ⟨config, hconfigMem, rfl⟩ := List.mem_map.mp hmem
    by_cases htasks : (entry.answers config.1).tasks.opened = true
    · have hboth : (entry.answers config.1).bothOpened = true := by
        rw [PolicyAnswers.bothOpened, htasks, horder config hconfigMem htasks]
        rfl
      obtain ⟨fd, hkept, hopen⟩ := @addAll_linked loaded.controllers_ name allocator entry.answers
        ⟨loaded.target fullNames name rootPath, loaded.opened⟩ _ hnodup config hconfigMem hboth file
      rw [addSubgroups, subgroup?_of_mem hconfig hconfigMem hboth, Option.some_or]
      rw [store_kept, if_pos rfl] at hkept
      refine ⟨_, fd, AList.lookup_insert _, hkept, hopen.trans ?_⟩
      rw [Loading.path, CgroupController.filePath, CgroupController.filePath, LoadedMap.added,
        hpath]
    · have hfailed : (entry.answers config.1).tasks.opened = false := by
        simpa using htasks
      refine hleft ?_ (addAll_of_failed allocator entry.answers hnodup hconfigMem hfailed file)
      rw [subgroup?_of_config hconfig, if_neg]
      rintro ⟨-, hboth⟩
      rw [PolicyAnswers.bothOpened, hfailed] at hboth
      cases hboth
  · exact hleft (subgroup?_of_not_mem hconfig hmem name)
      (addAll_frame allocator entry.answers _ _ (Or.inr hmem))

/-- An entry that is not kept gives no subgroup. -/
theorem addSubgroups_of_none (hconfig : entry.config = some (name, rootPath, policyObj))
    (hnone : ¬ ∃ config ∈ configuredPolicies fullNames policyObj,
      (entry.answers config.1).bothOpened = true) :
    addSubgroups fullNames last entry = last := by
  funext other policy
  have hsubgroup : entry.subgroup? fullNames other policy = none := by
    by_cases hmem : policy ∈ (configuredPolicies fullNames policyObj).map Prod.fst
    · obtain ⟨config, hconfigMem, rfl⟩ := List.mem_map.mp hmem
      rw [subgroup?_of_config hconfig, if_neg]
      exact fun hboth => hnone ⟨config, hconfigMem, hboth.2⟩
    · exact subgroup?_of_not_mem hconfig hmem other
  rw [addSubgroups, hsubgroup, Option.none_or]

/-- A controller that is not kept leaves the map in order. -/
theorem discarded_good (hgood : loaded.Good last) (hnew : loaded.controllers_.lookup name = none)
    (answers : Nat → PolicyAnswers) :
    (LoadedMap.mk loaded.controllers_
      ((loaded.added allocator fullNames name rootPath policyObj answers).controller.destroy
        (loaded.added allocator fullNames name rootPath policyObj answers).opened)).Good last := by
  have hstore := storeOf_destroy hnew
    (loaded.added allocator fullNames name rootPath policyObj answers)
  have hsound : (loaded.addedStore allocator fullNames name rootPath policyObj answers).Sound :=
    addedStore_sound hgood.sound answers
  constructor
  · change (storeOf loaded.controllers_ _).Sound
    rw [hstore]
    exact hsound.release _
  · change ¬ (storeOf loaded.controllers_ _).Leaks
    rw [hstore]
    refine HandleStore.not_leaks_release _ (addedStore_not_leaks hgood answers ?_)
    exact fun config _ _ => kept_eq_none_of_new hnew config.1 .tasks
  · intro place
    refine (hgood.linked place).of_kept rfl (fun controller hlookup => ⟨controller, hlookup, rfl⟩) ?_
    intro fd file hkept hopen
    have hname : place.name ≠ name := by
      rintro rfl
      rw [kept_eq_none_of_new hnew] at hkept
      cases hkept
    change (storeOf loaded.controllers_ _).opened fd = some file
    rw [hstore]
    -- The descriptor is kept elsewhere, so the destructor does not close it.
    refine (if_neg ?_).trans (addAll_opened allocator answers _ hopen)
    rintro ⟨place', hname', hkept'⟩
    have hframe := @addedStore_frame allocator fullNames loaded name rootPath policyObj answers
      place hname
    rw [← hframe] at hkept
    exact hname (hsound.unique place place' fd hkept hkept' ▸ hname')

/-- A kept entry in order leaves the map in order. -/
theorem kept_good (hgood : loaded.Good last)
    (hconfig : entry.config = some (name, rootPath, policyObj))
    (horder : EntryInOrder fullNames loaded entry)
    (hkept : (loaded.controllers_.lookup name).isSome = true ∨
      ∃ config ∈ configuredPolicies fullNames policyObj,
        (entry.answers config.1).bothOpened = true) :
    (LoadedMap.mk (loaded.controllers_.insert name
        (loaded.added allocator fullNames name rootPath policyObj entry.answers).controller)
      (loaded.added allocator fullNames name rootPath policyObj entry.answers).opened).Good
        (addSubgroups fullNames last entry) := by
  refine ⟨addedStore_sound hgood.sound entry.answers, ?_, ?_⟩
  · exact addedStore_not_leaks hgood entry.answers fun config hmem htasks =>
      kept_eq_none_of_order hconfig horder hkept hmem htasks
  · intro place
    by_cases hname : place.name = name
    · subst hname
      exact linked_added hgood hconfig (fun config hmem htasks =>
        (horder _ _ _ hconfig hkept config hmem htasks).1) place.policy place.file
    · rw [addSubgroups, subgroup?_of_config hconfig, if_neg fun h => hname h.1.symm,
        Option.none_or]
      refine (hgood.linked place).of_kept (addedStore_frame entry.answers hname) ?_ ?_
      · intro controller hlookup
        exact ⟨controller, (AList.lookup_insert_ne hname).trans hlookup, rfl⟩
      · exact fun fd file _ hopen => addAll_opened allocator entry.answers _ hopen

theorem loadEntry_good (hgood : loaded.Good last) (horder : EntryInOrder fullNames loaded entry) :
    (loaded.loadEntry allocator fullNames entry).Good (addSubgroups fullNames last entry) := by
  cases hconfig : entry.config with
  | none =>
      have hsame : addSubgroups fullNames last entry = last := by
        funext name policy
        rw [addSubgroups, subgroup?_of_skipped hconfig, Option.none_or]
      rwa [loadEntry_of_skipped allocator fullNames loaded hconfig, hsame]
  | some config =>
      obtain ⟨name, rootPath, policyObj⟩ := config
      rw [loadEntry_of_config allocator fullNames loaded hconfig]
      split_ifs with hkept
      · exact kept_good hgood hconfig horder hkept
      · obtain ⟨hnew, hnone⟩ := not_or.mp hkept
        rw [addSubgroups_of_none hconfig hnone]
        rw [Option.not_isSome_iff_eq_none] at hnew
        exact discarded_good hgood hnew entry.answers

/-- An entry out of order breaks the map. -/
theorem loadEntry_breaks (hgood : loaded.Good last)
    (hbroken : ¬ EntryInOrder fullNames loaded entry) :
    (loaded.loadEntry allocator fullNames entry).Broken := by
  simp only [EntryInOrder, not_forall] at hbroken
  obtain ⟨name, rootPath, policyObj, hconfig, hkept, config, hmem, htasks, hbroken⟩ := hbroken
  have htarget := store_target fullNames loaded name rootPath
  rw [loadEntry_of_config allocator fullNames loaded hconfig, if_pos hkept]
  refine ⟨addedStore_sound hgood.sound entry.answers, addedStore_led hgood.led entry.answers, ?_⟩
  refine addAll_bad_of_broken allocator entry.answers ?_ ?_ hmem htasks ?_
  · rw [htarget]
    exact hgood.sound
  · rw [htarget]
    exact hgood.led
  · rw [htarget]
    by_cases hprocs : (entry.answers config.1).procs.opened = true
    · rw [not_and, not_forall] at hbroken
      obtain ⟨controller, hset⟩ := hbroken hprocs
      rw [not_forall] at hset
      obtain ⟨hlookup, hset⟩ := hset
      refine Or.inr fun hkept' => hset ?_
      rw [storeOf] at hkept'
      dsimp only at hkept'
      rwa [hlookup] at hkept'
    · exact Or.inl (by simpa using hprocs)

/-- A broken map stays broken. -/
theorem loadEntry_broken (h : loaded.Broken) :
    (loaded.loadEntry allocator fullNames entry).Broken := by
  cases hconfig : entry.config with
  | none => rwa [loadEntry_of_skipped allocator fullNames loaded hconfig]
  | some config =>
      obtain ⟨name, rootPath, policyObj⟩ := config
      have htarget := store_target fullNames loaded name rootPath
      have hsound : (loaded.addedStore allocator fullNames name rootPath policyObj
        entry.answers).Sound := addedStore_sound h.sound entry.answers
      have hled : Led (loaded.addedStore allocator fullNames name rootPath policyObj
        entry.answers) := addedStore_led h.led entry.answers
      rw [loadEntry_of_config allocator fullNames loaded hconfig]
      split_ifs with hkept
      · refine ⟨hsound, hled, addAll_bad allocator entry.answers ?_ ?_⟩
        · rw [htarget]
          exact h.sound
        · rw [htarget]
          exact h.bad
      · obtain ⟨hnew, -⟩ := not_or.mp hkept
        rw [Option.not_isSome_iff_eq_none] at hnew
        have hstore := storeOf_destroy hnew
          (loaded.added allocator fullNames name rootPath policyObj entry.answers)
        refine ⟨?_, ?_, ?_⟩
        · change (storeOf loaded.controllers_ _).Sound
          rw [hstore]
          exact hsound.release _
        · exact h.led
        · change Bad (storeOf loaded.controllers_ _)
          obtain hleaks | hhalf := h.bad
          · refine Or.inl ?_
            rw [hstore]
            refine HandleStore.Leaks.release _ (addAll_induction _ _ _ _
              (fun _ _ _ _ _ hadded => hadded.leaks) _ _ ?_)
            rw [htarget]
            exact hleaks
          · exact Or.inr hhalf

end

/-! ## Whole objects -/

theorem load_eq_run (allocator : Allocator) (fullNames : AssocMap Nat String) (loaded : LoadedMap)
    (object : ConfigObject) :
    loaded.load allocator fullNames object =
      run (LoadedMap.loadEntry allocator fullNames) loaded object.entries := by
  rw [LoadedMap.load, LoadedMap.LoadConfigFromJsonObj, ConfigObject.entries]
  have hfold : ∀ (objects : List (Json String × Nat)) (count : Nat) (loaded : LoadedMap),
      (objects.foldl (fun (state : Nat × LoadedMap) (cgroupObj : Json String × Nat) =>
        let added := state.2.LoadCgroup allocator fullNames cgroupObj.1 (object.answers cgroupObj.2)
        (if added.1 then state.1 + 1 else state.1, added.2)) (count, loaded)).2 =
      run (LoadedMap.loadEntry allocator fullNames) loaded
        (objects.map fun cgroup => ⟨cgroup.1, object.answers cgroup.2⟩) := by
    intro objects
    induction objects with
    | nil => exact fun _ _ => rfl
    | cons cgroupObj objects ih => exact fun count loaded => ih _ _
  cases object.jsonObj.find? JSON_KEY_CGROUPS with
  | none => rfl
  | some value =>
      cases value with
      | array objects => exact hfold _ 0 loaded
      | _ => rfl

theorem run_load (allocator : Allocator) (fullNames : AssocMap Nat String) (loaded : LoadedMap)
    (objects : List ConfigObject) :
    run (LoadedMap.load allocator fullNames) loaded objects =
      run (LoadedMap.loadEntry allocator fullNames) loaded
        (objects.flatMap ConfigObject.entries) := by
  induction objects generalizing loaded with
  | nil => rfl
  | cons object objects ih =>
      rw [run_cons, ih, List.flatMap_cons, run_append, load_eq_run]

theorem run_addSubgroups (fullNames : AssocMap Nat String) (entries : List CgroupEntry)
    (last : String → Nat → Option String) (name : String) (policy : Nat) :
    run (addSubgroups fullNames) last entries name policy =
      entries.foldl (fun last entry => (entry.subgroup? fullNames name policy).or last)
        (last name policy) := by
  induction entries generalizing last with
  | nil => rfl
  | cons entry entries ih => exact ih _

theorem good_start : LoadedMap.start.Good fun _ _ => none where
  sound := by
    constructor
    · intro _ _ hkept
      cases hkept
    · intro _ _ _ hkept
      cases hkept
  not_leaks := fun ⟨_, hopen, _⟩ => hopen rfl
  linked := fun _ => rfl

/-- Whatever the objects are and whichever paths and files fail, after they are loaded every policy
of a controller has both descriptors or none, those of its last subgroup, and every open descriptor
is stored, if and only if each entry was in order when it was loaded. -/
theorem policies_allOrNothing_iff (allocator : Allocator) (fullNames : AssocMap Nat String)
    (objects : List ConfigObject) :
    (run (LoadedMap.load allocator fullNames) .start objects).AllOrNothing
        (lastSubgroup fullNames (objects.flatMap ConfigObject.entries)) ↔
      EachStep (LoadedMap.loadEntry allocator fullNames) (EntryInOrder fullNames) .start
        (objects.flatMap ConfigObject.entries) := by
  rw [run_load]
  generalize objects.flatMap ConfigObject.entries = entries
  -- The last subgroups are carried along the run.
  let step (s : LoadedMap × (String → Nat → Option String)) (entry : CgroupEntry) :=
    (s.1.loadEntry allocator fullNames entry, addSubgroups fullNames s.2 entry)
  have hrun := run_of_guard step (R := fun s => s.1.Good s.2) (B := fun s => s.1.Broken)
    (Q := fun s entry => EntryInOrder fullNames s.1 entry)
    (fun _ _ hgood horder => loadEntry_good hgood horder)
    (fun _ _ hgood hbroken => loadEntry_breaks hgood hbroken)
    (fun _ _ hbroken => loadEntry_broken hbroken) entries (.start, fun _ _ => none) good_start
  have hloaded : (run step (.start, fun _ _ => none) entries).1 =
      run (LoadedMap.loadEntry allocator fullNames) .start entries :=
    run_map step Prod.fst (fun _ _ => rfl) _ entries
  have hlast : (run step (.start, fun _ _ => none) entries).2 =
      run (addSubgroups fullNames) (fun _ _ => none) entries :=
    run_map step Prod.snd (fun _ _ => rfl) _ entries
  have hsteps : EachStep step (fun s entry => EntryInOrder fullNames s.1 entry)
        (.start, fun _ _ => none) entries ↔
      EachStep (LoadedMap.loadEntry allocator fullNames) (EntryInOrder fullNames) .start entries :=
    eachStep_map step Prod.fst (fun _ _ => rfl) (EntryInOrder fullNames) _ entries
  have hsubgroups : lastSubgroup fullNames entries =
      (run step (.start, fun _ _ => none) entries).2 := by
    rw [hlast]
    funext name policy
    exact (run_addSubgroups fullNames entries (fun _ _ => none) name policy).symm
  rw [hsubgroups]
  rw [hloaded] at hrun
  constructor
  · intro hall
    by_contra hbroken
    exact (hrun.2 (fun h => hbroken (hsteps.mp h))).not_allOrNothing _ hall
  · intro horder
    exact (hrun.1 (hsteps.mpr horder)).allOrNothing

/-! ## A procs file that does not open -/

/-- The descriptor after the greatest one that is open. -/
def nextFd : Allocator where
  fd := fun opened => opened.keys.foldr (fun fd next => max (fd + 1) next) 0
  nonneg := by
    intro opened
    induction opened.keys with
    | nil => exact le_refl _
    | cons fd fds ih => exact le_max_of_le_right ih
  fresh := by
    intro opened
    have hgreater : ∀ fds : List Int, ∀ fd ∈ fds,
        fd < fds.foldr (fun fd next => max (fd + 1) next) 0 := by
      intro fds
      induction fds with
      | nil =>
          intro fd hfd
          cases hfd
      | cons head fds ih =>
          intro fd hfd
          rw [List.foldr_cons, lt_max_iff]
          rcases List.mem_cons.mp hfd with rfl | hfd
          · exact Or.inl (Int.lt_succ fd)
          · exact Or.inr (ih fd hfd)
    rw [AList.lookup_eq_none]
    exact fun hmem => lt_irrefl _ (hgreater opened.keys _ hmem)

def twoPolicies : AssocMap Nat String :=
  AList.insert 0 "sp_default" (AList.insert 1 "sp_background" ∅)

/-- The procs file of the second policy does not open. -/
def secondProcsFails : ConfigObject where
  jsonObj := .object [(JSON_KEY_CGROUPS, .array [.object [
    (JSON_KEY_CONTROLLER, .string "cpu"), (JSON_KEY_PATH, .string "/dev/cpuctl"),
    (JSON_KEY_SCHED_POLICY, .object [("sp_default", .string ""),
      ("sp_background", .string "background")])]])]
  answers := fun _ policy => ⟨⟨true, true⟩, ⟨true, policy == 0⟩⟩

/-- The second policy keeps its tasks descriptor and has no procs descriptor. -/
theorem secondProcsFails_halfSet :
    ¬ (run (LoadedMap.load nextFd twoPolicies) .start [secondProcsFails]).AllOrNothing
      (lastSubgroup twoPolicies ([secondProcsFails].flatMap ConfigObject.entries)) := by
  intro hall
  have hfds : ((run (LoadedMap.load nextFd twoPolicies) .start
        [secondProcsFails]).controllers_.lookup "cpu").map
      (fun controller => (controller.fd? 1 .tasks, controller.fd? 1 .procs)) =
        some (some 2, none) := by decide
  obtain ⟨controller, hlookup, hfds⟩ := Option.map_eq_some_iff.mp hfds
  obtain ⟨htasks, hprocs⟩ := Prod.mk.inj hfds
  have hpaired := hall.paired "cpu" controller hlookup 1
  rw [htasks, hprocs] at hpaired
  cases hpaired.mp rfl

end ResSched.CgroupSetting
