import ResSched.Library.Transition
import ResSched.Model.OobeManager

/-! # Each task runs once, after the agreement -/

namespace ResSched.Oobe

open Transition

variable {Task : Type}

/-! ## The specification -/

/-- The system with the tasks accepted so far, whether a non-zero value has been read, and whether
one has been applied. The constructor reads and applies like a flush. -/
structure Watched (Task : Type) where
  system : System Task
  accepted : List Task
  hasRead : Bool
  hasApplied : Bool

namespace Watched

def start (stored : Int) (succeeds : Bool) : Watched Task where
  system := System.start stored succeeds
  accepted := []
  hasRead := succeeds && decide (stored ≠ 0)
  hasApplied := succeeds && decide (stored ≠ 0)

/-- The value a flush is about to apply. -/
def result? (watched : Watched Task) : Event Task → Option Int
  | .applyValue flush => watched.system.flushes.lookup flush
  | _ => none

/-- The value a flush reads. -/
def reads? (watched : Watched Task) : Event Task → Option Int
  | .readValue flush succeeds =>
      if succeeds ∧ (watched.system.flushes.lookup flush).isNone then some watched.system.stored
      else none
  | _ => none

/-- The task an event has accepted. -/
def acceptedTask? : Event Task → Option Task
  | .SubmitTask task => task
  | _ => none

def nonzero (value : Option Int) : Bool :=
  value.any fun value => decide (value ≠ 0)

def handle (watched : Watched Task) (event : Event Task) : Watched Task where
  system := watched.system.handle event
  accepted := watched.accepted ++ (acceptedTask? event).toList
  hasRead := watched.hasRead || nonzero (watched.reads? event)
  hasApplied := watched.hasApplied || nonzero (watched.result? event)

/-- Tasks are executed in the order of their acceptance, each at most once and none before a
non-zero value has been read; once one has been applied none is left and the value is true. -/
structure RunOnce (watched : Watched Task) : Prop where
  atMostOnce : watched.system.oobe.executed <+: watched.accepted
  notBefore : watched.system.oobe.executed ≠ [] → watched.hasRead = true
  allExecuted : watched.hasApplied = true → watched.system.oobe.executed = watched.accepted
  staysTrue : watched.hasApplied = true → watched.system.oobe.oobeValue = .IS_TRUE

/-- Once a non-zero value has been applied, a task is executed in its own `SubmitTask` call. -/
def ExecutedAtOnce (watched : Watched Task) (event : Event Task) : Prop :=
  ∀ task, acceptedTask? event = some task → watched.hasApplied = true →
    (watched.handle event).system.oobe.executed = watched.system.oobe.executed ++ [task]

/-- No flush applies a zero once a non-zero value has been applied. -/
def NoLateZero (watched : Watched Task) (event : Event Task) : Prop :=
  watched.hasApplied = true → watched.result? event ≠ some 0

/-! ## What every step keeps -/

/-- What holds whatever the flushes apply: the accepted tasks are executed or wait in the order of
their acceptance, and whatever is non-zero has been read. -/
structure Sound (watched : Watched Task) : Prop where
  inOrder : watched.system.oobe.executed ++ watched.system.oobe.oobeTasks = watched.accepted
  noneWaits : watched.system.oobe.oobeValue = .IS_TRUE → watched.system.oobe.oobeTasks = []
  trueRead : watched.system.oobe.oobeValue = .IS_TRUE → watched.hasRead = true
  executedRead : watched.system.oobe.executed ≠ [] → watched.hasRead = true
  flushesRead : ∀ flush result, watched.system.flushes.lookup flush = some result → result ≠ 0 →
    watched.hasRead = true

theorem start_sound (stored : Int) (succeeds : Bool) :
    (start stored succeeds : Watched Task).Sound := by
  refine ⟨?_, ?_, ?_, ?_, ?_⟩
  · cases succeeds <;> rfl
  · cases succeeds <;> exact fun _ => rfl
  · cases succeeds with
    | false =>
        intro h
        cases h
    | true =>
        intro h
        by_contra hread
        have hzero : stored = 0 := by simpa [start] using hread
        subst hzero
        cases h
  · cases succeeds <;> exact fun h => absurd rfl h
  · intro flush result h
    cases h

/-- An event that leaves the manager as it is only has to account for the flushes. -/
theorem Sound.of_oobe_eq {watched after : Watched Task} (h : watched.Sound)
    (hoobe : after.system.oobe = watched.system.oobe)
    (haccepted : after.accepted = watched.accepted)
    (hread : watched.hasRead = true → after.hasRead = true)
    (hflushes : ∀ flush result, after.system.flushes.lookup flush = some result → result ≠ 0 →
      after.hasRead = true) : after.Sound := by
  refine ⟨?_, ?_, ?_, ?_, hflushes⟩
  · rw [hoobe, haccepted]
    exact h.inOrder
  · rw [hoobe]
    exact h.noneWaits
  · rw [hoobe]
    exact fun htrue => hread (h.trueRead htrue)
  · rw [hoobe]
    exact fun hexecuted => hread (h.executedRead hexecuted)

theorem submit_sound {watched : Watched Task} (h : watched.Sound) (task : Option Task) :
    (watched.handle (.SubmitTask task)).Sound := by
  have hread : (watched.handle (.SubmitTask task)).hasRead = watched.hasRead := Bool.or_false _
  cases task with
  | none =>
      refine h.of_oobe_eq rfl (List.append_nil _) (hread ▸ id) ?_
      rw [hread]
      exact h.flushesRead
  | some task =>
      have haccepted : (watched.handle (.SubmitTask (some task))).accepted =
          watched.accepted ++ [task] := rfl
      by_cases htrue : watched.system.oobe.oobeValue = .IS_TRUE
      · have hoobe : (watched.handle (.SubmitTask (some task))).system.oobe =
            { watched.system.oobe with executed := watched.system.oobe.executed ++ [task] } :=
          congrArg Prod.fst (if_pos htrue)
        have horder := h.inOrder
        rw [h.noneWaits htrue, List.append_nil] at horder
        refine ⟨?_, ?_, ?_, ?_, ?_⟩
        · rw [hoobe, haccepted, ← horder, h.noneWaits htrue, List.append_nil]
        · rw [hoobe]
          exact h.noneWaits
        · rw [hread]
          exact fun _ => h.trueRead htrue
        · rw [hread]
          exact fun _ => h.trueRead htrue
        · rw [hread]
          exact h.flushesRead
      · have hoobe : (watched.handle (.SubmitTask (some task))).system.oobe =
            { watched.system.oobe with oobeTasks := watched.system.oobe.oobeTasks ++ [task] } :=
          congrArg Prod.fst (if_neg htrue)
        refine ⟨?_, ?_, ?_, ?_, ?_⟩
        · rw [hoobe, haccepted, ← h.inOrder, List.append_assoc]
        · rw [hoobe]
          exact fun hafter => absurd hafter htrue
        · rw [hoobe]
          exact fun hafter => absurd hafter htrue
        · rw [hread, hoobe]
          exact h.executedRead
        · rw [hread]
          exact h.flushesRead

theorem read_sound {watched : Watched Task} (h : watched.Sound) (flush : Nat) (succeeds : Bool) :
    (watched.handle (.readValue flush succeeds)).Sound := by
  have hkept : watched.hasRead = true →
      (watched.handle (.readValue flush succeeds)).hasRead = true :=
    fun hread => Bool.or_eq_true_iff.mpr (Or.inl hread)
  have hoobe : (watched.handle (.readValue flush succeeds)).system.oobe = watched.system.oobe := by
    rw [handle, System.handle]
    split_ifs <;> rfl
  refine h.of_oobe_eq hoobe (List.append_nil _) hkept ?_
  intro other result hlookup hresult
  by_cases hreads : succeeds = true ∧ (watched.system.flushes.lookup flush).isNone = true
  · simp only [handle, System.handle, if_pos hreads] at hlookup
    rw [AssocMap.lookup_insert_ite] at hlookup
    split_ifs at hlookup with hsame
    · obtain rfl := Option.some.inj hlookup
      have hnew : nonzero (watched.reads? (.readValue flush succeeds)) = true := by
        rw [reads?, if_pos hreads]
        exact decide_eq_true hresult
      exact Bool.or_eq_true_iff.mpr (Or.inr hnew)
    · exact hkept (h.flushesRead other result hlookup hresult)
  · simp only [handle, System.handle, if_neg hreads] at hlookup
    exact hkept (h.flushesRead other result hlookup hresult)

theorem system_apply_none {watched : Watched Task} {flush : Nat}
    (hlookup : watched.system.flushes.lookup flush = none) :
    (watched.handle (.applyValue flush)).system = watched.system := by
  simp only [handle, System.handle, hlookup]

theorem system_apply_zero {watched : Watched Task} {flush : Nat}
    (hlookup : watched.system.flushes.lookup flush = some 0) :
    (watched.handle (.applyValue flush)).system = { watched.system with
      oobe := { watched.system.oobe with oobeValue := .IS_FALSE }
      flushes := watched.system.flushes.erase flush } := by
  simp only [handle, System.handle, hlookup]
  rfl

theorem system_apply_nonzero {watched : Watched Task} {flush : Nat} {result : Int}
    (hlookup : watched.system.flushes.lookup flush = some result) (hresult : result ≠ 0) :
    (watched.handle (.applyValue flush)).system = { watched.system with
      oobe := ⟨.IS_TRUE, [], watched.system.oobe.executed ++ watched.system.oobe.oobeTasks⟩
      flushes := watched.system.flushes.erase flush } := by
  simp only [handle, System.handle, hlookup, OOBEManager.applyResult, if_pos hresult]

theorem apply_sound {watched : Watched Task} (h : watched.Sound) (flush : Nat) :
    (watched.handle (.applyValue flush)).Sound := by
  have hread : (watched.handle (.applyValue flush)).hasRead = watched.hasRead := Bool.or_false _
  have haccepted : (watched.handle (.applyValue flush)).accepted = watched.accepted :=
    List.append_nil _
  have hflushes : ∀ other value, (watched.system.flushes.erase flush).lookup other =
      some value → value ≠ 0 → watched.hasRead = true := by
    intro other value hother
    rw [AssocMap.lookup_erase_ite] at hother
    split_ifs at hother
    exact h.flushesRead other value hother
  cases hlookup : watched.system.flushes.lookup flush with
  | none =>
      have hsystem := system_apply_none hlookup
      refine h.of_oobe_eq (congrArg System.oobe hsystem) haccepted (hread ▸ id) ?_
      rw [hsystem, hread]
      exact h.flushesRead
  | some result =>
      by_cases hresult : result = 0
      · subst hresult
        have hsystem := system_apply_zero hlookup
        refine ⟨?_, ?_, ?_, ?_, ?_⟩
        · rw [hsystem, haccepted]
          exact h.inOrder
        · rw [hsystem]
          exact fun htrue => by cases htrue
        · rw [hsystem]
          exact fun htrue => by cases htrue
        · rw [hsystem, hread]
          exact h.executedRead
        · rw [hsystem, hread]
          exact hflushes
      · have hsystem := system_apply_nonzero hlookup hresult
        have hseen := h.flushesRead flush result hlookup hresult
        refine ⟨?_, ?_, ?_, ?_, ?_⟩
        · rw [hsystem, haccepted, ← h.inOrder, List.append_nil]
        · rw [hsystem]
          exact fun _ => rfl
        · rw [hread]
          exact fun _ => hseen
        · rw [hread]
          exact fun _ => hseen
        · rw [hsystem, hread]
          exact hflushes

theorem agree_sound {watched : Watched Task} (h : watched.Sound) (value : Int) :
    (watched.handle (.agree value)).Sound := by
  have hread : (watched.handle (.agree value)).hasRead = watched.hasRead := Bool.or_false _
  have hsystem : (watched.handle (.agree value)).system.oobe = watched.system.oobe ∧
      (watched.handle (.agree value)).system.flushes = watched.system.flushes := by
    simp only [handle, System.handle]
    split_ifs <;> exact ⟨rfl, rfl⟩
  refine h.of_oobe_eq hsystem.1 (List.append_nil _) (hread ▸ id) ?_
  rw [hsystem.2, hread]
  exact h.flushesRead

theorem handle_sound (watched : Watched Task) (event : Event Task) (h : watched.Sound) :
    (watched.handle event).Sound := by
  cases event with
  | SubmitTask task => exact submit_sound h task
  | readValue flush succeeds => exact read_sound h flush succeeds
  | applyValue flush => exact apply_sound h flush
  | agree value => exact agree_sound h value

/-! ## When the value stays true -/

/-- Beside what every step keeps, it is the value that tells whether every task runs once. -/
theorem Sound.runOnce_iff {watched : Watched Task} (h : watched.Sound) :
    watched.RunOnce ↔ (watched.hasApplied = true → watched.system.oobe.oobeValue = .IS_TRUE) := by
  refine ⟨fun hrun => hrun.staysTrue, fun htrue => ⟨?_, h.executedRead, ?_, htrue⟩⟩
  · exact ⟨_, h.inOrder⟩
  · intro happlied
    rw [← h.inOrder, h.noneWaits (htrue happlied), List.append_nil]

/-- Only the application of a zero takes the value away, and only that of another value is counted
as applied. -/
theorem oobeValue_handle (watched : Watched Task) (event : Event Task) :
    (watched.handle event).system.oobe.oobeValue =
      match watched.result? event with
      | none => watched.system.oobe.oobeValue
      | some result => if result ≠ 0 then .IS_TRUE else .IS_FALSE := by
  cases event with
  | SubmitTask task =>
      cases task with
      | none => rfl
      | some task =>
          simp only [handle, System.handle, OOBEManager.SubmitTask, result?]
          split_ifs <;> rfl
  | readValue flush succeeds =>
      simp only [handle, System.handle, result?]
      split_ifs <;> rfl
  | applyValue flush =>
      simp only [handle, System.handle, result?]
      cases watched.system.flushes.lookup flush with
      | none => rfl
      | some result =>
          simp only [OOBEManager.applyResult]
          split_ifs <;> rfl
  | agree value =>
      simp only [handle, System.handle, result?]
      split_ifs <;> rfl

theorem handle_runOnce_iff (watched : Watched Task) (event : Event Task) (h : watched.Sound)
    (hrun : watched.RunOnce) : (watched.handle event).RunOnce ↔ watched.NoLateZero event := by
  rw [(handle_sound watched event h).runOnce_iff, oobeValue_handle, NoLateZero]
  cases hresult : watched.result? event with
  | none =>
      have happlied : (watched.handle event).hasApplied = watched.hasApplied := by
        rw [handle, hresult]
        exact Bool.or_false _
      rw [happlied]
      exact iff_of_true hrun.staysTrue fun _ => Option.some_ne_none _ ∘ Eq.symm
  | some result =>
      by_cases hzero : result = 0
      · subst hzero
        have happlied : (watched.handle event).hasApplied = watched.hasApplied := by
          rw [handle, hresult]
          exact Bool.or_false _
        rw [happlied]
        refine imp_congr_right fun _ => iff_of_false (fun h => by cases h) fun hne => hne rfl
      · refine iff_of_true (fun _ => if_pos hzero) fun _ heq => hzero (Option.some.inj heq)

theorem start_runOnce (stored : Int) (succeeds : Bool) :
    (start stored succeeds : Watched Task).RunOnce := by
  rw [(start_sound stored succeeds).runOnce_iff]
  intro happlied
  obtain ⟨rfl, hstored⟩ : succeeds = true ∧ stored ≠ 0 := by
    simpa [start] using happlied
  exact if_pos hstored

theorem RunOnce.executedAtOnce {watched : Watched Task} (h : watched.RunOnce)
    (event : Event Task) : watched.ExecutedAtOnce event := by
  intro task htask happlied
  cases event with
  | SubmitTask submitted =>
      obtain rfl : submitted = some task := htask
      simp only [handle, System.handle, OOBEManager.SubmitTask, if_pos (h.staysTrue happlied)]
  | _ => cases htask

/-- Over every run, each task runs once and after the agreement, and at once after it has been
applied, if and only if no flush applies a zero once a non-zero value has been applied. -/
theorem tasks_run_once_iff (stored : Int) (succeeds : Bool) (events : List (Event Task)) :
    (Always handle RunOnce (start stored succeeds) events ∧
      EachStep handle ExecutedAtOnce (start stored succeeds) events) ↔
      EachStep handle NoLateZero (start stored succeeds) events := by
  rw [← always_iff_eachStep handle handle_sound handle_runOnce_iff events _
    (start_sound stored succeeds) (start_runOnce stored succeeds)]
  refine and_iff_left_of_imp fun hruns front event hfront => ?_
  exact (hruns front ((List.prefix_append front [event]).trans hfront)).executedAtOnce event

/-- One flush reads before the agreement and applies what it has read after another has applied
the agreement. -/
def staleFlush : List (Event Nat) :=
  [.readValue 1 true, .agree 1, .readValue 2 true, .applyValue 2, .applyValue 1,
    .SubmitTask (some 7)]

theorem staleFlush_keeps_waiting :
    ¬ ∀ (stored : Int) (succeeds : Bool) (events : List (Event Nat)),
      Always handle RunOnce (start stored succeeds) events ∧
        EachStep handle ExecutedAtOnce (start stored succeeds) events := by
  intro h
  have hall := (h 0 true staleFlush).1.last.allExecuted (by decide +kernel)
  have hwaits : (run handle (start 0 true) staleFlush).system.oobe.executed = [] := by
    decide +kernel
  have haccepted : (run handle (start 0 true) staleFlush).accepted = [7] := by
    decide +kernel
  rw [hwaits, haccepted] at hall
  cases hall

end Watched

end ResSched.Oobe
