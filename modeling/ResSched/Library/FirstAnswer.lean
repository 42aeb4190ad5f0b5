import Mathlib.Data.List.Basic
import Mathlib.Tactic.Common

/-! # Queries that keep their first answer

One memory shared by all the objects of a query: the first answer is looked up, and every later
query is answered from the memory.
-/

namespace FirstAnswer

variable {α β : Type*}

/-- What is kept after a query, and its answer. -/
def ask (p : α → Bool) (kept : Option Bool) (a : α) : Option Bool × Bool :=
  (some (kept.getD (p a)), kept.getD (p a))

/-- A loop that asks for every object and does `f` to those with a positive answer. -/
def collect (p : α → Bool) (f : α → β) : Option Bool → List α → Option Bool × List β
  | kept, [] => (kept, [])
  | kept, a :: rest =>
      let (kept, answer) := ask p kept a
      let (kept, results) := collect p f kept rest
      (kept, if answer then f a :: results else results)

/-- What is kept once all the objects have been asked for. -/
def keptAfter (p : α → Bool) (kept : Option Bool) (asked : List α) : Option Bool :=
  kept.or (asked.head?.map p)

/-- One answer fits what is kept and all the objects. -/
def Uniform (p : α → Bool) (kept : Option Bool) (asked : List α) : Prop :=
  ∃ answer, (∀ b, kept = some b → b = answer) ∧ ∀ a ∈ asked, p a = answer

/-! ## Loops -/

theorem collect_some (p : α → Bool) (f : α → β) (b : Bool) (asked : List α) :
    collect p f (some b) asked = (some b, if b then asked.map f else []) := by
  induction asked with
  | nil => cases b <;> rfl
  | cons a rest ih =>
      rw [collect, ask]
      simp only [Option.getD_some, ih]
      cases b <;> rfl

theorem collect_eq (p : α → Bool) (f : α → β) (kept : Option Bool) (asked : List α) :
    collect p f kept asked =
      (keptAfter p kept asked, if keptAfter p kept asked = some true then asked.map f else []) := by
  cases kept with
  | some b =>
      rw [collect_some]
      cases b <;> rfl
  | none =>
      cases asked with
      | nil => rfl
      | cons a rest =>
          rw [collect, ask]
          simp only [Option.getD_none, collect_some]
          cases h : p a <;> simp [keptAfter, h]

/-! ## When the kept answer is everybody's -/

theorem uniform_some_iff (p : α → Bool) (b : Bool) (asked : List α) :
    Uniform p (some b) asked ↔ ∀ a ∈ asked, p a = b := by
  constructor
  · rintro ⟨answer, hkept, hasked⟩
    rw [hkept b rfl]
    exact hasked
  · intro h
    exact ⟨b, fun b' hb' => (Option.some.inj hb').symm, h⟩

theorem uniform_nil (p : α → Bool) (kept : Option Bool) : Uniform p kept [] := by
  cases kept with
  | none => exact ⟨true, by simp, by simp⟩
  | some b => exact (uniform_some_iff p b []).mpr (by simp)

theorem uniform_cons_iff (p : α → Bool) (kept : Option Bool) (a : α) (rest : List α) :
    Uniform p kept (a :: rest) ↔
      kept.getD (p a) = p a ∧ Uniform p (some (p a)) rest := by
  rw [uniform_some_iff]
  constructor
  · rintro ⟨answer, hkept, hasked⟩
    have ha : p a = answer := hasked a List.mem_cons_self
    refine ⟨?_, ?_⟩
    · cases kept with
      | none => rfl
      | some b => rw [Option.getD_some, hkept b rfl, ha]
    · intro a' ha'
      rw [hasked a' (List.mem_cons_of_mem a ha'), ha]
  · rintro ⟨hkept, hrest⟩
    refine ⟨p a, ?_, ?_⟩
    · rintro b rfl
      exact hkept
    · intro a' ha'
      rcases List.mem_cons.mp ha' with rfl | ha'
      · rfl
      · exact hrest a' ha'

/-- Objects asked for in two parts are uniform when the second part agrees with what the first
leaves behind. -/
theorem uniform_append_iff (p : α → Bool) (kept : Option Bool) (asked later : List α) :
    Uniform p kept (asked ++ later) ↔
      Uniform p kept asked ∧ Uniform p (keptAfter p kept asked) later := by
  cases asked with
  | nil =>
      simp [uniform_nil p kept, keptAfter]
  | cons a rest =>
      rw [List.cons_append, uniform_cons_iff, uniform_cons_iff, uniform_some_iff,
        uniform_some_iff, List.forall_mem_append, and_assoc]
      refine and_congr_right fun hkept => and_congr_right fun _ => ?_
      have hafter : keptAfter p kept (a :: rest) = some (p a) := by
        cases kept with
        | none => rfl
        | some b =>
            rw [Option.getD_some] at hkept
            simp [keptAfter, hkept]
      rw [hafter, uniform_some_iff]

theorem uniform_none_iff (p : α → Bool) (asked : List α) :
    Uniform p none asked ↔ ∀ a ∈ asked, ∀ b ∈ asked, p a = p b := by
  constructor
  · rintro ⟨answer, -, hasked⟩ a ha b hb
    rw [hasked a ha, hasked b hb]
  · intro h
    cases asked with
    | nil => exact ⟨true, by simp, by simp⟩
    | cons a rest =>
        exact ⟨p a, by simp, fun a' ha' => h a' ha' a List.mem_cons_self⟩

theorem ask_snd_iff (p : α → Bool) (kept : Option Bool) (a : α) :
    (ask p kept a).2 = p a ↔ Uniform p kept [a] := by
  rw [uniform_cons_iff, uniform_some_iff]
  simp [ask]

/-- A loop collects exactly the objects of the predicate when they are uniform. -/
theorem collect_snd_iff (p : α → Bool) (f : α → β) (kept : Option Bool) (asked : List α) :
    (collect p f kept asked).2 = (asked.filter p).map f ↔ Uniform p kept asked := by
  have hlength : ∀ b : Bool, (if b then asked.map f else []) = (asked.filter p).map f ↔
      ∀ a ∈ asked, p a = b := by
    intro b
    cases b with
    | false =>
        rw [if_neg (by simp), eq_comm, List.map_eq_nil_iff, List.filter_eq_nil_iff]
        simp
    | true =>
        rw [if_pos rfl]
        constructor
        · intro h
          have hcount : (asked.filter p).length = asked.length := by
            simpa using (congrArg List.length h).symm
          exact List.length_filter_eq_length_iff.mp hcount
        · intro h
          rw [List.filter_eq_self.mpr h]
  cases kept with
  | some b =>
      rw [collect_some, uniform_some_iff]
      exact hlength b
  | none =>
      cases asked with
      | nil => simpa [collect] using uniform_nil p none
      | cons a rest =>
          have hcollect : (collect p f none (a :: rest)).2 =
              if p a = true then (a :: rest).map f else [] := by
            rw [collect_eq]
            cases h : p a <;> simp [keptAfter, h]
          rw [hcollect, hlength (p a), uniform_cons_iff, uniform_some_iff]
          simp

end FirstAnswer
