import Mathlib.Tactic.Common

/-! # Requests of a log that no later one takes back -/

namespace Ledger

variable {α : Type*} {opens closes : α → Prop}

/-- A log has a request that opens, and none that closes after it. -/
def Outstanding (opens closes : α → Prop) (log : List α) : Prop :=
  ∃ before request after, log = before ++ request :: after ∧ opens request ∧
    ∀ later ∈ after, ¬ closes later

/-- What is open after more requests is open by one of these, or was open and none closes it. -/
theorem outstanding_append_iff (log more : List α) :
    Outstanding opens closes (log ++ more) ↔
      Outstanding opens closes more ∨
        Outstanding opens closes log ∧ ∀ later ∈ more, ¬ closes later := by
  constructor
  · rintro ⟨before, request, after, heq, hopens, hafter⟩
    rcases List.append_eq_append_iff.mp heq with ⟨rest, hbefore, hmore⟩ | ⟨rest, hlog, htail⟩
    · exact Or.inl ⟨rest, request, after, hmore, hopens, hafter⟩
    · cases rest with
      | nil =>
          exact Or.inl ⟨[], request, after, htail.symm, hopens, hafter⟩
      | cons first rest =>
          obtain ⟨rfl, rfl⟩ := List.cons.inj htail
          refine Or.inr ⟨⟨before, request, rest, hlog, hopens, ?_⟩, ?_⟩
          · intro later hmem
            exact hafter later (List.mem_append_left more hmem)
          · intro later hmem
            exact hafter later (List.mem_append_right rest hmem)
  · rintro (⟨before, request, after, hmore, hopens, hafter⟩ |
      ⟨⟨before, request, after, hlog, hopens, hafter⟩, hmore⟩)
    · refine ⟨log ++ before, request, after, ?_, hopens, hafter⟩
      rw [hmore, List.append_assoc]
    · refine ⟨before, request, after ++ more, ?_, hopens, ?_⟩
      · rw [hlog, List.append_assoc, List.cons_append]
      · intro later hmem
        rcases List.mem_append.mp hmem with hmem | hmem
        · exact hafter later hmem
        · exact hmore later hmem

theorem Outstanding.exists_opens {log : List α} (h : Outstanding opens closes log) :
    ∃ request ∈ log, opens request := by
  obtain ⟨before, request, after, rfl, hopens, -⟩ := h
  exact ⟨request, List.mem_append_right before List.mem_cons_self, hopens⟩

theorem outstanding_concat_iff (log : List α) (request : α) :
    Outstanding opens closes (log ++ [request]) ↔
      opens request ∨ Outstanding opens closes log ∧ ¬ closes request := by
  rw [outstanding_append_iff]
  refine or_congr ?_ (and_congr Iff.rfl (by simp))
  constructor
  · intro h
    obtain ⟨found, hmem, hopens⟩ := h.exists_opens
    rwa [List.mem_singleton.mp hmem] at hopens
  · exact fun h => ⟨[], request, [], rfl, h, fun _ hlater => absurd hlater List.not_mem_nil⟩

/-- Requests that open nothing leave open what was open, unless one closes it. -/
theorem outstanding_append_iff_of_no_opens {log more : List α}
    (h : ∀ request ∈ more, ¬ opens request) :
    Outstanding opens closes (log ++ more) ↔
      Outstanding opens closes log ∧ ∀ later ∈ more, ¬ closes later := by
  rw [outstanding_append_iff, or_iff_right]
  intro hmore
  obtain ⟨request, hmem, hopens⟩ := hmore.exists_opens
  exact h request hmem hopens

end Ledger
