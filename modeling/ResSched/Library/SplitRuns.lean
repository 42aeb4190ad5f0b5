import Mathlib.Data.List.SplitBy

/-! # Maximal runs of a growing list -/

namespace SplitRuns

variable {α : Type*} {r : α → α → Bool}

/-- An element that does not follow the last one opens a run. -/
theorem splitBy_concat_of_false {l : List α} {a : α} (h : ∀ x ∈ l.getLast?, r x a = false) :
    (l ++ [a]).splitBy r = l.splitBy r ++ [[a]] :=
  List.splitBy_append_cons [] h

/-- The last element of a list is that of its last run. -/
theorem getLast?_of_splitBy {l : List α} {runs : List (List α)} {last : List α}
    (hsplit : l.splitBy r = runs ++ [last]) : l.getLast? = last.getLast? := by
  obtain ⟨rfl, hnil, -, -⟩ := List.splitBy_eq_iff.mp hsplit
  have hlast : last ≠ [] := by
    rintro rfl
    exact hnil (by simp)
  rw [List.flatten_append, List.flatten_singleton, List.getLast?_append_of_ne_nil _ hlast]

/-- An element that follows the last one joins the last run. -/
theorem splitBy_concat_of_true {l : List α} {a : α} {runs : List (List α)} {last : List α}
    (hsplit : l.splitBy r = runs ++ [last]) (h : ∀ x ∈ l.getLast?, r x a = true) :
    (l ++ [a]).splitBy r = runs ++ [last ++ [a]] := by
  have hend := getLast?_of_splitBy hsplit
  obtain ⟨hflat, hnil, hchain, hborder⟩ := List.splitBy_eq_iff.mp hsplit
  rw [List.mem_append, not_or] at hnil
  have hlast : last ≠ [] := fun heq => hnil.2 (by rw [heq]; exact List.mem_singleton_self _)
  rw [List.splitBy_eq_iff]
  refine ⟨?_, ?_, ?_, ?_⟩
  · rw [hflat]
    simp
  · simp [hnil.1]
  · intro run hrun
    rcases List.mem_append.mp hrun with hold | hnew
    · exact hchain run (List.mem_append_left _ hold)
    · rw [List.mem_singleton.mp hnew, List.isChain_append]
      refine ⟨hchain last (List.mem_append_right _ (List.mem_singleton_self _)),
        List.isChain_singleton a, ?_⟩
      intro x hx y hy
      obtain rfl : a = y := by simpa using hy
      exact h x (hend ▸ hx)
  · rw [List.isChain_append] at hborder ⊢
    refine ⟨hborder.1, List.isChain_singleton _, ?_⟩
    intro run hrun next hnext
    obtain rfl : last ++ [a] = next := by simpa using hnext
    obtain ⟨hne, _, hfalse⟩ := hborder.2.2 run hrun last (by simp)
    refine ⟨hne, by simp, ?_⟩
    rwa [List.head_append_of_ne_nil hlast]

end SplitRuns
