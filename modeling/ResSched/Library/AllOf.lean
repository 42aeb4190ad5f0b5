import Mathlib.Data.Finset.Insert
import Mathlib.Tactic.Common

/-! # Conditions on all members of a finite set -/

namespace AllOf

variable {α : Type*}

/-- When a condition changes at one point only, whether all members meet it stays the same unless
all other members do and the point's own answer changes. -/
theorem forall_mem_congr_iff {s : Finset α} {q q' : α → Prop} (a : α)
    (hoff : ∀ b, b ≠ a → (q' b ↔ q b)) :
    ((∀ b ∈ s, q' b) ↔ ∀ b ∈ s, q b) ↔
      (a ∈ s → (∀ b ∈ s, b ≠ a → q b) → (q' a ↔ q a)) := by
  constructor
  · intro hall ha hothers
    constructor
    · intro hqa
      refine hall.mp ?_ a ha
      intro b hb
      by_cases hba : b = a
      · rw [hba]
        exact hqa
      · exact (hoff b hba).mpr (hothers b hb hba)
    · intro hqa
      refine hall.mpr ?_ a ha
      intro b hb
      by_cases hba : b = a
      · rw [hba]
        exact hqa
      · exact hothers b hb hba
  · intro hpoint
    have hto : ∀ p p' : α → Prop, (∀ b, b ≠ a → (p b → p' b)) →
        (a ∈ s → (∀ b ∈ s, b ≠ a → p' b) → (p a → p' a)) →
          (∀ b ∈ s, p b) → ∀ b ∈ s, p' b := by
      intro p p' himp ha hall b hb
      have hothers : ∀ b ∈ s, b ≠ a → p' b := fun b hb hba => himp b hba (hall b hb)
      by_cases hba : b = a
      · subst hba
        exact ha hb hothers (hall b hb)
      · exact hothers b hb hba
    constructor
    · refine hto q' q (fun b hba => (hoff b hba).mp) ?_
      intro ha hothers
      exact (hpoint ha hothers).mp
    · refine hto q q' (fun b hba => (hoff b hba).mpr) ?_
      intro ha hothers
      exact (hpoint ha fun b hb hba => (hoff b hba).mp (hothers b hb hba)).mpr

/-- All of a set with one more member. -/
theorem forall_mem_insert_off [DecidableEq α] (s : Finset α) (q : α → Prop) (a : α) :
    (∀ b ∈ insert a s, q b) ↔ q a ∧ ∀ b ∈ s, b ≠ a → q b := by
  constructor
  · intro h
    exact ⟨h a (Finset.mem_insert_self a s), fun b hb _ => h b (Finset.mem_insert_of_mem hb)⟩
  · rintro ⟨ha, hothers⟩ b hb
    by_cases hba : b = a
    · rw [hba]
      exact ha
    · exact hothers b ((Finset.mem_insert.mp hb).resolve_left hba) hba

/-- Whether a member is the only one or all meet a condition says the same as that the others
meet it, unless there are others, they all do, and the member itself does not. -/
theorem only_or_all_iff {s : Finset α} {q : α → Prop} (a : α) :
    (((∀ b ∈ s, b = a) ∨ s ≠ ∅ ∧ ∀ b ∈ s, q b) ↔ ∀ b ∈ s, b ≠ a → q b) ↔
      (a ∈ s → s ≠ {a} → (∀ b ∈ s, b ≠ a → q b) → q a) := by
  constructor
  · intro h ha hmore hothers
    rcases h.mpr hothers with hone | ⟨_, hall⟩
    · exact absurd (Finset.eq_singleton_iff_unique_mem.mpr ⟨ha, hone⟩) hmore
    · exact hall a ha
  · intro h
    constructor
    · rintro (hone | ⟨_, hall⟩) b hb hba
      · exact absurd (hone b hb) hba
      · exact hall b hb
    · intro hothers
      by_cases hone : ∀ b ∈ s, b = a
      · exact Or.inl hone
      · push Not at hone
        obtain ⟨c, hc, hca⟩ := hone
        refine Or.inr ⟨Finset.ne_empty_of_mem hc, fun b hb => ?_⟩
        by_cases hba : b = a
        · subst hba
          refine h hb (fun hsingle => hca ?_) hothers
          exact Finset.mem_singleton.mp (hsingle ▸ hc)
        · exact hothers b hb hba

end AllOf
