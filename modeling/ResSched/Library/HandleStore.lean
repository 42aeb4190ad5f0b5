import Mathlib.Logic.Function.Basic
import Mathlib.Tactic.Common

/-! # Handles kept at places

A store with a place for each handle, over the handles that are open. A handle that is open and kept
nowhere is lost.
-/

/-- The handle each place keeps, and what the open handles are open on. -/
structure HandleStore (π η φ : Type*) where
  kept : π → Option η
  opened : η → Option φ

namespace HandleStore

variable {π η φ : Type*}

/-- Every kept handle is open, and no handle is kept twice. -/
structure Sound (s : HandleStore π η φ) : Prop where
  open_of_kept : ∀ place handle, s.kept place = some handle → s.opened handle ≠ none
  unique : ∀ place place' handle, s.kept place = some handle → s.kept place' = some handle →
    place = place'

/-- Some open handle is kept nowhere. -/
def Leaks (s : HandleStore π η φ) : Prop :=
  ∃ handle, s.opened handle ≠ none ∧ ∀ place, s.kept place ≠ some handle

/-- Keep a handle that has been opened, in place of what was kept there. -/
def put [DecidableEq π] [DecidableEq η] (s : HandleStore π η φ) (place : π) (handle : η)
    (file : φ) : HandleStore π η φ where
  kept := Function.update s.kept place (some handle)
  opened := Function.update s.opened handle (some file)

open Classical in
/-- Close the handles of some places and keep nothing there. -/
noncomputable def release (s : HandleStore π η φ) (places : π → Prop) : HandleStore π η φ where
  kept := fun place => if places place then none else s.kept place
  opened := fun handle =>
    if ∃ place, places place ∧ s.kept place = some handle then none else s.opened handle

theorem Sound.kept_ne_fresh {s : HandleStore π η φ} (h : s.Sound) {handle : η}
    (hfresh : s.opened handle = none) (place : π) : s.kept place ≠ some handle :=
  fun hkept => h.open_of_kept place handle hkept hfresh

/-! ## Keeping a handle -/

section

variable [DecidableEq π] [DecidableEq η] {s : HandleStore π η φ} {place : π} {handle : η} {file : φ}

@[simp] theorem kept_put_self : (s.put place handle file).kept place = some handle := by
  simp [put]

theorem kept_put_of_ne {other : π} (h : other ≠ place) :
    (s.put place handle file).kept other = s.kept other := by
  simp [put, h]

theorem opened_put_self : (s.put place handle file).opened handle = some file := by
  simp [put]

theorem opened_put_of_ne {other : η} (h : other ≠ handle) :
    (s.put place handle file).opened other = s.opened other := by
  simp [put, h]

/-- What is open stays open on the same file when a fresh handle is kept. -/
theorem opened_put_of_some (hfresh : s.opened handle = none) {other : η} {file' : φ}
    (h : s.opened other = some file') : (s.put place handle file).opened other = some file' := by
  rw [opened_put_of_ne, h]
  rintro rfl
  rw [hfresh] at h
  cases h

theorem Sound.put (h : s.Sound) (hfresh : s.opened handle = none) :
    (s.put place handle file).Sound := by
  constructor
  · intro other kept hkept
    by_cases hother : other = place
    · subst hother
      rw [kept_put_self] at hkept
      obtain rfl := Option.some.inj hkept
      rw [opened_put_self]
      exact Option.some_ne_none _
    · rw [kept_put_of_ne hother] at hkept
      have hopen := h.open_of_kept other kept hkept
      rw [opened_put_of_ne]
      · exact hopen
      · rintro rfl
        exact hopen hfresh
  · intro other other' kept hkept hkept'
    by_cases hother : other = place
    · by_cases hother' : other' = place
      · rw [hother, hother']
      · subst hother
        rw [kept_put_self] at hkept
        obtain rfl := Option.some.inj hkept
        rw [kept_put_of_ne hother'] at hkept'
        exact absurd hkept' (h.kept_ne_fresh hfresh other')
    · rw [kept_put_of_ne hother] at hkept
      by_cases hother' : other' = place
      · subst hother'
        rw [kept_put_self] at hkept'
        obtain rfl := Option.some.inj hkept'
        exact absurd hkept (h.kept_ne_fresh hfresh other)
      · rw [kept_put_of_ne hother'] at hkept'
        exact h.unique other other' kept hkept hkept'

/-- A lost handle stays lost. -/
theorem Leaks.put (h : s.Leaks) (hfresh : s.opened handle = none) :
    (s.put place handle file).Leaks := by
  obtain ⟨lost, hopen, hnowhere⟩ := h
  have hne : lost ≠ handle := by
    rintro rfl
    exact hopen hfresh
  refine ⟨lost, by rwa [opened_put_of_ne hne], fun other => ?_⟩
  by_cases hother : other = place
  · rw [hother, kept_put_self]
    exact fun heq => hne (Option.some.inj heq).symm
  · rw [kept_put_of_ne hother]
    exact hnowhere other

/-- To keep another handle at a place loses the one that was kept there. -/
theorem leaks_put_of_kept (h : s.Sound) (hfresh : s.opened handle = none)
    (hkept : s.kept place ≠ none) : (s.put place handle file).Leaks := by
  obtain ⟨lost, hlost⟩ := Option.ne_none_iff_exists'.mp hkept
  have hopen := h.open_of_kept place lost hlost
  have hne : lost ≠ handle := by
    rintro rfl
    exact hopen hfresh
  refine ⟨lost, by rwa [opened_put_of_ne hne], fun other hother => ?_⟩
  by_cases hsame : other = place
  · rw [hsame, kept_put_self] at hother
    exact hne (Option.some.inj hother).symm
  · rw [kept_put_of_ne hsame] at hother
    exact hsame (h.unique other place lost hother hlost)

/-- To keep a handle at an empty place loses none. -/
theorem not_leaks_put (h : ¬ s.Leaks) (hempty : s.kept place = none) :
    ¬ (s.put place handle file).Leaks := by
  rintro ⟨lost, hopen, hnowhere⟩
  have hne : lost ≠ handle := by
    rintro rfl
    exact hnowhere place kept_put_self
  rw [opened_put_of_ne hne] at hopen
  refine h ⟨lost, hopen, fun other hother => ?_⟩
  have hsame : other ≠ place := by
    rintro rfl
    rw [hempty] at hother
    cases hother
  refine hnowhere other ?_
  rw [kept_put_of_ne hsame, hother]

end

/-! ## Closing handles -/

section

variable {s : HandleStore π η φ} (places : π → Prop)

theorem Sound.release (h : s.Sound) : (s.release places).Sound := by
  constructor
  · intro place handle hkept
    simp only [HandleStore.release] at hkept ⊢
    split_ifs at hkept with hplace
    rw [if_neg]
    · exact h.open_of_kept place handle hkept
    · rintro ⟨other, hother, hsame⟩
      exact hplace (h.unique other place handle hsame hkept ▸ hother)
  · intro place place' handle hkept hkept'
    simp only [HandleStore.release] at hkept hkept'
    split_ifs at hkept hkept'
    exact h.unique place place' handle hkept hkept'

theorem Leaks.release (h : s.Leaks) : (s.release places).Leaks := by
  obtain ⟨lost, hopen, hnowhere⟩ := h
  refine ⟨lost, ?_, fun place => ?_⟩
  · simp only [HandleStore.release]
    rw [if_neg]
    · exact hopen
    · rintro ⟨place, _, hkept⟩
      exact hnowhere place hkept
  · simp only [HandleStore.release]
    split_ifs
    · exact (Option.some_ne_none lost).symm
    · exact hnowhere place

theorem not_leaks_release (h : ¬ s.Leaks) : ¬ (s.release places).Leaks := by
  rintro ⟨lost, hopen, hnowhere⟩
  simp only [HandleStore.release] at hopen hnowhere
  split_ifs at hopen with hclosed
  · exact hopen rfl
  · refine h ⟨lost, hopen, fun place hkept => ?_⟩
    have hplace : ¬ places place := fun hplace => hclosed ⟨place, hplace, hkept⟩
    exact hnowhere place ((if_neg hplace).trans hkept)

end

end HandleStore
