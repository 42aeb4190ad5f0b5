import Mathlib.Data.List.Basic
import Mathlib.Tactic.Common

/-! # The most recent of those that qualify

A history lists its elements with the most recent one first. An element that comes up again is
listed again.
-/

variable {α : Type*}

/-- The most recent element of the history that qualifies. -/
def mostRecent (qualifies : α → Bool) (history : List α) : Option α :=
  history.find? qualifies

section

variable {p q : α → Bool} {history : List α} {a : α}

theorem qualifies_of_mostRecent (h : mostRecent p history = some a) : p a = true :=
  List.find?_some h

theorem mostRecent_cons (h : p a = true) : mostRecent p (a :: history) = some a := by
  simp [mostRecent, h]

theorem mostRecent_cons_of_not (h : p a = false) :
    mostRecent p (a :: history) = mostRecent p history := by
  simp [mostRecent, h]

theorem mem_of_mostRecent (h : mostRecent p history = some a) : a ∈ history :=
  List.mem_of_find?_eq_some h

/-- Dropping elements that do not qualify changes nothing. -/
theorem mostRecent_filter (himp : ∀ x, p x = true → q x = true) :
    mostRecent p (history.filter q) = mostRecent p history := by
  rw [mostRecent, mostRecent, List.find?_filter]
  congr 1
  funext x
  cases hp : p x with
  | false => simp
  | true => simp [himp x hp]

theorem mostRecent_congr (h : ∀ x, q x = p x) : mostRecent q history = mostRecent p history := by
  rw [funext h]

/-- Where every element that qualifies is in the history, one of them is the most recent. -/
theorem mostRecent_eq_none_iff (hmem : ∀ x, p x = true → x ∈ history) :
    mostRecent p history = none ↔ ∀ x, p x = false := by
  rw [mostRecent]
  rw [List.find?_eq_none]
  constructor
  · intro h x
    rw [← Bool.not_eq_true]
    exact fun hx => h x (hmem x hx) hx
  · intro h x _
    simp [h x]

theorem mostRecent_eq_none_of_imp (himp : ∀ x, q x = true → p x = true)
    (h : mostRecent p history = none) : mostRecent q history = none := by
  unfold mostRecent at *
  rw [List.find?_eq_none] at *
  exact fun x hx hq => h x hx (himp x hq)

/-- The most recent element stays so when others cease to qualify. -/
theorem mostRecent_eq_some_of_imp (himp : ∀ x, q x = true → p x = true)
    (h : mostRecent p history = some a) (ha : q a = true) : mostRecent q history = some a := by
  unfold mostRecent at *
  rw [List.find?_eq_some_iff_append] at *
  obtain ⟨_, front, back, hsplit, hfront⟩ := h
  refine ⟨ha, front, back, hsplit, ?_⟩
  intro x hx
  have hp := hfront x hx
  cases hq : q x with
  | false => rfl
  | true => simp [himp x hq] at hp

end
