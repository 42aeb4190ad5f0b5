import Mathlib.Data.List.Perm.Basic
import Mathlib.Tactic.Common

/-! # Sorting a list with a comparator -/

namespace ListSort

variable {α : Type*}

/-- `std::list::sort`: sort both halves and merge them. An element of the second half goes first
only where it compares less. -/
def listSort (comp : α → α → Bool) (xs : List α) : List α :=
  if h : xs.length < 2 then xs
  else
    List.merge (listSort comp (xs.take (xs.length / 2))) (listSort comp (xs.drop (xs.length / 2)))
      fun a b => !comp b a
termination_by xs.length
decreasing_by
  all_goals
    simp only [List.length_take, List.length_drop]
    omega

/-- What `std::list::sort` asks of a comparator, on the elements of a list. -/
structure StrictWeakOn (comp : α → α → Bool) (xs : List α) : Prop where
  irrefl : ∀ a ∈ xs, comp a a = false
  trans : ∀ a ∈ xs, ∀ b ∈ xs, ∀ c ∈ xs, comp a b = true → comp b c = true → comp a c = true
  equivalent : ∀ a ∈ xs, ∀ b ∈ xs, ∀ c ∈ xs, comp a b = false → comp b a = false →
    comp b c = false → comp c b = false → comp a c = false ∧ comp c a = false

section

variable {comp : α → α → Bool} {xs ys : List α}

theorem StrictWeakOn.mono (h : StrictWeakOn comp ys) (hsub : ∀ a ∈ xs, a ∈ ys) :
    StrictWeakOn comp xs where
  irrefl a ha := h.irrefl a (hsub a ha)
  trans a ha b hb c hc := h.trans a (hsub a ha) b (hsub b hb) c (hsub c hc)
  equivalent a ha b hb c hc := h.equivalent a (hsub a ha) b (hsub b hb) c (hsub c hc)

theorem StrictWeakOn.asymm (h : StrictWeakOn comp xs) {a b : α} (ha : a ∈ xs) (hb : b ∈ xs)
    (hab : comp a b = true) : comp b a = false := by
  cases hba : comp b a with
  | false => rfl
  | true =>
      have haa := h.trans a ha b hb a ha hab hba
      rw [h.irrefl a ha] at haa
      cases haa

/-- Not comparing less is transitive the other way round. -/
theorem StrictWeakOn.not_trans (h : StrictWeakOn comp xs) {a b c : α} (ha : a ∈ xs) (hb : b ∈ xs)
    (hc : c ∈ xs) (hba : comp b a = false) (hcb : comp c b = false) : comp c a = false := by
  cases hca : comp c a with
  | false => rfl
  | true =>
      have hbc : comp b c = false := by
        cases hbc : comp b c with
        | false => rfl
        | true => exact (h.trans b hb c hc a ha hbc hca).symm.trans hba
      have hab : comp a b = false := by
        cases hab : comp a b with
        | false => rfl
        | true => exact (h.trans c hc a ha b hb hca hab).symm.trans hcb
      exact hca.symm.trans (h.equivalent a ha b hb c hc hab hba hbc hcb).2

/-- An element of each list is before all of the other list that are behind it. -/
theorem pairwise_merge (h : StrictWeakOn comp (xs ++ ys))
    (hxs : xs.Pairwise fun a b => comp b a = false)
    (hys : ys.Pairwise fun a b => comp b a = false) :
    (xs.merge ys fun a b => !comp b a).Pairwise fun a b => comp b a = false := by
  induction xs generalizing ys with
  | nil => rwa [List.nil_merge]
  | cons x xs ihx =>
      induction ys with
      | nil => rwa [List.merge_right]
      | cons y ys ihy =>
          have hx : x ∈ (x :: xs) ++ (y :: ys) := List.mem_append_left _ List.mem_cons_self
          have hy : y ∈ (x :: xs) ++ (y :: ys) := List.mem_append_right _ List.mem_cons_self
          rw [List.cons_merge_cons]
          by_cases hyx : comp y x = true
          · rw [if_neg (by simp [hyx]), List.pairwise_cons]
            refine ⟨?_, ihy (h.mono ?_) (List.pairwise_cons.mp hys).2⟩
            · intro z hz
              rcases List.mem_merge.mp hz with hz | hz
              · have hzx : comp z x = false := by
                  rcases List.mem_cons.mp hz with rfl | hz
                  · exact h.irrefl z hx
                  · exact (List.pairwise_cons.mp hxs).1 z hz
                exact h.not_trans hy hx (List.mem_append_left _ hz) (h.asymm hy hx hyx) hzx
              · exact (List.pairwise_cons.mp hys).1 z hz
            · intro a ha
              rw [List.mem_append] at ha ⊢
              exact ha.imp_right (List.mem_cons_of_mem y)
          · rw [Bool.not_eq_true] at hyx
            rw [if_pos (by simp [hyx]), List.pairwise_cons]
            refine ⟨?_, ihx (h.mono ?_) (List.pairwise_cons.mp hxs).2 hys⟩
            · intro z hz
              rcases List.mem_merge.mp hz with hz | hz
              · exact (List.pairwise_cons.mp hxs).1 z hz
              · have hzy : comp z y = false := by
                  rcases List.mem_cons.mp hz with rfl | hz
                  · exact h.irrefl z hy
                  · exact (List.pairwise_cons.mp hys).1 z hz
                exact h.not_trans hx hy (List.mem_append_right _ hz) hyx hzy
            · intro a ha
              rw [List.mem_append] at ha ⊢
              exact ha.imp_left (List.mem_cons_of_mem x)

variable (comp)

theorem perm_listSort (xs : List α) : (listSort comp xs).Perm xs := by
  fun_induction listSort comp xs with
  | case1 xs h => exact List.Perm.refl xs
  | case2 xs h ihleft ihright =>
      have hhalves := (ihleft.append ihright).trans
        (List.Perm.of_eq (List.take_append_drop (xs.length / 2) xs))
      exact (List.merge_perm_append fun a b => !comp b a).trans hhalves

variable {comp}

/-- With such a comparator no element compares less than one before it. -/
theorem pairwise_listSort (h : StrictWeakOn comp xs) :
    (listSort comp xs).Pairwise fun a b => comp b a = false := by
  revert h
  fun_induction listSort comp xs with
  | case1 xs hshort =>
      intro _
      match xs, hshort with
      | [], _ => exact List.Pairwise.nil
      | [a], _ => exact List.pairwise_singleton _ a
  | case2 xs hlong ihleft ihright =>
      intro h
      refine pairwise_merge (h.mono ?_) (ihleft (h.mono fun a => List.mem_of_mem_take))
        (ihright (h.mono fun a => List.mem_of_mem_drop))
      intro a ha
      rcases List.mem_append.mp ha with hleft | hright
      · exact List.mem_of_mem_take ((perm_listSort comp _).mem_iff.mp hleft)
      · exact List.mem_of_mem_drop ((perm_listSort comp _).mem_iff.mp hright)

end

end ListSort
