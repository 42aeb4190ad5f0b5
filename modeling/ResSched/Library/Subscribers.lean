import ResSched.Library.AssocMap
import Mathlib.Data.List.Basic

/-! # Lists of subscribers under a topic

A finite map from topics to lists, in which a topic without subscribers need not be a key and a
subscriber may occur several times under one topic.
-/

namespace Subscribers

variable {κ ν : Type*} [DecidableEq κ]

/-- The subscribers of a topic, with repetitions. -/
def of (m : AssocMap κ (List ν)) (k : κ) : List ν :=
  (m.lookup k).getD []

def append (k : κ) (x : ν) (m : AssocMap κ (List ν)) : AssocMap κ (List ν) :=
  m.insert k (of m k ++ [x])

/-- Remove every occurrence of a subscriber from a topic, and the topic with its last one. -/
def remove [DecidableEq ν] (k : κ) (x : ν) (m : AssocMap κ (List ν)) : AssocMap κ (List ν) :=
  match m.lookup k with
  | none => m
  | some xs =>
      let rest := xs.filter (fun y => y ≠ x)
      if rest = [] then m.erase k else m.insert k rest

/-- A topic with a subscriber is a key. -/
theorem mem_keys_of_mem {m : AssocMap κ (List ν)} {k : κ} {x : ν} (h : x ∈ of m k) :
    k ∈ m.keys := by
  rw [AssocMap.mem_keys_iff]
  cases hlookup : m.lookup k with
  | none => simp [of, hlookup] at h
  | some xs => exact ⟨xs, rfl⟩

/-! ## Subscribers after an operation -/

theorem mem_append (m : AssocMap κ (List ν)) (k a : κ) (x y : ν) :
    y ∈ of (append k x m) a ↔ y ∈ of m a ∨ (a = k ∧ y = x) := by
  unfold append of
  rw [AssocMap.lookup_insert_ite]
  by_cases h : a = k
  · subst h
    simp
  · simp [h]

theorem mem_remove [DecidableEq ν] (m : AssocMap κ (List ν)) (k a : κ) (x y : ν) :
    y ∈ of (remove k x m) a ↔ y ∈ of m a ∧ ¬ (a = k ∧ y = x) := by
  unfold remove of
  cases hlookup : m.lookup k with
  | none =>
      by_cases h : a = k
      · subst h
        simp [hlookup]
      · simp [h]
  | some xs =>
      by_cases h : a = k
      · subst h
        dsimp only
        split_ifs with hrest
        · have hall : ∀ z ∈ xs, z = x := by simpa using hrest
          simp only [AList.lookup_erase, hlookup, Option.getD_none, Option.getD_some,
            List.not_mem_nil, true_and, false_iff, not_and, not_not]
          exact hall y
        · simp [hlookup]
      · dsimp only
        split_ifs with hrest
        · rw [AssocMap.lookup_erase_ite, if_neg h]
          simp [h]
        · rw [AssocMap.lookup_insert_ite, if_neg h]
          simp [h]

theorem of_eraseKeys (ks : List κ) (m : AssocMap κ (List ν)) (a : κ) :
    of (AssocMap.eraseKeys ks m) a = if a ∈ ks then [] else of m a := by
  rw [of]
  rw [AssocMap.lookup_eraseKeys]
  split_ifs <;> rfl

end Subscribers
