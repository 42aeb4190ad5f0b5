import Mathlib.Data.List.Induction
import Mathlib.Tactic.Common

/-! # Parsed JSON payloads -/

namespace ResSched

/-- A JSON value with strings of type `S`; numbers keep the kind the parser gave them. -/
inductive Json (S : Type) where
  | null
  | bool (b : Bool)
  | int (i : Int)
  | uint (n : Nat)
  | float (bits : UInt64)
  | string (s : S)
  | array (elements : List (Json S))
  | object (members : List (S × Json S))

namespace Json

variable {S : Type}

def is_object : Json S → Bool
  | object _ => true
  | _ => false

def is_array : Json S → Bool
  | array _ => true
  | _ => false

/-- `is_number_integer` holds of signed and unsigned integers alike. -/
def is_number_integer : Json S → Bool
  | int _ => true
  | uint _ => true
  | _ => false

/-- The member stored under `key`, for an object that contains it. -/
def find? [DecidableEq S] (key : S) : Json S → Option (Json S)
  | object members => (members.find? (fun entry => entry.1 = key)).map Prod.snd
  | _ => none

def contains [DecidableEq S] (json : Json S) (key : S) : Bool :=
  (json.find? key).isSome

/-- `json[key] = value` on an object; an empty value becomes an object first. Other values,
on which the assignment raises, are returned as they are. -/
def set [DecidableEq S] (json : Json S) (key : S) (value : Json S) : Json S :=
  match json with
  | null => object [(key, value)]
  | object members => object ((members.filter (fun entry => entry.1 ≠ key)) ++ [(key, value)])
  | json => json

/-- The object that assignments one after the other build. -/
def assign [DecidableEq S] (members : List (S × Json S)) : Json S :=
  members.foldl (fun json member => json.set member.1 member.2) null

/-- The string a JSON string holds. -/
def string? : Json S → Option S
  | string s => some s
  | _ => none

/-- The integer a JSON integer denotes. -/
def integer? : Json S → Option Int
  | int i => some i
  | uint n => some n
  | _ => none

/-! ## Members after an assignment -/

variable [DecidableEq S]

theorem is_object_of_find? {json : Json S} {key : S} {value : Json S}
    (h : json.find? key = some value) : json.is_object := by
  cases json with
  | object members => rfl
  | _ => simp [find?] at h

theorem find?_set_self (json : Json S) (key : S) (value : Json S) (hobject : json.is_object) :
    (json.set key value).find? key = some value := by
  cases json with
  | object members =>
      have hnone : (members.filter fun entry => entry.1 ≠ key).find?
          (fun entry => entry.1 = key) = none := by
        rw [List.find?_eq_none]
        intro entry hentry
        simpa using (List.mem_filter.mp hentry).2
      rw [set, find?, List.find?_append, hnone]
      simp
  | _ => simp [is_object] at hobject

theorem find?_set_ne (json : Json S) (key other : S) (value : Json S) (hne : other ≠ key)
    (hobject : json.is_object) : (json.set key value).find? other = json.find? other := by
  cases json with
  | object members =>
      have hlast : [(key, value)].find? (fun entry => entry.1 = other) = none := by
        simpa using hne.symm
      rw [set, find?, find?, List.find?_append, hlast, Option.or_none,
        List.find?_filter]
      congr 2
      funext entry
      by_cases hentry : entry.1 = other
      · simp [hentry, hne]
      · simp [hentry]
  | _ => simp [is_object] at hobject

theorem is_object_set (json : Json S) (key : S) (value : Json S) (hobject : json.is_object) :
    (json.set key value).is_object := by
  cases json with
  | object members => rfl
  | _ => simp [is_object] at hobject

theorem set_assign (members : List (S × Json S)) (key : S) (value : Json S) :
    (assign members).set key value = assign (members ++ [(key, value)]) := by
  rw [assign, assign, List.foldl_append]
  rfl

theorem assign_eq {members : List (S × Json S)} (hne : members ≠ [])
    (hkeys : (members.map Prod.fst).Nodup) : assign members = object members := by
  induction members using List.reverseRecOn with
  | nil => exact absurd rfl hne
  | append_singleton members member ih =>
      rw [assign, List.foldl_append, List.foldl_cons, List.foldl_nil]
      rw [List.map_append, List.nodup_append] at hkeys
      cases members with
      | nil => rfl
      | cons first members =>
          have hbefore : (first :: members).filter (fun entry => entry.1 ≠ member.1) =
              first :: members := by
            rw [List.filter_eq_self]
            intro entry hentry
            have hne := hkeys.2.2 entry.1 (List.mem_map_of_mem hentry) member.1 (by simp)
            simpa using hne
          have hobject := ih (by simp) hkeys.1
          rw [assign] at hobject
          rw [hobject, set, hbefore]

/-- Assignments to different keys are read back. -/
theorem find?_assign {members : List (S × Json S)} {key : S} {value : Json S}
    (hkeys : (members.map Prod.fst).Nodup) (hmem : (key, value) ∈ members) :
    (assign members).find? key = some value := by
  have hfind : members.find? (fun entry => entry.1 = key) = some (key, value) := by
    rw [List.find?_eq_some_iff_append]
    obtain ⟨before, after, rfl⟩ := List.append_of_mem hmem
    refine ⟨by simp, before, after, rfl, fun entry hentry => ?_⟩
    rw [List.map_append, List.nodup_append] at hkeys
    have hne := hkeys.2.2 entry.1 (List.mem_map_of_mem hentry) key (by simp)
    simpa using hne
  rw [assign_eq (List.ne_nil_of_mem hmem) hkeys, find?, hfind]
  rfl

/-- A key that is not assigned is not found. -/
theorem find?_assign_of_notMem {members : List (S × Json S)} {key : S}
    (hkeys : (members.map Prod.fst).Nodup) (hkey : key ∉ members.map Prod.fst) :
    (assign members).find? key = none := by
  by_cases hne : members = []
  · subst hne
    rfl
  · have hfind : members.find? (fun entry => entry.1 = key) = none := by
      rw [List.find?_eq_none]
      intro entry hentry hsame
      exact hkey (List.mem_map.mpr ⟨entry, hentry, by simpa using hsame⟩)
    rw [assign_eq hne hkeys, find?, hfind]
    rfl

end Json

end ResSched
