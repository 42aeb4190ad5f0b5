import ResSched.Library.AssocMap
import Mathlib.Algebra.BigOperators.Group.List.Basic
import Mathlib.Tactic.Ring

/-! # Limiting the rate of requests

A window of time, the requests accepted in it, and finite maps that count them.
-/

namespace RateLimit

variable {κ : Type*}

/-- What is allowed in one window: `single` requests of one key and `all` requests altogether,
and how long the window lasts. -/
structure Limits where
  single : Nat
  all : Nat
  period : Int

/-- The instant the window ends and the keys accepted since it began, the latest first. -/
structure Window (κ : Type*) where
  ends : Int
  accepted : List κ

namespace Window

/-- The window at an instant; a new one begins with the first request after the end. -/
def rolled (limits : Limits) (window : Window κ) (now : Int) : Window κ :=
  if window.ends ≤ now then ⟨now + limits.period, []⟩ else window

/-- The window with one more accepted request. -/
def accept (window : Window κ) (k : κ) : Window κ :=
  { window with accepted := k :: window.accepted }

/-- The window once a request has been answered. -/
def answered (limits : Limits) (window : Window κ) (now : Int) (k : κ) (refused : Bool) :
    Window κ :=
  if refused then window.rolled limits now else (window.rolled limits now).accept k

/-- The key or all keys together have used up what the window allows. -/
def Exhausted [DecidableEq κ] (limits : Limits) (window : Window κ) (k : κ) : Prop :=
  limits.single ≤ window.accepted.count k ∨ limits.all ≤ window.accepted.length

/-- No key and not all keys together have got more than the window allows. -/
structure Within [DecidableEq κ] (limits : Limits) (window : Window κ) : Prop where
  single : ∀ k, window.accepted.count k ≤ limits.single
  all : window.accepted.length ≤ limits.all

end Window

variable [DecidableEq κ]

theorem Window.within_empty (limits : Limits) (ends : Int) :
    Window.Within limits (⟨ends, []⟩ : Window κ) :=
  ⟨fun k => by simp, by simp⟩

theorem Window.Within.accept {limits : Limits} {window : Window κ} (h : window.Within limits)
    (k : κ) (hopen : ¬ window.Exhausted limits k) : (window.accept k).Within limits := by
  rw [Window.Exhausted, not_or, not_le, not_le] at hopen
  refine ⟨?_, ?_⟩
  · intro a
    by_cases ha : a = k
    · subst ha
      simpa [Window.accept, Nat.succ_le_iff] using hopen.1
    · simpa [Window.accept, List.count_cons_of_ne (Ne.symm ha)] using h.single a
  · simpa [Window.accept, Nat.succ_le_iff] using hopen.2

/-! ## Maps that count -/

/-- The sum of all counts. -/
def total (counts : AssocMap κ Int) : Int :=
  (counts.entries.map fun entry => entry.2).sum

/-- The map counts the occurrences of every key that occurs. -/
def Tallies (counts : AssocMap κ Int) (ks : List κ) : Prop :=
  ∀ k, counts.lookup k = if k ∈ ks then some (ks.count k : Int) else none

theorem total_insert_of_none (counts : AssocMap κ Int) (k : κ) (count : Int)
    (hnone : counts.lookup k = none) : total (counts.insert k count) = count + total counts := by
  rw [total, AList.entries_insert_of_notMem (AList.lookup_eq_none.mp hnone)]
  simp [total]

theorem total_insert_of_some (counts : AssocMap κ Int) (k : κ) (old count : Int)
    (hsome : counts.lookup k = some old) :
    total (counts.insert k count) = count - old + total counts := by
  have hmem : (⟨k, old⟩ : Sigma fun _ : κ => Int) ∈ counts.entries :=
    (AssocMap.mem_entries_iff counts k old).mpr hsome
  have hperm : counts.entries.Perm (⟨k, old⟩ :: counts.entries.kerase k) := by
    obtain ⟨v, front, rest, -, hentries, herased⟩ :=
      List.exists_of_kerase (List.mem_keys_of_mem hmem)
    have hv : v = old := by
      have hv : counts.lookup k = some v :=
        (AssocMap.mem_entries_iff counts k v).mp (by rw [hentries]; simp)
      rw [hsome] at hv
      exact (Option.some.inj hv).symm
    subst hv
    rw [herased, hentries]
    exact List.perm_middle
  have hsum := (hperm.map fun entry => entry.2).sum_eq
  have hinsert : total (counts.insert k count) =
      count + ((counts.entries.kerase k).map fun entry => entry.2).sum := by
    simp [total, AList.entries_insert]
  rw [hinsert, total, hsum, List.map_cons, List.sum_cons]
  ring

theorem tallies_nil : Tallies (∅ : AssocMap κ Int) [] := by
  intro k
  simp

/-- What the map has for a key is its count, none being zero. -/
theorem Tallies.getD {counts : AssocMap κ Int} {ks : List κ} (h : Tallies counts ks) (k : κ) :
    (counts.lookup k).getD 0 = (ks.count k : Int) := by
  rw [h k]
  split_ifs with hk
  · rfl
  · simp [List.count_eq_zero_of_not_mem hk]

theorem Tallies.insert {counts : AssocMap κ Int} {ks : List κ} (h : Tallies counts ks) (k : κ)
    (count : Int) (hcount : count = (counts.lookup k).getD 0 + 1) :
    Tallies (counts.insert k count) (k :: ks) := by
  intro a
  rw [AssocMap.lookup_insert_ite]
  by_cases ha : a = k
  · subst ha
    simp [hcount, h.getD a]
  · simp [ha, h a, List.count_cons_of_ne (Ne.symm ha)]

end RateLimit
