import ResSched.Library.AssocMap
import ResSched.Library.Channel
import Mathlib.Data.List.Count
import Mathlib.Data.List.Dedup

/-! # Occurrences counted by key and published from time to time

A system counts the keys of what it is told. When some time has passed since the last publication,
the next key is counted, the counts are published, and counting starts anew.
-/

namespace Tally

variable {κ : Type*} [DecidableEq κ]

/-- Count one more occurrence of a key; `next` is the number after a number. -/
def record (next : Nat → Nat) (counts : AssocMap κ Nat) (k : κ) : AssocMap κ Nat :=
  match counts.lookup k with
  | none => counts.insert k 1
  | some n => counts.insert k (next n)

/-- The counts of the keys of a list. -/
def tallyOf (next : Nat → Nat) (keys : List κ) : AssocMap κ Nat :=
  keys.foldl (record next) ∅

theorem tallyOf_concat (next : Nat → Nat) (keys : List κ) (k : κ) :
    tallyOf next (keys ++ [k]) = record next (tallyOf next keys) k := by
  simp [tallyOf]

theorem lookup_record (next : Nat → Nat) (counts : AssocMap κ Nat) (k a : κ) :
    (record next counts k).lookup a =
      if a = k then some ((counts.lookup k).elim 1 next) else counts.lookup a := by
  unfold record
  cases counts.lookup k <;> exact AssocMap.lookup_insert_ite counts k a _

/-- A counted key has the number of its occurrences, as far as the numbers can tell. -/
theorem lookup_tallyOf {next : Nat → Nat} (repr : Nat → Nat) (hone : repr 1 = 1)
    (hnext : ∀ n, next (repr n) = repr (n + 1)) (keys : List κ) (k : κ) :
    (tallyOf next keys).lookup k =
      if k ∈ keys then some (repr (keys.count k)) else none := by
  induction keys using List.reverseRecOn with
  | nil => simp [tallyOf]
  | append_singleton keys key ih =>
      rw [tallyOf_concat, lookup_record]
      by_cases hsame : k = key
      · subst hsame
        rw [if_pos rfl, ih]
        by_cases hmem : k ∈ keys
        · simp [hmem, hnext, List.count_append]
        · simp [hmem, hone, List.count_append, List.count_eq_zero_of_not_mem hmem]
      · rw [if_neg hsame, ih]
        simp [hsame, Ne.symm hsame, List.count_append]

theorem mem_keys_tallyOf (next : Nat → Nat) (keys : List κ) (k : κ) :
    k ∈ (tallyOf next keys).keys ↔ k ∈ keys := by
  induction keys using List.reverseRecOn with
  | nil => simp [tallyOf]
  | append_singleton keys key ih =>
      rw [tallyOf_concat, AssocMap.mem_keys_iff, List.mem_append, List.mem_singleton]
      by_cases hsame : k = key
      · simp [lookup_record, hsame]
      · simp only [lookup_record, if_neg hsame, ← AssocMap.mem_keys_iff, ih, or_iff_left hsame]

/-- In ascending order the counted keys are the keys of the list, each once. -/
theorem ascendingKeys_tallyOf {κ : Type*} [LinearOrder κ] (next : Nat → Nat) (keys : List κ) :
    (tallyOf next keys).ascendingKeys = keys.dedup.insertionSort (· ≤ ·) := by
  apply AssocMap.ascendingKeys_eq
  · have hle : (keys.dedup.insertionSort (· ≤ ·)).Pairwise (· ≤ ·) :=
      List.pairwise_insertionSort _ _
    have hnodup : (keys.dedup.insertionSort (· ≤ ·)).Nodup :=
      (List.perm_insertionSort _ _).nodup_iff.mpr (List.nodup_dedup keys)
    exact (hle.and hnodup).imp fun h => lt_of_le_of_ne h.1 h.2
  · intro k
    rw [mem_keys_tallyOf, List.mem_insertionSort, List.mem_dedup]

/-! ## Batches -/

section

variable {ε : Type*} (now : ε → Int) (interval : Int)

/-- Events cut into batches: those that come before the interval has passed, and the one that comes
after it. The second component is the batch that is still open. -/
def cut (last : Int) (opened : List ε) : List ε → List (List ε × ε) × List ε
  | [] => ([], opened)
  | e :: events =>
      if now e - last < interval then cut last (opened ++ [e]) events
      else
        let later := cut (now e) [] events
        ((opened, e) :: later.1, later.2)

/-- Every event is in exactly one batch, and the batches keep the order. -/
theorem flatten_cut (events : List ε) (last : Int) (opened : List ε) :
    (cut now interval last opened events).1.flatMap (fun batch => batch.1 ++ [batch.2]) ++
        (cut now interval last opened events).2 =
      opened ++ events := by
  induction events generalizing last opened with
  | nil => simp [cut]
  | cons e events ih =>
      rw [cut]
      split_ifs
      · rw [ih]
        simp
      · dsimp only
        rw [List.flatMap_cons, List.append_assoc, ih]
        simp

end

/-! ## Systems that count and publish -/

open Transition

/-- A view of a system with what one step does to it; `written` is what a step publishes. -/
structure Reporter {σ ε : Type*} (step : σ → ε → σ) (κ β : Type*) [DecidableEq κ] where
  counts : σ → AssocMap κ Nat
  last : σ → Int
  key : ε → κ
  now : ε → Int
  written : σ → ε → List β
  next : Nat → Nat
  interval : Int
  render : ε → AssocMap κ Nat → β
  waits : ∀ s e, now e - last s < interval →
    counts (step s e) = record next (counts s) (key e) ∧ last (step s e) = last s ∧
      written s e = []
  publishes : ∀ s e, ¬ now e - last s < interval →
    counts (step s e) = ∅ ∧ last (step s e) = now e ∧
      written s e = [render e (record next (counts s) (key e))]

namespace Reporter

variable {σ ε β : Type*} {step : σ → ε → σ} (reporter : Reporter step κ β)

/-- The counts of the keys of a batch. -/
def countsOf (batch : List ε) : AssocMap κ Nat :=
  tallyOf reporter.next (batch.map reporter.key)

theorem countsOf_concat (batch : List ε) (e : ε) :
    reporter.countsOf (batch ++ [e]) =
      record reporter.next (reporter.countsOf batch) (reporter.key e) := by
  rw [countsOf, List.map_append, List.map_singleton, tallyOf_concat, countsOf]

/-- The run lemma: what is published are the counts of the batches, and the counts held are those
of the batch that is still open. -/
theorem outputs_eq (events : List ε) (s : σ) (opened : List ε)
    (hcounts : reporter.counts s = reporter.countsOf opened) :
    outputs step reporter.written s events =
        (cut reporter.now reporter.interval (reporter.last s) opened events).1.map
          (fun batch => reporter.render batch.2 (reporter.countsOf (batch.1 ++ [batch.2]))) ∧
      reporter.counts (run step s events) =
        reporter.countsOf
          (cut reporter.now reporter.interval (reporter.last s) opened events).2 := by
  induction events generalizing s opened with
  | nil => exact ⟨rfl, hcounts⟩
  | cons e events ih =>
      rw [outputs, run_cons, cut]
      by_cases hwait : reporter.now e - reporter.last s < reporter.interval
      · obtain ⟨hnext, hlast, hwritten⟩ := reporter.waits s e hwait
        rw [if_pos hwait, hwritten, List.nil_append, ← hlast]
        rw [hcounts, ← countsOf_concat] at hnext
        exact ih (step s e) (opened ++ [e]) hnext
      · obtain ⟨hnext, hlast, hwritten⟩ := reporter.publishes s e hwait
        obtain ⟨hlater, hheld⟩ := ih (step s e) [] hnext
        rw [hlast] at hlater hheld
        rw [if_neg hwait, hwritten, hcounts, ← countsOf_concat, hlater]
        exact ⟨rfl, hheld⟩

end Reporter

end Tally
