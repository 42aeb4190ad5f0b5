import Mathlib.Data.List.AList
import Mathlib.Data.List.Sort
import Mathlib.Tactic.Common

/-! # Finite maps with one value a key

Mathlib's association lists at a constant family, with the two operations and the lookup
equations that programs over ordered and hashed maps use.
-/

/-- A finite map from `κ` to `β`. -/
abbrev AssocMap (κ β : Type*) := AList (fun _ : κ => β)

namespace AssocMap

variable {κ β : Type*} [DecidableEq κ]

/-- Replace the value stored under `k`, when there is one. -/
def modify (k : κ) (f : β → β) (m : AssocMap κ β) : AssocMap κ β :=
  match m.lookup k with
  | none => m
  | some v => m.insert k (f v)

/-- Replace every value in place. -/
def mapValues (f : κ → β → β) (m : AssocMap κ β) : AssocMap κ β :=
  ⟨m.entries.map (Sigma.map id f), List.NodupKeys.map₂ f m.entries m.nodupKeys⟩

/-- Apply `f` to every value; the type of the values may change. -/
def map {γ : Type*} (f : β → γ) (m : AssocMap κ β) : AssocMap κ γ :=
  ⟨m.entries.map (Sigma.map id fun _ => f),
    List.NodupKeys.map₂ (fun _ => f) m.entries m.nodupKeys⟩

/-- Put the entries of `source` into `m` one after the other; `f` combines what a key has, if
anything, with what it is to get. -/
def merge (f : Option β → β → β) (m source : AssocMap κ β) : AssocMap κ β :=
  source.entries.foldl (fun m entry => m.insert entry.1 (f (m.lookup entry.1) entry.2)) m

/-- Keep the entries that satisfy `p`. -/
def filter (p : κ → β → Bool) (m : AssocMap κ β) : AssocMap κ β :=
  ⟨m.entries.filter fun entry => p entry.1 entry.2,
    List.NodupKeys.sublist List.filter_sublist m.nodupKeys⟩

/-- Erase the keys of `ks` one after the other. -/
def eraseKeys (ks : List κ) (m : AssocMap κ β) : AssocMap κ β :=
  ks.foldl (fun m k => m.erase k) m

/-! ## Lookup equations -/

theorem lookup_insert_ite (m : AssocMap κ β) (k a : κ) (v : β) :
    (m.insert k v).lookup a = if a = k then some v else m.lookup a := by
  by_cases h : a = k
  · subst h
    simp
  · simp [AList.lookup_insert_ne h, h]

theorem lookup_erase_ite (m : AssocMap κ β) (k a : κ) :
    (m.erase k).lookup a = if a = k then none else m.lookup a := by
  by_cases h : a = k
  · subst h
    simp
  · simp [AList.lookup_erase_ne h, h]

theorem lookup_modify (m : AssocMap κ β) (k a : κ) (f : β → β) :
    (modify k f m).lookup a = if a = k then (m.lookup a).map f else m.lookup a := by
  rw [modify]
  by_cases h : a = k
  · subst h
    cases hm : m.lookup a <;> simp [hm]
  · cases m.lookup k with
    | none => simp [h]
    | some v => simp [h]

theorem lookup_mapValues (m : AssocMap κ β) (f : κ → β → β) (a : κ) :
    (mapValues f m).lookup a = (m.lookup a).map (f a) :=
  List.dlookup_map₂ a

theorem lookup_map {γ : Type*} (m : AssocMap κ β) (f : β → γ) (a : κ) :
    (map f m).lookup a = (m.lookup a).map f :=
  List.dlookup_map₂ a

theorem lookup_filter (m : AssocMap κ β) (p : κ → β → Bool) (a : κ) :
    (filter p m).lookup a = (m.lookup a).filter (p a) := by
  have hmem : ∀ v, (filter p m).lookup a = some v ↔ m.lookup a = some v ∧ p a v = true := by
    intro v
    rw [← Option.mem_def, AList.mem_lookup_iff, ← Option.mem_def, AList.mem_lookup_iff]
    exact List.mem_filter
  cases hlookup : m.lookup a with
  | none =>
      rw [Option.filter_none]
      refine Option.eq_none_iff_forall_not_mem.mpr ?_
      intro v hv
      have hsome := ((hmem v).mp hv).1
      rw [hlookup] at hsome
      cases hsome
  | some v =>
      by_cases hkeep : p a v = true
      · rw [Option.filter_some_pos hkeep]
        exact (hmem v).mpr ⟨hlookup, hkeep⟩
      · rw [Option.filter_some_neg (Bool.eq_false_of_not_eq_true hkeep)]
        refine Option.eq_none_iff_forall_not_mem.mpr ?_
        intro v' hv'
        obtain ⟨hsame, hkept⟩ := (hmem v').mp hv'
        rw [hlookup] at hsame
        obtain rfl := Option.some.inj hsame
        exact hkeep hkept

theorem lookup_foldl_merge (f : Option β → β → β) (entries : List (Sigma fun _ : κ => β))
    (hnodup : entries.NodupKeys) (m : AssocMap κ β) (a : κ) :
    (entries.foldl (fun m entry => m.insert entry.1 (f (m.lookup entry.1) entry.2)) m).lookup a =
      match entries.dlookup a with
      | none => m.lookup a
      | some v => some (f (m.lookup a) v) := by
  induction entries generalizing m with
  | nil => rfl
  | cons entry entries ih =>
      obtain ⟨k, v⟩ := entry
      rw [List.nodupKeys_cons] at hnodup
      rw [List.foldl_cons, ih hnodup.2, lookup_insert_ite]
      by_cases ha : a = k
      · subst ha
        have hnone : entries.dlookup a = none := List.dlookup_eq_none.mpr hnodup.1
        rw [hnone, List.dlookup_cons_eq, if_pos rfl]
      · rw [List.dlookup_cons_ne _ _ ha, if_neg ha]

theorem lookup_merge (f : Option β → β → β) (m source : AssocMap κ β) (a : κ) :
    (merge f m source).lookup a =
      match source.lookup a with
      | none => m.lookup a
      | some v => some (f (m.lookup a) v) :=
  lookup_foldl_merge f source.entries source.nodupKeys m a

/-- A loop that changes, for each element, the entry under a key of it: the entry under one key is
changed by the elements of that key alone. -/
theorem lookup_foldl_keyed {ξ : Type*} {step : AssocMap κ β → ξ → AssocMap κ β}
    {key : ξ → Option κ} {f : ξ → Option β → β}
    (hstep : ∀ m x, step m x = (key x).elim m fun k => m.insert k (f x (m.lookup k)))
    (xs : List ξ) (m : AssocMap κ β) (a : κ) :
    (xs.foldl step m).lookup a =
      (xs.filter fun x => key x = some a).foldl (fun o x => some (f x o)) (m.lookup a) := by
  induction xs generalizing m with
  | nil => rfl
  | cons x xs ih =>
      rw [List.foldl_cons, ih, hstep]
      cases hkey : key x with
      | none => rw [List.filter_cons_of_neg (by simp [hkey]), Option.elim_none]
      | some k =>
          rw [Option.elim_some, lookup_insert_ite]
          by_cases ha : a = k
          · rw [if_pos ha, List.filter_cons_of_pos (by simp [hkey, ha]), List.foldl_cons, ha]
          · rw [if_neg ha, List.filter_cons_of_neg (by simp [hkey, Ne.symm ha])]

/-- Of the values put in for one key the last one stays. -/
theorem lookup_foldl_insert (entries : List (κ × β)) (m : AssocMap κ β) (a : κ) :
    (entries.foldl (fun m entry => m.insert entry.1 entry.2) m).lookup a =
      ((entries.reverse.find? fun entry => entry.1 = a).map Prod.snd).or (m.lookup a) := by
  induction entries generalizing m with
  | nil => rfl
  | cons entry entries ih =>
      rw [List.foldl_cons, ih, lookup_insert_ite, List.reverse_cons, List.find?_append]
      by_cases hkey : entry.1 = a
      · cases entries.reverse.find? fun entry => entry.1 = a with
        | none => simp [hkey]
        | some later => simp
      · cases entries.reverse.find? fun entry => entry.1 = a with
        | none => simp [hkey, Ne.symm hkey]
        | some later => simp

theorem lookup_eraseKeys (ks : List κ) (m : AssocMap κ β) (a : κ) :
    (eraseKeys ks m).lookup a = if a ∈ ks then none else m.lookup a := by
  induction ks generalizing m with
  | nil => simp [eraseKeys]
  | cons k ks ih =>
      have hcons : eraseKeys (k :: ks) m = eraseKeys ks (m.erase k) := rfl
      rw [hcons, ih, lookup_erase_ite]
      by_cases ha : a ∈ ks
      · simp [ha]
      · simp [ha]

/-! ## Entries and keys -/

theorem mem_entries_iff (m : AssocMap κ β) (k : κ) (v : β) :
    (⟨k, v⟩ : Sigma fun _ : κ => β) ∈ m.entries ↔ m.lookup k = some v := by
  rw [← Option.mem_def]
  exact (AList.mem_lookup_iff).symm

theorem length_insert_of_none (m : AssocMap κ β) (k : κ) (v : β) (hnone : m.lookup k = none) :
    (m.insert k v).entries.length = m.entries.length + 1 := by
  rw [AList.entries_insert_of_notMem (AList.lookup_eq_none.mp hnone), List.length_cons]

theorem mem_keys_iff (m : AssocMap κ β) (k : κ) :
    k ∈ m.keys ↔ ∃ v, m.lookup k = some v := by
  rw [← AList.mem_keys, ← AList.lookup_isSome, Option.isSome_iff_exists]

/-! ## Deciding properties of all entries -/

theorem forall_lookup_iff (m : AssocMap κ β) (p : κ → β → Prop) :
    (∀ k v, m.lookup k = some v → p k v) ↔ ∀ entry ∈ m.entries, p entry.1 entry.2 := by
  constructor
  · intro h entry hentry
    exact h entry.1 entry.2 ((mem_entries_iff m entry.1 entry.2).mp hentry)
  · intro h k v hlookup
    exact h ⟨k, v⟩ ((mem_entries_iff m k v).mpr hlookup)

instance (m : AssocMap κ β) (p : κ → β → Prop) [∀ k v, Decidable (p k v)] :
    Decidable (∀ k v, m.lookup k = some v → p k v) :=
  decidable_of_iff _ (forall_lookup_iff m p).symm

instance (o : Option β) (p : β → Prop) [DecidablePred p] : Decidable (∀ v, o = some v → p v) :=
  match o with
  | none => isTrue (by simp)
  | some v => decidable_of_iff (p v) (by simp)

/-! ## Ascending iteration -/

/-- The keys in the order an ordered map iterates over them. -/
def ascendingKeys {κ β : Type*} [LinearOrder κ] (m : AssocMap κ β) : List κ :=
  m.keys.insertionSort (· ≤ ·)

theorem mem_ascendingKeys {κ β : Type*} [LinearOrder κ] (m : AssocMap κ β) (k : κ) :
    k ∈ ascendingKeys m ↔ k ∈ m.keys :=
  List.mem_insertionSort _

theorem nodup_ascendingKeys {κ β : Type*} [LinearOrder κ] (m : AssocMap κ β) :
    (ascendingKeys m).Nodup :=
  (List.perm_insertionSort _ _).nodup_iff.mpr (AList.keys_nodup m)

theorem pairwise_ascendingKeys {κ β : Type*} [LinearOrder κ] (m : AssocMap κ β) :
    (ascendingKeys m).Pairwise (· < ·) := by
  have hle : (ascendingKeys m).Pairwise (· ≤ ·) := List.pairwise_insertionSort _ _
  exact (hle.and (nodup_ascendingKeys m)).imp fun h => lt_of_le_of_ne h.1 h.2

/-- The iteration order is the only ascending list of the keys. -/
theorem ascendingKeys_eq {κ β : Type*} [LinearOrder κ] (m : AssocMap κ β) (ks : List κ)
    (hsorted : ks.Pairwise (· < ·)) (hmem : ∀ k, k ∈ m.keys ↔ k ∈ ks) : ascendingKeys m = ks :=
  (pairwise_ascendingKeys m).eq_of_mem_iff hsorted
    fun k => (mem_ascendingKeys m k).trans (hmem k)

end AssocMap
