import ResSched.Library.AssocMap
import ResSched.Library.WriteLog
import Mathlib.Data.List.MinMax

/-! # Maps of bounded size that give up the least recently used key

The map dates the last use of each key. A list with the most recently used key first represents
it.
-/

/-- A value and the time of its last use. -/
structure Dated (β : Type*) where
  value : β
  lastUse : Nat

structure LruMap (κ β : Type*) where
  held : AssocMap κ (Dated β)
  clock : Nat

/-- The calls on the map. -/
inductive LruCall (κ β : Type*) where
  | get (key : κ)
  | put (key : κ) (value : β)

namespace LruMap

variable {κ β : Type*} [DecidableEq κ]

def empty : LruMap κ β :=
  ⟨∅, 0⟩

def size (m : LruMap κ β) : Nat :=
  m.held.entries.length

def find? (m : LruMap κ β) (key : κ) : Option β :=
  (m.held.lookup key).map Dated.value

/-- The time of the last use of a key. -/
def usedAt (m : LruMap κ β) (key : κ) : Nat :=
  ((m.held.lookup key).map Dated.lastUse).getD 0

/-- Store a value under a key and date it. -/
def touch (m : LruMap κ β) (key : κ) (value : β) : LruMap κ β :=
  ⟨m.held.insert key ⟨value, m.clock⟩, m.clock + 1⟩

def evict (m : LruMap κ β) (key : κ) : LruMap κ β :=
  ⟨m.held.erase key, m.clock⟩

/-- The key whose last use is the earliest. -/
def leastRecent (m : LruMap κ β) : Option κ :=
  m.held.keys.argmin m.usedAt

/-- The key that has to go before `key` is stored: one goes only for a new key at full size. -/
def victim (capacity : Nat) (m : LruMap κ β) (key : κ) : Option κ :=
  if (m.find? key).isNone ∧ capacity ≤ m.size then m.leastRecent else none

/-- The map after a call, and what the call returns. -/
def handle (capacity : Nat) (m : LruMap κ β) : LruCall κ β → LruMap κ β × Option β
  | .get key => ((m.find? key).elim m (m.touch key), m.find? key)
  | .put key value => (((m.victim capacity key).elim m m.evict).touch key value, none)

/-- The keys a call gives a value to or takes it from. -/
def writes (capacity : Nat) (m : LruMap κ β) : LruCall κ β → List (κ × Option β)
  | .get _ => []
  | .put key value =>
      ((m.victim capacity key).map fun lost => (lost, none)).toList ++ [(key, some value)]

/-- The map after some calls, and what they return. -/
def serve (capacity : Nat) (m : LruMap κ β) : List (LruCall κ β) → LruMap κ β × List (Option β)
  | [] => (m, [])
  | call :: calls =>
      let (after, answer) := m.handle capacity call
      let (last, answers) := after.serve capacity calls
      (last, answer :: answers)

/-- The values put and the keys evicted by some calls, in order. -/
def history (capacity : Nat) (m : LruMap κ β) : List (LruCall κ β) → List (κ × Option β)
  | [] => []
  | call :: calls => m.writes capacity call ++ (m.handle capacity call).1.history capacity calls

/-! ## Contents of the map -/

theorem find?_touch (m : LruMap κ β) (key other : κ) (value : β) :
    (m.touch key value).find? other = if other = key then some value else m.find? other := by
  rw [find?, touch, AssocMap.lookup_insert_ite]
  split_ifs <;> rfl

theorem find?_evict (m : LruMap κ β) (key other : κ) :
    (m.evict key).find? other = if other = key then none else m.find? other := by
  rw [find?, evict, AssocMap.lookup_erase_ite]
  split_ifs <;> rfl

theorem usedAt_touch (m : LruMap κ β) (key other : κ) (value : β) :
    (m.touch key value).usedAt other = if other = key then m.clock else m.usedAt other := by
  rw [usedAt, touch, AssocMap.lookup_insert_ite]
  split_ifs <;> rfl

theorem usedAt_evict_of_ne (m : LruMap κ β) {key other : κ} (hne : other ≠ key) :
    (m.evict key).usedAt other = m.usedAt other := by
  rw [usedAt, evict, AssocMap.lookup_erase_ite, if_neg hne]
  rfl

/-- A call changes the contents as its writes say. -/
theorem find?_handle (capacity : Nat) (m : LruMap κ β) (call : LruCall κ β) :
    (m.handle capacity call).1.find? = WriteLog.apply (m.writes capacity call) m.find? := by
  cases call with
  | get key =>
      rw [writes, WriteLog.apply_nil, handle]
      cases hfound : m.find? key with
      | none => rfl
      | some value =>
          funext other
          rw [Option.elim_some, find?_touch]
          split_ifs with hsame
          · rw [hsame, hfound]
          · rfl
  | put key value =>
      funext other
      rw [handle, writes]
      cases m.victim capacity key with
      | none => simp [find?_touch, Function.update_apply]
      | some lost => simp [find?_touch, find?_evict, Function.update_apply]

/-- A key holds the value put last, unless it has been evicted since. -/
theorem find?_serve (capacity : Nat) (m : LruMap κ β) (calls : List (LruCall κ β)) :
    (m.serve capacity calls).1.find? = WriteLog.apply (m.history capacity calls) m.find? := by
  induction calls generalizing m with
  | nil => rfl
  | cons call calls ih =>
      rw [history, WriteLog.apply, List.foldl_append, ← WriteLog.apply, ← WriteLog.apply,
        ← find?_handle]
      exact ih _

end LruMap

/-! ## Lists in the order of the last uses -/

namespace LruMap

variable {κ β : Type*} [DecidableEq κ]

/-- The list holds the entries of the map, the most recently used one first. -/
structure Represents (entries : List (κ × β)) (m : LruMap κ β) : Prop where
  nodup : (entries.map Prod.fst).Nodup
  mem_iff : ∀ key value, (key, value) ∈ entries ↔ m.find? key = some value
  ordered : entries.Pairwise fun newer older => m.usedAt older.1 < m.usedAt newer.1
  dated : ∀ entry ∈ entries, m.usedAt entry.1 < m.clock

theorem represents_empty : Represents [] (empty : LruMap κ β) where
  nodup := List.nodup_nil
  mem_iff := fun key value => by simp [find?, empty]
  ordered := List.Pairwise.nil
  dated := fun entry hentry => absurd hentry List.not_mem_nil

variable {entries : List (κ × β)} {m : LruMap κ β}

/-- The entries of the other keys. -/
def without (key : κ) (entries : List (κ × β)) : List (κ × β) :=
  entries.filter fun entry => entry.1 ≠ key

theorem mem_without_iff (key : κ) (entry : κ × β) :
    entry ∈ without key entries ↔ entry ∈ entries ∧ entry.1 ≠ key := by
  simp [without]

theorem without_eq_self (key : κ) (h : key ∉ entries.map Prod.fst) :
    without key entries = entries := by
  refine List.filter_eq_self.mpr fun entry hentry => ?_
  have hne : entry.1 ≠ key := fun heq => h (heq ▸ List.mem_map_of_mem hentry)
  simpa using hne

theorem nodup_without (key : κ) (h : (entries.map Prod.fst).Nodup) :
    ((without key entries).map Prod.fst).Nodup :=
  h.sublist (List.filter_sublist.map _)

theorem Represents.find?_eq_none_iff (h : Represents entries m) (key : κ) :
    m.find? key = none ↔ key ∉ entries.map Prod.fst := by
  rw [Option.eq_none_iff_forall_not_mem]
  constructor
  · intro hnone hmem
    obtain ⟨⟨_, value⟩, hentry, rfl⟩ := List.mem_map.mp hmem
    exact hnone value ((h.mem_iff _ value).mp hentry)
  · intro hmem value hvalue
    exact hmem (List.mem_map.mpr ⟨(key, value), (h.mem_iff key value).mpr hvalue, rfl⟩)

theorem Represents.touch (h : Represents entries m) (key : κ) (value : β) :
    Represents ((key, value) :: without key entries) (m.touch key value) where
  nodup := by
    rw [List.map_cons, List.nodup_cons]
    refine ⟨fun hmem => ?_, nodup_without key h.nodup⟩
    obtain ⟨entry, hentry, hkey⟩ := List.mem_map.mp hmem
    exact ((mem_without_iff key entry).mp hentry).2 hkey
  mem_iff := by
    intro other found
    rw [List.mem_cons, mem_without_iff, find?_touch, h.mem_iff]
    by_cases hsame : other = key
    · simp [hsame, eq_comm]
    · simp [hsame]
  ordered := by
    rw [List.pairwise_cons]
    constructor
    · intro entry hentry
      obtain ⟨hmem, hne⟩ := (mem_without_iff key entry).mp hentry
      rw [usedAt_touch, usedAt_touch, if_neg hne, if_pos rfl]
      exact h.dated entry hmem
    · refine (h.ordered.sublist List.filter_sublist).imp_of_mem ?_
      intro newer older hnewer holder hlt
      rw [usedAt_touch, usedAt_touch, if_neg ((mem_without_iff key older).mp holder).2,
        if_neg ((mem_without_iff key newer).mp hnewer).2]
      exact hlt
  dated := by
    intro entry hentry
    rw [usedAt_touch]
    split_ifs with hsame
    · exact Nat.lt_succ_self _
    · rcases List.mem_cons.mp hentry with rfl | hmem
      · exact absurd rfl hsame
      · exact Nat.lt_succ_of_lt (h.dated entry ((mem_without_iff key entry).mp hmem).1)

theorem Represents.evict (h : Represents entries m) (key : κ) :
    Represents (without key entries) (m.evict key) where
  nodup := nodup_without key h.nodup
  mem_iff := by
    intro other found
    rw [mem_without_iff, find?_evict, h.mem_iff]
    split_ifs with hsame
    · simp [hsame]
    · simp [hsame]
  ordered := by
    refine (h.ordered.sublist List.filter_sublist).imp_of_mem ?_
    intro newer older hnewer holder hlt
    rw [usedAt_evict_of_ne _ ((mem_without_iff key older).mp holder).2,
      usedAt_evict_of_ne _ ((mem_without_iff key newer).mp hnewer).2]
    exact hlt
  dated := by
    intro entry hentry
    obtain ⟨hmem, hne⟩ := (mem_without_iff key entry).mp hentry
    rw [usedAt_evict_of_ne _ hne]
    exact h.dated entry hmem

theorem Represents.mem_keys_iff (h : Represents entries m) (key : κ) :
    key ∈ m.held.keys ↔ key ∈ entries.map Prod.fst := by
  rw [← not_iff_not, ← h.find?_eq_none_iff, find?, Option.map_eq_none_iff, AList.lookup_eq_none,
    AList.mem_keys]

theorem Represents.size_eq (h : Represents entries m) : m.size = entries.length := by
  have hperm : m.held.keys.Perm (entries.map Prod.fst) :=
    (List.perm_ext_iff_of_nodup m.held.keys_nodup h.nodup).mpr h.mem_keys_iff
  have hlength := hperm.length_eq
  rwa [List.length_map, AList.keys, List.keys, List.length_map] at hlength

/-- The last entry of the list is the one to go. -/
theorem Represents.leastRecent_eq {oldest : κ × β} (h : Represents (entries ++ [oldest]) m) :
    m.leastRecent = some oldest.1 := by
  have hkey : oldest.1 ∈ m.held.keys := by
    rw [h.mem_keys_iff]
    simp
  have hearliest : ∀ key ∈ m.held.keys, key = oldest.1 ∨ m.usedAt oldest.1 < m.usedAt key := by
    intro key hmem
    rw [h.mem_keys_iff, List.map_append, List.mem_append] at hmem
    rcases hmem with hfront | hlast
    · obtain ⟨entry, hentry, rfl⟩ := List.mem_map.mp hfront
      exact Or.inr ((List.pairwise_append.mp h.ordered).2.2 entry hentry oldest
        (List.mem_singleton_self oldest))
    · exact Or.inl (List.mem_singleton.mp hlast)
  rw [leastRecent]
  cases hmin : m.held.keys.argmin m.usedAt with
  | none =>
      rw [List.argmin_eq_none] at hmin
      rw [hmin] at hkey
      exact absurd hkey List.not_mem_nil
  | some key =>
      rcases hearliest key (List.argmin_mem hmin) with rfl | hlater
      · rfl
      · exact absurd hlater (Nat.not_lt.mpr (List.le_of_mem_argmin hkey hmin))

end LruMap
