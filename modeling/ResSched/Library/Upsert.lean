import Mathlib.Data.List.Nodup
import Mathlib.Tactic.Common

/-! # Lists searched by a key, with entries made on demand -/

variable {α κ : Type*} [DecidableEq κ]

/-- Modify the first entry with the key `k`; when there is none, append a new one and modify
it. -/
def upsert (key : α → κ) (k : κ) (new : α) (f : α → α) : List α → List α
  | [] => [f new]
  | x :: xs => if key x = k then f x :: xs else x :: upsert key k new f xs

section

variable (key : α → κ) (k : κ) (new : α) (f : α → α)

/-- Modifying an entry without changing its key adds at most the searched key. -/
theorem keys_upsert (hnew : key new = k) (hf : ∀ x, key (f x) = key x) (xs : List α) :
    (upsert key k new f xs).map key = if k ∈ xs.map key then xs.map key else xs.map key ++ [k] := by
  induction xs with
  | nil => simp [upsert, hf, hnew]
  | cons x xs ih =>
      rw [upsert]
      by_cases hx : key x = k
      · simp [hx, hf]
      · rw [if_neg hx, List.map_cons, ih]
        have hmem : k ∈ (x :: xs).map key ↔ k ∈ xs.map key := by
          simp [Ne.symm hx]
        by_cases hk : k ∈ xs.map key
        · rw [if_pos hk, if_pos (hmem.mpr hk), List.map_cons]
        · rw [if_neg hk, if_neg (fun h => hk (hmem.mp h)), List.map_cons, List.cons_append]

theorem nodup_keys_upsert (hnew : key new = k) (hf : ∀ x, key (f x) = key x) (xs : List α)
    (h : (xs.map key).Nodup) : ((upsert key k new f xs).map key).Nodup := by
  rw [keys_upsert key k new f hnew hf]
  split_ifs with hk
  · exact h
  · rw [List.nodup_append]
    refine ⟨h, List.nodup_singleton k, ?_⟩
    intro a ha b hb
    rw [List.mem_singleton.mp hb]
    rintro rfl
    exact hk ha

/-- The entries with another key are those that were there. -/
theorem mem_upsert_of_ne (hf : ∀ x, key (f x) = key x) (xs : List α) (y : α) (hnew : key new = k)
    (hy : key y ≠ k) : y ∈ upsert key k new f xs ↔ y ∈ xs := by
  induction xs with
  | nil =>
      simp only [upsert, List.mem_singleton, List.not_mem_nil, iff_false]
      rintro rfl
      exact hy ((hf new).trans hnew)
  | cons x xs ih =>
      rw [upsert]
      by_cases hx : key x = k
      · rw [if_pos hx, List.mem_cons, List.mem_cons]
        have hleft : y ≠ f x := by
          rintro rfl
          exact hy ((hf x).trans hx)
        have hright : y ≠ x := by
          rintro rfl
          exact hy hx
        simp [hleft, hright]
      · rw [if_neg hx, List.mem_cons, List.mem_cons, ih]

/-- Every entry was there or is a modified one. -/
theorem mem_or_modified_of_mem_upsert (xs : List α) (y : α)
    (hy : y ∈ upsert key k new f xs) : y ∈ xs ∨ ∃ x, y = f x := by
  induction xs with
  | nil => exact Or.inr ⟨new, by simpa [upsert] using hy⟩
  | cons x xs ih =>
      rw [upsert] at hy
      by_cases hx : key x = k
      · rw [if_pos hx, List.mem_cons] at hy
        rcases hy with rfl | hmem
        · exact Or.inr ⟨x, rfl⟩
        · exact Or.inl (List.mem_cons_of_mem x hmem)
      · rw [if_neg hx, List.mem_cons] at hy
        rcases hy with rfl | hmem
        · exact Or.inl List.mem_cons_self
        · exact (ih hmem).imp (List.mem_cons_of_mem x) id

/-- With one entry a key, the entry of the searched key is the modified one. -/
theorem upsert_modified (xs : List α)
    (h : (xs.map key).Nodup) (y : α) (hy : y ∈ upsert key k new f xs) (hkey : key y = k) :
    (∃ x ∈ xs, key x = k ∧ y = f x) ∨ (k ∉ xs.map key ∧ y = f new) := by
  induction xs with
  | nil =>
      simp only [upsert, List.mem_singleton] at hy
      exact Or.inr ⟨by simp, hy⟩
  | cons x xs ih =>
      rw [List.map_cons, List.nodup_cons] at h
      rw [upsert] at hy
      by_cases hx : key x = k
      · rw [if_pos hx, List.mem_cons] at hy
        rcases hy with rfl | hmem
        · exact Or.inl ⟨x, List.mem_cons_self, hx, rfl⟩
        · exact absurd (hx ▸ hkey ▸ List.mem_map_of_mem hmem) h.1
      · rw [if_neg hx, List.mem_cons] at hy
        rcases hy with rfl | hmem
        · exact absurd hkey hx
        · rcases ih h.2 hmem with ⟨z, hz, hzk, rfl⟩ | ⟨hnot, rfl⟩
          · exact Or.inl ⟨z, List.mem_cons_of_mem _ hz, hzk, rfl⟩
          · refine Or.inr ⟨?_, rfl⟩
            rw [List.map_cons, List.mem_cons]
            rintro (rfl | hmem)
            · exact hx rfl
            · exact hnot hmem

/-- A test that the modification does not change, and that fails on a new entry. -/
theorem any_upsert (p : α → Bool) (hf : ∀ x, p (f x) = p x) (hnew : p new = false) (xs : List α) :
    (upsert key k new f xs).any p = xs.any p := by
  induction xs with
  | nil => simp [upsert, hf, hnew]
  | cons x xs ih =>
      rw [upsert]
      split_ifs
      · simp [hf]
      · simp [ih]

/-- A modified entry is there. -/
theorem exists_mem_upsert (hf : ∀ x, key (f x) = key x) (hnew : key new = k) (xs : List α) :
    ∃ y ∈ upsert key k new f xs, key y = k ∧ ∃ x, y = f x := by
  induction xs with
  | nil => exact ⟨f new, by simp [upsert], (hf new).trans hnew, new, rfl⟩
  | cons x xs ih =>
      rw [upsert]
      by_cases hx : key x = k
      · rw [if_pos hx]
        exact ⟨f x, List.mem_cons_self, (hf x).trans hx, x, rfl⟩
      · rw [if_neg hx]
        obtain ⟨y, hy, hkey, hshape⟩ := ih
        exact ⟨y, List.mem_cons_of_mem _ hy, hkey, hshape⟩

end

/-! ## The entry of a key -/

/-- The first entry with the key `k`. -/
def entryOf (key : α → κ) (k : κ) (xs : List α) : Option α :=
  xs.find? (fun x => key x = k)

section

variable {key : α → κ} {k : κ}

@[simp] theorem entryOf_nil : entryOf key k ([] : List α) = none :=
  rfl

theorem entryOf_cons (x : α) (xs : List α) :
    entryOf key k (x :: xs) = if key x = k then some x else entryOf key k xs := by
  rw [entryOf, List.find?_cons]
  by_cases hx : key x = k
  · simp [hx]
  · simp [hx, entryOf]

/-- A test that the modification does not change on the entry it finds, or fails on a new one. -/
theorem any_upsert_of_entryOf {new : α} {f : α → α} (p : α → Bool) (xs : List α)
    (h : p (f ((entryOf key k xs).getD new)) = (entryOf key k xs).any p) :
    (upsert key k new f xs).any p = xs.any p := by
  induction xs with
  | nil => simpa [upsert] using h
  | cons x xs ih =>
      rw [entryOf_cons] at h
      rw [upsert]
      by_cases hx : key x = k
      · rw [if_pos hx] at h ⊢
        rw [List.any_cons, List.any_cons]
        exact congrArg (· || xs.any p) h
      · rw [if_neg hx] at h ⊢
        rw [List.any_cons, List.any_cons, ih h]

/-- With one entry a key, the entry found is the only one. -/
theorem entryOf_eq_some_iff {xs : List α} (h : (xs.map key).Nodup) (x : α) :
    entryOf key k xs = some x ↔ x ∈ xs ∧ key x = k := by
  constructor
  · intro hx
    exact ⟨List.mem_of_find?_eq_some hx, by simpa using List.find?_some hx⟩
  · rintro ⟨hx, rfl⟩
    cases hentry : entryOf key (key x) xs with
    | none =>
        have habsent := List.find?_eq_none.mp hentry x hx
        simp at habsent
    | some y =>
        have hy : y ∈ xs := List.mem_of_find?_eq_some hentry
        have hkey : key y = key x := by simpa using List.find?_some hentry
        rw [List.inj_on_of_nodup_map h hy hx hkey]

theorem entryOf_eq_none_iff {xs : List α} : entryOf key k xs = none ↔ ∀ x ∈ xs, key x ≠ k := by
  simp [entryOf]

/-- A test of some entry is a test of the entry of some key. -/
theorem any_iff_entryOf {xs : List α} (h : (xs.map key).Nodup) (p : α → Bool) :
    xs.any p = true ↔ ∃ k, (entryOf key k xs).any p = true := by
  simp only [List.any_eq_true, Option.any_eq_true_iff_get, Option.isSome_iff_exists]
  constructor
  · rintro ⟨x, hx, hp⟩
    have hentry := (entryOf_eq_some_iff h x).mpr ⟨hx, rfl⟩
    exact ⟨key x, ⟨x, hentry⟩, by simpa [hentry] using hp⟩
  · rintro ⟨k, ⟨x, hentry⟩, hp⟩
    exact ⟨x, ((entryOf_eq_some_iff h x).mp hentry).1, by simpa [hentry] using hp⟩

/-- The modified entry is the one of the searched key. -/
theorem entryOf_upsert {new : α} {f : α → α} (hnew : key new = k) (hf : ∀ x, key (f x) = key x)
    (xs : List α) (other : κ) :
    entryOf key other (upsert key k new f xs) =
      if other = k then some (f ((entryOf key k xs).getD new)) else entryOf key other xs := by
  induction xs with
  | nil =>
      rw [upsert, entryOf_cons, hf, hnew]
      by_cases hother : other = k
      · simp [hother]
      · simp [hother, Ne.symm hother]
  | cons x xs ih =>
      rw [upsert]
      by_cases hx : key x = k
      · rw [if_pos hx, entryOf_cons, entryOf_cons, entryOf_cons, hf, hx]
        by_cases hother : other = k
        · simp [hother]
        · simp [hother, Ne.symm hother]
      · rw [if_neg hx, entryOf_cons, ih, entryOf_cons, entryOf_cons, if_neg hx]
        by_cases hother : other = k
        · simp [hother, hx]
        · simp [hother]

/-- With one entry a key, removing the first entry of a key removes the key. -/
theorem entryOf_eraseP {xs : List α} (h : (xs.map key).Nodup) (other : κ) :
    entryOf key other (xs.eraseP (fun x => key x = k)) =
      if other = k then none else entryOf key other xs := by
  induction xs with
  | nil => simp
  | cons x xs ih =>
      rw [List.map_cons, List.nodup_cons] at h
      by_cases hx : key x = k
      · rw [List.eraseP_cons_of_pos (by simpa using hx), entryOf_cons, hx]
        by_cases hother : other = k
        · rw [if_pos hother, hother, entryOf_eq_none_iff]
          intro y hy hkey
          exact h.1 (by rw [hx, ← hkey]; exact List.mem_map_of_mem hy)
        · rw [if_neg hother, if_neg (Ne.symm hother)]
      · rw [List.eraseP_cons_of_neg (by simpa using hx), entryOf_cons, ih h.2, entryOf_cons]
        by_cases hother : other = k
        · simp [hother, hx]
        · simp [hother]

omit [DecidableEq κ] in
theorem nodup_keys_eraseP {xs : List α} (h : (xs.map key).Nodup) (p : α → Bool) :
    ((xs.eraseP p).map key).Nodup :=
  h.sublist (List.eraseP_sublist.map key)

end

/-! ## Changes that are told by key -/

/-- A change after which the entry of a key looks as is said of the key, and as before where
nothing is said. -/
structure Tells {τ : Type*} (key : α → κ) (look : Option α → τ) (said : κ → Option τ)
    (before after : List α) : Prop where
  distinct : (before.map key).Nodup → (after.map key).Nodup
  seen : (before.map key).Nodup → ∀ k,
    look (entryOf key k after) = (said k).getD (look (entryOf key k before))

section

variable {τ : Type*} {key : α → κ} {look : Option α → τ} {said : κ → Option τ}

/-- A list that stays tells what it already shows. -/
theorem Tells.refl {xs : List α} (h : ∀ k value, said k = some value →
    value = look (entryOf key k xs)) : Tells key look said xs xs := by
  refine ⟨id, fun _ k => ?_⟩
  cases hsaid : said k with
  | none => rfl
  | some value => exact (h k value hsaid).symm

/-- A change that follows one of which nothing is said. -/
theorem Tells.after_silent {a b c : List α} (h : Tells key look (fun _ => none) a b)
    (h' : Tells key look said b c) : Tells key look said a c := by
  refine ⟨h'.distinct ∘ h.distinct, fun hdistinct k => ?_⟩
  rw [h'.seen (h.distinct hdistinct), h.seen hdistinct]
  rfl

theorem Tells.upsert {k : κ} {new : α} {f : α → α} {xs : List α} (hnew : key new = k)
    (hf : ∀ x, key (f x) = key x) (hother : ∀ other, other ≠ k → said other = none)
    (hlook : look (some (f ((entryOf key k xs).getD new))) =
      (said k).getD (look (entryOf key k xs))) :
    Tells key look said xs (upsert key k new f xs) := by
  refine ⟨nodup_keys_upsert key k new f hnew hf xs, fun _ other => ?_⟩
  rw [entryOf_upsert hnew hf]
  split_ifs with hk
  · rw [hk]
    exact hlook
  · rw [hother other hk]
    rfl

theorem Tells.eraseP {k : κ} {xs : List α} (hother : ∀ other, other ≠ k → said other = none)
    (hsaid : said k = some (look none)) :
    Tells key look said xs (xs.eraseP (fun x => key x = k)) := by
  refine ⟨fun h => nodup_keys_eraseP h _, fun h other => ?_⟩
  rw [entryOf_eraseP h]
  split_ifs with hk
  · rw [hk, hsaid]
    rfl
  · rw [hother other hk]
    rfl

theorem Tells.nil {xs : List α} (hsaid : ∀ k, said k = some (look none)) :
    Tells key look said xs [] := by
  refine ⟨fun _ => List.nodup_nil, fun _ k => ?_⟩
  rw [hsaid k]
  rfl

end
