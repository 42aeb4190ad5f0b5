import ResSched.Model.Common.FileUtil
import Mathlib.Data.List.Basic

/-! # The partition of a path is its first component -/

namespace ResSched.ResCommonUtil

open TextSearch

/-- The components of a path; none of them is empty. -/
def components (path : List Char) : List (List Char) :=
  (path.splitOn '/').filter fun component => component ≠ []

/-- The partition is the first component behind a slash, and it is the one that is queried. -/
structure NamesPartition (path first : List Char) : Prop where
  name : GetPartitionName path = '/' :: first
  query : GetDeviceValidSize_path path =
    (CLibrary.cString (String.ofList ('/' :: first))).toList

/-- An absolute path that does not begin with two slashes, or a relative one with one slash at
most. -/
def PlainPath (path : List Char) : Prop :=
  (∃ rest, path = '/' :: rest ∧ rest.head? ≠ some '/') ∨
    (path.head? ≠ some '/' ∧ path.count '/' ≤ 1)

/-! ## Components -/

theorem components_of_notMem {path : List Char} (h : '/' ∉ path) (hne : path ≠ []) :
    components path = [path] := by
  rw [components, List.splitOn_eq_singleton h]
  simp [hne]

theorem components_append_cons {front rest : List Char} (h : '/' ∉ front) :
    components (front ++ '/' :: rest) =
      if front = [] then components rest else front :: components rest := by
  rw [components, List.splitOn_append_cons_self_of_not_mem h, List.filter_cons]
  split_ifs <;> simp_all [components]

theorem ne_nil_of_mem_components {path component : List Char} (h : component ∈ components path) :
    component ≠ [] := by
  simpa using (List.mem_filter.mp h).2

/-! ## The branches of the search -/

theorem GetPartitionName_of_notMem {path : List Char} (h : '/' ∉ path) :
    GetPartitionName path = '/' :: path := by
  rw [GetPartitionName, findFrom_of_notMem h]

theorem findFrom_second (front rest : List Char) :
    findFrom '/' (front.length + 1) (front ++ '/' :: rest) =
      (findFrom '/' 0 rest).map fun i => front.length + 1 + i := by
  have hfind := findFrom_append '/' (front ++ ['/']) rest
  rwa [List.length_append, List.length_singleton, List.append_assoc] at hfind

theorem GetPartitionName_oneSlash {front rest : List Char} (hfront : '/' ∉ front)
    (hrest : '/' ∉ rest) :
    GetPartitionName (front ++ '/' :: rest) =
      if front = [] then '/' :: rest else '/' :: front := by
  rw [GetPartitionName, findFrom_append_cons hfront]
  dsimp only
  rw [findFrom_second, findFrom_of_notMem hrest, Option.map_none]
  dsimp only
  cases front with
  | nil => rfl
  | cons c front =>
      have hc : c ≠ '/' := fun h => hfront (h ▸ List.mem_cons_self)
      rw [if_pos (by simpa using hc), List.take_left, if_neg (List.cons_ne_nil c front)]

/-- With two slashes as many characters are taken as stand between them, and one more. -/
theorem GetPartitionName_twoSlashes {front between rest : List Char} (hfront : '/' ∉ front)
    (hbetween : '/' ∉ between) :
    GetPartitionName (front ++ '/' :: (between ++ '/' :: rest)) =
      (front ++ '/' :: (between ++ '/' :: rest)).take (between.length + 1) := by
  rw [GetPartitionName, findFrom_append_cons hfront]
  dsimp only
  rw [findFrom_second, findFrom_append_cons hbetween, Option.map_some]
  dsimp only
  congr 1
  omega

/-! ## The first component -/

theorem name_eq_iff (path first : List Char) (hfirst : (components path).head? = some first) :
    GetPartitionName path = '/' :: first ↔ PlainPath path := by
  have hne : first ≠ [] := ne_nil_of_mem_components (List.mem_of_head? hfirst)
  rcases notMem_or_append_cons '/' path with hnone | ⟨front, rest, hfront, rfl⟩
  · have hpath : path ≠ [] := by
      rintro rfl
      cases hfirst
    rw [components_of_notMem hnone hpath] at hfirst
    obtain rfl := Option.some.inj hfirst
    refine iff_of_true (GetPartitionName_of_notMem hnone) (Or.inr ⟨?_, ?_⟩)
    · exact fun h => hnone (List.mem_of_head? h)
    · rw [List.count_eq_zero.mpr hnone]
      exact Nat.zero_le 1
  rw [components_append_cons hfront] at hfirst
  rcases notMem_or_append_cons '/' rest with hrest | ⟨between, rest, hbetween, rfl⟩
  · rw [GetPartitionName_oneSlash hfront hrest]
    cases front with
    | nil =>
        rw [if_pos rfl] at hfirst ⊢
        have hrestne : rest ≠ [] := by
          rintro rfl
          cases hfirst
        rw [components_of_notMem hrest hrestne] at hfirst
        obtain rfl := Option.some.inj hfirst
        exact iff_of_true rfl (Or.inl ⟨rest, rfl, fun h => hrest (List.mem_of_head? h)⟩)
    | cons c front =>
        rw [if_neg (List.cons_ne_nil c front)] at hfirst ⊢
        obtain rfl := Option.some.inj hfirst
        refine iff_of_true rfl (Or.inr ⟨?_, ?_⟩)
        · rw [List.cons_append, List.head?_cons, ne_eq, Option.some.injEq]
          exact fun h => hfront (h ▸ List.mem_cons_self)
        · rw [List.count_append, List.count_eq_zero.mpr hfront, List.count_cons_self,
            List.count_eq_zero.mpr hrest]
  · rw [GetPartitionName_twoSlashes hfront hbetween]
    cases front with
    | nil =>
        rw [if_pos rfl, components_append_cons hbetween] at hfirst
        rw [List.nil_append, List.take_succ_cons, List.take_left]
        cases between with
        | nil =>
            refine iff_of_false ?_ ?_
            · rw [List.cons.injEq, not_and]
              exact fun _ h => hne h.symm
            · rintro (⟨rest', hpath, hhead⟩ | ⟨hhead, -⟩)
              · obtain ⟨-, rfl⟩ := List.cons.inj hpath
                exact hhead rfl
              · exact hhead rfl
        | cons c between =>
            rw [if_neg (List.cons_ne_nil c between)] at hfirst
            obtain rfl := Option.some.inj hfirst
            refine iff_of_true rfl (Or.inl ⟨_, rfl, ?_⟩)
            rw [List.cons_append, List.head?_cons, ne_eq, Option.some.injEq]
            exact fun h => hbetween (h ▸ List.mem_cons_self)
    | cons c front =>
        have hc : c ≠ '/' := fun h => hfront (h ▸ List.mem_cons_self)
        refine iff_of_false ?_ ?_
        · rw [List.cons_append, List.take_succ_cons, List.cons.injEq, not_and]
          exact fun h => absurd h hc
        · rintro (⟨rest', hpath, -⟩ | ⟨-, hcount⟩)
          · exact hc (List.cons.inj hpath).1
          · simp only [List.count_append, List.count_cons_self] at hcount
            omega

/-- A path with a component names its partition exactly when it is plain. -/
theorem namesPartition_iff (path first : List Char)
    (hfirst : (components path).head? = some first) :
    NamesPartition path first ↔ PlainPath path := by
  rw [← name_eq_iff path first hfirst]
  constructor
  · exact fun h => h.name
  · intro hname
    exact ⟨hname, by rw [GetDeviceValidSize_path, hname]⟩

theorem namesPartition_data : NamesPartition "/data/service".toList "data".toList ↔
    PlainPath "/data/service".toList :=
  namesPartition_iff _ _ (by decide)

/-- A relative path of three components. -/
theorem relativePath_notNamed :
    (components "a/b/c".toList).head? = some "a".toList ∧
      ¬ NamesPartition "a/b/c".toList "a".toList := by
  refine ⟨by decide, fun h => ?_⟩
  have hname := h.name
  revert hname
  decide

end ResSched.ResCommonUtil
