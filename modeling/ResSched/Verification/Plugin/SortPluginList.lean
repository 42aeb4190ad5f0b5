import ResSched.Model.Plugin.SortPluginList
import Mathlib.Algebra.BigOperators.Group.List.Basic
import Mathlib.Algebra.Ring.Int.Defs
import Mathlib.Data.List.Induction

/-! # The order of the plugins and their costs -/

namespace ResSched.Plugin

open ListSort

/-! ## The specification -/

/-- The comparator meets the demands of the sort, and the plugins come in the order of their
average times where these are known. -/
structure SortsByCost (pluginStat : AssocMap String PluginStat) (pluginList : List String) :
    Prop where
  strictWeak : StrictWeakOn (costsLess pluginStat) pluginList
  perm : (SortPluginList pluginStat pluginList).Perm pluginList
  ordered : (SortPluginList pluginStat pluginList).Pairwise fun a b => ∀ stat stat',
    pluginStat.lookup a = some stat → pluginStat.lookup b = some stat' →
      stat.AverageTime ≤ stat'.AverageTime

/-- Every plugin of the list has statistics, or all that have some have one average time. -/
def Comparable (pluginStat : AssocMap String PluginStat) (pluginList : List String) : Prop :=
  (∀ plugin ∈ pluginList, (pluginStat.lookup plugin).isSome) ∨
    ∀ a ∈ pluginList, ∀ b ∈ pluginList, ∀ stat stat', pluginStat.lookup a = some stat →
      pluginStat.lookup b = some stat' → stat.AverageTime = stat'.AverageTime

/-- The costs that `Update` counts. -/
def counted (costs : List Int) : List Int :=
  costs.filter fun costTime => costTime > 0 ∧ costTime < DISPATCH_TIME_OUT_US

/-- While the sum of the counted costs fits 64 bits, the average is their mean, rounded down. -/
def AverageIsMean (costs : List Int) : Prop :=
  (counted costs).sum < 2 ^ 64 →
    ((costs.foldl PluginStat.Update PluginStat.zero).AverageTime : Int) =
      (counted costs).sum / (counted costs).length

/-! ## The comparator -/

section

variable {pluginStat : AssocMap String PluginStat}

theorem costsLess_eq_true_iff (a b : String) :
    costsLess pluginStat a b = true ↔ ∃ stat stat', pluginStat.lookup a = some stat ∧
      pluginStat.lookup b = some stat' ∧ stat.AverageTime < stat'.AverageTime := by
  rw [costsLess]
  cases pluginStat.lookup a with
  | none => simp
  | some stat => cases pluginStat.lookup b <;> simp

theorem costsLess_of_some {a b : String} {stat stat' : PluginStat}
    (ha : pluginStat.lookup a = some stat) (hb : pluginStat.lookup b = some stat') :
    costsLess pluginStat a b = decide (stat.AverageTime < stat'.AverageTime) := by
  rw [costsLess, ha, hb]

theorem costsLess_eq_false_iff (a b : String) :
    costsLess pluginStat a b = false ↔ ∀ stat stat', pluginStat.lookup a = some stat →
      pluginStat.lookup b = some stat' → stat'.AverageTime ≤ stat.AverageTime := by
  rw [← Bool.not_eq_true, costsLess_eq_true_iff]
  constructor
  · exact fun h stat stat' ha hb => Nat.not_lt.mp fun hlt => h ⟨stat, stat', ha, hb, hlt⟩
  · rintro h ⟨stat, stat', ha, hb, hlt⟩
    exact absurd hlt (Nat.not_lt.mpr (h stat stat' ha hb))

theorem costsLess_of_none {a : String} (ha : pluginStat.lookup a = none) (b : String) :
    costsLess pluginStat a b = false ∧ costsLess pluginStat b a = false := by
  simp [costsLess_eq_false_iff, ha]

variable {pluginList : List String}

theorem strictWeak_of_comparable (h : Comparable pluginStat pluginList) :
    StrictWeakOn (costsLess pluginStat) pluginList where
  irrefl a _ := by
    rw [costsLess_eq_false_iff]
    intro stat stat' hstat hstat'
    rw [Option.some.inj (hstat.symm.trans hstat')]
  trans a _ b _ c _ hab hbc := by
    rw [costsLess_eq_true_iff] at hab hbc ⊢
    obtain ⟨stat, stat', ha, hb, hlt⟩ := hab
    obtain ⟨_, stat'', hb', hc, hlt'⟩ := hbc
    obtain rfl := Option.some.inj (hb.symm.trans hb')
    exact ⟨stat, stat'', ha, hc, hlt.trans hlt'⟩
  equivalent a ha b hb c hc hab hba hbc hcb := by
    rcases h with hall | hequal
    · obtain ⟨stat, hstat⟩ := Option.isSome_iff_exists.mp (hall a ha)
      obtain ⟨stat', hstat'⟩ := Option.isSome_iff_exists.mp (hall b hb)
      obtain ⟨stat'', hstat''⟩ := Option.isSome_iff_exists.mp (hall c hc)
      rw [costsLess_of_some hstat hstat', decide_eq_false_iff_not] at hab
      rw [costsLess_of_some hstat' hstat, decide_eq_false_iff_not] at hba
      rw [costsLess_of_some hstat' hstat'', decide_eq_false_iff_not] at hbc
      rw [costsLess_of_some hstat'' hstat', decide_eq_false_iff_not] at hcb
      rw [costsLess_of_some hstat hstat'', costsLess_of_some hstat'' hstat,
        decide_eq_false_iff_not, decide_eq_false_iff_not]
      omega
    · rw [costsLess_eq_false_iff, costsLess_eq_false_iff]
      exact ⟨fun stat stat' hstat hstat' => (hequal c hc a ha stat' stat hstat' hstat).le,
        fun stat stat' hstat hstat' => (hequal a ha c hc stat' stat hstat' hstat).le⟩

/-- A plugin without statistics is equivalent to every other one. -/
theorem comparable_of_strictWeak (h : StrictWeakOn (costsLess pluginStat) pluginList) :
    Comparable pluginStat pluginList := by
  by_cases hall : ∀ plugin ∈ pluginList, (pluginStat.lookup plugin).isSome
  · exact Or.inl hall
  · simp only [not_forall, Option.not_isSome_iff_eq_none] at hall
    obtain ⟨plugin, hplugin, hnone⟩ := hall
    refine Or.inr fun a ha b hb stat stat' hstat hstat' => ?_
    have hbetween := h.equivalent a ha plugin hplugin b hb (costsLess_of_none hnone a).2
      (costsLess_of_none hnone a).1 (costsLess_of_none hnone b).1 (costsLess_of_none hnone b).2
    rw [costsLess_of_some hstat hstat', costsLess_of_some hstat' hstat,
      decide_eq_false_iff_not, decide_eq_false_iff_not] at hbetween
    omega

end

/-! ## The average -/

theorem counted_nonneg {costs : List Int} : ∀ costTime ∈ counted costs, 0 < costTime := by
  intro costTime hmem
  exact (of_decide_eq_true (List.mem_filter.mp hmem).2).1

theorem length_le_sum {costs : List Int} (h : ∀ costTime ∈ costs, 0 < costTime) :
    (costs.length : Int) ≤ costs.sum := by
  induction costs with
  | nil => exact le_refl 0
  | cons costTime costs ih =>
      rw [List.forall_mem_cons] at h
      have hrest := ih h.2
      rw [List.length_cons, List.sum_cons]
      push_cast
      omega

theorem counted_concat (costs : List Int) (costTime : Int) :
    counted (costs ++ [costTime]) =
      if costTime > 0 ∧ costTime < DISPATCH_TIME_OUT_US then counted costs ++ [costTime]
      else counted costs := by
  rw [counted, List.filter_append, List.filter_cons, List.filter_nil]
  by_cases h : costTime > 0 ∧ costTime < DISPATCH_TIME_OUT_US
  · rw [if_pos h, if_pos (decide_eq_true h)]
    rfl
  · rw [if_neg h, if_neg (fun hcounted => h (of_decide_eq_true hcounted)), List.append_nil]
    rfl

theorem toUnsigned_of_fits {bits : Nat} {value : Int} (h : 0 ≤ value)
    (hfits : value < (Nat.pow 2 bits : Nat)) : (CLibrary.toUnsigned bits value : Int) = value := by
  rw [CLibrary.toUnsigned, Int.emod_eq_of_lt h hfits, Int.toNat_of_nonneg h]

/-- The total is the sum of the counted costs, and the count their number. -/
theorem foldl_Update (costs : List Int) (h : (counted costs).sum < 2 ^ 64) :
    ((costs.foldl PluginStat.Update PluginStat.zero).totalTime : Int) = (counted costs).sum ∧
      (costs.foldl PluginStat.Update PluginStat.zero).useCount = (counted costs).length := by
  induction costs using List.reverseRecOn with
  | nil => exact ⟨rfl, rfl⟩
  | append_singleton costs costTime ih =>
      have hpow : ((Nat.pow 2 64 : Nat) : Int) = 2 ^ 64 := rfl
      have hcount := length_le_sum (@counted_nonneg costs)
      rw [counted_concat] at h ⊢
      rw [List.foldl_append, List.foldl_cons, List.foldl_nil, PluginStat.Update]
      split_ifs at h ⊢ with hcounted
      · rw [List.sum_append, List.sum_singleton] at h
        obtain ⟨htotal, huse⟩ := ih (by omega)
        have hout : DISPATCH_TIME_OUT_US = 50000 := rfl
        have hcost : (CLibrary.toUnsigned 32 costTime : Int) = costTime := by
          refine toUnsigned_of_fits hcounted.1.le ?_
          rw [show ((Nat.pow 2 32 : Nat) : Int) = 2 ^ 32 from rfl]
          omega
        have hsum : (CLibrary.toUnsigned 64
            ((costs.foldl PluginStat.Update PluginStat.zero).totalTime +
              CLibrary.toUnsigned 32 costTime) : Int) = (counted costs).sum + costTime := by
          rw [toUnsigned_of_fits (by omega) (by rw [hpow]; omega)]
          omega
        have huses : (CLibrary.toUnsigned 64
            ((costs.foldl PluginStat.Update PluginStat.zero).useCount + 1) : Int) =
              (counted costs).length + 1 := by
          rw [toUnsigned_of_fits (by omega) (by rw [hpow]; omega)]
          omega
        dsimp only
        rw [if_neg (by omega), List.sum_append, List.sum_singleton, List.length_append,
          List.length_singleton]
        exact ⟨hsum, by exact_mod_cast huses⟩
      · exact ih h

theorem averageIsMean (costs : List Int) : AverageIsMean costs := by
  intro h
  obtain ⟨htotal, huse⟩ := foldl_Update costs h
  rw [PluginStat.AverageTime]
  split_ifs with hused
  · rw [← htotal, ← huse]
    exact Int.natCast_ediv _ _
  · have hnone : (counted costs).length = 0 := by omega
    rw [hnone]
    simp

/-! ## The result -/

/-- Whatever the averages, the plugins are sorted by them exactly when they can be compared; an
average is the mean of the counted costs. -/
theorem sortsByCost_iff (pluginStat : AssocMap String PluginStat) (pluginList : List String)
    (costs : List Int) :
    (SortsByCost pluginStat pluginList ↔ Comparable pluginStat pluginList) ∧
      AverageIsMean costs := by
  refine ⟨⟨fun h => comparable_of_strictWeak h.strictWeak, fun h => ?_⟩, averageIsMean costs⟩
  have hweak := strictWeak_of_comparable h
  refine ⟨hweak, perm_listSort _ pluginList, (pairwise_listSort hweak).imp ?_⟩
  intro a b hless stat stat' ha hb
  exact (costsLess_eq_false_iff b a).mp hless stat' stat hb ha

/-- A plugin that takes two microseconds and one that takes one. -/
def slowAndFast : AssocMap String PluginStat :=
  AList.insert "slow" ⟨2, 1, []⟩ (AList.insert "fast" ⟨1, 1, []⟩ ∅)

/-- A plugin without statistics stands between them and keeps the slow one in front. -/
theorem newPlugin_separates :
    SortPluginList slowAndFast ["slow", "new", "fast"] = ["slow", "new", "fast"] ∧
      ¬ SortsByCost slowAndFast ["slow", "new", "fast"] := by
  have hnew : slowAndFast.lookup "new" = none := rfl
  have hfirst : costsLess slowAndFast "new" "slow" = false := (costsLess_of_none hnew "slow").1
  have hlast : costsLess slowAndFast "fast" "new" = false := (costsLess_of_none hnew "fast").2
  have hhalf : listSort (costsLess slowAndFast) ["new", "fast"] = ["new", "fast"] := by
    rw [listSort]
    simp [listSort, hlast]
  have hsort : SortPluginList slowAndFast ["slow", "new", "fast"] = ["slow", "new", "fast"] := by
    rw [SortPluginList, listSort]
    simp [hhalf, listSort, hfirst]
  refine ⟨hsort, fun h => ?_⟩
  have hordered := h.ordered
  rw [hsort, List.pairwise_cons] at hordered
  have hle := hordered.1 "fast" (by simp) ⟨2, 1, []⟩ ⟨1, 1, []⟩ rfl rfl
  revert hle
  decide

end ResSched.Plugin
