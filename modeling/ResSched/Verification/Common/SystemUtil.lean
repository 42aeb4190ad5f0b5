import ResSched.Model.Common.SystemUtil
import Mathlib.Data.Nat.Log
import Mathlib.Order.Bounds.Basic
import Mathlib.Tactic.Ring

/-! # Rounding the size of the storage up -/

namespace ResSched.ResCommonUtil

open WhileLoop

/-! ## The specification -/

/-- The product of the counters and their next values are computed without a wrap. -/
structure Rounding.NoWrap (rounding : Rounding) : Prop where
  product : rounding.product.toNat = rounding.value.toNat * rounding.unit.toNat
  value : 2 * rounding.value.toNat < 2 ^ 16
  unit : BYTES_PER_KB ≤ 2 * rounding.value.toNat → rounding.unit.toNat * BYTES_PER_KB < 2 ^ 32

/-- The states of the loop in which its condition is evaluated. -/
def Evaluated (size : Int) (rounding : Rounding) : Prop :=
  ∃ n, rounding = Rounding.next^[n] Rounding.start ∧
    ∀ m < n, (Rounding.next^[m] Rounding.start).product.toNat < size.toNat

/-- Rounding ends, gives the least power of two that is neither below the size nor below one, and
wraps nowhere. -/
structure RoundsUp (size : Int) : Prop where
  ends : ∃ fuel result, RoundStorageSize fuel size = some result ∧
    IsLeast {power : Int | (∃ k : Nat, power = 2 ^ k) ∧ max size 1 ≤ power} result
  noWrap : ∀ rounding, Evaluated size rounding → rounding.NoWrap

/-! ## The counters after some rounds -/

/-- After `n` rounds the value is that many doublings behind the last whole unit. -/
structure Counters (n : Nat) (rounding : Rounding) : Prop where
  value : rounding.value.toNat = 2 ^ (n % 10)
  unit : rounding.unit.toNat = 2 ^ (10 * (n / 10)) % 2 ^ 32

theorem two_pow_mod_ten_le (n : Nat) : 2 ^ (n % 10) ≤ 2 ^ 9 :=
  Nat.pow_le_pow_right (by decide) (by omega)

theorem counters_next {n : Nat} {rounding : Rounding} (h : Counters n rounding) :
    Counters (n + 1) rounding.next := by
  have hle := two_pow_mod_ten_le n
  have hshift : (rounding.value <<< 1).toNat = 2 ^ (n % 10 + 1) := by
    have hone : (1 : UInt16).toNat % 16 = 1 := rfl
    rw [UInt16.toNat_shiftLeft, h.value, Nat.shiftLeft_eq, hone, ← pow_succ]
    have hlt : 2 ^ (n % 10 + 1) < 2 ^ 16 := Nat.pow_lt_pow_right (by decide) (by omega)
    exact Nat.mod_eq_of_lt hlt
  rw [Rounding.next]
  rw [hshift]
  by_cases hlast : n % 10 = 9
  · have hdiv : (n + 1) / 10 = n / 10 + 1 := by omega
    rw [hlast, if_pos (by decide)]
    refine ⟨?_, ?_⟩
    · rw [show (n + 1) % 10 = 0 by omega]
      rfl
    · rw [hdiv, UInt32.toNat_mul, h.unit, Nat.mul_succ, pow_add, Nat.mod_mul_mod]
      rfl
  · have hlt : 2 ^ (n % 10 + 1) < BYTES_PER_KB := by
      have hpow : 2 ^ (n % 10 + 1) ≤ 2 ^ 9 := Nat.pow_le_pow_right (by decide) (by omega)
      exact lt_of_le_of_lt hpow (by decide)
    rw [if_neg (Nat.not_le.mpr hlt)]
    refine ⟨?_, ?_⟩
    · rw [hshift, show (n + 1) % 10 = n % 10 + 1 by omega]
    · rw [show (n + 1) / 10 = n / 10 by omega]
      exact h.unit

theorem counters_iterate (n : Nat) : Counters n (Rounding.next^[n] Rounding.start) := by
  induction n with
  | zero => exact ⟨rfl, rfl⟩
  | succ n ih =>
      rw [Function.iterate_succ_apply']
      exact counters_next ih

theorem Counters.product {n : Nat} {rounding : Rounding} (h : Counters n rounding) :
    rounding.product.toNat = 2 ^ n % 2 ^ 32 := by
  rw [Rounding.product, UInt32.toNat_mul, UInt16.toNat_toUInt32, h.value, h.unit, Nat.mul_mod_mod,
    ← pow_add, Nat.mod_add_div]

/-- Up to 31 rounds nothing wraps. -/
theorem Counters.noWrap {n : Nat} {rounding : Rounding} (h : Counters n rounding) (hn : n < 32) :
    rounding.NoWrap := by
  have hunit : 2 ^ (10 * (n / 10)) < 2 ^ 32 :=
    Nat.pow_lt_pow_right (by decide) (by omega)
  have hproduct : 2 ^ n < 2 ^ 32 := Nat.pow_lt_pow_right (by decide) hn
  have hvalue := two_pow_mod_ten_le n
  refine ⟨?_, ?_, ?_⟩
  · rw [h.product, h.value, h.unit, Nat.mod_eq_of_lt hproduct, Nat.mod_eq_of_lt hunit, ← pow_add,
      Nat.mod_add_div]
  · rw [h.value]
    omega
  · intro hlast
    rw [h.value] at hlast
    have hnine : n % 10 = 9 := by
      by_contra hother
      have hpow : 2 ^ (n % 10) ≤ 2 ^ 8 := Nat.pow_le_pow_right (by decide) (by omega)
      have hkb : BYTES_PER_KB = 1024 := rfl
      omega
    have hlt : 2 ^ (10 * (n / 10) + 10) < 2 ^ 32 :=
      Nat.pow_lt_pow_right (by decide) (by omega)
    rw [h.unit, Nat.mod_eq_of_lt hunit]
    rwa [pow_add] at hlt

/-! ## The end of the loop -/

theorem endsAfter_iff (size : Int) (n : Nat) :
    EndsAfter (fun rounding => decide (rounding.product.toNat < size.toNat)) Rounding.next
        Rounding.start n ↔
      (∀ m < n, 2 ^ m % 2 ^ 32 < size.toNat) ∧ size.toNat ≤ 2 ^ n % 2 ^ 32 := by
  constructor
  · intro h
    refine ⟨fun m hm => ?_, ?_⟩
    · rw [← (counters_iterate m).product]
      exact of_decide_eq_true (h.goesOn m hm)
    · rw [← (counters_iterate n).product]
      exact Nat.not_lt.mp (of_decide_eq_false h.stops)
  · rintro ⟨hbefore, hend⟩
    refine ⟨fun m hm => ?_, ?_⟩
    · rw [decide_eq_true_iff, (counters_iterate m).product]
      exact hbefore m hm
    · rw [decide_eq_false_iff_not, (counters_iterate n).product]
      exact Nat.not_lt.mpr hend

theorem roundStorageSize_eq_some_iff {size : Int} (hsize : 0 ≤ size) (result : Int) :
    (∃ fuel, RoundStorageSize fuel size = some result) ↔
      ∃ n, ((∀ m < n, 2 ^ m % 2 ^ 32 < size.toNat) ∧ size.toNat ≤ 2 ^ n % 2 ^ 32) ∧
        ((2 ^ n % 2 ^ 32 : Nat) : Int) = result := by
  simp only [RoundStorageSize, if_neg (Int.not_lt.mpr hsize), Option.map_eq_some_iff]
  rw [exists_comm]
  simp only [exists_and_right, exists_whileLoop_iff, endsAfter_iff]
  constructor
  · rintro ⟨_, ⟨n, hends, rfl⟩, rfl⟩
    exact ⟨n, hends, by rw [(counters_iterate n).product]⟩
  · rintro ⟨n, hends, rfl⟩
    exact ⟨_, ⟨n, hends, rfl⟩, by rw [(counters_iterate n).product]⟩

/-- The product never exceeds 2^31. -/
theorem two_pow_mod_le (n : Nat) : 2 ^ n % 2 ^ 32 ≤ 2 ^ 31 := by
  by_cases hn : n < 32
  · rw [Nat.mod_eq_of_lt (Nat.pow_lt_pow_right (by decide) hn)]
    exact Nat.pow_le_pow_right (by decide) (by omega)
  · rw [Nat.mod_eq_zero_of_dvd (Nat.pow_dvd_pow 2 (Nat.not_lt.mp hn))]
    exact Nat.zero_le _

/-- Beyond 2^31 the loop never ends. -/
theorem roundStorageSize_of_large {size : Int} (hsize : 2 ^ 31 < size) (fuel : Nat) :
    RoundStorageSize fuel size = none := by
  cases hresult : RoundStorageSize fuel size with
  | none => rfl
  | some result =>
      obtain ⟨n, ⟨-, hend⟩, -⟩ := (roundStorageSize_eq_some_iff (by omega) result).mp
        ⟨fuel, hresult⟩
      have hle := two_pow_mod_le n
      omega

theorem isLeast_clog {size : Int} (hsize : 0 ≤ size) :
    IsLeast {power : Int | (∃ k : Nat, power = 2 ^ k) ∧ max size 1 ≤ power}
      (2 ^ Nat.clog 2 size.toNat) := by
  refine ⟨⟨⟨_, rfl⟩, max_le ?_ ?_⟩, ?_⟩
  · have hle := Nat.le_pow_clog (by decide : 1 < 2) size.toNat
    calc size = (size.toNat : Int) := (Int.toNat_of_nonneg hsize).symm
      _ ≤ ((2 ^ Nat.clog 2 size.toNat : Nat) : Int) := by exact_mod_cast hle
      _ = 2 ^ Nat.clog 2 size.toNat := by push_cast; rfl
  · exact_mod_cast Nat.one_le_two_pow
  · rintro power ⟨⟨k, rfl⟩, hle⟩
    have hk : size.toNat ≤ 2 ^ k := by
      have hmax := (le_max_left size 1).trans hle
      rw [Int.toNat_le]
      exact_mod_cast hmax
    exact_mod_cast Nat.pow_le_pow_right (by decide) (Nat.clog_le_of_le_pow hk)

theorem clog_lt_of_le {size : Int} (hsize : size ≤ 2 ^ 31) : Nat.clog 2 size.toNat < 32 := by
  have hle : size.toNat ≤ 2 ^ 31 := by omega
  have hclog : Nat.clog 2 size.toNat ≤ 31 := Nat.clog_le_of_le_pow hle
  omega

/-- The loop ends at the logarithm of the size. -/
theorem before_clog {size : Int} (hsize : size ≤ 2 ^ 31) {m : Nat}
    (hm : m < Nat.clog 2 size.toNat) : 2 ^ m % 2 ^ 32 < size.toNat := by
  have hlt : 2 ^ m < 2 ^ 32 :=
    Nat.pow_lt_pow_right (by decide) (hm.trans (clog_lt_of_le hsize))
  rw [Nat.mod_eq_of_lt hlt]
  exact (Nat.lt_clog_iff_pow_lt (by decide)).mp hm

theorem roundsUp_of_le {size : Int} (hsize : 0 ≤ size) (hle : size ≤ 2 ^ 31) : RoundsUp size := by
  have hclog := clog_lt_of_le hle
  have hmod : 2 ^ Nat.clog 2 size.toNat % 2 ^ 32 = 2 ^ Nat.clog 2 size.toNat :=
    Nat.mod_eq_of_lt (Nat.pow_lt_pow_right (by decide) hclog)
  have hend : size.toNat ≤ 2 ^ Nat.clog 2 size.toNat % 2 ^ 32 := by
    rw [hmod]
    exact Nat.le_pow_clog (by decide) _
  refine ⟨?_, ?_⟩
  · obtain ⟨fuel, hfuel⟩ := (roundStorageSize_eq_some_iff hsize _).mpr
      ⟨Nat.clog 2 size.toNat, ⟨fun m hm => before_clog hle hm, hend⟩, rfl⟩
    refine ⟨fuel, _, hfuel, ?_⟩
    rw [hmod]
    exact_mod_cast isLeast_clog hsize
  · rintro _ ⟨n, rfl, hbefore⟩
    refine (counters_iterate n).noWrap ?_
    by_contra hn
    have hlast := hbefore (Nat.clog 2 size.toNat) (by omega)
    rw [(counters_iterate _).product] at hlast
    omega

/-- Up to 2^31 it ends. -/
theorem roundStorageSize_ends_iff {size : Int} (hsize : 0 ≤ size) :
    (∃ fuel result, RoundStorageSize fuel size = some result) ↔ size ≤ 2 ^ 31 := by
  constructor
  · rintro ⟨fuel, result, hresult⟩
    by_contra hlarge
    rw [roundStorageSize_of_large (Int.not_le.mp hlarge)] at hresult
    cases hresult
  · intro hle
    obtain ⟨⟨fuel, result, hresult, -⟩, -⟩ := roundsUp_of_le hsize hle
    exact ⟨fuel, result, hresult⟩

/-- The size of the storage is found exactly when it is at most 2^31 megabytes. -/
theorem getTotalRomSize_ends_iff (statvfs : String → Option DiskInfo) {data root : Int}
    (hdata : GetTotalSizeByStatvfs statvfs PATH_DATA = some data)
    (hroot : GetTotalSizeByStatvfs statvfs PATH_ROOT = some root)
    (hsize : 0 ≤ CLibrary.toSigned 64 (data + root)) :
    (∃ fuel result, GetTotalRomSize statvfs fuel = some result) ↔
      (CLibrary.toSigned 64 (data + root)).tdiv BYTES_PER_MB ≤ 2 ^ 31 := by
  have hnonneg : 0 ≤ (CLibrary.toSigned 64 (data + root)).tdiv BYTES_PER_MB :=
    Int.tdiv_nonneg hsize (by decide)
  rw [← roundStorageSize_ends_iff hnonneg]
  simp only [GetTotalRomSize, hdata, hroot]

/-- Sizes up to 2^62 are rounded up exactly when they do not exceed 2^31. -/
theorem roundsUp_iff (size : Int) (hsize : 0 ≤ size ∧ size ≤ 2 ^ 62) :
    RoundsUp size ↔ size ≤ 2 ^ 31 := by
  constructor
  · rintro ⟨⟨fuel, result, hresult, -⟩, -⟩
    exact (roundStorageSize_ends_iff hsize.1).mp ⟨fuel, result, hresult⟩
  · exact roundsUp_of_le hsize.1

theorem roundsUp_gigabyte : (0 ≤ (1000000 : Int) ∧ (1000000 : Int) ≤ 2 ^ 62) ∧
    (RoundsUp 1000000 ↔ (1000000 : Int) ≤ 2 ^ 31) :=
  ⟨by decide, roundsUp_iff 1000000 (by decide)⟩

theorem twoPebibytes_neverRounded : ¬ RoundsUp 2147483649 := by
  rintro ⟨⟨fuel, result, hresult, -⟩, -⟩
  rw [roundStorageSize_of_large (by decide)] at hresult
  cases hresult

end ResSched.ResCommonUtil
