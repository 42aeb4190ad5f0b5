import ResSched.Model.Common.StringUtil
import ResSched.Model.Executor.KillProcess

/-! # Which strings are converted to the integers they denote -/

namespace ResSched.ResCommonUtil

open CLibrary

def INT64_MIN : Int := -9223372036854775808
def INT64_MAX : Int := 9223372036854775807

/-- The converter takes the string when it denotes a number of its type, and stores that number;
otherwise it refuses it and leaves the result. -/
structure Exact (low high : Int) (convert : String → Int → Bool × Int) (value : String) : Prop where
  taken : ∀ result number, IsDecimal value.toList number → low ≤ number → number ≤ high →
    convert value result = (true, number)
  refused : ∀ result,
    (∀ number, IsDecimal value.toList number → ¬ (low ≤ number ∧ number ≤ high)) →
      convert value result = (false, result)

/-- The string denotes the number up to its first null character, and goes on behind it. -/
def HidesTail (value : String) (number : Int) : Prop :=
  Char.ofNat 0 ∈ value.toList ∧ IsDecimal (cString value).toList number

/-- A number whose magnitude fits 64 bits stands up to the first null character of the string. -/
def ReadUnsigned (value : String) (number : Int) : Prop :=
  IsDecimal (cString value).toList number ∧ number.natAbs < Nat.pow 2 64

/-! ## What a converter takes -/

theorem converted_eq_true_iff (read : Strtol) (narrow : Int → Int) (outside : Int → Bool)
    (result number : Int) :
    converted read narrow outside result = (true, number) ↔
      ∃ value, read = ⟨value, true, false, []⟩ ∧ outside (narrow value) = false ∧
        number = narrow value := by
  obtain ⟨value, digits, erange, rest⟩ := read
  rw [converted]
  dsimp only
  split_ifs with h
  · refine iff_of_false (by simp) ?_
    rintro ⟨_, hread, houtside, -⟩
    obtain ⟨rfl, rfl, rfl, rfl⟩ := Strtol.mk.inj hread
    simp [houtside] at h
  · simp only [not_or, Bool.not_eq_true, Bool.not_eq_false, Bool.not_eq_eq_eq_not,
      Bool.not_true, not_not] at h
    obtain ⟨rfl, rfl, rfl, houtside⟩ := h
    constructor
    · intro heq
      exact ⟨value, rfl, houtside, (Prod.mk.inj heq).2.symm⟩
    · rintro ⟨_, hread, -, rfl⟩
      obtain ⟨rfl, -⟩ := Strtol.mk.inj hread
      rfl

theorem converted_refused {read : Strtol} {narrow : Int → Int} {outside : Int → Bool}
    {result : Int} (h : ∀ number, converted read narrow outside result ≠ (true, number)) :
    converted read narrow outside result = (false, result) := by
  simp only [converted] at h ⊢
  split_ifs at h ⊢ with hrefused
  · rfl
  · exact absurd rfl (h _)

/-- A converter is exact when the numbers it takes are the ones the string denotes. -/
theorem exact_iff {low high : Int} {convert : String → Int → Bool × Int} {value : String}
    {read : Strtol} {narrow : Int → Int} {outside : Int → Bool} {takes : Int → Prop}
    (hconvert : ∀ result, convert value result = converted read narrow outside result)
    (htakes : ∀ result number, convert value result = (true, number) ↔ takes number) :
    Exact low high convert value ↔
      ∀ number, takes number ↔ IsDecimal value.toList number ∧ low ≤ number ∧ number ≤ high := by
  constructor
  · intro h number
    refine ⟨?_, fun hnumber =>
      (htakes 0 number).mp (h.taken 0 number hnumber.1 hnumber.2.1 hnumber.2.2)⟩
    intro hnumber
    have hcode := (htakes 0 number).mpr hnumber
    by_contra hnot
    by_cases hother : ∃ other, IsDecimal value.toList other ∧ low ≤ other ∧ other ≤ high
    · obtain ⟨other, hdecimal, hlow, hhigh⟩ := hother
      rw [h.taken 0 other hdecimal hlow hhigh, Prod.mk.injEq] at hcode
      obtain ⟨-, rfl⟩ := hcode
      exact hnot ⟨hdecimal, hlow, hhigh⟩
    · rw [h.refused 0 fun other hdecimal hrange => hother ⟨other, hdecimal, hrange⟩] at hcode
      cases hcode
  · intro h
    refine ⟨?_, ?_⟩
    · intro result number hdecimal hlow hhigh
      exact (htakes result number).mpr ((h number).mpr ⟨hdecimal, hlow, hhigh⟩)
    · intro result hnone
      rw [hconvert]
      refine converted_refused fun number hcode => ?_
      rw [← hconvert, htakes, h] at hcode
      exact hnone number hcode.1 hcode.2

/-! ## The signed converters -/

/-- A signed converter into a type of at most 64 bits is exact unless a number of the type stands
before a null character. -/
theorem signed_iff {low high : Int} {convert : String → Int → Bool × Int} {value : String}
    {outside : Int → Bool}
    (hconvert : ∀ result, convert value result =
      converted (strtol 64 (cString value).toList) id outside result)
    (houtside : ∀ number, (INT64_MIN ≤ number ∧ number ≤ INT64_MAX) ∧ outside number = false ↔
      low ≤ number ∧ number ≤ high) :
    Exact low high convert value ↔
      ¬ ∃ number, HidesTail value number ∧ low ≤ number ∧ number ≤ high := by
  have htakes (result number : Int) : convert value result = (true, number) ↔
      IsDecimal (cString value).toList number ∧ low ≤ number ∧ number ≤ high := by
    rw [hconvert, converted_eq_true_iff, ← houtside]
    constructor
    · rintro ⟨parsed, hread, hinside, rfl⟩
      obtain ⟨hdecimal, hrange⟩ := (strtol_eq_iff ..).mp hread
      exact ⟨hdecimal, hrange, hinside⟩
    · rintro ⟨hdecimal, hrange, hinside⟩
      exact ⟨number, (strtol_eq_iff ..).mpr ⟨hdecimal, hrange⟩, hinside, rfl⟩
  rw [exact_iff hconvert htakes]
  simp only [isDecimal_iff_cString value]
  constructor
  · rintro h ⟨number, ⟨hnull, hdecimal⟩, hrange⟩
    exact ((h number).mp ⟨hdecimal, hrange⟩).1.1 hnull
  · intro h number
    constructor
    · rintro ⟨hdecimal, hrange⟩
      exact ⟨⟨fun hnull => h ⟨number, ⟨hnull, hdecimal⟩, hrange⟩, hdecimal⟩, hrange⟩
    · rintro ⟨⟨-, hdecimal⟩, hrange⟩
      exact ⟨hdecimal, hrange⟩

/-! ## The unsigned converters -/

theorem toUnsigned_mem (bits : Nat) (number : Int) :
    0 ≤ (toUnsigned bits number : Int) ∧
      (toUnsigned bits number : Int) ≤ (Nat.pow 2 bits : Nat) - 1 := by
  have hpos : (0 : Int) < (Nat.pow 2 bits : Nat) := Int.natCast_pos.mpr (Nat.two_pow_pos bits)
  have hmod := Int.emod_nonneg number (Int.ne_of_gt hpos)
  have hlt := Int.emod_lt_of_pos number hpos
  rw [toUnsigned, Int.toNat_of_nonneg hmod]
  omega

theorem toUnsigned_eq {bits : Nat} {number : Int} (hnonneg : 0 ≤ number)
    (hle : number ≤ (Nat.pow 2 bits : Nat) - 1) : (toUnsigned bits number : Int) = number := by
  have hmod : number % (Nat.pow 2 bits : Nat) = number := Int.emod_eq_of_lt hnonneg (by omega)
  rw [toUnsigned, hmod, Int.toNat_of_nonneg hnonneg]

/-- An unsigned converter takes a number of a magnitude of 64 bits for its low bits. -/
theorem unsigned_takes {bits : Nat} {convert : String → Int → Bool × Int} {value : String}
    {outside : Int → Bool} (hbits : bits ≤ 64)
    (hconvert : ∀ result, convert value result =
      converted (strtoul 64 (cString value).toList) (fun res => toUnsigned bits res) outside result)
    (houtside : ∀ number, outside (toUnsigned bits number) = false) (result number : Int) :
    convert value result = (true, number) ↔
      ∃ read, ReadUnsigned value read ∧ number = toUnsigned bits read := by
  have hdvd : ((Nat.pow 2 bits : Nat) : Int) ∣ (Nat.pow 2 64 : Nat) :=
    Int.natCast_dvd_natCast.mpr (Nat.pow_dvd_pow 2 hbits)
  have hnarrow (number : Int) :
      toUnsigned bits (toUnsigned 64 number) = toUnsigned bits number := by
    have hmod := Int.emod_nonneg number (by decide : ((Nat.pow 2 64 : Nat) : Int) ≠ 0)
    rw [toUnsigned, toUnsigned, toUnsigned, Int.toNat_of_nonneg hmod, Int.emod_emod_of_dvd _ hdvd]
  rw [hconvert, converted_eq_true_iff]
  simp only [strtoul_eq_iff, houtside, true_and]
  constructor
  · rintro ⟨_, ⟨read, hdecimal, hfits, rfl⟩, rfl⟩
    exact ⟨read, ⟨hdecimal, hfits⟩, by rw [hnarrow]⟩
  · rintro ⟨read, ⟨hdecimal, hfits⟩, rfl⟩
    exact ⟨_, ⟨read, hdecimal, hfits, rfl⟩, by rw [hnarrow]⟩

/-- The low bits of what is read are the number the string denotes unless the number read is
outside the narrow type or stands before a null character. -/
theorem lowBits_iff {bits : Nat} {high : Int} {value : String}
    (hhigh : high = (Nat.pow 2 bits : Nat) - 1) :
    (∀ read, ReadUnsigned value read → IsDecimal value.toList (toUnsigned bits read)) ↔
      ¬ ∃ number, ReadUnsigned value number ∧
        (Char.ofNat 0 ∈ value.toList ∨ number < 0 ∨ high < number) := by
  simp only [isDecimal_iff_cString value]
  constructor
  · rintro h ⟨number, hread, hbad⟩
    obtain ⟨hnull, hdecimal⟩ := h number hread
    have hrange := toUnsigned_mem bits number
    rw [hdecimal.unique hread.1] at hrange
    rcases hbad with hbad | hbad | hbad
    · exact hnull hbad
    · omega
    · omega
  · intro h read hread
    have hgood : ¬ (Char.ofNat 0 ∈ value.toList ∨ read < 0 ∨ high < read) :=
      fun hbad => h ⟨read, hread, hbad⟩
    rw [not_or, not_or, Int.not_lt, Int.not_lt] at hgood
    obtain ⟨hnull, hnonneg, hle⟩ := hgood
    rw [toUnsigned_eq hnonneg (by omega)]
    exact ⟨hnull, hread.1⟩

/-- An unsigned converter is exact unless the magnitude of the number read fits 64 bits while the
number is outside its type or stands before a null character. -/
theorem unsigned_iff {bits : Nat} {high : Int} {convert : String → Int → Bool × Int}
    {value : String} {outside : Int → Bool}
    (hbits : bits ≤ 64) (hhigh : high = (Nat.pow 2 bits : Nat) - 1)
    (hconvert : ∀ result, convert value result =
      converted (strtoul 64 (cString value).toList) (fun res => toUnsigned bits res) outside result)
    (houtside : ∀ number, outside (toUnsigned bits number) = false) :
    Exact 0 high convert value ↔
      ¬ ∃ number, ReadUnsigned value number ∧
        (Char.ofNat 0 ∈ value.toList ∨ number < 0 ∨ high < number) := by
  have hfits : (Nat.pow 2 bits : Nat) ≤ Nat.pow 2 64 := Nat.pow_le_pow_right (by decide) hbits
  rw [exact_iff hconvert (unsigned_takes hbits hconvert houtside), ← lowBits_iff hhigh]
  constructor
  · intro h read hread
    exact ((h _).mp ⟨read, hread, rfl⟩).1
  · intro h number
    constructor
    · rintro ⟨read, hread, rfl⟩
      rw [hhigh]
      exact ⟨h read hread, toUnsigned_mem bits read⟩
    · rintro ⟨hdecimal, hnonneg, hle⟩
      have hread := ((isDecimal_iff_cString ..).mp hdecimal).2
      exact ⟨number, ⟨hread, by omega⟩, (toUnsigned_eq hnonneg (by omega)).symm⟩

/-! ## The four converters -/

theorem strToInt32_exact_iff (value : String) :
    Exact INT_MIN INT_MAX StrToInt32 value ↔
      ¬ ∃ number, HidesTail value number ∧ INT_MIN ≤ number ∧ number ≤ INT_MAX := by
  refine signed_iff (fun _ => rfl) fun number => ?_
  rw [INT64_MIN, INT64_MAX, INT_MIN, INT_MAX, Bool.or_eq_false_iff, decide_eq_false_iff_not,
    decide_eq_false_iff_not]
  omega

theorem strToInt64_exact_iff (value : String) :
    Exact INT64_MIN INT64_MAX StrToInt64 value ↔
      ¬ ∃ number, HidesTail value number ∧ INT64_MIN ≤ number ∧ number ≤ INT64_MAX :=
  signed_iff (fun _ => rfl) fun _ => and_iff_left rfl

theorem strToUInt32_eq (value : String) (result : Int) :
    StrToUInt32 value result =
      converted (strtoul 64 (cString value).toList) (fun res => toUnsigned 32 res)
        (fun res => res > UINT_MAX) result :=
  rfl

theorem within_uint32 (number : Int) : decide ((toUnsigned 32 number : Int) > UINT_MAX) = false :=
  decide_eq_false (Int.not_lt.mpr (toUnsigned_mem 32 number).2)

theorem strToUInt32_takes (value : String) (result number : Int) :
    StrToUInt32 value result = (true, number) ↔
      ∃ read, ReadUnsigned value read ∧ number = toUnsigned 32 read :=
  unsigned_takes (by decide) (strToUInt32_eq value) within_uint32 result number

theorem strToUInt32_exact_iff (value : String) :
    Exact 0 UINT_MAX StrToUInt32 value ↔
      ¬ ∃ number, ReadUnsigned value number ∧
        (Char.ofNat 0 ∈ value.toList ∨ number < 0 ∨ UINT_MAX < number) :=
  unsigned_iff (by decide : 32 ≤ 64) rfl (strToUInt32_eq value) within_uint32

theorem strToUInt64_exact_iff (value : String) :
    Exact 0 UINT64_MAX StrToUInt64 value ↔
      ¬ ∃ number, ReadUnsigned value number ∧
        (Char.ofNat 0 ∈ value.toList ∨ number < 0 ∨ UINT64_MAX < number) := by
  refine unsigned_iff (by decide : 64 ≤ 64) rfl (fun _ => rfl) fun number => ?_
  exact decide_eq_false (Int.not_lt.mpr (toUnsigned_mem 64 number).2)

/-- The converter of the kill requests is this one. -/
theorem kill_strToInt32 (value : String) (result : Int) :
    StrToInt32 value result =
      match Kill.StrToInt32 value with
      | some number => (true, number)
      | none => (false, result) := by
  have htest (res : Int) :
      (decide (res < INT_MIN) || decide (res > INT_MAX)) = true ↔
        res < Kill.INT_MIN ∨ res > Kill.INT_MAX := by
    rw [Bool.or_eq_true, decide_eq_true_iff, decide_eq_true_iff]
    rfl
  rw [StrToInt32, converted, Kill.StrToInt32]
  dsimp only [id_eq]
  simp only [htest]
  split_ifs <;> rfl

end ResSched.ResCommonUtil
