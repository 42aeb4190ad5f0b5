import Mathlib.Data.Int.Basic
import Mathlib.Tactic.Common

/-! # Integers of C: conversions, `atoi` and `atoll` -/

namespace CLibrary

/-- The conversion to a signed type of `bits` bits. -/
def toSigned (bits : Nat) (value : Int) : Int :=
  Int.bmod value (Nat.pow 2 bits)

/-- The conversion to an unsigned type of `bits` bits. -/
def toUnsigned (bits : Nat) (value : Int) : Nat :=
  (value % (Nat.pow 2 bits : Nat)).toNat

/-- The blanks `atoi` skips. -/
def isspace (c : Char) : Bool :=
  c = ' ' || ('\t' ≤ c && c ≤ '\r')

/-- The number the leading decimal digits denote, after the digits read so far. -/
def leadingDigits (read : Nat) : List Char → Nat
  | [] => read
  | c :: cs =>
      if c.isDigit then leadingDigits (10 * read + (c.toNat - '0'.toNat)) cs else read

/-- Blanks, an optional sign, then digits up to the first other character. A number outside
`bits` bits, which C leaves undefined, wraps. -/
def decimal (bits : Nat) (s : String) : Int :=
  match s.toList.dropWhile isspace with
  | '-' :: cs => toSigned bits (-(leadingDigits 0 cs : Int))
  | '+' :: cs => toSigned bits (leadingDigits 0 cs)
  | cs => toSigned bits (leadingDigits 0 cs)

/-- The string `c_str` gives back: what stands before the first null character. -/
def cString (s : String) : String :=
  String.ofList (s.toList.takeWhile fun c => c ≠ Char.ofNat 0)

/-- The pieces `getline` reads from a stream over a string: nothing is read after a last
separator. -/
def getlines (separator : Char) (s : String) : List String :=
  let pieces := (s.toList.splitOn separator).map String.ofList
  if pieces.getLast? = some "" then pieces.dropLast else pieces

def atoi (s : String) : Int :=
  decimal 32 s

def atoll (s : String) : Int :=
  decimal 64 s

/-- `std::from_chars` into an unsigned type: digits from the first character on, and no result
when there are none or the number does not fit. -/
def fromChars (bits : Nat) (s : String) : Option Nat :=
  match s.toList with
  | [] => none
  | c :: cs =>
      if c.isDigit ∧ leadingDigits 0 (c :: cs) < Nat.pow 2 bits then
        some (leadingDigits 0 (c :: cs))
      else none

/-! ## What fits into 32 bits -/

theorem toSigned_mem (value : Int) :
    -2147483648 ≤ toSigned 32 value ∧ toSigned 32 value < 2147483648 := by
  have hbits : Nat.pow 2 32 = 4294967296 := rfl
  have hle := Int.le_bmod (x := value) (m := 4294967296) (by decide)
  have hlt := Int.bmod_lt (x := value) (m := 4294967296) (by decide)
  rw [toSigned, hbits]
  omega

theorem toSigned_eq_iff (value : Int) :
    toSigned 32 value = value ↔ -2147483648 ≤ value ∧ value < 2147483648 := by
  have hbits : Nat.pow 2 32 = 4294967296 := rfl
  rw [toSigned, hbits, Int.bmod_eq_iff (by decide)]
  omega

/-- A number in the range of a signed type is kept as it is. -/
theorem toSigned_of_fits {bits : Nat} {value : Int} (hbits : 0 < bits)
    (hlow : -(Nat.pow 2 (bits - 1) : Nat) ≤ value) (hhigh : value < (Nat.pow 2 (bits - 1) : Nat)) :
    toSigned bits value = value := by
  have hpow : Nat.pow 2 bits = 2 * Nat.pow 2 (bits - 1) := by
    obtain ⟨bits, rfl⟩ := Nat.exists_eq_add_one.mpr hbits
    exact Nat.pow_succ'
  rw [toSigned]
  exact Int.bmod_eq_of_le_mul_two (by omega) (by omega)

/-- The conversions to the two types of one width undo each other. -/
theorem toSigned_toUnsigned (bits : Nat) (value : Int) :
    toSigned bits (toUnsigned bits value) = toSigned bits value := by
  have hpow : ((Nat.pow 2 bits : Nat) : Int) ≠ 0 := by
    have := Nat.two_pow_pos bits
    simp only [Nat.pow_eq]
    omega
  rw [toSigned, toUnsigned, Int.toNat_of_nonneg (Int.emod_nonneg value hpow), Int.emod_bmod,
    toSigned]

theorem toSigned_toSigned (bits : Nat) (value : Int) :
    toSigned bits (toSigned bits value) = toSigned bits value := by
  rw [toSigned, toSigned, Int.bmod_bmod]

theorem toUnsigned_toSigned (bits : Nat) (value : Int) :
    toUnsigned bits (toSigned bits value) = toUnsigned bits value := by
  rw [toSigned, toUnsigned, Int.bmod_emod, toUnsigned]

theorem toUnsigned_natCast {bits n : Nat} (h : n < Nat.pow 2 bits) : toUnsigned bits n = n := by
  rw [toUnsigned, ← Int.natCast_emod, Int.toNat_natCast, Nat.mod_eq_of_lt h]

theorem atoi_mem (s : String) : -2147483648 ≤ atoi s ∧ atoi s < 2147483648 := by
  rw [atoi, decimal]
  split
  · exact toSigned_mem _
  · exact toSigned_mem _
  · exact toSigned_mem _

example : atoi " -20x" = -20 := by decide

example : fromChars 64 "12x" = some 12 := by decide

end CLibrary
