import ResSched.Library.CLibrary
import Mathlib.Algebra.Group.Nat.Defs
import Mathlib.Data.List.TakeWhile

/-! # Decimal numbers in texts, and `strtol` -/

namespace CLibrary

/-- The sign a number begins with, `true` for a minus, and what follows it. -/
def splitSign : List Char → Bool × List Char
  | '-' :: cs => (true, cs)
  | '+' :: cs => (false, cs)
  | cs => (false, cs)

/-- The number a text begins with, and what follows it; nothing when no digit stands there. -/
def readDecimal (text : List Char) : Option (Int × List Char) :=
  let (negative, unsigned) := splitSign (text.dropWhile isspace)
  let digits := unsigned.takeWhile Char.isDigit
  if digits = [] then none
  else
    let number : Int := Nat.ofDigitChars 10 digits 0
    some (if negative then -number else number, unsigned.dropWhile Char.isDigit)

/-- What `strtol` gives: the value, whether digits have been read, whether they denote a number
out of range, and the text behind them. -/
structure Strtol where
  value : Int
  converted : Bool
  erange : Bool
  rest : List Char

/-- `strtol` in base ten, into a type of `bits` bits. -/
def strtol (bits : Nat) (text : List Char) : Strtol :=
  let bound : Int := Nat.pow 2 (bits - 1)
  match readDecimal text with
  | none => ⟨0, false, false, text⟩
  | some (number, rest) =>
      if number < -bound then ⟨-bound, true, true, rest⟩
      else if number > bound - 1 then ⟨bound - 1, true, true, rest⟩
      else ⟨number, true, false, rest⟩

/-- `strtoul` in base ten, into an unsigned type of `bits` bits: what is tested is the magnitude,
and a number with a minus is negated in the type. -/
def strtoul (bits : Nat) (text : List Char) : Strtol :=
  match readDecimal text with
  | none => ⟨0, false, false, text⟩
  | some (number, rest) =>
      if number.natAbs < Nat.pow 2 bits then ⟨toUnsigned bits number, true, false, rest⟩
      else ⟨(Nat.pow 2 bits : Nat) - 1, true, true, rest⟩

/-- The text is a decimal number: blanks, a sign or none, and digits. -/
def IsDecimal (text : List Char) (number : Int) : Prop :=
  ∃ blanks digits, (∀ c ∈ blanks, isspace c = true) ∧ digits ≠ [] ∧
    (∀ c ∈ digits, c.isDigit = true) ∧
    (text = blanks ++ digits ∧ number = Nat.ofDigitChars 10 digits 0 ∨
      text = blanks ++ '+' :: digits ∧ number = Nat.ofDigitChars 10 digits 0 ∨
      text = blanks ++ '-' :: digits ∧ number = -(Nat.ofDigitChars 10 digits 0 : Int))

/-- The text a stream writes for an integer. -/
def showInt : Int → List Char
  | .ofNat n => Nat.toDigits 10 n
  | .negSucc n => '-' :: Nat.toDigits 10 (n + 1)

/-- A text in a field of a width, filled from the left. -/
def setw (width : Nat) (fill : Char) (text : List Char) : List Char :=
  List.replicate (width - text.length) fill ++ text

/-! ## Digits, blanks and signs -/

theorem isspace_of_isDigit {c : Char} (h : c.isDigit = true) : isspace c = false := by
  rw [Char.isDigit, Bool.and_eq_true, decide_eq_true_eq, decide_eq_true_eq] at h
  have hlow : 48 ≤ c.toNat := h.1
  rw [isspace, Bool.or_eq_false_iff, decide_eq_false_iff_not, Bool.and_eq_false_iff,
    decide_eq_false_iff_not, decide_eq_false_iff_not]
  constructor
  · rintro rfl
    exact absurd hlow (by decide)
  · refine Or.inr fun hle => ?_
    have hcode : c.toNat ≤ 13 := hle
    omega

theorem dropWhile_blanks {blanks rest : List Char} (hblanks : ∀ c ∈ blanks, isspace c = true)
    (hrest : ∀ c ∈ rest.head?, isspace c = false) :
    (blanks ++ rest).dropWhile isspace = rest := by
  rw [List.dropWhile_append_of_pos hblanks]
  cases rest with
  | nil => rfl
  | cons c rest => rw [List.dropWhile_cons, hrest c rfl]; rfl

theorem splitSign_digits {digits : List Char} (hne : digits ≠ [])
    (hdigits : ∀ c ∈ digits, c.isDigit = true) : splitSign digits = (false, digits) := by
  cases digits with
  | nil => exact absurd rfl hne
  | cons c cs =>
      have hc := hdigits c List.mem_cons_self
      rw [splitSign.eq_3]
      · rintro rest heq
        obtain ⟨rfl, -⟩ := List.cons.inj heq
        exact absurd hc (by decide)
      · rintro rest heq
        obtain ⟨rfl, -⟩ := List.cons.inj heq
        exact absurd hc (by decide)

/-- A text is its blanks, its sign and what follows. -/
theorem splitSign_cases (text : List Char) :
    splitSign text = (false, text) ∨ (∃ cs, text = '+' :: cs ∧ splitSign text = (false, cs)) ∨
      ∃ cs, text = '-' :: cs ∧ splitSign text = (true, cs) := by
  fun_cases splitSign text with
  | case1 cs => exact Or.inr (Or.inr ⟨cs, rfl, rfl⟩)
  | case2 cs => exact Or.inr (Or.inl ⟨cs, rfl, rfl⟩)
  | case3 => exact Or.inl rfl

/-! ## What is read -/

theorem readDecimal_eq (blanks unsigned : List Char) (negative : Bool) (digits rest : List Char)
    (hblanks : ∀ c ∈ blanks, isspace c = true) (hne : digits ≠ [])
    (hdigits : ∀ c ∈ digits, c.isDigit = true) (hrest : ∀ c ∈ rest.head?, c.isDigit = false)
    (hunsigned : ∀ c ∈ unsigned.head?, isspace c = false)
    (hsign : splitSign unsigned = (negative, digits ++ rest)) :
    readDecimal (blanks ++ unsigned) =
      some (if negative then -(Nat.ofDigitChars 10 digits 0 : Int)
        else Nat.ofDigitChars 10 digits 0, rest) := by
  have htake : rest.takeWhile Char.isDigit = [] := by
    cases rest with
    | nil => rfl
    | cons c rest => rw [List.takeWhile_cons, hrest c rfl]; rfl
  have hdrop : rest.dropWhile Char.isDigit = rest := by
    cases rest with
    | nil => rfl
    | cons c rest => rw [List.dropWhile_cons, hrest c rfl]; rfl
  rw [readDecimal, dropWhile_blanks hblanks hunsigned, hsign]
  dsimp only
  rw [List.takeWhile_append_of_pos hdigits, htake, List.append_nil,
    List.dropWhile_append_of_pos hdigits, hdrop, if_neg hne]

/-- What is read to the end of the text is a sign and digits. -/
theorem digits_of_readDecimal {text unsigned : List Char} {negative : Bool} {number : Int}
    (hsign : splitSign (text.dropWhile isspace) = (negative, unsigned))
    (hread : readDecimal text = some (number, [])) :
    unsigned ≠ [] ∧ (∀ c ∈ unsigned, c.isDigit = true) ∧
      number = if negative then -(Nat.ofDigitChars 10 unsigned 0 : Int)
        else Nat.ofDigitChars 10 unsigned 0 := by
  rw [readDecimal, hsign] at hread
  dsimp only at hread
  by_cases hnone : unsigned.takeWhile Char.isDigit = []
  · rw [if_pos hnone] at hread
    cases hread
  · rw [if_neg hnone, Option.some.injEq, Prod.mk.injEq] at hread
    obtain ⟨hnumber, hdrop⟩ := hread
    have hdigits := List.dropWhile_eq_nil_iff.mp hdrop
    rw [List.takeWhile_eq_self_iff.mpr hdigits] at hnone hnumber
    exact ⟨hnone, hdigits, hnumber.symm⟩

/-- A text is read to its end exactly when it is a decimal number. -/
theorem readDecimal_eq_some_iff (text : List Char) (number : Int) :
    readDecimal text = some (number, []) ↔ IsDecimal text number := by
  constructor
  · intro hread
    have hblanks : ∀ c ∈ text.takeWhile isspace, isspace c = true :=
      fun c hc => List.mem_takeWhile_imp hc
    have htext : text = text.takeWhile isspace ++ text.dropWhile isspace :=
      List.takeWhile_append_dropWhile.symm
    rcases splitSign_cases (text.dropWhile isspace) with hsign | ⟨cs, hcs, hsign⟩ | ⟨cs, hcs, hsign⟩
    · obtain ⟨hne, hdigits, hnumber⟩ := digits_of_readDecimal hsign hread
      exact ⟨_, _, hblanks, hne, hdigits, Or.inl ⟨htext, hnumber⟩⟩
    · obtain ⟨hne, hdigits, hnumber⟩ := digits_of_readDecimal hsign hread
      exact ⟨_, _, hblanks, hne, hdigits, Or.inr (Or.inl ⟨hcs ▸ htext, hnumber⟩)⟩
    · obtain ⟨hne, hdigits, hnumber⟩ := digits_of_readDecimal hsign hread
      exact ⟨_, _, hblanks, hne, hdigits, Or.inr (Or.inr ⟨hcs ▸ htext, hnumber⟩)⟩
  · rintro ⟨blanks, digits, hblanks, hne, hdigits, ⟨rfl, rfl⟩ | ⟨rfl, rfl⟩ | ⟨rfl, rfl⟩⟩
    · refine readDecimal_eq blanks digits false digits [] hblanks hne hdigits (by simp) ?_ ?_
      · exact fun c hc => isspace_of_isDigit (hdigits c (List.mem_of_mem_head? hc))
      · rw [List.append_nil, splitSign_digits hne hdigits]
    · refine readDecimal_eq blanks _ false digits [] hblanks hne hdigits (by simp) ?_ ?_
      · rintro c ⟨⟩
        decide
      · rw [List.append_nil, splitSign]
    · refine readDecimal_eq blanks _ true digits [] hblanks hne hdigits (by simp) ?_ ?_
      · rintro c ⟨⟩
        decide
      · rw [List.append_nil, splitSign]

theorem toNat_of_mem_toDigits {n : Nat} {c : Char} (h : c ∈ Nat.toDigits 10 n) :
    48 ≤ c.toNat ∧ c.toNat ≤ 57 := by
  have hdigit := Nat.isDigit_of_mem_toDigits (by decide) (by decide) h
  rw [Char.isDigit, Bool.and_eq_true, decide_eq_true_iff, decide_eq_true_iff] at hdigit
  exact ⟨UInt32.le_iff_toNat_le.mp hdigit.1, UInt32.le_iff_toNat_le.mp hdigit.2⟩

/-- The number of a run of digits is the one of the standard reader. -/
theorem leadingDigits_eq {digits : List Char} (hdigits : ∀ c ∈ digits, c.isDigit = true)
    (read : Nat) : leadingDigits read digits = Nat.ofDigitChars 10 digits read := by
  induction digits generalizing read with
  | nil => rfl
  | cons c cs ih =>
      rw [List.forall_mem_cons] at hdigits
      rw [leadingDigits, if_pos hdigits.1, ih hdigits.2, Nat.ofDigitChars_cons]

/-- Digits are converted to their number, cut to the type. -/
theorem decimal_digits {digits : List Char} (hne : digits ≠ [])
    (hdigits : ∀ c ∈ digits, c.isDigit = true) (bits : Nat) :
    decimal bits (String.ofList digits) = toSigned bits (Nat.ofDigitChars 10 digits 0) := by
  have hblank : digits.dropWhile isspace = digits := by
    have hdrop := @dropWhile_blanks [] digits (by simp)
      fun c hc => isspace_of_isDigit (hdigits c (List.mem_of_mem_head? hc))
    exact hdrop
  have hsign := splitSign_digits hne hdigits
  rw [decimal, String.toList_ofList, hblank]
  split
  · next cs => simp [splitSign] at hsign
  · next cs => exact absurd (hdigits '+' List.mem_cons_self) (by decide)
  · rw [leadingDigits_eq hdigits]

/-- Digits behind a minus are converted to the negative number, cut to the type. -/
theorem decimal_minus {digits : List Char} (hdigits : ∀ c ∈ digits, c.isDigit = true)
    (bits : Nat) :
    decimal bits (String.ofList ('-' :: digits)) =
      toSigned bits (-(Nat.ofDigitChars 10 digits 0 : Int)) := by
  have hblank : ('-' :: digits).dropWhile isspace = '-' :: digits :=
    List.dropWhile_cons_of_neg (by decide)
  rw [decimal, String.toList_ofList, hblank, ← leadingDigits_eq hdigits]
  rfl

/-- `atoi` of digits is their number, when it fits. -/
theorem atoi_digits {digits : List Char} (hne : digits ≠ [])
    (hdigits : ∀ c ∈ digits, c.isDigit = true) (hfits : Nat.ofDigitChars 10 digits 0 < 2147483648) :
    atoi (String.ofList digits) = Nat.ofDigitChars 10 digits 0 := by
  rw [atoi, decimal_digits hne hdigits, toSigned_eq_iff]
  omega

/-- A number that is written and read back is the number, cut to the type. -/
theorem decimal_toString (bits : Nat) (number : Int) :
    decimal bits (toString number) = toSigned bits number := by
  cases number with
  | ofNat n =>
      have htext : toString (Int.ofNat n) = String.ofList (Nat.toDigits 10 n) := rfl
      have hdigits : ∀ c ∈ Nat.toDigits 10 n, c.isDigit = true :=
        fun c hc => Nat.isDigit_of_mem_toDigits (by decide) (by decide) hc
      rw [htext, decimal_digits Nat.toDigits_ne_nil hdigits, Nat.ofDigitChars_ten_toDigits]
      rfl
  | negSucc n =>
      have htext : toString (Int.negSucc n) = String.ofList ('-' :: Nat.toDigits 10 (n + 1)) := by
        show "-" ++ Nat.repr (n + 1) = _
        apply String.toList_injective
        simp [Nat.repr]
      have hdigits : ∀ c ∈ Nat.toDigits 10 (n + 1), c.isDigit = true :=
        fun c hc => Nat.isDigit_of_mem_toDigits (by decide) (by decide) hc
      rw [htext, decimal_minus hdigits, Nat.ofDigitChars_ten_toDigits]
      rfl

theorem toSigned_toInt (value : Int32) : toSigned 32 value.toInt = value.toInt := by
  have hlow := value.le_toInt
  have hhigh := value.toInt_lt
  rw [toSigned_eq_iff]
  omega

theorem atoi_toString_int32 (value : Int32) : atoi (toString value) = value.toInt :=
  (decimal_toString 32 value.toInt).trans (toSigned_toInt value)

/-- A number that was made unsigned is read as the signed one again. -/
theorem atoi_toString_toUnsigned (value : Int32) :
    atoi (toString (toUnsigned 32 value.toInt)) = value.toInt := by
  have hread := decimal_toString 32 (toUnsigned 32 value.toInt)
  rw [toSigned_toUnsigned, toSigned_toInt] at hread
  exact hread

/-- An unsigned number that is read as a signed one comes back unsigned. -/
theorem toUnsigned_atoi_toString (value : UInt32) :
    toUnsigned 32 (atoi (toString value)) = value.toNat := by
  have hread : atoi (toString value) = toSigned 32 value.toNat := decimal_toString 32 value.toNat
  rw [hread, toUnsigned_toSigned, toUnsigned_natCast value.toNat_lt]

theorem toUnsigned_atoll_toString (value : UInt64) :
    toUnsigned 64 (atoll (toString value)) = value.toNat := by
  have hread : atoll (toString value) = toSigned 64 value.toNat := decimal_toString 64 value.toNat
  rw [hread, toUnsigned_toSigned, toUnsigned_natCast value.toNat_lt]

/-- `strtol` reads the whole text and stays in range exactly for a decimal number in range. -/
theorem strtol_eq_iff (bits : Nat) (text : List Char) (number : Int) :
    strtol bits text = ⟨number, true, false, []⟩ ↔
      IsDecimal text number ∧ -(Nat.pow 2 (bits - 1) : Nat) ≤ number ∧
        number ≤ (Nat.pow 2 (bits - 1) : Nat) - 1 := by
  rw [← readDecimal_eq_some_iff, strtol]
  generalize ((Nat.pow 2 (bits - 1) : Nat) : Int) = bound
  cases readDecimal text with
  | none => simp
  | some read =>
      obtain ⟨value, rest⟩ := read
      simp only [Option.some.injEq, Prod.mk.injEq]
      split_ifs with hlow hhigh
      · refine iff_of_false (by simp) ?_
        rintro ⟨⟨rfl, -⟩, hbound, -⟩
        exact absurd hlow (Int.not_lt.mpr hbound)
      · refine iff_of_false (by simp) ?_
        rintro ⟨⟨rfl, -⟩, -, hbound⟩
        exact absurd hhigh (Int.not_lt.mpr hbound)
      · rw [Strtol.mk.injEq]
        constructor
        · rintro ⟨rfl, -, -, rfl⟩
          exact ⟨⟨rfl, rfl⟩, Int.not_lt.mp hlow, Int.not_lt.mp hhigh⟩
        · rintro ⟨⟨rfl, rfl⟩, -⟩
          exact ⟨rfl, rfl, rfl, rfl⟩

/-- `strtol` reports an overflow exactly for a text that begins with a number out of range. -/
theorem strtol_erange_iff (bits : Nat) (text : List Char) :
    (strtol bits text).erange = true ↔
      ∃ number rest, readDecimal text = some (number, rest) ∧
        (number < -(Nat.pow 2 (bits - 1) : Nat) ∨ (Nat.pow 2 (bits - 1) : Nat) - 1 < number) := by
  rw [strtol]
  generalize ((Nat.pow 2 (bits - 1) : Nat) : Int) = bound
  cases readDecimal text with
  | none => simp
  | some read =>
      obtain ⟨value, rest⟩ := read
      simp only [Option.some.injEq, Prod.mk.injEq]
      split_ifs with hlow hhigh
      · exact iff_of_true rfl ⟨value, rest, ⟨rfl, rfl⟩, Or.inl hlow⟩
      · exact iff_of_true rfl ⟨value, rest, ⟨rfl, rfl⟩, Or.inr hhigh⟩
      · refine iff_of_false (by simp) ?_
        rintro ⟨_, _, ⟨rfl, rfl⟩, hout⟩
        exact hout.elim hlow hhigh

/-- A text that `strtol` reads to its end is a decimal number. -/
theorem isDecimal_of_strtol {bits : Nat} {text : List Char}
    (hconverted : (strtol bits text).converted = true) (hrest : (strtol bits text).rest = []) :
    ∃ number, IsDecimal text number := by
  simp only [← readDecimal_eq_some_iff]
  rw [strtol] at hconverted hrest
  cases hread : readDecimal text with
  | none => simp [hread] at hconverted
  | some read =>
      obtain ⟨number, rest⟩ := read
      simp only [hread] at hrest
      have hnil : rest = [] := by
        split_ifs at hrest
        · exact hrest
        · exact hrest
        · exact hrest
      exact ⟨number, by rw [hnil]⟩

/-- `strtoul` reads the whole text and stays in range exactly for a decimal number whose magnitude
fits. -/
theorem strtoul_eq_iff (bits : Nat) (text : List Char) (value : Int) :
    strtoul bits text = ⟨value, true, false, []⟩ ↔
      ∃ number, IsDecimal text number ∧ number.natAbs < Nat.pow 2 bits ∧
        value = toUnsigned bits number := by
  simp only [← readDecimal_eq_some_iff]
  rw [strtoul]
  cases readDecimal text with
  | none => simp
  | some read =>
      obtain ⟨number, rest⟩ := read
      simp only [Option.some.injEq, Prod.mk.injEq]
      split_ifs with hfits
      · rw [Strtol.mk.injEq]
        constructor
        · rintro ⟨rfl, -, -, rfl⟩
          exact ⟨number, ⟨rfl, rfl⟩, hfits, rfl⟩
        · rintro ⟨_, ⟨rfl, rfl⟩, -, rfl⟩
          exact ⟨rfl, rfl, rfl, rfl⟩
      · refine iff_of_false (by simp) ?_
        rintro ⟨_, ⟨rfl, -⟩, hnumber, -⟩
        exact hfits hnumber

/-- A text denotes one number at most. -/
theorem IsDecimal.unique {text : List Char} {number number' : Int} (h : IsDecimal text number)
    (h' : IsDecimal text number') : number = number' := by
  rw [← readDecimal_eq_some_iff] at h h'
  exact congrArg Prod.fst (Option.some.inj (h.symm.trans h'))

/-- A number is written without a null character. -/
theorem IsDecimal.notMem_null {text : List Char} {number : Int} (h : IsDecimal text number) :
    Char.ofNat 0 ∉ text := by
  obtain ⟨blanks, digits, hblanks, -, hdigits, htext⟩ := h
  have hblank : Char.ofNat 0 ∉ blanks := fun hmem => absurd (hblanks _ hmem) (by decide)
  have hdigit : Char.ofNat 0 ∉ digits := fun hmem => absurd (hdigits _ hmem) (by decide)
  rcases htext with ⟨rfl, -⟩ | ⟨rfl, -⟩ | ⟨rfl, -⟩
  · simp only [List.mem_append, not_or]
    exact ⟨hblank, hdigit⟩
  · simp only [List.mem_append, List.mem_cons, not_or]
    exact ⟨hblank, by decide, hdigit⟩
  · simp only [List.mem_append, List.mem_cons, not_or]
    exact ⟨hblank, by decide, hdigit⟩

/-- A string denotes a number exactly when what C reads of it does and there is nothing else. -/
theorem isDecimal_iff_cString (s : String) (number : Int) :
    IsDecimal s.toList number ↔
      Char.ofNat 0 ∉ s.toList ∧ IsDecimal (cString s).toList number := by
  have hwhole (hnull : Char.ofNat 0 ∉ s.toList) : (cString s).toList = s.toList := by
    rw [cString, String.toList_ofList, List.takeWhile_eq_self_iff]
    intro c hc
    rw [decide_eq_true_iff]
    rintro rfl
    exact hnull hc
  constructor
  · intro h
    refine ⟨h.notMem_null, ?_⟩
    rw [hwhole h.notMem_null]
    exact h
  · rintro ⟨hnull, h⟩
    rw [hwhole hnull] at h
    exact h

/-! ## Fields of digits -/

/-- A number that fits a field of zeros is written with as many digits as the field has. -/
theorem setw_toDigits {width n : Nat} (hwidth : 0 < width) (hn : n < 10 ^ width) :
    (setw width '0' (Nat.toDigits 10 n)).length = width ∧
      (∀ c ∈ setw width '0' (Nat.toDigits 10 n), c.isDigit = true) ∧
      Nat.ofDigitChars 10 (setw width '0' (Nat.toDigits 10 n)) 0 = n := by
  have hlength := (Nat.length_toDigits_le_iff (by decide : 1 < 10) hwidth).mpr hn
  rw [setw]
  refine ⟨?_, ?_, ?_⟩
  · rw [List.length_append, List.length_replicate]
    omega
  · intro c hc
    rcases List.mem_append.mp hc with hzero | hdigit
    · rw [List.eq_of_mem_replicate hzero]
      rfl
    · exact Nat.isDigit_of_mem_toDigits (by decide) (by decide) hdigit
  · rw [Nat.ofDigitChars_append, Nat.ofDigitChars_replicate_zero, Nat.mul_zero,
      Nat.ofDigitChars_ten_toDigits]

/-- A negative number has its sign in the field. -/
theorem mem_setw_showInt_of_neg (width : Nat) {number : Int} (hneg : number < 0) :
    '-' ∈ setw width '0' (showInt number) := by
  cases number with
  | ofNat n => exact absurd hneg (Int.not_lt.mpr (Int.natCast_nonneg n))
  | negSucc n => exact List.mem_append_right _ List.mem_cons_self

end CLibrary
