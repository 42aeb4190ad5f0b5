import ResSched.Model.Common.TimeUtil
import Mathlib.Data.List.Lex

/-! # What time stamps keep of an instant -/

namespace ResSched.ResCommonUtil

open CLibrary

/-! ## The specification -/

/-- The milliseconds of an instant in three digits. -/
structure IsMillis (t : Int) (digits : List Char) : Prop where
  length : digits.length = MILLISEC_LENGTH
  isDigit : ∀ c ∈ digits, c.isDigit = true
  value : (Nat.ofDigitChars 10 digits 0 : Int) = t % SEC_TO_MILLISEC

/-- The text is the date of the second of an instant, and its milliseconds behind a point. -/
def Stamped (env : LocalTime) (format : String) (t : Int) (text : List Char) : Prop :=
  ∃ tm digits, env.localtime (t / SEC_TO_MILLISEC) = some tm ∧
    text = env.strftime format tm ++ '.' :: digits ∧ IsMillis t digits

/-- `FormatTimeWithMillis` stamps the instant, in agreement with `ConvertTimestampToStr`. -/
structure KeepsMillis (env : LocalTime) (t : Int) : Prop where
  stamped : ∃ text, FormatTimeWithMillis env t = some text ∧
    Stamped env "%Y-%m-%d %H:%M:%S" t text
  agrees : ∃ tm digits,
    FormatTimeWithMillis env t =
        some (env.strftime "%Y-%m-%d %H:%M:%S" tm ++ '.' :: digits) ∧
      ConvertTimestampToStr env t = env.strftime "%Y-%m-%d %H-%M-%S" tm ++ '.' :: digits

/-- The texts of two instants differ and compare as the instants do. -/
def InOrder (env : LocalTime) (t t' : Int) : Prop :=
  ∃ text text', FormatTimeWithMillis env t = some text ∧
    FormatTimeWithMillis env t' = some text' ∧ text ≠ text' ∧ text < text'

/-- Dates of one format have one width, and with one offset they are ordered as their seconds. -/
structure LocalTime.Ordered (env : LocalTime) (format : String) : Prop where
  width : ∀ s s' tm tm', env.localtime s = some tm → env.localtime s' = some tm' →
    (env.strftime format tm).length = (env.strftime format tm').length
  ordered : ∀ s s' tm tm', env.localtime s = some tm → env.localtime s' = some tm' →
    env.gmtoff tm = env.gmtoff tm' → s < s' → env.strftime format tm < env.strftime format tm'

/-! ## Texts -/

theorem append_lt_append {a b : List Char} (hlength : a.length = b.length) (hlt : a < b)
    (x y : List Char) : a ++ x < b ++ y := by
  induction a generalizing b with
  | nil =>
      obtain rfl := List.length_eq_zero_iff.mp hlength.symm
      exact absurd hlt (List.lt_irrefl [])
  | cons c a ih =>
      cases b with
      | nil => cases hlength
      | cons d b =>
          rw [List.cons_lt_cons_iff] at hlt
          rw [List.cons_append, List.cons_append, List.cons_lt_cons_iff]
          exact hlt.imp_right fun h => ⟨h.1, ih (Nat.succ.inj hlength) h.2⟩

theorem isMillis_setw {t : Int} {number : Int} (hnumber : number = t % SEC_TO_MILLISEC) :
    IsMillis t (setw MILLISEC_LENGTH '0' (showInt number)) := by
  have hsec : SEC_TO_MILLISEC = 1000 := rfl
  rw [hsec] at hnumber
  have hnonneg : 0 ≤ number := by omega
  obtain ⟨n, rfl⟩ := Int.eq_ofNat_of_zero_le hnonneg
  have hfits : n < 10 ^ 3 := by omega
  obtain ⟨hlength, hdigits, hvalue⟩ := setw_toDigits (by decide) hfits
  have hcast : (Nat.ofDigitChars 10 (setw 3 '0' (Nat.toDigits 10 n)) 0 : Int) = n := by
    rw [hvalue]
  exact ⟨hlength, hdigits, by rw [hsec, ← hnumber]; exact hcast⟩

/-- A negative remainder is never written as three digits behind a point. -/
theorem not_millis_of_neg {date date' digits : List Char} {number : Int} (hneg : number < 0)
    (hlow : -1000 < number) (hlength : digits.length = 3)
    (hdigits : ∀ c ∈ digits, c.isDigit = true) :
    date ++ '.' :: setw 3 '0' (showInt number) ≠ date' ++ '.' :: digits := by
  intro heq
  obtain ⟨n, rfl⟩ := Int.eq_negSucc_of_lt_zero hneg
  have hcount : (Nat.toDigits 10 (n + 1)).length ≤ 3 := by
    rw [Nat.length_toDigits_le_iff (by decide) (by decide)]
    omega
  by_cases hthree : (Nat.toDigits 10 (n + 1)).length = 3
  · -- Three digits and the sign: the sign stands where the point should.
    have hfield : setw 3 '0' (showInt (Int.negSucc n)) = '-' :: Nat.toDigits 10 (n + 1) := by
      rw [setw, showInt, List.length_cons, hthree]
      rfl
    rw [hfield, List.append_cons] at heq
    have hends := List.append_inj_right' heq (by simp [hthree, hlength])
    exact absurd (List.cons.inj hends).1 (by decide)
  · have hfield : (setw 3 '0' (showInt (Int.negSucc n))).length = 3 := by
      rw [setw, List.length_append, List.length_replicate, showInt, List.length_cons]
      omega
    have hends := List.append_inj_right' heq (by simp [hfield, hlength])
    have hsign := mem_setw_showInt_of_neg 3 hneg
    rw [(List.cons.inj hends).2] at hsign
    exact absurd (hdigits '-' hsign) (by decide)

/-! ## `ConvertTimestampToStr` -/

theorem convert_stamped_iff (env : LocalTime) (t : Int)
    (hlocal : (env.localtime (t / SEC_TO_MILLISEC)).isSome) :
    Stamped env "%Y-%m-%d %H-%M-%S" t (ConvertTimestampToStr env t) ↔
      0 ≤ t ∨ SEC_TO_MILLISEC ∣ t := by
  obtain ⟨tm, htm⟩ := Option.isSome_iff_exists.mp hlocal
  constructor
  · rintro ⟨tm', digits, htm', htext, hmillis⟩
    by_contra hnot
    rw [not_or, Int.not_le] at hnot
    have hrest : t.tmod SEC_TO_MILLISEC < 0 := by
      have hne : t.tmod SEC_TO_MILLISEC ≠ 0 := fun h => hnot.2 (Int.dvd_of_tmod_eq_zero h)
      have hle : 0 ≤ (-t).tmod SEC_TO_MILLISEC := Int.tmod_nonneg _ (by omega)
      rw [Int.neg_tmod] at hle
      omega
    have hlow : -1000 < t.tmod SEC_TO_MILLISEC := by
      have hlt := Int.lt_tmod_of_pos t (by decide : 0 < SEC_TO_MILLISEC)
      exact hlt
    rw [ConvertTimestampToStr] at htext
    cases hcode : env.localtime (t.tdiv SEC_TO_MILLISEC) with
    | none => simp [hcode] at htext
    | some tm =>
        rw [hcode] at htext
        exact not_millis_of_neg hrest hlow hmillis.length hmillis.isDigit htext
  · intro h
    have hdiv : t.tdiv SEC_TO_MILLISEC = t / SEC_TO_MILLISEC := by
      rcases h with hnonneg | hdvd
      · exact Int.tdiv_eq_ediv_of_nonneg hnonneg
      · exact Int.tdiv_eq_ediv_of_dvd hdvd
    have hmod : t.tmod SEC_TO_MILLISEC = t % SEC_TO_MILLISEC := by
      rcases h with hnonneg | hdvd
      · exact Int.tmod_eq_emod_of_nonneg hnonneg
      · rw [Int.tmod_eq_zero_of_dvd hdvd, Int.emod_eq_zero_of_dvd hdvd]
    refine ⟨tm, _, htm, ?_, isMillis_setw hmod⟩
    rw [ConvertTimestampToStr, hdiv, htm]

/-! ## `FormatTimeWithMillis` -/

/-- The milliseconds are always written as zero. -/
theorem FormatTimeWithMillis_eq (env : LocalTime) {t : Int} (hpos : 0 < t) {tm : env.Tm}
    (htm : env.localtime (t / SEC_TO_MILLISEC) = some tm) :
    FormatTimeWithMillis env t =
      if t * MICROSEC_PER_MILLISEC < 2 ^ 63 then
        some (env.strftime "%Y-%m-%d %H:%M:%S" tm ++ '.' :: ['0', '0', '0'])
      else none := by
  have hmilli : MICROSEC_PER_MILLISEC = 1000 := rfl
  have hmicro : MICROSEC_PER_SEC = 1000000 := rfl
  have hsec : SEC_TO_MILLISEC = 1000 := rfl
  have hseconds : (t * MICROSEC_PER_MILLISEC).tdiv MICROSEC_PER_SEC = t / SEC_TO_MILLISEC := by
    rw [hmilli, hmicro, hsec, Int.tdiv_eq_ediv_of_nonneg (by omega)]
    omega
  have hsubsec : (((t * MICROSEC_PER_MILLISEC).tdiv MICROSEC_PER_MILLISEC).tmod
      SEC_TO_MILLISEC).tdiv SEC_TO_MILLISEC = 0 := by
    have hmillis : (t * MICROSEC_PER_MILLISEC).tdiv MICROSEC_PER_MILLISEC = t :=
      Int.mul_tdiv_cancel t (by decide)
    rw [hmillis, hsec, Int.tmod_eq_emod_of_nonneg (by omega),
      Int.tdiv_eq_ediv_of_nonneg (by omega)]
    omega
  rw [FormatTimeWithMillis, if_neg (by omega)]
  dsimp only
  rw [hseconds, hsubsec, htm]
  by_cases hfits : t * MICROSEC_PER_MILLISEC < 2 ^ 63
  · rw [if_neg (Int.not_le.mpr hfits), if_pos hfits]
    rfl
  · rw [if_pos (Int.not_lt.mp hfits), if_neg hfits]

theorem keepsMillis_iff (env : LocalTime) {t : Int} (hpos : 0 < t)
    (hlocal : (env.localtime (t / SEC_TO_MILLISEC)).isSome) :
    KeepsMillis env t ↔ SEC_TO_MILLISEC ∣ t ∧ t * MICROSEC_PER_MILLISEC < 2 ^ 63 := by
  obtain ⟨tm, htm⟩ := Option.isSome_iff_exists.mp hlocal
  have hformat := FormatTimeWithMillis_eq env hpos htm
  constructor
  · rintro ⟨⟨text, htext, tm', digits, htm', rfl, hmillis⟩, -⟩
    rw [hformat] at htext
    split_ifs at htext with hfits
    have hends := List.append_inj_right' (Option.some.inj htext) (by simp [hmillis.length,
      MILLISEC_LENGTH])
    obtain rfl := (List.cons.inj hends).2
    exact ⟨Int.dvd_of_emod_eq_zero hmillis.value.symm, hfits⟩
  · rintro ⟨hdvd, hfits⟩
    rw [if_pos hfits] at hformat
    have hmillis : IsMillis t ['0', '0', '0'] :=
      isMillis_setw (Int.emod_eq_zero_of_dvd hdvd).symm
    refine ⟨⟨_, hformat, tm, _, htm, rfl, hmillis⟩, tm, _, hformat, ?_⟩
    rw [ConvertTimestampToStr, Int.tdiv_eq_ediv_of_nonneg (Int.le_of_lt hpos), htm,
      Int.tmod_eq_zero_of_dvd hdvd]
    rfl

theorem inOrder_iff (env : LocalTime) (henv : env.Ordered "%Y-%m-%d %H:%M:%S") {t t' : Int}
    (hpos : 0 < t) (hlt : t < t') {tm tm' : env.Tm}
    (htm : env.localtime (t / SEC_TO_MILLISEC) = some tm)
    (htm' : env.localtime (t' / SEC_TO_MILLISEC) = some tm')
    (hoffset : env.gmtoff tm = env.gmtoff tm') :
    InOrder env t t' ↔
      t / SEC_TO_MILLISEC < t' / SEC_TO_MILLISEC ∧ t' * MICROSEC_PER_MILLISEC < 2 ^ 63 := by
  have hearlier : t * MICROSEC_PER_MILLISEC < t' * MICROSEC_PER_MILLISEC :=
    Int.mul_lt_mul_of_pos_right hlt (by decide)
  have hsec : SEC_TO_MILLISEC = 1000 := rfl
  have hformat := FormatTimeWithMillis_eq env hpos htm
  have hformat' := FormatTimeWithMillis_eq env (Int.lt_trans hpos hlt) htm'
  constructor
  · rintro ⟨text, text', htext, htext', hne, -⟩
    rw [hformat'] at htext'
    split_ifs at htext' with hfits
    refine ⟨?_, hfits⟩
    rw [hformat, if_pos (by omega)] at htext
    by_contra hsame
    have hseconds : t / SEC_TO_MILLISEC = t' / SEC_TO_MILLISEC := by
      rw [hsec] at hsame ⊢
      omega
    rw [hseconds, htm'] at htm
    obtain rfl := Option.some.inj htm
    exact hne (Option.some.inj (htext.symm.trans htext'))
  · rintro ⟨hseconds, hfits⟩
    rw [if_pos hfits] at hformat'
    rw [if_pos (by omega)] at hformat
    have hbefore := append_lt_append (henv.width _ _ tm tm' htm htm')
      (henv.ordered _ _ tm tm' htm htm' hoffset hseconds) ['.', '0', '0', '0'] ['.', '0', '0', '0']
    refine ⟨_, _, hformat, hformat', ?_, hbefore⟩
    intro heq
    rw [heq] at hbefore
    exact List.lt_irrefl _ hbefore

/-! ## The result -/

/-- Two instants compare in order exactly when they lie in different seconds of the clock's range.
An instant keeps its milliseconds in `FormatTimeWithMillis` only when they are zero, and in
`ConvertTimestampToStr` unless it is negative and they are not. -/
theorem timeStamps_iff (env : LocalTime) (henv : env.Ordered "%Y-%m-%d %H:%M:%S") :
    (∀ t t' tm tm', 0 < t → t < t' → t' < 2 ^ 63 →
        env.localtime (t / SEC_TO_MILLISEC) = some tm →
        env.localtime (t' / SEC_TO_MILLISEC) = some tm' → env.gmtoff tm = env.gmtoff tm' →
        (InOrder env t t' ↔
          t / SEC_TO_MILLISEC < t' / SEC_TO_MILLISEC ∧ t' * MICROSEC_PER_MILLISEC < 2 ^ 63)) ∧
      (∀ t, 0 < t → t < 2 ^ 63 → (env.localtime (t / SEC_TO_MILLISEC)).isSome →
        (KeepsMillis env t ↔ SEC_TO_MILLISEC ∣ t ∧ t * MICROSEC_PER_MILLISEC < 2 ^ 63)) ∧
      ∀ t, -2 ^ 63 ≤ t → t < 2 ^ 63 → (env.localtime (t / SEC_TO_MILLISEC)).isSome →
        (Stamped env "%Y-%m-%d %H-%M-%S" t (ConvertTimestampToStr env t) ↔
          0 ≤ t ∨ SEC_TO_MILLISEC ∣ t) := by
  refine ⟨?_, ?_, ?_⟩
  · intro t t' tm tm' hpos hlt _ htm htm' hoffset
    exact inOrder_iff env henv hpos hlt htm htm' hoffset
  · intro t hpos _ hlocal
    exact keepsMillis_iff env hpos hlocal
  · intro t _ _ hlocal
    exact convert_stamped_iff env t hlocal

/-- The text of a second from the last one before the epoch on, in universal time. -/
def utcText (format : String) (s : Int) : List Char :=
  let sep := if format = "%Y-%m-%d %H:%M:%S" then ':' else '-'
  if s < 0 then "1969-12-31 23".toList ++ [sep, '5', '9', sep, '5', '9']
  else "1970-01-01 00".toList ++ [sep, '0', '0', sep, '0', Nat.digitChar s.toNat]

/-- Universal time from the last second before the epoch on, for eleven seconds. -/
def utcStart : LocalTime where
  Tm := Int
  localtime s := if -1 ≤ s ∧ s < 10 then some s else none
  gmtoff _ := 0
  strftime := utcText

theorem utcStart_localtime {s : Int} {tm : utcStart.Tm} (htm : utcStart.localtime s = some tm) :
    tm = s ∧ ∃ i : Fin 11, s = (i : Int) - 1 := by
  simp only [utcStart] at htm
  split_ifs at htm with hrange
  obtain rfl := Option.some.inj htm
  have hindex : (s + 1).toNat < 11 := by omega
  have hvalue : s = ((s + 1).toNat : Int) - 1 := by omega
  exact ⟨rfl, ⟨(s + 1).toNat, hindex⟩, hvalue⟩

theorem utcText_ordered : ∀ i j : Fin 11,
    (utcText "%Y-%m-%d %H:%M:%S" (i - 1)).length = (utcText "%Y-%m-%d %H:%M:%S" (j - 1)).length ∧
      ((i : Int) - 1 < j - 1 →
        utcText "%Y-%m-%d %H:%M:%S" (i - 1) < utcText "%Y-%m-%d %H:%M:%S" (j - 1)) := by
  decide +kernel

theorem utcStart_ordered : utcStart.Ordered "%Y-%m-%d %H:%M:%S" := by
  refine ⟨?_, ?_⟩
  · intro s s' tm tm' htm htm'
    obtain ⟨rfl, i, rfl⟩ := utcStart_localtime htm
    obtain ⟨rfl, j, rfl⟩ := utcStart_localtime htm'
    exact (utcText_ordered i j).1
  · intro s s' tm tm' htm htm' _ hlt
    obtain ⟨rfl, i, rfl⟩ := utcStart_localtime htm
    obtain ⟨rfl, j, rfl⟩ := utcStart_localtime htm'
    exact (utcText_ordered i j).2 hlt

theorem timeStamps_utcStart :
    InOrder utcStart 1999 2000 ∧ ¬ InOrder utcStart 1000 1999 ∧
      KeepsMillis utcStart 2000 ∧ ¬ KeepsMillis utcStart 1999 ∧
      Stamped utcStart "%Y-%m-%d %H-%M-%S" 1999 (ConvertTimestampToStr utcStart 1999) := by
  obtain ⟨horder, hkeeps, hstamped⟩ := timeStamps_iff utcStart utcStart_ordered
  refine ⟨?_, ?_, ?_, ?_, ?_⟩
  · rw [horder 1999 2000 (1 : Int) (2 : Int) (by decide) (by decide) (by decide) rfl rfl rfl]
    decide
  · rw [horder 1000 1999 (1 : Int) (1 : Int) (by decide) (by decide) (by decide) rfl rfl rfl]
    decide
  · exact (hkeeps 2000 (by decide) (by decide) rfl).mpr (by decide)
  · rw [hkeeps 1999 (by decide) (by decide) rfl]
    decide
  · exact (hstamped 1999 (by decide) (by decide) rfl).mpr (by decide)

/-- The first two milliseconds after the epoch have one text, and the last one before it has a
sign among its milliseconds. -/
theorem firstMillis_collide :
    utcStart.Ordered "%Y-%m-%d %H:%M:%S" ∧
      FormatTimeWithMillis utcStart 1 = some "1970-01-01 00:00:00.000".toList ∧
      FormatTimeWithMillis utcStart 2 = some "1970-01-01 00:00:00.000".toList ∧
      ¬ InOrder utcStart 1 2 ∧ ¬ KeepsMillis utcStart 1 ∧
      ConvertTimestampToStr utcStart (-1) = "1970-01-01 00-00-00.0-1".toList ∧
      ¬ Stamped utcStart "%Y-%m-%d %H-%M-%S" (-1) (ConvertTimestampToStr utcStart (-1)) := by
  have hkeeps := keepsMillis_iff utcStart (t := 1) (by decide) rfl
  have hstamped := convert_stamped_iff utcStart (-1) rfl
  refine ⟨utcStart_ordered, by decide +kernel, by decide +kernel, ?_, ?_, by decide +kernel, ?_⟩
  · rw [@inOrder_iff utcStart utcStart_ordered 1 2 (by decide) (by decide) (0 : Int) (0 : Int)
      rfl rfl rfl]
    decide
  · rw [hkeeps]
    decide
  · rw [hstamped]
    decide

end ResSched.ResCommonUtil
