import ResSched.Library.DecimalText
import Mathlib.Algebra.Group.Int.Defs

/-! # Formatting time stamps -/

namespace ResSched.ResCommonUtil

open CLibrary

def SEC_TO_MILLISEC : Int := 1000
def MILLISEC_LENGTH : Nat := 3

/-- The clock counts microseconds. -/
def MICROSEC_PER_MILLISEC : Int := 1000
def MICROSEC_PER_SEC : Int := 1000000

/-- The local time of the C library: the broken-down time of a second with its offset from
universal time, and its text for a format. -/
structure LocalTime where
  Tm : Type
  localtime : Int → Option Tm
  gmtoff : Tm → Int
  strftime : String → Tm → List Char

def ConvertTimestampToStr (env : LocalTime) (timestamp : Int) : List Char :=
  match env.localtime (timestamp.tdiv SEC_TO_MILLISEC) with
  | none => []
  | some tm =>
      env.strftime "%Y-%m-%d %H-%M-%S" tm ++
        '.' :: setw MILLISEC_LENGTH '0' (showInt (timestamp.tmod SEC_TO_MILLISEC))

/-- `none` when the microseconds of the clock do not fit 64 bits, which C leaves undefined. -/
def FormatTimeWithMillis (env : LocalTime) (millis : Int) : Option (List Char) :=
  if millis ≤ 0 then some []
  else
    let tp := millis * MICROSEC_PER_MILLISEC
    if 2 ^ 63 ≤ tp then none
    else
      match env.localtime (tp.tdiv MICROSEC_PER_SEC) with
      | none => some []
      | some tm =>
          let subsec := (tp.tdiv MICROSEC_PER_MILLISEC).tmod SEC_TO_MILLISEC
          some (env.strftime "%Y-%m-%d %H:%M:%S" tm ++
            '.' :: setw MILLISEC_LENGTH '0' (showInt (subsec.tdiv SEC_TO_MILLISEC)))

end ResSched.ResCommonUtil
