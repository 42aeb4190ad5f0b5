import ResSched.Library.DecimalText

/-! # From strings to integers -/

namespace ResSched.ResCommonUtil

open CLibrary

def INT_MIN : Int := -2147483648
def INT_MAX : Int := 2147483647
def UINT_MAX : Int := 4294967295
def UINT64_MAX : Int := 18446744073709551615

/-- The return value of a converter and its `result`, from what the C library has read of the
string, narrowed to the type of the result. -/
def converted (read : Strtol) (narrow : Int → Int) (outside : Int → Bool) (result : Int) :
    Bool × Int :=
  let res := narrow read.value
  if read.erange ∨ !read.converted ∨ read.rest ≠ [] ∨ outside res then (false, result)
  else (true, res)

def StrToInt32 (value : String) (result : Int) : Bool × Int :=
  converted (strtol 64 (cString value).toList) id (fun res => res < INT_MIN || res > INT_MAX) result

def StrToInt64 (value : String) (result : Int) : Bool × Int :=
  converted (strtol 64 (cString value).toList) id (fun _ => false) result

/-- The value is narrowed before it is compared with the greatest one of the narrow type. -/
def StrToUInt32 (value : String) (result : Int) : Bool × Int :=
  converted (strtoul 64 (cString value).toList) (fun res => toUnsigned 32 res)
    (fun res => res > UINT_MAX) result

def StrToUInt64 (value : String) (result : Int) : Bool × Int :=
  converted (strtoul 64 (cString value).toList) (fun res => toUnsigned 64 res)
    (fun res => res > UINT64_MAX) result

example : StrToInt32 " -12" 7 = (true, -12) := by decide

example : StrToUInt32 "12 " 7 = (false, 7) := by decide

end ResSched.ResCommonUtil
