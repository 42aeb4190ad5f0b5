import ResSched.Library.CLibrary
import ResSched.Library.WhileLoop

/-! # The size of the storage -/

namespace ResSched.ResCommonUtil

open CLibrary

def BYTES_PER_KB : Nat := 1024
def BYTES_PER_MB : Int := 1048576
def PATH_DATA : String := "/data"
def PATH_ROOT : String := "/"

/-- The variables of the loop of `RoundStorageSize`. -/
structure Rounding where
  value : UInt16
  unit : UInt32

def Rounding.start : Rounding :=
  ⟨1, 1⟩

/-- `value * unit`, on 32 bits. -/
def Rounding.product (rounding : Rounding) : UInt32 :=
  rounding.value.toUInt32 * rounding.unit

def Rounding.next (rounding : Rounding) : Rounding :=
  let value := rounding.value <<< 1
  if value.toNat ≥ BYTES_PER_KB then ⟨1, rounding.unit * UInt32.ofNat BYTES_PER_KB⟩
  else { rounding with value := value }

/-- `none` when the loop has not ended within its fuel. -/
def RoundStorageSize (fuel : Nat) (size : Int) : Option Int :=
  if size < 0 then some size
  else
    (WhileLoop.whileLoop (fun rounding => decide (rounding.product.toNat < size.toNat))
      Rounding.next fuel Rounding.start).map fun rounding => rounding.product.toNat

/-- What `statvfs` gives of a path: `f_bsize` and `f_blocks`. -/
structure DiskInfo where
  f_bsize : Int
  f_blocks : Int

def GetTotalSizeByStatvfs (statvfs : String → Option DiskInfo) (path : String) : Option Int :=
  (statvfs path).map fun diskInfo =>
    toSigned 64 (toSigned 64 diskInfo.f_bsize * toSigned 64 diskInfo.f_blocks)

/-- The size is 0 when one of the paths cannot be read. -/
def GetTotalRomSize (statvfs : String → Option DiskInfo) (fuel : Nat) : Option Int :=
  match GetTotalSizeByStatvfs statvfs PATH_DATA, GetTotalSizeByStatvfs statvfs PATH_ROOT with
  | some dataRomSize, some rootRomSize =>
      RoundStorageSize fuel ((toSigned 64 (dataRomSize + rootRomSize)).tdiv BYTES_PER_MB)
  | _, _ => some 0

end ResSched.ResCommonUtil
