import ResSched.Library.CLibrary
import ResSched.Library.TextSearch

/-! # The partition of a path -/

namespace ResSched.ResCommonUtil

def GetPartitionName (path : List Char) : List Char :=
  match TextSearch.findFrom '/' 0 path with
  | none => '/' :: path
  | some first =>
      match TextSearch.findFrom '/' (first + 1) path with
      | none => if path.head? ≠ some '/' then '/' :: path.take first else path
      | some second => path.take (second - first)

/-- The path `GetDeviceValidSize` hands to `statfs`. -/
def GetDeviceValidSize_path (path : List Char) : List Char :=
  (CLibrary.cString (String.ofList (GetPartitionName path))).toList

end ResSched.ResCommonUtil
