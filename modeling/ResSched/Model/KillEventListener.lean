import ResSched.Library.AssocMap
import ResSched.Model.Common.StringUtil
import ResSched.Model.Json
import Mathlib.Data.Finset.Insert

/-! # The kill reasons a configuration allows -/

namespace ResSched.KillEventListener

open ResCommonUtil

def UID : String := "uid"
def REASON : String := "reason"
def RESULT : String := "result"

/-- The reasons of each uid: `killReasonMap_`. -/
abbrev KillReasons := AssocMap Int (Finset String)

/-- What one element of the configuration files: a uid and its reasons. -/
def configOfSingleUid (config : Json String) : Option (Int × Finset String) :=
  match config.find? UID, config.find? REASON with
  | some (.string uidStr), some (.array reasonsOfUid) =>
      let (isInt, uid) := StrToUInt32 uidStr 0
      if isInt then some (uid, (reasonsOfUid.filterMap Json.string?).toFinset) else none
  | _, _ => none

def ParseKillConfig (killReasonMap : KillReasons) (reasonsConfig : Json String) : KillReasons :=
  match reasonsConfig.find? RESULT with
  | some (.array result) =>
      (result.filterMap configOfSingleUid).foldl (fun map filed => map.insert filed.1 filed.2) ∅
  | _ => killReasonMap

def IsConfigKillReason (killReasonMap : KillReasons) (callerUid : Int) (reason : String) : Bool :=
  match killReasonMap.lookup callerUid with
  | none => false
  | some configReasons => reason ∈ configReasons

end ResSched.KillEventListener
