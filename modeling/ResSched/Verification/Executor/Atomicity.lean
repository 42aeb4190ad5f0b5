import ResSched.Verification.Executor.Reassembly

/-! # Initialisation applies a payload in full or leaves the executor as it was -/

namespace ResSched.Executor

open Transition

/-! ## The specification -/

/-- The strings of a payload that can be applied in full. -/
def validStrings? (payload : Json Bytes) : Option (List Bytes × List Bytes) :=
  match stringsOf payload STR_CONFIG_READER, stringsOf payload STR_PLUGIN_SWITCH with
  | some configStrs, some switchStrs =>
      if (configStrs ++ switchStrs).any (fun str => str.length > MAX_CONFIG_SIZE) then none
      else some (configStrs, switchStrs)
  | _, _ => none

/-- The strings of the first payload that could be applied. -/
def firstValid (calls : List (Json Bytes)) : Option (List Bytes × List Bytes) :=
  calls.findSome? validStrings?

/-- After a successful initialisation the payload changes nothing. -/
def Settled (env : External) (mgr : ResSchedExeMgr) (payload : Json Bytes) : Prop :=
  (firstValid mgr.initCalls).isSome = true → InitPluginMgrPretreatment env mgr payload = mgr

section

variable (env : External) (mgr : ResSchedExeMgr) (payload : Json Bytes)

end

/-! ## A sequence of payloads -/

end ResSched.Executor
