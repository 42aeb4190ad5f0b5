import ResSched.Library.AssocMap
import Mathlib.Data.Finset.Erase
import Mathlib.Data.Finset.Insert

/-! # Signature checks with two caches -/

namespace ResSched.Signature

def MAX_SIGNATURE_CACHE : Nat := 200

inductive SignatureCheckResult where
  | CHECK_OK
  | ERR_SIGNATURE_NO_MATCH
  | ERR_NO_SIGNATURE_CONFIG
  | ERR_PARAM_INVALID
  | ERR_INTERNAL_ERROR
  | ERR_NOT_IN_LIST
  | ERR_NOT_SUPPORT
deriving DecidableEq

/-! ## The bundle manager -/

/-- What is installed under a uid. -/
structure Package where
  bundleName : String
  signature : String
deriving DecidableEq

/-- The installed packages by uid, the uid of each bundle for each user, and the active users. -/
structure BundleMgr where
  packages : AssocMap Int Package
  uids : AssocMap (String × Int) Int
  activeUsers : List Int

namespace BundleMgr

def GetCurrentUserId (mgr : BundleMgr) : List Int :=
  mgr.activeUsers

/-- -1 when the bundle is not installed for the user. -/
def GetUidByBundleName (mgr : BundleMgr) (bundleName : String) (userId : Int) : Int :=
  match mgr.uids.lookup (bundleName, userId) with
  | none => -1
  | some uid =>
      if (mgr.packages.lookup uid).any (fun package => package.bundleName = bundleName) then uid
      else -1

def GetBundleNameByUid (mgr : BundleMgr) (uid : Int) : String :=
  ((mgr.packages.lookup uid).map Package.bundleName).getD ""

/-- `none` is an error code. -/
def GetSignatureInfoByUid (mgr : BundleMgr) (uid : Int) : Option String :=
  (mgr.packages.lookup uid).map Package.signature

/-- A bundle is installed for a user with a uid, or what it has there is removed. A uid that another
bundle has is not given away. -/
def install (mgr : BundleMgr) (bundleName : String) (userId uid : Int)
    (signature : Option String) : BundleMgr :=
  if (mgr.packages.lookup uid).all (fun package => package.bundleName = bundleName) then
    match signature with
    | some signature =>
        { mgr with
          packages := mgr.packages.insert uid ⟨bundleName, signature⟩
          uids := mgr.uids.insert (bundleName, userId) uid }
    | none => { mgr with packages := mgr.packages.erase uid }
  else mgr

end BundleMgr

/-! ## The validator -/

/-- The fields of `ResSchedSignatureValidator`; of `bundleMgr_` whether it is set. -/
structure ResSchedSignatureValidator where
  hasBundleMgr : Bool
  validCache : AssocMap String (Int × Bool)
  signatureConfig : AssocMap String String
  bundleNameToUid : AssocMap String Int

namespace ResSchedSignatureValidator

def created (hasBundleMgr : Bool) : ResSchedSignatureValidator where
  hasBundleMgr := hasBundleMgr
  validCache := ∅
  signatureConfig := ∅
  bundleNameToUid := ∅

def OnAppInstallChanged (validator : ResSchedSignatureValidator) (bundleName : String) :
    ResSchedSignatureValidator :=
  { validator with
    bundleNameToUid := validator.bundleNameToUid.erase bundleName
    validCache := validator.validCache.erase bundleName }

def AddSignatureConfig (validator : ResSchedSignatureValidator)
    (config : List (String × String)) : ResSchedSignatureValidator :=
  config.foldl (fun validator entry =>
    { validator with
      signatureConfig := validator.signatureConfig.insert entry.1 entry.2
      validCache := validator.validCache.erase entry.1 }) validator

/-- An entry for another uid is dropped. -/
def CheckSignatureCache (validator : ResSchedSignatureValidator) (bundleName : String)
    (uid : Int) : ResSchedSignatureValidator × Option Bool :=
  match validator.validCache.lookup bundleName with
  | none => (validator, none)
  | some (cacheUid, cacheIsValid) =>
      if cacheUid = uid then (validator, some cacheIsValid)
      else ({ validator with validCache := validator.validCache.erase bundleName }, none)

def UpdateSignatureCache (validator : ResSchedSignatureValidator) (bundleName : String)
    (uid : Int) (isValid : Bool) : ResSchedSignatureValidator :=
  let validCache :=
    if validator.validCache.entries.length ≥ MAX_SIGNATURE_CACHE then ∅ else validator.validCache
  { validator with validCache := validCache.insert bundleName (uid, isValid) }

end ResSchedSignatureValidator

/-! ## A check, step by step -/

inductive Check where
  | CheckSignatureByBundleName (bundleName : String)
  | CheckSignatureByUid (uid : Int)
deriving DecidableEq

/-- What a check does next, with the answers it holds. -/
inductive Stage where
  | findUid (bundleName : String)
  | queryUsers (bundleName : String)
  | queryUid (bundleName : String) (activatedOsAccountIds : List Int)
  | storeUid (bundleName : String) (uid : Int)
  | queryName (uid : Int)
  | readConfig (uid : Int) (bundleName : String)
  | readCache (uid : Int) (bundleName signature : String)
  | queryInfo (uid : Int) (bundleName signature : String)
  | storeVerdict (uid : Int) (bundleName signature signatureInfo : String)
deriving DecidableEq

def Check.begin : Check → Stage
  | .CheckSignatureByBundleName bundleName => .findUid bundleName
  | .CheckSignatureByUid uid => .queryName uid

inductive Progress where
  | goesOn (stage : Stage)
  | returns (result : SignatureCheckResult)
deriving DecidableEq

def verdict (isValid : Bool) : SignatureCheckResult :=
  if isValid then .CHECK_OK else .ERR_SIGNATURE_NO_MATCH

/-- One step: a critical section of the validator or a query of the bundle manager. -/
def ResSchedSignatureValidator.advance (validator : ResSchedSignatureValidator)
    (mgr : BundleMgr) : Stage → ResSchedSignatureValidator × Progress
  | .findUid bundleName =>
      if !validator.hasBundleMgr then (validator, .returns .ERR_NOT_SUPPORT)
      else if bundleName = "" then (validator, .returns .ERR_PARAM_INVALID)
      else
        match validator.bundleNameToUid.lookup bundleName with
        | none => (validator, .goesOn (.queryUsers bundleName))
        | some uid =>
            if uid < 0 then (validator, .goesOn (.queryUsers bundleName))
            else (validator, .goesOn (.readConfig uid bundleName))
  | .queryUsers bundleName => (validator, .goesOn (.queryUid bundleName mgr.GetCurrentUserId))
  | .queryUid _ [] => (validator, .returns .ERR_INTERNAL_ERROR)
  | .queryUid bundleName (userId :: userIds) =>
      let uid := mgr.GetUidByBundleName bundleName userId
      if uid ≥ 0 then (validator, .goesOn (.storeUid bundleName uid))
      else (validator, .goesOn (.queryUid bundleName userIds))
  | .storeUid bundleName uid =>
      ({ validator with bundleNameToUid := validator.bundleNameToUid.insert bundleName uid },
        .goesOn (.readConfig uid bundleName))
  | .queryName uid =>
      if !validator.hasBundleMgr then (validator, .returns .ERR_NOT_SUPPORT)
      else if mgr.GetBundleNameByUid uid = "" then (validator, .returns .ERR_INTERNAL_ERROR)
      else (validator, .goesOn (.readConfig uid (mgr.GetBundleNameByUid uid)))
  | .readConfig uid bundleName =>
      if !validator.hasBundleMgr then (validator, .returns .ERR_NOT_SUPPORT)
      else
        match validator.signatureConfig.lookup bundleName with
        | none => (validator, .returns .ERR_NO_SIGNATURE_CONFIG)
        | some signature => (validator, .goesOn (.readCache uid bundleName signature))
  | .readCache uid bundleName signature =>
      match validator.CheckSignatureCache bundleName uid with
      | (validator, some isValid) => (validator, .returns (verdict isValid))
      | (validator, none) => (validator, .goesOn (.queryInfo uid bundleName signature))
  | .queryInfo uid bundleName signature =>
      match mgr.GetSignatureInfoByUid uid with
      | none => (validator, .returns .ERR_INTERNAL_ERROR)
      | some signatureInfo =>
          (validator, .goesOn (.storeVerdict uid bundleName signature signatureInfo))
  | .storeVerdict uid bundleName signature signatureInfo =>
      let isValid := decide (signatureInfo = signature)
      (validator.UpdateSignatureCache bundleName uid isValid, .returns (verdict isValid))

/-! ## The system -/

structure Call where
  check : Check
  stage : Stage
deriving DecidableEq

/-- The validator and the bundle manager, the checks in progress, which are numbered as they begin,
and the bundles with a change that `OnAppInstallChanged` has still to be told of. -/
structure System where
  validator : ResSchedSignatureValidator
  mgr : BundleMgr
  calls : AssocMap Nat Call
  begun : Nat
  unhandled : Finset String

inductive Event where
  | check (check : Check)
  | proceed (call : Nat)
  | installChange (bundleName : String) (userId uid : Int) (signature : Option String)
  | OnAppInstallChanged (bundleName : String)
  | AddSignatureConfig (config : List (String × String))
  | switchUser (activeUsers : List Int)

namespace System

def start (hasBundleMgr : Bool) (mgr : BundleMgr) : System where
  validator := ResSchedSignatureValidator.created hasBundleMgr
  mgr := mgr
  calls := ∅
  begun := 0
  unhandled := ∅

def handle (system : System) : Event → System
  | .check check =>
      { system with
        calls := system.calls.insert system.begun ⟨check, check.begin⟩
        begun := system.begun + 1 }
  | .proceed number =>
      match system.calls.lookup number with
      | none => system
      | some call =>
          match system.validator.advance system.mgr call.stage with
          | (validator, .goesOn stage) =>
              { system with
                validator := validator
                calls := system.calls.insert number ⟨call.check, stage⟩ }
          | (validator, .returns _) =>
              { system with validator := validator, calls := system.calls.erase number }
  | .installChange bundleName userId uid signature =>
      { system with
        mgr := system.mgr.install bundleName userId uid signature
        unhandled := insert bundleName system.unhandled }
  | .OnAppInstallChanged bundleName =>
      { system with
        validator := system.validator.OnAppInstallChanged bundleName
        unhandled := system.unhandled.erase bundleName }
  | .AddSignatureConfig config =>
      { system with validator := system.validator.AddSignatureConfig config }
  | .switchUser activeUsers =>
      { system with mgr := { system.mgr with activeUsers := activeUsers } }

end System

end ResSched.Signature
