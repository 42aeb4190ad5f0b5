import ResSched.Library.Transition
import ResSched.Model.SignatureValidator

/-! # Checks with the caches answer as checks without them -/

namespace ResSched.Signature

open Transition

/-! ## The specification -/

/-- The uid of a bundle for the first of the users that has it, -1 when none has. -/
def firstUid (mgr : BundleMgr) (bundleName : String) : List Int → Int
  | [] => -1
  | userId :: userIds =>
      if mgr.GetUidByBundleName bundleName userId ≥ 0 then mgr.GetUidByBundleName bundleName userId
      else firstUid mgr bundleName userIds

def currentUid (mgr : BundleMgr) (bundleName : String) : Int :=
  firstUid mgr bundleName mgr.GetCurrentUserId

def plainCompare (mgr : BundleMgr) (uid : Int) (signature : String) : SignatureCheckResult :=
  match mgr.GetSignatureInfoByUid uid with
  | none => .ERR_INTERNAL_ERROR
  | some signatureInfo => verdict (decide (signatureInfo = signature))

def plainSignature (system : System) (uid : Int) (bundleName : String) : SignatureCheckResult :=
  if !system.validator.hasBundleMgr then .ERR_NOT_SUPPORT
  else
    match system.validator.signatureConfig.lookup bundleName with
    | none => .ERR_NO_SIGNATURE_CONFIG
    | some signature => plainCompare system.mgr uid signature

/-- What a check returns when it uses no cache and nothing changes meanwhile. -/
def plain (system : System) : Check → SignatureCheckResult
  | .CheckSignatureByBundleName bundleName =>
      if !system.validator.hasBundleMgr then .ERR_NOT_SUPPORT
      else if bundleName = "" then .ERR_PARAM_INVALID
      else if currentUid system.mgr bundleName < 0 then .ERR_INTERNAL_ERROR
      else plainSignature system (currentUid system.mgr bundleName) bundleName
  | .CheckSignatureByUid uid =>
      if !system.validator.hasBundleMgr then .ERR_NOT_SUPPORT
      else if system.mgr.GetBundleNameByUid uid = "" then .ERR_INTERNAL_ERROR
      else plainSignature system uid (system.mgr.GetBundleNameByUid uid)

/-- The system with the checks that began after the last change had been handled. -/
structure Watched where
  system : System
  covered : Finset Nat

namespace Watched

def start (hasBundleMgr : Bool) (mgr : BundleMgr) : Watched where
  system := System.start hasBundleMgr mgr
  covered := ∅

def handle (watched : Watched) (event : Event) : Watched where
  system := watched.system.handle event
  covered :=
    match event with
    | .check _ =>
        if watched.system.unhandled = ∅ then insert watched.system.begun watched.covered
        else watched.covered
    | .proceed _ => watched.covered
    | .OnAppInstallChanged _ => watched.covered
    | .installChange _ _ _ _ => ∅
    | .AddSignatureConfig _ => ∅
    | .switchUser _ => ∅

end Watched

/-- The uid cached for a bundle is the current one. -/
def UidFresh (system : System) (bundleName : String) (uid : Int) : Prop :=
  uid = currentUid system.mgr bundleName

/-- A verdict on a bundle is the current one, as long as the uid is one of the bundle's. -/
def VerdictFresh (system : System) (bundleName : String) (uid : Int) (isValid : Bool) : Prop :=
  ∀ package signature, system.mgr.packages.lookup uid = some package →
    package.bundleName = bundleName →
    system.validator.signatureConfig.lookup bundleName = some signature →
      isValid = decide (package.signature = signature)

namespace Watched

/-- What a check is about to put into a cache is still what the bundle manager and the
configuration say, unless a change of the bundle has still to be handled. -/
def StoresFresh (system : System) : Stage → Prop
  | .storeUid bundleName uid => bundleName ∉ system.unhandled → UidFresh system bundleName uid
  | .storeVerdict uid bundleName signature signatureInfo =>
      bundleName ∉ system.unhandled →
        VerdictFresh system bundleName uid (decide (signatureInfo = signature))
  | _ => True

/-- No check stores an answer that has become outdated, and the active users change only while the
uids cached are those for the new users as well. -/
def KeepsFresh (watched : Watched) : Event → Prop
  | .proceed number => ∀ call, watched.system.calls.lookup number = some call →
      StoresFresh watched.system call.stage
  | .switchUser activeUsers => ∀ bundleName uid, bundleName ∉ watched.system.unhandled →
      watched.system.validator.bundleNameToUid.lookup bundleName = some uid →
        uid = firstUid watched.system.mgr bundleName activeUsers
  | _ => True

end Watched

/-! ## The bundle manager -/

theorem firstUid_of_GetUidByBundleName (before after : BundleMgr) {bundleName : String}
    (h : ∀ userId, after.GetUidByBundleName bundleName userId =
      before.GetUidByBundleName bundleName userId) (userIds : List Int) :
    firstUid after bundleName userIds = firstUid before bundleName userIds := by
  induction userIds with
  | nil => rfl
  | cons userId userIds ih => rw [firstUid, firstUid, h, ih]

/-- The uid belongs to a package of the bundle. -/
def Belongs (mgr : BundleMgr) (uid : Int) (bundleName : String) : Prop :=
  ∃ package, mgr.packages.lookup uid = some package ∧ package.bundleName = bundleName

theorem GetUidByBundleName_cases (mgr : BundleMgr) (bundleName : String) (userId : Int) :
    mgr.GetUidByBundleName bundleName userId = -1 ∨
      Belongs mgr (mgr.GetUidByBundleName bundleName userId) bundleName := by
  rw [BundleMgr.GetUidByBundleName]
  cases mgr.uids.lookup (bundleName, userId) with
  | none => exact Or.inl rfl
  | some uid =>
      dsimp only
      split_ifs with hname
      · cases hpackage : mgr.packages.lookup uid with
        | none =>
            rw [hpackage] at hname
            cases hname
        | some package =>
            rw [hpackage] at hname
            exact Or.inr ⟨package, hpackage, of_decide_eq_true hname⟩
      · exact Or.inl rfl

theorem belongs_of_GetUidByBundleName {mgr : BundleMgr} {bundleName : String} {userId : Int}
    (h : mgr.GetUidByBundleName bundleName userId ≥ 0) :
    Belongs mgr (mgr.GetUidByBundleName bundleName userId) bundleName := by
  refine (GetUidByBundleName_cases mgr bundleName userId).resolve_left fun heq => ?_
  rw [heq] at h
  omega

theorem firstUid_cons (mgr : BundleMgr) (bundleName : String) (userId : Int)
    (userIds : List Int) : firstUid mgr bundleName (userId :: userIds) =
      if mgr.GetUidByBundleName bundleName userId ≥ 0 then
        mgr.GetUidByBundleName bundleName userId
      else firstUid mgr bundleName userIds :=
  rfl

theorem belongs_of_firstUid {mgr : BundleMgr} {bundleName : String} {userIds : List Int}
    (h : firstUid mgr bundleName userIds ≥ 0) :
    Belongs mgr (firstUid mgr bundleName userIds) bundleName := by
  induction userIds with
  | nil =>
      rw [firstUid] at h
      omega
  | cons userId userIds ih =>
      rw [firstUid_cons] at h ⊢
      by_cases huid : mgr.GetUidByBundleName bundleName userId ≥ 0
      · rw [if_pos huid]
        exact belongs_of_GetUidByBundleName huid
      · rw [if_neg huid] at h ⊢
        exact ih h

section

variable {mgr : BundleMgr} {bundleName : String} {userId uid : Int} {signature : Option String}
  {other : String} (hother : other ≠ bundleName)

include hother

/-- An installation leaves the packages of other bundles alone. -/
theorem install_lookup {package : Package} (hname : package.bundleName = other) (at' : Int) :
    (mgr.install bundleName userId uid signature).packages.lookup at' = some package ↔
      mgr.packages.lookup at' = some package := by
  have hnot : package.bundleName ≠ bundleName := hname ▸ hother
  unfold BundleMgr.install
  split_ifs with hfree
  · have huid : mgr.packages.lookup uid ≠ some package := by
      intro hlookup
      rw [hlookup] at hfree
      exact hnot (of_decide_eq_true hfree)
    cases signature with
    | some signature =>
        dsimp only
        rw [AssocMap.lookup_insert_ite]
        split_ifs with hsame
        · rw [hsame]
          refine iff_of_false (fun heq => ?_) huid
          obtain rfl := Option.some.inj heq
          exact hnot rfl
        · rfl
    | none =>
        dsimp only
        rw [AssocMap.lookup_erase_ite]
        split_ifs with hsame
        · rw [hsame]
          exact iff_of_false (fun heq => by cases heq) huid
        · rfl
  · rfl

theorem install_uids (user : Int) :
    (mgr.install bundleName userId uid signature).uids.lookup (other, user) =
      mgr.uids.lookup (other, user) := by
  unfold BundleMgr.install
  split_ifs
  · cases signature with
    | some signature =>
        refine AList.lookup_insert_ne fun heq => hother ?_
        exact (Prod.mk.inj heq).1
    | none => rfl
  · rfl

theorem install_GetUidByBundleName (user : Int) :
    (mgr.install bundleName userId uid signature).GetUidByBundleName other user =
      mgr.GetUidByBundleName other user := by
  rw [BundleMgr.GetUidByBundleName, BundleMgr.GetUidByBundleName, install_uids hother]
  cases mgr.uids.lookup (other, user) with
  | none => rfl
  | some found =>
      have hany : ∀ packages : Option Package,
          (packages.any fun package => package.bundleName = other) = true ↔
            ∃ package, packages = some package ∧ package.bundleName = other := by
        intro packages
        cases packages <;> simp
      dsimp only
      congr 1
      rw [hany, hany]
      refine propext (exists_congr fun package => and_congr_left fun hname => ?_)
      exact install_lookup hother hname found

end

theorem install_activeUsers (mgr : BundleMgr) (bundleName : String) (userId uid : Int)
    (signature : Option String) :
    (mgr.install bundleName userId uid signature).activeUsers = mgr.activeUsers := by
  unfold BundleMgr.install
  split_ifs
  · cases signature <;> rfl
  · rfl

theorem install_currentUid {mgr : BundleMgr} {bundleName other : String} {userId uid : Int}
    {signature : Option String} (hother : other ≠ bundleName) :
    currentUid (mgr.install bundleName userId uid signature) other = currentUid mgr other := by
  rw [currentUid, currentUid, BundleMgr.GetCurrentUserId, BundleMgr.GetCurrentUserId,
    install_activeUsers]
  exact firstUid_of_GetUidByBundleName _ _ (install_GetUidByBundleName hother) _

/-! ## One step of a check -/

/-- What a check at a stage returns when it uses no cache from there on. -/
def rest (system : System) : Stage → SignatureCheckResult
  | .findUid bundleName => plain system (.CheckSignatureByBundleName bundleName)
  | .queryUsers bundleName =>
      if currentUid system.mgr bundleName < 0 then .ERR_INTERNAL_ERROR
      else plainSignature system (currentUid system.mgr bundleName) bundleName
  | .queryUid bundleName userIds =>
      if firstUid system.mgr bundleName userIds < 0 then .ERR_INTERNAL_ERROR
      else plainSignature system (firstUid system.mgr bundleName userIds) bundleName
  | .storeUid bundleName uid => plainSignature system uid bundleName
  | .queryName uid => plain system (.CheckSignatureByUid uid)
  | .readConfig uid bundleName => plainSignature system uid bundleName
  | .readCache uid _ signature => plainCompare system.mgr uid signature
  | .queryInfo uid _ signature => plainCompare system.mgr uid signature
  | .storeVerdict _ _ signature signatureInfo => verdict (decide (signatureInfo = signature))

/-- The answers a check holds are current. -/
def Holds (system : System) : Stage → Prop
  | .storeUid bundleName uid => Belongs system.mgr uid bundleName
  | .readConfig uid bundleName => Belongs system.mgr uid bundleName
  | .readCache uid bundleName signature => Belongs system.mgr uid bundleName ∧
      system.validator.signatureConfig.lookup bundleName = some signature
  | _ => True

/-- The entries of both caches are current, those of bundles with an unhandled change apart. -/
structure CachesFresh (system : System) : Prop where
  uids : ∀ bundleName uid, bundleName ∉ system.unhandled →
    system.validator.bundleNameToUid.lookup bundleName = some uid → UidFresh system bundleName uid
  verdicts : ∀ bundleName uid isValid, bundleName ∉ system.unhandled →
    system.validator.validCache.lookup bundleName = some (uid, isValid) →
      VerdictFresh system bundleName uid isValid

/-- What a step of a check has to do: go on to a stage with the same outcome, or return it. -/
def Follows (system : System) (result : SignatureCheckResult) : Progress → Prop
  | .goesOn stage => rest system stage = result ∧ Holds system stage
  | .returns returned => returned = result

theorem findUid_follows {system : System} (h : CachesFresh system)
    (hall : system.unhandled = ∅) (bundleName : String) :
    Follows system (rest system (.findUid bundleName))
      (system.validator.advance system.mgr (.findUid bundleName)).2 := by
  rw [rest, plain, ResSchedSignatureValidator.advance]
  by_cases hmgr : (!system.validator.hasBundleMgr) = true
  · rw [if_pos hmgr, if_pos hmgr]
    rfl
  · by_cases hempty : bundleName = ""
    · rw [if_neg hmgr, if_neg hmgr, if_pos hempty, if_pos hempty]
      rfl
    · rw [if_neg hmgr, if_neg hmgr, if_neg hempty, if_neg hempty]
      cases hcached : system.validator.bundleNameToUid.lookup bundleName with
      | none => exact ⟨rfl, trivial⟩
      | some uid =>
          have hfresh : uid = currentUid system.mgr bundleName :=
            h.uids bundleName uid (hall ▸ Finset.notMem_empty _) hcached
          by_cases huid : uid < 0
          · simp only [if_pos huid]
            exact ⟨rfl, trivial⟩
          · simp only [if_neg huid]
            rw [hfresh] at huid ⊢
            rw [if_neg huid]
            exact ⟨rfl, belongs_of_firstUid (not_lt.mp huid)⟩

theorem queryUid_follows (system : System) (bundleName : String) (userIds : List Int) :
    Follows system (rest system (.queryUid bundleName userIds))
      (system.validator.advance system.mgr (.queryUid bundleName userIds)).2 := by
  cases userIds with
  | nil => rfl
  | cons userId userIds =>
      rw [rest, firstUid_cons, ResSchedSignatureValidator.advance]
      by_cases huid : system.mgr.GetUidByBundleName bundleName userId ≥ 0
      · rw [if_pos huid, if_pos huid, if_neg (not_lt.mpr huid)]
        exact ⟨rfl, belongs_of_GetUidByBundleName huid⟩
      · rw [if_neg huid, if_neg huid]
        exact ⟨rfl, trivial⟩

theorem queryName_follows (system : System) (uid : Int) :
    Follows system (rest system (.queryName uid))
      (system.validator.advance system.mgr (.queryName uid)).2 := by
  rw [rest, plain, ResSchedSignatureValidator.advance]
  by_cases hmgr : (!system.validator.hasBundleMgr) = true
  · rw [if_pos hmgr, if_pos hmgr]
    rfl
  · by_cases hempty : system.mgr.GetBundleNameByUid uid = ""
    · rw [if_neg hmgr, if_neg hmgr, if_pos hempty, if_pos hempty]
      rfl
    · rw [if_neg hmgr, if_neg hmgr, if_neg hempty, if_neg hempty]
      refine ⟨rfl, ?_⟩
      rw [BundleMgr.GetBundleNameByUid] at hempty ⊢
      cases hpackage : system.mgr.packages.lookup uid with
      | none =>
          rw [hpackage] at hempty
          exact absurd rfl hempty
      | some package => exact ⟨package, hpackage, rfl⟩

theorem readConfig_follows (system : System) (uid : Int) (bundleName : String)
    (hbelongs : Belongs system.mgr uid bundleName) :
    Follows system (rest system (.readConfig uid bundleName))
      (system.validator.advance system.mgr (.readConfig uid bundleName)).2 := by
  rw [rest, plainSignature, ResSchedSignatureValidator.advance]
  by_cases hmgr : (!system.validator.hasBundleMgr) = true
  · rw [if_pos hmgr, if_pos hmgr]
    rfl
  · rw [if_neg hmgr, if_neg hmgr]
    cases hconfig : system.validator.signatureConfig.lookup bundleName with
    | none => rfl
    | some signature => exact ⟨rfl, hbelongs, hconfig⟩

/-- A cached verdict is the one a comparison would give. -/
theorem readCache_follows {system : System} (h : CachesFresh system)
    (hall : system.unhandled = ∅) {uid : Int} {bundleName signature : String}
    (hholds : Holds system (.readCache uid bundleName signature)) :
    Follows system (rest system (.readCache uid bundleName signature))
      (system.validator.advance system.mgr (.readCache uid bundleName signature)).2 := by
  obtain ⟨⟨package, hpackage, hname⟩, hconfig⟩ := hholds
  rw [rest, ResSchedSignatureValidator.advance, ResSchedSignatureValidator.CheckSignatureCache]
  cases hcached : system.validator.validCache.lookup bundleName with
  | none => exact ⟨rfl, trivial⟩
  | some entry =>
      obtain ⟨cacheUid, cacheIsValid⟩ := entry
      by_cases huid : cacheUid = uid
      · have hfresh := h.verdicts bundleName cacheUid cacheIsValid
          (hall ▸ Finset.notMem_empty _) hcached package signature (huid ▸ hpackage) hname hconfig
        simp only [if_pos huid]
        rw [plainCompare, BundleMgr.GetSignatureInfoByUid, hpackage]
        exact congrArg verdict hfresh
      · simp only [if_neg huid]
        exact ⟨rfl, trivial⟩

theorem queryInfo_follows (system : System) (uid : Int) (bundleName signature : String) :
    Follows system (rest system (.queryInfo uid bundleName signature))
      (system.validator.advance system.mgr (.queryInfo uid bundleName signature)).2 := by
  rw [rest, plainCompare, ResSchedSignatureValidator.advance]
  cases system.mgr.GetSignatureInfoByUid uid with
  | none => rfl
  | some signatureInfo => exact ⟨rfl, trivial⟩

/-- With fresh caches each step of a check keeps its outcome. -/
theorem advance_follows {system : System} (h : CachesFresh system)
    (hall : system.unhandled = ∅) {stage : Stage} (hholds : Holds system stage) :
    Follows system (rest system stage) (system.validator.advance system.mgr stage).2 := by
  cases stage with
  | findUid bundleName => exact findUid_follows h hall bundleName
  | queryUsers bundleName => exact ⟨rfl, trivial⟩
  | queryUid bundleName userIds => exact queryUid_follows system bundleName userIds
  | storeUid bundleName uid => exact ⟨rfl, hholds⟩
  | queryName uid => exact queryName_follows system uid
  | readConfig uid bundleName => exact readConfig_follows system uid bundleName hholds
  | readCache uid bundleName signature => exact readCache_follows h hall hholds
  | queryInfo uid bundleName signature => exact queryInfo_follows system uid bundleName signature
  | storeVerdict uid bundleName signature signatureInfo => rfl

/-! ## The caches after a step -/

/-- What a step leaves in the validator. -/
def afterStep (validator : ResSchedSignatureValidator) : Stage → ResSchedSignatureValidator
  | .storeUid bundleName uid =>
      { validator with bundleNameToUid := validator.bundleNameToUid.insert bundleName uid }
  | .readCache uid bundleName _ => (validator.CheckSignatureCache bundleName uid).1
  | .storeVerdict uid bundleName signature signatureInfo =>
      validator.UpdateSignatureCache bundleName uid (decide (signatureInfo = signature))
  | _ => validator

theorem advance_validator (validator : ResSchedSignatureValidator) (mgr : BundleMgr)
    (stage : Stage) : (validator.advance mgr stage).1 = afterStep validator stage := by
  cases stage with
  | findUid bundleName =>
      change _ = validator
      rw [ResSchedSignatureValidator.advance]
      split_ifs
      · rfl
      · rfl
      · cases validator.bundleNameToUid.lookup bundleName with
        | none => rfl
        | some uid => exact (apply_ite Prod.fst _ _ _).trans (ite_self _)
  | queryUid bundleName userIds =>
      cases userIds with
      | nil => rfl
      | cons userId userIds => exact (apply_ite Prod.fst _ _ _).trans (ite_self _)
  | queryName uid =>
      change _ = validator
      rw [ResSchedSignatureValidator.advance]
      split_ifs <;> rfl
  | readConfig uid bundleName =>
      change _ = validator
      rw [ResSchedSignatureValidator.advance]
      split_ifs
      · rfl
      · cases validator.signatureConfig.lookup bundleName <;> rfl
  | readCache uid bundleName signature =>
      rw [ResSchedSignatureValidator.advance, afterStep]
      generalize validator.CheckSignatureCache bundleName uid = cached
      obtain ⟨after, isValid⟩ := cached
      cases isValid <;> rfl
  | queryInfo uid bundleName signature =>
      change _ = validator
      rw [ResSchedSignatureValidator.advance]
      cases mgr.GetSignatureInfoByUid uid <;> rfl
  | _ => rfl

theorem afterStep_keeps (validator : ResSchedSignatureValidator) (stage : Stage) :
    (afterStep validator stage).hasBundleMgr = validator.hasBundleMgr ∧
      (afterStep validator stage).signatureConfig = validator.signatureConfig := by
  cases stage with
  | readCache uid bundleName signature =>
      rw [afterStep, ResSchedSignatureValidator.CheckSignatureCache]
      cases validator.validCache.lookup bundleName with
      | none => exact ⟨rfl, rfl⟩
      | some entry =>
          dsimp only
          split_ifs <;> exact ⟨rfl, rfl⟩
  | _ => exact ⟨rfl, rfl⟩

/-- Whatever a step leaves in the caches was there or has been stored in the step. -/
theorem afterStep_uid {validator : ResSchedSignatureValidator} {stage : Stage}
    {bundleName : String} {uid : Int}
    (h : (afterStep validator stage).bundleNameToUid.lookup bundleName = some uid) :
    validator.bundleNameToUid.lookup bundleName = some uid ∨ stage = .storeUid bundleName uid := by
  cases stage with
  | storeUid stored storedUid =>
      rw [afterStep, AssocMap.lookup_insert_ite] at h
      split_ifs at h with hname
      · obtain rfl := Option.some.inj h
        exact Or.inr (hname ▸ rfl)
      · exact Or.inl h
  | readCache other found signature =>
      refine Or.inl (Eq.trans (congrArg _ ?_) h)
      rw [afterStep, ResSchedSignatureValidator.CheckSignatureCache]
      cases validator.validCache.lookup found with
      | none => rfl
      | some entry =>
          dsimp only
          split_ifs <;> rfl
  | _ => exact Or.inl h

theorem afterStep_verdict {validator : ResSchedSignatureValidator} {stage : Stage}
    {bundleName : String} {uid : Int} {isValid : Bool}
    (h : (afterStep validator stage).validCache.lookup bundleName = some (uid, isValid)) :
    validator.validCache.lookup bundleName = some (uid, isValid) ∨
      ∃ signature signatureInfo, stage = .storeVerdict uid bundleName signature signatureInfo ∧
        isValid = decide (signatureInfo = signature) := by
  cases stage with
  | readCache other found signature =>
      rw [afterStep, ResSchedSignatureValidator.CheckSignatureCache] at h
      cases hfound : validator.validCache.lookup found with
      | none =>
          rw [hfound] at h
          exact Or.inl h
      | some entry =>
          rw [hfound] at h
          dsimp only at h
          split_ifs at h with hsame
          · exact Or.inl h
          · rw [AssocMap.lookup_erase_ite] at h
            split_ifs at h
            exact Or.inl h
  | storeVerdict stored storedName signature signatureInfo =>
      rw [afterStep, ResSchedSignatureValidator.UpdateSignatureCache] at h
      dsimp only at h
      rw [AssocMap.lookup_insert_ite] at h
      split_ifs at h with hname hfull
      · obtain ⟨rfl, rfl⟩ := Prod.mk.inj (Option.some.inj h)
        exact Or.inr ⟨signature, signatureInfo, hname ▸ rfl, rfl⟩
      · cases h
      · exact Or.inl h
  | _ => exact Or.inl h

/-! ## One event -/

theorem AddSignatureConfig_validCache (config : List (String × String)) :
    ∀ validator : ResSchedSignatureValidator, ∀ bundleName entry,
      (validator.AddSignatureConfig config).validCache.lookup bundleName = some entry →
        validator.validCache.lookup bundleName = some entry ∧
          (validator.AddSignatureConfig config).signatureConfig.lookup bundleName =
            validator.signatureConfig.lookup bundleName := by
  induction config with
  | nil => exact fun _ _ _ hlookup => ⟨hlookup, rfl⟩
  | cons added config ih =>
      intro validator bundleName entry hlookup
      obtain ⟨hcached, hconfig⟩ := ih _ bundleName entry hlookup
      rw [AssocMap.lookup_erase_ite] at hcached
      split_ifs at hcached with hname
      refine ⟨hcached, hconfig.trans ?_⟩
      rw [AssocMap.lookup_insert_ite, if_neg hname]

theorem AddSignatureConfig_bundleNameToUid (config : List (String × String)) :
    ∀ validator : ResSchedSignatureValidator,
      (validator.AddSignatureConfig config).bundleNameToUid = validator.bundleNameToUid := by
  induction config with
  | nil => exact fun _ => rfl
  | cons added config ih => exact fun validator => ih _

/-- The checks in progress after a step of one of them. -/
def callsAfter (calls : AssocMap Nat Call) (number : Nat) (check : Check) :
    Progress → AssocMap Nat Call
  | .goesOn stage => calls.insert number ⟨check, stage⟩
  | .returns _ => calls.erase number

/-- What a step of a check changes of the system. -/
theorem handle_proceed {system : System} {number : Nat} {call : Call}
    (hcall : system.calls.lookup number = some call) :
    system.handle (.proceed number) = { system with
      validator := afterStep system.validator call.stage
      calls := callsAfter system.calls number call.check
        (system.validator.advance system.mgr call.stage).2 } := by
  rw [← advance_validator system.validator system.mgr]
  simp only [System.handle, hcall]
  generalize system.validator.advance system.mgr call.stage = advanced
  obtain ⟨validator, progress⟩ := advanced
  cases progress <;> rfl

theorem handle_proceed_none {system : System} {number : Nat}
    (hcall : system.calls.lookup number = none) : system.handle (.proceed number) = system := by
  simp only [System.handle, hcall]

theorem proceed_fresh {system : System} (h : CachesFresh system) {number : Nat}
    (hstores : ∀ call, system.calls.lookup number = some call →
      Watched.StoresFresh system call.stage) : CachesFresh (system.handle (.proceed number)) := by
  cases hcall : system.calls.lookup number with
  | none =>
      rw [handle_proceed_none hcall]
      exact h
  | some call =>
      have hstore := hstores call hcall
      rw [handle_proceed hcall]
      refine ⟨?_, ?_⟩
      · intro bundleName uid hhandled hlookup
        rcases afterStep_uid hlookup with hold | hstage
        · exact h.uids bundleName uid hhandled hold
        · rw [hstage] at hstore
          exact hstore hhandled
      · intro bundleName uid isValid hhandled hlookup package signature hpackage hname hconfig
        change (afterStep system.validator call.stage).signatureConfig.lookup bundleName = _
          at hconfig
        rw [(afterStep_keeps _ _).2] at hconfig
        rcases afterStep_verdict hlookup with hold | ⟨held, signatureInfo, hstage, rfl⟩
        · exact h.verdicts bundleName uid isValid hhandled hold package signature hpackage hname
            hconfig
        · rw [hstage] at hstore
          exact hstore hhandled package signature hpackage hname hconfig

theorem install_fresh {system : System} (h : CachesFresh system) (bundleName : String)
    (userId uid : Int) (signature : Option String) :
    CachesFresh (system.handle (.installChange bundleName userId uid signature)) := by
  refine ⟨?_, ?_⟩
  · intro other otherUid hhandled hlookup
    obtain ⟨hother, hhandled⟩ := not_or.mp (mt Finset.mem_insert.mpr hhandled)
    exact (h.uids other otherUid hhandled hlookup).trans (install_currentUid hother).symm
  · intro other otherUid isValid hhandled hlookup package configured hpackage hname hconfig
    obtain ⟨hother, hhandled⟩ := not_or.mp (mt Finset.mem_insert.mpr hhandled)
    exact h.verdicts other otherUid isValid hhandled hlookup package configured
      ((install_lookup hother hname otherUid).mp hpackage) hname hconfig

/-- Once a change is handled, no entry of the bundle is left. -/
theorem handled_fresh {system : System} (h : CachesFresh system) (bundleName : String) :
    CachesFresh (system.handle (.OnAppInstallChanged bundleName)) := by
  have hother : ∀ other, other ≠ bundleName → other ∉ system.unhandled.erase bundleName →
      other ∉ system.unhandled :=
    fun other hne hhandled hmem => hhandled (Finset.mem_erase.mpr ⟨hne, hmem⟩)
  refine ⟨?_, ?_⟩
  · intro other uid hhandled hlookup
    simp only [System.handle, ResSchedSignatureValidator.OnAppInstallChanged] at hlookup
    rw [AssocMap.lookup_erase_ite] at hlookup
    split_ifs at hlookup with hne
    exact h.uids other uid (hother other hne hhandled) hlookup
  · intro other uid isValid hhandled hlookup
    simp only [System.handle, ResSchedSignatureValidator.OnAppInstallChanged] at hlookup
    rw [AssocMap.lookup_erase_ite] at hlookup
    split_ifs at hlookup with hne
    exact h.verdicts other uid isValid (hother other hne hhandled) hlookup

theorem handle_fresh {watched : Watched} (h : CachesFresh watched.system) (event : Event)
    (hkeeps : watched.KeepsFresh event) : CachesFresh (watched.system.handle event) := by
  cases event with
  | check check => exact ⟨h.uids, h.verdicts⟩
  | proceed number => exact proceed_fresh h hkeeps
  | installChange bundleName userId uid signature =>
      exact install_fresh h bundleName userId uid signature
  | OnAppInstallChanged bundleName => exact handled_fresh h bundleName
  | AddSignatureConfig config =>
      refine ⟨?_, ?_⟩
      · intro bundleName uid hhandled hlookup
        simp only [System.handle, AddSignatureConfig_bundleNameToUid] at hlookup
        exact h.uids bundleName uid hhandled hlookup
      · intro bundleName uid isValid hhandled hlookup package signature hpackage hname hconfig
        obtain ⟨hcached, hsame⟩ := AddSignatureConfig_validCache config _ _ _ hlookup
        exact h.verdicts bundleName uid isValid hhandled hcached package signature hpackage hname
          (hsame.symm.trans hconfig)
  | switchUser activeUsers =>
      refine ⟨?_, h.verdicts⟩
      intro bundleName uid hhandled hlookup
      have hsame : firstUid { watched.system.mgr with activeUsers := activeUsers } bundleName
          activeUsers = firstUid watched.system.mgr bundleName activeUsers :=
        firstUid_of_GetUidByBundleName watched.system.mgr
          { watched.system.mgr with activeUsers := activeUsers } (fun _ => rfl) activeUsers
      exact (hkeeps bundleName uid hhandled hlookup).trans hsame.symm

/-! ## Checks that are covered -/

section

variable (before after : System) (hmgr : after.mgr = before.mgr)
  (hset : after.validator.hasBundleMgr = before.validator.hasBundleMgr)
  (hconfig : after.validator.signatureConfig = before.validator.signatureConfig)

include hmgr hset hconfig

theorem plainSignature_congr (uid : Int) (bundleName : String) :
    plainSignature after uid bundleName = plainSignature before uid bundleName := by
  rw [plainSignature, plainSignature, hmgr, hset, hconfig]

theorem plain_congr (check : Check) : plain after check = plain before check := by
  cases check <;>
    rw [plain, plain, plainSignature_congr before after hmgr hset hconfig, hset, hmgr]

theorem rest_congr (stage : Stage) : rest after stage = rest before stage := by
  cases stage with
  | findUid bundleName => rw [rest, rest, plain_congr before after hmgr hset hconfig]
  | queryName uid => rw [rest, rest, plain_congr before after hmgr hset hconfig]
  | storeVerdict uid bundleName signature signatureInfo => rfl
  | readCache uid bundleName signature => rw [rest, rest, hmgr]
  | queryInfo uid bundleName signature => rw [rest, rest, hmgr]
  | _ => simp only [rest, plainSignature_congr before after hmgr hset hconfig, hmgr]

omit hset in
theorem holds_congr (stage : Stage) : Holds after stage ↔ Holds before stage := by
  cases stage <;> simp only [Holds, hmgr, hconfig]

end

namespace Watched

/-- A covered check is on its way to what a check without the caches returns. -/
def OnTrack (system : System) (call : Call) : Prop :=
  rest system call.stage = plain system call.check ∧ Holds system call.stage

structure Tracked (watched : Watched) : Prop where
  fresh : CachesFresh watched.system
  handled : ∀ number ∈ watched.covered, watched.system.unhandled = ∅
  onTrack : ∀ number ∈ watched.covered, ∀ call,
    watched.system.calls.lookup number = some call → OnTrack watched.system call

theorem onTrack_congr (before after : System) (hmgr : after.mgr = before.mgr)
    (hset : after.validator.hasBundleMgr = before.validator.hasBundleMgr)
    (hconfig : after.validator.signatureConfig = before.validator.signatureConfig) (call : Call) :
    OnTrack after call ↔ OnTrack before call := by
  rw [OnTrack, OnTrack, rest_congr before after hmgr hset hconfig,
    plain_congr before after hmgr hset hconfig, holds_congr before after hmgr hconfig]

theorem begin_onTrack (system : System) (check : Check) :
    OnTrack system ⟨check, check.begin⟩ := by
  cases check <;> exact ⟨rfl, trivial⟩

theorem start_tracked (hasBundleMgr : Bool) (mgr : BundleMgr) :
    (start hasBundleMgr mgr).Tracked := by
  refine ⟨⟨?_, ?_⟩, fun _ hcovered => absurd hcovered (Finset.notMem_empty _),
    fun _ hcovered => absurd hcovered (Finset.notMem_empty _)⟩
  · intro bundleName uid _ hlookup
    exact absurd hlookup (Option.some_ne_none uid).symm
  · intro bundleName uid isValid _ hlookup
    exact absurd hlookup (Option.some_ne_none (uid, isValid)).symm

theorem check_tracked {watched : Watched} (h : watched.Tracked) (check : Check) :
    (watched.handle (.check check)).Tracked := by
  have hcovered : ∀ number ∈ (watched.handle (.check check)).covered,
      watched.system.unhandled = ∅ ∧
        (number ≠ watched.system.begun → number ∈ watched.covered) := by
    intro number hnumber
    simp only [handle] at hnumber
    split_ifs at hnumber with hall
    · exact ⟨hall, fun hne => (Finset.mem_insert.mp hnumber).resolve_left hne⟩
    · exact ⟨h.handled number hnumber, fun _ => hnumber⟩
  refine ⟨handle_fresh h.fresh (.check check) trivial,
    fun number hnumber => (hcovered number hnumber).1, ?_⟩
  intro number hnumber call hlookup
  refine (onTrack_congr watched.system _ rfl rfl rfl call).mpr ?_
  simp only [handle, System.handle] at hlookup
  rw [AssocMap.lookup_insert_ite] at hlookup
  split_ifs at hlookup with hnew
  · obtain rfl := Option.some.inj hlookup
    exact begin_onTrack watched.system check
  · exact h.onTrack number ((hcovered number hnumber).2 hnew) call hlookup

/-- The check that took the step stays on track, and the others have not moved. -/
theorem callsAfter_onTrack {watched : Watched} (h : watched.Tracked) {number : Nat} {call : Call}
    (hcall : watched.system.calls.lookup number = some call) {other : Nat}
    (hother : other ∈ watched.covered) {current : Call}
    (hlookup : (callsAfter watched.system.calls number call.check
      (watched.system.validator.advance watched.system.mgr call.stage).2).lookup other =
        some current) : OnTrack watched.system current := by
  by_cases hsame : other = number
  · subst hsame
    obtain ⟨houtcome, hholds⟩ := h.onTrack other hother call hcall
    have hstep := advance_follows h.fresh (h.handled other hother) hholds
    generalize (watched.system.validator.advance watched.system.mgr call.stage).2 = progress
      at hlookup hstep
    cases progress with
    | goesOn stage =>
        rw [callsAfter, AssocMap.lookup_insert_ite, if_pos rfl] at hlookup
        obtain rfl := Option.some.inj hlookup
        exact ⟨hstep.1.trans houtcome, hstep.2⟩
    | returns result =>
        rw [callsAfter, AssocMap.lookup_erase_ite, if_pos rfl] at hlookup
        cases hlookup
  · refine h.onTrack other hother current (Eq.trans ?_ hlookup)
    cases (watched.system.validator.advance watched.system.mgr call.stage).2 with
    | goesOn stage => rw [callsAfter, AssocMap.lookup_insert_ite, if_neg hsame]
    | returns result => rw [callsAfter, AssocMap.lookup_erase_ite, if_neg hsame]

theorem proceed_tracked {watched : Watched} (h : watched.Tracked) (number : Nat)
    (hkeeps : watched.KeepsFresh (.proceed number)) :
    (watched.handle (.proceed number)).Tracked := by
  have hfresh := handle_fresh h.fresh (.proceed number) hkeeps
  cases hcall : watched.system.calls.lookup number with
  | none =>
      have hsame : watched.handle (.proceed number) = watched := by
        rw [handle, handle_proceed_none hcall]
      rw [hsame]
      exact h
  | some call =>
      have hsystem := handle_proceed hcall
      obtain ⟨hset, hconfig⟩ := afterStep_keeps watched.system.validator call.stage
      refine ⟨hfresh, ?_, ?_⟩
      · intro other hother
        simp only [handle, hsystem]
        exact h.handled other hother
      · intro other hother current hlookup
        simp only [handle, hsystem] at hlookup ⊢
        rw [onTrack_congr watched.system]
        · exact callsAfter_onTrack h hcall hother hlookup
        · rfl
        · exact hset
        · exact hconfig

theorem handled_tracked {watched : Watched} (h : watched.Tracked) (bundleName : String) :
    (watched.handle (.OnAppInstallChanged bundleName)).Tracked := by
  refine ⟨handled_fresh h.fresh bundleName, ?_, ?_⟩
  · intro number hnumber
    have hall := h.handled number hnumber
    simp only [handle, System.handle, hall]
    exact Finset.erase_eq_of_notMem (Finset.notMem_empty bundleName)
  · intro number hnumber call hlookup
    exact (onTrack_congr watched.system _ rfl rfl rfl call).mpr
      (h.onTrack number hnumber call hlookup)

theorem tracked_of_covered_empty {watched : Watched} (hfresh : CachesFresh watched.system)
    (hcovered : watched.covered = ∅) : watched.Tracked where
  fresh := hfresh
  handled number hnumber := absurd (hcovered ▸ hnumber) (Finset.notMem_empty number)
  onTrack number hnumber := absurd (hcovered ▸ hnumber) (Finset.notMem_empty number)

theorem handle_tracked {watched : Watched} (h : watched.Tracked) (event : Event)
    (hkeeps : watched.KeepsFresh event) : (watched.handle event).Tracked := by
  have hfresh := handle_fresh h.fresh event hkeeps
  cases event with
  | check check => exact check_tracked h check
  | proceed number => exact proceed_tracked h number hkeeps
  | OnAppInstallChanged bundleName => exact handled_tracked h bundleName
  | installChange bundleName userId uid signature => exact tracked_of_covered_empty hfresh rfl
  | AddSignatureConfig config => exact tracked_of_covered_empty hfresh rfl
  | switchUser activeUsers => exact tracked_of_covered_empty hfresh rfl

end Watched

end ResSched.Signature
