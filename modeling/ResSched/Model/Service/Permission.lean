import ResSched.Library.AssocMap
import Mathlib.Data.Finset.Basic

/-! # Who may report which resource type -/

namespace ResSched.Service

/-- Which process may report a type: a table for each kind of reporter. -/
structure ReportTables where
  allowSCBReportRes : Finset Nat
  allowAllSAReportRes : Finset Nat
  allowSomeSAReportRes : AssocMap Nat (Finset Int)
  allowAllAppReportRes : Finset Nat
  allowFgAppReportRes : Finset Nat

def ReportTables.empty : ReportTables :=
  ⟨∅, ∅, ∅, ∅, ∅⟩

/-! ## The extensions of the plugins -/

/-- The calls a plugin extends the tables of `ResSchedMgr` with. -/
inductive ExtCall where
  | AddAllowSCBReportResExt (allowSCBReportResExt : Finset Nat)
  | AddAllowAllSAReportResExt (allowAllSAReportResExt : Finset Nat)
  | AddAllowSomeSAReportResExt (allowSomeSAReportResExt : AssocMap Nat (Finset Int))
  | AddAllowAllAppReportResExt (allowAllAppReportResExt : Finset Nat)
  | AddAllowFgAppReportResExt (allowFgAppReportResExt : Finset Nat)

/-- `AddAllowSomeSAReportResExt`: the uids of a type join those it has already. -/
def addSomeSA (allowSomeSAReportResExt_ allowSomeSAReportResExt : AssocMap Nat (Finset Int)) :
    AssocMap Nat (Finset Int) :=
  AssocMap.merge (fun existSaSet saSet => existSaSet.getD ∅ ∪ saSet) allowSomeSAReportResExt_
    allowSomeSAReportResExt

/-- The tables of `ResSchedMgr` after a call. -/
def ReportTables.extend (tables : ReportTables) : ExtCall → ReportTables
  | .AddAllowSCBReportResExt allowSCBReportResExt =>
      { tables with allowSCBReportRes := tables.allowSCBReportRes ∪ allowSCBReportResExt }
  | .AddAllowAllSAReportResExt allowAllSAReportResExt =>
      { tables with allowAllSAReportRes := tables.allowAllSAReportRes ∪ allowAllSAReportResExt }
  | .AddAllowSomeSAReportResExt allowSomeSAReportResExt =>
      { tables with
        allowSomeSAReportRes := addSomeSA tables.allowSomeSAReportRes allowSomeSAReportResExt }
  | .AddAllowAllAppReportResExt allowAllAppReportResExt =>
      { tables with
        allowAllAppReportRes := tables.allowAllAppReportRes ∪ allowAllAppReportResExt }
  | .AddAllowFgAppReportResExt allowFgAppReportResExt =>
      { tables with allowFgAppReportRes := tables.allowFgAppReportRes ∪ allowFgAppReportResExt }

/-! ## The tables of the service -/

/-- `AddAll` on maps: `insert` leaves a key that is present as it is. -/
def addAllEntries (present source : AssocMap Nat (Finset Int)) : AssocMap Nat (Finset Int) :=
  AssocMap.merge (fun old new => old.getD new) present source

/-- The five additions of `InitAllowIpcReportRes` from one source. -/
def ReportTables.addAll (tables source : ReportTables) : ReportTables where
  allowSCBReportRes := tables.allowSCBReportRes ∪ source.allowSCBReportRes
  allowAllSAReportRes := tables.allowAllSAReportRes ∪ source.allowAllSAReportRes
  allowSomeSAReportRes := addAllEntries tables.allowSomeSAReportRes source.allowSomeSAReportRes
  allowAllAppReportRes := tables.allowAllAppReportRes ∪ source.allowAllAppReportRes
  allowFgAppReportRes := tables.allowFgAppReportRes ∪ source.allowFgAppReportRes

/-- The built-in tables first, then those of `ResSchedMgr`. -/
def InitAllowIpcReportRes (builtIn extensions : ReportTables) : ReportTables :=
  (ReportTables.empty.addAll builtIn).addAll extensions

/-! ## The checks -/

inductive ATokenTypeEnum where
  | TOKEN_HAP
  | TOKEN_NATIVE
  | other (type : Int)
deriving DecidableEq

def SCENEBOARD_BUNDLE_NAME : String := "com.ohos.sceneboard"

/-- The caller of a request: its identity, what the access token kit knows of its token, and
the permission cached for the token. -/
structure Caller where
  uid : Int
  pid : Int
  fullTokenID : Nat
  tokenType : ATokenTypeEnum
  bundleName : String
  cachedPermission : Option Int
  verifiedPermission : Int

/-- `isForegroundApp` answers for `ResSchedMgr::IsForegroundApp`. -/
def IsThirdPartType (tables : ReportTables) (isForegroundApp : Int → Bool) (caller : Caller)
    (type : Nat) : Bool :=
  if type ∉ tables.allowAllAppReportRes then false
  else if type ∈ tables.allowFgAppReportRes ∧ !isForegroundApp caller.pid then false
  else decide (caller.tokenType = .TOKEN_HAP)

def IsSBDResType (tables : ReportTables) (caller : Caller) (type : Nat) : Bool :=
  if type ∉ tables.allowSCBReportRes then false
  else if caller.tokenType ≠ .TOKEN_HAP then false
  else decide (caller.bundleName = SCENEBOARD_BUNDLE_NAME)

/-- The first check of `IsHasPermission`: the uids of the type where it has any, and the types
of all abilities otherwise. -/
def uidAllowed (tables : ReportTables) (type : Nat) (uid : Int) : Bool :=
  match tables.allowSomeSAReportRes.lookup type with
  | some uids => decide (uid ∈ uids)
  | none => decide (type ∈ tables.allowAllSAReportRes)

def IsHasPermission (tables : ReportTables) (caller : Caller) (type : Nat) (uid : Int) : Bool :=
  if !uidAllowed tables type uid then false
  else if caller.tokenType ≠ .TOKEN_NATIVE then false
  else decide (caller.cachedPermission.getD caller.verifiedPermission = 0)

end ResSched.Service
