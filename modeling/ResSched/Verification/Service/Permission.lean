import ResSched.Model.Service.Permission

/-! # The report tables are the unions of the built-in ones and the extensions -/

namespace ResSched.Service

/-! ## The specification -/

/-- The uid is listed for the type. -/
def Listed (allowSomeSAReportRes : AssocMap Nat (Finset Int)) (type : Nat) (uid : Int) : Prop :=
  ∃ uids, allowSomeSAReportRes.lookup type = some uids ∧ uid ∈ uids

/-- The tables of `ResSchedMgr` after the calls of the plugins. -/
def extensionsOf (calls : List ExtCall) : ReportTables :=
  calls.foldl ReportTables.extend ReportTables.empty

/-- Every table holds what the built-in one and the extensions hold together, and the check of a
uid admits those listed in either. -/
structure TablesUnited (builtIn : ReportTables) (calls : List ExtCall) (tables : ReportTables) :
    Prop where
  scb : ∀ type, type ∈ tables.allowSCBReportRes ↔ type ∈ builtIn.allowSCBReportRes ∨
    ∃ types, .AddAllowSCBReportResExt types ∈ calls ∧ type ∈ types
  allSA : ∀ type, type ∈ tables.allowAllSAReportRes ↔ type ∈ builtIn.allowAllSAReportRes ∨
    ∃ types, .AddAllowAllSAReportResExt types ∈ calls ∧ type ∈ types
  someSA : ∀ type uid, Listed tables.allowSomeSAReportRes type uid ↔
    Listed builtIn.allowSomeSAReportRes type uid ∨
      ∃ uids, .AddAllowSomeSAReportResExt uids ∈ calls ∧ Listed uids type uid
  someSA_types : ∀ type, type ∈ tables.allowSomeSAReportRes ↔
    type ∈ builtIn.allowSomeSAReportRes ∨
      ∃ uids, .AddAllowSomeSAReportResExt uids ∈ calls ∧ type ∈ uids
  allApp : ∀ type, type ∈ tables.allowAllAppReportRes ↔ type ∈ builtIn.allowAllAppReportRes ∨
    ∃ types, .AddAllowAllAppReportResExt types ∈ calls ∧ type ∈ types
  fgApp : ∀ type, type ∈ tables.allowFgAppReportRes ↔ type ∈ builtIn.allowFgAppReportRes ∨
    ∃ types, .AddAllowFgAppReportResExt types ∈ calls ∧ type ∈ types
  admitted : ∀ type uid, type ∈ tables.allowSomeSAReportRes →
    (uidAllowed tables type uid = true ↔ Listed builtIn.allowSomeSAReportRes type uid ∨
      ∃ uids, .AddAllowSomeSAReportResExt uids ∈ calls ∧ Listed uids type uid)

/-- No extension lists a uid for a type that the built-in table lists without that uid. -/
def ExtensionsAgree (builtIn : ReportTables) (calls : List ExtCall) : Prop :=
  ∀ type uids, builtIn.allowSomeSAReportRes.lookup type = some uids →
    ∀ extUids, .AddAllowSomeSAReportResExt extUids ∈ calls →
      ∀ uid, Listed extUids type uid → uid ∈ uids

/-! ## The tables of the extensions -/

theorem mem_iff_lookup (uids : AssocMap Nat (Finset Int)) (type : Nat) :
    type ∈ uids ↔ ∃ set, uids.lookup type = some set := by
  rw [← AList.lookup_isSome, Option.isSome_iff_exists]

theorem listed_addSomeSA (exist added : AssocMap Nat (Finset Int)) (type : Nat) (uid : Int) :
    Listed (addSomeSA exist added) type uid ↔ Listed exist type uid ∨ Listed added type uid := by
  rw [Listed, Listed, Listed, addSomeSA, AssocMap.lookup_merge]
  cases added.lookup type with
  | none => simp
  | some saSet =>
      cases exist.lookup type with
      | none => simp
      | some existSaSet => simp

theorem mem_addSomeSA (exist added : AssocMap Nat (Finset Int)) (type : Nat) :
    type ∈ addSomeSA exist added ↔ type ∈ exist ∨ type ∈ added := by
  simp only [mem_iff_lookup, addSomeSA, AssocMap.lookup_merge]
  cases added.lookup type <;> simp

/-- What holds of the tables once a call of one kind brings it holds of the extensions when one
of the calls does. -/
theorem extensionsOf_iff {α : Type} (P : ReportTables → Prop) (kind : α → ExtCall) (Q : α → Prop)
    (hempty : ¬ P ReportTables.empty)
    (hextend : ∀ tables call,
      P (tables.extend call) ↔ P tables ∨ ∃ added, kind added = call ∧ Q added)
    (calls : List ExtCall) :
    P (extensionsOf calls) ↔ ∃ added, kind added ∈ calls ∧ Q added := by
  have hfold : ∀ tables : ReportTables, P (calls.foldl ReportTables.extend tables) ↔
      P tables ∨ ∃ added, kind added ∈ calls ∧ Q added := by
    induction calls with
    | nil =>
        intro tables
        simp
    | cons call calls ih =>
        intro tables
        rw [List.foldl_cons, ih, hextend, or_assoc]
        refine or_congr Iff.rfl ?_
        simp only [List.mem_cons, or_and_right, exists_or]
  rw [extensionsOf, hfold]
  exact or_iff_right hempty

theorem extensionsOf_scb (calls : List ExtCall) (type : Nat) :
    type ∈ (extensionsOf calls).allowSCBReportRes ↔
      ∃ types, .AddAllowSCBReportResExt types ∈ calls ∧ type ∈ types := by
  refine extensionsOf_iff (type ∈ ·.allowSCBReportRes) .AddAllowSCBReportResExt (type ∈ ·)
    ?_ ?_ calls
  · simp [ReportTables.empty]
  · intro tables call
    cases call <;> simp [ReportTables.extend]

theorem extensionsOf_allSA (calls : List ExtCall) (type : Nat) :
    type ∈ (extensionsOf calls).allowAllSAReportRes ↔
      ∃ types, .AddAllowAllSAReportResExt types ∈ calls ∧ type ∈ types := by
  refine extensionsOf_iff (type ∈ ·.allowAllSAReportRes) .AddAllowAllSAReportResExt (type ∈ ·)
    ?_ ?_ calls
  · simp [ReportTables.empty]
  · intro tables call
    cases call <;> simp [ReportTables.extend]

theorem extensionsOf_someSA (calls : List ExtCall) (type : Nat) (uid : Int) :
    Listed (extensionsOf calls).allowSomeSAReportRes type uid ↔
      ∃ uids, .AddAllowSomeSAReportResExt uids ∈ calls ∧ Listed uids type uid := by
  refine extensionsOf_iff (Listed ·.allowSomeSAReportRes type uid) .AddAllowSomeSAReportResExt
    (Listed · type uid) ?_ ?_ calls
  · simp [Listed, ReportTables.empty]
  · intro tables call
    cases call <;> simp [ReportTables.extend, listed_addSomeSA]

theorem extensionsOf_someSA_types (calls : List ExtCall) (type : Nat) :
    type ∈ (extensionsOf calls).allowSomeSAReportRes ↔
      ∃ uids, .AddAllowSomeSAReportResExt uids ∈ calls ∧ type ∈ uids := by
  refine extensionsOf_iff (type ∈ ·.allowSomeSAReportRes) .AddAllowSomeSAReportResExt (type ∈ ·)
    ?_ ?_ calls
  · simp [ReportTables.empty]
  · intro tables call
    cases call <;> simp [ReportTables.extend, mem_addSomeSA]

theorem extensionsOf_allApp (calls : List ExtCall) (type : Nat) :
    type ∈ (extensionsOf calls).allowAllAppReportRes ↔
      ∃ types, .AddAllowAllAppReportResExt types ∈ calls ∧ type ∈ types := by
  refine extensionsOf_iff (type ∈ ·.allowAllAppReportRes) .AddAllowAllAppReportResExt (type ∈ ·)
    ?_ ?_ calls
  · simp [ReportTables.empty]
  · intro tables call
    cases call <;> simp [ReportTables.extend]

theorem extensionsOf_fgApp (calls : List ExtCall) (type : Nat) :
    type ∈ (extensionsOf calls).allowFgAppReportRes ↔
      ∃ types, .AddAllowFgAppReportResExt types ∈ calls ∧ type ∈ types := by
  refine extensionsOf_iff (type ∈ ·.allowFgAppReportRes) .AddAllowFgAppReportResExt (type ∈ ·)
    ?_ ?_ calls
  · simp [ReportTables.empty]
  · intro tables call
    cases call <;> simp [ReportTables.extend]

/-! ## The tables of the service -/

theorem lookup_InitAllowIpcReportRes (builtIn extensions : ReportTables) (type : Nat) :
    (InitAllowIpcReportRes builtIn extensions).allowSomeSAReportRes.lookup type =
      (builtIn.allowSomeSAReportRes.lookup type).or
        (extensions.allowSomeSAReportRes.lookup type) := by
  simp only [InitAllowIpcReportRes, ReportTables.addAll, ReportTables.empty, addAllEntries,
    AssocMap.lookup_merge]
  cases builtIn.allowSomeSAReportRes.lookup type with
  | none =>
      cases extensions.allowSomeSAReportRes.lookup type with
      | none => rfl
      | some extUids => rfl
  | some uids =>
      cases extensions.allowSomeSAReportRes.lookup type with
      | none => rfl
      | some extUids => rfl

theorem mem_someSA_InitAllowIpcReportRes (builtIn extensions : ReportTables) (type : Nat) :
    type ∈ (InitAllowIpcReportRes builtIn extensions).allowSomeSAReportRes ↔
      type ∈ builtIn.allowSomeSAReportRes ∨ type ∈ extensions.allowSomeSAReportRes := by
  simp only [← AList.lookup_isSome, lookup_InitAllowIpcReportRes, Option.isSome_or,
    Bool.or_eq_true]

/-- A uid is listed by the built-in table, or by the extensions for a type without built-in
uids. -/
theorem listed_InitAllowIpcReportRes (builtIn extensions : ReportTables) (type : Nat)
    (uid : Int) :
    Listed (InitAllowIpcReportRes builtIn extensions).allowSomeSAReportRes type uid ↔
      Listed builtIn.allowSomeSAReportRes type uid ∨
        type ∉ builtIn.allowSomeSAReportRes ∧ Listed extensions.allowSomeSAReportRes type uid := by
  simp only [Listed, lookup_InitAllowIpcReportRes, mem_iff_lookup]
  cases builtIn.allowSomeSAReportRes.lookup type with
  | none => simp
  | some uids => simp

theorem uidAllowed_iff_listed (tables : ReportTables) (type : Nat) (uid : Int)
    (htype : type ∈ tables.allowSomeSAReportRes) :
    uidAllowed tables type uid = true ↔ Listed tables.allowSomeSAReportRes type uid := by
  obtain ⟨uids, hlookup⟩ := (mem_iff_lookup _ _).mp htype
  rw [uidAllowed, Listed, hlookup]
  simp

/-! ## When the tables are united -/

theorem extensionsAgree_of_listed (builtIn : ReportTables) (calls : List ExtCall)
    (hlisted : ∀ type uid,
      Listed (InitAllowIpcReportRes builtIn (extensionsOf calls)).allowSomeSAReportRes type uid ↔
        Listed builtIn.allowSomeSAReportRes type uid ∨
          ∃ uids, .AddAllowSomeSAReportResExt uids ∈ calls ∧ Listed uids type uid) :
    ExtensionsAgree builtIn calls := by
  intro type uids hlookup extUids hcall uid hext
  have hunited := (hlisted type uid).mpr (.inr ⟨extUids, hcall, hext⟩)
  rw [listed_InitAllowIpcReportRes] at hunited
  obtain ⟨uids', hlookup', hmem⟩ | ⟨hno, -⟩ := hunited
  · rw [hlookup] at hlookup'
    obtain rfl := Option.some.inj hlookup'
    exact hmem
  · exact absurd ((mem_iff_lookup _ _).mpr ⟨uids, hlookup⟩) hno

theorem listed_of_extensionsAgree (builtIn : ReportTables) (calls : List ExtCall)
    (hagree : ExtensionsAgree builtIn calls) (type : Nat) (uid : Int) :
    Listed (InitAllowIpcReportRes builtIn (extensionsOf calls)).allowSomeSAReportRes type uid ↔
      Listed builtIn.allowSomeSAReportRes type uid ∨
        ∃ uids, .AddAllowSomeSAReportResExt uids ∈ calls ∧ Listed uids type uid := by
  rw [listed_InitAllowIpcReportRes, extensionsOf_someSA]
  refine or_congr_right' ?_
  intro hno
  refine and_iff_right_of_imp ?_
  rintro ⟨extUids, hcall, hext⟩ htype
  obtain ⟨uids, hlookup⟩ := (mem_iff_lookup _ _).mp htype
  exact hno ⟨uids, hlookup, hagree type uids hlookup extUids hcall uid hext⟩

/-- The tables are the unions of the built-in and the extension entries exactly when no extension
adds a uid to a type that has built-in uids. -/
theorem tablesUnited_iff (builtIn : ReportTables) (calls : List ExtCall) :
    TablesUnited builtIn calls (InitAllowIpcReportRes builtIn (extensionsOf calls)) ↔
      ExtensionsAgree builtIn calls := by
  constructor
  · intro h
    exact extensionsAgree_of_listed builtIn calls h.someSA
  · intro hagree
    have hlisted := listed_of_extensionsAgree builtIn calls hagree
    constructor
    case scb =>
      intro type
      rw [← extensionsOf_scb]
      simp [InitAllowIpcReportRes, ReportTables.addAll, ReportTables.empty]
    case allSA =>
      intro type
      rw [← extensionsOf_allSA]
      simp [InitAllowIpcReportRes, ReportTables.addAll, ReportTables.empty]
    case someSA => exact hlisted
    case someSA_types =>
      intro type
      rw [mem_someSA_InitAllowIpcReportRes, extensionsOf_someSA_types]
    case allApp =>
      intro type
      rw [← extensionsOf_allApp]
      simp [InitAllowIpcReportRes, ReportTables.addAll, ReportTables.empty]
    case fgApp =>
      intro type
      rw [← extensionsOf_fgApp]
      simp [InitAllowIpcReportRes, ReportTables.addAll, ReportTables.empty]
    case admitted =>
      intro type uid htype
      rw [uidAllowed_iff_listed _ type uid htype]
      exact hlisted type uid

/-- Uid 1000 may report type 5 by the built-in table; a plugin lets uid 2000 report it too. -/
def overlappingCalls : List ExtCall :=
  [.AddAllowSomeSAReportResExt (AList.insert 5 {2000} ∅)]

def overlappingBuiltIn : ReportTables :=
  { ReportTables.empty with allowSomeSAReportRes := AList.insert 5 {1000} ∅ }

/-- `insert` on the map keeps the built-in set, and uid 2000 is not admitted. -/
theorem tablesUnited_counterexample :
    uidAllowed (InitAllowIpcReportRes overlappingBuiltIn (extensionsOf overlappingCalls)) 5 2000 =
        false ∧
      ¬ TablesUnited overlappingBuiltIn overlappingCalls
        (InitAllowIpcReportRes overlappingBuiltIn (extensionsOf overlappingCalls)) := by
  have hdenied :
      uidAllowed (InitAllowIpcReportRes overlappingBuiltIn (extensionsOf overlappingCalls)) 5
        2000 = false := by
    decide
  refine ⟨hdenied, ?_⟩
  intro h
  have hadmitted := (h.admitted 5 2000 (by decide)).mpr
    (.inr ⟨AList.insert 5 {2000} ∅, by simp [overlappingCalls], {2000}, by decide, by decide⟩)
  rw [hdenied] at hadmitted
  exact absurd hadmitted (by decide)

end ResSched.Service
