import ResSched.Model.KillEventListener
import ResSched.Verification.Common.StringUtil
import Mathlib.Data.List.Induction

/-! # Kill reasons are filed under the uid their configuration names -/

namespace ResSched.KillEventListener

open CLibrary ResCommonUtil

/-- An element of the configuration with the text of a uid and reasons. -/
structure Names (config : Json String) (uidStr : String) (reasons : List (Json String)) : Prop where
  uid : config.find? UID = some (.string uidStr)
  reason : config.find? REASON = some (.array reasons)

/-- The element files reasons under no other uid than its own. -/
def FilesOwn (config : Json String) : Prop :=
  ∀ uid reasons, configOfSingleUid config = some (uid, reasons) →
    ∃ uidStr texts, Names config uidStr texts ∧ IsDecimal uidStr.toList uid

/-- The number read of a text is not an unsigned one of 32 bits, or the text goes on behind it. -/
def Misread (uidStr : String) : Prop :=
  ∃ number, ReadUnsigned uidStr number ∧
    (Char.ofNat 0 ∈ uidStr.toList ∨ number < 0 ∨ UINT_MAX < number)

/-- The elements of a configuration. -/
def elements (reasonsConfig : Json String) : List (Json String) :=
  match reasonsConfig.find? RESULT with
  | some (.array result) => result
  | _ => []

/-! ## One element -/

theorem configOfSingleUid_eq_some_iff (config : Json String) (uid : Int)
    (reasons : Finset String) :
    configOfSingleUid config = some (uid, reasons) ↔
      ∃ uidStr texts, Names config uidStr texts ∧ StrToUInt32 uidStr 0 = (true, uid) ∧
        reasons = (texts.filterMap Json.string?).toFinset := by
  constructor
  · intro h
    rw [configOfSingleUid] at h
    split at h
    · next uidStr texts huid hreason =>
        dsimp only at h
        split_ifs at h with hint
        obtain ⟨rfl, rfl⟩ := Prod.mk.inj (Option.some.inj h)
        refine ⟨uidStr, texts, ⟨huid, hreason⟩, ?_, rfl⟩
        rw [← hint]
    · cases h
  · rintro ⟨uidStr, texts, hnames, hread, rfl⟩
    rw [configOfSingleUid, hnames.uid, hnames.reason]
    dsimp only
    rw [hread, if_pos rfl]

theorem Names.unique {config : Json String} {uidStr uidStr' : String}
    {texts texts' : List (Json String)} (h : Names config uidStr texts)
    (h' : Names config uidStr' texts') : uidStr = uidStr' ∧ texts = texts' := by
  have huid := h.uid.symm.trans h'.uid
  have hreason := h.reason.symm.trans h'.reason
  rw [Option.some.injEq, Json.string.injEq] at huid
  rw [Option.some.injEq, Json.array.injEq] at hreason
  exact ⟨huid, hreason⟩

/-- An element files under its own uid unless it has reasons and its uid is misread. -/
theorem filesOwn_iff (config : Json String) :
    FilesOwn config ↔ ¬ ∃ uidStr texts, Names config uidStr texts ∧ Misread uidStr := by
  constructor
  · rintro h ⟨uidStr, texts, hnames, hmisread⟩
    refine (@lowBits_iff 32 UINT_MAX uidStr rfl).mp ?_ hmisread
    intro read hread
    have htakes := (strToUInt32_takes uidStr 0 _).mpr ⟨read, hread, rfl⟩
    obtain ⟨uidStr', texts', hnames', hown⟩ :=
      h _ _ ((configOfSingleUid_eq_some_iff ..).mpr ⟨uidStr, texts, hnames, htakes, rfl⟩)
    rw [(hnames.unique hnames').1]
    exact hown
  · intro h uid reasons hfiled
    obtain ⟨uidStr, texts, hnames, htakes, -⟩ := (configOfSingleUid_eq_some_iff ..).mp hfiled
    obtain ⟨read, hread, rfl⟩ := (strToUInt32_takes uidStr 0 uid).mp htakes
    have hlow := (@lowBits_iff 32 UINT_MAX uidStr rfl).mpr
      fun hmisread => h ⟨uidStr, texts, hnames, hmisread⟩
    exact ⟨uidStr, texts, hnames, hlow read hread⟩

/-! ## The configurations of a run -/

/-- The reasons of a uid are the ones of the last element filed under it. -/
theorem lookup_ParseKillConfig (killReasonMap : KillReasons) (reasonsConfig : Json String)
    {result : List (Json String)} (hresult : reasonsConfig.find? RESULT = some (.array result))
    (uid : Int) :
    (ParseKillConfig killReasonMap reasonsConfig).lookup uid =
      ((result.filterMap configOfSingleUid).reverse.find? fun filed => filed.1 = uid).map
        Prod.snd := by
  rw [ParseKillConfig, hresult]
  dsimp only
  rw [AssocMap.lookup_foldl_insert, AList.lookup_empty, Option.or_none]

/-- The reasons of a uid come from an element that names it. -/
def OwnReasons (configs : List (Json String)) (killReasonMap : KillReasons) : Prop :=
  ∀ uid reasons, killReasonMap.lookup uid = some reasons →
    ∃ reasonsConfig ∈ configs, ∃ config ∈ elements reasonsConfig,
      configOfSingleUid config = some (uid, reasons) ∧
        ∃ uidStr texts, Names config uidStr texts ∧ IsDecimal uidStr.toList uid

theorem ParseKillConfig_keeps {configs : List (Json String)} {killReasonMap : KillReasons}
    (hkept : OwnReasons configs killReasonMap) (reasonsConfig : Json String)
    (hown : ∀ config ∈ elements reasonsConfig, FilesOwn config) :
    OwnReasons (configs ++ [reasonsConfig]) (ParseKillConfig killReasonMap reasonsConfig) := by
  intro uid reasons hlookup
  by_cases harray : ∃ result, reasonsConfig.find? RESULT = some (.array result)
  · obtain ⟨result, hresult⟩ := harray
    rw [lookup_ParseKillConfig killReasonMap reasonsConfig hresult,
      Option.map_eq_some_iff] at hlookup
    obtain ⟨⟨uid', reasons'⟩, hfound, rfl⟩ := hlookup
    have huid : uid' = uid := by simpa using List.find?_some hfound
    have hmem := List.mem_of_find?_eq_some hfound
    rw [List.mem_reverse, List.mem_filterMap] at hmem
    obtain ⟨config, hconfig, hfiled⟩ := hmem
    have helement : config ∈ elements reasonsConfig := by
      rw [elements, hresult]
      exact hconfig
    subst huid
    exact ⟨reasonsConfig, by simp, config, helement, hfiled, hown config helement _ _ hfiled⟩
  · have hsame : ParseKillConfig killReasonMap reasonsConfig = killReasonMap := by
      rw [ParseKillConfig]
      split
      · next result hresult => exact absurd ⟨result, hresult⟩ harray
      · rfl
    rw [hsame] at hlookup
    obtain ⟨earlier, hearlier, hrest⟩ := hkept uid reasons hlookup
    exact ⟨earlier, List.mem_append_left _ hearlier, hrest⟩

theorem ParseKillConfig_run (configs : List (Json String))
    (hown : ∀ reasonsConfig ∈ configs, ∀ config ∈ elements reasonsConfig, FilesOwn config) :
    OwnReasons configs (configs.foldl ParseKillConfig ∅) := by
  induction configs using List.reverseRecOn with
  | nil =>
      intro uid reasons hlookup
      cases hlookup
  | append_singleton configs reasonsConfig ih =>
      rw [List.foldl_append]
      refine ParseKillConfig_keeps (ih fun earlier hearlier => ?_) reasonsConfig ?_
      · exact hown earlier (List.mem_append_left _ hearlier)
      · exact hown reasonsConfig (by simp)

/-! ## The result -/

/-- The converters take a number behind which a null character hides the rest of the string; the
unsigned ones also take every number with a magnitude of 64 bits, for its low bits. A configuration
without a uid of this kind files reasons under the uids it names, in every run. -/
theorem converters_exact_iff (value : String) (config : Json String)
    (configs : List (Json String)) :
    ((Exact INT_MIN INT_MAX StrToInt32 value ↔
        ¬ ∃ number, HidesTail value number ∧ INT_MIN ≤ number ∧ number ≤ INT_MAX) ∧
      (Exact INT64_MIN INT64_MAX StrToInt64 value ↔
        ¬ ∃ number, HidesTail value number ∧ INT64_MIN ≤ number ∧ number ≤ INT64_MAX) ∧
      (Exact 0 UINT_MAX StrToUInt32 value ↔
        ¬ ∃ number, ReadUnsigned value number ∧
          (Char.ofNat 0 ∈ value.toList ∨ number < 0 ∨ UINT_MAX < number)) ∧
      (Exact 0 UINT64_MAX StrToUInt64 value ↔
        ¬ ∃ number, ReadUnsigned value number ∧
          (Char.ofNat 0 ∈ value.toList ∨ number < 0 ∨ UINT64_MAX < number))) ∧
    (FilesOwn config ↔ ¬ ∃ uidStr texts, Names config uidStr texts ∧ Misread uidStr) ∧
      ((∀ reasonsConfig ∈ configs, ∀ config ∈ elements reasonsConfig,
          ¬ ∃ uidStr texts, Names config uidStr texts ∧ Misread uidStr) →
        OwnReasons configs (configs.foldl ParseKillConfig ∅)) := by
  refine ⟨⟨strToInt32_exact_iff value, strToInt64_exact_iff value, strToUInt32_exact_iff value,
    strToUInt64_exact_iff value⟩, filesOwn_iff config, ?_⟩
  intro hnames
  refine ParseKillConfig_run configs fun reasonsConfig hmem config hconfig => ?_
  exact (filesOwn_iff config).mpr (hnames reasonsConfig hmem config hconfig)

def negativeUid : Json String :=
  .object [(UID, .string "-1"), (REASON, .array [.string "LOW_MEMORY"])]

/-- The uid `-1` is taken for the greatest one, and `4294967296` for the one of the root. -/
theorem negativeUid_misfiled :
    StrToUInt32 "-1" 0 = (true, 4294967295) ∧ StrToUInt32 "4294967296" 7 = (true, 0) ∧
      ¬ Exact 0 UINT_MAX StrToUInt32 "-1" ∧
      (ParseKillConfig ∅ (.object [(RESULT, .array [negativeUid])])).lookup 4294967295 =
        some {"LOW_MEMORY"} ∧
      ¬ FilesOwn negativeUid := by
  have htaken : StrToUInt32 "-1" 0 = (true, 4294967295) := by decide
  have hnone (number : Int) (h : IsDecimal "-1".toList number) : number = -1 :=
    h.unique ((readDecimal_eq_some_iff ..).mp (by decide))
  refine ⟨htaken, by decide, ?_, by decide +kernel, ?_⟩
  · intro hexact
    have hrefused := hexact.refused 0 fun number hdecimal hrange => by
      rw [hnone number hdecimal] at hrange
      exact absurd hrange.1 (by decide)
    rw [htaken] at hrefused
    exact absurd hrefused (by decide)
  · intro hown
    obtain ⟨uidStr, texts, hnames, hdecimal⟩ := hown 4294967295 {"LOW_MEMORY"} (by decide +kernel)
    have huid := hnames.uid
    rw [negativeUid, Json.find?] at huid
    obtain rfl : "-1" = uidStr := by simpa [UID] using huid
    exact absurd (hnone _ hdecimal) (by decide)

end ResSched.KillEventListener
