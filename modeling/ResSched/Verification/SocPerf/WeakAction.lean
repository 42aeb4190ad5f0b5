import ResSched.Verification.SocPerf.Focus
import Mathlib.Data.List.DropRight
import Mathlib.Data.List.Induction

/-! # Weak interaction against what it is to follow -/

namespace ResSched.SocPerf.Focus

open CLibrary Transition

/-- Weak interaction is on exactly when it is enabled, no focused application is a key application
and no custom game has the focus, and the custom game flag says whether one has. -/
def WeakFollows (env : External) (plugin : Plugin) : Prop :=
  (plugin.weakActionStatus_ = true ↔
    plugin.weakActionEnable_ = true ∧
      (∀ uid ∈ plugin.focusAppUids_,
        isKeyEntry env plugin (plugin.uidToAppMsgMap_.lookup uid) = false) ∧
      plugin.focusCustGameUids_ = ∅) ∧
  (plugin.custGameState_ = true ↔ plugin.focusCustGameUids_ ≠ ∅)

instance (env : External) (plugin : Plugin) : Decidable (WeakFollows env plugin) :=
  inferInstanceAs (Decidable (_ ∧ _))

/-! ## The recomputed status -/

/-- The custom game flag says whether a custom game has the focus. -/
def CustFollows (plugin : Plugin) : Prop :=
  plugin.custGameState_ = true ↔ plugin.focusCustGameUids_ ≠ ∅

theorem CustFollows.eq_false_iff {plugin : Plugin} (h : CustFollows plugin) :
    plugin.custGameState_ = false ↔ plugin.focusCustGameUids_ = ∅ := by
  rw [← not_iff_not, Bool.not_eq_false]
  exact h

/-- The status is the one a recomputation would come to. -/
def Settled (env : External) (plugin : Plugin) : Prop :=
  plugin.weakActionStatus_ = weakStatus env plugin

theorem weakFollows_iff_settled (env : External) (plugin : Plugin) :
    WeakFollows env plugin ↔ CustFollows plugin ∧ Settled env plugin := by
  rw [WeakFollows, and_comm]
  refine and_congr_right fun hcust => ?_
  have hsettled : Settled env plugin ↔
      (plugin.weakActionStatus_ = true ↔ weakStatus env plugin = true) := Bool.eq_iff_iff
  rw [hsettled, weakStatus_iff, CustFollows.eq_false_iff hcust]
  constructor
  · intro h
    exact h.trans ⟨fun ⟨he, hk, hc⟩ => ⟨hc, he, hk⟩, fun ⟨hc, he, hk⟩ => ⟨he, hk, hc⟩⟩
  · intro h
    exact h.trans ⟨fun ⟨hc, he, hk⟩ => ⟨he, hk, hc⟩, fun ⟨he, hk, hc⟩ => ⟨hc, he, hk⟩⟩

theorem settled_updateWeakActionStatus (env : External) (plugin : Plugin) :
    Settled env (UpdateWeakActionStatus env plugin) := by
  rw [updateWeakActionStatus_eq]
  exact rfl

/-! ## Entries that come after the recomputation -/

/-- Another entry for a uid leaves the status right unless the uid has the focus, nothing else
keeps weak interaction off, and the entry changes whether the application is a key one. -/
theorem settled_withEntry_iff (env : External) (plugin : Plugin) (uid : Int)
    (entry : Option AppKeyMessage) (h : Settled env plugin) :
    Settled env (plugin.withEntry uid entry) ↔
      (plugin.custGameState_ = false → plugin.weakActionEnable_ = true →
        uid ∈ plugin.focusAppUids_ →
          (∀ other ∈ plugin.focusAppUids_, other ≠ uid →
            isKeyEntry env plugin (plugin.uidToAppMsgMap_.lookup other) = false) →
          isKeyEntry env plugin entry =
            isKeyEntry env plugin (plugin.uidToAppMsgMap_.lookup uid)) := by
  have hkeys : ((∀ a ∈ plugin.focusAppUids_,
        isKeyEntry env plugin ((plugin.withEntry uid entry).uidToAppMsgMap_.lookup a) = false) ↔
      ∀ a ∈ plugin.focusAppUids_,
        isKeyEntry env plugin (plugin.uidToAppMsgMap_.lookup a) = false) ↔
      (uid ∈ plugin.focusAppUids_ →
        (∀ other ∈ plugin.focusAppUids_, other ≠ uid →
          isKeyEntry env plugin (plugin.uidToAppMsgMap_.lookup other) = false) →
        isKeyEntry env plugin entry =
          isKeyEntry env plugin (plugin.uidToAppMsgMap_.lookup uid)) := by
    rw [AllOf.forall_mem_congr_iff uid]
    · rw [lookup_withEntry, if_pos rfl]
      refine imp_congr_right fun _ => imp_congr_right fun _ => ?_
      cases isKeyEntry env plugin entry <;>
        cases isKeyEntry env plugin (plugin.uidToAppMsgMap_.lookup uid) <;> decide
    · intro other hother
      rw [lookup_withEntry, if_neg hother]
  have hstatus : Settled env (plugin.withEntry uid entry) ↔
      weakStatus env (plugin.withEntry uid entry) = weakStatus env plugin := by
    rw [← show plugin.weakActionStatus_ = weakStatus env plugin from h]
    exact eq_comm
  rw [hstatus, Bool.eq_iff_iff, weakStatus_iff env (plugin.withEntry uid entry),
    weakStatus_iff, ← hkeys]
  show (plugin.custGameState_ = false ∧ plugin.weakActionEnable_ = true ∧ _ ↔
    plugin.custGameState_ = false ∧ plugin.weakActionEnable_ = true ∧ _) ↔ _
  rw [and_congr_right_iff]
  refine imp_congr_right fun _ => ?_
  rw [and_congr_right_iff]
  exact Iff.rfl

/-! ## Cloud configurations -/

/-- A sub item that recomputes the status. -/
def isEnableItem (sub : SubItem) : Bool :=
  sub.name = ENABLE_STRING && sub.value ≠ ""

/-- What a sub item leaves in the lists of key applications. -/
def loadKey (plugin : Plugin) (sub : SubItem) : Plugin :=
  if sub.name = ENABLE_STRING then plugin
  else if sub.name = BUNDLE_NAME then AddKeyAppName plugin sub.value
  else if sub.name = KEY_APP_TYPE then AddKeyAppType plugin sub.value
  else plugin

def loadEnable (enable : Bool) (sub : SubItem) : Bool :=
  if isEnableItem sub then decide (atoi sub.value ≠ 0) else enable

/-- The plugin with the lists and the switch that sub items leave. -/
def Plugin.loaded (plugin : Plugin) (subs : List SubItem) : Plugin :=
  { subs.foldl loadKey plugin with
    weakActionEnable_ := subs.foldl loadEnable plugin.weakActionEnable_ }

/-- The sub items up to the last one that recomputes the status. -/
def upToEnable (subs : List SubItem) : List SubItem :=
  subs.rdropWhile fun sub => !isEnableItem sub

theorem loadWeakSubItem_eq (env : External) (plugin : Plugin) (sub : SubItem) :
    loadWeakSubItem env plugin sub =
      if isEnableItem sub then
        UpdateWeakActionStatus env
          { plugin with weakActionEnable_ := decide (atoi sub.value ≠ 0) }
      else loadKey plugin sub := by
  rw [loadWeakSubItem, SetWeakActionEnable, loadKey, isEnableItem]
  by_cases hname : sub.name = ENABLE_STRING
  · by_cases hvalue : sub.value = ""
    · simp [hname, hvalue]
    · simp [hname, hvalue]
  · simp [hname]

theorem loadKey_of_isEnableItem (plugin : Plugin) (sub : SubItem) (h : isEnableItem sub = true) :
    loadKey plugin sub = plugin := by
  rw [isEnableItem, Bool.and_eq_true, decide_eq_true_eq] at h
  rw [loadKey, if_pos h.1]

theorem loadKey_withEnable (plugin : Plugin) (sub : SubItem) (enable : Bool) :
    loadKey { plugin with weakActionEnable_ := enable } sub =
      { loadKey plugin sub with weakActionEnable_ := enable } := by
  rw [loadKey, loadKey, AddKeyAppName, AddKeyAppName, AddKeyAppType, AddKeyAppType]
  split_ifs <;> rfl

theorem loadKey_withStatus (plugin : Plugin) (sub : SubItem) (status : Bool)
    (calls : List Call) :
    loadKey { plugin with weakActionStatus_ := status, calls := calls } sub =
      { loadKey plugin sub with weakActionStatus_ := status, calls := calls } := by
  rw [loadKey, loadKey, AddKeyAppName, AddKeyAppName, AddKeyAppType, AddKeyAppType]
  split_ifs <;> rfl

theorem loaded_withCalls (plugin : Plugin) (subs : List SubItem) (calls : List Call) :
    Plugin.loaded { plugin with calls := calls } subs =
      { plugin.loaded subs with calls := calls } := by
  have hkeys : subs.foldl loadKey { plugin with calls := calls } =
      { subs.foldl loadKey plugin with calls := calls } := by
    induction subs generalizing plugin with
    | nil => rfl
    | cons sub subs ih =>
        have hkey : loadKey { plugin with calls := calls } sub =
            { loadKey plugin sub with calls := calls } := by
          rw [loadKey, loadKey, AddKeyAppName, AddKeyAppName, AddKeyAppType, AddKeyAppType]
          split_ifs <;> rfl
        rw [List.foldl_cons, List.foldl_cons, hkey]
        exact ih (loadKey plugin sub)
  rw [Plugin.loaded, hkeys]
  rfl

theorem loaded_concat (plugin : Plugin) (subs : List SubItem) (sub : SubItem) :
    plugin.loaded (subs ++ [sub]) =
      if isEnableItem sub then
        { plugin.loaded subs with weakActionEnable_ := decide (atoi sub.value ≠ 0) }
      else loadKey (plugin.loaded subs) sub := by
  rw [Plugin.loaded, List.foldl_concat, List.foldl_concat, loadEnable]
  cases henable : isEnableItem sub with
  | true =>
      rw [loadKey_of_isEnableItem _ _ henable]
      rfl
  | false => exact (loadKey_withEnable _ sub _).symm

theorem upToEnable_concat (subs : List SubItem) (sub : SubItem) :
    upToEnable (subs ++ [sub]) =
      if isEnableItem sub then subs ++ [sub] else upToEnable subs := by
  rw [upToEnable, List.rdropWhile_concat, upToEnable]
  cases isEnableItem sub <;> rfl

theorem foldl_loadEnable_upToEnable (enable : Bool) (subs : List SubItem) :
    (upToEnable subs).foldl loadEnable enable = subs.foldl loadEnable enable := by
  induction subs using List.reverseRecOn with
  | nil => rfl
  | append_singleton subs sub ih =>
      rw [upToEnable_concat]
      cases henable : isEnableItem sub with
      | true => rfl
      | false =>
          rw [List.foldl_concat, loadEnable, henable]
          exact ih

/-- Loading sub items leaves the status as of the last one that recomputes it. -/
theorem foldl_loadWeakSubItem (env : External) (plugin : Plugin) (subs : List SubItem)
    (h : Settled env plugin) :
    ∃ calls, subs.foldl (loadWeakSubItem env) plugin =
      { plugin.loaded subs with
        weakActionStatus_ := weakStatus env (plugin.loaded (upToEnable subs))
        calls := calls } := by
  induction subs using List.reverseRecOn with
  | nil =>
      refine ⟨plugin.calls, ?_⟩
      show plugin = { plugin with weakActionStatus_ := weakStatus env plugin }
      rw [← show plugin.weakActionStatus_ = weakStatus env plugin from h]
  | append_singleton subs sub ih =>
      obtain ⟨calls, ih⟩ := ih
      rw [List.foldl_concat, ih, loadWeakSubItem_eq, upToEnable_concat]
      have hloaded := loaded_concat plugin subs sub
      cases henable : isEnableItem sub with
      | true =>
          rw [henable, if_pos rfl] at hloaded
          rw [if_pos rfl, if_pos rfl, updateWeakActionStatus_eq, hloaded]
          exact ⟨_, rfl⟩
      | false =>
          rw [henable, if_neg Bool.false_ne_true] at hloaded
          rw [hloaded]
          exact ⟨calls, loadKey_withStatus (plugin.loaded subs) sub _ _⟩

theorem loadKey_fields (plugin : Plugin) (sub : SubItem) :
    (loadKey plugin sub).focusAppUids_ = plugin.focusAppUids_ ∧
      (loadKey plugin sub).uidToAppMsgMap_ = plugin.uidToAppMsgMap_ ∧
        (loadKey plugin sub).custGameState_ = plugin.custGameState_ ∧
          (loadKey plugin sub).focusCustGameUids_ = plugin.focusCustGameUids_ := by
  rw [loadKey, AddKeyAppName, AddKeyAppType]
  split_ifs <;> exact ⟨rfl, rfl, rfl, rfl⟩

theorem loaded_fields (plugin : Plugin) (subs : List SubItem) :
    (plugin.loaded subs).focusAppUids_ = plugin.focusAppUids_ ∧
      (plugin.loaded subs).uidToAppMsgMap_ = plugin.uidToAppMsgMap_ ∧
        (plugin.loaded subs).custGameState_ = plugin.custGameState_ ∧
          (plugin.loaded subs).focusCustGameUids_ = plugin.focusCustGameUids_ := by
  show (subs.foldl loadKey plugin).focusAppUids_ = _ ∧
    (subs.foldl loadKey plugin).uidToAppMsgMap_ = _ ∧
      (subs.foldl loadKey plugin).custGameState_ = _ ∧
        (subs.foldl loadKey plugin).focusCustGameUids_ = _
  induction subs generalizing plugin with
  | nil => exact ⟨rfl, rfl, rfl, rfl⟩
  | cons sub subs ih =>
      obtain ⟨hfocus, hmap, hcust, huids⟩ := loadKey_fields plugin sub
      rw [← hfocus, ← hmap, ← hcust, ← huids]
      exact ih (loadKey plugin sub)

/-- The lists of key applications only grow. -/
theorem loadKey_subset (plugin : Plugin) (sub : SubItem) :
    plugin.keyAppName_ ⊆ (loadKey plugin sub).keyAppName_ ∧
      plugin.keyAppType_ ⊆ (loadKey plugin sub).keyAppType_ := by
  rw [loadKey, AddKeyAppName, AddKeyAppType]
  split_ifs
  · exact ⟨Finset.Subset.refl _, Finset.Subset.refl _⟩
  · exact ⟨Finset.Subset.refl _, Finset.Subset.refl _⟩
  · exact ⟨Finset.subset_insert _ _, Finset.Subset.refl _⟩
  · exact ⟨Finset.Subset.refl _, Finset.Subset.refl _⟩
  · exact ⟨Finset.Subset.refl _, Finset.subset_insert _ _⟩
  · exact ⟨Finset.Subset.refl _, Finset.Subset.refl _⟩

theorem foldl_loadKey_subset (plugin : Plugin) (subs : List SubItem) :
    plugin.keyAppName_ ⊆ (subs.foldl loadKey plugin).keyAppName_ ∧
      plugin.keyAppType_ ⊆ (subs.foldl loadKey plugin).keyAppType_ := by
  induction subs generalizing plugin with
  | nil => exact ⟨Finset.Subset.refl _, Finset.Subset.refl _⟩
  | cons sub subs ih =>
      obtain ⟨hname, htype⟩ := loadKey_subset plugin sub
      obtain ⟨hnames, htypes⟩ := ih (loadKey plugin sub)
      exact ⟨hname.trans hnames, htype.trans htypes⟩

theorem isKeyEntry_mono (env : External) {plugin plugin' : Plugin} (entry : Option AppKeyMessage)
    (hname : plugin.keyAppName_ ⊆ plugin'.keyAppName_)
    (htype : plugin.keyAppType_ ⊆ plugin'.keyAppType_)
    (h : isKeyEntry env plugin entry = true) : isKeyEntry env plugin' entry = true := by
  cases entry with
  | none => exact h
  | some appMsg =>
      simp only [isKeyEntry, isKeyMessage, Bool.or_eq_true, Bool.and_eq_true,
        decide_eq_true_eq] at h ⊢
      rcases h with ⟨hlisted, hsigned⟩ | hlisted
      · exact Or.inl ⟨hname hlisted, hsigned⟩
      · exact Or.inr (htype hlisted)

/-- A configuration leaves the status right unless the lists up to the last recomputation find no
focused key application and the rest of the lists do. -/
theorem settled_loadWeakInterAction_iff (env : External) (plugin : Plugin)
    (itemLists : PluginConfig) (h : Settled env plugin) :
    Settled env (LoadWeakInterAction env plugin itemLists) ↔
      (plugin.custGameState_ = false →
        (plugin.loaded (weakSubItems itemLists)).weakActionEnable_ = true →
          (∀ uid ∈ plugin.focusAppUids_,
            isKeyEntry env (plugin.loaded (upToEnable (weakSubItems itemLists)))
              (plugin.uidToAppMsgMap_.lookup uid) = false) →
            ∀ uid ∈ plugin.focusAppUids_,
              isKeyEntry env (plugin.loaded (weakSubItems itemLists))
                (plugin.uidToAppMsgMap_.lookup uid) = false) := by
  obtain ⟨calls, hload⟩ := foldl_loadWeakSubItem env plugin (weakSubItems itemLists) h
  rw [loadWeakInterAction_eq, hload]
  generalize weakSubItems itemLists = subs
  show weakStatus env (plugin.loaded (upToEnable subs)) = weakStatus env (plugin.loaded subs) ↔ _
  obtain ⟨hfocus, hmap, hcust, -⟩ := loaded_fields plugin subs
  obtain ⟨hfocusUp, hmapUp, hcustUp, -⟩ := loaded_fields plugin (upToEnable subs)
  have henable : (plugin.loaded (upToEnable subs)).weakActionEnable_ =
      (plugin.loaded subs).weakActionEnable_ := foldl_loadEnable_upToEnable _ _
  obtain ⟨rest, hrest⟩ : upToEnable subs <+: subs := List.rdropWhile_prefix _ _
  have hgrow : ∀ entry, isKeyEntry env (plugin.loaded subs) entry = false →
      isKeyEntry env (plugin.loaded (upToEnable subs)) entry = false := by
    intro entry hentry
    obtain ⟨hname, htype⟩ := foldl_loadKey_subset ((upToEnable subs).foldl loadKey plugin) rest
    rw [← List.foldl_append, hrest] at hname htype
    rw [← Bool.not_eq_true] at hentry ⊢
    exact fun hkey => hentry (isKeyEntry_mono env entry hname htype hkey)
  rw [Bool.eq_iff_iff, weakStatus_iff, weakStatus_iff, hfocus, hmap, hcust, hfocusUp, hmapUp,
    hcustUp, henable, and_congr_right_iff]
  refine imp_congr_right fun _ => ?_
  rw [and_congr_right_iff]
  refine imp_congr_right fun _ => ?_
  exact ⟨Iff.mp, fun hto => ⟨hto, fun hall uid huid => hgrow _ (hall uid huid)⟩⟩

/-! ## What an event has to keep -/

/-- The entry an event leaves to the end does not change whether its application is a key one,
if this decides about weak interaction. -/
def LateEntryKeepsWeak (env : External) (plugin : Plugin) (event : Event) : Prop :=
  ∀ uid entry, lateEntry env plugin event = some (uid, entry) →
    (event.isFocus = true ∨ uid ∈ plugin.focusAppUids_) →
      plugin.weakActionEnable_ = true → plugin.focusCustGameUids_ = ∅ →
        (∀ other ∈ plugin.focusAppUids_, other ≠ uid →
          isKeyEntry env plugin (plugin.uidToAppMsgMap_.lookup other) = false) →
        isKeyEntry env plugin entry = isKeyEntry env plugin (plugin.uidToAppMsgMap_.lookup uid)

/-- No focused application is a key one only by what a configuration lists after its last switch,
if this decides about weak interaction. -/
def ConfigKeepsWeak (env : External) (plugin : Plugin) (event : Event) : Prop :=
  ∀ itemLists, event = .HandleRssCloudConfigUpdate (some itemLists) →
    (plugin.loaded (weakSubItems itemLists)).weakActionEnable_ = true →
      plugin.focusCustGameUids_ = ∅ →
        (∀ uid ∈ plugin.focusAppUids_,
          isKeyEntry env (plugin.loaded (upToEnable (weakSubItems itemLists)))
            (plugin.uidToAppMsgMap_.lookup uid) = false) →
        ∀ uid ∈ plugin.focusAppUids_,
          isKeyEntry env (plugin.loaded (weakSubItems itemLists))
            (plugin.uidToAppMsgMap_.lookup uid) = false

def KeepsWeak (env : External) (plugin : Plugin) (event : Event) : Prop :=
  LateEntryKeepsWeak env plugin event ∧ ConfigKeepsWeak env plugin event

/-! ## One event -/

theorem custFollows_updateWeakActionStatus_iff (env : External) (plugin : Plugin) :
    CustFollows (UpdateWeakActionStatus env plugin) ↔ CustFollows plugin := by
  rw [updateWeakActionStatus_eq]
  exact Iff.rfl

theorem custFollows_withLate_iff (plugin : Plugin) (late : Option (Int × Option AppKeyMessage)) :
    CustFollows (plugin.withLate late) ↔ CustFollows plugin := by
  cases late <;> exact Iff.rfl

theorem settled_withLate_iff (env : External) (plugin : Plugin)
    (late : Option (Int × Option AppKeyMessage)) (h : Settled env plugin) :
    Settled env (plugin.withLate late) ↔
      ∀ uid entry, late = some (uid, entry) → plugin.custGameState_ = false →
        plugin.weakActionEnable_ = true → uid ∈ plugin.focusAppUids_ →
          (∀ other ∈ plugin.focusAppUids_, other ≠ uid →
            isKeyEntry env plugin (plugin.uidToAppMsgMap_.lookup other) = false) →
          isKeyEntry env plugin entry =
            isKeyEntry env plugin (plugin.uidToAppMsgMap_.lookup uid) := by
  cases late with
  | none => exact iff_of_true h nofun
  | some late =>
      obtain ⟨uid, entry⟩ := late
      rw [show plugin.withLate (some (uid, entry)) = plugin.withEntry uid entry from rfl,
        settled_withEntry_iff env plugin uid entry h]
      constructor
      · rintro hkeeps _ _ ⟨⟩
        exact hkeeps
      · intro hkeeps
        exact hkeeps uid entry rfl

theorem custFollows_updateCustGameState (env : External) (plugin : Plugin) (value uid : Int)
    (h : CustFollows plugin) : CustFollows (UpdateCustGameState env plugin value uid) := by
  rw [UpdateCustGameState, custFollows_updateWeakActionStatus_iff]
  split_ifs with hfocus hlost
  · exact iff_of_true rfl (Finset.insert_ne_empty uid _)
  · show (if (plugin.focusCustGameUids_.erase uid).card = 0 then false
      else plugin.custGameState_) = true ↔ plugin.focusCustGameUids_.erase uid ≠ ∅
    by_cases hempty : (plugin.focusCustGameUids_.erase uid).card = 0
    · rw [if_pos hempty]
      exact iff_of_false Bool.false_ne_true (not_not.mpr (Finset.card_eq_zero.mp hempty))
    · rw [if_neg hempty]
      rw [Finset.card_eq_zero] at hempty
      refine iff_of_true (h.mpr fun hnone => hempty ?_) hempty
      rw [hnone, Finset.erase_empty]
  · exact h

/-- An event that leaves no entry to the end and is no configuration has nothing to keep. -/
theorem keepsWeak_of_quiet (env : External) (plugin : Plugin) (event : Event)
    (hlate : lateEntry env plugin event = none)
    (hconfig : ∀ itemLists, event ≠ .HandleRssCloudConfigUpdate (some itemLists)) :
    KeepsWeak env plugin event := by
  refine ⟨fun uid entry hsome => ?_, fun itemLists hevent => absurd hevent (hconfig itemLists)⟩
  rw [hlate] at hsome
  exact absurd hsome nofun

/-- An event that does nothing but enter an application late. -/
theorem weak_withLate (env : External) (plugin : Plugin) (event : Event)
    (hfocus : event.isFocus = false)
    (hconfig : ∀ itemLists, event ≠ .HandleRssCloudConfigUpdate (some itemLists))
    (hcust : CustFollows plugin) (hsettled : Settled env plugin) :
    CustFollows (plugin.withLate (lateEntry env plugin event)) ∧
      (Settled env (plugin.withLate (lateEntry env plugin event)) ↔
        KeepsWeak env plugin event) := by
  refine ⟨(custFollows_withLate_iff _ _).mpr hcust, ?_⟩
  rw [settled_withLate_iff env plugin _ hsettled, KeepsWeak, LateEntryKeepsWeak]
  rw [hcust.eq_false_iff, hfocus]
  constructor
  · intro h
    refine ⟨fun uid entry hlate hfocused henable hnone => ?_, fun itemLists hevent => ?_⟩
    · exact h uid entry hlate hnone henable (hfocused.resolve_left Bool.false_ne_true)
    · exact absurd hevent (hconfig itemLists)
  · intro h uid entry hlate hnone henable hfocused
    exact h.1 uid entry hlate (Or.inr hfocused) henable hnone

/-- A focus has entered its application once the status has been recomputed. -/
theorem weak_handleWindowFocus (env : External) (plugin : Plugin) (data : ResData)
    (hcust : CustFollows plugin) (hsettled : Settled env plugin) :
    CustFollows (HandleWindowFocus env plugin data) ∧
      (Settled env (HandleWindowFocus env plugin data) ↔
        KeepsWeak env plugin (.HandleWindowFocus data)) := by
  rcases handleWindowFocus_cases env plugin data with
    ⟨hnone, heq⟩ | ⟨hvalue, huid⟩ | ⟨hnone, heq⟩
  · rw [heq]
    exact ⟨hcust, iff_of_true hsettled (keepsWeak_of_quiet env plugin _ hnone nofun)⟩
  · obtain ⟨types, heq⟩ := handleWindowFocus_focus env plugin data hvalue huid
    have hlate := settled_withLate_iff env (plugin.focused env (GetUidByData data.payload))
      (lateEntry env plugin (.HandleWindowFocus data)) (settled_updateWeakActionStatus env _)
    rw [heq]
    constructor
    · refine (custFollows_withLate_iff _ _).mpr ?_
      exact (custFollows_updateWeakActionStatus_iff env _).mpr hcust
    · refine Iff.trans hlate ?_
      rw [Plugin.focused, updateWeakActionStatus_eq, KeepsWeak, LateEntryKeepsWeak]
      constructor
      · intro h
        refine ⟨fun uid entry hsome _ henable hnone hothers => ?_, by rintro _ ⟨⟩⟩
        obtain rfl := lateEntry_focus_uid env plugin data hsome
        refine h _ entry hsome (hcust.eq_false_iff.mpr hnone) henable
          (Finset.mem_insert_self _ _) ?_
        intro other hmem hne
        exact hothers other (Finset.mem_of_mem_insert_of_ne hmem hne) hne
      · intro h uid entry hsome hnone henable _ hothers
        refine h.1 uid entry hsome (Or.inl rfl) henable (hcust.eq_false_iff.mp hnone) ?_
        intro other hmem hne
        exact hothers other (Finset.mem_insert_of_mem hmem) hne
  · rw [heq]
    refine ⟨(custFollows_updateWeakActionStatus_iff env _).mpr hcust, ?_⟩
    exact iff_of_true (settled_updateWeakActionStatus env _)
      (keepsWeak_of_quiet env plugin _ hnone nofun)

theorem weak_loadWeakInterAction (env : External) (plugin : Plugin) (itemLists : PluginConfig)
    (hcust : CustFollows plugin) (hsettled : Settled env plugin) :
    CustFollows (LoadWeakInterAction env plugin itemLists) ∧
      (Settled env (LoadWeakInterAction env plugin itemLists) ↔
        KeepsWeak env plugin (.HandleRssCloudConfigUpdate (some itemLists))) := by
  constructor
  · obtain ⟨calls, hload⟩ := foldl_loadWeakSubItem env plugin (weakSubItems itemLists) hsettled
    obtain ⟨-, -, hflag, huids⟩ := loaded_fields plugin (weakSubItems itemLists)
    rw [loadWeakInterAction_eq, hload]
    show (plugin.loaded _).custGameState_ = true ↔ (plugin.loaded _).focusCustGameUids_ ≠ ∅
    rw [hflag, huids]
    exact hcust
  · rw [settled_loadWeakInterAction_iff env plugin itemLists hsettled, KeepsWeak, ConfigKeepsWeak,
      hcust.eq_false_iff]
    constructor
    · intro h
      refine ⟨nofun, ?_⟩
      rintro _ ⟨⟩ henable hnone
      exact h hnone henable
    · intro h hnone henable
      exact h.2 itemLists rfl henable hnone

/-- What one event does to weak interaction that follows what it is to follow. -/
theorem weak_dispatch (env : External) (plugin : Plugin) (event : Event)
    (hcust : CustFollows plugin) (hsettled : Settled env plugin) :
    CustFollows (plugin.dispatch env event) ∧
      (Settled env (plugin.dispatch env event) ↔ KeepsWeak env plugin event) := by
  have hquiet : lateEntry env plugin event = none →
      (∀ itemLists, event ≠ .HandleRssCloudConfigUpdate (some itemLists)) →
        KeepsWeak env plugin event := keepsWeak_of_quiet env plugin event
  cases event with
  | HandleWindowFocus data => exact weak_handleWindowFocus env plugin data hcust hsettled
  | HandleAppAbilityStart data =>
      rw [Plugin.dispatch, handleAppAbilityStart_eq]
      exact weak_withLate env plugin _ rfl nofun hcust hsettled
  | HandleAppStateChange data =>
      rw [Plugin.dispatch, handleAppStateChange_eq]
      exact weak_withLate env plugin _ rfl nofun hcust hsettled
  | HandleUninstallEvent data =>
      rw [Plugin.dispatch, handleUninstallEvent_eq env]
      exact weak_withLate env plugin _ rfl nofun hcust hsettled
  | HandleProcessStateChange data =>
      obtain ⟨types, heq⟩ := handleProcessStateChange_eq plugin data
      rw [Plugin.dispatch, heq]
      exact ⟨hcust, iff_of_true hsettled (hquiet rfl nofun)⟩
  | HandleGameStateChange data =>
      have hkeeps := hquiet rfl nofun
      rw [Plugin.dispatch, HandleGameStateChange]
      split
      · split_ifs
        · exact ⟨custFollows_updateCustGameState env plugin data.value _ hcust,
            iff_of_true (settled_updateWeakActionStatus env _) hkeeps⟩
        · exact ⟨hcust, iff_of_true hsettled hkeeps⟩
      · exact ⟨hcust, iff_of_true hsettled hkeeps⟩
  | HandleRssCloudConfigUpdate weakInterAction =>
      cases weakInterAction with
      | none => exact ⟨hcust, iff_of_true hsettled (hquiet rfl nofun)⟩
      | some itemLists => exact weak_loadWeakInterAction env plugin itemLists hcust hsettled
  | ReportAbilityStatus data =>
      have hkeeps := hquiet rfl nofun
      rw [Plugin.dispatch, ReportAbilityStatus]
      split
      · exact ⟨hcust, iff_of_true hsettled hkeeps⟩
      · split_ifs
        · exact ⟨(custFollows_updateWeakActionStatus_iff env plugin).mpr hcust,
            iff_of_true (settled_updateWeakActionStatus env plugin) hkeeps⟩
        · exact ⟨hcust, iff_of_true hsettled hkeeps⟩

/-! ## Runs -/

/-- Loading the first configuration finds no application with the focus. -/
theorem weakFollows_init (env : External) (configs : Configs) :
    WeakFollows env (Init env configs) := by
  have hcreated : CustFollows Plugin.created ∧ Settled env Plugin.created := by
    constructor
    · exact iff_of_false Bool.false_ne_true (not_not.mpr rfl)
    · exact ((weakStatus_iff env Plugin.created).mpr
        ⟨rfl, rfl, fun uid huid => absurd huid (Finset.notMem_empty uid)⟩).symm
  obtain ⟨hcust, hsettled⟩ :=
    weak_loadWeakInterAction env Plugin.created configs.weakInterAction hcreated.1 hcreated.2
  have hkeeps : KeepsWeak env Plugin.created
      (.HandleRssCloudConfigUpdate (some configs.weakInterAction)) :=
    ⟨nofun, fun _ _ _ _ _ uid huid => absurd huid (Finset.notMem_empty uid)⟩
  obtain ⟨powerLimit_, thermalLimit_, hlimits⟩ := initPolicyMode_eq
    (LoadWeakInterAction env Plugin.created configs.weakInterAction) configs.socperfPolicy
    configs.limitPolicy
  rw [weakFollows_iff_settled, Init, hlimits]
  exact ⟨hcust, hsettled.mpr hkeeps⟩

theorem keepsWeak_withCalls (env : External) (plugin : Plugin) (event : Event)
    (calls : List Call) :
    KeepsWeak env { plugin with calls := calls } event ↔ KeepsWeak env plugin event := by
  refine and_congr ?_ ?_
  · cases event <;> exact Iff.rfl
  · simp only [ConfigKeepsWeak, loaded_withCalls]
    exact Iff.rfl

theorem weakFollows_handle_iff (env : External) (plugin : Plugin) (event : Event)
    (h : WeakFollows env plugin) :
    WeakFollows env (plugin.handle env event) ↔ KeepsWeak env plugin event := by
  obtain ⟨hcust, hsettled⟩ := (weakFollows_iff_settled env plugin).mp h
  obtain ⟨hcust', hsettled'⟩ := weak_dispatch env { plugin with calls := [] } event hcust hsettled
  rw [weakFollows_iff_settled, ← keepsWeak_withCalls env plugin event []]
  exact (and_iff_right hcust').trans hsettled'

/-- Weak interaction follows throughout a run if and only if no event leaves a change to it
after its recomputation. -/
theorem weakFollows_runs_iff (env : External) (configs : Configs) (events : List Event) :
    Always (Plugin.handle env) (WeakFollows env) (Init env configs) events ↔
      EachStep (Plugin.handle env) (KeepsWeak env) (Init env configs) events :=
  always_iff_eachStep (Plugin.handle env) (I := fun _ => True) (fun _ _ _ => trivial)
    (fun plugin event _ h => weakFollows_handle_iff env plugin event h)
    events (Init env configs) trivial (weakFollows_init env configs)

/-- An application of a key type that gets the focus while the plugin does not know it: the
status is recomputed before the application is entered. -/
theorem weakFollows_counterexample :
    ¬ ∀ (env : External) (configs : Configs) (events : List Event),
      Always (Plugin.handle env) (WeakFollows env) (Init env configs) events := by
  intro h
  have hlast := (h ⟨some fun _ => 3, fun _ => "com.example.key", fun _ => true⟩
    ⟨⟨[⟨∅, [⟨KEY_APP_TYPE, "3", ∅⟩]⟩]⟩, ⟨[]⟩, ⟨[]⟩⟩
    [.HandleWindowFocus ⟨WINDOW_FOCUS, .object [(UID_NAME, .string "20010042")]⟩]).last
  revert hlast
  decide

end ResSched.SocPerf.Focus
