import ResSched.Verification.SocPerf.Focus

/-! # The game flag of the focused applications against its recomputation -/

namespace ResSched.SocPerf.Focus

open Transition

/-- The flag kept along the way is the one a recomputation comes to. -/
def GameFollows (plugin : Plugin) : Prop :=
  plugin.isFocusAppsGameType_ = IsFocusAppsAllGame plugin

instance (plugin : Plugin) : Decidable (GameFollows plugin) :=
  inferInstanceAs (Decidable (_ = _))

theorem isFocusAppsAllGame_iff (plugin : Plugin) :
    IsFocusAppsAllGame plugin = true ↔
      plugin.focusAppUids_ ≠ ∅ ∧
        ∀ uid ∈ plugin.focusAppUids_,
          isGameEntry (plugin.uidToAppMsgMap_.lookup uid) = true := by
  rw [IsFocusAppsAllGame]
  split_ifs with hempty
  · refine iff_of_false id ?_
    rintro ⟨hfocus, hall⟩
    obtain ⟨uid, huid⟩ := Finset.nonempty_iff_ne_empty.mpr hfocus
    have hnone : plugin.uidToAppMsgMap_.lookup uid = none := by
      rw [AList.lookup_eq_none, AList.mem_keys, hempty.resolve_left hfocus]
      exact List.not_mem_nil
    have hgame := hall uid huid
    rw [hnone] at hgame
    exact Bool.false_ne_true hgame
  · rw [decide_eq_true_eq]
    exact (and_iff_right fun hfocus => hempty (Or.inl hfocus)).symm

/-- The entry an event leaves to the end does not change whether its application is a game, if
this decides about the flag. -/
def KeepsGame (env : External) (plugin : Plugin) (event : Event) : Prop :=
  ∀ uid entry, lateEntry env plugin event = some (uid, entry) →
    uid ∈ plugin.focusAppUids_ → (event.isFocus = true → plugin.focusAppUids_ ≠ {uid}) →
      (∀ other ∈ plugin.focusAppUids_, other ≠ uid →
        isGameEntry (plugin.uidToAppMsgMap_.lookup other) = true) →
      isGameEntry entry = isGameEntry (plugin.uidToAppMsgMap_.lookup uid)

/-! ## Entries that come after the update of the flag -/

theorem gameFollows_withEntry_iff (plugin : Plugin) (uid : Int) (entry : Option AppKeyMessage)
    (h : GameFollows plugin) :
    GameFollows (plugin.withEntry uid entry) ↔
      (uid ∈ plugin.focusAppUids_ →
        (∀ other ∈ plugin.focusAppUids_, other ≠ uid →
          isGameEntry (plugin.uidToAppMsgMap_.lookup other) = true) →
        isGameEntry entry = isGameEntry (plugin.uidToAppMsgMap_.lookup uid)) := by
  have hflag : GameFollows (plugin.withEntry uid entry) ↔
      IsFocusAppsAllGame (plugin.withEntry uid entry) = IsFocusAppsAllGame plugin := by
    rw [← show plugin.isFocusAppsGameType_ = IsFocusAppsAllGame plugin from h]
    exact eq_comm
  rw [hflag, Bool.eq_iff_iff, isFocusAppsAllGame_iff, isFocusAppsAllGame_iff]
  show (plugin.focusAppUids_ ≠ ∅ ∧ (∀ a ∈ plugin.focusAppUids_, _) ↔ _) ↔ _
  rw [and_congr_right_iff, AllOf.forall_mem_congr_iff uid]
  · rw [lookup_withEntry, if_pos rfl, ← Bool.eq_iff_iff]
    constructor
    · intro hkeeps huid
      exact hkeeps (Finset.ne_empty_of_mem huid) huid
    · intro hkeeps _
      exact hkeeps
  · intro other hother
    rw [lookup_withEntry, if_neg hother]

theorem gameFollows_withLate_iff (plugin : Plugin) (late : Option (Int × Option AppKeyMessage))
    (h : GameFollows plugin) :
    GameFollows (plugin.withLate late) ↔
      ∀ uid entry, late = some (uid, entry) → uid ∈ plugin.focusAppUids_ →
        (∀ other ∈ plugin.focusAppUids_, other ≠ uid →
          isGameEntry (plugin.uidToAppMsgMap_.lookup other) = true) →
        isGameEntry entry = isGameEntry (plugin.uidToAppMsgMap_.lookup uid) := by
  cases late with
  | none => exact iff_of_true h nofun
  | some late =>
      obtain ⟨uid, entry⟩ := late
      rw [show plugin.withLate (some (uid, entry)) = plugin.withEntry uid entry from rfl,
        gameFollows_withEntry_iff plugin uid entry h]
      constructor
      · rintro hkeeps _ _ ⟨⟩
        exact hkeeps
      · intro hkeeps
        exact hkeeps uid entry rfl

/-! ## Focus -/

/-- Once entered, a focused application is a game exactly when its type says so. -/
theorem isGameEntry_focused (env : External) (plugin : Plugin) (uid appType : Int)
    (h : focusType env plugin uid = some appType) :
    isGameEntry ((plugin.withLate
      ((focusEntry env plugin uid).map fun appMsg => (uid, some appMsg))).uidToAppMsgMap_.lookup
        uid) = decide (appType = APP_TYPE_GAME) := by
  rw [focusType] at h
  rw [focusEntry]
  cases hlookup : plugin.uidToAppMsgMap_.lookup uid with
  | some appMsg =>
      rw [hlookup] at h
      rw [← Option.some.inj h, if_neg (Option.some_ne_none appMsg)]
      show isGameEntry (plugin.uidToAppMsgMap_.lookup uid) = _
      rw [hlookup]
      rfl
  | none =>
      rw [hlookup] at h
      obtain ⟨reqAppTypeFunc_, hfunc, rfl⟩ := Option.map_eq_some_iff.mp h
      rw [if_pos rfl, hfunc, Option.bind_some, typedEntry]
      cases hvalid : isValidType (reqAppTypeFunc_ (env.GetBundleNameByUid uid)) with
      | true =>
          show isGameEntry ((plugin.withEntry uid _).uidToAppMsgMap_.lookup uid) = _
          rw [lookup_withEntry, if_pos rfl]
          rfl
      | false =>
          show isGameEntry (plugin.uidToAppMsgMap_.lookup uid) = _
          rw [hlookup]
          refine (decide_eq_false fun hgame => ?_).symm
          rw [hgame] at hvalid
          exact absurd hvalid (by decide)

theorem card_insert_eq_one_iff (s : Finset Int) (a : Int) :
    (insert a s).card = 1 ↔ ∀ b ∈ s, b = a := by
  rw [Finset.card_eq_one]
  constructor
  · rintro ⟨c, hc⟩ b hb
    have hbc : b ∈ ({c} : Finset Int) := hc ▸ Finset.mem_insert_of_mem hb
    have hac : a ∈ ({c} : Finset Int) := hc ▸ Finset.mem_insert_self a s
    rw [Finset.mem_singleton] at hbc hac
    rw [hbc, hac]
  · intro h
    refine ⟨a, Finset.ext fun b => ?_⟩
    rw [Finset.mem_insert, Finset.mem_singleton]
    exact ⟨fun hb => hb.elim id (h b), Or.inl⟩

/-- The type of the focused application decides when it is the only one, or when all focused
applications were games. -/
theorem updatesFocusAppsType_iff (plugin : Plugin) (uid appType : Int) :
    UpdatesFocusAppsType
        { plugin with focusAppUids_ := insert uid plugin.focusAppUids_ } appType = true ↔
      appType = APP_TYPE_GAME ∧
        ((∀ other ∈ plugin.focusAppUids_, other = uid) ∨ plugin.isFocusAppsGameType_ = true) := by
  rw [UpdatesFocusAppsType]
  show (if (insert uid plugin.focusAppUids_).card = 1 then decide (appType = APP_TYPE_GAME)
    else plugin.isFocusAppsGameType_ && decide (appType = APP_TYPE_GAME)) = true ↔ _
  rw [← card_insert_eq_one_iff]
  split_ifs with hone
  · rw [decide_eq_true_eq]
    exact (and_iff_left (Or.inl hone)).symm
  · rw [Bool.and_eq_true, decide_eq_true_eq, and_comm]
    exact and_congr_right fun _ => (or_iff_right hone).symm

/-- Only an application that had the focus before, without an entry, can make the flag miss that
all are games. -/
theorem keepsGame_focus_iff (env : External) (plugin : Plugin) (data : ResData) (appType : Int)
    (hvalue : data.value = WINDOW_FOCUS) (huid : GetUidByData data.payload ≠ INVALID_VALUE)
    (htype : focusType env plugin (GetUidByData data.payload) = some appType) :
    KeepsGame env plugin (.HandleWindowFocus data) ↔
      (appType = APP_TYPE_GAME → GetUidByData data.payload ∈ plugin.focusAppUids_ →
        plugin.focusAppUids_ ≠ {GetUidByData data.payload} →
          (∀ other ∈ plugin.focusAppUids_, other ≠ GetUidByData data.payload →
            isGameEntry (plugin.uidToAppMsgMap_.lookup other) = true) →
          isGameEntry (plugin.uidToAppMsgMap_.lookup (GetUidByData data.payload)) = true) := by
  have hlate : lateEntry env plugin (.HandleWindowFocus data) =
      (focusEntry env plugin (GetUidByData data.payload)).map
        fun appMsg => (GetUidByData data.payload, some appMsg) := if_pos ⟨hvalue, huid⟩
  have hgame := isGameEntry_focused env plugin (GetUidByData data.payload) appType htype
  rw [← hlate] at hgame
  rw [KeepsGame]
  constructor
  · intro hkeeps ht hfocused hmore hothers
    rw [ht, decide_eq_true rfl] at hgame
    cases hsome : lateEntry env plugin (.HandleWindowFocus data) with
    | none =>
        rw [hsome] at hgame
        exact hgame
    | some late =>
        obtain ⟨uid, entry⟩ := late
        obtain rfl := lateEntry_focus_uid env plugin data hsome
        rw [← hkeeps _ entry hsome hfocused (fun _ => hmore) hothers]
        rw [hsome, Plugin.withLate, lookup_withEntry, if_pos rfl] at hgame
        exact hgame
  · intro hpoint uid entry hsome hfocused hmore hothers
    obtain rfl := lateEntry_focus_uid env plugin data hsome
    rw [hsome, Plugin.withLate, lookup_withEntry, if_pos rfl] at hgame
    have hnone : plugin.uidToAppMsgMap_.lookup (GetUidByData data.payload) = none := by
      by_contra hknown
      rw [hlate, focusEntry, if_neg hknown] at hsome
      cases hsome
    rw [hgame]
    by_cases ht : appType = APP_TYPE_GAME
    · rw [hpoint ht hfocused (hmore rfl) hothers, decide_eq_true ht]
    · rw [hnone, decide_eq_false ht]
      rfl

/-- Whether all are games once a focused application has been entered. -/
theorem isFocusAppsAllGame_focused_iff (env : External) (plugin : Plugin) (uid appType : Int)
    (htype : focusType env plugin uid = some appType) :
    IsFocusAppsAllGame ((plugin.focused env uid).withLate
        ((focusEntry env plugin uid).map fun appMsg => (uid, some appMsg))) = true ↔
      appType = APP_TYPE_GAME ∧
        ∀ other ∈ plugin.focusAppUids_, other ≠ uid →
          isGameEntry (plugin.uidToAppMsgMap_.lookup other) = true := by
  have hgame := isGameEntry_focused env plugin uid appType htype
  have hfields : ∀ late : Option (Int × Option AppKeyMessage),
      ((plugin.focused env uid).withLate late).focusAppUids_ =
          insert uid plugin.focusAppUids_ ∧
        ((plugin.focused env uid).withLate late).uidToAppMsgMap_ =
          (plugin.withLate late).uidToAppMsgMap_ := by
    intro late
    rw [Plugin.focused, updateWeakActionStatus_eq]
    cases late <;> exact ⟨rfl, rfl⟩
  have hoff : ∀ other, other ≠ uid → (plugin.withLate
      ((focusEntry env plugin uid).map fun appMsg => (uid, some appMsg))).uidToAppMsgMap_.lookup
        other = plugin.uidToAppMsgMap_.lookup other := by
    intro other hother
    cases focusEntry env plugin uid with
    | none => rfl
    | some appMsg => exact (lookup_withEntry _ _ _ _).trans (if_neg hother)
  rw [isFocusAppsAllGame_iff, (hfields _).1, (hfields _).2,
    and_iff_right (Finset.insert_ne_empty uid _), AllOf.forall_mem_insert_off, hgame,
    decide_eq_true_eq]
  refine and_congr_right fun _ => ?_
  constructor
  · intro hall other hmem hne
    rw [← hoff other hne]
    exact hall other hmem hne
  · intro hall other hmem hne
    rw [hoff other hne]
    exact hall other hmem hne

theorem gameFollows_focus_iff (env : External) (plugin : Plugin) (data : ResData) (appType : Int)
    (hvalue : data.value = WINDOW_FOCUS) (huid : GetUidByData data.payload ≠ INVALID_VALUE)
    (htype : focusType env plugin (GetUidByData data.payload) = some appType)
    (h : GameFollows plugin) :
    GameFollows (HandleWindowFocus env plugin data) ↔
      KeepsGame env plugin (.HandleWindowFocus data) := by
  have hlate : lateEntry env plugin (.HandleWindowFocus data) =
      (focusEntry env plugin (GetUidByData data.payload)).map
        fun appMsg => (GetUidByData data.payload, some appMsg) := if_pos ⟨hvalue, huid⟩
  have hflag : gameFlag env
      { plugin with focusAppUids_ := insert (GetUidByData data.payload) plugin.focusAppUids_ }
        (GetUidByData data.payload) =
      UpdatesFocusAppsType { plugin with
        focusAppUids_ := insert (GetUidByData data.payload) plugin.focusAppUids_ } appType := by
    rw [gameFlag, show focusType env { plugin with
      focusAppUids_ := insert (GetUidByData data.payload) plugin.focusAppUids_ }
        (GetUidByData data.payload) = some appType from htype]
  have hbefore := isFocusAppsAllGame_iff plugin
  rw [← show plugin.isFocusAppsGameType_ = IsFocusAppsAllGame plugin from h] at hbefore
  obtain ⟨types, heq⟩ := handleWindowFocus_focus env plugin data hvalue huid
  rw [keepsGame_focus_iff env plugin data appType hvalue huid htype, heq, hlate, hflag,
    GameFollows]
  show UpdatesFocusAppsType _ appType = IsFocusAppsAllGame ((plugin.focused env _).withLate _) ↔ _
  rw [Bool.eq_iff_iff, updatesFocusAppsType_iff,
    isFocusAppsAllGame_focused_iff env plugin _ appType htype, and_congr_right_iff, hbefore,
    AllOf.only_or_all_iff]

/-! ## Events that leave the focus alone -/

/-- What the flag and its recomputation read. -/
def Plugin.focusState (plugin : Plugin) : Finset Int × AssocMap Int AppKeyMessage × Bool :=
  (plugin.focusAppUids_, plugin.uidToAppMsgMap_, plugin.isFocusAppsGameType_)

theorem gameFollows_congr {plugin plugin' : Plugin} (h : plugin'.focusState = plugin.focusState) :
    GameFollows plugin' ↔ GameFollows plugin := by
  simp only [Plugin.focusState, Prod.mk.injEq] at h
  obtain ⟨hfocus, hmap, hflag⟩ := h
  rw [GameFollows, IsFocusAppsAllGame, GameFollows, IsFocusAppsAllGame, hfocus, hmap, hflag]

theorem focusState_updateWeakActionStatus (env : External) (plugin : Plugin) :
    (UpdateWeakActionStatus env plugin).focusState = plugin.focusState := by
  rw [updateWeakActionStatus_eq]
  rfl

theorem focusState_loadWeakInterAction (env : External) (plugin : Plugin)
    (itemLists : PluginConfig) :
    (LoadWeakInterAction env plugin itemLists).focusState = plugin.focusState := by
  refine loadWeakInterAction_keeps env (P := fun p => p.focusState = plugin.focusState) plugin
    itemLists ?_ (fun _ _ _ _ h => h) rfl
  intro p h
  exact (focusState_updateWeakActionStatus env p).trans h

theorem focusState_handleGameStateChange (env : External) (plugin : Plugin) (data : ResData) :
    (HandleGameStateChange env plugin data).focusState = plugin.focusState := by
  rw [HandleGameStateChange]
  split
  · split_ifs
    · rw [UpdateCustGameState, focusState_updateWeakActionStatus]
      split_ifs <;> rfl
    · rfl
  · rfl

theorem focusState_reportAbilityStatus (env : External) (plugin : Plugin) (data : ResData) :
    (ReportAbilityStatus env plugin data).focusState = plugin.focusState := by
  rw [ReportAbilityStatus]
  split
  · rfl
  · split_ifs
    · exact focusState_updateWeakActionStatus env plugin
    · rfl

/-! ## Runs -/

/-- An event that does nothing but enter an application late. -/
theorem gameFollows_late_iff (env : External) (plugin : Plugin) (event : Event)
    (hfocus : event.isFocus = false) (h : GameFollows plugin) :
    GameFollows (plugin.withLate (lateEntry env plugin event)) ↔ KeepsGame env plugin event := by
  rw [gameFollows_withLate_iff plugin _ h, KeepsGame, hfocus]
  constructor
  · intro hkeeps uid entry hsome hfocused _
    exact hkeeps uid entry hsome hfocused
  · intro hkeeps uid entry hsome hfocused
    exact hkeeps uid entry hsome hfocused nofun

theorem gameFollows_handleWindowFocus_iff (env : External) (plugin : Plugin) (data : ResData)
    {reqAppTypeFunc_ : String → Int} (hfunc : env.reqAppTypeFunc_ = some reqAppTypeFunc_)
    (h : GameFollows plugin) :
    GameFollows (HandleWindowFocus env plugin data) ↔
      KeepsGame env plugin (.HandleWindowFocus data) := by
  have hquiet : lateEntry env plugin (.HandleWindowFocus data) = none →
      KeepsGame env plugin (.HandleWindowFocus data) := by
    intro hnone uid entry hsome
    rw [hnone] at hsome
    exact absurd hsome nofun
  rcases handleWindowFocus_cases env plugin data with
    ⟨hnone, heq⟩ | ⟨hvalue, huid⟩ | ⟨hnone, heq⟩
  · rw [heq]
    exact iff_of_true h (hquiet hnone)
  · have htype : ∃ appType, focusType env plugin (GetUidByData data.payload) = some appType := by
      rw [focusType, hfunc]
      cases plugin.uidToAppMsgMap_.lookup (GetUidByData data.payload) with
      | some appMsg => exact ⟨_, rfl⟩
      | none => exact ⟨_, rfl⟩
    obtain ⟨appType, htype⟩ := htype
    exact gameFollows_focus_iff env plugin data appType hvalue huid htype h
  · rw [heq]
    exact iff_of_true rfl (hquiet hnone)

/-- What one event does to a flag that agrees with its recomputation. -/
theorem gameFollows_dispatch_iff (env : External) (plugin : Plugin) (event : Event)
    {reqAppTypeFunc_ : String → Int} (hfunc : env.reqAppTypeFunc_ = some reqAppTypeFunc_)
    (h : GameFollows plugin) :
    GameFollows (plugin.dispatch env event) ↔ KeepsGame env plugin event := by
  have hquiet : lateEntry env plugin event = none →
      (plugin.dispatch env event).focusState = plugin.focusState →
        (GameFollows (plugin.dispatch env event) ↔ KeepsGame env plugin event) := by
    intro hnone hstate
    refine iff_of_true ((gameFollows_congr hstate).mpr h) ?_
    intro uid entry hsome
    rw [hnone] at hsome
    exact absurd hsome nofun
  cases event with
  | HandleWindowFocus data => exact gameFollows_handleWindowFocus_iff env plugin data hfunc h
  | HandleAppAbilityStart data =>
      rw [Plugin.dispatch, handleAppAbilityStart_eq]
      exact gameFollows_late_iff env plugin _ rfl h
  | HandleAppStateChange data =>
      rw [Plugin.dispatch, handleAppStateChange_eq]
      exact gameFollows_late_iff env plugin _ rfl h
  | HandleUninstallEvent data =>
      rw [Plugin.dispatch, handleUninstallEvent_eq env]
      exact gameFollows_late_iff env plugin _ rfl h
  | HandleProcessStateChange data =>
      obtain ⟨types, heq⟩ := handleProcessStateChange_eq plugin data
      refine hquiet rfl ?_
      rw [Plugin.dispatch, heq]
      rfl
  | HandleGameStateChange data =>
      exact hquiet rfl (focusState_handleGameStateChange env plugin data)
  | HandleRssCloudConfigUpdate weakInterAction =>
      cases weakInterAction with
      | none => exact hquiet rfl rfl
      | some itemLists => exact hquiet rfl (focusState_loadWeakInterAction env plugin itemLists)
  | ReportAbilityStatus data =>
      exact hquiet rfl (focusState_reportAbilityStatus env plugin data)

theorem gameFollows_init (env : External) (configs : Configs) :
    GameFollows (Init env configs) := by
  obtain ⟨powerLimit_, thermalLimit_, hlimits⟩ := initPolicyMode_eq
    (LoadWeakInterAction env Plugin.created configs.weakInterAction) configs.socperfPolicy
    configs.limitPolicy
  have hstate : (Init env configs).focusState = Plugin.created.focusState := by
    rw [Init, hlimits]
    exact focusState_loadWeakInterAction env Plugin.created configs.weakInterAction
  rw [gameFollows_congr hstate]
  decide

/-- The flag agrees with its recomputation throughout a run if and only if no event leaves to its
end an entry that decides whether all focused applications are games. -/
theorem gameFollows_runs_iff (reqAppTypeFunc_ : String → Int) (GetBundleNameByUid : Int → String)
    (CheckSignatureByBundleName : String → Bool) (configs : Configs) (events : List Event) :
    let env : External := ⟨some reqAppTypeFunc_, GetBundleNameByUid, CheckSignatureByBundleName⟩
    Always (Plugin.handle env) GameFollows (Init env configs) events ↔
      EachStep (Plugin.handle env) (KeepsGame env) (Init env configs) events := by
  intro env
  refine always_iff_eachStep (Plugin.handle env) (I := fun _ => True) (fun _ _ _ => trivial) ?_
    events (Init env configs) trivial (gameFollows_init env configs)
  intro plugin event _ h
  refine (gameFollows_dispatch_iff env { plugin with calls := [] } event rfl h).trans ?_
  cases event <;> exact Iff.rfl

/-- A game whose type the plugin learns while it has the focus: the flag stays off. -/
theorem gameFollows_counterexample :
    ¬ ∀ (reqAppTypeFunc_ : String → Int) (GetBundleNameByUid : Int → String)
      (CheckSignatureByBundleName : String → Bool) (configs : Configs) (events : List Event),
      Always (Plugin.handle ⟨some reqAppTypeFunc_, GetBundleNameByUid, CheckSignatureByBundleName⟩)
        GameFollows
        (Init ⟨some reqAppTypeFunc_, GetBundleNameByUid, CheckSignatureByBundleName⟩ configs)
        events := by
  intro h
  have hlast := (h (fun bundleName => if bundleName = "com.example.game" then APP_TYPE_GAME else 0)
    (fun _ => "") (fun _ => true) ⟨⟨[]⟩, ⟨[]⟩, ⟨[]⟩⟩
    [.HandleWindowFocus ⟨WINDOW_FOCUS, .object [(UID_NAME, .string "20010042")]⟩,
      .HandleAppAbilityStart ⟨APP_COLD_START, .object [(UID_NAME, .string "20010042"),
        (BUNDLE_NAME, .string "com.example.game")]⟩]).last
  revert hlast
  decide

end ResSched.SocPerf.Focus
