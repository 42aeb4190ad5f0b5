import ResSched.Library.Latest
import ResSched.Model.Cgroup.Reload
import ResSched.Verification.Cgroup.Adjuster

/-! # Identity of the windows and the abilities of a process

The lists of a record are searched for the first entry of an id. In every run they have one entry
for each id, so a record shows what the latest events about its windows and abilities say.
-/

namespace ResSched.Cgroup

open CLibrary Transition

/-! ## What an event says about windows and abilities -/

/-- A terminated ability has no type. -/
inductive ContentAct where
  | visibility (uid pid : Int) (windowId : Nat) (isVisible : Bool)
  | ability (uid pid recordId : Int) (type : Option Int)
  | died (uid pid : Int)
  | stopped (uid : Int)
  | other

def ParseVisibility (payload : Payload) : Option (Int × Int × Nat × Int) := do
  let pid ← ParseValue "pid" payload
  let uid ← ParseValue "uid" payload
  let windowId ← ParseValue "windowId" payload
  let windowType ← ParseValue "windowType" payload
  return (pid, uid, toUnsigned 32 windowId, windowType)

def visibilityAct (value : Int) (payload : Payload) : ContentAct :=
  match ParseVisibility payload with
  | none => .other
  | some (pid, uid, windowId, _) => .visibility uid pid windowId (value ≠ 0)

def ParseExtension (payload : Payload) : Option (Int × Int × String × Int × Int × Int) := do
  let uid ← ParseValue "uid" payload
  let pid ← ParseValue "pid" payload
  let _ ← ParseString "bundleName" payload
  let abilityName ← ParseString "abilityName" payload
  let recordId ← ParseValue "recordId" payload
  let extensionState ← ParseValue "extensionState" payload
  let abilityType ← ParseValue "abilityType" payload
  return (uid, pid, abilityName, recordId, extensionState, abilityType)

def extensionAct (env : External) (payload : Payload) : ContentAct :=
  match ParseExtension payload with
  | none => .other
  | some (uid, pid, _, recordId, extensionState, abilityType) =>
      .ability uid pid recordId
        (if extensionState = env.EXTENSION_STATE_TERMINATED then none else some abilityType)

def ParseUIExtension (payload : Payload) : Option Int := do
  let _ ← ParseValue "extensionAbilityType" payload
  ParseValue "uiExtensionState" payload

def ParseAbility (payload : Payload) : Option (Int × Int × String × Int × Int × Int) := do
  let uid ← ParseValue "uid" payload
  let pid ← ParseValue "pid" payload
  let _ ← ParseString "bundleName" payload
  let abilityName ← ParseString "abilityName" payload
  let recordId ← ParseValue "recordId" payload
  let _ ← ParseValue "callerUid" payload
  let abilityState ← ParseValue "abilityState" payload
  let abilityType ← ParseValue "abilityType" payload
  return (uid, pid, abilityName, recordId, abilityState, abilityType)

/-- The state of a UI extension is that of an extension. A prelaunched ability is not recorded. -/
def abilityAct (env : External) (payload : Payload) : ContentAct :=
  match ParseAbility payload with
  | none => .other
  | some (uid, pid, _, recordId, abilityState, abilityType) =>
      if abilityType = env.ABILITY_TYPE_EXTENSION then
        match ParseUIExtension payload with
        | none => .other
        | some uiExtensionState =>
            extensionAct env (payload.set "extensionState" (.string (toString uiExtensionState)))
      else if abilityState = env.ABILITY_STATE_TERMINATED then .ability uid pid recordId none
      else if HandlePrelaunch env abilityState ((ParseValue "preloadMode" payload).getD (-1)) then
        .other
      else .ability uid pid recordId (some abilityType)

def contentAct (env : External) : Event → ContentAct
  | .HandleWindowVisibilityChanged value payload => visibilityAct value payload
  | .HandleExtensionStateChanged payload => extensionAct env payload
  | .HandleAbilityStateChanged payload => abilityAct env payload
  | event =>
      match recordAct event with
      | .died uid pid => .died uid pid
      | .stopped uid => .stopped uid
      | _ => .other

/-- A reload says nothing. -/
def noticeAct (env : External) : Notice → ContentAct
  | .cgroupEvent event => contentAct env event
  | .ReportAbilityStatus _ _ _ _ => .other

/-- What is said about the visibility of a window; the windows of an ended process are gone. -/
def ContentAct.visible (uid pid : Int) (windowId : Nat) : ContentAct → Option Bool
  | .visibility ofUid ofPid ofWindowId isVisible =>
      if (uid = ofUid ∧ pid = ofPid) ∧ windowId = ofWindowId then some isVisible else none
  | .died ofUid ofPid => if uid = ofUid ∧ pid = ofPid then some false else none
  | .stopped ofUid => if uid = ofUid then some false else none
  | _ => none

/-- What is said about the type of an ability; one that is gone has none. -/
def ContentAct.abilityType (uid pid recordId : Int) : ContentAct → Option (Option Int)
  | .ability ofUid ofPid ofRecordId type =>
      if (uid = ofUid ∧ pid = ofPid) ∧ recordId = ofRecordId then some type else none
  | .died ofUid ofPid => if uid = ofUid ∧ pid = ofPid then some none else none
  | .stopped ofUid => if uid = ofUid then some none else none
  | _ => none

/-- A type that `HasServiceExtension` looks for. -/
def isServiceType (env : External) (type : Int) : Bool :=
  type = env.ABILITY_TYPE_SERVICE || type = env.ABILITY_TYPE_EXTENSION ||
    type = env.ABILITY_TYPE_DATA

/-- The record of a process has one entry for each id, and its two tests follow the latest of the
notices about each window and each ability. -/
structure Identified (env : External) (notices : List Notice) (uid pid : Int)
    (record : ProcessRecord) : Prop where
  windows : (record.windows.map WindowInfo.windowId).Nodup
  abilities : (record.abilities.map AbilityInfo.recordId).Nodup
  removed : ∀ recordId, (record.RemoveAbilityByRecordId recordId).HasAbility recordId = false
  window : ∀ windowId window, record.GetWindowInfo windowId = some window ↔
    window ∈ record.windows ∧ window.windowId = windowId
  ability : ∀ recordId ability, record.GetAbilityInfo recordId = some ability ↔
    ability ∈ record.abilities ∧ ability.recordId = recordId
  visible : record.IsVisible = true ↔ ∃ windowId,
    latest (fun notice => (noticeAct env notice).visible uid pid windowId) notices = some true
  service : HasServiceExtension env record = true ↔ ∃ recordId type,
    latest (fun notice => (noticeAct env notice).abilityType uid pid recordId) notices =
      some (some type) ∧ isServiceType env type = true

/-! ## The contents of a record -/

structure Contents where
  windows : List WindowInfo
  abilities : List AbilityInfo

def ProcessRecord.contents (record : ProcessRecord) : Contents :=
  ⟨record.windows, record.abilities⟩

/-- The contents of a process; one without a record has none. -/
def Application.contents (app : Application) (pid : Int) : Contents :=
  ((app.pidsMap.lookup pid).map ProcessRecord.contents).getD ⟨[], []⟩

/-- A change of the contents of a process as an event says. -/
structure Obeys (act : ContentAct) (uid pid : Int) (before after : Contents) : Prop where
  windows : Tells WindowInfo.windowId (Option.any WindowInfo.isVisible)
    (fun windowId => act.visible uid pid windowId) before.windows after.windows
  abilities : Tells AbilityInfo.recordId (Option.map AbilityInfo.type)
    (fun recordId => act.abilityType uid pid recordId) before.abilities after.abilities

/-- An event says nothing about a process. -/
structure ContentAct.Silent (act : ContentAct) (uid pid : Int) : Prop where
  visible : ∀ windowId, act.visible uid pid windowId = none
  abilityType : ∀ recordId, act.abilityType uid pid recordId = none

theorem silent_other (uid pid : Int) : ContentAct.other.Silent uid pid :=
  ⟨fun _ => rfl, fun _ => rfl⟩

theorem ContentAct.Silent.refl {act : ContentAct} {uid pid : Int} (h : act.Silent uid pid)
    (contents : Contents) : Obeys act uid pid contents contents := by
  refine ⟨Tells.refl fun windowId _ hsaid => ?_, Tells.refl fun recordId _ hsaid => ?_⟩
  · rw [h.visible] at hsaid
    cases hsaid
  · rw [h.abilityType] at hsaid
    cases hsaid

/-- A change of other fields. -/
theorem obeys_other_of_eq {uid pid : Int} {before after : Contents} (h : after = before) :
    Obeys .other uid pid before after :=
  h ▸ (silent_other uid pid).refl after

theorem Obeys.after_other {act : ContentAct} {uid pid : Int} {a b c : Contents}
    (h : Obeys .other uid pid a b) (h' : Obeys act uid pid b c) : Obeys act uid pid a c :=
  ⟨h.windows.after_silent h'.windows, h.abilities.after_silent h'.abilities⟩

/-- Every process has changed as the event says. -/
def SupervisorObeys (act : ContentAct) (before after : Supervisor) : Prop :=
  ∀ uid pid, Obeys act uid pid ((before.app uid).contents pid) ((after.app uid).contents pid)

/-- Every process of an application has changed as the event says. -/
def AppObeys (act : ContentAct) (uid : Int) (before after : Application) : Prop :=
  ∀ pid, Obeys act uid pid (before.contents pid) (after.contents pid)

theorem SupervisorObeys.refl (supervisor : Supervisor) :
    SupervisorObeys .other supervisor supervisor :=
  fun _ _ => obeys_other_of_eq rfl

theorem SupervisorObeys.after_other {act : ContentAct} {a b c : Supervisor}
    (h : SupervisorObeys .other a b) (h' : SupervisorObeys act b c) : SupervisorObeys act a c :=
  fun uid pid => (h uid pid).after_other (h' uid pid)

/-! ## Accesses to records and applications -/

/-- The process an event is about. -/
def ContentAct.OnlyAbout (act : ContentAct) (uid pid : Int) : Prop :=
  ∀ other otherPid, ¬(other = uid ∧ otherPid = pid) → act.Silent other otherPid

theorem onlyAbout_other (uid pid : Int) : ContentAct.other.OnlyAbout uid pid :=
  fun _ _ _ => silent_other _ _

theorem onlyAbout_visibility (uid pid : Int) (windowId : Nat) (isVisible : Bool) :
    (ContentAct.visibility uid pid windowId isVisible).OnlyAbout uid pid :=
  fun _ _ h => ⟨fun _ => if_neg fun hsame => h hsame.1, fun _ => rfl⟩

theorem onlyAbout_ability (uid pid recordId : Int) (type : Option Int) :
    (ContentAct.ability uid pid recordId type).OnlyAbout uid pid :=
  fun _ _ h => ⟨fun _ => rfl, fun _ => if_neg fun hsame => h hsame.1⟩

section

variable {act : ContentAct} {uid pid : Int} (honly : act.OnlyAbout uid pid)
  {f : ProcessRecord → ProcessRecord}
  (hf : ∀ record : ProcessRecord, Obeys act uid pid record.contents (f record).contents)

include honly hf

theorem appObeys_withRecordNonNull (app : Application) :
    AppObeys act uid app (app.withRecordNonNull pid f) := by
  intro other
  rw [Application.contents, Application.contents, lookup_withRecordNonNull]
  by_cases hpid : other = pid
  · subst hpid
    rw [if_pos rfl]
    cases app.pidsMap.lookup other with
    | none => exact hf (ProcessRecord.new app.created)
    | some record => exact hf record
  · rw [if_neg hpid]
    exact (honly uid other fun h => hpid h.2).refl _

theorem appObeys_withRecord (app : Application)
    (habsent : Obeys act uid pid ⟨[], []⟩ ⟨[], []⟩) :
    AppObeys act uid app (app.withRecord pid f) := by
  intro other
  rw [Application.contents, Application.contents, lookup_withRecord]
  by_cases hpid : other = pid
  · subst hpid
    rw [if_pos rfl]
    cases app.pidsMap.lookup other with
    | none => exact habsent
    | some record => exact hf record
  · rw [if_neg hpid]
    exact (honly uid other fun h => hpid h.2).refl _

theorem obeys_withRecordNonNull (supervisor : Supervisor) :
    SupervisorObeys act supervisor
      (supervisor.withAppNonNull uid fun app => app.withRecordNonNull pid f) := by
  intro other otherPid
  rw [app_withAppNonNull]
  split_ifs with huid
  · rw [huid]
    exact appObeys_withRecordNonNull honly hf (supervisor.app uid) otherPid
  · exact (honly other otherPid fun h => huid h.1).refl _

/-- A record that is not there keeps what is said of none. -/
theorem obeys_withRecordAdjusted (supervisor : Supervisor) (source : AdjustSource)
    (habsent : Obeys act uid pid ⟨[], []⟩ ⟨[], []⟩) :
    SupervisorObeys act supervisor
      (supervisor.withRecordAdjusted uid pid f source).supervisor := by
  intro other otherPid
  rw [app_withRecordAdjusted]
  split_ifs with huid
  · rw [huid]
    exact appObeys_withRecord honly hf _ habsent otherPid
  · exact (honly other otherPid fun h => huid h.1).refl _

end

section

variable (supervisor : Supervisor) (uid : Int) {f : Application → Application}
  (hf : ∀ app, AppObeys .other uid app (f app))

include hf

theorem obeys_withApp : SupervisorObeys .other supervisor (supervisor.withApp uid f) := by
  intro other pid
  rw [app_withApp]
  split_ifs with h
  · rw [h.1]
    exact hf _ pid
  · exact obeys_other_of_eq rfl

theorem obeys_withAppNonNull :
    SupervisorObeys .other supervisor (supervisor.withAppNonNull uid f) := by
  intro other pid
  rw [app_withAppNonNull]
  split_ifs with h
  · rw [h]
    exact hf _ pid
  · exact obeys_other_of_eq rfl

end

/-! ## Changes of other fields -/

section

variable (uid pid : Int) {f : ProcessRecord → ProcessRecord}
  (hf : ∀ record : ProcessRecord, (f record).contents = record.contents)

include hf

theorem appSilent_withRecordNonNull (app : Application) :
    AppObeys .other uid app (app.withRecordNonNull pid f) :=
  appObeys_withRecordNonNull (onlyAbout_other uid pid)
    (fun record => obeys_other_of_eq (hf record)) app

theorem appSilent_withRecord (app : Application) :
    AppObeys .other uid app (app.withRecord pid f) :=
  appObeys_withRecord (onlyAbout_other uid pid) (fun record => obeys_other_of_eq (hf record)) app
    (obeys_other_of_eq rfl)

variable (supervisor : Supervisor)

theorem silent_withRecordNonNull : SupervisorObeys .other supervisor
    (supervisor.withAppNonNull uid fun app => app.withRecordNonNull pid f) :=
  obeys_withAppNonNull supervisor uid (appSilent_withRecordNonNull uid pid hf)

theorem silent_withRecord : SupervisorObeys .other supervisor
    (supervisor.withApp uid fun app => app.withRecord pid f) :=
  obeys_withApp supervisor uid (appSilent_withRecord uid pid hf)

theorem silent_withRecordAdjusted (source : AdjustSource) :
    SupervisorObeys .other supervisor (supervisor.withRecordAdjusted uid pid f source).supervisor :=
  obeys_withRecordAdjusted (onlyAbout_other uid pid) (fun record => obeys_other_of_eq (hf record))
    supervisor source (obeys_other_of_eq rfl)

end

theorem silent_withAppNonNull_id (supervisor : Supervisor) (uid : Int) :
    SupervisorObeys .other supervisor (supervisor.withAppNonNull uid id) :=
  obeys_withAppNonNull supervisor uid fun _ _ => obeys_other_of_eq rfl

theorem obeys_parsed {act : ContentAct} {α : Type} (before supervisor : Supervisor)
    (args : Option α) (handler : α → Handled)
    (hnone : args = none → SupervisorObeys act before supervisor)
    (hsome : ∀ a, args = some a → SupervisorObeys act before (handler a).supervisor) :
    SupervisorObeys act before (supervisor.parsed args handler).supervisor := by
  cases args with
  | none => exact hnone rfl
  | some a => exact hsome a rfl

theorem obeys_procInfo (supervisor : Supervisor) (payload : Payload)
    (handler : Int × Int × Supervisor → Handled)
    (hhandler : ∀ uid pid after, SupervisorObeys .other supervisor after →
      SupervisorObeys .other supervisor (handler (uid, pid, after)).supervisor) :
    SupervisorObeys .other supervisor
      (supervisor.parsed (GetProcInfoByPayload supervisor payload) handler).supervisor := by
  refine obeys_parsed _ _ _ _ (fun _ => SupervisorObeys.refl supervisor) ?_
  rintro ⟨uid, pid, after⟩ hfound
  apply hhandler
  rw [GetProcInfoByPayload_supervisor hfound]
  exact obeys_withApp supervisor uid (appSilent_withRecordNonNull uid pid fun _ => rfl)

/-! ## Changes of windows and abilities -/

theorem obeys_visibility (uid pid : Int) (windowId : Nat) (isVisible : Bool)
    {f : WindowInfo → WindowInfo} (hid : ∀ window, (f window).windowId = window.windowId)
    (hvisible : ∀ window, (f window).isVisible = isVisible) (record : ProcessRecord) :
    Obeys (.visibility uid pid windowId isVisible) uid pid record.contents
      (record.withWindowInfo windowId f).contents := by
  refine ⟨Tells.upsert rfl hid ?_ ?_, Tells.refl ?_⟩
  · exact fun other hother => if_neg fun h => hother h.2
  · simp [ContentAct.visible, hvisible]
  · intro recordId type hsaid
    cases hsaid

/-- A window that is made here is not visible. -/
theorem obeys_withWindowInfo (uid pid : Int) (windowId : Nat) {f : WindowInfo → WindowInfo}
    (hid : ∀ window, (f window).windowId = window.windowId)
    (hvisible : ∀ window, (f window).isVisible = window.isVisible) (record : ProcessRecord) :
    Obeys .other uid pid record.contents (record.withWindowInfo windowId f).contents := by
  refine ⟨Tells.upsert rfl hid (fun _ _ => rfl) ?_, (silent_other uid pid).refl _ |>.abilities⟩
  dsimp only [ContentAct.visible, Option.getD_none]
  cases entryOf WindowInfo.windowId windowId record.contents.windows with
  | none => simp [hvisible, WindowInfo.new]
  | some window => simp [hvisible]

theorem obeys_ability (uid pid recordId type : Int) {f : AbilityInfo → AbilityInfo}
    (hid : ∀ ability, (f ability).recordId = ability.recordId)
    (htype : ∀ ability, (f ability).type = type) (record : ProcessRecord) :
    Obeys (.ability uid pid recordId (some type)) uid pid record.contents
      (record.withAbilityInfo recordId f).contents := by
  refine ⟨Tells.refl ?_, Tells.upsert rfl hid ?_ ?_⟩
  · intro windowId isVisible hsaid
    cases hsaid
  · exact fun other hother => if_neg fun h => hother h.2
  · simp [ContentAct.abilityType, htype]

theorem obeys_removed (uid pid recordId : Int) (record : ProcessRecord) :
    Obeys (.ability uid pid recordId none) uid pid record.contents
      (record.RemoveAbilityByRecordId recordId).contents := by
  refine ⟨Tells.refl ?_, Tells.eraseP ?_ ?_⟩
  · intro windowId isVisible hsaid
    cases hsaid
  · exact fun other hother => if_neg fun h => hother h.2
  · exact if_pos ⟨⟨rfl, rfl⟩, rfl⟩

/-- A process without a record has no ability. -/
theorem obeys_removed_absent (uid pid recordId : Int) :
    Obeys (.ability uid pid recordId none) uid pid ⟨[], []⟩ ⟨[], []⟩ :=
  obeys_removed uid pid recordId (ProcessRecord.new 0)

/-- The contents of an ended process are gone. -/
theorem obeys_ended {act : ContentAct} {uid pid : Int}
    (hvisible : ∀ windowId, act.visible uid pid windowId = some false)
    (htype : ∀ recordId, act.abilityType uid pid recordId = some none) (before : Contents) :
    Obeys act uid pid before ⟨[], []⟩ :=
  ⟨Tells.nil hvisible, Tells.nil htype⟩

theorem contents_endProcess (app : Application) (pid other : Int) :
    (endProcess pid app).contents other = if other = pid then ⟨[], []⟩ else app.contents other := by
  rw [Application.contents, endProcess]
  split_ifs with hkeys hother hother
  · rfl
  · have hgone : (app.RemoveProcessRecord pid).pidsMap.lookup other = none := by
      rw [AList.lookup_eq_none, AList.mem_keys, hkeys]
      exact List.not_mem_nil
    rw [lookup_RemoveProcessRecord, if_neg hother] at hgone
    rw [Application.contents, hgone]
    rfl
  · rw [lookup_RemoveProcessRecord, if_pos hother]
    rfl
  · rw [lookup_RemoveProcessRecord, if_neg hother]
    rfl

/-! ## The handlers -/

theorem HandleExtensionStateChanged_obeys (env : External) (supervisor : Supervisor)
    (payload : Payload) :
    SupervisorObeys (extensionAct env payload) supervisor
      (HandleExtensionStateChanged env supervisor payload).supervisor := by
  apply obeys_parsed
  · intro hargs
    rw [extensionAct, show ParseExtension payload = none from hargs]
    exact SupervisorObeys.refl supervisor
  · rintro ⟨uid, pid, abilityName, recordId, extensionState, abilityType⟩ hargs
    rw [extensionAct, show ParseExtension payload = some _ from hargs]
    dsimp only
    split_ifs
    · exact obeys_withRecordAdjusted (onlyAbout_ability uid pid recordId none)
        (obeys_removed uid pid recordId) supervisor _ (obeys_removed_absent uid pid recordId)
    · refine obeys_withRecordNonNull (onlyAbout_ability uid pid recordId _) ?_ supervisor
      exact obeys_ability uid pid recordId abilityType (fun _ => rfl) fun _ => rfl

theorem HandleAbilityStateChanged_obeys (env : External) (supervisor : Supervisor)
    (payload : Payload) :
    SupervisorObeys (abilityAct env payload) supervisor
      (HandleAbilityStateChanged env supervisor payload).supervisor := by
  apply obeys_parsed
  · intro hargs
    rw [abilityAct, show ParseAbility payload = none from hargs]
    exact SupervisorObeys.refl supervisor
  · rintro ⟨uid, pid, abilityName, recordId, abilityState, abilityType⟩ hargs
    rw [abilityAct, show ParseAbility payload = some _ from hargs]
    dsimp only
    split_ifs
    · apply obeys_parsed
      · intro hui
        rw [show ParseUIExtension payload = none from hui]
        exact SupervisorObeys.refl supervisor
      · intro uiExtensionState hui
        rw [show ParseUIExtension payload = some _ from hui]
        exact HandleExtensionStateChanged_obeys env supervisor _
    · exact obeys_withRecordAdjusted (onlyAbout_ability uid pid recordId none)
        (obeys_removed uid pid recordId) supervisor _ (obeys_removed_absent uid pid recordId)
    · exact SupervisorObeys.refl supervisor
    · refine obeys_withRecordNonNull (onlyAbout_ability uid pid recordId _) ?_ supervisor
      exact obeys_ability uid pid recordId abilityType (fun _ => rfl) fun _ => rfl

/-- A window that becomes invisible in a process without a record was not visible. -/
theorem HandleWindowVisibilityChanged_obeys (supervisor : Supervisor) (value : Int)
    (payload : Payload) :
    SupervisorObeys (visibilityAct value payload) supervisor
      (HandleWindowVisibilityChanged supervisor value payload).supervisor := by
  apply obeys_parsed
  · intro hargs
    rw [visibilityAct, show ParseVisibility payload = none from hargs]
    exact SupervisorObeys.refl supervisor
  · rintro ⟨pid, uid, windowId, windowType⟩ hargs
    rw [visibilityAct, show ParseVisibility payload = some _ from hargs]
    dsimp only
    have honly := onlyAbout_visibility uid pid windowId (value ≠ 0)
    by_cases hignored :
        (!decide (value ≠ 0) && (supervisor.record? uid pid).isNone) = true
    · rw [if_pos hignored]
      simp only [Bool.and_eq_true, Bool.not_eq_true', Option.isNone_iff_eq_none] at hignored
      rw [hignored.1]
      intro other otherPid
      by_cases hsame : other = uid ∧ otherPid = pid
      · obtain ⟨rfl, rfl⟩ := hsame
        have hnone := hignored.2
        rw [record?_eq] at hnone
        dsimp only [Supervisor.unchanged, Application.contents]
        rw [hnone]
        refine ⟨Tells.refl fun other isVisible hsaid => ?_, Tells.refl fun _ _ hsaid => ?_⟩
        · simp only [ContentAct.visible, Option.ite_none_right_eq_some] at hsaid
          obtain ⟨-, hsaid⟩ := hsaid
          exact (Option.some.inj hsaid).symm
        · cases hsaid
      · rw [hignored.1] at honly
        exact (honly other otherPid hsame).refl _
    · rw [if_neg hignored]
      refine obeys_withRecordNonNull honly ?_ supervisor
      exact obeys_visibility uid pid windowId _ (fun _ => rfl) fun _ => rfl

theorem HandleProcessCreated_obeys (env : External) (supervisor : Supervisor)
    (payload : Payload) :
    SupervisorObeys .other supervisor (HandleProcessCreated env supervisor payload).supervisor := by
  refine obeys_parsed _ _ _ _ (fun _ => SupervisorObeys.refl supervisor) fun info _ => ?_
  refine obeys_withAppNonNull supervisor info.uid fun app pid => ?_
  have hmade := appSilent_withRecordNonNull info.uid info.pid (f := createdRecord env info)
    (fun _ => rfl) app pid
  rw [Application.contents] at hmade
  rw [Application.contents, Application.contents, pidsMap_createApplication]
  exact hmade

theorem HandleProcessStateChanged_obeys (env : External) (supervisor : Supervisor)
    (payload : Payload) :
    SupervisorObeys .other supervisor
      (HandleProcessStateChanged env supervisor payload).supervisor := by
  refine obeys_parsed _ _ _ _ (fun _ => SupervisorObeys.refl supervisor) ?_
  rintro ⟨uid, pid, state⟩ -
  dsimp only
  split_ifs
  · exact silent_withRecordNonNull uid pid (fun _ => by rfl) supervisor
  · exact silent_withRecordNonNull uid pid (fun _ => by rfl) supervisor

theorem HandleProcessDied_obeys (supervisor : Supervisor) (payload : Payload) (uid pid : Int)
    (hparse : ParseProcess payload = some (uid, pid)) :
    SupervisorObeys (.died uid pid) supervisor
      (HandleProcessDied supervisor payload).supervisor := by
  intro other otherPid
  rw [HandleProcessDied_app supervisor payload uid pid hparse]
  by_cases hsame : other = uid ∧ otherPid = pid
  · obtain ⟨rfl, rfl⟩ := hsame
    rw [if_pos rfl, contents_endProcess, if_pos rfl]
    apply obeys_ended
    · exact fun _ => if_pos ⟨rfl, rfl⟩
    · exact fun _ => if_pos ⟨rfl, rfl⟩
  · have hkept : (if other = uid then endProcess pid (supervisor.app other)
        else supervisor.app other).contents otherPid =
          (supervisor.app other).contents otherPid := by
      split_ifs with huid
      · rw [contents_endProcess, if_neg fun h => hsame ⟨huid, h⟩]
      · rfl
    have hsilent : (ContentAct.died uid pid).Silent other otherPid :=
      ⟨fun _ => if_neg hsame, fun _ => if_neg hsame⟩
    rw [hkept]
    exact hsilent.refl _

theorem HandleProcessStateChangedEx_obeys (env : External) (supervisor : Supervisor) (value : Int)
    (payload : Payload) :
    SupervisorObeys (contentAct env (.HandleProcessStateChangedEx value payload)) supervisor
      (HandleProcessStateChangedEx env supervisor value payload).supervisor := by
  simp only [contentAct, recordAct, HandleProcessStateChangedEx]
  by_cases hcreated : value = PROCESS_CREATED
  · rw [if_pos hcreated, if_pos hcreated]
    cases ParseProcessCreateInfo payload with
    | none => exact HandleProcessCreated_obeys env supervisor payload
    | some info => exact HandleProcessCreated_obeys env supervisor payload
  · rw [if_neg hcreated, if_neg hcreated]
    by_cases hdied : value = PROCESS_DIED
    · rw [if_pos hdied, if_pos hdied]
      cases hparse : ParseProcess payload with
      | none =>
          rw [HandleProcessDied, hparse]
          exact SupervisorObeys.refl supervisor
      | some ids => exact HandleProcessDied_obeys supervisor payload ids.1 ids.2 hparse
    · rw [if_neg hdied, if_neg hdied]
      exact HandleProcessStateChanged_obeys env supervisor payload

theorem HandleOnAppStopped_obeys (env : External) (supervisor : Supervisor) (payload : Payload) :
    SupervisorObeys (contentAct env (.HandleOnAppStopped payload)) supervisor
      (HandleOnAppStopped supervisor payload).supervisor := by
  simp only [contentAct, recordAct]
  rw [HandleOnAppStopped]
  cases ParseStopped payload with
  | none => exact SupervisorObeys.refl supervisor
  | some uid =>
      intro other pid
      dsimp only [Supervisor.parsed]
      rw [app_RemoveApplication]
      split_ifs with huid
      · apply obeys_ended
        · exact fun _ => if_pos huid
        · exact fun _ => if_pos huid
      · have hsilent : (ContentAct.stopped uid).Silent other pid :=
          ⟨fun _ => if_neg huid, fun _ => if_neg huid⟩
        exact hsilent.refl _

theorem HandleFocusStateChange_obeys (env : External) (supervisor : Supervisor) (value : Int)
    (payload : Payload) :
    SupervisorObeys (contentAct env (.HandleFocusStateChange value payload)) supervisor
      (HandleFocusStateChange supervisor value payload).supervisor := by
  have hother : contentAct env (.HandleFocusStateChange value payload) = .other := by
    simp only [contentAct, recordAct]
    cases ParseFocus payload with
    | none => rfl
    | some info =>
        dsimp only
        split_ifs <;> rfl
  rw [hother]
  refine obeys_parsed _ _ _ _ (fun _ => SupervisorObeys.refl supervisor) fun info _ => ?_
  have hfocus : ∀ (isFocused : Bool) (record : ProcessRecord),
      Obeys .other info.uid info.pid record.contents (record.withWindowInfo info.windowId
        (focusWindow isFocused info.windowType info.displayId)).contents :=
    fun isFocused => obeys_withWindowInfo info.uid info.pid info.windowId (fun _ => rfl)
      fun _ => rfl
  split_ifs
  · refine obeys_withAppNonNull supervisor info.uid fun app pid => ?_
    exact appObeys_withRecordNonNull (onlyAbout_other info.uid info.pid)
      (f := fun record => { record.withWindowInfo info.windowId
        (focusWindow true info.windowType info.displayId) with linkedWindow := some info.windowId })
      (hfocus true) app pid
  · rw [HandleUnfocusedWindow]
    cases supervisor.record? info.uid info.pid with
    | none => exact SupervisorObeys.refl supervisor
    | some _ =>
        refine obeys_withApp supervisor info.uid fun app pid => ?_
        exact appObeys_withRecord (onlyAbout_other info.uid info.pid) (hfocus false) app
          (obeys_other_of_eq rfl) pid
  · exact SupervisorObeys.refl supervisor

theorem HandleContinuousTaskStatus_obeys (supervisor : Supervisor) (value : Int)
    (payload : Payload) :
    SupervisorObeys .other supervisor
      (HandleContinuousTaskStatus supervisor value payload).supervisor := by
  refine obeys_parsed _ _ _ _ (fun _ => SupervisorObeys.refl supervisor) ?_
  rintro ⟨uid, pid, abilityId⟩ -
  dsimp only
  split_ifs
  · exact silent_withRecordNonNull uid pid (fun _ => by rfl) supervisor
  · exact (silent_withAppNonNull_id supervisor uid).after_other
      (silent_withRecordAdjusted uid pid (fun _ => by rfl) _ _)
  · exact SupervisorObeys.refl supervisor

theorem HandleReportKeyThread_obeys (supervisor : Supervisor) (tidIsInPid : Bool) (value : Int)
    (payload : Payload) :
    SupervisorObeys .other supervisor
      (HandleReportKeyThread supervisor tidIsInPid value payload).supervisor := by
  refine obeys_procInfo supervisor payload _ fun uid pid after hafter => ?_
  refine obeys_parsed _ _ _ _ (fun _ => hafter) ?_
  rintro ⟨keyTid, role⟩ -
  dsimp only
  split_ifs
  · exact hafter
  all_goals
    rw [adjustHost_supervisor]
    exact hafter.after_other (silent_withRecord uid pid (fun _ => by rfl) after)

theorem contents_UpdateActivepWebRenderInfo (supervisor : Supervisor) (state : Int)
    (windowId : Nat) (record : ProcessRecord) :
    (UpdateActivepWebRenderInfo supervisor state windowId record).contents = record.contents := by
  rw [UpdateActivepWebRenderInfo]
  split_ifs <;> rfl

theorem HandleReportWindowState_obeys (supervisor : Supervisor) (payload : Payload) :
    SupervisorObeys .other supervisor (HandleReportWindowState supervisor payload).supervisor := by
  refine obeys_procInfo supervisor payload _ fun uid pid after hafter => ?_
  refine obeys_parsed _ _ _ _ (fun _ => hafter) ?_
  rintro ⟨windowId, state, nowSerialNum⟩ -
  dsimp only
  cases (after.record? uid pid).map ProcessRecord.serialNum with
  | none => exact hafter
  | some serialNum =>
      dsimp only
      split_ifs
      · exact hafter
      · rw [adjustHost_supervisor]
        refine hafter.after_other (silent_withRecord uid pid (fun record => ?_) after)
        exact contents_UpdateActivepWebRenderInfo after state windowId _

theorem HandleReportCosmicCubeState_obeys (supervisor : Supervisor) (value : Int)
    (payload : Payload) :
    SupervisorObeys .other supervisor
      (HandleReportCosmicCubeState supervisor value payload).supervisor := by
  have hshow : ∀ (supervisor : Supervisor) (uid : Int) (hide : Bool),
      SupervisorObeys .other supervisor
        (supervisor.withApp uid fun app => { app with isCosmicCubeStateHide := hide }) :=
    fun supervisor uid _ => obeys_withApp supervisor uid fun _ _ => obeys_other_of_eq rfl
  rw [HandleReportCosmicCubeState]
  cases ParsePayload payload with
  | none =>
      dsimp only
      rw [HandleEmptyPayloadForCosmicCubeState]
      split_ifs
      · exact SupervisorObeys.refl supervisor
      · exact List.foldlRecOn _ _ (SupervisorObeys.refl supervisor)
          fun _ hbefore uid _ => hbefore.after_other (hshow _ uid false)
  | some ids =>
      obtain ⟨uid, pid⟩ := ids
      dsimp only
      cases supervisor.record? uid pid with
      | none => exact SupervisorObeys.refl supervisor
      | some record => exact hshow supervisor uid _

/-- Before the adjuster is called, every process has changed as the event says. -/
theorem update_obeys (env : External) (supervisor : Supervisor) (event : Event) :
    SupervisorObeys (contentAct env event) supervisor
      (supervisor.update env event).supervisor := by
  have hrefl := SupervisorObeys.refl supervisor
  cases event with
  | HandleApplicationStateChanged payload =>
      refine obeys_parsed _ _ _ _ (fun _ => hrefl) ?_
      rintro ⟨uid, state⟩ -
      dsimp only
      split_ifs
      · exact hrefl
      · exact silent_withAppNonNull_id supervisor uid
  | HandleProcessStateChangedEx value payload =>
      exact HandleProcessStateChangedEx_obeys env supervisor value payload
  | HandleOnAppStopped payload => exact HandleOnAppStopped_obeys env supervisor payload
  | HandleAbilityStateChanged payload =>
      exact HandleAbilityStateChanged_obeys env supervisor payload
  | HandleExtensionStateChanged payload =>
      exact HandleExtensionStateChanged_obeys env supervisor payload
  | HandleTransientTaskStatus value payload =>
      refine obeys_parsed _ _ _ _ (fun _ => hrefl) ?_
      rintro ⟨uid, pid⟩ -
      dsimp only
      split_ifs
      · exact obeys_withAppNonNull supervisor uid
          (appSilent_withRecord uid pid fun _ => by rfl)
      · exact hrefl
  | HandleContinuousTaskStatus value payload =>
      exact HandleContinuousTaskStatus_obeys supervisor value payload
  | HandleFocusStateChange value payload =>
      exact HandleFocusStateChange_obeys env supervisor value payload
  | HandleWindowVisibilityChanged value payload =>
      exact HandleWindowVisibilityChanged_obeys supervisor value payload
  | HandleDrawingContentChangeWindow value payload =>
      refine obeys_parsed _ _ _ _ (fun _ => hrefl) ?_
      rintro ⟨pid, uid, windowId⟩ -
      refine obeys_withApp supervisor uid fun app =>
        appObeys_withRecord (onlyAbout_other uid pid) (fun record => ?_) app
          (obeys_other_of_eq rfl)
      exact obeys_withWindowInfo uid pid windowId
        (f := fun window => { window with drawingContentState := value ≠ 0 })
        (fun _ => rfl) (fun _ => rfl) record
  | HandleReportKeyThread tidIsInPid value payload =>
      exact HandleReportKeyThread_obeys supervisor tidIsInPid value payload
  | HandleReportWindowState payload => exact HandleReportWindowState_obeys supervisor payload
  | HandleWebviewScreenCapture value payload =>
      refine obeys_procInfo supervisor payload _ fun uid pid after hafter => ?_
      exact hafter.after_other (silent_withRecordAdjusted uid pid (fun _ => by rfl) after _)
  | HandleReportWebviewVideoState value payload =>
      refine obeys_procInfo supervisor payload _ fun uid pid after hafter => ?_
      exact hafter.after_other (silent_withRecord uid pid (fun _ => by rfl) after)
  | HandleReportAudioState value payload =>
      refine obeys_parsed _ _ _ _ (fun _ => hrefl) fun ids _ => ?_
      exact silent_withRecordAdjusted ids.1 ids.2 (fun _ => by rfl) supervisor _
  | HandleReportAudioCapTureState value payload =>
      refine obeys_parsed _ _ _ _ (fun _ => hrefl) fun ids _ => ?_
      exact silent_withRecordAdjusted ids.1 ids.2 (fun _ => by rfl) supervisor _
  | HandleReportWebviewAudioState value payload =>
      refine obeys_parsed _ _ _ _ (fun _ => hrefl) ?_
      rintro ⟨uid, pid⟩ -
      exact (silent_withAppNonNull_id supervisor uid).after_other
        (silent_withRecordAdjusted uid pid (fun _ => by rfl) _ _)
  | HandleReportScreenCaptureEvent value payload =>
      refine obeys_parsed _ _ _ _ (fun _ => hrefl) fun ids _ => ?_
      exact silent_withRecordAdjusted ids.1 ids.2 (fun _ => by rfl) supervisor _
  | HandleReportCosmicCubeState value payload =>
      exact HandleReportCosmicCubeState_obeys supervisor value payload

/-! ## Every notice -/

theorem SupervisorRegrouped.contents {before after : Supervisor}
    (h : SupervisorRegrouped before after) (uid pid : Int) :
    (after.app uid).contents pid = (before.app uid).contents pid := by
  rw [Application.contents, Application.contents]
  cases hbefore : (before.app uid).pidsMap.lookup pid with
  | none => rw [(h uid).absent pid hbefore]
  | some record =>
      obtain ⟨record', hafter, _, _, _, rfl⟩ := (h uid).found pid record hbefore
      rw [hafter]
      rfl

theorem handle_obeys (env : External) (supervisor : Supervisor) (event : Event) :
    SupervisorObeys (contentAct env event) supervisor (supervisor.handle env event) := by
  intro uid pid
  rw [(handle_regrouped env supervisor event).contents]
  exact update_obeys env supervisor event uid pid

theorem reload_obeys (supervisor : Supervisor) (runningProcess : List RunningProcessInfo)
    (childProcess : List ChildProcessInfo) :
    SupervisorObeys .other supervisor
      (supervisor.InitSuperVisorContent runningProcess childProcess) := by
  have hrunning : SupervisorObeys .other supervisor
      (supervisor.ReloadApplication runningProcess) :=
    List.foldlRecOn _ _ (SupervisorObeys.refl supervisor) fun _ hbefore process _ =>
      hbefore.after_other (silent_withRecordNonNull process.uid process.pid (fun _ => rfl) _)
  refine List.foldlRecOn _ _ hrunning fun _ hbefore process _ => hbefore.after_other ?_
  refine obeys_withAppNonNull _ process.hostUid fun app => ?_
  exact appSilent_withRecordNonNull process.hostUid process.pid (fun _ => by rfl)
    { app with hostPidsSet := insert process.hostPid app.hostPidsSet }

theorem notice_obeys (env : External) (supervisor : Supervisor) (notice : Notice) :
    SupervisorObeys (noticeAct env notice) supervisor (supervisor.notice env notice) := by
  cases notice with
  | cgroupEvent event => exact handle_obeys env supervisor event
  | ReportAbilityStatus value payload runningProcess childProcess =>
      simp only [Supervisor.notice, ReportAbilityStatus]
      split_ifs
      · exact reload_obeys supervisor runningProcess childProcess
      · exact SupervisorObeys.refl supervisor

/-! ## Every run -/

/-- The windows and the abilities of every process have distinct ids. -/
def AllDistinct (supervisor : Supervisor) : Prop :=
  ∀ uid pid, (((supervisor.app uid).contents pid).windows.map WindowInfo.windowId).Nodup ∧
    (((supervisor.app uid).contents pid).abilities.map AbilityInfo.recordId).Nodup

theorem notice_allDistinct (env : External) (supervisor : Supervisor) (notice : Notice)
    (h : AllDistinct supervisor) : AllDistinct (supervisor.notice env notice) := by
  intro uid pid
  have hobeys := notice_obeys env supervisor notice uid pid
  exact ⟨hobeys.windows.distinct (h uid pid).1, hobeys.abilities.distinct (h uid pid).2⟩

theorem allDistinct_start : AllDistinct Supervisor.start :=
  fun _ _ => ⟨List.nodup_nil, List.nodup_nil⟩

theorem contents_of_record? {supervisor : Supervisor} {uid pid : Int} {record : ProcessRecord}
    (h : supervisor.record? uid pid = some record) :
    (supervisor.app uid).contents pid = record.contents := by
  rw [record?_eq] at h
  rw [Application.contents, h]
  rfl

section

variable (env : External) (notices : List Notice) (uid pid : Int)

theorem visible_run (windowId : Nat) :
    (entryOf WindowInfo.windowId windowId
        (((run (Supervisor.notice env) Supervisor.start notices).app uid).contents pid).windows).any
        WindowInfo.isVisible =
      (latest (fun notice => (noticeAct env notice).visible uid pid windowId) notices).getD
        false := by
  refine view_run_eq_latest (fun supervisor : Supervisor =>
      (entryOf WindowInfo.windowId windowId ((supervisor.app uid).contents pid).windows).any
        WindowInfo.isVisible)
    (notice_allDistinct env) (fun supervisor notice h => ?_) allDistinct_start notices
  exact (notice_obeys env supervisor notice uid pid).windows.seen (h uid pid).1 windowId

theorem abilityType_run (recordId : Int) :
    (entryOf AbilityInfo.recordId recordId
        (((run (Supervisor.notice env) Supervisor.start notices).app uid).contents
          pid).abilities).map AbilityInfo.type =
      (latest (fun notice => (noticeAct env notice).abilityType uid pid recordId) notices).getD
        none := by
  refine view_run_eq_latest (fun supervisor : Supervisor =>
      (entryOf AbilityInfo.recordId recordId ((supervisor.app uid).contents pid).abilities).map
        AbilityInfo.type)
    (notice_allDistinct env) (fun supervisor notice h => ?_) allDistinct_start notices
  exact (notice_obeys env supervisor notice uid pid).abilities.seen (h uid pid).2 recordId

end

theorem HasAbility_RemoveAbilityByRecordId {record : ProcessRecord}
    (h : (record.abilities.map AbilityInfo.recordId).Nodup) (recordId : Int) :
    (record.RemoveAbilityByRecordId recordId).HasAbility recordId = false := by
  have hgone : entryOf AbilityInfo.recordId recordId
      (record.RemoveAbilityByRecordId recordId).abilities = none :=
    (entryOf_eraseP h recordId).trans (if_pos rfl)
  rw [ProcessRecord.HasAbility]
  rw [entryOf_eq_none_iff] at hgone
  simpa using hgone

/-- In every record that is reached, each window and each ability has one entry, removing an
ability leaves no entry of it, and the two tests depend only on the latest of the notices about
each window and about each ability. -/
theorem record_identified (env : External) (notices : List Notice) (uid pid : Int)
    (record : ProcessRecord)
    (hrecord : (run (Supervisor.notice env) Supervisor.start notices).record? uid pid =
      some record) : Identified env notices uid pid record := by
  have hcontents := contents_of_record? hrecord
  have hdistinct : AllDistinct (run (Supervisor.notice env) Supervisor.start notices) :=
    (always_of_step (Supervisor.notice env) (notice_allDistinct env) notices Supervisor.start
      allDistinct_start).last
  obtain ⟨hwindows, habilities⟩ := hdistinct uid pid
  rw [hcontents] at hwindows habilities
  refine ⟨hwindows, habilities, HasAbility_RemoveAbilityByRecordId habilities,
    fun _ => entryOf_eq_some_iff hwindows, fun _ => entryOf_eq_some_iff habilities, ?_, ?_⟩
  · refine (any_iff_entryOf hwindows WindowInfo.isVisible).trans (exists_congr fun windowId => ?_)
    have hrun := visible_run env notices uid pid windowId
    rw [hcontents] at hrun
    rw [hrun]
    cases latest (fun notice => (noticeAct env notice).visible uid pid windowId) notices <;> simp
  · refine (any_iff_entryOf habilities fun ability => isServiceType env ability.type).trans
      (exists_congr fun recordId => ?_)
    have hrun := abilityType_run env notices uid pid recordId
    rw [hcontents] at hrun
    have hmap : ∀ ability : Option AbilityInfo,
        ability.any (fun ability => isServiceType env ability.type) =
          (ability.map AbilityInfo.type).any (isServiceType env) := by
      intro ability
      cases ability <;> rfl
    rw [hmap, hrun]
    cases latest (fun notice => (noticeAct env notice).abilityType uid pid recordId) notices with
    | none => simp
    | some type => cases type <;> simp

def windowShown (value : Int) : Notice :=
  .cgroupEvent (.HandleWindowVisibilityChanged value (.object
    [("pid", .string "3000"), ("uid", .string "2000"), ("windowId", .string "7"),
      ("windowType", .string "1")]))

def serviceState (extensionState : String) : Notice :=
  .cgroupEvent (.HandleExtensionStateChanged (.object
    [("uid", .string "2000"), ("pid", .string "3000"), ("bundleName", .string "a"),
      ("abilityName", .string "b"), ("recordId", .string "11"),
      ("extensionState", .string extensionState), ("abilityType", .string "2")]))

/-- A window is hidden, focused and shown again; a service starts and terminates. -/
def shownAfterFocus : List Notice :=
  [windowShown 1, serviceState "0", windowShown 0,
    .cgroupEvent (focusEvent WINDOW_FOCUS "2000" "3000" "7"), windowShown 1, serviceState "4"]

theorem shownAfterFocus_identified : ∃ record,
    (run (Supervisor.notice framework) Supervisor.start shownAfterFocus).record? 2000 3000 =
        some record ∧
      Identified framework shownAfterFocus 2000 3000 record ∧
      record.IsVisible = true ∧ HasServiceExtension framework record = false := by
  have htests : ((run (Supervisor.notice framework) Supervisor.start shownAfterFocus).record? 2000
      3000).map (fun record => (record.IsVisible, HasServiceExtension framework record)) =
        some (true, false) := by
    decide +kernel
  obtain ⟨record, hrecord, heq⟩ := Option.map_eq_some_iff.mp htests
  rw [Prod.mk.injEq] at heq
  exact ⟨record, hrecord,
    record_identified framework shownAfterFocus 2000 3000 record hrecord, heq.1, heq.2⟩

end ResSched.Cgroup
