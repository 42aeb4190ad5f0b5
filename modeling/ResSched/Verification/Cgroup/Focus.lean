import ResSched.Library.Recency
import ResSched.Library.Transition
import ResSched.Verification.Cgroup.Adjuster

/-! # The focused process of an application

`focusedProcess_` against the focus flags of the windows. The events are watched together with the
history of the focus events, the most recent one first.
-/

namespace ResSched.Cgroup

open Transition

structure Watched where
  supervisor : Supervisor
  /-- The uid and the pid of each focus event. -/
  history : List (Int × Int)

def Watched.start : Watched :=
  ⟨Supervisor.start, []⟩

def Watched.handle (env : External) (watched : Watched) (event : Event) : Watched where
  supervisor := watched.supervisor.handle env event
  history :=
    match recordAct event with
    | .focused info => (info.uid, info.pid) :: watched.history
    | _ => watched.history

/-- The processes of an application that got the focus, the most recent one first. -/
def Watched.recent (watched : Watched) (uid : Int) : List Int :=
  (watched.history.filter (fun entry => entry.1 = uid)).map Prod.snd

/-! ## The property -/

def Application.hasFocusedWindow (app : Application) (pid : Int) : Bool :=
  (app.pidsMap.lookup pid).any (fun record => record.windows.any WindowInfo.isFocused)

/-- `focusedProcess_` is non-null exactly when a process of the application has a focused window,
and is then the record of the most recently focused one of these. -/
structure FocusAgrees (recent : List Int) (app : Application) : Prop where
  isSome_iff : app.focusedProcess.isSome ↔ ∃ pid, app.hasFocusedWindow pid = true
  most_recent : ∀ pointer, app.focusedProcess = some pointer →
    app.pointer pointer.pid = some pointer ∧
      mostRecent app.hasFocusedWindow recent = some pointer.pid

def Watched.FocusAgrees (watched : Watched) : Prop :=
  ∀ uid, Cgroup.FocusAgrees (watched.recent uid) (watched.supervisor.app uid)

/-- The process whose record `focusedProcess_` points to. -/
def Application.isFocusedProcess (app : Application) (pid : Int) : Prop :=
  (app.pointer pid).isSome ∧ app.focusedProcess = app.pointer pid

/-- Every focused window of the application is one of those that go. -/
def Application.onlyFocused (app : Application) (goes : Int → Nat → Prop) : Prop :=
  ∀ pid record, app.pidsMap.lookup pid = some record →
    ∀ window ∈ record.windows, window.isFocused = true → goes pid window.windowId

/-- A window of the focused process loses the focus, or that process dies, only as the last of the
application with a focused window. -/
def LastFocusDropped (watched : Watched) (event : Event) : Prop :=
  match recordAct event with
  | .unfocused info =>
      (watched.supervisor.app info.uid).isFocusedProcess info.pid →
        (watched.supervisor.app info.uid).onlyFocused
          (fun pid windowId => pid = info.pid ∧ windowId = info.windowId)
  | .died uid pid =>
      (watched.supervisor.app uid).isFocusedProcess pid →
        (watched.supervisor.app uid).onlyFocused (fun other _ => other = pid)
  | _ => True

/-- An unfocus of one window does not clear the focus of a process with another focused window. -/
def OtherWindowKeepsFocus (env : External) (watched : Watched) (event : Event) : Prop :=
  match recordAct event with
  | .unfocused info =>
      (watched.supervisor.app info.uid).isFocusedProcess info.pid →
        (∃ record, (watched.supervisor.app info.uid).pidsMap.lookup info.pid = some record ∧
          ∃ window ∈ record.windows, window.isFocused = true ∧ window.windowId ≠ info.windowId) →
        ((watched.handle env event).supervisor.app info.uid).isFocusedProcess info.pid
  | _ => True

/-! ## The property as an equation -/

/-- What holds of the windows in every run: their ids are distinct, and each focused one is of a
process that got the focus. -/
structure FocusInvariant (recent : List Int) (app : Application) : Prop where
  distinct : ∀ pid record, app.pidsMap.lookup pid = some record →
    (record.windows.map WindowInfo.windowId).Nodup
  listed : ∀ pid, app.hasFocusedWindow pid = true → pid ∈ recent

/-- The pointer to the most recently focused process with a focused window. -/
def expectedFocus (recent : List Int) (app : Application) : Option RecordPointer :=
  (mostRecent app.hasFocusedWindow recent).bind app.pointer

theorem pointer_isSome_of_hasFocusedWindow {app : Application} {pid : Int}
    (h : app.hasFocusedWindow pid = true) : ∃ pointer, app.pointer pid = some pointer := by
  rw [Application.hasFocusedWindow] at h
  rw [Application.pointer]
  cases hlookup : app.pidsMap.lookup pid with
  | none =>
      rw [hlookup] at h
      exact absurd h (by simp)
  | some record => exact ⟨⟨pid, record.address⟩, rfl⟩

theorem pid_of_pointer {app : Application} {pid : Int} {pointer : RecordPointer}
    (h : app.pointer pid = some pointer) : pointer.pid = pid := by
  rw [Application.pointer] at h
  obtain ⟨record, _, rfl⟩ := Option.map_eq_some_iff.mp h
  rfl

theorem expectedFocus_eq_none_iff {recent : List Int} {app : Application}
    (hlisted : ∀ pid, app.hasFocusedWindow pid = true → pid ∈ recent) :
    expectedFocus recent app = none ↔ ∀ pid, app.hasFocusedWindow pid = false := by
  rw [expectedFocus]
  rw [← mostRecent_eq_none_iff hlisted]
  cases h : mostRecent app.hasFocusedWindow recent with
  | none => simp
  | some pid =>
      obtain ⟨pointer, hpointer⟩ :=
        pointer_isSome_of_hasFocusedWindow (qualifies_of_mostRecent h)
      simp [hpointer]

theorem focusAgrees_iff {recent : List Int} {app : Application}
    (hlisted : ∀ pid, app.hasFocusedWindow pid = true → pid ∈ recent) :
    FocusAgrees recent app ↔ app.focusedProcess = expectedFocus recent app := by
  constructor
  · intro h
    cases hfocused : app.focusedProcess with
    | none =>
        symm
        rw [expectedFocus_eq_none_iff hlisted]
        intro pid
        rw [← Bool.not_eq_true]
        intro hpid
        have hsome := h.isSome_iff.mpr ⟨pid, hpid⟩
        rw [hfocused] at hsome
        exact absurd hsome (by simp)
    | some pointer =>
        obtain ⟨hpointer, hrecent⟩ := h.most_recent pointer hfocused
        rw [expectedFocus]
        rw [hrecent, Option.bind_some, hpointer]
  · intro h
    constructor
    · rw [h, ← not_iff_not, Option.not_isSome_iff_eq_none, expectedFocus_eq_none_iff hlisted]
      simp
    · intro pointer hfocused
      rw [h] at hfocused
      obtain ⟨pid, hrecent, hpointer⟩ := Option.bind_eq_some_iff.mp hfocused
      obtain rfl := pid_of_pointer hpointer
      exact ⟨hpointer, hrecent⟩

/-! ## Changes that keep the focus -/

structure SameFocus (before after : Application) : Prop where
  focusedProcess : after.focusedProcess = before.focusedProcess
  records : RecordsRelated FocusKept before.pidsMap after.pidsMap

theorem SameFocus.refl (app : Application) : SameFocus app app :=
  ⟨rfl, RecordsRelated.refl FocusKept.refl app.pidsMap⟩

theorem SameFocus.trans {a b c : Application} (h : SameFocus a b) (h' : SameFocus b c) :
    SameFocus a c :=
  ⟨h'.focusedProcess.trans h.focusedProcess,
    RecordsRelated.trans (R := FocusKept) (fun _ _ _ => FocusKept.trans) h.records h'.records⟩

theorem AppKept.sameFocus {before after : Application} (h : AppKept before after) :
    SameFocus before after :=
  ⟨h.focusedProcess, h.records.mono fun _ _ hkept => hkept.1⟩

theorem SameButGroups.focusKept {before after : ProcessRecord} (h : SameButGroups before after) :
    FocusKept before after := by
  obtain ⟨_, _, _, rfl⟩ := h
  exact ⟨rfl, rfl, id⟩

theorem AppRegrouped.sameFocus {before after : Application} (h : AppRegrouped before after) :
    SameFocus before after := by
  refine ⟨h.focusedProcess, ?_, ?_⟩
  · intro pid record hlookup
    obtain ⟨record', hafter, hsame⟩ := h.found pid record hlookup
    exact ⟨record', hafter, hsame.focusKept⟩
  · intro pid record' hnone hafter
    exact absurd ((h.absent pid hnone).symm.trans hafter) (by simp)

theorem createApplication_sameFocus (env : External) (info : ProcessCreateInfo)
    (app : Application) : SameFocus app (createApplication env info app) := by
  refine ⟨focusedProcess_createApplication env info app, ?_⟩
  rw [pidsMap_createApplication]
  exact related_withRecordNonNull FocusKept.refl app info.pid (createdRecord env info)
    fun _ => ⟨rfl, rfl, id⟩

theorem SameFocus.hasFocusedWindow {before after : Application} (h : SameFocus before after)
    (pid : Int) : after.hasFocusedWindow pid = before.hasFocusedWindow pid := by
  unfold Application.hasFocusedWindow
  cases hbefore : before.pidsMap.lookup pid with
  | some record =>
      obtain ⟨record', hafter, hkept⟩ := h.records.found pid record hbefore
      rw [hafter]
      exact hkept.focused
  | none =>
      cases hafter : after.pidsMap.lookup pid with
      | none => rfl
      | some record' =>
          obtain ⟨address, hkept⟩ := h.records.made pid record' hbefore hafter
          exact hkept.focused

theorem SameFocus.expectedFocus {before after : Application} (h : SameFocus before after)
    (recent : List Int) : expectedFocus recent after = Cgroup.expectedFocus recent before := by
  unfold Cgroup.expectedFocus
  rw [mostRecent_congr h.hasFocusedWindow]
  cases hrecent : mostRecent before.hasFocusedWindow recent with
  | none => rfl
  | some pid =>
      obtain ⟨pointer, hpointer⟩ :=
        pointer_isSome_of_hasFocusedWindow (qualifies_of_mostRecent hrecent)
      obtain ⟨record, hbefore, _⟩ := Option.map_eq_some_iff.mp hpointer
      obtain ⟨record', hafter, hkept⟩ := h.records.found pid record hbefore
      simp only [Option.bind_some, Application.pointer, hbefore, hafter, Option.map_some,
        hkept.address]

theorem SameFocus.invariant {before after : Application} (h : SameFocus before after)
    {recent : List Int} (hinv : FocusInvariant recent before) : FocusInvariant recent after := by
  constructor
  · intro pid record' hafter
    cases hbefore : before.pidsMap.lookup pid with
    | some record =>
        obtain ⟨record'', hafter', hkept⟩ := h.records.found pid record hbefore
        obtain rfl := Option.some.inj (hafter'.symm.trans hafter)
        exact hkept.distinct (hinv.distinct pid record hbefore)
    | none =>
        obtain ⟨address, hkept⟩ := h.records.made pid record' hbefore hafter
        exact hkept.distinct List.nodup_nil
  · intro pid hpid
    rw [h.hasFocusedWindow] at hpid
    exact hinv.listed pid hpid

theorem SameFocus.agrees_iff {before after : Application} (h : SameFocus before after)
    {recent : List Int} (hinv : FocusInvariant recent before) :
    FocusAgrees recent after ↔ FocusAgrees recent before := by
  rw [focusAgrees_iff hinv.listed, focusAgrees_iff (h.invariant hinv).listed, h.focusedProcess,
    h.expectedFocus]

/-! ## A window that gets the focus -/

theorem hasFocusedWindow_iff (app : Application) (pid : Int) :
    app.hasFocusedWindow pid = true ↔ ∃ record, app.pidsMap.lookup pid = some record ∧
      ∃ window ∈ record.windows, window.isFocused = true := by
  simp [Application.hasFocusedWindow, Option.any_eq_true]

theorem hasFocusedWindow_congr {before after : Application} {pid : Int}
    (h : after.pidsMap.lookup pid = before.pidsMap.lookup pid) :
    after.hasFocusedWindow pid = before.hasFocusedWindow pid := by
  unfold Application.hasFocusedWindow
  rw [h]

section

variable (windowId : Nat) (windowType displayId pid : Int) (app : Application)

theorem hasFocusedWindow_focusApplication :
    (focusApplication windowId windowType displayId pid app).hasFocusedWindow pid = true := by
  rw [hasFocusedWindow_iff]
  refine ⟨_, (lookup_focusApplication windowId windowType displayId pid app pid).trans
    (if_pos rfl), ?_⟩
  obtain ⟨window, hwindow, _, old, hold⟩ := exists_mem_upsert WindowInfo.windowId windowId
    (WindowInfo.new windowId) (focusWindow true windowType displayId) (fun _ => rfl) rfl
    ((app.pidsMap.lookup pid).getD (ProcessRecord.new app.created)).windows
  exact ⟨window, hwindow, by rw [hold]; rfl⟩

theorem invariant_focusApplication {recent : List Int} (hinv : FocusInvariant recent app) :
    FocusInvariant (pid :: recent) (focusApplication windowId windowType displayId pid app) := by
  constructor
  · intro other record hlookup
    rw [lookup_focusApplication] at hlookup
    split_ifs at hlookup with hother
    · obtain rfl := Option.some.inj hlookup
      refine nodup_keys_upsert WindowInfo.windowId windowId (WindowInfo.new windowId)
        (focusWindow true windowType displayId) rfl (fun _ => rfl) _ ?_
      cases hpid : app.pidsMap.lookup pid with
      | none => exact List.nodup_nil
      | some old => exact hinv.distinct pid old hpid
    · exact hinv.distinct other record hlookup
  · intro other hfocused
    by_cases hother : other = pid
    · exact hother ▸ List.mem_cons_self
    · rw [hasFocusedWindow_congr ((lookup_focusApplication _ _ _ _ _ _).trans (if_neg hother))]
        at hfocused
      exact List.mem_cons_of_mem pid (hinv.listed other hfocused)

/-- A process whose window gets the focus is the focused one. -/
theorem agrees_focusApplication {recent : List Int} (hinv : FocusInvariant recent app) :
    FocusAgrees (pid :: recent) (focusApplication windowId windowType displayId pid app) := by
  have hafter := invariant_focusApplication windowId windowType displayId pid app hinv
  rw [focusAgrees_iff hafter.listed]
  rw [expectedFocus]
  rw [mostRecent_cons (hasFocusedWindow_focusApplication windowId windowType displayId pid app)]
  rfl

end

/-! ## A process that loses a focused window -/

/-- One process has lost focused windows at most, and is no longer the focused one. -/
structure FocusDropped (pid : Int) (before after : Application) : Prop where
  others : ∀ other, other ≠ pid → after.pidsMap.lookup other = before.pidsMap.lookup other
  own : ∀ record, after.pidsMap.lookup pid = some record →
    ∃ old, before.pidsMap.lookup pid = some old ∧ record.address = old.address ∧
      (record.windows.any WindowInfo.isFocused = true →
        old.windows.any WindowInfo.isFocused = true) ∧
      ((old.windows.map WindowInfo.windowId).Nodup →
        (record.windows.map WindowInfo.windowId).Nodup)
  focusedProcess : after.focusedProcess =
    if before.focusedProcess = before.pointer pid then none else before.focusedProcess

section

variable {pid : Int} {before after : Application} (h : FocusDropped pid before after)
include h

theorem FocusDropped.hasFocusedWindow (other : Int) (hother : after.hasFocusedWindow other = true) :
    before.hasFocusedWindow other = true := by
  by_cases hpid : other = pid
  · subst hpid
    unfold Application.hasFocusedWindow at *
    cases hafter : after.pidsMap.lookup other with
    | none =>
        rw [hafter] at hother
        exact absurd hother (by simp)
    | some record =>
        obtain ⟨old, hbefore, _, hfocused, _⟩ := h.own record hafter
        rw [hafter] at hother
        rw [hbefore]
        exact hfocused hother
  · rw [← hasFocusedWindow_congr (h.others other hpid)]
    exact hother

theorem FocusDropped.invariant {recent : List Int} (hinv : FocusInvariant recent before) :
    FocusInvariant recent after := by
  constructor
  · intro other record hafter
    by_cases hpid : other = pid
    · subst hpid
      obtain ⟨old, hbefore, _, _, hdistinct⟩ := h.own record hafter
      exact hdistinct (hinv.distinct other old hbefore)
    · exact hinv.distinct other record ((h.others other hpid).symm.trans hafter)
  · exact fun other hother => hinv.listed other (h.hasFocusedWindow other hother)

/-- When another process is the focused one, it stays the most recent one. -/
theorem FocusDropped.expectedFocus_eq {recent : List Int}
    (hne : expectedFocus recent before ≠ before.pointer pid) :
    expectedFocus recent after = expectedFocus recent before := by
  unfold expectedFocus at *
  cases hrecent : mostRecent before.hasFocusedWindow recent with
  | none => rw [mostRecent_eq_none_of_imp h.hasFocusedWindow hrecent]; rfl
  | some other =>
      have hpid : other ≠ pid := by
        rintro rfl
        exact hne (by rw [hrecent, Option.bind_some])
      have hsame := h.others other hpid
      have hfocused : after.hasFocusedWindow other = true :=
        (hasFocusedWindow_congr hsame).trans (qualifies_of_mostRecent hrecent)
      rw [mostRecent_eq_some_of_imp h.hasFocusedWindow hrecent hfocused, Option.bind_some,
        Option.bind_some]
      unfold Application.pointer
      rw [hsame]

theorem FocusDropped.agrees_iff {recent : List Int} (hinv : FocusInvariant recent before)
    (hagrees : FocusAgrees recent before) :
    FocusAgrees recent after ↔
      (before.isFocusedProcess pid → ∀ other, after.hasFocusedWindow other = false) := by
  rw [focusAgrees_iff hinv.listed] at hagrees
  have hlisted := (h.invariant hinv).listed
  rw [focusAgrees_iff hlisted, h.focusedProcess]
  by_cases hsame : before.focusedProcess = before.pointer pid
  · rw [if_pos hsame, eq_comm, expectedFocus_eq_none_iff hlisted]
    constructor
    · exact fun hnone _ => hnone
    · intro hguard
      cases hpointer : before.pointer pid with
      | some pointer => exact hguard ⟨by rw [hpointer]; rfl, hsame⟩
      | none =>
          rw [hagrees, hpointer, expectedFocus_eq_none_iff hinv.listed] at hsame
          intro other
          rw [← Bool.not_eq_true]
          intro hother
          simpa [hsame other] using h.hasFocusedWindow other hother
  · rw [if_neg hsame, h.expectedFocus_eq (hagrees ▸ hsame)]
    exact ⟨fun _ hfocused => absurd hfocused.2 hsame, fun _ => hagrees⟩

end

/-! ## Unfocusing and dying -/

/-- Nothing has the focus afterwards when only what goes had it before. -/
theorem noneFocused_iff {before after : Application} (goes : Int → Nat → Prop)
    (h : ∀ pid, after.hasFocusedWindow pid = true ↔
      ∃ record, before.pidsMap.lookup pid = some record ∧
        ∃ window ∈ record.windows, window.isFocused = true ∧ ¬ goes pid window.windowId) :
    (∀ pid, after.hasFocusedWindow pid = false) ↔ before.onlyFocused goes := by
  constructor
  · intro hnone pid record hlookup window hwindow hfocused
    by_contra hgoes
    have hpid := (h pid).mpr ⟨record, hlookup, window, hwindow, hfocused, hgoes⟩
    simp [hnone pid] at hpid
  · intro honly pid
    rw [← Bool.not_eq_true, h]
    rintro ⟨record, hlookup, window, hwindow, hfocused, hgoes⟩
    exact hgoes (honly pid record hlookup window hwindow hfocused)

section

variable (windowId : Nat) (windowType displayId pid : Int) (app : Application)

theorem unfocusApplication_dropped :
    FocusDropped pid app (unfocusApplication windowId windowType displayId pid app) := by
  constructor
  · intro other hother
    rw [lookup_unfocusApplication, if_neg hother]
  · intro record hlookup
    rw [lookup_unfocusApplication, if_pos rfl] at hlookup
    obtain ⟨old, hold, rfl⟩ := Option.map_eq_some_iff.mp hlookup
    refine ⟨old, hold, rfl, ?_, nodup_keys_upsert WindowInfo.windowId windowId
      (WindowInfo.new windowId) (focusWindow false windowType displayId) rfl (fun _ => rfl) _⟩
    rw [List.any_eq_true, List.any_eq_true]
    rintro ⟨window, hwindow, hfocused⟩
    rcases mem_or_modified_of_mem_upsert _ _ _ _ _ _ hwindow with hmem | ⟨_, rfl⟩
    · exact ⟨window, hmem, hfocused⟩
    · exact absurd hfocused Bool.false_ne_true
  · have hpointer : (app.withRecord pid (fun record =>
        record.withWindowInfo windowId (focusWindow false windowType displayId))).pointer pid =
          app.pointer pid := by
      rw [Application.pointer]
      rw [lookup_withRecord, if_pos rfl, Option.map_map]
      rfl
    rw [unfocusApplication]
    dsimp only
    rw [hpointer]
    rfl

theorem hasFocusedWindow_unfocusApplication (hdistinct : ∀ record,
      app.pidsMap.lookup pid = some record → (record.windows.map WindowInfo.windowId).Nodup)
    (other : Int) :
    (unfocusApplication windowId windowType displayId pid app).hasFocusedWindow other = true ↔
      ∃ record, app.pidsMap.lookup other = some record ∧ ∃ window ∈ record.windows,
        window.isFocused = true ∧ ¬ (other = pid ∧ window.windowId = windowId) := by
  rw [hasFocusedWindow_iff]
  have hmem : ∀ (old : ProcessRecord) (window : WindowInfo), window.windowId ≠ windowId →
      (window ∈ (old.withWindowInfo windowId (focusWindow false windowType displayId)).windows ↔
        window ∈ old.windows) := fun old window hne =>
    mem_upsert_of_ne WindowInfo.windowId windowId (WindowInfo.new windowId)
      (focusWindow false windowType displayId) (fun _ => rfl) old.windows window rfl hne
  by_cases hother : other = pid
  · subst hother
    constructor
    · rintro ⟨record, hlookup, window, hwindow, hfocused⟩
      rw [lookup_unfocusApplication, if_pos rfl] at hlookup
      obtain ⟨old, hold, rfl⟩ := Option.map_eq_some_iff.mp hlookup
      have hne : window.windowId ≠ windowId := by
        intro heq
        rcases upsert_modified _ _ _ _ _ (hdistinct old hold) window hwindow heq with
          ⟨_, _, _, rfl⟩ | ⟨_, rfl⟩
        · exact Bool.false_ne_true hfocused
        · exact Bool.false_ne_true hfocused
      exact ⟨old, hold, window, (hmem old window hne).mp hwindow, hfocused,
        fun hgoes => hne hgoes.2⟩
    · rintro ⟨old, hold, window, hwindow, hfocused, hgoes⟩
      have hne : window.windowId ≠ windowId := fun heq => hgoes ⟨rfl, heq⟩
      refine ⟨_, ?_, window, (hmem old window hne).mpr hwindow, hfocused⟩
      rw [lookup_unfocusApplication, if_pos rfl, hold, Option.map_some]
  · rw [lookup_unfocusApplication, if_neg hother]
    simp [hother]

end

section

variable (app : Application) (pid : Int)

theorem RemoveProcessRecord_dropped : FocusDropped pid app (app.RemoveProcessRecord pid) := by
  constructor
  · intro other hother
    rw [lookup_RemoveProcessRecord, if_neg hother]
  · intro record hlookup
    rw [lookup_RemoveProcessRecord, if_pos rfl] at hlookup
    exact absurd hlookup (by simp)
  · rw [Application.RemoveProcessRecord]
    split_ifs with hsome hsame hsame
    · rfl
    · rfl
    · rw [hsame, Application.pointer, Option.not_isSome_iff_eq_none.mp hsome, Option.map_none]
    · rfl

theorem hasFocusedWindow_RemoveProcessRecord (other : Int) :
    (app.RemoveProcessRecord pid).hasFocusedWindow other = true ↔
      ∃ record, app.pidsMap.lookup other = some record ∧
        ∃ window ∈ record.windows, window.isFocused = true ∧ ¬ other = pid := by
  rw [hasFocusedWindow_iff, lookup_RemoveProcessRecord]
  by_cases hother : other = pid
  · simp [hother]
  · simp [hother]

end

/-! ## One application through one event -/

/-- The processes that got the focus, after an event. -/
def recentAfter (act : RecordAct) (uid : Int) (recent : List Int) : List Int :=
  match act with
  | .focused info => if uid = info.uid then info.pid :: recent else recent
  | _ => recent

/-- `LastFocusDropped` for the application of a uid. -/
def DroppedLast (act : RecordAct) (uid : Int) (app : Application) : Prop :=
  match act with
  | .unfocused info =>
      uid = info.uid → app.isFocusedProcess info.pid →
        app.onlyFocused (fun pid windowId => pid = info.pid ∧ windowId = info.windowId)
  | .died ofUid pid =>
      uid = ofUid → app.isFocusedProcess pid → app.onlyFocused (fun other _ => other = pid)
  | _ => True

theorem invariant_new (recent : List Int) : FocusInvariant recent Application.new :=
  ⟨fun _ _ h => absurd h (by simp [Application.new]),
    fun _ h => absurd h (by simp [Application.hasFocusedWindow, Application.new])⟩

theorem agrees_new (recent : List Int) : FocusAgrees recent Application.new := by
  have hnone : expectedFocus recent Application.new = none :=
    (expectedFocus_eq_none_iff (invariant_new recent).listed).mpr fun _ => rfl
  exact (focusAgrees_iff (invariant_new recent).listed).mpr hnone.symm

theorem endProcess_invariant {recent : List Int} {app : Application} (pid : Int)
    (hinv : FocusInvariant recent app) : FocusInvariant recent (endProcess pid app) := by
  rw [endProcess]
  split_ifs
  · exact invariant_new recent
  · exact (RemoveProcessRecord_dropped app pid).invariant hinv

theorem endProcess_agrees_iff {recent : List Int} {app : Application} (pid : Int)
    (hinv : FocusInvariant recent app) (hagrees : FocusAgrees recent app) :
    FocusAgrees recent (endProcess pid app) ↔
      (app.isFocusedProcess pid → app.onlyFocused (fun other _ => other = pid)) := by
  rw [← noneFocused_iff (fun other _ => other = pid) (hasFocusedWindow_RemoveProcessRecord app pid)]
  rw [endProcess]
  split_ifs with hkeys
  · refine iff_of_true (agrees_new recent) fun _ other => ?_
    rw [← Bool.not_eq_true, hasFocusedWindow_iff]
    rintro ⟨record, hlookup, _⟩
    have hmem := (AssocMap.mem_keys_iff _ _).mpr ⟨record, hlookup⟩
    simp [hkeys] at hmem
  · exact (RemoveProcessRecord_dropped app pid).agrees_iff hinv hagrees

theorem appChange_invariant {env : External} {act : RecordAct} {uid : Int}
    {before after : Application}
    (hchange : AppChange env act uid before after) {recent : List Int}
    (hinv : FocusInvariant recent before) : FocusInvariant (recentAfter act uid recent) after := by
  cases act with
  | focused info =>
      simp only [AppChange] at hchange
      simp only [recentAfter]
      subst hchange
      split_ifs
      · exact invariant_focusApplication _ _ _ _ before hinv
      · exact hinv
  | unfocused info =>
      simp only [AppChange] at hchange
      subst hchange
      split_ifs
      · exact (unfocusApplication_dropped _ _ _ _ before).invariant hinv
      · exact hinv
  | created info =>
      simp only [AppChange] at hchange
      subst hchange
      split_ifs
      · exact (createApplication_sameFocus env info before).invariant hinv
      · exact hinv
  | died ofUid pid =>
      simp only [AppChange] at hchange
      subst hchange
      split_ifs
      · exact endProcess_invariant pid hinv
      · exact hinv
  | stopped ofUid =>
      simp only [AppChange] at hchange
      subst hchange
      split_ifs
      · exact invariant_new recent
      · exact hinv
  | other => exact (AppKept.sameFocus hchange).invariant hinv

/-- An application that agrees goes on to agree exactly when the event drops the last focus. -/
theorem appChange_agrees_iff {env : External} {act : RecordAct} {uid : Int}
    {before after : Application}
    (hchange : AppChange env act uid before after) {recent : List Int}
    (hinv : FocusInvariant recent before) (hagrees : FocusAgrees recent before) :
    FocusAgrees (recentAfter act uid recent) after ↔ DroppedLast act uid before := by
  cases act with
  | focused info =>
      simp only [AppChange] at hchange
      simp only [recentAfter, DroppedLast, iff_true]
      subst hchange
      split_ifs
      · exact agrees_focusApplication _ _ _ _ before hinv
      · exact hagrees
  | unfocused info =>
      simp only [AppChange] at hchange
      simp only [recentAfter, DroppedLast]
      subst hchange
      by_cases huid : uid = info.uid
      · rw [if_pos huid, (unfocusApplication_dropped _ _ _ _ before).agrees_iff hinv hagrees,
          noneFocused_iff (fun pid windowId => pid = info.pid ∧ windowId = info.windowId)
            (hasFocusedWindow_unfocusApplication _ _ _ _ before (hinv.distinct info.pid))]
        exact ⟨fun h _ => h, fun h => h huid⟩
      · rw [if_neg huid]
        exact iff_of_true hagrees fun h => absurd h huid
  | created info =>
      simp only [AppChange] at hchange
      simp only [recentAfter, DroppedLast, iff_true]
      subst hchange
      split_ifs
      · exact ((createApplication_sameFocus env info before).agrees_iff hinv).mpr hagrees
      · exact hagrees
  | died ofUid pid =>
      simp only [AppChange] at hchange
      simp only [recentAfter, DroppedLast]
      subst hchange
      by_cases huid : uid = ofUid
      · rw [if_pos huid, endProcess_agrees_iff pid hinv hagrees]
        exact ⟨fun h _ => h, fun h => h huid⟩
      · rw [if_neg huid]
        exact iff_of_true hagrees fun h => absurd h huid
  | stopped ofUid =>
      simp only [AppChange] at hchange
      simp only [recentAfter, DroppedLast, iff_true]
      subst hchange
      split_ifs
      · exact agrees_new recent
      · exact hagrees
  | other =>
      simp only [recentAfter, DroppedLast, iff_true]
      exact ((AppKept.sameFocus hchange).agrees_iff hinv).mpr hagrees

/-! ## Runs -/

def Watched.FocusInvariant (watched : Watched) : Prop :=
  ∀ uid, Cgroup.FocusInvariant (watched.recent uid) (watched.supervisor.app uid)

theorem recent_handle (env : External) (watched : Watched) (event : Event) (uid : Int) :
    (watched.handle env event).recent uid =
      recentAfter (recordAct event) uid (watched.recent uid) := by
  unfold Watched.recent Watched.handle recentAfter
  cases recordAct event with
  | focused info =>
      by_cases huid : info.uid = uid
      · simp [huid]
      · simp [huid, Ne.symm huid]
  | _ => rfl

theorem lastFocusDropped_iff (watched : Watched) (event : Event) :
    LastFocusDropped watched event ↔
      ∀ uid, DroppedLast (recordAct event) uid (watched.supervisor.app uid) := by
  unfold LastFocusDropped DroppedLast
  cases recordAct event with
  | unfocused info => exact ⟨fun h uid huid => huid ▸ h, fun h => h info.uid rfl⟩
  | died ofUid pid => exact ⟨fun h uid huid => huid ▸ h, fun h => h ofUid rfl⟩
  | _ => simp

theorem handle_invariant (env : External) (watched : Watched) (event : Event)
    (hinv : watched.FocusInvariant) : (watched.handle env event).FocusInvariant := by
  intro uid
  rw [recent_handle]
  exact (handle_regrouped env watched.supervisor event uid).sameFocus.invariant
    (appChange_invariant (update_appChange env watched.supervisor event uid) (hinv uid))

theorem handle_agrees_iff (env : External) (watched : Watched) (event : Event)
    (hinv : watched.FocusInvariant) (hagrees : watched.FocusAgrees) :
    (watched.handle env event).FocusAgrees ↔ LastFocusDropped watched event := by
  rw [lastFocusDropped_iff]
  apply forall_congr'
  intro uid
  have hchange := update_appChange env watched.supervisor event uid
  rw [recent_handle]
  exact ((handle_regrouped env watched.supervisor event uid).sameFocus.agrees_iff
    (appChange_invariant hchange (hinv uid))).trans
      (appChange_agrees_iff hchange (hinv uid) (hagrees uid))

theorem otherWindowKeepsFocus_of_dropped (env : External) (watched : Watched) (event : Event)
    (h : LastFocusDropped watched event) : OtherWindowKeepsFocus env watched event := by
  unfold LastFocusDropped OtherWindowKeepsFocus at *
  cases hact : recordAct event with
  | unfocused info =>
      simp only [hact] at h
      rintro hfocused ⟨record, hlookup, window, hwindow, hwindowFocused, hne⟩
      exact absurd (h hfocused info.pid record hlookup window hwindow hwindowFocused).2 hne
  | _ => trivial

/-- In a run of any events `focusedProcess_` agrees with the windows throughout, and no unfocus
takes the focus from a process with another focused window, exactly when each drop of the focused
process is a drop of the last focus. -/
theorem focus_agrees_iff_last_dropped (env : External) (events : List Event) :
    (Always (Watched.handle env) Watched.FocusAgrees Watched.start events ∧
      EachStep (Watched.handle env) (OtherWindowKeepsFocus env) Watched.start events) ↔
      EachStep (Watched.handle env) LastFocusDropped Watched.start events := by
  have hagrees := always_iff_eachStep (Watched.handle env) (handle_invariant env)
    (handle_agrees_iff env) events Watched.start
    (fun _ => invariant_new _) (fun _ => agrees_new _)
  rw [hagrees]
  constructor
  · exact And.left
  · intro h
    exact ⟨h, fun front event hfront =>
      otherWindowKeepsFocus_of_dropped env _ event (h front event hfront)⟩

/-- Two windows of a process get the focus, and the first of them loses it. -/
def firstOfTwoWindows : List Event :=
  [focusEvent WINDOW_FOCUS "2000" "3000" "1", focusEvent WINDOW_FOCUS "2000" "3000" "2",
    focusEvent WINDOW_UNFOCUS "2000" "3000" "1"]

theorem firstOfTwoWindows_clears_focus :
    ¬ ∀ (env : External) (events : List Event),
      Always (Watched.handle env) Watched.FocusAgrees Watched.start events ∧
        EachStep (Watched.handle env) (OtherWindowKeepsFocus env) Watched.start events := by
  intro h
  have hagrees := (h framework firstOfTwoWindows).1.last
  have hsome := (hagrees 2000).isSome_iff.mpr ⟨3000, by decide +kernel⟩
  have hnull : ((run (Watched.handle framework) Watched.start
      firstOfTwoWindows).supervisor.app 2000).focusedProcess = none := by decide +kernel
  rw [hnull] at hsome
  exact absurd hsome (by decide)

end ResSched.Cgroup
