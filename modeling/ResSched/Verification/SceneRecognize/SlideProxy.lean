import ResSched.Library.Transition
import ResSched.Model.SceneRecognize.SlideProxy

/-! # The recognizer of a screen during an interaction -/

namespace ResSched.SceneRecognize.SlideProxy

open Transition
open Slide (SpeedOps FlingTask RES_TYPE_CLICK_RECOGNIZE RES_TYPE_SLIDE_RECOGNIZE
  RES_TYPE_SEND_FRAME_EVENT RES_TYPE_AXIS_EVENT SLIDE_EVENT_OFF SLIDE_EVENT_ON
  SLIDE_EVENT_DETECTING TOUCH_EVENT_DOWN TOUCH_EVENT_UP TOUCH_EVENT_PULL_UP AXIS_EVENT_END)

/-! ## The specification -/

def pending (task : Option FlingTask) : Bool :=
  task.any (·.waiting)

/-- No task of the recognizer is queued, delayed or waiting for the lock. -/
structure NoTask (state : Slide.State) : Prop where
  detecting : state.detectingTasks = []
  flingEnd : pending state.listFlingEndTask = false
  flingTimeOut : pending state.listFlingTimeOutTask = false
  begun : state.begunTasks = []

/-- The interaction is over: back in `IDLE`, not touched, and nothing left to run. -/
structure Finished (state : Slide.State) : Prop where
  idle : state.slideState = .IDLE
  untouched : state.isInTouching = false
  noTask : NoTask state

theorem noTask_iff (state : Slide.State) :
    NoTask state ↔ state.detectingTasks = [] ∧ pending state.listFlingEndTask = false ∧
      pending state.listFlingTimeOutTask = false ∧ state.begunTasks = [] := by
  constructor
  · rintro ⟨hdetecting, hend, htimeOut, hbegun⟩
    exact ⟨hdetecting, hend, htimeOut, hbegun⟩
  · rintro ⟨hdetecting, hend, htimeOut, hbegun⟩
    exact ⟨hdetecting, hend, htimeOut, hbegun⟩

theorem finished_iff (state : Slide.State) :
    Finished state ↔ state.slideState = .IDLE ∧ state.isInTouching = false ∧ NoTask state := by
  constructor
  · rintro ⟨hidle, huntouched, hnoTask⟩
    exact ⟨hidle, huntouched, hnoTask⟩
  · rintro ⟨hidle, huntouched, hnoTask⟩
    exact ⟨hidle, huntouched, hnoTask⟩

instance (state : Slide.State) : Decidable (NoTask state) :=
  decidable_of_iff _ (noTask_iff state).symm

instance (state : Slide.State) : Decidable (Finished state) :=
  decidable_of_iff _ (finished_iff state).symm

/-- The stored instances with an unfinished interaction. -/
def Proxy.unfinished (proxy : Proxy) : List (Sigma fun _ : Nat => Nat) :=
  proxy.instances_.entries.filter fun entry => ¬ Finished (proxy.recognizers entry.2)

/-- The instance `GetOrCreateInstance` returns for the event is the one stored when it returns. -/
def ReturnedStored {F : Type} (proxy : Proxy) : Event F → Prop
  | .dispatch _ rsScreenId resType value payload =>
      let (screenId, proxy) := screenOf proxy rsScreenId resType value payload
      let (recognizer, proxy) := GetOrCreateInstance proxy screenId
      proxy.instances_.lookup screenId = some recognizer
  | _ => True

/-- What the handling of an event owes the screens: the instance of the event is stored, no
unfinished one is dropped, and afterwards every finished one could be, which bounds them. -/
structure StepStable {F : Type} (proxy : Proxy) (event : Event F) : Prop where
  returned : ReturnedStored proxy event
  kept : ∀ screenId recognizer, proxy.instances_.lookup screenId = some recognizer →
    ¬ Finished (proxy.recognizers recognizer) →
      (step proxy event).instances_.lookup screenId = some recognizer
  removable : ∀ screenId recognizer,
    (step proxy event).instances_.lookup screenId = some recognizer →
      Finished ((step proxy event).recognizers recognizer) →
        (CleanupIdleInstances (step proxy event)).instances_.lookup screenId = none
  bounded : (step proxy event).instances_.entries.length ≤
    MAX_INSTANCE_COUNT + (step proxy event).unfinished.length

/-! ## The events that end an interaction -/

/-- The event ends the interaction of the recognizer. -/
def Ends (state : Slide.State) : Slide.Event → Prop
  | .dispatch resType value _ =>
      if resType = RES_TYPE_SLIDE_RECOGNIZE then
        value = SLIDE_EVENT_OFF ∧ state.isInTouching = false ∧ state.detectingTasks = [] ∧
          state.begunTasks = []
      else if resType = RES_TYPE_SEND_FRAME_EVENT then
        state.slideState = .SLIDE_NORMAL_DETECTING ∧ state.isInTouching = false ∧ NoTask state
      else if resType = RES_TYPE_CLICK_RECOGNIZE then
        (value = TOUCH_EVENT_UP ∨ value = TOUCH_EVENT_PULL_UP) ∧ state.slideState = .IDLE ∧
          NoTask state
      else
        resType = RES_TYPE_AXIS_EVENT ∧ value = AXIS_EVENT_END ∧ state.slideState = .IDLE ∧
          NoTask state
  | .flingTaskRuns index =>
      index = 0 ∧ state.begunTasks.length = 1 ∧
        (state.slideState = .IDLE ∨ state.slideState = .LIST_FLING) ∧
          state.isInTouching = false ∧ NoTask { state with begunTasks := [] }
  | _ => False

/-- The fling handles are cleared, or the event does not end the interaction. -/
def HandlesCleared (state : Slide.State) (event : Slide.Event) : Prop :=
  IsTaskClean state = true ∨ ¬ Ends state event

/-- What a step needs: a screen without an instance is seen only while fewer than
`MAX_INSTANCE_COUNT` are stored, and no interaction of a stored instance ends with a fling handle
still set. -/
def StepKept {F : Type} (proxy : Proxy) : Event F → Prop
  | .dispatch _ rsScreenId resType value payload =>
      match proxy.instances_.lookup (screenOf proxy rsScreenId resType value payload).1 with
      | none => proxy.instances_.entries.length < MAX_INSTANCE_COUNT
      | some recognizer =>
          HandlesCleared (proxy.recognizers recognizer) (.dispatch resType value payload)
  | .detectingTaskRuns _ _ => True
  | .flingEndElapses _ => True
  | .flingTimeOutElapses _ => True
  | .flingTaskRuns recognizer index =>
      (∃ screenId, proxy.instances_.lookup screenId = some recognizer) →
        HandlesCleared (proxy.recognizers recognizer) (.flingTaskRuns index)

/-! ## One recognizer -/

/-- After the event the interaction is over only if the event ended it or it was over before; and
then no handle was set or cleared. -/
structure EndsOnly (state state' : Slide.State) (ends : Prop) : Prop where
  ended : Finished state' → ends ∨ Finished state
  handles : Finished state' → IsTaskClean state' = IsTaskClean state
  ends : ends → Finished state'

theorem endsOnly_same (state : Slide.State) : EndsOnly state state False where
  ended := fun h => .inr h
  handles := fun _ => rfl
  ends := False.elim

theorem endsOnly_unfinished (state : Slide.State) {state' : Slide.State}
    (hunfinished : ¬ Finished state') : EndsOnly state state' False where
  ended := fun h => absurd h hunfinished
  handles := fun h => absurd h hunfinished
  ends := False.elim

theorem EndsOnly.congr {state state' : Slide.State} {ends ends' : Prop}
    (h : EndsOnly state state' ends) (hiff : ends ↔ ends') : EndsOnly state state' ends' := by
  rwa [propext hiff] at h

theorem endsOnly_HandleSlideOFFEvent (state : Slide.State) (payload : Json String) :
    EndsOnly state (Slide.HandleSlideOFFEvent state payload)
      (state.isInTouching = false ∧ state.detectingTasks = [] ∧ state.begunTasks = []) := by
  have hskip : ∀ task : Option FlingTask, pending (Slide.skip task) = false := by
    intro task
    cases task <;> rfl
  constructor
  · intro hfinished
    exact .inl ⟨hfinished.untouched, hfinished.noTask.detecting, hfinished.noTask.begun⟩
  · intro _
    simp [IsTaskClean, Slide.HandleSlideOFFEvent, Slide.SendEvent, Slide.State.setSlideState,
      Slide.skip]
  · rintro ⟨huntouched, hdetecting, hbegun⟩
    exact ⟨rfl, huntouched, hdetecting, hskip _, hskip _, hbegun⟩

theorem endsOnly_HandleSlideEvent (state : Slide.State) (value : Int) (payload : Json String) :
    EndsOnly state (Slide.HandleSlideEvent state value payload)
      (value = SLIDE_EVENT_OFF ∧ state.isInTouching = false ∧ state.detectingTasks = [] ∧
        state.begunTasks = []) := by
  rw [Slide.HandleSlideEvent]
  split_ifs with hdetecting hon hoff
  · have hunfinished : ¬ Finished (Slide.HandleSlideDetecting state payload) := by
      intro h
      cases h.untouched
    exact (endsOnly_unfinished state hunfinished).congr
      (by simp [hdetecting, SLIDE_EVENT_DETECTING, SLIDE_EVENT_OFF])
  · have hunfinished : ¬ Finished (Slide.HandleListFlingStart state payload) := by
      intro h
      cases h.noTask.flingEnd
    exact (endsOnly_unfinished state hunfinished).congr
      (by simp [hon, SLIDE_EVENT_ON, SLIDE_EVENT_OFF])
  · exact (endsOnly_HandleSlideOFFEvent state payload).congr (by simp [hoff])
  · exact (endsOnly_same state).congr (by simp [hoff])

theorem endsOnly_HandleSendFrameEvent (state : Slide.State) (payload : Json String) :
    EndsOnly state (Slide.HandleSendFrameEvent state payload)
      (state.slideState = .SLIDE_NORMAL_DETECTING ∧ state.isInTouching = false ∧
        NoTask state) := by
  rw [Slide.HandleSendFrameEvent]
  split_ifs with hdetecting htouching hfling
  · refine (endsOnly_unfinished state ?_).congr (by simp [htouching])
    intro h
    cases h.idle
  · constructor
    · intro h
      obtain ⟨-, huntouched, hqueued, hend, htimeOut, hbegun⟩ := h
      exact .inl ⟨hdetecting, huntouched, hqueued, hend, htimeOut, hbegun⟩
    · intro _
      rfl
    · rintro ⟨-, huntouched, hqueued, hend, htimeOut, hbegun⟩
      exact ⟨rfl, huntouched, hqueued, hend, htimeOut, hbegun⟩
  · refine (endsOnly_unfinished state ?_).congr (by simp [hdetecting])
    intro h
    cases h.noTask.flingEnd
  · exact (endsOnly_same state).congr (by simp [hdetecting])

theorem slideState_handleUp {F : Type} (ops : SpeedOps F) (state : Slide.State)
    (payload : Json String) (hslide : state.slideState ≠ .IDLE) :
    (Slide.handleUp ops state payload).slideState ≠ .IDLE := by
  have hreported : (if state.slideState ≠ .SLIDE_NORMAL_DETECTING then
      Slide.ReportData state Slide.SLIDE_NORMAL_END (Slide.FillRealPidAndUid state payload)
    else state).slideState = state.slideState := by
    split_ifs <;> rfl
  rw [Slide.handleUp]
  cases Slide.upSpeedOf ops payload with
  | none =>
      dsimp only
      rwa [hreported]
  | some upSpeed =>
      dsimp only
      split_ifs
      · simp [Slide.State.setSlideState]
      · simp [Slide.State.setSlideState]
      · simpa [Slide.ReportData] using hslide
      · exact hslide

theorem endsOnly_HandleClickEvent {F : Type} (ops : SpeedOps F) (state : Slide.State)
    (value : Int) (payload : Json String) :
    EndsOnly state (Slide.HandleClickEvent ops state value payload)
      ((value = TOUCH_EVENT_UP ∨ value = TOUCH_EVENT_PULL_UP) ∧ state.slideState = .IDLE ∧
        NoTask state) := by
  rw [Slide.HandleClickEvent]
  by_cases hdown : value = TOUCH_EVENT_DOWN
  · refine (endsOnly_unfinished state ?_).congr
      (by simp [hdown, TOUCH_EVENT_DOWN, TOUCH_EVENT_UP, TOUCH_EVENT_PULL_UP])
    intro h
    have htouching := h.untouched
    simp [hdown, Slide.State.setSlideState] at htouching
  · by_cases hup : value = TOUCH_EVENT_UP ∨ value = TOUCH_EVENT_PULL_UP
    · simp only [if_neg hdown, if_pos hup]
      split_ifs with hslide
      · constructor
        · intro h
          obtain ⟨hidle, -, hqueued, hend, htimeOut, hbegun⟩ := h
          exact .inl ⟨hup, hidle, hqueued, hend, htimeOut, hbegun⟩
        · intro _
          rfl
        · rintro ⟨-, hidle, hqueued, hend, htimeOut, hbegun⟩
          exact ⟨hidle, rfl, hqueued, hend, htimeOut, hbegun⟩
      · have hnotIdle : state.slideState ≠ .IDLE := by
          intro hidle
          exact hslide ⟨by simp [hidle], by simp [hidle]⟩
        refine (endsOnly_unfinished state ?_).congr (by simp [hnotIdle])
        intro h
        exact slideState_handleUp ops { state with isInTouching := false } payload hnotIdle h.idle
    · simp only [if_neg hdown, if_neg hup, ite_self]
      exact (endsOnly_same state).congr (by simp [hup])

theorem endsOnly_flingTaskRuns {F : Type} (ops : SpeedOps F) (state : Slide.State)
    (index : Nat) :
    EndsOnly state (Slide.handle ops state (.flingTaskRuns index))
      (Ends state (.flingTaskRuns index)) := by
  rw [Slide.handle, Ends]
  cases hbegun : state.begunTasks[index]? with
  | none =>
      refine (endsOnly_same state).congr ?_
      rw [List.getElem?_eq_none_iff] at hbegun
      constructor
      · exact False.elim
      · rintro ⟨rfl, hlength, -⟩
        omega
  | some payload =>
      have hindex : index < state.begunTasks.length := (List.getElem?_eq_some_iff.mp hbegun).1
      have hlast : state.begunTasks.eraseIdx index = [] ↔
          index = 0 ∧ state.begunTasks.length = 1 := by
        rw [← List.length_eq_zero_iff, List.length_eraseIdx_of_lt hindex]
        omega
      have hends : (index = 0 ∧ state.begunTasks.length = 1 ∧
          (state.slideState = .IDLE ∨ state.slideState = .LIST_FLING) ∧
            state.isInTouching = false ∧ NoTask { state with begunTasks := [] }) ↔
          (state.slideState = .IDLE ∨ state.slideState = .LIST_FLING) ∧
            state.isInTouching = false ∧
              NoTask { state with begunTasks := state.begunTasks.eraseIdx index } := by
        constructor
        · rintro ⟨hzero, hlength, hslide, huntouched, hqueued, hend, htimeOut, -⟩
          exact ⟨hslide, huntouched, hqueued, hend, htimeOut, hlast.mpr ⟨hzero, hlength⟩⟩
        · rintro ⟨hslide, huntouched, hqueued, hend, htimeOut, herased⟩
          obtain ⟨hzero, hlength⟩ := hlast.mp herased
          exact ⟨hzero, hlength, hslide, huntouched, hqueued, hend, htimeOut, rfl⟩
      refine EndsOnly.congr ?_ hends.symm
      dsimp only
      rw [Slide.ReportListFlingLockedEnd]
      dsimp only
      split_ifs with hfling
      · constructor
        · intro h
          exact .inl ⟨.inl h.idle, h.untouched, h.noTask⟩
        · intro _
          rfl
        · rintro ⟨hslide, huntouched, hnoTask⟩
          exact ⟨hslide.resolve_right hfling, huntouched, hnoTask⟩
      · have hslide : state.slideState = .LIST_FLING := not_not.mp hfling
        constructor
        · rintro ⟨-, huntouched, hqueued, hend, htimeOut, herased⟩
          exact .inl ⟨.inr hslide, huntouched, hqueued, hend, htimeOut, herased⟩
        · intro _
          rfl
        · rintro ⟨-, huntouched, hqueued, hend, htimeOut, herased⟩
          exact ⟨rfl, huntouched, hqueued, hend, htimeOut, herased⟩

theorem endsOnly_OnDispatchResource {F : Type} (ops : SpeedOps F) (state : Slide.State)
    (resType : Nat) (value : Int) (payload : Json String) :
    EndsOnly state (Slide.OnDispatchResource ops state resType value payload)
      (Ends state (.dispatch resType value payload)) := by
  rw [Slide.OnDispatchResource, Ends]
  by_cases hslide : resType = RES_TYPE_SLIDE_RECOGNIZE
  · rw [if_pos hslide, if_pos hslide]
    exact endsOnly_HandleSlideEvent state value payload
  · rw [if_neg hslide, if_neg hslide]
    by_cases hframe : resType = RES_TYPE_SEND_FRAME_EVENT
    · rw [if_pos hframe, if_pos hframe]
      exact endsOnly_HandleSendFrameEvent state _
    · rw [if_neg hframe, if_neg hframe]
      by_cases hclick : resType = RES_TYPE_CLICK_RECOGNIZE
      · rw [if_pos hclick, if_pos hclick]
        exact endsOnly_HandleClickEvent ops state value payload
      · rw [if_neg hclick, if_neg hclick]
        split_ifs with haxis hend
        · exact (endsOnly_HandleClickEvent ops state TOUCH_EVENT_UP payload).congr
            (by simp [haxis, hend])
        · exact (endsOnly_same state).congr (by simp [hend])
        · exact (endsOnly_same state).congr (by simp [haxis])

/-- A delay that elapses puts a task that still waits before the lock, and does nothing else. -/
theorem elapse_eq_nil_iff (task : Option FlingTask) :
    Slide.elapse task = [] ↔ pending task = false := by
  cases task with
  | none => simp [Slide.elapse, pending]
  | some task =>
      obtain ⟨payload, waiting⟩ := task
      cases waiting <;> simp [Slide.elapse, pending]

theorem isNone_skip (task : Option FlingTask) : (Slide.skip task).isNone = task.isNone := by
  cases task <;> rfl

theorem endsOnly_handle {F : Type} (ops : SpeedOps F) (state : Slide.State)
    (event : Slide.Event) :
    EndsOnly state (Slide.handle ops state event) (Ends state event) := by
  cases event with
  | dispatch resType value payload =>
      exact endsOnly_OnDispatchResource ops state resType value payload
  | detectingTaskRuns index =>
      rw [Slide.handle]
      split
      · exact endsOnly_same state
      · refine endsOnly_unfinished state ?_
        intro h
        have hidle := h.idle
        rw [Slide.StartDetecting] at hidle
        dsimp only at hidle
        split at hidle
        · cases hidle
        · split at hidle <;> cases hidle
  | flingEndElapses =>
      constructor
      · rintro ⟨hidle, huntouched, hqueued, -, htimeOut, hbegun⟩
        obtain ⟨hbegun, helapse⟩ := List.append_eq_nil_iff.mp hbegun
        exact .inr ⟨hidle, huntouched, hqueued, (elapse_eq_nil_iff _).mp helapse, htimeOut, hbegun⟩
      · intro _
        simp [IsTaskClean, Slide.handle, isNone_skip]
      · exact False.elim
  | flingTimeOutElapses =>
      constructor
      · rintro ⟨hidle, huntouched, hqueued, hend, -, hbegun⟩
        obtain ⟨hbegun, helapse⟩ := List.append_eq_nil_iff.mp hbegun
        exact .inr ⟨hidle, huntouched, hqueued, hend, (elapse_eq_nil_iff _).mp helapse, hbegun⟩
      · intro _
        simp [IsTaskClean, Slide.handle, isNone_skip]
      · exact False.elim
  | flingTaskRuns index => exact endsOnly_flingTaskRuns ops state index

/-- The handles of a finished recognizer are cleared, so that a cleanup drops it. -/
def Clearable (state : Slide.State) : Prop :=
  Finished state → IsTaskClean state = true

theorem clearable_handle_iff {F : Type} (ops : SpeedOps F) (state : Slide.State)
    (event : Slide.Event) (hclearable : Clearable state) :
    Clearable (Slide.handle ops state event) ↔ HandlesCleared state event := by
  have h := endsOnly_handle ops state event
  constructor
  · intro hafter
    by_cases hends : Ends state event
    · left
      rw [← h.handles (h.ends hends)]
      exact hafter (h.ends hends)
    · exact .inr hends
  · intro hcleared hfinished
    rw [h.handles hfinished]
    obtain hclean | hgoesOn := hcleared
    · exact hclean
    · exact hclearable ((h.ended hfinished).resolve_left hgoesOn)

/-! ## The instances -/

theorem lookup_CleanupIdleInstances (proxy : Proxy) (screenId : Nat) :
    (CleanupIdleInstances proxy).instances_.lookup screenId =
      (proxy.instances_.lookup screenId).filter fun recognizer =>
        !(decide ((proxy.recognizers recognizer).slideState = .IDLE) &&
          IsTaskClean (proxy.recognizers recognizer)) := by
  rw [CleanupIdleInstances, AssocMap.lookup_filter]

/-- A cleanup drops an idle instance exactly when its handles are cleared. -/
theorem dropped_iff (proxy : Proxy) (screenId recognizer : Nat)
    (hlookup : proxy.instances_.lookup screenId = some recognizer)
    (hidle : (proxy.recognizers recognizer).slideState = .IDLE) :
    (CleanupIdleInstances proxy).instances_.lookup screenId = none ↔
      IsTaskClean (proxy.recognizers recognizer) = true := by
  rw [lookup_CleanupIdleInstances, hlookup]
  simp [Option.filter, hidle]

/-- The instances are few, created earlier, and removable once finished. -/
structure InstancesInv (proxy : Proxy) : Prop where
  few : proxy.instances_.entries.length ≤ MAX_INSTANCE_COUNT
  allocated : ∀ screenId recognizer, proxy.instances_.lookup screenId = some recognizer →
    recognizer < proxy.created
  clearable : ∀ screenId recognizer, proxy.instances_.lookup screenId = some recognizer →
    Clearable (proxy.recognizers recognizer)

theorem instancesInv_start : InstancesInv Proxy.start := by
  constructor
  · exact Nat.zero_le _
  · intro screenId recognizer hlookup
    cases hlookup
  · intro screenId recognizer hlookup
    cases hlookup

theorem removable_iff (proxy : Proxy) :
    (∀ screenId recognizer, proxy.instances_.lookup screenId = some recognizer →
      Finished (proxy.recognizers recognizer) →
        (CleanupIdleInstances proxy).instances_.lookup screenId = none) ↔
      ∀ screenId recognizer, proxy.instances_.lookup screenId = some recognizer →
        Clearable (proxy.recognizers recognizer) := by
  refine forall_congr' fun screenId => forall_congr' fun recognizer => ?_
  refine imp_congr_right fun hlookup => imp_congr_right fun hfinished => ?_
  exact dropped_iff proxy screenId recognizer hlookup hfinished.idle

theorem clearable_handle_all_iff {F : Type} (ops : SpeedOps F) (proxy : Proxy)
    (recognizer : Nat) (event : Slide.Event) (hinv : InstancesInv proxy) :
    (∀ screenId other, (proxy.handle ops recognizer event).instances_.lookup screenId =
        some other → Clearable ((proxy.handle ops recognizer event).recognizers other)) ↔
      ((∃ screenId, proxy.instances_.lookup screenId = some recognizer) →
        HandlesCleared (proxy.recognizers recognizer) event) := by
  have hself : (proxy.handle ops recognizer event).recognizers recognizer =
      Slide.handle ops (proxy.recognizers recognizer) event :=
    Function.update_self recognizer _ proxy.recognizers
  constructor
  · rintro h ⟨screenId, hlookup⟩
    have hclearable := h screenId recognizer hlookup
    rw [hself] at hclearable
    exact (clearable_handle_iff ops _ event (hinv.clearable screenId recognizer hlookup)).mp
      hclearable
  · intro hcleared screenId other hlookup
    have hlookup' : proxy.instances_.lookup screenId = some other := hlookup
    by_cases hother : other = recognizer
    · subst hother
      rw [hself]
      exact (clearable_handle_iff ops _ event (hinv.clearable screenId other hlookup')).mpr
        (hcleared ⟨screenId, hlookup'⟩)
    · have hsame : (proxy.handle ops recognizer event).recognizers other =
          proxy.recognizers other := Function.update_of_ne hother _ _
      rw [hsame]
      exact hinv.clearable screenId other hlookup'

theorem instancesInv_handle {F : Type} (ops : SpeedOps F) (proxy : Proxy) (recognizer : Nat)
    (event : Slide.Event) (hinv : InstancesInv proxy)
    (hcleared : (∃ screenId, proxy.instances_.lookup screenId = some recognizer) →
      HandlesCleared (proxy.recognizers recognizer) event) :
    InstancesInv (proxy.handle ops recognizer event) where
  few := hinv.few
  allocated := hinv.allocated
  clearable := (clearable_handle_all_iff ops proxy recognizer event hinv).mpr hcleared

/-- A step that keeps the stored instances and then lets one of them, or one that was dropped,
handle an event. -/
theorem stepStable_handle_iff {F G : Type} (ops : SpeedOps G) (proxy base : Proxy)
    (recognizer : Nat) (handled : Slide.Event) (event : Event F) (hinv : InstancesInv base)
    (hstep : step proxy event = base.handle ops recognizer handled)
    (hreturned : ReturnedStored proxy event)
    (hkept : ∀ screenId other, proxy.instances_.lookup screenId = some other →
      base.instances_.lookup screenId = some other) :
    StepStable proxy event ↔
      ((∃ screenId, base.instances_.lookup screenId = some recognizer) →
        HandlesCleared (base.recognizers recognizer) handled) := by
  rw [← clearable_handle_all_iff ops base recognizer handled hinv, ← removable_iff, ← hstep]
  constructor
  · intro h
    exact h.removable
  · intro hremovable
    have hinstances : (step proxy event).instances_ = base.instances_ := by
      rw [hstep]
      rfl
    refine ⟨hreturned, ?_, hremovable, ?_⟩
    · intro screenId other hlookup _
      rw [hinstances]
      exact hkept screenId other hlookup
    · rw [hinstances]
      exact hinv.few.trans (Nat.le_add_right _ _)

/-! ## Dispatches -/

theorem screenOf_snd (proxy : Proxy) (rsScreenId : Option Nat) (resType : Nat) (value : Int)
    (payload : Json String) :
    (screenOf proxy rsScreenId resType value payload).2.instances_ = proxy.instances_ ∧
      (screenOf proxy rsScreenId resType value payload).2.recognizers = proxy.recognizers ∧
        (screenOf proxy rsScreenId resType value payload).2.created = proxy.created := by
  rw [screenOf]
  split
  · exact ⟨rfl, rfl, rfl⟩
  · split_ifs
    · simp only [ConvertDisplayIdToRsScreenId]
      split
      · exact ⟨rfl, rfl, rfl⟩
      · split <;> exact ⟨rfl, rfl, rfl⟩
    · exact ⟨rfl, rfl, rfl⟩
  · exact ⟨rfl, rfl, rfl⟩

/-- The proxy after the screen of the event is known: only the map of the displays may differ. -/
theorem instancesInv_screenOf (proxy : Proxy) (rsScreenId : Option Nat) (resType : Nat)
    (value : Int) (payload : Json String) (hinv : InstancesInv proxy) :
    InstancesInv (screenOf proxy rsScreenId resType value payload).2 := by
  obtain ⟨hinstances, hrecognizers, hcreated⟩ :=
    screenOf_snd proxy rsScreenId resType value payload
  constructor
  · rw [hinstances]
    exact hinv.few
  · rw [hinstances, hcreated]
    exact hinv.allocated
  · rw [hinstances, hrecognizers]
    exact hinv.clearable

/-- The proxy with a new instance for the screen, before any cleanup. -/
def Proxy.insertNew (proxy : Proxy) (screenId : Nat) : Proxy :=
  { proxy with
    recognizers := Function.update proxy.recognizers proxy.created Slide.State.created
    created := proxy.created + 1
    instances_ := proxy.instances_.insert screenId proxy.created }

theorem GetOrCreateInstance_stored (proxy : Proxy) (screenId recognizer : Nat)
    (hlookup : proxy.instances_.lookup screenId = some recognizer) :
    GetOrCreateInstance proxy screenId = (recognizer, proxy) := by
  rw [GetOrCreateInstance, hlookup]

theorem GetOrCreateInstance_few (proxy : Proxy) (screenId : Nat)
    (hlookup : proxy.instances_.lookup screenId = none)
    (hfew : proxy.instances_.entries.length < MAX_INSTANCE_COUNT) :
    GetOrCreateInstance proxy screenId = (proxy.created, proxy.insertNew screenId) := by
  have hlength := AssocMap.length_insert_of_none proxy.instances_ screenId proxy.created hlookup
  rw [GetOrCreateInstance, hlookup]
  dsimp only
  rw [if_neg (by omega)]
  rfl

theorem GetOrCreateInstance_many (proxy : Proxy) (screenId : Nat)
    (hlookup : proxy.instances_.lookup screenId = none)
    (hmany : MAX_INSTANCE_COUNT ≤ proxy.instances_.entries.length) :
    GetOrCreateInstance proxy screenId =
      (proxy.created, CleanupIdleInstances (proxy.insertNew screenId)) := by
  have hlength := AssocMap.length_insert_of_none proxy.instances_ screenId proxy.created hlookup
  rw [GetOrCreateInstance, hlookup]
  dsimp only
  rw [if_pos (by omega)]
  rfl

theorem recognizers_insertNew_created (proxy : Proxy) (screenId : Nat) :
    (proxy.insertNew screenId).recognizers proxy.created = Slide.State.created :=
  Function.update_self proxy.created _ proxy.recognizers

/-- A cleanup that follows the creation drops the instance that was created. -/
theorem lookup_cleanup_insertNew (proxy : Proxy) (screenId : Nat) :
    (CleanupIdleInstances (proxy.insertNew screenId)).instances_.lookup screenId = none := by
  have hnew := recognizers_insertNew_created proxy screenId
  refine (dropped_iff (proxy.insertNew screenId) screenId proxy.created ?_ ?_).mpr ?_
  · exact AList.lookup_insert proxy.instances_
  · rw [hnew]
    rfl
  · rw [hnew]
    rfl

theorem instancesInv_insertNew (proxy : Proxy) (screenId : Nat) (hinv : InstancesInv proxy)
    (hlookup : proxy.instances_.lookup screenId = none)
    (hfew : proxy.instances_.entries.length < MAX_INSTANCE_COUNT) :
    InstancesInv (proxy.insertNew screenId) := by
  have hinsert : ∀ screenId' recognizer,
      (proxy.insertNew screenId).instances_.lookup screenId' = some recognizer →
        recognizer = proxy.created ∨ proxy.instances_.lookup screenId' = some recognizer := by
    intro screenId' recognizer hrecognizer
    rw [Proxy.insertNew, AssocMap.lookup_insert_ite] at hrecognizer
    split_ifs at hrecognizer
    · exact .inl (Option.some.inj hrecognizer).symm
    · exact .inr hrecognizer
  constructor
  · have hlength := AssocMap.length_insert_of_none proxy.instances_ screenId proxy.created hlookup
    have hnew : (proxy.insertNew screenId).instances_.entries.length =
      proxy.instances_.entries.length + 1 := hlength
    omega
  · intro screenId' recognizer hrecognizer
    have hcreated : (proxy.insertNew screenId).created = proxy.created + 1 := rfl
    obtain rfl | hold := hinsert screenId' recognizer hrecognizer
    · omega
    · have hallocated := hinv.allocated screenId' recognizer hold
      omega
  · intro screenId' recognizer hrecognizer
    by_cases hnew : recognizer = proxy.created
    · subst hnew
      rw [recognizers_insertNew_created]
      intro _
      rfl
    · have hold := (hinsert screenId' recognizer hrecognizer).resolve_left hnew
      have hsame : (proxy.insertNew screenId).recognizers recognizer =
          proxy.recognizers recognizer := Function.update_of_ne hnew _ _
      rw [hsame]
      exact hinv.clearable screenId' recognizer hold

/-- A dispatch to a screen with an instance. -/
theorem dispatch_stored {F : Type} (ops : SpeedOps F) (proxy : Proxy) (rsScreenId : Option Nat)
    (resType : Nat) (value : Int) (payload : Json String) (recognizer : Nat)
    (hinv : InstancesInv proxy)
    (hlookup : proxy.instances_.lookup (screenOf proxy rsScreenId resType value payload).1 =
      some recognizer) :
    (StepStable proxy (.dispatch ops rsScreenId resType value payload) ↔
        HandlesCleared (proxy.recognizers recognizer) (.dispatch resType value payload)) ∧
      (HandlesCleared (proxy.recognizers recognizer) (.dispatch resType value payload) →
        InstancesInv (step proxy (.dispatch ops rsScreenId resType value payload))) := by
  have hbase := instancesInv_screenOf proxy rsScreenId resType value payload hinv
  obtain ⟨hinstances, hrecognizers, -⟩ := screenOf_snd proxy rsScreenId resType value payload
  rw [← hinstances] at hlookup
  have hget := GetOrCreateInstance_stored _ _ recognizer hlookup
  have hstep : step proxy (.dispatch ops rsScreenId resType value payload) =
      (screenOf proxy rsScreenId resType value payload).2.handle ops recognizer
        (.dispatch resType value (payload.set "screenId"
          (.string (toString (screenOf proxy rsScreenId resType value payload).1)))) := by
    rw [step, OnDispatchResource]
    dsimp only
    rw [hget]
  have hreturned : ReturnedStored proxy (.dispatch ops rsScreenId resType value payload) := by
    rw [ReturnedStored]
    dsimp only
    rw [hget]
    exact hlookup
  constructor
  · rw [stepStable_handle_iff ops proxy _ recognizer _ _ hbase hstep hreturned
      (by simp [hinstances]), hrecognizers]
    exact ⟨fun h => h ⟨_, hlookup⟩, fun h _ => h⟩
  · intro hcleared
    rw [hstep]
    refine instancesInv_handle ops _ recognizer _ hbase fun _ => ?_
    rw [hrecognizers]
    exact hcleared

/-- A dispatch to a new screen while there is room: the new instance handles the event. -/
theorem dispatch_few {F : Type} (ops : SpeedOps F) (proxy : Proxy) (rsScreenId : Option Nat)
    (resType : Nat) (value : Int) (payload : Json String) (hinv : InstancesInv proxy)
    (hlookup : proxy.instances_.lookup (screenOf proxy rsScreenId resType value payload).1 =
      none)
    (hfew : proxy.instances_.entries.length < MAX_INSTANCE_COUNT) :
    StepStable proxy (.dispatch ops rsScreenId resType value payload) ∧
      InstancesInv (step proxy (.dispatch ops rsScreenId resType value payload)) := by
  have hknown := instancesInv_screenOf proxy rsScreenId resType value payload hinv
  obtain ⟨hinstances, -, -⟩ := screenOf_snd proxy rsScreenId resType value payload
  rw [← hinstances] at hlookup hfew
  have hbase := instancesInv_insertNew _ _ hknown hlookup hfew
  have hget := GetOrCreateInstance_few _ _ hlookup hfew
  have hnew := recognizers_insertNew_created
    (screenOf proxy rsScreenId resType value payload).2
    (screenOf proxy rsScreenId resType value payload).1
  have hcleared : ∀ handled, HandlesCleared
      (((screenOf proxy rsScreenId resType value payload).2.insertNew
        (screenOf proxy rsScreenId resType value payload).1).recognizers
          (screenOf proxy rsScreenId resType value payload).2.created) handled := by
    intro handled
    rw [hnew]
    exact .inl rfl
  have hstep : step proxy (.dispatch ops rsScreenId resType value payload) =
      ((screenOf proxy rsScreenId resType value payload).2.insertNew
        (screenOf proxy rsScreenId resType value payload).1).handle ops
          (screenOf proxy rsScreenId resType value payload).2.created
          (.dispatch resType value (payload.set "screenId"
            (.string (toString (screenOf proxy rsScreenId resType value payload).1)))) := by
    rw [step, OnDispatchResource]
    dsimp only
    rw [hget]
  have hreturned : ReturnedStored proxy (.dispatch ops rsScreenId resType value payload) := by
    rw [ReturnedStored]
    dsimp only
    rw [hget]
    exact AList.lookup_insert _
  constructor
  · refine (stepStable_handle_iff ops proxy _ _ _ _ hbase hstep hreturned ?_).mpr ?_
    · intro screenId other hother
      rw [← hinstances] at hother
      rw [Proxy.insertNew, AssocMap.lookup_insert_ite]
      split_ifs with hsame
      · rw [hsame, hlookup] at hother
        cases hother
      · exact hother
    · intro _
      exact hcleared _
  · rw [hstep]
    exact instancesInv_handle ops _ _ _ hbase fun _ => hcleared _

/-- A dispatch to a new screen without room: the cleanup drops the instance returned. -/
theorem dispatch_many {F : Type} (ops : SpeedOps F) (proxy : Proxy) (rsScreenId : Option Nat)
    (resType : Nat) (value : Int) (payload : Json String)
    (hlookup : proxy.instances_.lookup (screenOf proxy rsScreenId resType value payload).1 =
      none)
    (hmany : MAX_INSTANCE_COUNT ≤ proxy.instances_.entries.length) :
    ¬ ReturnedStored proxy (.dispatch ops rsScreenId resType value payload) := by
  obtain ⟨hinstances, -, -⟩ := screenOf_snd proxy rsScreenId resType value payload
  rw [← hinstances] at hlookup hmany
  have hget := GetOrCreateInstance_many _ _ hlookup hmany
  rw [ReturnedStored]
  dsimp only
  rw [hget, lookup_cleanup_insertNew]
  simp

/-! ## Runs -/

theorem stepStable_iff {F : Type} (proxy : Proxy) (event : Event F) (hinv : InstancesInv proxy) :
    StepStable proxy event ↔ StepKept proxy event := by
  have htask : ∀ (recognizer : Nat) (handled : Slide.Event), ¬ Ends (proxy.recognizers recognizer)
      handled → ∀ event : Event F, step proxy event = proxy.handle noSpeed recognizer handled →
        ReturnedStored proxy event → StepStable proxy event := by
    intro recognizer handled hgoesOn event hstep hreturned
    exact (stepStable_handle_iff noSpeed proxy proxy recognizer handled event hinv hstep hreturned
      fun _ _ hlookup => hlookup).mpr fun _ => .inr hgoesOn
  cases event with
  | dispatch ops rsScreenId resType value payload =>
      rw [StepKept]
      cases hlookup : proxy.instances_.lookup
          (screenOf proxy rsScreenId resType value payload).1 with
      | none =>
          dsimp only
          by_cases hfew : proxy.instances_.entries.length < MAX_INSTANCE_COUNT
          · exact iff_of_true (dispatch_few ops proxy rsScreenId resType value payload hinv
              hlookup hfew).1 hfew
          · refine iff_of_false ?_ hfew
            intro h
            exact dispatch_many ops proxy rsScreenId resType value payload hlookup
              (not_lt.mp hfew) h.returned
      | some recognizer =>
          exact (dispatch_stored ops proxy rsScreenId resType value payload recognizer hinv
            hlookup).1
  | detectingTaskRuns recognizer index =>
      exact iff_of_true (htask recognizer (.detectingTaskRuns index) id _ rfl trivial) trivial
  | flingEndElapses recognizer =>
      exact iff_of_true (htask recognizer .flingEndElapses id _ rfl trivial) trivial
  | flingTimeOutElapses recognizer =>
      exact iff_of_true (htask recognizer .flingTimeOutElapses id _ rfl trivial) trivial
  | flingTaskRuns recognizer index =>
      exact stepStable_handle_iff noSpeed proxy proxy recognizer (.flingTaskRuns index) _ hinv rfl
        trivial fun _ _ hlookup => hlookup

theorem instancesInv_step {F : Type} (proxy : Proxy) (event : Event F)
    (hinv : InstancesInv proxy) (hkept : StepKept proxy event) :
    InstancesInv (step proxy event) := by
  cases event with
  | dispatch ops rsScreenId resType value payload =>
      rw [StepKept] at hkept
      cases hlookup : proxy.instances_.lookup
          (screenOf proxy rsScreenId resType value payload).1 with
      | none =>
          rw [hlookup] at hkept
          exact (dispatch_few ops proxy rsScreenId resType value payload hinv hlookup hkept).2
      | some recognizer =>
          rw [hlookup] at hkept
          exact (dispatch_stored ops proxy rsScreenId resType value payload recognizer hinv
            hlookup).2 hkept
  | detectingTaskRuns recognizer index =>
      exact instancesInv_handle noSpeed proxy recognizer _ hinv fun _ => .inr id
  | flingEndElapses recognizer =>
      exact instancesInv_handle noSpeed proxy recognizer _ hinv fun _ => .inr id
  | flingTimeOutElapses recognizer =>
      exact instancesInv_handle noSpeed proxy recognizer _ hinv fun _ => .inr id
  | flingTaskRuns recognizer index =>
      exact instancesInv_handle noSpeed proxy recognizer _ hinv hkept

/-- The recognizers of the screens are stable throughout a run exactly when no new screen is seen
while `MAX_INSTANCE_COUNT` instances are stored and no interaction ends with a fling handle set. -/
theorem recognizers_stable_iff {F : Type} (events : List (Event F)) :
    EachStep step StepStable Proxy.start events ↔ EachStep step StepKept Proxy.start events :=
  eachStep_iff_of_invariant step stepStable_iff instancesInv_step events _ instancesInv_start

/-- The user touches a screen. -/
def touchDown (screenId : Nat) : Event Unit :=
  .dispatch noSpeed none RES_TYPE_CLICK_RECOGNIZE TOUCH_EVENT_DOWN
    (.object [("screenId", .string (toString screenId))])

/-- Eleven screens are touched, and none released. -/
def elevenTouches : List (Event Unit) :=
  (List.range 11).map touchDown

/-- The eleventh instance is dropped before it handles its event, and with it the ten others,
although they are touched. -/
theorem recognizers_stable_counterexample :
    ¬ EachStep step StepStable Proxy.start elevenTouches ∧
      ((run step Proxy.start elevenTouches).recognizers 0).isInTouching = true ∧
      (run step Proxy.start elevenTouches).instances_.entries = [] := by
  refine ⟨?_, by decide +kernel, by decide +kernel⟩
  intro hstable
  have hlast := hstable ((List.range 10).map touchDown) (touchDown 10) ⟨[], rfl⟩
  refine dispatch_many noSpeed _ none RES_TYPE_CLICK_RECOGNIZE TOUCH_EVENT_DOWN _ ?_ ?_
    hlast.returned
  · decide +kernel
  · decide +kernel

end ResSched.SceneRecognize.SlideProxy
