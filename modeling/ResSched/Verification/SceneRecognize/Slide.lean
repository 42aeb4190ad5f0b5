import ResSched.Library.Pairing
import ResSched.Library.Transition
import ResSched.Model.SceneRecognize.Slide

/-! # Slides and flings are ended in their reports -/

namespace ResSched.SceneRecognize.Slide

open Transition Pairing

/-! ## The reported slides and flings -/

/-- Whether an output reports the begin (`true`) or the end of a slide. -/
def normalMark : Output → Option Bool
  | .ReportData value _ =>
      if value = SLIDE_NORMAL_BEGIN then some true
      else if value = SLIDE_NORMAL_END then some false
      else none
  | .SendEvent _ _ => none

/-- Whether an output reports a fling on (`true`) or off. -/
def flingMark : Output → Option Bool
  | .ReportData value _ =>
      if value = SLIDE_EVENT_ON then some true
      else if value = SLIDE_EVENT_OFF then some false
      else none
  | .SendEvent _ _ => none

/-- What the pairing of reports depends on. -/
structure Abstract where
  stat : SlideRecognizeStat
  normal : List Bool
  fling : List Bool

def State.abs (state : State) : Abstract where
  stat := state.slideState
  normal := state.outputs.filterMap normalMark
  fling := state.outputs.filterMap flingMark

/-- Slides and flings alternate in the reports, and none is open outside its state. -/
structure SlidePaired (view : Abstract) : Prop where
  normal : Alternates view.normal
  fling : Alternates view.fling
  normal_closed : view.stat ≠ .SLIDE_NORMAL → isOpen view.normal = false
  fling_closed : view.stat ≠ .LIST_FLING → isOpen view.fling = false

/-! ## The moves of the recognizer -/

inductive Move where
  | stay
  | leave
  | detect
  | beginSlide
  | endSlide
  | endSlideIntoFling
  | beginFling
  | endFling

def Move.apply (view : Abstract) : Move → Abstract
  | .stay => view
  | .leave => { view with stat := .IDLE }
  | .detect => { view with stat := .SLIDE_NORMAL_DETECTING }
  | .beginSlide => { view with stat := .SLIDE_NORMAL, normal := view.normal ++ [true] }
  | .endSlide => { view with normal := view.normal ++ [false] }
  | .endSlideIntoFling =>
      ⟨.LIST_FLING, view.normal ++ [false], view.fling ++ [true]⟩
  | .beginFling => { view with stat := .LIST_FLING, fling := view.fling ++ [true] }
  | .endFling => { view with stat := .IDLE, fling := view.fling ++ [false] }

/-- The payload of an up event starts a fling. -/
def startsFling {F : Type} (ops : SpeedOps F) (payload : Json String) : Bool :=
  match upSpeedOf ops payload with
  | none => false
  | some upSpeed => ops.exceedsLimit upSpeed

def upMove {F : Type} (ops : SpeedOps F) (state : State) (payload : Json String) : Move :=
  match state.slideState with
  | .SLIDE_NORMAL => if startsFling ops payload then .endSlideIntoFling else .endSlide
  | .SLIDE_NORMAL_DETECTING => if startsFling ops payload then .beginFling else .stay
  | _ => .stay

def clickMove {F : Type} (ops : SpeedOps F) (state : State) (value : Int)
    (payload : Json String) : Move :=
  if value = TOUCH_EVENT_DOWN then
    if state.slideState = .LIST_FLING then .endFling else .leave
  else if value = TOUCH_EVENT_UP ∨ value = TOUCH_EVENT_PULL_UP then upMove ops state payload
  else .stay

def dispatchMove {F : Type} (ops : SpeedOps F) (state : State) (resType : Nat) (value : Int)
    (payload : Json String) : Move :=
  if resType = RES_TYPE_SLIDE_RECOGNIZE then
    if value = SLIDE_EVENT_OFF then .leave else .stay
  else if resType = RES_TYPE_SEND_FRAME_EVENT then
    if state.slideState = .SLIDE_NORMAL_DETECTING then
      if state.isInTouching then .beginSlide else .leave
    else .stay
  else if resType = RES_TYPE_CLICK_RECOGNIZE then clickMove ops state value payload
  else if resType = RES_TYPE_AXIS_EVENT then
    if value = AXIS_EVENT_END then clickMove ops state TOUCH_EVENT_UP payload else .stay
  else .stay

def moveOf {F : Type} (ops : SpeedOps F) (state : State) : Event → Move
  | .dispatch resType value payload => dispatchMove ops state resType value payload
  | .detectingTaskRuns index =>
      if (state.detectingTasks[index]?).isSome then .detect else .stay
  | .flingEndElapses => .stay
  | .flingTimeOutElapses => .stay
  | .flingTaskRuns index =>
      if (state.begunTasks[index]?).isSome ∧ state.slideState = .LIST_FLING then .endFling
      else .stay

/-! ## Each event makes its move -/

@[simp] theorem abs_SendEvent (state : State) (value : DrawFrameReport) (payload : Json String) :
    (SendEvent state value payload).abs = state.abs := by
  simp [SendEvent, State.abs, normalMark, flingMark]

theorem abs_ReportData (state : State) (value : Int) (payload : Json String) :
    (ReportData state value payload).abs =
      { state.abs with
        normal := state.abs.normal ++ (normalMark (.ReportData value payload)).toList
        fling := state.abs.fling ++ (flingMark (.ReportData value payload)).toList } := by
  have hsingle : ∀ mark : Output → Option Bool,
      [Output.ReportData value payload].filterMap mark =
        (mark (.ReportData value payload)).toList := by
    intro mark
    cases h : mark (.ReportData value payload) <;> simp [h]
  simp only [ReportData, State.abs, List.filterMap_append, hsingle]

@[simp] theorem abs_ReportData_begin (state : State) (payload : Json String) :
    (ReportData state SLIDE_NORMAL_BEGIN payload).abs =
      { state.abs with normal := state.abs.normal ++ [true] } := by
  simp [abs_ReportData, normalMark, flingMark, SLIDE_NORMAL_BEGIN, SLIDE_EVENT_ON, SLIDE_EVENT_OFF]

@[simp] theorem abs_ReportData_end (state : State) (payload : Json String) :
    (ReportData state SLIDE_NORMAL_END payload).abs =
      { state.abs with normal := state.abs.normal ++ [false] } := by
  simp [abs_ReportData, normalMark, flingMark, SLIDE_NORMAL_BEGIN, SLIDE_NORMAL_END,
    SLIDE_EVENT_ON, SLIDE_EVENT_OFF]

@[simp] theorem abs_ReportData_on (state : State) (payload : Json String) :
    (ReportData state SLIDE_EVENT_ON payload).abs =
      { state.abs with fling := state.abs.fling ++ [true] } := by
  simp [abs_ReportData, normalMark, flingMark, SLIDE_NORMAL_BEGIN, SLIDE_NORMAL_END,
    SLIDE_EVENT_ON]

@[simp] theorem abs_ReportData_off (state : State) (payload : Json String) :
    (ReportData state SLIDE_EVENT_OFF payload).abs =
      { state.abs with fling := state.abs.fling ++ [false] } := by
  simp [abs_ReportData, normalMark, flingMark, SLIDE_NORMAL_BEGIN, SLIDE_NORMAL_END,
    SLIDE_EVENT_ON, SLIDE_EVENT_OFF]

@[simp] theorem abs_setSlideState (state : State) (stat : SlideRecognizeStat) :
    (state.setSlideState stat).abs = { state.abs with stat := stat } :=
  rfl

theorem abs_ReportListFlingLockedEnd (state : State) (payload : Json String) :
    (ReportListFlingLockedEnd state payload).abs =
      (if state.slideState = .LIST_FLING then Move.endFling else .stay).apply state.abs := by
  rw [ReportListFlingLockedEnd]
  by_cases h : state.slideState = .LIST_FLING
  · rw [if_neg (not_not.mpr h), if_pos h]
    simp [Move.apply]
  · rw [if_pos h, if_neg h]
    rfl

theorem abs_HandleSendFrameEvent (state : State) (payload : Json String) :
    (HandleSendFrameEvent state payload).abs =
      (if state.slideState = .SLIDE_NORMAL_DETECTING then
        if state.isInTouching then Move.beginSlide else .leave
      else .stay).apply state.abs := by
  rw [HandleSendFrameEvent]
  by_cases hdetecting : state.slideState = .SLIDE_NORMAL_DETECTING
  · simp only [if_pos hdetecting, abs_SendEvent]
    split_ifs with htouch
    · simp [Move.apply]
    · rfl
  · rw [if_neg hdetecting, if_neg hdetecting]
    split_ifs <;> rfl

theorem abs_handleUp {F : Type} (ops : SpeedOps F) (state : State) (payload : Json String)
    (h : state.slideState = .SLIDE_NORMAL ∨ state.slideState = .SLIDE_NORMAL_DETECTING) :
    (handleUp ops state payload).abs = (upMove ops state payload).apply state.abs := by
  unfold handleUp upMove startsFling
  rcases h with h | h
  · cases upSpeedOf ops payload with
    | none => simp [h, Move.apply]
    | some upSpeed => cases hspeed : ops.exceedsLimit upSpeed <;> simp [h, hspeed, Move.apply]
  · cases upSpeedOf ops payload with
    | none => simp [h, Move.apply]
    | some upSpeed => cases hspeed : ops.exceedsLimit upSpeed <;> simp [h, hspeed, Move.apply]

theorem abs_ListFlingEnd (state : State) (payload : Json String) :
    (ListFlingEnd state payload).abs =
      (if state.slideState = .LIST_FLING then Move.endFling else .stay).apply state.abs := by
  rw [ListFlingEnd]
  by_cases h : state.slideState = .LIST_FLING
  · rw [if_neg (not_not.mpr h)]
    exact abs_ReportListFlingLockedEnd _ _
  · rw [if_pos h, if_neg h]
    rfl

theorem abs_HandleClickEvent {F : Type} (ops : SpeedOps F) (state : State) (value : Int)
    (payload : Json String) :
    (HandleClickEvent ops state value payload).abs =
      (clickMove ops state value payload).apply state.abs := by
  unfold HandleClickEvent clickMove
  by_cases hdown : value = TOUCH_EVENT_DOWN
  · simp only [if_pos hdown]
    have habs : ({ (ListFlingEnd state payload).setSlideState .IDLE with
        isInTouching := true } : State).abs =
        { (ListFlingEnd state payload).abs with stat := .IDLE } := rfl
    rw [if_pos ⟨by simp [State.setSlideState], by simp [State.setSlideState]⟩, habs,
      abs_ListFlingEnd]
    split_ifs <;> rfl
  · rw [if_neg hdown, if_neg hdown]
    by_cases hup : value = TOUCH_EVENT_UP ∨ value = TOUCH_EVENT_PULL_UP
    · simp only [if_pos hup]
      by_cases hidle : state.slideState ≠ .SLIDE_NORMAL ∧
          state.slideState ≠ .SLIDE_NORMAL_DETECTING
      · rw [if_pos hidle]
        have hstay : upMove ops state payload = .stay := by
          rw [upMove]
          cases hstat : state.slideState <;> simp_all
        rw [hstay]
        rfl
      · rw [if_neg hidle]
        exact abs_handleUp ops { state with isInTouching := false } payload (by tauto)
    · simp only [if_neg hup]
      split_ifs <;> rfl

theorem abs_HandleSlideOFFEvent (state : State) (payload : Json String) :
    (HandleSlideOFFEvent state payload).abs = Move.leave.apply state.abs := by
  simp only [HandleSlideOFFEvent, abs_setSlideState, abs_SendEvent]
  rfl

theorem abs_HandleListFlingStart (state : State) (payload : Json String) :
    (HandleListFlingStart state payload).abs = state.abs :=
  abs_SendEvent state .EVENT_VALUE_DRAW_FRAME_REPORT_START payload

theorem abs_StartDetecting (state : State) (payload : Json String) :
    (StartDetecting state payload).abs = Move.detect.apply state.abs := by
  have habs : ((SendEvent state .EVENT_VALUE_DRAW_FRAME_REPORT_START payload).setSlideState
      .SLIDE_NORMAL_DETECTING).abs = Move.detect.apply state.abs := by
    rw [abs_setSlideState, abs_SendEvent]
    rfl
  rw [← habs]
  rw [StartDetecting]
  cases stringOf payload "clientPid" with
  | none => rfl
  | some clientPid => cases stringOf payload "callingUid" <;> rfl

theorem abs_HandleSlideEvent (state : State) (value : Int) (payload : Json String) :
    (HandleSlideEvent state value payload).abs =
      (if value = SLIDE_EVENT_OFF then Move.leave else .stay).apply state.abs := by
  rw [HandleSlideEvent]
  by_cases hoff : value = SLIDE_EVENT_OFF
  · have hdetecting : value ≠ SLIDE_EVENT_DETECTING := by
      rw [hoff]
      decide
    have hon : value ≠ SLIDE_EVENT_ON := by
      rw [hoff]
      decide
    rw [if_neg hdetecting, if_neg hon, if_pos hoff, if_pos hoff, abs_HandleSlideOFFEvent]
  · rw [if_neg hoff, if_neg hoff]
    split_ifs
    · rfl
    · exact abs_HandleListFlingStart state payload
    · rfl

theorem abs_OnDispatchResource {F : Type} (ops : SpeedOps F) (state : State) (resType : Nat)
    (value : Int) (payload : Json String) :
    (OnDispatchResource ops state resType value payload).abs =
      (dispatchMove ops state resType value payload).apply state.abs := by
  unfold OnDispatchResource dispatchMove
  split_ifs with hslide hoff hframe hdetecting htouch hclick haxis hend
  · rw [abs_HandleSlideEvent, if_pos hoff]
  · rw [abs_HandleSlideEvent, if_neg hoff]
  · rw [abs_HandleSendFrameEvent, if_pos hdetecting, if_pos htouch]
  · rw [abs_HandleSendFrameEvent, if_pos hdetecting, if_neg htouch]
  · rw [abs_HandleSendFrameEvent, if_neg hdetecting]
  · exact abs_HandleClickEvent ops state value payload
  · exact abs_HandleClickEvent ops state TOUCH_EVENT_UP payload
  · rfl
  · rfl

/-- Each event makes the move `moveOf` names. -/
theorem abs_handle {F : Type} (ops : SpeedOps F) (state : State) (event : Event) :
    (handle ops state event).abs = (moveOf ops state event).apply state.abs := by
  cases event with
  | dispatch resType value payload => exact abs_OnDispatchResource ops state resType value payload
  | detectingTaskRuns index =>
      simp only [handle, moveOf]
      cases state.detectingTasks[index]? with
      | none => rfl
      | some payload => exact abs_StartDetecting _ payload
  | flingEndElapses => rfl
  | flingTimeOutElapses => rfl
  | flingTaskRuns index =>
      simp only [handle, moveOf]
      cases state.begunTasks[index]? with
      | none => rfl
      | some payload =>
          simp only [Option.isSome_some, true_and]
          exact abs_ReportListFlingLockedEnd _ payload

/-! ## One move -/

/-- The state a move that reports something starts from. -/
def Move.Enabled (view : Abstract) : Move → Prop
  | .beginSlide => view.stat = .SLIDE_NORMAL_DETECTING
  | .endSlide => view.stat = .SLIDE_NORMAL
  | .endSlideIntoFling => view.stat = .SLIDE_NORMAL
  | .beginFling => view.stat = .SLIDE_NORMAL_DETECTING
  | .endFling => view.stat = .LIST_FLING
  | _ => True

theorem upMove_enabled {F : Type} (ops : SpeedOps F) (state : State) (payload : Json String) :
    (upMove ops state payload).Enabled state.abs := by
  rw [upMove]
  split
  · split_ifs <;> assumption
  · split_ifs
    · assumption
    · trivial
  · trivial

theorem clickMove_enabled {F : Type} (ops : SpeedOps F) (state : State) (value : Int)
    (payload : Json String) : (clickMove ops state value payload).Enabled state.abs := by
  rw [clickMove]
  split_ifs with _ hfling
  · exact hfling
  · trivial
  · exact upMove_enabled ops state payload
  · trivial

theorem moveOf_enabled {F : Type} (ops : SpeedOps F) (state : State) (event : Event) :
    (moveOf ops state event).Enabled state.abs := by
  cases event with
  | dispatch resType value payload =>
      simp only [moveOf, dispatchMove]
      split_ifs with _ _ _ hdetecting
      · trivial
      · trivial
      · exact hdetecting
      · trivial
      · trivial
      · exact clickMove_enabled ops state value payload
      · exact clickMove_enabled ops state TOUCH_EVENT_UP payload
      · trivial
      · trivial
  | detectingTaskRuns index =>
      simp only [moveOf]
      split_ifs <;> trivial
  | flingEndElapses => trivial
  | flingTimeOutElapses => trivial
  | flingTaskRuns index =>
      simp only [moveOf]
      split_ifs with hfling
      · exact hfling.2
      · trivial

/-- A run of the recognizer beside whether an up event was handled since the slide began. -/
structure Watched where
  state : State
  lifted : Bool

def Watched.start : Watched :=
  ⟨State.created, false⟩

def Move.lifted (lifted : Bool) : Move → Bool
  | .beginSlide => false
  | .endSlide => true
  | .endSlideIntoFling => true
  | _ => lifted

def Watched.handle {F : Type} (ops : SpeedOps F) (watched : Watched) (event : Event) : Watched :=
  ⟨Slide.handle ops watched.state event, (moveOf ops watched.state event).lifted watched.lifted⟩

/-- What a move needs for slides and flings to stay paired: a slide or a fling is not left for
another reason before its end was reported, and the end of a slide is reported once. -/
def Move.Kept (view : Abstract) (lifted : Bool) : Move → Prop
  | .leave => view.stat ≠ .LIST_FLING ∧ (view.stat = .SLIDE_NORMAL → lifted = true)
  | .detect => view.stat ≠ .LIST_FLING ∧ (view.stat = .SLIDE_NORMAL → lifted = true)
  | .endSlide => lifted = false
  | .endSlideIntoFling => lifted = false
  | _ => True

def SlideKept {F : Type} (ops : SpeedOps F) (watched : Watched) (event : Event) : Prop :=
  (moveOf ops watched.state event).Kept watched.state.abs watched.lifted

/-- The facts every run keeps: in a fling the last report is its beginning, and in a slide the
begin is the last report until the finger is lifted. -/
structure ReportsTrack (view : Abstract) (lifted : Bool) : Prop where
  fling_open : view.stat = .LIST_FLING → isOpen view.fling = true
  normal_open : view.stat = .SLIDE_NORMAL → isOpen view.normal = !lifted

theorem apply_reportsTrack (view : Abstract) (lifted : Bool) (move : Move)
    (h : ReportsTrack view lifted) :
    ReportsTrack (move.apply view) (move.lifted lifted) := by
  cases move with
  | stay => exact h
  | leave => exact ⟨fun hstat => by simp [Move.apply] at hstat,
      fun hstat => by simp [Move.apply] at hstat⟩
  | detect => exact ⟨fun hstat => by simp [Move.apply] at hstat,
      fun hstat => by simp [Move.apply] at hstat⟩
  | beginSlide => exact ⟨fun hstat => by simp [Move.apply] at hstat,
      fun _ => by simp [Move.apply, Move.lifted]⟩
  | endSlide =>
      refine ⟨fun hstat => ?_, fun _ => by simp [Move.apply, Move.lifted]⟩
      exact h.fling_open hstat
  | endSlideIntoFling => exact ⟨fun _ => by simp [Move.apply],
      fun hstat => by simp [Move.apply] at hstat⟩
  | beginFling => exact ⟨fun _ => by simp [Move.apply],
      fun hstat => by simp [Move.apply] at hstat⟩
  | endFling => exact ⟨fun hstat => by simp [Move.apply] at hstat,
      fun hstat => by simp [Move.apply] at hstat⟩

/-- To a state without slide or fling, reports stay paired exactly when none is open. -/
theorem paired_leave_iff (view : Abstract) (lifted : Bool) (stat : SlideRecognizeStat)
    (hnormal : stat ≠ .SLIDE_NORMAL) (hfling : stat ≠ .LIST_FLING)
    (htrack : ReportsTrack view lifted) (h : SlidePaired view) :
    SlidePaired { view with stat := stat } ↔
      view.stat ≠ .LIST_FLING ∧ (view.stat = .SLIDE_NORMAL → lifted = true) := by
  constructor
  · intro hpaired
    refine ⟨fun hstat => ?_, fun hstat => ?_⟩
    · have hopen := htrack.fling_open hstat
      have hclosed := hpaired.fling_closed hfling
      exact absurd (hopen.symm.trans hclosed) (by decide)
    · have hopen := htrack.normal_open hstat
      have hclosed := hpaired.normal_closed hnormal
      simpa [hopen] using hclosed
  · rintro ⟨hnotFling, hlifted⟩
    refine ⟨h.normal, h.fling, fun _ => ?_, fun _ => h.fling_closed hnotFling⟩
    by_cases hstat : view.stat = .SLIDE_NORMAL
    · have hopen := htrack.normal_open hstat
      rw [hlifted hstat] at hopen
      exact hopen
    · exact h.normal_closed hstat

theorem apply_paired_iff (view : Abstract) (lifted : Bool) (move : Move)
    (henabled : move.Enabled view) (htrack : ReportsTrack view lifted) (h : SlidePaired view) :
    SlidePaired (move.apply view) ↔ move.Kept view lifted := by
  cases move with
  | stay => exact iff_of_true h trivial
  | leave => exact paired_leave_iff view lifted .IDLE (by decide) (by decide) htrack h
  | detect =>
      exact paired_leave_iff view lifted .SLIDE_NORMAL_DETECTING (by decide) (by decide) htrack h
  | beginSlide =>
      have hstat : view.stat = .SLIDE_NORMAL_DETECTING := henabled
      have hnormal := h.normal_closed (by rw [hstat]; decide)
      have hfling := h.fling_closed (by rw [hstat]; decide)
      refine iff_of_true ⟨?_, h.fling, ?_, fun _ => hfling⟩ trivial
      · exact (alternates_concat _ _).mpr ⟨h.normal, by rw [hnormal]; rfl⟩
      · intro hne
        exact absurd rfl hne
  | endSlide =>
      have hstat : view.stat = .SLIDE_NORMAL := henabled
      have hopen := htrack.normal_open hstat
      constructor
      · intro hpaired
        have hmark := ((alternates_concat _ _).mp hpaired.normal).2
        rw [hopen] at hmark
        simpa [Move.Kept] using hmark.symm
      · intro hlifted
        have hlifted : lifted = false := hlifted
        refine ⟨?_, h.fling, fun hne => absurd hstat hne, h.fling_closed⟩
        exact (alternates_concat _ _).mpr ⟨h.normal, by rw [hopen, hlifted]; rfl⟩
  | endSlideIntoFling =>
      have hstat : view.stat = .SLIDE_NORMAL := henabled
      have hopen := htrack.normal_open hstat
      have hfling := h.fling_closed (by rw [hstat]; decide)
      constructor
      · intro hpaired
        have hmark := ((alternates_concat _ _).mp hpaired.normal).2
        rw [hopen] at hmark
        simpa [Move.Kept] using hmark.symm
      · intro hlifted
        have hlifted : lifted = false := hlifted
        refine ⟨?_, ?_, fun _ => isOpen_concat _ _, fun hne => absurd rfl hne⟩
        · exact (alternates_concat _ _).mpr ⟨h.normal, by rw [hopen, hlifted]; rfl⟩
        · exact (alternates_concat _ _).mpr ⟨h.fling, by rw [hfling]; rfl⟩
  | beginFling =>
      have hstat : view.stat = .SLIDE_NORMAL_DETECTING := henabled
      have hnormal := h.normal_closed (by rw [hstat]; decide)
      have hfling := h.fling_closed (by rw [hstat]; decide)
      refine iff_of_true ⟨h.normal, ?_, fun _ => hnormal, fun hne => absurd rfl hne⟩ trivial
      exact (alternates_concat _ _).mpr ⟨h.fling, by rw [hfling]; rfl⟩
  | endFling =>
      have hstat : view.stat = .LIST_FLING := henabled
      have hnormal := h.normal_closed (by rw [hstat]; decide)
      have hopen := htrack.fling_open hstat
      refine iff_of_true ⟨h.normal, ?_, fun _ => hnormal, fun _ => isOpen_concat _ _⟩ trivial
      exact (alternates_concat _ _).mpr ⟨h.fling, by rw [hopen]; rfl⟩

/-! ## Runs -/

/-- In every run, the tasks and timers of the recognizer included, the reports of slides and
flings are paired in all states if and only if each event keeps them so. -/
theorem slides_paired_iff_kept {F : Type} (ops : SpeedOps F) (events : List Event) :
    Always (Watched.handle ops) (fun watched => SlidePaired watched.state.abs) Watched.start
        events ↔
      EachStep (Watched.handle ops) (SlideKept ops) Watched.start events := by
  refine always_iff_eachStep (Watched.handle ops)
    (I := fun watched => ReportsTrack watched.state.abs watched.lifted) ?_ ?_ events
    Watched.start ⟨by simp [Watched.start, State.created, State.abs],
      by simp [Watched.start, State.created, State.abs]⟩
    ⟨rfl, rfl, fun _ => rfl, fun _ => rfl⟩
  · intro watched event htrack
    simp only [Watched.handle, abs_handle]
    exact apply_reportsTrack _ _ _ htrack
  · intro watched event htrack hpaired
    simp only [Watched.handle, abs_handle]
    exact apply_paired_iff _ _ _ (moveOf_enabled ops watched.state event) htrack hpaired

/-! ## A slide that is not ended -/

/-- A second finger comes down in a slide. -/
def touchDownInSlide : List Event :=
  [.dispatch RES_TYPE_SLIDE_RECOGNIZE SLIDE_EVENT_DETECTING .null, .detectingTaskRuns 0,
    .dispatch RES_TYPE_SEND_FRAME_EVENT 0 .null,
    .dispatch RES_TYPE_CLICK_RECOGNIZE TOUCH_EVENT_DOWN .null]

theorem touchDownInSlide_not_paired :
    ¬ ∀ (F : Type) (ops : SpeedOps F) (events : List Event),
      Always (Watched.handle ops) (fun watched => SlidePaired watched.state.abs) Watched.start
        events := by
  intro h
  have hpaired := (h Unit ⟨fun _ => none, id, fun _ => false⟩ touchDownInSlide).last
  have hclosed := hpaired.normal_closed (by decide +kernel)
  have hopen : isOpen (run (Watched.handle (⟨fun _ => none, id, fun _ => false⟩ : SpeedOps Unit))
      Watched.start touchDownInSlide).state.abs.normal = true := by decide +kernel
  exact absurd (hopen.symm.trans hclosed) (by decide)

end ResSched.SceneRecognize.Slide
