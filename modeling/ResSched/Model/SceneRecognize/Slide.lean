import ResSched.Model.Json

/-! # The slide recognizer of one screen -/

namespace ResSched.SceneRecognize.Slide

def RES_TYPE_CLICK_RECOGNIZE : Nat := 9
def RES_TYPE_SLIDE_RECOGNIZE : Nat := 11
def RES_TYPE_SEND_FRAME_EVENT : Nat := 103
def RES_TYPE_AXIS_EVENT : Nat := 123

def SLIDE_EVENT_OFF : Int := 0
def SLIDE_EVENT_ON : Int := 1
def SLIDE_EVENT_DETECTING : Int := 2
def SLIDE_NORMAL_BEGIN : Int := 3
def SLIDE_NORMAL_END : Int := 4
def TOUCH_EVENT_DOWN : Int := 1
def TOUCH_EVENT_UP : Int := 3
def TOUCH_EVENT_PULL_UP : Int := 4
def AXIS_EVENT_END : Int := 1
def DEFAULT_SCREEN_ID : String := "0"
def AXIS_EVENT_TYPE : String := "axis_event_type"
def UP_SPEED_KEY : String := "up_speed"

inductive SlideRecognizeStat where
  | IDLE
  | SLIDE_NORMAL_DETECTING
  | SLIDE_NORMAL
  | LIST_FLING
deriving DecidableEq

inductive DrawFrameReport where
  | EVENT_VALUE_DRAW_FRAME_REPORT_START
  | EVENT_VALUE_DRAW_FRAME_REPORT_STOP
deriving DecidableEq

/-- The floating-point operations on the up speed: parsing, scaling by `AXIS_EVENT_FACTOR`, and
comparison with `listFlingSpeedLimit_`. -/
structure SpeedOps (F : Type) where
  StrToFloat : String → Option F
  scaleByFactor : F → F
  exceedsLimit : F → Bool

/-- A delayed fling task behind its handle; it no longer waits once it has been skipped or its
delay has elapsed. -/
structure FlingTask where
  payload : Json String
  waiting : Bool

/-- What the recognizer sends out. -/
inductive Output where
  | ReportData (value : Int) (payload : Json String)
  | SendEvent (value : DrawFrameReport) (screenId : String)

/-- The recognizer with its submitted tasks and what it has sent out. `begunTasks` are the fling
tasks whose delay has elapsed and that wait for the lock, out of reach of a skip. -/
structure State where
  slideState : SlideRecognizeStat
  isInTouching : Bool
  slidePid : String
  slideUid : String
  scrTid : String
  listFlingEndTask : Option FlingTask
  listFlingTimeOutTask : Option FlingTask
  detectingTasks : List (Json String)
  begunTasks : List (Json String)
  outputs : List Output

def State.created : State where
  slideState := .IDLE
  isInTouching := false
  slidePid := ""
  slideUid := ""
  scrTid := ""
  listFlingEndTask := none
  listFlingTimeOutTask := none
  detectingTasks := []
  begunTasks := []
  outputs := []

inductive Event where
  | dispatch (resType : Nat) (value : Int) (payload : Json String)
  | detectingTaskRuns (index : Nat)
  | flingEndElapses
  | flingTimeOutElapses
  | flingTaskRuns (index : Nat)

/-! ## Payloads and reports -/

def stringOf (payload : Json String) (key : String) : Option String :=
  (payload.find? key).bind Json.string?

def FillRealPidAndUid (state : State) (payload : Json String) : Json String :=
  let payload := if state.slidePid = "" then payload
    else payload.set "clientPid" (.string state.slidePid)
  let payload := if state.slideUid = "" then payload
    else payload.set "callingUid" (.string state.slideUid)
  payload.set "scrTid" (.string state.scrTid)

def BuildExtInfoWithScreenId (payload : Json String) : String :=
  (stringOf payload "screenId").getD DEFAULT_SCREEN_ID

def ReportData (state : State) (value : Int) (payload : Json String) : State :=
  { state with outputs := state.outputs ++ [.ReportData value payload] }

def SendEvent (state : State) (value : DrawFrameReport) (payload : Json String) : State :=
  { state with outputs := state.outputs ++ [.SendEvent value (BuildExtInfoWithScreenId payload)] }

def State.setSlideState (state : State) (stat : SlideRecognizeStat) : State :=
  { state with slideState := stat }

/-- `ffrt::skip` on a handle that may be null. -/
def skip (task : Option FlingTask) : Option FlingTask :=
  task.map (fun task => { task with waiting := false })

/-! ## The handlers -/

def ReportListFlingLockedEnd (state : State) (payload : Json String) : State :=
  if state.slideState ≠ .LIST_FLING then state
  else
    let state := ReportData state SLIDE_EVENT_OFF payload
    let state := SendEvent state .EVENT_VALUE_DRAW_FRAME_REPORT_STOP payload
    state.setSlideState .IDLE

def HandleSlideOFFEvent (state : State) (payload : Json String) : State :=
  let state := { state with
    listFlingEndTask := skip state.listFlingEndTask
    listFlingTimeOutTask := skip state.listFlingTimeOutTask }
  let state := SendEvent state .EVENT_VALUE_DRAW_FRAME_REPORT_STOP payload
  state.setSlideState .IDLE

def HandleSlideDetecting (state : State) (payload : Json String) : State :=
  { state with
    isInTouching := true
    detectingTasks := state.detectingTasks ++ [payload] }

def StartDetecting (state : State) (payload : Json String) : State :=
  let state := SendEvent state .EVENT_VALUE_DRAW_FRAME_REPORT_START payload
  let state := state.setSlideState .SLIDE_NORMAL_DETECTING
  match stringOf payload "clientPid" with
  | none => state
  | some clientPid =>
      let state := { state with slidePid := clientPid }
      match stringOf payload "callingUid" with
      | none => state
      | some callingUid =>
          { state with
            slideUid := callingUid
            scrTid := (stringOf payload "scrTid").getD state.scrTid }

def HandleListFlingStart (state : State) (payload : Json String) : State :=
  let state := SendEvent state .EVENT_VALUE_DRAW_FRAME_REPORT_START payload
  { state with
    listFlingEndTask := some ⟨payload, true⟩
    listFlingTimeOutTask := some ⟨payload, true⟩ }

def HandleSlideEvent (state : State) (value : Int) (payload : Json String) : State :=
  if value = SLIDE_EVENT_DETECTING then HandleSlideDetecting state payload
  else if value = SLIDE_EVENT_ON then HandleListFlingStart state payload
  else if value = SLIDE_EVENT_OFF then HandleSlideOFFEvent state payload
  else state

def HandleSendFrameEvent (state : State) (payload : Json String) : State :=
  if state.slideState = .SLIDE_NORMAL_DETECTING then
    let state :=
      if state.isInTouching then
        (ReportData state SLIDE_NORMAL_BEGIN payload).setSlideState .SLIDE_NORMAL
      else state.setSlideState .IDLE
    SendEvent state .EVENT_VALUE_DRAW_FRAME_REPORT_STOP payload
  else if state.slideState = .LIST_FLING then
    { state with listFlingEndTask := some ⟨payload, true⟩ }
  else state

def ListFlingEnd (state : State) (payload : Json String) : State :=
  if state.slideState ≠ .LIST_FLING then state
  else
    let state := { state with listFlingEndTask := none, listFlingTimeOutTask := none }
    ReportListFlingLockedEnd state (FillRealPidAndUid state payload)

/-- The up speed the payload carries, with the factor of an axis event. -/
def upSpeedOf {F : Type} (ops : SpeedOps F) (payload : Json String) : Option F :=
  match stringOf payload "clientPid", stringOf payload UP_SPEED_KEY with
  | some _, some text =>
      (ops.StrToFloat text).map (fun upSpeed =>
        if stringOf payload AXIS_EVENT_TYPE = some AXIS_EVENT_TYPE then ops.scaleByFactor upSpeed
        else upSpeed)
  | _, _ => none

/-- The up event of a slide: its end, and the start of a fling when the speed allows. -/
def handleUp {F : Type} (ops : SpeedOps F) (state : State) (payload : Json String) : State :=
  let state :=
    if state.slideState ≠ .SLIDE_NORMAL_DETECTING then
      ReportData state SLIDE_NORMAL_END (FillRealPidAndUid state payload)
    else state
  match upSpeedOf ops payload with
  | none => state
  | some upSpeed =>
      if ops.exceedsLimit upSpeed then
        let state := SendEvent state .EVENT_VALUE_DRAW_FRAME_REPORT_START payload
        let state := ReportData state SLIDE_EVENT_ON (FillRealPidAndUid state payload)
        state.setSlideState .LIST_FLING
      else state

def HandleClickEvent {F : Type} (ops : SpeedOps F) (state : State) (value : Int)
    (payload : Json String) : State :=
  let state :=
    if value = TOUCH_EVENT_DOWN then
      { (ListFlingEnd state payload).setSlideState .IDLE with isInTouching := true }
    else if value = TOUCH_EVENT_UP ∨ value = TOUCH_EVENT_PULL_UP then
      { state with isInTouching := false }
    else state
  if state.slideState ≠ .SLIDE_NORMAL ∧ state.slideState ≠ .SLIDE_NORMAL_DETECTING then state
  else if value = TOUCH_EVENT_UP ∨ value = TOUCH_EVENT_PULL_UP then handleUp ops state payload
  else state

def OnDispatchResource {F : Type} (ops : SpeedOps F) (state : State) (resType : Nat)
    (value : Int) (payload : Json String) : State :=
  if resType = RES_TYPE_SLIDE_RECOGNIZE then HandleSlideEvent state value payload
  else if resType = RES_TYPE_SEND_FRAME_EVENT then
    HandleSendFrameEvent state (FillRealPidAndUid state payload)
  else if resType = RES_TYPE_CLICK_RECOGNIZE then HandleClickEvent ops state value payload
  else if resType = RES_TYPE_AXIS_EVENT then
    if value = AXIS_EVENT_END then HandleClickEvent ops state TOUCH_EVENT_UP payload else state
  else state

/-! ## The recognizer and its tasks -/

/-- The delay of a task elapses: a task that still waits goes to the lock. -/
def elapse (task : Option FlingTask) : List (Json String) :=
  match task with
  | some ⟨payload, true⟩ => [payload]
  | _ => []

def handle {F : Type} (ops : SpeedOps F) (state : State) : Event → State
  | .dispatch resType value payload => OnDispatchResource ops state resType value payload
  | .detectingTaskRuns index =>
      match state.detectingTasks[index]? with
      | none => state
      | some payload =>
          StartDetecting { state with detectingTasks := state.detectingTasks.eraseIdx index }
            payload
  | .flingEndElapses =>
      { state with
        begunTasks := state.begunTasks ++ elapse state.listFlingEndTask
        listFlingEndTask := skip state.listFlingEndTask }
  | .flingTimeOutElapses =>
      { state with
        begunTasks := state.begunTasks ++ elapse state.listFlingTimeOutTask
        listFlingTimeOutTask := skip state.listFlingTimeOutTask }
  | .flingTaskRuns index =>
      match state.begunTasks[index]? with
      | none => state
      | some payload =>
          ReportListFlingLockedEnd { state with begunTasks := state.begunTasks.eraseIdx index }
            payload

end ResSched.SceneRecognize.Slide
