import ResSched.Library.AssocMap
import ResSched.Library.CLibrary
import ResSched.Model.SceneRecognize.Slide
import Mathlib.Logic.Function.Basic

/-! # The slide recognizers of the screens -/

namespace ResSched.SceneRecognize.SlideProxy

open Slide (SpeedOps stringOf RES_TYPE_CLICK_RECOGNIZE TOUCH_EVENT_DOWN)

def DEFAULT_SCREEN_ID : Nat := 0
def MAX_INSTANCE_COUNT : Nat := 10
def PAYLOAD_KEY_SCREEN_ID : String := "screenId"
def PAYLOAD_KEY_DISPLAY_ID : String := "displayId"

/-- The proxy with all recognizers ever created, by number: one that is dropped from `instances_`
lives on in the tasks it has submitted. -/
structure Proxy where
  instances_ : AssocMap Nat Nat
  displayIdToRsScreenId_ : AssocMap Nat Nat
  recognizers : Nat → Slide.State
  created : Nat

def Proxy.start : Proxy where
  instances_ := ∅
  displayIdToRsScreenId_ := ∅
  recognizers := fun _ => Slide.State.created
  created := 0

/-! ## The screen of an event -/

def ExtractIdFromPayload (payload : Json String) (key : String) : Option Nat :=
  (stringOf payload key).bind (CLibrary.fromChars 64)

/-- `rsScreenId` is the answer of the display manager, if it has one. -/
def ConvertDisplayIdToRsScreenId (proxy : Proxy) (rsScreenId : Option Nat) (displayId : Nat) :
    Nat × Proxy :=
  match proxy.displayIdToRsScreenId_.lookup displayId with
  | some screenId => (screenId, proxy)
  | none =>
      match rsScreenId with
      | none => (DEFAULT_SCREEN_ID, proxy)
      | some rsScreenId =>
          (rsScreenId,
            { proxy with
              displayIdToRsScreenId_ :=
                proxy.displayIdToRsScreenId_.insert displayId rsScreenId })

/-- The screen `OnDispatchResource` takes an event to be about. -/
def screenOf (proxy : Proxy) (rsScreenId : Option Nat) (resType : Nat) (value : Int)
    (payload : Json String) : Nat × Proxy :=
  match ExtractIdFromPayload payload PAYLOAD_KEY_SCREEN_ID,
      ExtractIdFromPayload payload PAYLOAD_KEY_DISPLAY_ID with
  | some screenId, _ => (screenId, proxy)
  | none, some displayId =>
      if resType = RES_TYPE_CLICK_RECOGNIZE ∧ value = TOUCH_EVENT_DOWN then
        ConvertDisplayIdToRsScreenId proxy rsScreenId displayId
      else ((proxy.displayIdToRsScreenId_.lookup displayId).getD DEFAULT_SCREEN_ID, proxy)
  | none, none => (DEFAULT_SCREEN_ID, proxy)

/-! ## The instances -/

def IsTaskClean (state : Slide.State) : Bool :=
  state.listFlingEndTask.isNone && state.listFlingTimeOutTask.isNone

def CleanupIdleInstances (proxy : Proxy) : Proxy :=
  { proxy with
    instances_ := AssocMap.filter
      (fun _ recognizer =>
        !(decide ((proxy.recognizers recognizer).slideState = .IDLE) &&
          IsTaskClean (proxy.recognizers recognizer)))
      proxy.instances_ }

def GetOrCreateInstance (proxy : Proxy) (screenId : Nat) : Nat × Proxy :=
  match proxy.instances_.lookup screenId with
  | some recognizer => (recognizer, proxy)
  | none =>
      let recognizer := proxy.created
      let proxy := { proxy with
        recognizers := Function.update proxy.recognizers recognizer Slide.State.created
        created := proxy.created + 1
        instances_ := proxy.instances_.insert screenId recognizer }
      (recognizer,
        if proxy.instances_.entries.length > MAX_INSTANCE_COUNT then CleanupIdleInstances proxy
        else proxy)

/-! ## Events -/

/-- An event of a recognizer. -/
def Proxy.handle {F : Type} (ops : SpeedOps F) (proxy : Proxy) (recognizer : Nat)
    (event : Slide.Event) : Proxy :=
  { proxy with
    recognizers := Function.update proxy.recognizers recognizer
      (Slide.handle ops (proxy.recognizers recognizer) event) }

def OnDispatchResource {F : Type} (ops : SpeedOps F) (proxy : Proxy) (rsScreenId : Option Nat)
    (resType : Nat) (value : Int) (payload : Json String) : Proxy :=
  let (screenId, proxy) := screenOf proxy rsScreenId resType value payload
  let (recognizer, proxy) := GetOrCreateInstance proxy screenId
  let payloadWithScreenId := payload.set "screenId" (.string (toString screenId))
  proxy.handle ops recognizer (.dispatch resType value payloadWithScreenId)

/-- What happens to the proxy and to the tasks of its recognizers. The speed operations of a
dispatch compare with the limit set at the time. -/
inductive Event (F : Type) where
  | dispatch (ops : SpeedOps F) (rsScreenId : Option Nat) (resType : Nat) (value : Int)
      (payload : Json String)
  | detectingTaskRuns (recognizer index : Nat)
  | flingEndElapses (recognizer : Nat)
  | flingTimeOutElapses (recognizer : Nat)
  | flingTaskRuns (recognizer index : Nat)

/-- The tasks of a recognizer compute no speed. -/
def noSpeed : SpeedOps Unit where
  StrToFloat := fun _ => none
  scaleByFactor := id
  exceedsLimit := fun _ => false

def step {F : Type} (proxy : Proxy) : Event F → Proxy
  | .dispatch ops rsScreenId resType value payload =>
      OnDispatchResource ops proxy rsScreenId resType value payload
  | .detectingTaskRuns recognizer index =>
      proxy.handle noSpeed recognizer (.detectingTaskRuns index)
  | .flingEndElapses recognizer => proxy.handle noSpeed recognizer .flingEndElapses
  | .flingTimeOutElapses recognizer => proxy.handle noSpeed recognizer .flingTimeOutElapses
  | .flingTaskRuns recognizer index => proxy.handle noSpeed recognizer (.flingTaskRuns index)

end ResSched.SceneRecognize.SlideProxy
