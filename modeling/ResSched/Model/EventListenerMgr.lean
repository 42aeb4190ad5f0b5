import ResSched.Model.Plugin.Subscription
import Mathlib.Data.Finset.Card
import Mathlib.Data.Int.Order.Basic

/-! # The event-listener registry of the service -/

namespace ResSched.EventListenerMgr

def EVENT_START : Nat := 0
def EVENT_KEY_PERF_SCENE : Nat := 23
def EVENT_END : Nat := 27
def EXT_EVENT_KEY : String := "extType"

/-- What one process has registered for an event type; `Remote` names remote objects. -/
structure EventListenerInfo (Remote : Type*) where
  listener : Remote
  pid : Int
  groups : Finset Nat

abbrev Listeners (Remote : Type*) := AssocMap Int (EventListenerInfo Remote)

/-- The fields of `EventListenerMgr`; of the death recipient and of the sender queue only their
presence matters. -/
structure Mgr (Remote : Type*) where
  initialized_ : Bool
  eventListenerMap_ : AssocMap Nat (Listeners Remote)
  eventListenerDeathRecipient_ : Bool
  eventSenderQueue_ : Bool

/-- The arguments of `SendEvent` that decide who receives the event. -/
structure SendCall where
  eventType : Nat
  extInfo : Json String
  listenerGroup : Nat
  targetPid : Int

section

variable {Remote : Type*} [DecidableEq Remote]

/-- The singleton as it is constructed. -/
def Mgr.created : Mgr Remote where
  initialized_ := false
  eventListenerMap_ := ∅
  eventListenerDeathRecipient_ := false
  eventSenderQueue_ := false

def Init (mgr : Mgr Remote) : Mgr Remote :=
  if mgr.initialized_ then mgr
  else
    { mgr with
      eventListenerDeathRecipient_ := true
      eventSenderQueue_ := true
      initialized_ := true }

/-! ## Registering and unregistering -/

/-- The record of a process under an event type. -/
def Mgr.entry (mgr : Mgr Remote) (eventType : Nat) (pid : Int) :
    Option (EventListenerInfo Remote) :=
  (mgr.eventListenerMap_.lookup eventType).bind fun listeners => listeners.lookup pid

/-- A process that has a record under the event type keeps the listener of that record. -/
def RegisterEventListener (mgr : Mgr Remote) (callingPid : Int) (listener : Option Remote)
    (eventType listenerGroup : Nat) : Mgr Remote :=
  match listener with
  | none => mgr
  | some listener =>
      if !mgr.eventListenerDeathRecipient_ then mgr
      else
        let listeners := (mgr.eventListenerMap_.lookup eventType).getD ∅
        match mgr.entry eventType callingPid with
        | some info =>
            { mgr with
              eventListenerMap_ := mgr.eventListenerMap_.insert eventType
                (listeners.insert callingPid
                  { info with groups := insert listenerGroup info.groups }) }
        | none =>
            { mgr with
              eventListenerMap_ := mgr.eventListenerMap_.insert eventType
                (listeners.insert callingPid ⟨listener, callingPid, {listenerGroup}⟩) }

def UnRegisterEventListener (mgr : Mgr Remote) (callingPid : Int)
    (eventType listenerGroup : Nat) : Mgr Remote :=
  match mgr.eventListenerMap_.lookup eventType with
  | none => mgr
  | some listeners =>
      match listeners.lookup callingPid with
      | none => mgr
      | some info =>
          let groups := info.groups.erase listenerGroup
          if groups.card ≠ 0 then
            { mgr with
              eventListenerMap_ := mgr.eventListenerMap_.insert eventType
                (listeners.insert callingPid { info with groups := groups }) }
          else
            let rest := listeners.erase callingPid
            { mgr with
              eventListenerMap_ :=
                if rest.entries.isEmpty then mgr.eventListenerMap_.erase eventType
                else mgr.eventListenerMap_.insert eventType rest }

/-! ## The death of a listener -/

def holds (listener : Remote) (listeners : Listeners Remote) (pid : Int) : Bool :=
  (listeners.lookup pid).any fun info => info.listener = listener

/-- The inner loop of `RemoveListenerLock`: it leaves the map after the first match. -/
def eraseFirst (listener : Remote) (listeners : Listeners Remote) : Listeners Remote :=
  match (AssocMap.ascendingKeys listeners).find? (holds listener listeners) with
  | none => listeners
  | some pid => listeners.erase pid

def RemoveListenerLock (mgr : Mgr Remote) (listener : Remote) : Mgr Remote :=
  { mgr with
    eventListenerMap_ :=
      AssocMap.mapValues (fun _ listeners => eraseFirst listener listeners)
        mgr.eventListenerMap_ }

def OnRemoteListenerDied (mgr : Mgr Remote) (listener : Option Remote) : Mgr Remote :=
  match listener with
  | none => mgr
  | some listener => RemoveListenerLock mgr listener

/-! ## Sending an event -/

def GetExtTypeByEventExtInfo (env : Plugin.External) (extInfo : Json String) : Int :=
  match (extInfo.find? EXT_EVENT_KEY).bind Json.string? with
  | none => Plugin.DEFAULT_VALUE
  | some extType => (env.StrToInt extType).getD Plugin.DEFAULT_VALUE

/-- The event type an event is sent under, `none` when it is not one of the event types. -/
def sentType (env : Plugin.External) (call : SendCall) : Option Nat :=
  if call.eventType < EVENT_START ∨ call.eventType > EVENT_END then none
  else if env.extResEnable ∧ call.eventType = EVENT_KEY_PERF_SCENE ∧
      GetExtTypeByEventExtInfo env call.extInfo ≠ Plugin.DEFAULT_VALUE then
    some (CLibrary.toUnsigned 32 (GetExtTypeByEventExtInfo env call.extInfo))
  else some call.eventType

/-- The listeners `SendEventLock` collects. -/
def SendEventLock (mgr : Mgr Remote) (eventType listenerGroup : Nat) (targetPid : Int) :
    List Remote :=
  match mgr.eventListenerMap_.lookup eventType with
  | none => []
  | some listeners =>
      let pids := if 0 ≤ targetPid then [targetPid] else AssocMap.ascendingKeys listeners
      pids.filterMap fun pid =>
        ((listeners.lookup pid).filter fun info => listenerGroup ∈ info.groups).map
          EventListenerInfo.listener

/-- The listeners an event is delivered to. -/
def SendEvent (env : Plugin.External) (mgr : Mgr Remote) (call : SendCall) : List Remote :=
  match sentType env call with
  | none => []
  | some eventType =>
      if !mgr.eventSenderQueue_ then []
      else SendEventLock mgr eventType call.listenerGroup call.targetPid

end

end ResSched.EventListenerMgr
