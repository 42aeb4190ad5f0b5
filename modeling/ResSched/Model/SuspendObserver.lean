import ResSched.Library.AssocMap
import Mathlib.Data.Finset.Insert
import Mathlib.Data.Finset.Erase

/-! # The registry of suspend observers -/

namespace ResSched.Suspend

inductive ErrCode where
  | ERR_OK
  | ERR_INVALID_VALUE
  | ERR_INVALID_OPERATION
deriving DecidableEq

/-- An observer is known by its remote object, which can be null. -/
structure Observer (Object : Type) where
  AsObject : Option Object
deriving DecidableEq

/-- The two containers of `SuspendManagerBaseObserver`, each behind a lock of its own. Of the
recipients the map holds only the objects they belong to are kept. -/
structure SuspendManagerBaseObserver (Object : Type) where
  suspendObservers : List (Observer Object)
  recipientMap : Finset Object

namespace SuspendManagerBaseObserver

variable {Object : Type} [DecidableEq Object]

def created : SuspendManagerBaseObserver Object :=
  ⟨[], ∅⟩

def RegisterSuspendObserverInner (base : SuspendManagerBaseObserver Object)
    (observer : Observer Object) : SuspendManagerBaseObserver Object :=
  if observer ∈ base.suspendObservers then base
  else { base with suspendObservers := base.suspendObservers ++ [observer] }

def UnregisterSuspendObserverInner (base : SuspendManagerBaseObserver Object)
    (observer : Observer Object) : SuspendManagerBaseObserver Object :=
  { base with suspendObservers := base.suspendObservers.erase observer }

/-- `added` is the answer of `AddDeathRecipient`. -/
def AddObserverDeathRecipient (base : SuspendManagerBaseObserver Object)
    (observer : Observer Object) (added : Bool) :
    SuspendManagerBaseObserver Object × ErrCode :=
  match observer.AsObject with
  | none => (base, .ERR_INVALID_VALUE)
  | some object =>
      if object ∈ base.recipientMap then (base, .ERR_OK)
      else if added then ({ base with recipientMap := insert object base.recipientMap }, .ERR_OK)
      else (base, .ERR_INVALID_OPERATION)

def RemoveObserverDeathRecipient (base : SuspendManagerBaseObserver Object)
    (observer : Observer Object) : SuspendManagerBaseObserver Object × ErrCode :=
  match observer.AsObject with
  | none => (base, .ERR_INVALID_VALUE)
  | some object => ({ base with recipientMap := base.recipientMap.erase object }, .ERR_OK)

end SuspendManagerBaseObserver

/-- What a call in progress does next. -/
inductive Stage where
  | addRecipient
  | takeBack (ret : ErrCode)
  | removeRecipient
  | putBack (ret : ErrCode)
  | removeDied
deriving DecidableEq

structure Call (Object : Type) where
  observer : Observer Object
  stage : Stage
deriving DecidableEq

/-- The registry with the calls in progress, which are numbered as they begin, and the objects
that have died. -/
structure System (Object : Type) where
  base : SuspendManagerBaseObserver Object
  calls : AssocMap Nat (Call Object)
  begun : Nat
  dead : Finset Object

/-- A call's first step is taken as it begins; `proceed` takes the next one, with the answer of
`AddDeathRecipient` where it asks. -/
inductive Event (Object : Type) where
  | RegisterSuspendObserver (observer : Option (Observer Object))
  | UnregisterSuspendObserver (observer : Option (Observer Object))
  | OnObserverDied (remote : Object)
  | proceed (call : Nat) (added : Bool)
  | die (object : Object)

namespace System

variable {Object : Type} [DecidableEq Object]

def start : System Object where
  base := SuspendManagerBaseObserver.created
  calls := ∅
  begun := 0
  dead := ∅

def begin (system : System Object) (base : SuspendManagerBaseObserver Object)
    (observer : Observer Object) (stage : Stage) : System Object :=
  { system with
    base := base
    calls := system.calls.insert system.begun ⟨observer, stage⟩
    begun := system.begun + 1 }

/-- The call goes on to a stage, or returns. -/
def goOn (system : System Object) (base : SuspendManagerBaseObserver Object) (call : Nat)
    (observer : Observer Object) (stage : Option Stage) : System Object :=
  { system with
    base := base
    calls :=
      match stage with
      | some stage => system.calls.insert call ⟨observer, stage⟩
      | none => system.calls.erase call }

/-- The step of a call that is at a stage; a dead object takes no recipient. -/
def proceed (system : System Object) (call : Nat) (observer : Observer Object) (added : Bool) :
    Stage → System Object
  | .addRecipient =>
      let alive := observer.AsObject.any fun object => decide (object ∉ system.dead)
      let (base, ret) := system.base.AddObserverDeathRecipient observer (added && alive)
      system.goOn base call observer (if ret = .ERR_OK then none else some (.takeBack ret))
  | .takeBack _ =>
      system.goOn (system.base.UnregisterSuspendObserverInner observer) call observer none
  | .removeRecipient =>
      let (base, ret) := system.base.RemoveObserverDeathRecipient observer
      system.goOn base call observer (if ret = .ERR_OK then none else some (.putBack ret))
  | .putBack _ =>
      system.goOn (system.base.RegisterSuspendObserverInner observer) call observer none
  | .removeDied =>
      system.goOn (system.base.RemoveObserverDeathRecipient observer).1 call observer none

/-- A call with a null observer returns at once. -/
def handle (system : System Object) : Event Object → System Object
  | .RegisterSuspendObserver none => system
  | .RegisterSuspendObserver (some observer) =>
      system.begin (system.base.RegisterSuspendObserverInner observer) observer .addRecipient
  | .UnregisterSuspendObserver none => system
  | .UnregisterSuspendObserver (some observer) =>
      system.begin (system.base.UnregisterSuspendObserverInner observer) observer .removeRecipient
  | .OnObserverDied remote =>
      if remote ∈ system.dead then
        system.begin (system.base.UnregisterSuspendObserverInner ⟨some remote⟩) ⟨some remote⟩
          .removeDied
      else system
  | .proceed call added =>
      match system.calls.lookup call with
      | none => system
      | some inProgress => system.proceed call inProgress.observer added inProgress.stage
  | .die object => { system with dead := insert object system.dead }

end System

end ResSched.Suspend
