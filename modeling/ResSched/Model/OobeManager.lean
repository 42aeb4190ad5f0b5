import ResSched.Library.AssocMap

/-! # Tasks that wait for the basic statement to be agreed to -/

namespace ResSched.Oobe

inductive OobeValue where
  | INVALID
  | IS_FALSE
  | IS_TRUE
deriving DecidableEq

/-- The fields of `OOBEManager` that tasks go through, with the tasks it has executed. -/
structure OOBEManager (Task : Type) where
  oobeValue : OobeValue
  oobeTasks : List Task
  executed : List Task

namespace OOBEManager

variable {Task : Type}

def created : OOBEManager Task where
  oobeValue := .INVALID
  oobeTasks := []
  executed := []

/-- The constructor's `Initialize`; `none` is a read that fails. -/
def Initialize (oobe : OOBEManager Task) (result : Option Int) : OOBEManager Task :=
  match result with
  | none => oobe
  | some resultValue =>
      { oobe with oobeValue := if resultValue ≠ 0 then .IS_TRUE else .IS_FALSE }

/-- A null task is refused. -/
def SubmitTask (oobe : OOBEManager Task) (task : Option Task) : OOBEManager Task × Bool :=
  match task with
  | none => (oobe, false)
  | some task =>
      if oobe.oobeValue = .IS_TRUE then
        ({ oobe with executed := oobe.executed ++ [task] }, true)
      else ({ oobe with oobeTasks := oobe.oobeTasks ++ [task] }, true)

/-- What `FlushOobeValue` does with the value it has read. -/
def applyResult (oobe : OOBEManager Task) (result : Int) : OOBEManager Task :=
  if result ≠ 0 then
    ⟨.IS_TRUE, [], oobe.executed ++ oobe.oobeTasks⟩
  else { oobe with oobeValue := .IS_FALSE }

end OOBEManager

/-- The manager, the stored agreement and the calls of `FlushOobeValue` that have read a value
and not applied it yet. -/
structure System (Task : Type) where
  oobe : OOBEManager Task
  stored : Int
  flushes : AssocMap Nat Int

inductive Event (Task : Type) where
  | SubmitTask (task : Option Task)
  | readValue (flush : Nat) (succeeds : Bool)
  | applyValue (flush : Nat)
  | agree (value : Int)

namespace System

variable {Task : Type}

def start (stored : Int) (succeeds : Bool) : System Task where
  oobe := OOBEManager.created.Initialize (if succeeds then some stored else none)
  stored := stored
  flushes := ∅

/-- A flush whose read fails returns; one in progress does not read again. The stored value
changes from 0 only. -/
def handle (system : System Task) : Event Task → System Task
  | .SubmitTask task => { system with oobe := (system.oobe.SubmitTask task).1 }
  | .readValue flush succeeds =>
      if succeeds ∧ (system.flushes.lookup flush).isNone then
        { system with flushes := system.flushes.insert flush system.stored }
      else system
  | .applyValue flush =>
      match system.flushes.lookup flush with
      | none => system
      | some result =>
          { system with
            oobe := system.oobe.applyResult result
            flushes := system.flushes.erase flush }
  | .agree value =>
      if system.stored = 0 then { system with stored := value } else system

end System

end ResSched.Oobe
