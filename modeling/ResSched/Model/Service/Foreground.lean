import ResSched.Library.AssocMap
import ResSched.Model.ApplicationState
import Mathlib.Data.Finset.Erase
import Mathlib.Data.Finset.Insert

/-! # The foreground applications of the service -/

namespace ResSched.Service.Foreground

def OnApplicationStateChange (state : ApplicationState) (pid : Int)
    (foregroundPids_ : Finset Int) : Finset Int :=
  let foregroundPids_ :=
    if state = .APP_STATE_FOREGROUND then
      if pid ∉ foregroundPids_ then insert pid foregroundPids_ else foregroundPids_
    else foregroundPids_
  if state.leavesForeground then
    if pid ∈ foregroundPids_ then foregroundPids_.erase pid else foregroundPids_
  else foregroundPids_

def IsForegroundApp (foregroundPids_ : Finset Int) (pid : Int) : Bool :=
  decide (pid ∈ foregroundPids_)

/-- The second half of `InitForegroundAppInfo`, under the lock. -/
def insertForegroundApps (foregroundPids_ : Finset Int) (fgapplist : List Int) : Finset Int :=
  fgapplist.foldl
    (fun foregroundPids_ pid =>
      if pid ∉ foregroundPids_ then insert pid foregroundPids_ else foregroundPids_)
    foregroundPids_

/-! ## The application manager and the service -/

structure Notification where
  state : ApplicationState
  pid : Int

/-- The latest states the application manager knows, its notifications on their way to the
service in the order of the changes, and the service: its set, and the applications
`InitForegroundAppInfo` was given and has not inserted yet. -/
structure World where
  states : AssocMap Int ApplicationState
  inFlight : List Notification
  foregroundPids_ : Finset Int
  fgapplist : Option (List Int)
  initialised : Bool

/-- The service has started beside applications in any state. -/
def World.start (states : AssocMap Int ApplicationState) : World where
  states := states
  inFlight := []
  foregroundPids_ := ∅
  fgapplist := none
  initialised := false

inductive Event where
  | changeState (state : ApplicationState) (pid : Int)
  | handleNotification
  | GetForegroundApplications (succeeds : Bool)
  | insertForegroundApps

/-- `GetForegroundApplications` of the application manager. -/
def foregroundApplications (states : AssocMap Int ApplicationState) : List Int :=
  (states.entries.filter fun entry => entry.2 = .APP_STATE_FOREGROUND).map Sigma.fst

def step (world : World) : Event → World
  | .changeState state pid =>
      { world with
        states := world.states.insert pid state
        inFlight := world.inFlight ++ [⟨state, pid⟩] }
  | .handleNotification =>
      match world.inFlight with
      | [] => world
      | notification :: rest =>
          { world with
            inFlight := rest
            foregroundPids_ := OnApplicationStateChange notification.state notification.pid
              world.foregroundPids_ }
  | .GetForegroundApplications succeeds =>
      if !succeeds ∨ world.fgapplist.isSome then world
      else { world with fgapplist := some (foregroundApplications world.states) }
  | .insertForegroundApps =>
      match world.fgapplist with
      | none => world
      | some fgapplist =>
          { world with
            foregroundPids_ := insertForegroundApps world.foregroundPids_ fgapplist
            fgapplist := none
            initialised := true }

end ResSched.Service.Foreground
