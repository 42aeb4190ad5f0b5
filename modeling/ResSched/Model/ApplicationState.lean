import Mathlib.Init

/-! # Application states -/

namespace ResSched

/-- The states of the application manager; those no manager of the service tells apart are
`other`. -/
inductive ApplicationState where
  | APP_STATE_FOREGROUND
  | APP_STATE_BACKGROUND
  | APP_STATE_TERMINATED
  | APP_STATE_END
  | other (state : Int)
deriving DecidableEq

/-- The states in which an application has left the foreground. -/
def ApplicationState.leavesForeground : ApplicationState → Bool
  | .APP_STATE_BACKGROUND | .APP_STATE_TERMINATED | .APP_STATE_END => true
  | .APP_STATE_FOREGROUND | .other _ => false

end ResSched
