import ResSched.Model.SocPerf.Focus
import ResSched.Model.SocPerf.Screen

/-! # The SocPerf plugin beside a socperf service that stops and starts -/

namespace ResSched.SocPerf.Restart

open Focus

/-- The parts of the plugin that request device modes, and the service: whether it runs, and all
it has been told since it started. -/
structure System where
  plugin : Focus.Plugin
  screen : Screen.Plugin
  running : Bool
  told : List Call

inductive Step where
  | event (event : Focus.Event)
  | screenEvent (event : Screen.Event)
  | stop
  | start

/-- The device mode a screen handler requests. -/
def modeCall : Screen.Call → Option Call
  | .RequestDeviceMode mode status => some (.RequestDeviceMode mode status)
  | .PerfRequestEx _ _ => none

/-- Calls reach the service while it runs and are lost otherwise. -/
def System.deliver (system : System) (calls : List Call) : System :=
  if system.running then { system with told := system.told ++ calls } else system

def System.step (env : External) (system : System) : Step → System
  | .event event =>
      let plugin := system.plugin.handle env event
      System.deliver { system with plugin := plugin } plugin.calls
  | .screenEvent event =>
      let handled := Screen.HandleEvent system.screen event
      System.deliver { system with screen := handled.1 } (handled.2.filterMap modeCall)
  | .stop => { system with running := false, told := [] }
  | .start => { system with running := true }

/-- The plugin initialised beside a service that runs or does not. -/
def System.init (env : External) (configs : Configs) (running : Bool) : System :=
  System.deliver ⟨Init env configs, Screen.Plugin.created, running, []⟩ (Init env configs).calls

/-- What a call makes of the state of `WEAK_ACTION_MODE`. -/
def modeAfter (held : Bool) : Call → Bool
  | .RequestDeviceMode mode status => if mode = WEAK_ACTION_MODE then status else held
  | _ => held

/-- The state of `WEAK_ACTION_MODE` the service holds; `untold` is the one it has when it has been
told nothing. -/
def modeHeld (untold : Bool) (told : List Call) : Bool :=
  told.foldl modeAfter untold

end ResSched.SocPerf.Restart
