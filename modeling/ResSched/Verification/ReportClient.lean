import ResSched.Model.ReportClient
import ResSched.Verification.Plugin.Subscription

/-! # Every type with a live subscriber reaches the service -/

namespace ResSched.ReportClient

open Transition
open Plugin (PluginMgr Topic Subscriptions Followed)

/-! ## The specification -/

/-- The two parties beside the live subscriptions of the plugins of the service. -/
structure World where
  system : System
  live : Subscriptions

def World.start : World :=
  ⟨System.start, ∅⟩

/-- The manager and the subscriptions as the verification of the manager follows them. -/
def World.followed (world : World) : Followed :=
  ⟨world.system.server.mgr, world.live⟩

def World.step (world : World) (event : Event) : World where
  system := ReportClient.step world.system event
  live :=
    match event with
    | .call call =>
        if world.system.server.up then (world.followed.handle call).live else world.live
    | .serviceStarts _ => if world.system.server.up then world.live else ∅
    | _ => world.live

end ResSched.ReportClient
