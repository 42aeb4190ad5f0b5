import ResSched.Library.AssocMap
import Mathlib.Data.Finset.Basic

/-! # Event listeners of a client and their registrations on the service

One client process, the service in its successive incarnations, and the notifications of the
system ability manager between them.
-/

namespace ResSched.EventListener

/-- An event type and a listener group. -/
abbrev Key := Nat × Nat

/-- The service: its incarnation, and the registrations it holds for the pid of the client. -/
structure Server where
  up : Bool
  epoch : Nat
  registry : Finset Key

/-- The event-listener fields of `ResSchedClient`. A proxy is named by the incarnation of the
service it was obtained from. -/
structure Client where
  rss : Option Nat
  eventListeners : AssocMap Key (List Nat)
  registeredInnerEvents : Finset Key
  resSchedSvcStatusListener : Bool

/-- The two parties with the notifications in flight: the death of the connected service, and
the additions of the service that the client has not handled yet. -/
structure System where
  client : Client
  server : Server
  deathInFlight : Bool
  addsInFlight : Nat

def System.start : System where
  client := ⟨none, ∅, ∅, false⟩
  server := ⟨false, 0, ∅⟩
  deathInFlight := false
  addsInFlight := 0

/-- What happens next. A remote registration carries whether the request-rate check of the
service refuses it. -/
inductive Event where
  | RegisterEventListener (eventListener : Option Nat) (key : Key) (refused : Bool)
  | UnRegisterEventListener (eventListener : Option Nat) (key : Key)
  | TryConnect
  | StopRemoteObject
  | OnAddSystemAbility (refused : Key → Bool)
  | serviceDies
  | serviceStarts

/-! ## Remote calls -/

/-- The proxy of the client leads to the running service. -/
def System.connected (system : System) : Bool :=
  system.server.up && system.client.rss == some system.server.epoch

/-- `ResSchedService::RegisterEventListener` through the proxy: it returns an error when the
service is gone or refuses the request, and registers the key otherwise. -/
def remoteRegister (system : System) (key : Key) (refused : Bool) : System :=
  if system.connected && !refused then
    { system with
      server := { system.server with registry := insert key system.server.registry } }
  else system

def remoteUnRegister (system : System) (key : Key) : System :=
  if system.connected then
    { system with server := { system.server with registry := system.server.registry.erase key } }
  else system

/-! ## The listeners of the process -/

def IsInnerEventMapEmpty (client : Client) (key : Key) : Bool :=
  match client.eventListeners.lookup key with
  | none => true
  | some listeners => listeners.isEmpty

def innerRegister (client : Client) (eventListener : Option Nat) (key : Key) : Client :=
  match eventListener with
  | none => client
  | some listener =>
      let listeners := (client.eventListeners.lookup key).getD []
      { client with
        eventListeners := client.eventListeners.insert key
          (if listener ∈ listeners then listeners else listeners ++ [listener]) }

def innerUnRegister (client : Client) (eventListener : Option Nat) (key : Key) : Client :=
  match client.eventListeners.lookup key with
  | none => client
  | some listeners =>
      let rest := listeners.filter (fun listener => some listener ≠ eventListener)
      { client with
        eventListeners :=
          if rest = [] then client.eventListeners.erase key
          else client.eventListeners.insert key rest }

/-! ## The client -/

/-- The status of the service is subscribed to once; a service that is already up is notified
to the new subscriber. -/
def AddResSaListenerLocked (system : System) : System :=
  if system.client.resSchedSvcStatusListener then system
  else
    { system with
      client := { system.client with resSchedSvcStatusListener := true }
      addsInFlight := if system.server.up then system.addsInFlight + 1 else system.addsInFlight }

/-- `none` when the service is not found. -/
def TryConnect (system : System) : Option System :=
  if system.client.rss.isSome then some system
  else if system.server.up then
    some (AddResSaListenerLocked
      { system with client := { system.client with rss := some system.server.epoch } })
  else none

def markRegistered (system : System) (key : Key) : System :=
  { system with
    client := { system.client with
      registeredInnerEvents := insert key system.client.registeredInnerEvents } }

def RegisterEventListener (system : System) (eventListener : Option Nat) (key : Key)
    (refused : Bool) : System :=
  let system := { system with client := innerRegister system.client eventListener key }
  let system :=
    if key ∉ system.client.registeredInnerEvents ∧ !IsInnerEventMapEmpty system.client key ∧
        system.client.rss.isSome then
      markRegistered (remoteRegister system key refused) key
    else system
  AddResSaListenerLocked system

def UnRegisterEventListener (system : System) (eventListener : Option Nat) (key : Key) : System :=
  let system := { system with client := innerUnRegister system.client eventListener key }
  if IsInnerEventMapEmpty system.client key ∧ system.client.rss.isSome then
    let system := remoteUnRegister system key
    { system with
      client := { system.client with
        registeredInnerEvents := system.client.registeredInnerEvents.erase key } }
  else system

def StopRemoteObject (system : System) : System :=
  { system with client := { system.client with rss := none, registeredInnerEvents := ∅ } }

def RecoverEventListener (system : System) (refused : Key → Bool) : System :=
  system.client.eventListeners.keys.foldl
    (fun system key => markRegistered (remoteRegister system key (refused key)) key) system

def OnAddSystemAbility (system : System) (refused : Key → Bool) : System :=
  match TryConnect system with
  | none => system
  | some system => RecoverEventListener system refused

/-! ## The two parties and the notifications -/

def System.handle (system : System) : Event → System
  | .RegisterEventListener eventListener key refused =>
      EventListener.RegisterEventListener system eventListener key refused
  | .UnRegisterEventListener eventListener key =>
      EventListener.UnRegisterEventListener system eventListener key
  | .TryConnect => (EventListener.TryConnect system).getD system
  | .StopRemoteObject =>
      if system.deathInFlight then
        { EventListener.StopRemoteObject system with deathInFlight := false }
      else system
  | .OnAddSystemAbility refused =>
      if system.addsInFlight = 0 then system
      else EventListener.OnAddSystemAbility
        { system with addsInFlight := system.addsInFlight - 1 } refused
  | .serviceDies =>
      if system.server.up then
        { system with
          server := { system.server with up := false, registry := ∅ }
          deathInFlight := system.deathInFlight || system.connected }
      else system
  | .serviceStarts =>
      if system.server.up then system
      else
        { system with
          server := ⟨true, system.server.epoch + 1, ∅⟩
          addsInFlight :=
            if system.client.resSchedSvcStatusListener then system.addsInFlight + 1
            else system.addsInFlight }

end ResSched.EventListener
