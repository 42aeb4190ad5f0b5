import ResSched.Library.Transition
import ResSched.Model.EventListener
import Mathlib.Data.Finset.Insert

/-! # Registrations of a client agree with the service -/

namespace ResSched.EventListener

open Transition

/-! ## The specification -/

/-- The process has a listener for the key. -/
def HasListener (client : Client) (key : Key) : Prop :=
  IsInnerEventMapEmpty client key = false

/-- What the client has recorded while connected is registered, and once the service is up with
nothing in flight every key with a listener is registered. -/
structure Agreement (system : System) : Prop where
  recorded : system.connected = true →
    ∀ key ∈ system.client.registeredInnerEvents, key ∈ system.server.registry
  restored : system.server.up = true → system.deathInFlight = false →
    system.addsInFlight = 0 → ∀ key, HasListener system.client key → key ∈ system.server.registry

/-- The service does not refuse a registration it does not hold yet. -/
def Accepted (system : System) (key : Key) (refused : Bool) : Prop :=
  refused = true → key ∈ system.server.registry

/-- What an event needs for the agreement: no registration that reaches the service is refused,
and the last addition in flight is not handled while the client holds the proxy of a service
that is gone. -/
def AgreementKept (system : System) : Event → Prop
  | .RegisterEventListener eventListener key refused =>
      system.connected = true → key ∉ system.client.registeredInnerEvents →
        HasListener (innerRegister system.client eventListener key) key →
        Accepted system key refused
  | .OnAddSystemAbility refused =>
      (system.server.up = true → system.client.rss.isSome = true → system.connected = false →
        system.addsInFlight ≠ 1) ∧
      (system.addsInFlight ≠ 0 → system.server.up = true →
        (system.client.rss.isSome = true → system.connected = true) →
        ∀ key ∈ system.client.eventListeners.keys, Accepted system key (refused key))
  | _ => True

/-! ## What every run keeps under the guard -/

structure AgreementInv (system : System) : Prop where
  gone : system.deathInFlight = true →
    system.client.rss.isSome = true ∧ system.connected = false
  epoch_le : ∀ epoch, system.client.rss = some epoch → epoch ≤ system.server.epoch
  recorded_connected : system.client.rss = none → system.client.registeredInnerEvents = ∅
  recorded : system.connected = true →
    ∀ key ∈ system.client.registeredInnerEvents, key ∈ system.server.registry
  subscribed : system.client.rss.isSome = true →
    system.client.resSchedSvcStatusListener = true
  listening : (∃ key, HasListener system.client key) →
    system.client.resSchedSvcStatusListener = true
  pending : system.client.resSchedSvcStatusListener = true → system.server.up = true →
    system.connected = false → system.addsInFlight ≠ 0
  restored : system.connected = true → system.addsInFlight = 0 →
    ∀ key, HasListener system.client key → key ∈ system.server.registry

theorem start_agreementInv : AgreementInv System.start := by
  refine ⟨?_, ?_, ?_, ?_, ?_, ?_, ?_, ?_⟩ <;>
    simp [System.start, System.connected, HasListener, IsInnerEventMapEmpty]

theorem AgreementInv.agreement {system : System} (h : AgreementInv system) :
    Agreement system where
  recorded := h.recorded
  restored := by
    intro hup _ hadds key hkey
    have hsubscribed := h.listening ⟨key, hkey⟩
    cases hconnected : system.connected with
    | true => exact h.restored hconnected hadds key hkey
    | false => exact absurd hadds (h.pending hsubscribed hup hconnected)

/-! ## The listeners of the process -/

theorem hasListener_innerRegister (client : Client) (eventListener : Option Nat)
    (key other : Key) (hne : other ≠ key) :
    HasListener (innerRegister client eventListener key) other ↔ HasListener client other := by
  cases eventListener with
  | none => rfl
  | some listener => simp [HasListener, IsInnerEventMapEmpty, innerRegister, hne]

theorem hasListener_of_innerUnRegister (client : Client) (eventListener : Option Nat)
    (key other : Key) (h : HasListener (innerUnRegister client eventListener key) other) :
    HasListener client other := by
  rw [innerUnRegister] at h
  cases hlookup : client.eventListeners.lookup key with
  | none => simpa [hlookup] using h
  | some listeners =>
      simp only [hlookup, HasListener, IsInnerEventMapEmpty] at h ⊢
      by_cases hother : other = key
      · subst hother
        rw [hlookup]
        cases listeners with
        | nil => simp at h
        | cons listener rest => rfl
      · split_ifs at h
        · rwa [AssocMap.lookup_erase_ite, if_neg hother] at h
        · rwa [AssocMap.lookup_insert_ite, if_neg hother] at h

theorem mem_keys_of_hasListener (client : Client) (key : Key) (h : HasListener client key) :
    key ∈ client.eventListeners.keys := by
  unfold HasListener IsInnerEventMapEmpty at h
  rw [AssocMap.mem_keys_iff]
  cases hlookup : client.eventListeners.lookup key with
  | none => simp [hlookup] at h
  | some listeners => exact ⟨listeners, rfl⟩

/-- A client in which at most the listeners have changed. -/
structure ListenersChanged (before after : Client) : Prop where
  rss : after.rss = before.rss
  registeredInnerEvents : after.registeredInnerEvents = before.registeredInnerEvents
  resSchedSvcStatusListener : after.resSchedSvcStatusListener = before.resSchedSvcStatusListener

theorem innerRegister_changed (client : Client) (eventListener : Option Nat) (key : Key) :
    ListenersChanged client (innerRegister client eventListener key) := by
  cases eventListener <;> exact ⟨rfl, rfl, rfl⟩

theorem innerUnRegister_changed (client : Client) (eventListener : Option Nat) (key : Key) :
    ListenersChanged client (innerUnRegister client eventListener key) := by
  rw [innerUnRegister]
  cases client.eventListeners.lookup key <;> exact ⟨rfl, rfl, rfl⟩

theorem ListenersChanged.connected {system : System} {client : Client}
    (h : ListenersChanged system.client client) :
    System.connected { system with client := client } = system.connected := by
  simp only [System.connected, h.rss]

/-! ## Remote calls -/

/-- A registration call changes the record of the client and, when the service accepts it, the
registry. -/
theorem markRegistered_remoteRegister (system : System) (key : Key) (refused : Bool) :
    markRegistered (remoteRegister system key refused) key =
      { system with
        client := { system.client with
          registeredInnerEvents := insert key system.client.registeredInnerEvents }
        server := { system.server with
          registry := (remoteRegister system key refused).server.registry } } := by
  unfold remoteRegister markRegistered
  split_ifs <;> rfl

theorem mem_remoteRegister (system : System) (key other : Key) (refused : Bool) :
    other ∈ (remoteRegister system key refused).server.registry ↔
      other ∈ system.server.registry ∨
        (system.connected = true ∧ refused = false ∧ other = key) := by
  rw [remoteRegister]
  split_ifs with h
  · rw [Bool.and_eq_true, Bool.not_eq_true'] at h
    simp [h.1, h.2, or_comm]
  · constructor
    · exact Or.inl
    · rintro (hmem | ⟨hconnected, hrefused, _⟩)
      · exact hmem
      · simp [hconnected, hrefused] at h

theorem accepted_mem (system : System) (key : Key) (refused : Bool)
    (hconnected : system.connected = true) (h : Accepted system key refused) :
    key ∈ (remoteRegister system key refused).server.registry := by
  rw [mem_remoteRegister]
  cases hrefused : refused with
  | false => exact Or.inr ⟨hconnected, rfl, rfl⟩
  | true => exact Or.inl (h hrefused)

theorem remoteUnRegister_spec (system : System) (key : Key) :
    ∃ registry, remoteUnRegister system key =
        { system with server := { system.server with registry := registry } } ∧
      ∀ other, other ≠ key → (other ∈ registry ↔ other ∈ system.server.registry) := by
  rw [remoteUnRegister]
  split_ifs
  · exact ⟨_, rfl, fun other hne => by simp [hne]⟩
  · exact ⟨_, rfl, fun _ _ => Iff.rfl⟩

/-- The effect of recovering the keys one after the other. -/
structure Recovered (keys : List Key) (refused : Key → Bool) (before after : System) : Prop where
  eq : after = { before with
    client := { before.client with registeredInnerEvents := after.client.registeredInnerEvents }
    server := { before.server with registry := after.server.registry } }
  registered : ∀ key, key ∈ after.client.registeredInnerEvents ↔
    key ∈ before.client.registeredInnerEvents ∨ key ∈ keys
  registry : ∀ key, key ∈ after.server.registry ↔
    key ∈ before.server.registry ∨
      (before.connected = true ∧ refused key = false ∧ key ∈ keys)

theorem recover_spec (refused : Key → Bool) (keys : List Key) (system : System) :
    Recovered keys refused system
      (keys.foldl (fun system key =>
        markRegistered (remoteRegister system key (refused key)) key) system) := by
  induction keys generalizing system with
  | nil => exact ⟨rfl, by simp, by simp⟩
  | cons key keys ih =>
      obtain ⟨heq, hregistered, hregistry⟩ :=
        ih (markRegistered (remoteRegister system key (refused key)) key)
      have hone := markRegistered_remoteRegister system key (refused key)
      rw [hone] at heq hregistered hregistry
      rw [List.foldl_cons, hone]
      refine ⟨heq, ?_, ?_⟩
      · intro other
        rw [hregistered other, Finset.mem_insert, List.mem_cons]
        tauto
      · intro other
        rw [hregistry other, mem_remoteRegister, List.mem_cons]
        constructor
        · rintro ((hmem | ⟨hconnected, hrefused, rfl⟩) | ⟨hconnected, hrefused, hmem⟩)
          · exact Or.inl hmem
          · exact Or.inr ⟨hconnected, hrefused, Or.inl rfl⟩
          · exact Or.inr ⟨hconnected, hrefused, Or.inr hmem⟩
        · rintro (hmem | ⟨hconnected, hrefused, rfl | hmem⟩)
          · exact Or.inl (Or.inl hmem)
          · exact Or.inl (Or.inr ⟨hconnected, hrefused, rfl⟩)
          · exact Or.inr ⟨hconnected, hrefused, hmem⟩

/-! ## The subscription -/

/-- The invariant before the status of the service is subscribed to. -/
structure BeforeSubscription (system : System) : Prop where
  gone : system.deathInFlight = true →
    system.client.rss.isSome = true ∧ system.connected = false
  epoch_le : ∀ epoch, system.client.rss = some epoch → epoch ≤ system.server.epoch
  recorded_connected : system.client.rss = none → system.client.registeredInnerEvents = ∅
  recorded : system.connected = true →
    ∀ key ∈ system.client.registeredInnerEvents, key ∈ system.server.registry
  pending : system.client.resSchedSvcStatusListener = true → system.server.up = true →
    system.connected = false → system.addsInFlight ≠ 0
  restored : system.client.resSchedSvcStatusListener = true → system.connected = true →
    system.addsInFlight = 0 →
    ∀ key, HasListener system.client key → key ∈ system.server.registry

theorem up_of_connected (system : System) (h : system.connected = true) :
    system.server.up = true := by
  rw [System.connected] at h
  rw [Bool.and_eq_true] at h
  exact h.1

theorem isSome_of_connected (system : System) (h : system.connected = true) :
    system.client.rss.isSome = true := by
  rw [System.connected] at h
  rw [Bool.and_eq_true, beq_iff_eq] at h
  simp [h.2]

theorem AddResSaListenerLocked_inv (system : System) (h : BeforeSubscription system) :
    AgreementInv (AddResSaListenerLocked system) := by
  rw [AddResSaListenerLocked]
  split_ifs with hsubscribed hup
  · exact ⟨h.gone, h.epoch_le, h.recorded_connected, h.recorded, fun _ => hsubscribed,
      fun _ => hsubscribed, h.pending, h.restored hsubscribed⟩
  · exact ⟨h.gone, h.epoch_le, h.recorded_connected, h.recorded, fun _ => rfl, fun _ => rfl,
      fun _ _ _ => Nat.succ_ne_zero _, fun _ hadds => absurd hadds (Nat.succ_ne_zero _)⟩
  · exact ⟨h.gone, h.epoch_le, h.recorded_connected, h.recorded, fun _ => rfl, fun _ => rfl,
      fun _ h' => absurd h' hup, fun hconnected => absurd (up_of_connected system hconnected) hup⟩

/-! ## One event -/

section

variable {system : System} {client : Client} {key : Key} (h : AgreementInv system)
  (hchanged : ListenersChanged system.client client)
include h hchanged

/-- A listener of another key was there before, so its key is registered. -/
theorem restored_other (hother : ∀ other, other ≠ key →
      (HasListener client other ↔ HasListener system.client other))
    (hconnected : System.connected { system with client := client } = true)
    (hadds : system.addsInFlight = 0) (other : Key) (hne : other ≠ key)
    (hheld : HasListener client other) : other ∈ system.server.registry :=
  h.restored (hchanged.connected.symm.trans hconnected) hadds other ((hother other hne).mp hheld)

theorem pending_changed (hsubscribed : client.resSchedSvcStatusListener = true)
    (hup : system.server.up = true)
    (hconnected : System.connected { system with client := client } = false) :
    system.addsInFlight ≠ 0 :=
  h.pending (hchanged.resSchedSvcStatusListener.symm.trans hsubscribed) hup
    (hchanged.connected.symm.trans hconnected)

theorem epoch_le_changed (epoch : Nat) (hrss : client.rss = some epoch) :
    epoch ≤ system.server.epoch :=
  h.epoch_le epoch (hchanged.rss.symm.trans hrss)

theorem recorded_changed (hconnected : System.connected { system with client := client } = true)
    (other : Key) (hmem : other ∈ client.registeredInnerEvents) :
    other ∈ system.server.registry :=
  h.recorded (hchanged.connected.symm.trans hconnected) other
    (hchanged.registeredInnerEvents ▸ hmem)

/-- A registration that is sent to the service. -/
theorem registerSent_inv (refused : Bool)
    (hother : ∀ other, other ≠ key →
      (HasListener client other ↔ HasListener system.client other))
    (hsome : client.rss.isSome = true)
    (haccepted : system.connected = true → Accepted system key refused) :
    BeforeSubscription
      (markRegistered (remoteRegister { system with client := client } key refused) key) := by
  rw [markRegistered_remoteRegister]
  have hkey : System.connected { system with client := client } = true →
      key ∈ (remoteRegister { system with client := client } key refused).server.registry :=
    fun hlive => accepted_mem _ key refused hlive
      (haccepted (hchanged.connected.symm.trans hlive))
  have hmono : ∀ other ∈ system.server.registry,
      other ∈ (remoteRegister { system with client := client } key refused).server.registry :=
    fun other hmem => (mem_remoteRegister _ key other refused).mpr (Or.inl hmem)
  have hepoch := epoch_le_changed h hchanged
  have hpending := pending_changed h hchanged
  refine ⟨?_, hepoch, ?_, ?_, hpending, ?_⟩
  · exact fun hdeath => ⟨hsome, hchanged.connected.trans (h.gone hdeath).2⟩
  · intro hnone
    exact absurd hsome (by simp [show client.rss = none from hnone])
  · intro hlive other hmem
    by_cases hne : other = key
    · rw [hne]
      exact hkey hlive
    · exact hmono other (recorded_changed h hchanged hlive other
        (Finset.mem_of_mem_insert_of_ne hmem hne))
  · intro _ hlive hadds other hheld
    by_cases hne : other = key
    · rw [hne]
      exact hkey hlive
    · exact hmono other (restored_other h hchanged hother hlive hadds other hne hheld)

/-- A registration that is not sent, as the key is recorded, has no listener or finds no proxy. -/
theorem registerUnsent_inv
    (hother : ∀ other, other ≠ key →
      (HasListener client other ↔ HasListener system.client other))
    (hunsent : ¬ (key ∉ client.registeredInnerEvents ∧ HasListener client key ∧
      client.rss.isSome = true)) :
    BeforeSubscription { system with client := client } := by
  have hepoch := epoch_le_changed h hchanged
  have hrecorded := recorded_changed h hchanged
  have hpending := pending_changed h hchanged
  refine ⟨?_, hepoch, ?_, hrecorded, hpending, ?_⟩
  · rw [hchanged.connected]
    simpa [hchanged.rss] using h.gone
  · simpa [hchanged.rss, hchanged.registeredInnerEvents] using h.recorded_connected
  · intro _ hlive hadds other hheld
    by_cases hne : other = key
    · subst hne
      have hsome := isSome_of_connected { system with client := client } hlive
      have hmem : other ∈ client.registeredInnerEvents := by
        by_contra hnot
        exact hunsent ⟨hnot, hheld, hsome⟩
      exact recorded_changed h hchanged hlive other hmem
    · exact restored_other h hchanged hother hlive hadds other hne hheld

end

theorem RegisterEventListener_inv (system : System) (eventListener : Option Nat) (key : Key)
    (refused : Bool) (h : AgreementInv system)
    (hguard : AgreementKept system (.RegisterEventListener eventListener key refused)) :
    AgreementInv (RegisterEventListener system eventListener key refused) := by
  have hchanged := innerRegister_changed system.client eventListener key
  have hother := hasListener_innerRegister system.client eventListener key
  simp only [AgreementKept] at hguard
  rw [RegisterEventListener]
  generalize innerRegister system.client eventListener key = client at *
  apply AddResSaListenerLocked_inv
  split_ifs with hsend
  · apply registerSent_inv h hchanged refused hother hsend.2.2
    intro hlive
    exact hguard hlive (hchanged.registeredInnerEvents ▸ hsend.1)
      (by simpa [HasListener] using hsend.2.1)
  · exact registerUnsent_inv h hchanged hother (by simpa [HasListener] using hsend)

theorem UnRegisterEventListener_inv (system : System) (eventListener : Option Nat) (key : Key)
    (h : AgreementInv system) :
    AgreementInv (UnRegisterEventListener system eventListener key) := by
  have hchanged := innerUnRegister_changed system.client eventListener key
  have hlistener := hasListener_of_innerUnRegister system.client eventListener key
  rw [UnRegisterEventListener]
  generalize innerUnRegister system.client eventListener key = client at *
  have hsubscribed := hchanged.resSchedSvcStatusListener
  have hlistening : (∃ other, HasListener client other) →
      client.resSchedSvcStatusListener = true := by
    rintro ⟨other, hheld⟩
    exact hsubscribed.trans (h.listening ⟨other, hlistener other hheld⟩)
  have hconnected := hchanged.connected
  have hepoch := epoch_le_changed h hchanged
  have hpending := pending_changed h hchanged
  dsimp only
  split_ifs with hsend
  · obtain ⟨registry, hremote, hregistry⟩ :=
      remoteUnRegister_spec { system with client := client } key
    rw [hremote]
    have hempty : ∀ other, HasListener client other → other ≠ key := by
      rintro other hheld rfl
      exact absurd (hheld.symm.trans hsend.1) (by decide)
    refine ⟨?_, hepoch, ?_, ?_, ?_, hlistening, hpending, ?_⟩
    · exact fun hdeath => ⟨hsend.2, hconnected.trans (h.gone hdeath).2⟩
    · intro hnone
      exact absurd hsend.2 (by simp [show client.rss = none from hnone])
    · intro hlive other hmem
      have hbefore := Finset.mem_erase.mp hmem
      exact (hregistry other hbefore.1).mpr (recorded_changed h hchanged hlive other hbefore.2)
    · exact fun hsome => hsubscribed.trans (h.subscribed (hchanged.rss ▸ hsome))
    · intro hlive hadds other hheld
      exact (hregistry other (hempty other hheld)).mpr
        (h.restored (hconnected.symm.trans hlive) hadds other (hlistener other hheld))
  · refine ⟨?_, hepoch, ?_, recorded_changed h hchanged, ?_, hlistening, hpending, ?_⟩
    · rw [hconnected]
      simpa [hchanged.rss] using h.gone
    · simpa [hchanged.rss, hchanged.registeredInnerEvents] using h.recorded_connected
    · simpa [hchanged.rss, hsubscribed] using h.subscribed
    · rw [hconnected]
      intro hlive hadds other hheld
      exact h.restored hlive hadds other (hlistener other hheld)

/-- A client that finds the service connects to it, and otherwise is left as it was. -/
theorem TryConnect_cases (system : System) :
    (system.client.rss.isSome = true ∧ TryConnect system = some system) ∨
    (system.client.rss = none ∧ system.server.up = true ∧
      TryConnect system = some (AddResSaListenerLocked
        { system with client := { system.client with rss := some system.server.epoch } })) ∨
    (system.client.rss = none ∧ system.server.up = false ∧ TryConnect system = none) := by
  rw [TryConnect]
  split_ifs with hsome hup
  · exact Or.inl ⟨hsome, rfl⟩
  · exact Or.inr (Or.inl ⟨by simpa using hsome, hup, rfl⟩)
  · exact Or.inr (Or.inr ⟨by simpa using hsome, by simpa using hup, rfl⟩)

theorem connected_of_none (system : System) (h : system.client.rss = none) :
    system.connected = false := by
  simp [System.connected, h]

theorem connect_inv (system : System) (h : AgreementInv system)
    (hnone : system.client.rss = none) (hup : system.server.up = true) :
    AgreementInv (AddResSaListenerLocked
      { system with client := { system.client with rss := some system.server.epoch } }) := by
  have hempty := h.recorded_connected hnone
  apply AddResSaListenerLocked_inv
  refine ⟨?_, ?_, ?_, ?_, ?_, ?_⟩
  · intro hdeath
    exact absurd (h.gone hdeath).1 (by simp [hnone])
  · intro epoch hepoch
    simp only [Option.some.injEq] at hepoch
    exact hepoch.symm.le
  · intro hrss
    simp at hrss
  · intro _ key hkey
    simp [hempty] at hkey
  · intro _ _ hconnected
    simp [System.connected, hup] at hconnected
  · intro hsubscribed _ hadds
    exact absurd hadds (h.pending hsubscribed hup (connected_of_none system hnone))

/-- The invariant before the listeners are recovered. -/
structure BeforeRecovery (system : System) : Prop where
  gone : system.deathInFlight = true →
    system.client.rss.isSome = true ∧ system.connected = false
  epoch_le : ∀ epoch, system.client.rss = some epoch → epoch ≤ system.server.epoch
  found : system.client.rss.isSome = true
  recorded : system.connected = true →
    ∀ key ∈ system.client.registeredInnerEvents, key ∈ system.server.registry
  subscribed : system.client.resSchedSvcStatusListener = true
  pending : system.server.up = true → system.connected = false → system.addsInFlight ≠ 0

/-- Recovering the listeners on a service that accepts them registers them all. -/
theorem RecoverEventListener_inv (system : System) (refused : Key → Bool)
    (h : BeforeRecovery system)
    (haccepted : system.connected = true → ∀ key ∈ system.client.eventListeners.keys,
      Accepted system key (refused key)) :
    AgreementInv (RecoverEventListener system refused) := by
  obtain ⟨heq, hregistered, hregistry⟩ :=
    recover_spec refused system.client.eventListeners.keys system
  rw [RecoverEventListener]
  generalize system.client.eventListeners.keys.foldl _ system = after at *
  have hlive : after.connected = system.connected := by
    rw [heq]
    rfl
  have hheld : system.connected = true → ∀ key ∈ system.client.eventListeners.keys,
      key ∈ after.server.registry := by
    intro hconnected key hkey
    rw [hregistry]
    cases hrefused : refused key with
    | false => exact Or.inr ⟨hconnected, rfl, hkey⟩
    | true => exact Or.inl (haccepted hconnected key hkey hrefused)
  have hrecorded : after.connected = true → ∀ key ∈ after.client.registeredInnerEvents,
      key ∈ after.server.registry := by
    intro hafter key hkey
    rcases (hregistered key).mp hkey with hbefore | hkeys
    · exact (hregistry key).mpr (Or.inl (h.recorded (hlive.symm.trans hafter) key hbefore))
    · exact hheld (hlive.symm.trans hafter) key hkeys
  have hrestored : after.connected = true → ∀ key, HasListener system.client key →
      key ∈ after.server.registry :=
    fun hafter key hkey => hheld (hlive.symm.trans hafter) key (mem_keys_of_hasListener _ _ hkey)
  rw [heq] at hlive hrecorded hrestored ⊢
  refine ⟨?_, h.epoch_le, ?_, hrecorded, fun _ => h.subscribed, fun _ => h.subscribed, ?_, ?_⟩
  · exact fun hdeath => ⟨h.found, hlive.trans (h.gone hdeath).2⟩
  · intro hnone
    exact absurd h.found (by simp [show system.client.rss = none from hnone])
  · exact fun _ hup hafter => h.pending hup (hlive.symm.trans hafter)
  · exact fun hafter _ => hrestored hafter

/-- Connecting to the running service leaves only the recovery to do. -/
theorem connect_beforeRecovery (system : System) (hup : system.server.up = true)
    (hdeath : system.deathInFlight = false) (hempty : system.client.registeredInnerEvents = ∅) :
    BeforeRecovery (AddResSaListenerLocked
      { system with client := { system.client with rss := some system.server.epoch } }) := by
  rw [AddResSaListenerLocked]
  split_ifs with hsubscribed
  all_goals refine ⟨?_, ?_, rfl, ?_, ?_, ?_⟩ <;>
    simp_all [System.connected]

theorem AddResSaListenerLocked_eventListeners (system : System) :
    (AddResSaListenerLocked system).client.eventListeners = system.client.eventListeners ∧
      (AddResSaListenerLocked system).server = system.server := by
  rw [AddResSaListenerLocked]
  split_ifs <;> exact ⟨rfl, rfl⟩

theorem AgreementInv.no_death {system : System} (h : AgreementInv system)
    (hnone : system.client.rss = none) : system.deathInFlight = false := by
  cases hdeath : system.deathInFlight with
  | false => rfl
  | true => exact absurd (h.gone hdeath).1 (by simp [hnone])

theorem OnAddSystemAbility_inv (system : System) (refused : Key → Bool) (h : AgreementInv system)
    (hadds : system.addsInFlight ≠ 0)
    (hguard : AgreementKept system (.OnAddSystemAbility refused)) :
    AgreementInv (OnAddSystemAbility
      { system with addsInFlight := system.addsInFlight - 1 } refused) := by
  obtain ⟨hlast, haccepted⟩ := hguard
  rw [OnAddSystemAbility]
  rcases TryConnect_cases { system with addsInFlight := system.addsInFlight - 1 } with
    ⟨hsome, hconnect⟩ | ⟨hnone, hup, hconnect⟩ | ⟨hnone, hdown, hconnect⟩
  · rw [hconnect]
    refine RecoverEventListener_inv _ refused
      ⟨h.gone, h.epoch_le, hsome, h.recorded, h.subscribed hsome, ?_⟩ ?_
    · intro hup hlive
      have hne := hlast hup hsome hlive
      change system.addsInFlight - 1 ≠ 0
      omega
    · exact fun hlive => haccepted hadds (up_of_connected system hlive) (fun _ => hlive)
  · rw [hconnect]
    refine RecoverEventListener_inv _ refused
      (connect_beforeRecovery _ hup (h.no_death hnone) (h.recorded_connected hnone)) ?_
    intro _ key hkey hrefused
    obtain ⟨hlisteners, hserver⟩ := AddResSaListenerLocked_eventListeners
      { system with
        client := { system.client with rss := some system.server.epoch }
        addsInFlight := system.addsInFlight - 1 }
    rw [hlisteners] at hkey
    rw [hserver]
    refine haccepted hadds hup ?_ key hkey hrefused
    intro hsome
    exact absurd hsome (by simp [show system.client.rss = none from hnone])
  · rw [hconnect]
    have hlive : system.connected = false := connected_of_none system hnone
    refine ⟨h.gone, h.epoch_le, h.recorded_connected, h.recorded, h.subscribed, h.listening,
      ?_, ?_⟩
    · exact fun _ hup _ => absurd (hdown.symm.trans hup) (by decide)
    · exact fun hafter _ => absurd (hlive.symm.trans hafter) (by decide)

theorem StopRemoteObject_inv (system : System) (h : AgreementInv system)
    (hdeath : system.deathInFlight = true) :
    AgreementInv { StopRemoteObject system with deathInFlight := false } := by
  have hgone := (h.gone hdeath).2
  have hnone : System.connected { StopRemoteObject system with deathInFlight := false } = false :=
    connected_of_none _ rfl
  refine ⟨?_, ?_, fun _ => rfl, ?_, ?_, h.listening, ?_, ?_⟩
  · exact fun h' => absurd h' Bool.false_ne_true
  · exact fun _ h' => absurd h' (by simp [StopRemoteObject])
  · exact fun h' => absurd (hnone.symm.trans h') (by decide)
  · exact fun h' => absurd h' (by simp [StopRemoteObject])
  · exact fun hsubscribed hup _ => h.pending hsubscribed hup hgone
  · exact fun h' => absurd (hnone.symm.trans h') (by decide)

theorem serviceDies_inv (system : System) (h : AgreementInv system)
    (hup : system.server.up = true) : AgreementInv (system.handle .serviceDies) := by
  have hdown : (system.handle .serviceDies).connected = false := by
    simp [System.handle, hup, System.connected]
  simp only [System.handle, if_pos hup] at hdown ⊢
  refine ⟨?_, h.epoch_le, h.recorded_connected, ?_, h.subscribed, h.listening, ?_, ?_⟩
  · intro hdeath
    refine ⟨?_, hdown⟩
    rcases Bool.or_eq_true_iff.mp hdeath with hdeath | hlive
    · exact (h.gone hdeath).1
    · exact isSome_of_connected system hlive
  · exact fun h' => absurd (hdown.symm.trans h') (by decide)
  · exact fun _ h' => absurd h' Bool.false_ne_true
  · exact fun h' => absurd (hdown.symm.trans h') (by decide)

theorem serviceStarts_inv (system : System) (h : AgreementInv system)
    (hup : ¬ system.server.up = true) : AgreementInv (system.handle .serviceStarts) := by
  -- a proxy of an earlier incarnation does not lead to the new one
  have hstale : (system.handle .serviceStarts).connected = false := by
    simp only [System.handle, if_neg hup, System.connected, Bool.true_and, beq_eq_false_iff_ne]
    intro hrss
    have hle := h.epoch_le _ hrss
    omega
  simp only [System.handle, if_neg hup] at hstale ⊢
  refine ⟨?_, ?_, h.recorded_connected, ?_, h.subscribed, h.listening, ?_, ?_⟩
  · exact fun hdeath => ⟨(h.gone hdeath).1, hstale⟩
  · exact fun epoch hrss => (h.epoch_le epoch hrss).trans (Nat.le_succ _)
  · exact fun h' => absurd (hstale.symm.trans h') (by decide)
  · intro hsubscribed _ _
    change system.client.resSchedSvcStatusListener = true at hsubscribed
    simp [hsubscribed]
  · exact fun h' => absurd (hstale.symm.trans h') (by decide)

theorem handle_agreementInv (system : System) (event : Event) (h : AgreementInv system)
    (hguard : AgreementKept system event) : AgreementInv (system.handle event) := by
  cases event with
  | RegisterEventListener eventListener key refused =>
      exact RegisterEventListener_inv system eventListener key refused h hguard
  | UnRegisterEventListener eventListener key =>
      exact UnRegisterEventListener_inv system eventListener key h
  | TryConnect =>
      simp only [System.handle]
      rcases TryConnect_cases system with ⟨_, heq⟩ | ⟨hnone, hup, heq⟩ | ⟨_, _, heq⟩
      · rwa [heq]
      · rw [heq]
        exact connect_inv system h hnone hup
      · rwa [heq]
  | StopRemoteObject =>
      simp only [System.handle]
      split_ifs with hdeath
      · exact StopRemoteObject_inv system h hdeath
      · exact h
  | OnAddSystemAbility refused =>
      simp only [System.handle]
      split_ifs with hadds
      · exact h
      · exact OnAddSystemAbility_inv system refused h hadds hguard
  | serviceDies =>
      by_cases hup : system.server.up = true
      · exact serviceDies_inv system h hup
      · simpa only [System.handle, if_neg hup] using h
  | serviceStarts =>
      by_cases hup : system.server.up = true
      · simpa only [System.handle, if_pos hup] using h
      · exact serviceStarts_inv system h hup

/-! ## Every run -/

/-- Throughout every run whose events meet `AgreementKept` the client and the service agree. -/
theorem registrations_agree (events : List Event)
    (hkept : EachStep System.handle AgreementKept System.start events) :
    Always System.handle Agreement System.start events :=
  (always_of_eachStep System.handle handle_agreementInv events System.start
    start_agreementInv hkept).mono System.handle (fun _ h => h.agreement)

instance (client : Client) (key : Key) : Decidable (HasListener client key) :=
  inferInstanceAs (Decidable (IsInnerEventMapEmpty client key = false))

instance (system : System) (key : Key) (refused : Bool) : Decidable (Accepted system key refused) :=
  inferInstanceAs (Decidable (refused = true → key ∈ system.server.registry))

instance (system : System) (event : Event) : Decidable (AgreementKept system event) := by
  cases event <;> dsimp only [AgreementKept] <;> infer_instance

/-- A service that is restarted while the process has a listener. -/
def restarted : List Event :=
  [.serviceStarts, .TryConnect, .RegisterEventListener (some 1) (7, 0) false,
    .OnAddSystemAbility (fun _ => true), .serviceDies, .StopRemoteObject, .serviceStarts,
    .OnAddSystemAbility (fun _ => false)]

theorem restarted_agrees : Always System.handle Agreement System.start restarted :=
  registrations_agree restarted (by
    simp only [restarted, eachStep_cons, eachStep_nil]
    decide +kernel)

/-- The service refuses the registration, which the client records all the same. -/
def refusedOnce : List Event :=
  [.serviceStarts, .TryConnect, .RegisterEventListener (some 1) (7, 0) true]

theorem refusedOnce_recorded :
    ¬ ∀ events : List Event, Always System.handle Agreement System.start events := by
  intro h
  have hrecorded := (h refusedOnce).last.recorded (by decide +kernel) (7, 0) (by decide +kernel)
  have hmissing : (7, 0) ∉ (run System.handle System.start refusedOnce).server.registry := by
    decide +kernel
  exact hmissing hrecorded

end ResSched.EventListener
