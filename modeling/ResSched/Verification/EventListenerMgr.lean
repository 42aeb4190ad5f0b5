import ResSched.Library.Transition
import ResSched.Model.EventListenerMgr

/-! # The event-listener registry delivers to the registered listeners -/

namespace ResSched.EventListenerMgr

open Transition

variable {Remote : Type*}

/-! ## Records after registering and unregistering -/

/-- The record of a pid under an event type of a map. -/
def recordOf (map : AssocMap Nat (Listeners Remote)) (eventType : Nat) (pid : Int) :
    Option (EventListenerInfo Remote) :=
  (map.lookup eventType).bind fun listeners => listeners.lookup pid

theorem entry_eq (mgr : Mgr Remote) (eventType : Nat) (pid : Int) :
    mgr.entry eventType pid = recordOf mgr.eventListenerMap_ eventType pid :=
  rfl

theorem recordOf_insert (map : AssocMap Nat (Listeners Remote)) (eventType : Nat)
    (listeners : Listeners Remote) (eventType' : Nat) (pid : Int) :
    recordOf (map.insert eventType listeners) eventType' pid =
      if eventType' = eventType then listeners.lookup pid
      else recordOf map eventType' pid := by
  rw [recordOf, AssocMap.lookup_insert_ite]
  split_ifs <;> rfl

theorem recordOf_erase (map : AssocMap Nat (Listeners Remote)) (eventType eventType' : Nat)
    (pid : Int) :
    recordOf (map.erase eventType) eventType' pid =
      if eventType' = eventType then none else recordOf map eventType' pid := by
  rw [recordOf, AssocMap.lookup_erase_ite]
  split_ifs <;> rfl

theorem recordOf_getD (map : AssocMap Nat (Listeners Remote)) (eventType : Nat) (pid : Int) :
    ((map.lookup eventType).getD ∅).lookup pid = recordOf map eventType pid := by
  rw [recordOf]
  cases map.lookup eventType <;> simp

theorem entry_RegisterEventListener {mgr : Mgr Remote} (callingPid : Int) (listener : Remote)
    (eventType listenerGroup : Nat) (hready : mgr.eventListenerDeathRecipient_ = true)
    (eventType' : Nat) (pid : Int) :
    (RegisterEventListener mgr callingPid (some listener) eventType listenerGroup).entry
        eventType' pid =
      if eventType' = eventType ∧ pid = callingPid then
        match mgr.entry eventType callingPid with
        | some info => some { info with groups := insert listenerGroup info.groups }
        | none => some ⟨listener, callingPid, {listenerGroup}⟩
      else mgr.entry eventType' pid := by
  simp only [RegisterEventListener, hready, Bool.not_true, Bool.false_eq_true, if_false]
  cases mgr.entry eventType callingPid with
  | none =>
      simp only [entry_eq, recordOf_insert, AssocMap.lookup_insert_ite, recordOf_getD]
      by_cases htype : eventType' = eventType
      · simp [htype]
      · simp [htype]
  | some info =>
      simp only [entry_eq, recordOf_insert, AssocMap.lookup_insert_ite, recordOf_getD]
      by_cases htype : eventType' = eventType
      · simp [htype]
      · simp [htype]

/-- Deleting an event type without listeners does not change what is recorded. -/
theorem recordOf_dropEmpty (map : AssocMap Nat (Listeners Remote)) (eventType : Nat)
    (rest : Listeners Remote) (eventType' : Nat) (pid : Int) :
    recordOf (if rest.entries.isEmpty then map.erase eventType else map.insert eventType rest)
        eventType' pid =
      if eventType' = eventType then rest.lookup pid else recordOf map eventType' pid := by
  by_cases hrest : rest.entries.isEmpty = true
  · have hnone : rest.lookup pid = none := by
      rw [AList.lookup, List.isEmpty_iff.mp hrest, List.dlookup_nil]
    rw [if_pos hrest, recordOf_erase, hnone]
  · rw [if_neg hrest, recordOf_insert]

theorem entry_UnRegisterEventListener (mgr : Mgr Remote) (callingPid : Int)
    (eventType listenerGroup eventType' : Nat) (pid : Int) :
    (UnRegisterEventListener mgr callingPid eventType listenerGroup).entry eventType' pid =
      if eventType' = eventType ∧ pid = callingPid then
        (mgr.entry eventType callingPid).bind fun info =>
          if info.groups.erase listenerGroup = ∅ then none
          else some { info with groups := info.groups.erase listenerGroup }
      else mgr.entry eventType' pid := by
  have hrecord : ∀ listeners, mgr.eventListenerMap_.lookup eventType = some listeners →
      ∀ pid, recordOf mgr.eventListenerMap_ eventType pid = listeners.lookup pid := by
    intro listeners hlisteners pid
    rw [recordOf, hlisteners, Option.bind_some]
  cases hinfo : mgr.entry eventType callingPid with
  | none =>
      have hsame : UnRegisterEventListener mgr callingPid eventType listenerGroup = mgr := by
        rw [UnRegisterEventListener]
        cases hlisteners : mgr.eventListenerMap_.lookup eventType with
        | none => rfl
        | some listeners =>
            rw [entry_eq, hrecord listeners hlisteners] at hinfo
            simp only [hinfo]
      rw [hsame, Option.bind_none]
      split_ifs with hkey
      · rw [hkey.1, hkey.2, hinfo]
      · rfl
  | some info =>
      obtain ⟨listeners, hlisteners, hlookup⟩ := Option.bind_eq_some_iff.mp hinfo
      simp only [UnRegisterEventListener, hlisteners, hlookup, Option.bind_some, ne_eq,
        Finset.card_eq_zero]
      by_cases hgroups : info.groups.erase listenerGroup = ∅
      · simp only [hgroups, not_true_eq_false, if_false, if_true, entry_eq, recordOf_dropEmpty,
          AssocMap.lookup_erase_ite]
        by_cases htype : eventType' = eventType
        · simp [htype, hrecord listeners hlisteners]
        · simp [htype]
      · simp only [hgroups, not_false_eq_true, if_true, if_false, entry_eq, recordOf_insert,
          AssocMap.lookup_insert_ite]
        by_cases htype : eventType' = eventType
        · simp [htype, hrecord listeners hlisteners]
        · simp [htype]

/-- Registering and unregistering change the map alone. -/
theorem RegisterEventListener_frame (mgr : Mgr Remote) (callingPid : Int)
    (listener : Option Remote) (eventType group : Nat) :
    (RegisterEventListener mgr callingPid listener eventType group).eventListenerDeathRecipient_ =
        mgr.eventListenerDeathRecipient_ ∧
      (RegisterEventListener mgr callingPid listener eventType group).eventSenderQueue_ =
        mgr.eventSenderQueue_ := by
  cases listener with
  | none => exact ⟨rfl, rfl⟩
  | some listener =>
      rw [RegisterEventListener]
      split_ifs
      · exact ⟨rfl, rfl⟩
      · cases mgr.entry eventType callingPid <;> exact ⟨rfl, rfl⟩

theorem UnRegisterEventListener_frame (mgr : Mgr Remote) (callingPid : Int)
    (eventType group : Nat) :
    (UnRegisterEventListener mgr callingPid eventType group).eventListenerDeathRecipient_ =
        mgr.eventListenerDeathRecipient_ ∧
      (UnRegisterEventListener mgr callingPid eventType group).eventSenderQueue_ =
        mgr.eventSenderQueue_ := by
  rw [UnRegisterEventListener]
  cases mgr.eventListenerMap_.lookup eventType with
  | none => exact ⟨rfl, rfl⟩
  | some listeners =>
      cases hinfo : listeners.lookup callingPid with
      | none => simp only [hinfo, and_self]
      | some info =>
          simp only [hinfo]
          split_ifs <;> exact ⟨rfl, rfl⟩

theorem entries_ne_nil_of_lookup {listeners : Listeners Remote} {pid : Int}
    {info : EventListenerInfo Remote} (h : listeners.lookup pid = some info) :
    listeners.entries ≠ [] :=
  List.ne_nil_of_mem ((AssocMap.mem_entries_iff listeners pid info).mpr h)

/-- Every event type of the map has listeners. -/
def NoEmptyType (map : AssocMap Nat (Listeners Remote)) : Prop :=
  ∀ eventType listeners, map.lookup eventType = some listeners → listeners.entries ≠ []

theorem noEmptyType_insert {map : AssocMap Nat (Listeners Remote)} (h : NoEmptyType map)
    (eventType : Nat) {listeners : Listeners Remote} (hnonempty : listeners.entries ≠ []) :
    NoEmptyType (map.insert eventType listeners) := by
  intro eventType' listeners' hlookup
  rw [AssocMap.lookup_insert_ite] at hlookup
  split_ifs at hlookup
  · rwa [← Option.some.inj hlookup]
  · exact h eventType' listeners' hlookup

theorem noEmptyType_erase {map : AssocMap Nat (Listeners Remote)} (h : NoEmptyType map)
    (eventType : Nat) : NoEmptyType (map.erase eventType) := by
  intro eventType' listeners hlookup
  rw [AssocMap.lookup_erase_ite] at hlookup
  split_ifs at hlookup
  exact h eventType' listeners hlookup

theorem noEmptyType_RegisterEventListener {mgr : Mgr Remote}
    (h : NoEmptyType mgr.eventListenerMap_) (callingPid : Int) (listener : Option Remote)
    (eventType group : Nat) :
    NoEmptyType
      (RegisterEventListener mgr callingPid listener eventType group).eventListenerMap_ := by
  cases listener with
  | none => exact h
  | some listener =>
      rw [RegisterEventListener]
      split_ifs
      · exact h
      · cases mgr.entry eventType callingPid with
        | none =>
            exact noEmptyType_insert h eventType
              (entries_ne_nil_of_lookup (AList.lookup_insert _))
        | some info =>
            exact noEmptyType_insert h eventType
              (entries_ne_nil_of_lookup (AList.lookup_insert _))

theorem noEmptyType_UnRegisterEventListener {mgr : Mgr Remote}
    (h : NoEmptyType mgr.eventListenerMap_) (callingPid : Int) (eventType group : Nat) :
    NoEmptyType
      (UnRegisterEventListener mgr callingPid eventType group).eventListenerMap_ := by
  rw [UnRegisterEventListener]
  cases mgr.eventListenerMap_.lookup eventType with
  | none => exact h
  | some listeners =>
      cases hinfo : listeners.lookup callingPid with
      | none => simpa only [hinfo] using h
      | some info =>
          simp only [hinfo]
          by_cases hgroups : (info.groups.erase group).card ≠ 0
          · rw [if_pos hgroups]
            exact noEmptyType_insert h eventType
              (entries_ne_nil_of_lookup (AList.lookup_insert _))
          · rw [if_neg hgroups]
            by_cases hrest : (listeners.erase callingPid).entries.isEmpty = true
            · simpa only [hrest, if_true] using noEmptyType_erase h eventType
            · have hnonempty : (listeners.erase callingPid).entries ≠ [] := by
                rwa [List.isEmpty_iff] at hrest
              simpa only [hrest, Bool.false_eq_true, if_false] using
                noEmptyType_insert h eventType hnonempty

/-! ## The registry and what was registered -/

inductive Event (Remote : Type*) where
  | RegisterEventListener (callingPid : Int) (listener : Option Remote)
      (eventType listenerGroup : Nat)
  | UnRegisterEventListener (callingPid : Int) (eventType listenerGroup : Nat)
  | listenerDies (listener : Remote)
  | OnRemoteListenerDied (listener : Option Remote)

/-- The registry beside what really happened: the listener last registered for an event type and
a group by each pid and not since unregistered, the listeners that died, and those whose death
was notified after their last registration. -/
structure World (Remote : Type*) where
  mgr : Mgr Remote
  registered : AssocMap (Nat × Nat × Int) Remote
  died : Finset Remote
  notified : Finset Remote

def World.start : World Remote where
  mgr := Init Mgr.created
  registered := ∅
  died := ∅
  notified := ∅

/-- A call is addressed to a pid: to every pid when its target is negative. -/
def SendCall.targets (call : SendCall) (pid : Int) : Prop :=
  0 ≤ call.targetPid → pid = call.targetPid

/-- Every call reaches exactly the live listeners registered last for its event type and group
by the pids it targets, no listener whose death was notified is left, and no event type is left
without listeners. -/
structure RegistryExact (env : Plugin.External) (world : World Remote) : Prop where
  delivers : ∀ call listener, listener ∉ world.died →
    (listener ∈ SendEvent env world.mgr call ↔
      ∃ eventType pid, sentType env call = some eventType ∧ call.targets pid ∧
        world.registered.lookup (eventType, call.listenerGroup, pid) = some listener)
  notified_removed : ∀ listener ∈ world.notified, ∀ eventType pid info,
    world.mgr.entry eventType pid = some info → info.listener ≠ listener
  no_empty_type : NoEmptyType world.mgr.eventListenerMap_

/-! ## What every run keeps under the guard -/

/-- The listener of a pid is recorded for the event type and the group. -/
def Recorded (mgr : Mgr Remote) (eventType listenerGroup : Nat) (pid : Int) (listener : Remote) :
    Prop :=
  ∃ info, mgr.entry eventType pid = some info ∧ listenerGroup ∈ info.groups ∧
    info.listener = listener

structure RegistryInv (world : World Remote) : Prop where
  recipient : world.mgr.eventListenerDeathRecipient_ = true
  queue : world.mgr.eventSenderQueue_ = true
  recorded : ∀ listener, listener ∉ world.died → ∀ eventType group pid,
    (Recorded world.mgr eventType group pid listener ↔
      world.registered.lookup (eventType, group, pid) = some listener)
  notified_died : world.notified ⊆ world.died
  notified_removed : ∀ listener ∈ world.notified, ∀ eventType pid info,
    world.mgr.entry eventType pid = some info → info.listener ≠ listener
  no_empty_type : NoEmptyType world.mgr.eventListenerMap_

theorem registryInv_start : RegistryInv (World.start : World Remote) := by
  refine ⟨rfl, rfl, ?_, by simp [World.start], by simp [World.start], ?_⟩
  · intro listener _ eventType group pid
    simp [Recorded, Mgr.entry, World.start, Init, Mgr.created]
  · intro eventType listeners h
    simp [World.start, Init, Mgr.created] at h

theorem mem_SendEventLock (mgr : Mgr Remote) (eventType group : Nat) (targetPid : Int)
    (listener : Remote) :
    listener ∈ SendEventLock mgr eventType group targetPid ↔
      ∃ pid, (0 ≤ targetPid → pid = targetPid) ∧ Recorded mgr eventType group pid listener := by
  rw [SendEventLock]
  cases hlisteners : mgr.eventListenerMap_.lookup eventType with
  | none => simp [Recorded, Mgr.entry, hlisteners]
  | some listeners =>
      simp only [List.mem_filterMap, Option.map_eq_some_iff, Option.filter_eq_some_iff,
        decide_eq_true_eq, Recorded, Mgr.entry, hlisteners, Option.bind_some, and_assoc]
      constructor
      · rintro ⟨pid, hpid, info, hlookup, hgroup, hlistener⟩
        refine ⟨pid, ?_, info, hlookup, hgroup, hlistener⟩
        intro htarget
        rw [if_pos htarget] at hpid
        exact List.mem_singleton.mp hpid
      · rintro ⟨pid, htarget, info, hlookup, hgroup, hlistener⟩
        refine ⟨pid, ?_, info, hlookup, hgroup, hlistener⟩
        split_ifs with hpositive
        · exact List.mem_singleton.mpr (htarget hpositive)
        · rw [AssocMap.mem_ascendingKeys, AssocMap.mem_keys_iff]
          exact ⟨info, hlookup⟩

theorem registryExact_of_inv (env : Plugin.External) {world : World Remote}
    (h : RegistryInv world) : RegistryExact env world := by
  refine ⟨?_, h.notified_removed, h.no_empty_type⟩
  intro call listener halive
  rw [SendEvent]
  cases htype : sentType env call with
  | none => simp
  | some eventType =>
      simp only [h.queue, Bool.not_true, Bool.false_eq_true, if_false, mem_SendEventLock,
        h.recorded listener halive, SendCall.targets]
      constructor
      · rintro ⟨pid, htarget, hregistered⟩
        exact ⟨eventType, pid, rfl, htarget, hregistered⟩
      · rintro ⟨_, pid, heq, htarget, hregistered⟩
        obtain rfl := Option.some.inj heq
        exact ⟨pid, htarget, hregistered⟩

theorem recorded_register {mgr : Mgr Remote} (callingPid : Int) (listener : Remote)
    (eventType group : Nat) (hready : mgr.eventListenerDeathRecipient_ = true)
    (hkept : ∀ info, mgr.entry eventType callingPid = some info → info.listener = listener)
    (eventType' group' : Nat) (pid : Int) (other : Remote) :
    Recorded (RegisterEventListener mgr callingPid (some listener) eventType group)
        eventType' group' pid other ↔
      if (eventType', group', pid) = (eventType, group, callingPid) then listener = other
      else Recorded mgr eventType' group' pid other := by
  simp only [Recorded, entry_RegisterEventListener callingPid listener eventType group hready,
    Prod.mk.injEq]
  by_cases hkey : eventType' = eventType ∧ pid = callingPid
  · obtain ⟨rfl, rfl⟩ := hkey
    cases hinfo : mgr.entry eventType' pid with
    | none =>
        by_cases hgroup : group' = group
        · simp [hgroup]
        · simp [hgroup]
    | some info =>
        have hlistener : info.listener = listener := hkept info hinfo
        by_cases hgroup : group' = group
        · simp [hgroup, hlistener]
        · simp [hgroup]
  · have hother : ¬(eventType' = eventType ∧ group' = group ∧ pid = callingPid) :=
      fun h => hkey ⟨h.1, h.2.2⟩
    rw [if_neg hother]
    simp only [hkey, if_false]

theorem recorded_unregister (mgr : Mgr Remote) (callingPid : Int)
    (eventType group eventType' group' : Nat) (pid : Int) (other : Remote) :
    Recorded (UnRegisterEventListener mgr callingPid eventType group)
        eventType' group' pid other ↔
      (eventType', group', pid) ≠ (eventType, group, callingPid) ∧
        Recorded mgr eventType' group' pid other := by
  simp only [Recorded, entry_UnRegisterEventListener, ne_eq, Prod.mk.injEq]
  by_cases hkey : eventType' = eventType ∧ pid = callingPid
  · obtain ⟨rfl, rfl⟩ := hkey
    simp only [true_and, and_true, and_self, if_true, Option.bind_eq_some_iff]
    constructor
    · rintro ⟨info, ⟨old, hold, hinfo⟩, hgroup, hlistener⟩
      split_ifs at hinfo
      obtain rfl := Option.some.inj hinfo
      obtain ⟨hne, hmem⟩ := Finset.mem_erase.mp hgroup
      exact ⟨hne, old, hold, hmem, hlistener⟩
    · rintro ⟨hne, old, hold, hgroup, hlistener⟩
      have hmem : group' ∈ old.groups.erase group := Finset.mem_erase.mpr ⟨hne, hgroup⟩
      refine ⟨{ old with groups := old.groups.erase group }, ⟨old, hold, ?_⟩, hmem, hlistener⟩
      rw [if_neg]
      exact Finset.ne_empty_of_mem hmem
  · have hother : ¬(eventType' = eventType ∧ group' = group ∧ pid = callingPid) :=
      fun h => hkey ⟨h.1, h.2.2⟩
    simp only [hkey, if_false, hother, not_false_eq_true, true_and]

/-! ## What the death of a listener erases -/

variable [DecidableEq Remote]

/-- The pids whose record under an event type holds the listener. -/
def holders (listener : Remote) (listeners : Listeners Remote) : List Int :=
  listeners.keys.filter (holds listener listeners)

theorem entry_RemoveListenerLock (mgr : Mgr Remote) (listener : Remote) (eventType : Nat)
    (pid : Int) :
    (RemoveListenerLock mgr listener).entry eventType pid =
      (mgr.eventListenerMap_.lookup eventType).bind fun listeners =>
        (eraseFirst listener listeners).lookup pid := by
  rw [entry_eq, recordOf, RemoveListenerLock, AssocMap.lookup_mapValues, Option.bind_map]
  rfl

theorem holds_iff (listener : Remote) (listeners : Listeners Remote) (pid : Int) :
    holds listener listeners pid = true ↔
      ∃ info, listeners.lookup pid = some info ∧ info.listener = listener := by
  rw [holds]
  cases listeners.lookup pid <;> simp

theorem mem_holders (listener : Remote) (listeners : Listeners Remote) (pid : Int) :
    pid ∈ holders listener listeners ↔
      ∃ info, listeners.lookup pid = some info ∧ info.listener = listener := by
  rw [holders, List.mem_filter, holds_iff, AssocMap.mem_keys_iff]
  exact ⟨And.right, fun h => ⟨h.imp fun _ => And.left, h⟩⟩

/-- Either nobody holds the listener and nothing is erased, or one holder is. -/
theorem eraseFirst_cases (listener : Remote) (listeners : Listeners Remote) :
    (holders listener listeners = [] ∧ eraseFirst listener listeners = listeners) ∨
      ∃ pid ∈ holders listener listeners, eraseFirst listener listeners = listeners.erase pid := by
  rw [eraseFirst]
  cases hfind : (AssocMap.ascendingKeys listeners).find? (holds listener listeners) with
  | none =>
      left
      refine ⟨?_, rfl⟩
      rw [List.eq_nil_iff_forall_not_mem]
      intro pid hpid
      rw [List.find?_eq_none] at hfind
      have hkey : pid ∈ listeners.keys := List.mem_of_mem_filter hpid
      exact hfind pid ((AssocMap.mem_ascendingKeys listeners pid).mpr hkey)
        (List.mem_filter.mp hpid).2
  | some pid =>
      right
      refine ⟨pid, ?_, rfl⟩
      rw [mem_holders, ← holds_iff]
      exact List.find?_some hfind

theorem lookup_of_eraseFirst {listener : Remote} {listeners : Listeners Remote} {pid : Int}
    {info : EventListenerInfo Remote}
    (h : (eraseFirst listener listeners).lookup pid = some info) :
    listeners.lookup pid = some info := by
  rcases eraseFirst_cases listener listeners with ⟨_, hsame⟩ | ⟨holder, _, herase⟩
  · rwa [hsame] at h
  · rw [herase, AssocMap.lookup_erase_ite] at h
    split_ifs at h
    exact h

theorem lookup_eraseFirst_of_ne {listener : Remote} {listeners : Listeners Remote} {pid : Int}
    {info : EventListenerInfo Remote} (h : listeners.lookup pid = some info)
    (hne : info.listener ≠ listener) : (eraseFirst listener listeners).lookup pid = some info := by
  rcases eraseFirst_cases listener listeners with ⟨_, hsame⟩ | ⟨holder, hholder, herase⟩
  · rwa [hsame]
  · obtain ⟨other, hother, hlistener⟩ := (mem_holders listener listeners holder).mp hholder
    rw [herase, AssocMap.lookup_erase_ite, if_neg]
    · exact h
    · rintro rfl
      rw [h, Option.some.injEq] at hother
      exact hne (hother ▸ hlistener)

/-- With one holder at most, no record of the listener is left. -/
theorem eraseFirst_removes {listener : Remote} {listeners : Listeners Remote}
    (hone : (holders listener listeners).length ≤ 1) {pid : Int}
    {info : EventListenerInfo Remote}
    (h : (eraseFirst listener listeners).lookup pid = some info) : info.listener ≠ listener := by
  intro hlistener
  have hpid : pid ∈ holders listener listeners :=
    (mem_holders listener listeners pid).mpr ⟨info, lookup_of_eraseFirst h, hlistener⟩
  rcases eraseFirst_cases listener listeners with ⟨hnone, _⟩ | ⟨holder, hholder, herase⟩
  · rw [hnone] at hpid
    exact List.not_mem_nil hpid
  · have hsame : pid = holder := by
      obtain ⟨only, honly⟩ := List.length_eq_one_iff.mp
        (Nat.le_antisymm hone (List.length_pos_of_mem hpid))
      rw [honly, List.mem_singleton] at hpid hholder
      rw [hpid, hholder]
    rw [herase, hsame, AList.lookup_erase] at h
    exact Option.some_ne_none info h.symm

/-- Erasing one of two records leaves a record. -/
theorem eraseFirst_ne_nil {listener : Remote} {listeners : Listeners Remote}
    (hnonempty : listeners.entries ≠ [])
    (h : holders listener listeners = [] ∨ 2 ≤ listeners.entries.length) :
    (eraseFirst listener listeners).entries ≠ [] := by
  rcases eraseFirst_cases listener listeners with ⟨_, hsame⟩ | ⟨holder, hholder, herase⟩
  · rwa [hsame]
  · have htwo : 2 ≤ listeners.entries.length := by
      rcases h with hnone | htwo
      · rw [hnone] at hholder
        exact absurd hholder List.not_mem_nil
      · exact htwo
    rw [herase]
    intro hnil
    have hkeys : (listeners.erase holder).keys = [] := by
      rw [AList.keys, hnil, List.keys_nil]
    have hlength : listeners.keys.length - 1 ≤ (listeners.keys.erase holder).length :=
      List.le_length_erase
    rw [← AList.keys_erase, hkeys, List.length_nil, AList.keys, List.keys, List.length_map]
      at hlength
    omega

theorem recorded_of_remove {mgr : Mgr Remote} {listener : Remote} (eventType group : Nat)
    (pid : Int) {other : Remote} (hne : other ≠ listener) :
    Recorded (RemoveListenerLock mgr listener) eventType group pid other ↔
      Recorded mgr eventType group pid other := by
  simp only [Recorded, entry_RemoveListenerLock]
  simp only [Mgr.entry, Option.bind_eq_some_iff]
  constructor
  · rintro ⟨info, ⟨listeners, hlisteners, hlookup⟩, hgroup, hlistener⟩
    exact ⟨info, ⟨listeners, hlisteners, lookup_of_eraseFirst hlookup⟩, hgroup, hlistener⟩
  · rintro ⟨info, ⟨listeners, hlisteners, hlookup⟩, hgroup, hlistener⟩
    have hkeep : (eraseFirst listener listeners).lookup pid = some info :=
      lookup_eraseFirst_of_ne hlookup (hlistener ▸ hne)
    exact ⟨info, ⟨listeners, hlisteners, hkeep⟩, hgroup, hlistener⟩

/-! ## Runs of the registry -/

/-- A death is notified for listeners that died only. -/
def step (world : World Remote) : Event Remote → World Remote
  | .RegisterEventListener callingPid listener eventType listenerGroup =>
      let mgr := RegisterEventListener world.mgr callingPid listener eventType listenerGroup
      match listener with
      | none => { world with mgr := mgr }
      | some listener =>
          { world with
            mgr := mgr
            registered := world.registered.insert (eventType, listenerGroup, callingPid) listener
            notified := world.notified.erase listener }
  | .UnRegisterEventListener callingPid eventType listenerGroup =>
      { world with
        mgr := UnRegisterEventListener world.mgr callingPid eventType listenerGroup
        registered := world.registered.erase (eventType, listenerGroup, callingPid) }
  | .listenerDies listener => { world with died := insert listener world.died }
  | .OnRemoteListenerDied none => { world with mgr := OnRemoteListenerDied world.mgr none }
  | .OnRemoteListenerDied (some listener) =>
      if listener ∈ world.died then
        { world with
          mgr := OnRemoteListenerDied world.mgr (some listener)
          notified := insert listener world.notified }
      else world

/-- The death of a listener leaves the records of all other listeners as they are. -/
def OthersKept (world : World Remote) (event : Event Remote) : Prop :=
  ∀ listener, event = .OnRemoteListenerDied (some listener) → ∀ eventType pid info,
    world.mgr.entry eventType pid = some info → info.listener ≠ listener →
      (step world event).mgr.entry eventType pid = some info

/-- What an event needs for the registry to stay exact: a pid with a record under the event type
registers the listener of that record, and a listener whose death is notified is held under each
event type by at most one pid, and by that one only beside another pid. -/
def RegistryKept (world : World Remote) : Event Remote → Prop
  | .RegisterEventListener callingPid (some listener) eventType _ =>
      ∀ info, world.mgr.entry eventType callingPid = some info → info.listener = listener
  | .OnRemoteListenerDied (some listener) => listener ∈ world.died →
      ∀ eventType listeners, world.mgr.eventListenerMap_.lookup eventType = some listeners →
        holders listener listeners = [] ∨
          (holders listener listeners).length = 1 ∧ 2 ≤ listeners.entries.length
  | _ => True

instance (world : World Remote) : ∀ event, Decidable (RegistryKept world event)
  | .RegisterEventListener _ none _ _ => inferInstanceAs (Decidable True)
  | .RegisterEventListener callingPid (some listener) eventType _ =>
      inferInstanceAs (Decidable (∀ info, world.mgr.entry eventType callingPid = some info →
        info.listener = listener))
  | .UnRegisterEventListener _ _ _ => inferInstanceAs (Decidable True)
  | .listenerDies _ => inferInstanceAs (Decidable True)
  | .OnRemoteListenerDied none => inferInstanceAs (Decidable True)
  | .OnRemoteListenerDied (some listener) =>
      inferInstanceAs (Decidable (listener ∈ world.died → ∀ eventType listeners,
        world.mgr.eventListenerMap_.lookup eventType = some listeners →
          holders listener listeners = [] ∨
            (holders listener listeners).length = 1 ∧ 2 ≤ listeners.entries.length))

/-! ## Every operation keeps the invariant -/

theorem registryInv_register {world : World Remote} (h : RegistryInv world) (callingPid : Int)
    (listener : Remote) (eventType group : Nat)
    (hkept : ∀ info, world.mgr.entry eventType callingPid = some info →
      info.listener = listener) :
    RegistryInv (step world
      (.RegisterEventListener callingPid (some listener) eventType group)) := by
  have hentry := entry_RegisterEventListener callingPid listener eventType group h.recipient
  have hrecorded := recorded_register callingPid listener eventType group h.recipient hkept
  have hframe := RegisterEventListener_frame world.mgr callingPid (some listener) eventType group
  refine ⟨hframe.1.trans h.recipient, hframe.2.trans h.queue, ?_, ?_, ?_, ?_⟩
  · intro other halive eventType' group' pid
    simp only [step, hrecorded, AssocMap.lookup_insert_ite]
    split_ifs with hkey
    · rw [Option.some.injEq]
    · exact h.recorded other halive eventType' group' pid
  · exact (Finset.erase_subset _ _).trans h.notified_died
  · intro other hother eventType' pid info hinfo
    obtain ⟨hne, hmem⟩ := Finset.mem_erase.mp hother
    simp only [step, hentry] at hinfo
    split_ifs at hinfo with hkey
    · cases hold : world.mgr.entry eventType callingPid with
      | none =>
          simp only [hold, Option.some.injEq] at hinfo
          rw [← hinfo]
          exact hne.symm
      | some old =>
          simp only [hold, Option.some.injEq] at hinfo
          rw [← hinfo]
          exact h.notified_removed other hmem eventType callingPid old hold
    · exact h.notified_removed other hmem eventType' pid info hinfo
  · exact noEmptyType_RegisterEventListener h.no_empty_type callingPid (some listener) eventType
      group

theorem registryInv_unregister {world : World Remote}
    (h : RegistryInv world) (callingPid : Int) (eventType group : Nat) :
    RegistryInv (step world (.UnRegisterEventListener callingPid eventType group)) := by
  have hframe := UnRegisterEventListener_frame world.mgr callingPid eventType group
  refine ⟨hframe.1.trans h.recipient, hframe.2.trans h.queue, ?_, h.notified_died, ?_, ?_⟩
  · intro other halive eventType' group' pid
    simp only [step, recorded_unregister, AssocMap.lookup_erase_ite]
    split_ifs with hkey
    · simp [hkey]
    · simp only [ne_eq, hkey, not_false_eq_true, true_and]
      exact h.recorded other halive eventType' group' pid
  · intro other hother eventType' pid info hinfo
    simp only [step, entry_UnRegisterEventListener] at hinfo
    split_ifs at hinfo with hkey
    · obtain ⟨old, hold, hinfo⟩ := Option.bind_eq_some_iff.mp hinfo
      split_ifs at hinfo
      obtain rfl := Option.some.inj hinfo
      exact h.notified_removed other hother eventType callingPid old hold
    · exact h.notified_removed other hother eventType' pid info hinfo
  · exact noEmptyType_UnRegisterEventListener h.no_empty_type callingPid eventType group

theorem registryInv_died {world : World Remote} (h : RegistryInv world) (listener : Remote)
    (hdied : listener ∈ world.died)
    (hkept : RegistryKept world (.OnRemoteListenerDied (some listener))) :
    RegistryInv (step world (.OnRemoteListenerDied (some listener))) := by
  have hone := hkept hdied
  rw [step, if_pos hdied]
  refine ⟨h.recipient, h.queue, ?_, ?_, ?_, ?_⟩
  · intro other halive eventType group pid
    have hne : other ≠ listener := by
      rintro rfl
      exact halive hdied
    rw [OnRemoteListenerDied, recorded_of_remove eventType group pid hne]
    exact h.recorded other halive eventType group pid
  · exact Finset.insert_subset hdied h.notified_died
  · intro other hother eventType pid info hinfo
    rw [OnRemoteListenerDied, entry_RemoveListenerLock] at hinfo
    obtain ⟨listeners, hlisteners, hlookup⟩ := Option.bind_eq_some_iff.mp hinfo
    rcases Finset.mem_insert.mp hother with rfl | hmem
    · refine eraseFirst_removes ?_ hlookup
      rcases hone eventType listeners hlisteners with hnone | honly
      · simp [hnone]
      · exact Nat.le_of_eq honly.1
    · refine h.notified_removed other hmem eventType pid info ?_
      rw [entry_eq, recordOf, hlisteners]
      exact lookup_of_eraseFirst hlookup
  · intro eventType listeners hlookup
    rw [OnRemoteListenerDied, RemoveListenerLock, AssocMap.lookup_mapValues] at hlookup
    obtain ⟨before, hbefore, rfl⟩ := Option.map_eq_some_iff.mp hlookup
    refine eraseFirst_ne_nil (h.no_empty_type eventType before hbefore) ?_
    exact (hone eventType before hbefore).imp_right And.right

theorem registryInv_step (world : World Remote) (event : Event Remote) (h : RegistryInv world)
    (hkept : RegistryKept world event) : RegistryInv (step world event) := by
  cases event with
  | RegisterEventListener callingPid listener eventType group =>
      cases listener with
      | none => exact h
      | some listener => exact registryInv_register h callingPid listener eventType group hkept
  | UnRegisterEventListener callingPid eventType group =>
      exact registryInv_unregister h callingPid eventType group
  | listenerDies listener =>
      refine ⟨h.recipient, h.queue, ?_, ?_, h.notified_removed, h.no_empty_type⟩
      · intro other halive
        exact h.recorded other fun hmem => halive (Finset.mem_insert_of_mem hmem)
      · exact h.notified_died.trans (Finset.subset_insert listener world.died)
  | OnRemoteListenerDied listener =>
      cases listener with
      | none => exact h
      | some listener =>
          by_cases hdied : listener ∈ world.died
          · exact registryInv_died h listener hdied hkept
          · rwa [step, if_neg hdied]

theorem othersKept_step (world : World Remote) (event : Event Remote) :
    OthersKept world event := by
  rintro listener rfl eventType pid info hinfo hne
  rw [step]
  split_ifs
  · obtain ⟨listeners, hlisteners, hlookup⟩ := Option.bind_eq_some_iff.mp hinfo
    rw [OnRemoteListenerDied, entry_RemoveListenerLock, hlisteners]
    exact lookup_eraseFirst_of_ne hlookup hne
  · exact hinfo

/-! ## Main result -/

/-- In every run whose registrations under a pid that has a record name the listener of that
record, and whose notified deaths concern listeners held under an event type by one pid at most
and never alone, the registry stays exact in every state and a death affects no other record. -/
theorem registry_exact (env : Plugin.External) (events : List (Event Remote))
    (h : EachStep step RegistryKept World.start events) :
    Always step (RegistryExact env) World.start events ∧
      EachStep step OthersKept World.start events := by
  refine ⟨?_, fun front event _ => othersKept_step _ event⟩
  have hinv : Always step RegistryInv World.start events :=
    always_of_eachStep step registryInv_step events World.start registryInv_start h
  exact Always.mono step (fun _ => registryExact_of_inv env) hinv

/-- Nothing is parsed, and the extended types are switched off. -/
def plainEnv : Plugin.External := ⟨false, fun _ => none⟩

/-- Two processes register, one of them under two groups, and the first one dies. -/
theorem registry_exact_two_processes :
    Always step (RegistryExact plainEnv) (World.start : World Nat)
        [.RegisterEventListener 100 (some 1) 2 0, .RegisterEventListener 200 (some 2) 2 0,
          .RegisterEventListener 100 (some 1) 2 1, .listenerDies 1,
          .OnRemoteListenerDied (some 1), .UnRegisterEventListener 200 2 0] ∧
      EachStep step OthersKept (World.start : World Nat)
        [.RegisterEventListener 100 (some 1) 2 0, .RegisterEventListener 200 (some 2) 2 0,
          .RegisterEventListener 100 (some 1) 2 1, .listenerDies 1,
          .OnRemoteListenerDied (some 1), .UnRegisterEventListener 200 2 0] :=
  registry_exact plainEnv _ (by decide)

/-- Process 100 dies, and a new process of that pid registers listener 2 before the death of
listener 1 is notified: the event goes to listener 1 and never to listener 2. -/
theorem registry_exact_counterexample :
    ¬ ∀ events : List (Event Nat), Always step (RegistryExact plainEnv) World.start events ∧
      EachStep step OthersKept World.start events := by
  intro h
  have hlast := (h [.RegisterEventListener 100 (some 1) 2 0, .listenerDies 1,
    .RegisterEventListener 100 (some 2) 2 0]).1.last
  have hdelivered := (hlast.delivers ⟨2, .null, 0, -1⟩ 2 (by decide)).mpr
    ⟨2, 100, by decide, fun h => absurd h (by decide), by decide⟩
  exact absurd hdelivered (by decide)

/-- A death that is notified with nothing else registered leaves event type 2 in the map. -/
example :
    ¬ NoEmptyType (run step (World.start : World Nat) [.RegisterEventListener 100 (some 1) 2 0,
      .listenerDies 1, .OnRemoteListenerDied (some 1)]).mgr.eventListenerMap_ :=
  fun h => h 2 ∅ rfl rfl

end ResSched.EventListenerMgr
