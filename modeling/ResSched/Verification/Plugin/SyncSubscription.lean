import ResSched.Library.Recency
import ResSched.Library.Transition
import ResSched.Model.Plugin.SyncSubscription

/-! # The receiver of a synchronous event and the plugin that subscribed last -/

namespace ResSched.Plugin.Sync

open Transition

/-! ## The specification -/

def Call.pluginLib : Call → String
  | .SubscribeSyncResource pluginLib _ => pluginLib
  | .UnSubscribeSyncResource pluginLib _ => pluginLib

/-- The subscriptions that have not been taken back, the most recent one first. -/
abbrev Subscriptions := List (String × Nat)

def Subscriptions.after (live : Subscriptions) : Call → Subscriptions
  | .SubscribeSyncResource pluginLib resType => (pluginLib, resType) :: live
  | .UnSubscribeSyncResource pluginLib resType =>
      live.filter fun entry => entry ≠ (pluginLib, resType)

def isFor (resType : Nat) (entry : String × Nat) : Bool :=
  entry.2 = resType

/-- The plugin that subscribed to a type last among those that still do. -/
def Subscriptions.owner (live : Subscriptions) (resType : Nat) : Option String :=
  (mostRecent (isFor resType) live).map Prod.fst

/-- The manager beside the subscriptions that have not been taken back. -/
structure Followed where
  mgr : PluginMgr
  live : Subscriptions

def Followed.start : Followed :=
  ⟨PluginMgr.created, []⟩

def Followed.handle (followed : Followed) (call : Call) : Followed where
  mgr := followed.mgr.handle call
  live := if call.pluginLib = "" then followed.live else followed.live.after call

/-- Whatever plugins are loaded, a resource is handed to the owner of its type, and its answer
is returned, when the owner is loaded and takes resources. -/
def OwnerServed (followed : Followed) : Prop :=
  ∀ resData owner, followed.live.owner resData.resType = some owner →
    ∀ pluginLibMap pluginDeliverFunc,
      pluginLibMap.lookup owner = some ⟨some pluginDeliverFunc⟩ →
        followed.mgr.DeliverResource true pluginLibMap resData =
          ⟨some owner, pluginDeliverFunc resData⟩

/-- A plugin that unsubscribes takes no resource away from another one. -/
def OthersServed (followed : Followed) : Call → Prop
  | .UnSubscribeSyncResource pluginLib resType =>
      ∀ other, other ≠ pluginLib → ∀ isInit pluginLibMap resData,
        (followed.mgr.DeliverResource isInit pluginLibMap resData).receiver = some other →
          (followed.handle (.UnSubscribeSyncResource pluginLib resType)).mgr.DeliverResource
              isInit pluginLibMap resData =
            followed.mgr.DeliverResource isInit pluginLibMap resData
  | .SubscribeSyncResource _ _ => True

/-- A plugin unsubscribes from a type no other plugin still subscribes to. -/
def NoOtherSubscriber (followed : Followed) : Call → Prop
  | .UnSubscribeSyncResource pluginLib resType =>
      pluginLib ≠ "" → ∀ other, other ≠ pluginLib → (other, resType) ∉ followed.live
  | .SubscribeSyncResource _ _ => True

/-! ## Deliveries -/

theorem deliverResource_congr {mgr mgr' : PluginMgr} (isInit : Bool)
    (pluginLibMap : AssocMap String PluginLib) (resData : ResData)
    (h : mgr'.resTypeLibSyncMap.lookup resData.resType =
      mgr.resTypeLibSyncMap.lookup resData.resType) :
    mgr'.DeliverResource isInit pluginLibMap resData =
      mgr.DeliverResource isInit pluginLibMap resData := by
  rw [PluginMgr.DeliverResource, PluginMgr.DeliverResource, h]

/-- Only the plugin stored under the type receives a resource. -/
theorem lookup_of_receiver {mgr : PluginMgr} {isInit : Bool}
    {pluginLibMap : AssocMap String PluginLib} {resData : ResData} {receiver : String}
    (h : (mgr.DeliverResource isInit pluginLibMap resData).receiver = some receiver) :
    mgr.resTypeLibSyncMap.lookup resData.resType = some receiver := by
  rw [PluginMgr.DeliverResource] at h
  split at h
  · cases h
  · cases hlookup : mgr.resTypeLibSyncMap.lookup resData.resType with
    | none =>
        rw [hlookup] at h
        cases h
    | some pluginLib =>
        simp only [hlookup] at h
        split at h
        · cases h
        · split at h
          · cases h
          · exact h

/-! ## The stored plugin and the owner -/

/-- The map holds the owner of each type. -/
def Refines (followed : Followed) : Prop :=
  ∀ resType, followed.mgr.resTypeLibSyncMap.lookup resType = followed.live.owner resType

theorem start_refines : Refines Followed.start :=
  fun _ => rfl

theorem Refines.ownerServed {followed : Followed} (h : Refines followed) :
    OwnerServed followed := by
  intro resData owner howner pluginLibMap pluginDeliverFunc hloaded
  rw [← h] at howner
  simp [PluginMgr.DeliverResource, howner, hloaded]

theorem mem_of_owner {live : Subscriptions} {resType : Nat} {owner : String}
    (h : live.owner resType = some owner) : (owner, resType) ∈ live := by
  obtain ⟨entry, hrecent, rfl⟩ := Option.map_eq_some_iff.mp h
  have hfor : isFor resType entry = true := qualifies_of_mostRecent hrecent
  rw [← of_decide_eq_true hfor]
  exact mem_of_mostRecent hrecent

theorem owner_isSome_of_mem {live : Subscriptions} {resType : Nat} {pluginLib : String}
    (h : (pluginLib, resType) ∈ live) : ∃ owner, live.owner resType = some owner := by
  cases howner : live.owner resType with
  | some owner => exact ⟨owner, rfl⟩
  | none =>
      have hnone := List.find?_eq_none.mp (Option.map_eq_none_iff.mp howner)
      exact absurd (decide_eq_true rfl) (hnone (pluginLib, resType) h)

theorem owner_subscribe (live : Subscriptions) (pluginLib : String) (resType a : Nat) :
    (live.after (.SubscribeSyncResource pluginLib resType)).owner a =
      if a = resType then some pluginLib else live.owner a := by
  rw [Subscriptions.after, Subscriptions.owner]
  split_ifs with h
  · have hfor : isFor a (pluginLib, resType) = true := decide_eq_true h.symm
    rw [mostRecent_cons hfor]
    rfl
  · have hfor : isFor a (pluginLib, resType) = false := decide_eq_false (Ne.symm h)
    rw [mostRecent_cons_of_not hfor]
    rfl

/-- Taking back a subscription leaves the owners of other types. -/
theorem owner_unSubscribe_of_ne (live : Subscriptions) (pluginLib : String) {resType a : Nat}
    (h : a ≠ resType) :
    (live.after (.UnSubscribeSyncResource pluginLib resType)).owner a = live.owner a := by
  rw [Subscriptions.after, Subscriptions.owner, mostRecent_filter]
  · rfl
  · intro entry hentry
    refine decide_eq_true ?_
    rintro rfl
    exact h (of_decide_eq_true hentry).symm

theorem handle_unnamed (followed : Followed) (call : Call) (h : call.pluginLib = "") :
    followed.handle call = followed := by
  have hmgr : followed.mgr.handle call = followed.mgr := by
    cases call with
    | SubscribeSyncResource _ _ => exact if_pos h
    | UnSubscribeSyncResource _ _ => exact if_pos h
  rw [Followed.handle, hmgr, if_pos h]

theorem lookup_subscribe (mgr : PluginMgr) {pluginLib : String} (hname : pluginLib ≠ "")
    (resType a : Nat) :
    (mgr.SubscribeSyncResource pluginLib resType).resTypeLibSyncMap.lookup a =
      if a = resType then some pluginLib else mgr.resTypeLibSyncMap.lookup a := by
  rw [PluginMgr.SubscribeSyncResource, if_neg hname]
  exact AssocMap.lookup_insert_ite _ _ _ _

/-- Whoever held the type, nobody does when a plugin has unsubscribed from it. -/
theorem lookup_unSubscribe (mgr : PluginMgr) {pluginLib : String} (hname : pluginLib ≠ "")
    (resType a : Nat) :
    (mgr.UnSubscribeSyncResource pluginLib resType).resTypeLibSyncMap.lookup a =
      if a = resType then none else mgr.resTypeLibSyncMap.lookup a := by
  rw [PluginMgr.UnSubscribeSyncResource, if_neg hname]
  cases hheld : mgr.resTypeLibSyncMap.lookup resType with
  | some _ => exact AssocMap.lookup_erase_ite _ _ _
  | none =>
      split_ifs with ha
      · rw [ha]
        exact hheld
      · rfl

/-- A type nobody else subscribes to has no owner when its subscription is taken back. -/
theorem owner_unSubscribe_self {live : Subscriptions} {pluginLib : String} {resType : Nat}
    (halone : ∀ other, other ≠ pluginLib → (other, resType) ∉ live) :
    (live.after (.UnSubscribeSyncResource pluginLib resType)).owner resType = none := by
  cases howner : (live.after (.UnSubscribeSyncResource pluginLib resType)).owner resType with
  | none => rfl
  | some owner =>
      have hmem := mem_of_owner howner
      rw [Subscriptions.after, List.mem_filter, decide_eq_true_eq] at hmem
      refine absurd hmem.1 (halone owner ?_)
      rintro rfl
      exact hmem.2 rfl

theorem handle_refines (followed : Followed) (call : Call) (h : Refines followed)
    (halone : NoOtherSubscriber followed call) : Refines (followed.handle call) := by
  by_cases hname : call.pluginLib = ""
  · rw [handle_unnamed followed call hname]
    exact h
  · intro a
    rw [Followed.handle, if_neg hname]
    cases call with
    | SubscribeSyncResource pluginLib resType =>
        rw [owner_subscribe, ← h]
        exact lookup_subscribe followed.mgr hname resType a
    | UnSubscribeSyncResource pluginLib resType =>
        refine (lookup_unSubscribe followed.mgr hname resType a).trans ?_
        split_ifs with ha
        · rw [ha]
          exact (owner_unSubscribe_self (halone hname)).symm
        · rw [owner_unSubscribe_of_ne _ _ ha]
          exact h a

/-- A subscription that is left keeps its type owned, and the map no longer holds an owner. -/
theorem noOtherSubscriber_of_ownerServed (followed : Followed) (call : Call)
    (h : OwnerServed (followed.handle call)) : NoOtherSubscriber followed call := by
  cases call with
  | SubscribeSyncResource _ _ => trivial
  | UnSubscribeSyncResource pluginLib resType =>
      intro hname other hother hmem
      have hleft : (other, resType) ∈
          followed.live.after (.UnSubscribeSyncResource pluginLib resType) := by
        refine List.mem_filter.mpr ⟨hmem, decide_eq_true ?_⟩
        rintro ⟨⟩
        exact hother rfl
      obtain ⟨owner, howner⟩ := owner_isSome_of_mem hleft
      have hcall : (Call.UnSubscribeSyncResource pluginLib resType).pluginLib ≠ "" := hname
      rw [Followed.handle, if_neg hcall] at h
      have hserved := h ⟨resType, 0, .null⟩ owner howner
        ((∅ : AssocMap String PluginLib).insert owner ⟨some fun _ => 0⟩) (fun _ => 0)
        (AList.lookup_insert _)
      have hheld := lookup_of_receiver (congrArg Delivery.receiver hserved)
      have hgone := lookup_unSubscribe followed.mgr hname resType resType
      rw [if_pos rfl] at hgone
      exact absurd (hheld.symm.trans hgone) (Option.some_ne_none _)

/-! ## Every run -/

theorem othersServed_of_noOtherSubscriber (followed : Followed) (call : Call)
    (h : Refines followed) (halone : NoOtherSubscriber followed call) :
    OthersServed followed call := by
  cases call with
  | SubscribeSyncResource _ _ => trivial
  | UnSubscribeSyncResource pluginLib resType =>
      intro other hother isInit pluginLibMap resData hreceiver
      by_cases hname : pluginLib = ""
      · rw [handle_unnamed followed (.UnSubscribeSyncResource pluginLib resType) hname]
      · have hheld := lookup_of_receiver hreceiver
        have htype : resData.resType ≠ resType := by
          rintro rfl
          exact halone hname other hother (mem_of_owner ((h _).symm.trans hheld))
        refine deliverResource_congr isInit pluginLibMap resData ?_
        refine (lookup_unSubscribe followed.mgr hname resType resData.resType).trans ?_
        rw [if_neg htype]

/-- Through a run of calls every resource is handed to the plugin that subscribed last among those
that still do, and no plugin takes one away from another, if and only if each plugin that
unsubscribes is then the only one that subscribes to the type. -/
theorem owner_served_iff (calls : List Call) :
    Always Followed.handle OwnerServed Followed.start calls ∧
      EachStep Followed.handle OthersServed Followed.start calls ↔
    EachStep Followed.handle NoOtherSubscriber Followed.start calls := by
  have hserved : Always Followed.handle OwnerServed Followed.start calls ↔
      EachStep Followed.handle NoOtherSubscriber Followed.start calls :=
    always_iff_eachStep_of_strong Followed.handle (fun _ h => h.ownerServed) handle_refines
      (fun followed call _ hnext => noOtherSubscriber_of_ownerServed followed call hnext)
      calls Followed.start start_refines
  rw [hserved, and_iff_left_iff_imp]
  intro halone front call hfront
  have hrefines := (always_of_eachStep Followed.handle handle_refines calls Followed.start
    start_refines halone) front ((List.prefix_append front [call]).trans hfront)
  exact othersServed_of_noOtherSubscriber _ call hrefines (halone front call hfront)

/-- The second plugin has replaced the first one, which then unsubscribes. -/
def replaced : List Call :=
  [.SubscribeSyncResource "a" 5, .SubscribeSyncResource "b" 5, .UnSubscribeSyncResource "a" 5]

theorem replaced_takes_over :
    ¬ ∀ calls : List Call,
      Always Followed.handle OwnerServed Followed.start calls ∧
        EachStep Followed.handle OthersServed Followed.start calls := by
  intro h
  have hlast : OwnerServed (run Followed.handle Followed.start replaced) := (h replaced).1.last
  have hserved := hlast ⟨5, 0, .null⟩ "b" (by decide)
    ((∅ : AssocMap String PluginLib).insert "b" ⟨some fun _ => 0⟩) (fun _ => 0)
    (AList.lookup_insert _)
  exact absurd (congrArg Delivery.receiver hserved) (by decide)

end ResSched.Plugin.Sync
