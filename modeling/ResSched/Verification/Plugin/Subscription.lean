import ResSched.Library.Transition
import ResSched.Model.Plugin.Subscription
import Mathlib.Data.Finset.Erase
import Mathlib.Data.Finset.Filter
import Mathlib.Data.Finset.Insert

/-! # The dispatch list and the live subscriptions -/

namespace ResSched.Plugin

open Transition

/-! ## The specification -/

/-- What a plugin can subscribe to. -/
inductive Topic where
  | type (resType : Nat)
  | pair (resType : Nat) (value : Int)
deriving DecidableEq

abbrev Subscriptions := Finset (String × Topic)

def Call.pluginLib : Call → String
  | .SubscribeResource pluginLib _ => pluginLib
  | .UnSubscribeResource pluginLib _ => pluginLib
  | .UnSubscribeAllResources pluginLib => pluginLib
  | .SubscribeResourceAccurately pluginLib _ _ => pluginLib
  | .UnSubscribeResourceAccurately pluginLib _ _ => pluginLib

/-- An accurate call is about the pair, or about the whole type when accurate subscription is
disabled. -/
def accurateTopic (accurately : Bool) (resType : Nat) (value : Int) : Topic :=
  if accurately then .pair resType value else .type resType

/-- The live subscriptions after a call of a named plugin. -/
def Subscriptions.after (accurately : Bool) (live : Subscriptions) : Call → Subscriptions
  | .SubscribeResource pluginLib resType => insert (pluginLib, .type resType) live
  | .UnSubscribeResource pluginLib resType => live.erase (pluginLib, .type resType)
  | .UnSubscribeAllResources pluginLib => live.filter (fun entry => entry.1 ≠ pluginLib)
  | .SubscribeResourceAccurately pluginLib resType value =>
      insert (pluginLib, accurateTopic accurately resType value) live
  | .UnSubscribeResourceAccurately pluginLib resType value =>
      live.erase (pluginLib, accurateTopic accurately resType value)

/-- The manager beside the live subscriptions. -/
structure Followed where
  mgr : PluginMgr
  live : Subscriptions

def Followed.start (accurately : Bool) : Followed :=
  ⟨PluginMgr.initialised accurately, ∅⟩

def Followed.handle (followed : Followed) (call : Call) : Followed where
  mgr := followed.mgr.handle call
  live :=
    if call.pluginLib = "" then followed.live
    else followed.live.after followed.mgr.subscriptionAccuractlyEnable call

/-- Every event is handed exactly to the plugins with a live subscription to its type or to its
type and value, to each of them once. -/
def DispatchMatches (env : External) (followed : Followed) : Prop :=
  ∀ resData,
    (followed.mgr.DispatchResource env resData).Nodup ∧
    ∀ pluginLib, pluginLib ∈ followed.mgr.DispatchResource env resData ↔
      (pluginLib, Topic.type (dispatchedType env resData)) ∈ followed.live ∨
      (pluginLib, Topic.pair (dispatchedType env resData) resData.value) ∈ followed.live

/-- A call changes nothing for the plugins it is not about. -/
def OthersUnchanged (env : External) (followed : Followed) (call : Call) : Prop :=
  ∀ resData pluginLib, pluginLib ≠ call.pluginLib →
    (pluginLib ∈ (followed.handle call).mgr.DispatchResource env resData ↔
      pluginLib ∈ followed.mgr.DispatchResource env resData)

/-- The subscribers the manager holds under a topic. -/
def PluginMgr.subscribers (mgr : PluginMgr) : Topic → List String
  | .type resType => mgr.GetPluginListByResType resType
  | .pair resType value => mgr.GetPluginListByResTypeAndValue resType value

/-- A plugin that unsubscribes from everything is alone, and once, in each list it is in. -/
def AloneInItsLists (followed : Followed) : Call → Prop
  | .UnSubscribeAllResources pluginLib =>
      pluginLib ≠ "" → ∀ topic, pluginLib ∈ followed.mgr.subscribers topic →
        followed.mgr.subscribers topic = [pluginLib]
  | _ => True

/-! ## The subscribers after a call -/

theorem of_unSubscribeAll {κ : Type} [DecidableEq κ] (pluginLib : String)
    (libMap : AssocMap κ (List String)) (key : κ) :
    Subscribers.of (unSubscribeAll pluginLib libMap) key =
      if Subscribers.of libMap key = [pluginLib] then [] else Subscribers.of libMap key := by
  unfold unSubscribeAll
  dsimp only
  rw [Subscribers.of_eraseKeys]
  have hdeleted : key ∈ (libMap.entries.filter
      (fun iter => (iter.2.erase pluginLib).isEmpty)).map Sigma.fst ↔
      ∃ plugins, libMap.lookup key = some plugins ∧ plugins.erase pluginLib = [] := by
    simp only [List.mem_map, List.mem_filter, List.isEmpty_iff]
    constructor
    · rintro ⟨⟨key, plugins⟩, ⟨hmem, herase⟩, rfl⟩
      exact ⟨plugins, (AssocMap.mem_entries_iff _ _ _).mp hmem, herase⟩
    · rintro ⟨plugins, hlookup, herase⟩
      exact ⟨⟨key, plugins⟩, ⟨(AssocMap.mem_entries_iff _ _ _).mpr hlookup, herase⟩, rfl⟩
  simp only [hdeleted]
  cases hlookup : libMap.lookup key with
  | none => simp [Subscribers.of, hlookup]
  | some plugins =>
      simp only [Option.some.injEq, exists_eq_left', List.erase_eq_nil_iff, Subscribers.of,
        hlookup, Option.getD_some]
      by_cases hnil : plugins = []
      · simp [hnil]
      · simp [hnil]

theorem subscribers_UnSubscribeAllResources (mgr : PluginMgr) (pluginLib : String)
    (hname : pluginLib ≠ "") (topic : Topic) :
    (mgr.UnSubscribeAllResources pluginLib).subscribers topic =
      if mgr.subscribers topic = [pluginLib] then [] else mgr.subscribers topic := by
  rw [PluginMgr.UnSubscribeAllResources]
  rw [if_neg hname]
  cases topic with
  | type resType => exact of_unSubscribeAll pluginLib mgr.resTypeLibMap resType
  | pair resType value =>
      exact of_unSubscribeAll pluginLib mgr.resTyperesValueLibMap (resType, value)

theorem mem_subscribers_SubscribeResource (mgr : PluginMgr) (pluginLib : String) (resType : Nat)
    (hname : pluginLib ≠ "") (other : String) (topic : Topic) :
    other ∈ (mgr.SubscribeResource pluginLib resType).subscribers topic ↔
      other ∈ mgr.subscribers topic ∨ (topic = .type resType ∧ other = pluginLib) := by
  rw [PluginMgr.SubscribeResource]
  rw [if_neg hname]
  cases topic with
  | type _ =>
      simp only [PluginMgr.subscribers, PluginMgr.GetPluginListByResType, Subscribers.mem_append,
        Topic.type.injEq]
  | pair _ _ =>
      simp only [PluginMgr.subscribers, PluginMgr.GetPluginListByResTypeAndValue, reduceCtorEq,
        false_and, or_false]

theorem mem_subscribers_UnSubscribeResource (mgr : PluginMgr) (pluginLib : String)
    (resType : Nat) (hname : pluginLib ≠ "") (other : String) (topic : Topic) :
    other ∈ (mgr.UnSubscribeResource pluginLib resType).subscribers topic ↔
      other ∈ mgr.subscribers topic ∧ ¬ (topic = .type resType ∧ other = pluginLib) := by
  rw [PluginMgr.UnSubscribeResource]
  rw [if_neg hname]
  cases topic with
  | type _ =>
      simp only [PluginMgr.subscribers, PluginMgr.GetPluginListByResType, Subscribers.mem_remove,
        Topic.type.injEq]
  | pair _ _ =>
      simp only [PluginMgr.subscribers, PluginMgr.GetPluginListByResTypeAndValue, reduceCtorEq,
        false_and, not_false_eq_true, and_true]

theorem mem_subscribers_SubscribeResourceAccurately (mgr : PluginMgr) (pluginLib : String)
    (resType : Nat) (value : Int) (hname : pluginLib ≠ "") (other : String) (topic : Topic) :
    other ∈ (mgr.SubscribeResourceAccurately pluginLib resType value).subscribers topic ↔
      other ∈ mgr.subscribers topic ∨
        (topic = accurateTopic mgr.subscriptionAccuractlyEnable resType value ∧
          other = pluginLib) := by
  rw [PluginMgr.SubscribeResourceAccurately]
  rw [if_neg hname]
  cases haccurately : mgr.subscriptionAccuractlyEnable with
  | false => exact mem_subscribers_SubscribeResource mgr pluginLib resType hname other topic
  | true =>
      cases topic with
      | type _ => simp [PluginMgr.subscribers, PluginMgr.GetPluginListByResType, accurateTopic]
      | pair _ _ =>
          simp [PluginMgr.subscribers, PluginMgr.GetPluginListByResTypeAndValue,
            Subscribers.mem_append, accurateTopic]

theorem mem_subscribers_UnSubscribeResourceAccurately (mgr : PluginMgr) (pluginLib : String)
    (resType : Nat) (value : Int) (hname : pluginLib ≠ "") (other : String) (topic : Topic) :
    other ∈ (mgr.UnSubscribeResourceAccurately pluginLib resType value).subscribers topic ↔
      other ∈ mgr.subscribers topic ∧
        ¬ (topic = accurateTopic mgr.subscriptionAccuractlyEnable resType value ∧
          other = pluginLib) := by
  rw [PluginMgr.UnSubscribeResourceAccurately]
  rw [if_neg hname]
  cases haccurately : mgr.subscriptionAccuractlyEnable with
  | false => exact mem_subscribers_UnSubscribeResource mgr pluginLib resType hname other topic
  | true =>
      cases topic with
      | type _ => simp [PluginMgr.subscribers, PluginMgr.GetPluginListByResType, accurateTopic]
      | pair _ _ =>
          simp [PluginMgr.subscribers, PluginMgr.GetPluginListByResTypeAndValue,
            Subscribers.mem_remove, accurateTopic]

/-! ## The dispatch list -/

theorem nodup_DispatchResource (env : External) (mgr : PluginMgr) (resData : ResData) :
    (mgr.DispatchResource env resData).Nodup := by
  rw [PluginMgr.DispatchResource]
  split_ifs
  · exact List.nodup_nil
  · exact List.nodup_dedup _

theorem mem_DispatchResource (env : External) (mgr : PluginMgr) (hinit : mgr.isInit = true)
    (resData : ResData) (pluginLib : String) :
    pluginLib ∈ mgr.DispatchResource env resData ↔
      pluginLib ∈ mgr.subscribers (.type (dispatchedType env resData)) ∨
      pluginLib ∈ mgr.subscribers (.pair (dispatchedType env resData) resData.value) := by
  simp [PluginMgr.DispatchResource, hinit, PluginMgr.subscribers]

theorem handle_isInit (mgr : PluginMgr) (call : Call) :
    (mgr.handle call).isInit = mgr.isInit := by
  cases call <;>
    simp only [PluginMgr.handle, PluginMgr.SubscribeResource, PluginMgr.UnSubscribeResource,
      PluginMgr.UnSubscribeAllResources, PluginMgr.SubscribeResourceAccurately,
      PluginMgr.UnSubscribeResourceAccurately] <;>
    split_ifs <;> rfl

/-- A call without a plugin name is refused. -/
theorem handle_unnamed (mgr : PluginMgr) (call : Call) (h : call.pluginLib = "") :
    mgr.handle call = mgr := by
  cases call <;>
    simp only [Call.pluginLib] at h <;>
    simp [PluginMgr.handle, PluginMgr.SubscribeResource, PluginMgr.UnSubscribeResource,
      PluginMgr.UnSubscribeAllResources, PluginMgr.SubscribeResourceAccurately,
      PluginMgr.UnSubscribeResourceAccurately, h]

/-- What a call does to the plugins it is not about. -/
theorem mem_subscribers_other (mgr : PluginMgr) (call : Call) (other : String)
    (hother : other ≠ call.pluginLib) (topic : Topic) :
    other ∈ (mgr.handle call).subscribers topic ↔ other ∈ mgr.subscribers topic := by
  by_cases hname : call.pluginLib = ""
  · rw [handle_unnamed mgr call hname]
  · cases call with
    | SubscribeResource pluginLib resType =>
        exact (mem_subscribers_SubscribeResource mgr pluginLib resType hname other topic).trans
          (or_iff_left fun h => hother h.2)
    | UnSubscribeResource pluginLib resType =>
        exact (mem_subscribers_UnSubscribeResource mgr pluginLib resType hname other topic).trans
          (and_iff_left fun h => hother h.2)
    | UnSubscribeAllResources pluginLib =>
        simp only [Call.pluginLib] at hother hname
        simp only [PluginMgr.handle,
          subscribers_UnSubscribeAllResources mgr pluginLib hname topic]
        split_ifs with halone
        · simp [halone, hother]
        · rfl
    | SubscribeResourceAccurately pluginLib resType value =>
        exact (mem_subscribers_SubscribeResourceAccurately mgr pluginLib resType value hname other
          topic).trans (or_iff_left fun h => hother h.2)
    | UnSubscribeResourceAccurately pluginLib resType value =>
        exact (mem_subscribers_UnSubscribeResourceAccurately mgr pluginLib resType value hname
          other topic).trans (and_iff_left fun h => hother h.2)

/-! ## One call -/

/-- The manager holds exactly the live subscriptions. -/
structure Refines (followed : Followed) : Prop where
  isInit : followed.mgr.isInit = true
  holds : ∀ pluginLib topic,
    pluginLib ∈ followed.mgr.subscribers topic ↔ (pluginLib, topic) ∈ followed.live

theorem start_refines (accurately : Bool) : Refines (Followed.start accurately) := by
  refine ⟨rfl, ?_⟩
  intro pluginLib topic
  cases topic <;> simp [Followed.start, PluginMgr.initialised, PluginMgr.subscribers,
    PluginMgr.GetPluginListByResType, PluginMgr.GetPluginListByResTypeAndValue, Subscribers.of]

theorem Refines.dispatchMatches {followed : Followed} (h : Refines followed) (env : External) :
    DispatchMatches env followed := by
  intro resData
  refine ⟨nodup_DispatchResource env followed.mgr resData, ?_⟩
  intro pluginLib
  rw [mem_DispatchResource env followed.mgr h.isInit, h.holds, h.holds]

/-- A plugin that was alone in its lists is in none after it unsubscribed from everything. -/
theorem mem_subscribers_UnSubscribeAllResources (mgr : PluginMgr) (pluginLib : String)
    (hname : pluginLib ≠ "") (topic : Topic)
    (halone : pluginLib ∈ mgr.subscribers topic → mgr.subscribers topic = [pluginLib])
    (other : String) :
    other ∈ (mgr.UnSubscribeAllResources pluginLib).subscribers topic ↔
      other ∈ mgr.subscribers topic ∧ other ≠ pluginLib := by
  rw [subscribers_UnSubscribeAllResources mgr pluginLib hname topic]
  split_ifs with hlist
  · simp [hlist]
  · constructor
    · intro hmem
      refine ⟨hmem, ?_⟩
      rintro rfl
      exact hlist (halone hmem)
    · exact fun h => h.1

theorem handle_refines (followed : Followed) (call : Call) (h : Refines followed)
    (halone : AloneInItsLists followed call) : Refines (followed.handle call) := by
  refine ⟨(handle_isInit followed.mgr call).trans h.isInit, ?_⟩
  intro other topic
  by_cases hname : call.pluginLib = ""
  · simp only [Followed.handle, handle_unnamed followed.mgr call hname, if_pos hname]
    exact h.holds other topic
  · simp only [Followed.handle, if_neg hname]
    cases call with
    | SubscribeResource pluginLib resType =>
        refine (mem_subscribers_SubscribeResource followed.mgr pluginLib resType hname other
          topic).trans ?_
        rw [h.holds, Subscriptions.after, Finset.mem_insert, Prod.mk.injEq]
        tauto
    | UnSubscribeResource pluginLib resType =>
        refine (mem_subscribers_UnSubscribeResource followed.mgr pluginLib resType hname other
          topic).trans ?_
        rw [h.holds, Subscriptions.after, Finset.mem_erase, ne_eq, Prod.mk.injEq]
        tauto
    | UnSubscribeAllResources pluginLib =>
        refine (mem_subscribers_UnSubscribeAllResources followed.mgr pluginLib hname topic
          (halone hname topic) other).trans ?_
        rw [h.holds, Subscriptions.after, Finset.mem_filter]
    | SubscribeResourceAccurately pluginLib resType value =>
        refine (mem_subscribers_SubscribeResourceAccurately followed.mgr pluginLib resType value
          hname other topic).trans ?_
        rw [h.holds, Subscriptions.after, Finset.mem_insert, Prod.mk.injEq]
        tauto
    | UnSubscribeResourceAccurately pluginLib resType value =>
        refine (mem_subscribers_UnSubscribeResourceAccurately followed.mgr pluginLib resType value
          hname other topic).trans ?_
        rw [h.holds, Subscriptions.after, Finset.mem_erase, ne_eq, Prod.mk.injEq]
        tauto

/-- The payload of an event that is dispatched under its own type. -/
theorem dispatchedType_null (env : External) (resType : Nat) (value : Int) :
    dispatchedType env ⟨resType, value, .null⟩ = resType := by
  unfold dispatchedType GetExtTypeByResPayload
  simp [Json.find?]

/-- A plugin left in a list after it unsubscribed from everything still receives an event. -/
theorem alone_of_dispatchMatches (env : External) (followed : Followed) (call : Call)
    (h : Refines followed) (hnext : DispatchMatches env (followed.handle call)) :
    AloneInItsLists followed call := by
  cases call with
  | UnSubscribeAllResources pluginLib =>
      intro hname topic hmem
      by_contra hlist
      have hkept : pluginLib ∈
          (followed.mgr.UnSubscribeAllResources pluginLib).subscribers topic := by
        rw [subscribers_UnSubscribeAllResources followed.mgr pluginLib hname topic, if_neg hlist]
        exact hmem
      have hinit : (followed.handle (.UnSubscribeAllResources pluginLib)).mgr.isInit = true :=
        (handle_isInit followed.mgr _).trans h.isInit
      have hgone : ∀ other, (pluginLib, other) ∉
          (followed.handle (.UnSubscribeAllResources pluginLib)).live := by
        intro other
        simp [Followed.handle, Call.pluginLib, hname, Subscriptions.after]
      have hreceives : ∀ resType value,
          pluginLib ∉ (followed.handle (.UnSubscribeAllResources pluginLib)).mgr.DispatchResource
            env ⟨resType, value, .null⟩ := by
        intro resType value hreceived
        rcases ((hnext ⟨resType, value, .null⟩).2 pluginLib).mp hreceived with hlive | hlive
        · exact hgone _ hlive
        · exact hgone _ hlive
      cases topic with
      | type resType =>
          refine hreceives resType 0 ((mem_DispatchResource env _ hinit _ _).mpr (Or.inl ?_))
          rw [dispatchedType_null]
          exact hkept
      | pair resType value =>
          refine hreceives resType value ((mem_DispatchResource env _ hinit _ _).mpr (Or.inr ?_))
          rw [dispatchedType_null]
          exact hkept
  | SubscribeResource _ _ => trivial
  | UnSubscribeResource _ _ => trivial
  | SubscribeResourceAccurately _ _ _ => trivial
  | UnSubscribeResourceAccurately _ _ _ => trivial

/-! ## Every run -/

theorem handle_othersUnchanged (env : External) (followed : Followed) (call : Call)
    (hinit : followed.mgr.isInit = true) : OthersUnchanged env followed call := by
  intro resData other hother
  have hafter : (followed.handle call).mgr.isInit = true :=
    (handle_isInit followed.mgr call).trans hinit
  rw [mem_DispatchResource env _ hafter, mem_DispatchResource env _ hinit]
  exact or_congr (mem_subscribers_other followed.mgr call other hother _)
    (mem_subscribers_other followed.mgr call other hother _)

theorem run_isInit (calls : List Call) (accurately : Bool) :
    (run Followed.handle (Followed.start accurately) calls).mgr.isInit = true :=
  (always_of_step Followed.handle (P := fun followed => followed.mgr.isInit = true)
    (fun followed call h => (handle_isInit followed.mgr call).trans h) calls
    (Followed.start accurately) rfl).last

/-- Through a run of calls every event reaches exactly the plugins with a live subscription, and
no call disturbs another plugin, if and only if each plugin that unsubscribes from everything
is then alone in its lists. -/
theorem dispatch_matches_iff_alone (env : External) (accurately : Bool) (calls : List Call) :
    Always Followed.handle (DispatchMatches env) (Followed.start accurately) calls ∧
      EachStep Followed.handle (OthersUnchanged env) (Followed.start accurately) calls ↔
    EachStep Followed.handle AloneInItsLists (Followed.start accurately) calls := by
  have hothers :
      EachStep Followed.handle (OthersUnchanged env) (Followed.start accurately) calls :=
    fun front call _ => handle_othersUnchanged env _ call (run_isInit front accurately)
  rw [and_iff_left hothers]
  exact always_iff_eachStep_of_strong Followed.handle
    (fun _ h => h.dispatchMatches env)
    handle_refines
    (alone_of_dispatchMatches env)
    calls (Followed.start accurately) (start_refines accurately)

/-- Two plugins share a type, and one of them unsubscribes from everything. -/
def sharedType : List Call :=
  [.SubscribeResource "a" 5, .SubscribeResource "b" 5, .UnSubscribeAllResources "a"]

/-- The integer parser as the standard library's. -/
def platform : External := ⟨true, String.toInt?⟩

theorem sharedType_still_dispatched :
    ¬ ∀ (env : External) (accurately : Bool) (calls : List Call),
      Always Followed.handle (DispatchMatches env) (Followed.start accurately) calls ∧
        EachStep Followed.handle (OthersUnchanged env) (Followed.start accurately) calls := by
  intro h
  have hmatches := (h platform true sharedType).1.last
  have hlast := (hmatches ⟨5, 0, .null⟩).2 "a"
  have hreceived : "a" ∈ (run Followed.handle (Followed.start true) sharedType).mgr.DispatchResource
      platform ⟨5, 0, .null⟩ := by decide +kernel
  rcases hlast.mp hreceived with hlive | hlive
  · exact absurd hlive (by decide +kernel)
  · exact absurd hlive (by decide +kernel)

end ResSched.Plugin
