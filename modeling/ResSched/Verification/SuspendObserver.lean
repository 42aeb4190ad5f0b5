import ResSched.Library.Transition
import ResSched.Model.SuspendObserver

/-! # The observers and their death recipients agree -/

namespace ResSched.Suspend

open Transition

variable {Object : Type}

/-! ## The specification -/

/-- The observer has an entry in `recipientMap_`. -/
def HasRecipient (base : SuspendManagerBaseObserver Object) (observer : Observer Object) : Prop :=
  ∃ object ∈ base.recipientMap, observer = ⟨some object⟩

/-- A call for the observer is in progress, at a stage of a kind. -/
def Halfway (P : Stage → Prop) (system : System Object) (observer : Observer Object) : Prop :=
  ∃ call inProgress, system.calls.lookup call = some inProgress ∧
    inProgress.observer = observer ∧ P inProgress.stage

def Registers : Stage → Prop
  | .addRecipient => True
  | .takeBack _ => True
  | _ => False

def Removes : Stage → Prop
  | .removeRecipient => True
  | .removeDied => True
  | _ => False

/-- The system beside the call that has put each observer into the list last, and the objects
whose death has been handled. -/
structure Watched (Object : Type) where
  system : System Object
  adders : AssocMap (Observer Object) Nat
  handled : List Object

namespace Watched

variable [DecidableEq Object]

def start : Watched Object where
  system := System.start
  adders := ∅
  handled := []

/-- The call that takes a step in an event, with its observer and its stage. -/
def inProgress? (watched : Watched Object) : Event Object → Option (Nat × Call Object)
  | .proceed call _ => (watched.system.calls.lookup call).map fun inProgress => (call, inProgress)
  | _ => none

/-- The observer a step puts into the list unless it is there, and the call that takes it. -/
def adding? (watched : Watched Object) (event : Event Object) : Option (Observer Object × Nat) :=
  match event, watched.inProgress? event with
  | .RegisterSuspendObserver observer, _ =>
      observer.map fun observer => (observer, watched.system.begun)
  | _, some (call, ⟨observer, .putBack _⟩) => some (observer, call)
  | _, _ => none

def handle (watched : Watched Object) (event : Event Object) : Watched Object where
  system := watched.system.handle event
  adders :=
    (watched.adding? event).elim watched.adders fun adding =>
      if watched.system.base.suspendObservers.contains adding.1 then watched.adders
      else watched.adders.insert adding.1 adding.2
  handled :=
    match watched.inProgress? event with
    | some (_, ⟨observer, .removeDied⟩) => watched.handled ++ observer.AsObject.toList
    | _ => watched.handled

/-- When no call is in progress, the observers in the list are those with a recipient and none of
them is handled as dead; no observer is listed twice. -/
structure ContainersAgree (watched : Watched Object) : Prop where
  agree : watched.system.calls = ∅ → ∀ observer,
    observer ∈ watched.system.base.suspendObservers ↔ HasRecipient watched.system.base observer
  once : watched.system.base.suspendObservers.Nodup
  gone : watched.system.calls = ∅ → ∀ object ∈ watched.handled,
    ⟨some object⟩ ∉ watched.system.base.suspendObservers ∧
      object ∉ watched.system.base.recipientMap

/-- A registration that fails leaves no recipient and takes from the list what it has put into it,
and only that. -/
def ErrorUndone (watched : Watched Object) (event : Event Object) : Prop :=
  ∀ call inProgress, watched.inProgress? event = some (call, inProgress) →
    match inProgress.stage with
    | .addRecipient =>
        (watched.handle event).system.calls.lookup call ≠ none →
          (watched.handle event).system.base = watched.system.base
    | .takeBack _ =>
        (watched.handle event).system.base.recipientMap = watched.system.base.recipientMap ∧
          ∀ observer ∈ watched.system.base.suspendObservers,
            observer ∉ (watched.handle event).system.base.suspendObservers ↔
              watched.adders.lookup observer = some call
    | _ => True

/-- What a call relies on when it takes its next step. A recipient is added while the observer is
listed or a removal is halfway. A failed registration takes back what it has put into the list,
with no recipient there unless a removal is halfway. A recipient is removed while the observer is
not listed or a registration is halfway; and nothing is put back but behind a registration. -/
def OrderlyStep (watched : Watched Object) (call : Nat) (observer : Observer Object)
    (added : Bool) : Stage → Prop
  | .addRecipient =>
      added = true → (∃ object, observer = ⟨some object⟩ ∧ object ∉ watched.system.dead) →
        ¬ HasRecipient watched.system.base observer →
          observer ∈ watched.system.base.suspendObservers ∨
            Halfway Removes watched.system observer
  | .takeBack _ =>
      (observer ∈ watched.system.base.suspendObservers →
        watched.adders.lookup observer = some call) ∧
      (HasRecipient watched.system.base observer → Halfway Removes watched.system observer)
  | .removeRecipient =>
      observer ∈ watched.system.base.suspendObservers →
        HasRecipient watched.system.base observer → Halfway Registers watched.system observer
  | .putBack _ => Halfway Registers watched.system observer
  | .removeDied =>
      observer ∈ watched.system.base.suspendObservers →
        HasRecipient watched.system.base observer → Halfway Registers watched.system observer

def Orderly (watched : Watched Object) : Event Object → Prop
  | .proceed call added => ∀ inProgress, watched.system.calls.lookup call = some inProgress →
      watched.OrderlyStep call inProgress.observer added inProgress.stage
  | _ => True

end Watched

/-! ## Calls halfway -/

theorem Halfway.frame {P : Stage → Prop} {before after : System Object}
    {observer : Observer Object} {call : Nat} (h : Halfway P before observer)
    (hothers : ∀ other, other ≠ call → after.calls.lookup other = before.calls.lookup other)
    (hcall : ∀ inProgress, before.calls.lookup call = some inProgress →
      inProgress.observer = observer → ¬ P inProgress.stage) : Halfway P after observer := by
  obtain ⟨other, inProgress, hlookup, hobserver, hstage⟩ := h
  refine ⟨other, inProgress, ?_, hobserver, hstage⟩
  rw [hothers other ?_]
  · exact hlookup
  · rintro rfl
    exact hcall inProgress hlookup hobserver hstage

/-- An observer is settled when whatever one container has more than the other is accounted for by
a call halfway. -/
structure Settled (system : System Object) (observer : Observer Object) : Prop where
  removal : HasRecipient system.base observer → observer ∉ system.base.suspendObservers →
    Halfway Removes system observer
  registration : observer ∈ system.base.suspendObservers → ¬ HasRecipient system.base observer →
    Halfway Registers system observer

/-- A step of one call for one observer. -/
structure StepFor (call : Nat) (observer : Observer Object) (before after : System Object) :
    Prop where
  calls : ∀ other, other ≠ call → after.calls.lookup other = before.calls.lookup other
  own : ∀ inProgress, before.calls.lookup call = some inProgress →
    inProgress.observer = observer
  listed : ∀ other, other ≠ observer →
    (other ∈ after.base.suspendObservers ↔ other ∈ before.base.suspendObservers)
  recipients : ∀ other, other ≠ observer →
    (HasRecipient after.base other ↔ HasRecipient before.base other)

/-- Other observers stay settled. -/
theorem StepFor.settled {call : Nat} {observer : Observer Object} {before after : System Object}
    (hstep : StepFor call observer before after) (h : ∀ other, Settled before other)
    (hobserver : Settled after observer) (other : Observer Object) : Settled after other := by
  by_cases hsame : other = observer
  · rw [hsame]
    exact hobserver
  · have hcall : ∀ inProgress, before.calls.lookup call = some inProgress →
        inProgress.observer = other → False :=
      fun inProgress hlookup hother => hsame (hother ▸ hstep.own inProgress hlookup)
    refine ⟨?_, ?_⟩
    · rw [hstep.recipients other hsame, hstep.listed other hsame]
      intro hrecipient hunlisted
      exact ((h other).removal hrecipient hunlisted).frame hstep.calls
        fun inProgress hlookup hother _ => hcall inProgress hlookup hother
    · rw [hstep.recipients other hsame, hstep.listed other hsame]
      intro hlisted hnone
      exact ((h other).registration hlisted hnone).frame hstep.calls
        fun inProgress hlookup hother _ => hcall inProgress hlookup hother

/-! ## Recipients -/

theorem hasRecipient_congr {base base' : SuspendManagerBaseObserver Object}
    (h : base'.recipientMap = base.recipientMap) (observer : Observer Object) :
    HasRecipient base' observer ↔ HasRecipient base observer := by
  rw [HasRecipient, HasRecipient, h]

theorem not_hasRecipient_null (base : SuspendManagerBaseObserver Object)
    {observer : Observer Object} (h : observer.AsObject = none) : ¬ HasRecipient base observer := by
  rintro ⟨object, -, rfl⟩
  cases h

theorem hasRecipient_iff (base : SuspendManagerBaseObserver Object) {observer : Observer Object}
    {object : Object} (h : observer.AsObject = some object) :
    HasRecipient base observer ↔ object ∈ base.recipientMap := by
  obtain ⟨_⟩ := observer
  obtain rfl := h
  constructor
  · rintro ⟨other, hmem, heq⟩
    injection heq with heq
    obtain rfl := Option.some.inj heq
    exact hmem
  · exact fun hmem => ⟨object, hmem, rfl⟩

/-! ## The steps of the calls -/

theorem lookup_goOn_self (system : System Object) (base : SuspendManagerBaseObserver Object)
    (call : Nat) (observer : Observer Object) (after : Option Stage) :
    (system.goOn base call observer after).calls.lookup call =
      after.map fun stage => ⟨observer, stage⟩ := by
  cases after with
  | none => exact AList.lookup_erase _ _
  | some stage => exact AList.lookup_insert _

theorem lookup_goOn_of_ne {system : System Object} {base : SuspendManagerBaseObserver Object}
    {call other : Nat} {observer : Observer Object} {after : Option Stage} (h : other ≠ call) :
    (system.goOn base call observer after).calls.lookup other = system.calls.lookup other := by
  cases after with
  | none => exact AList.lookup_erase_ne h
  | some stage => exact AList.lookup_insert_ne h

/-- What holds of the calls whatever their order is. -/
structure Sound (system : System Object) : Prop where
  once : system.base.suspendObservers.Nodup
  begun : ∀ call inProgress, system.calls.lookup call = some inProgress → call < system.begun
  dying : ∀ call inProgress, system.calls.lookup call = some inProgress →
    inProgress.stage = .removeDied →
      ∃ object ∈ system.dead, inProgress.observer = ⟨some object⟩

section

variable {system : System Object} (h : Sound system) (base : SuspendManagerBaseObserver Object)
  {observer : Observer Object}

include h

theorem begin_sound {stage : Stage} (honce : base.suspendObservers.Nodup)
    (hdying : stage = .removeDied → ∃ object ∈ system.dead, observer = ⟨some object⟩) :
    Sound (system.begin base observer stage) := by
  refine ⟨honce, ?_, ?_⟩
  · intro call inProgress hlookup
    rw [System.begin, AssocMap.lookup_insert_ite] at hlookup
    split_ifs at hlookup with hnew
    · exact hnew ▸ Nat.lt_succ_self _
    · exact Nat.lt_succ_of_lt (h.begun call inProgress hlookup)
  · intro call inProgress hlookup hstage
    rw [System.begin, AssocMap.lookup_insert_ite] at hlookup
    split_ifs at hlookup with hnew
    · obtain rfl := Option.some.inj hlookup
      exact hdying hstage
    · exact h.dying call inProgress hlookup hstage

/-- The begin of a call is a step of a call that had not begun. -/
theorem begin_stepFor (stage : Stage)
    (hlisted : ∀ other, other ≠ observer →
      (other ∈ base.suspendObservers ↔ other ∈ system.base.suspendObservers))
    (hrecipients : base.recipientMap = system.base.recipientMap) :
    StepFor system.begun observer system (system.begin base observer stage) := by
  refine ⟨?_, ?_, hlisted, fun other _ => hasRecipient_congr hrecipients other⟩
  · intro other hother
    rw [System.begin, AssocMap.lookup_insert_ite, if_neg hother]
  · intro inProgress hlookup
    exact absurd (h.begun _ _ hlookup) (Nat.lt_irrefl _)

theorem goOn_sound {call : Nat} {stage : Stage} (after : Option Stage)
    (honce : base.suspendObservers.Nodup)
    (hcall : system.calls.lookup call = some ⟨observer, stage⟩)
    (hafter : after ≠ some .removeDied) :
    Sound (system.goOn base call observer after) := by
  have hold : ∀ other inProgress, (system.goOn base call observer after).calls.lookup other =
      some inProgress → ∃ before, system.calls.lookup other = some before ∧
        (inProgress.stage = .removeDied → inProgress = before) := by
    intro other inProgress hlookup
    by_cases hother : other = call
    · subst hother
      refine ⟨_, hcall, fun hdied => absurd ?_ hafter⟩
      rw [lookup_goOn_self] at hlookup
      obtain ⟨next, hnext, rfl⟩ := Option.map_eq_some_iff.mp hlookup
      exact hnext.trans (congrArg some hdied)
    · rw [lookup_goOn_of_ne hother] at hlookup
      exact ⟨inProgress, hlookup, fun _ => rfl⟩
  refine ⟨honce, ?_, ?_⟩
  · intro other inProgress hlookup
    obtain ⟨before, hbefore, -⟩ := hold other inProgress hlookup
    exact h.begun other before hbefore
  · intro other inProgress hlookup hstage
    obtain ⟨before, hbefore, heq⟩ := hold other inProgress hlookup
    obtain rfl := heq hstage
    exact h.dying other inProgress hbefore hstage

end

section

variable {system : System Object} (base : SuspendManagerBaseObserver Object)
  {observer : Observer Object}

theorem halfway_begin {P : Stage → Prop} {stage : Stage} (hstage : P stage) :
    Halfway P (system.begin base observer stage) observer :=
  ⟨system.begun, ⟨observer, stage⟩, AList.lookup_insert _, rfl, hstage⟩

/-- A step of a call in progress, after which it goes on to a stage or returns. -/
theorem goOn_stepFor {call : Nat} {stage : Stage} (after : Option Stage)
    (hcall : system.calls.lookup call = some ⟨observer, stage⟩)
    (hlisted : ∀ other, other ≠ observer →
      (other ∈ base.suspendObservers ↔ other ∈ system.base.suspendObservers))
    (hrecipients : ∀ other, other ≠ observer →
      (HasRecipient base other ↔ HasRecipient system.base other)) :
    StepFor call observer system (system.goOn base call observer after) := by
  refine ⟨fun other hother => lookup_goOn_of_ne hother, ?_, hlisted, hrecipients⟩
  intro inProgress hlookup
  rw [hcall] at hlookup
  exact (Option.some.inj hlookup) ▸ rfl

/-- A call that goes on is halfway, and the others are as they were. -/
theorem Halfway.goOn {P : Stage → Prop} {call : Nat} {stage : Stage} {after : Option Stage}
    (hhalfway : Halfway P system observer)
    (hcall : system.calls.lookup call = some ⟨observer, stage⟩) (hstage : ¬ P stage) :
    Halfway P (system.goOn base call observer after) observer := by
  refine hhalfway.frame (fun other hother => lookup_goOn_of_ne hother) ?_
  intro inProgress hlookup _
  rw [hcall] at hlookup
  obtain rfl := Option.some.inj hlookup
  exact hstage

theorem halfway_goOn {P : Stage → Prop} {call : Nat} {stage : Stage} (hstage : P stage) :
    Halfway P (system.goOn base call observer (some stage)) observer :=
  ⟨call, ⟨observer, stage⟩, lookup_goOn_self _ _ _ _ _, rfl, hstage⟩

end

theorem observer_begin {system : System Object} {base : SuspendManagerBaseObserver Object}
    {observer : Observer Object} {stage : Stage} {call : Nat} {inProgress : Call Object}
    (hlookup : (system.begin base observer stage).calls.lookup call = some inProgress)
    (hold : call < system.begun) : ∃ before, system.calls.lookup call = some before ∧
      before.observer = inProgress.observer := by
  refine ⟨inProgress, ?_, rfl⟩
  rwa [System.begin, AssocMap.lookup_insert_ite, if_neg (Nat.ne_of_lt hold)] at hlookup

theorem observer_goOn {system : System Object} {base : SuspendManagerBaseObserver Object}
    {observer : Observer Object} {stage : Stage} {after : Option Stage} {call other : Nat}
    {inProgress : Call Object} (hcall : system.calls.lookup call = some ⟨observer, stage⟩)
    (hlookup : (system.goOn base call observer after).calls.lookup other = some inProgress) :
    ∃ before, system.calls.lookup other = some before ∧
      before.observer = inProgress.observer := by
  by_cases hother : other = call
  · subst hother
    rw [lookup_goOn_self] at hlookup
    obtain ⟨next, -, rfl⟩ := Option.map_eq_some_iff.mp hlookup
    exact ⟨_, hcall, rfl⟩
  · rw [lookup_goOn_of_ne hother] at hlookup
    exact ⟨inProgress, hlookup, rfl⟩

/-! ## The containers -/

variable [DecidableEq Object]

section

variable (base : SuspendManagerBaseObserver Object) (observer : Observer Object)

theorem mem_register (other : Observer Object) :
    other ∈ (base.RegisterSuspendObserverInner observer).suspendObservers ↔
      other = observer ∨ other ∈ base.suspendObservers := by
  rw [SuspendManagerBaseObserver.RegisterSuspendObserverInner]
  split_ifs with hlisted
  · refine ⟨Or.inr, ?_⟩
    rintro (rfl | hother)
    · exact hlisted
    · exact hother
  · rw [List.mem_append, List.mem_singleton, or_comm]

theorem nodup_register (h : base.suspendObservers.Nodup) :
    (base.RegisterSuspendObserverInner observer).suspendObservers.Nodup := by
  rw [SuspendManagerBaseObserver.RegisterSuspendObserverInner]
  split_ifs with hlisted
  · exact h
  · exact List.nodup_append'.mpr ⟨h, List.nodup_singleton _, by simpa using hlisted⟩

theorem recipientMap_register :
    (base.RegisterSuspendObserverInner observer).recipientMap = base.recipientMap := by
  rw [SuspendManagerBaseObserver.RegisterSuspendObserverInner]
  split_ifs <;> rfl

theorem mem_unregister (h : base.suspendObservers.Nodup) (other : Observer Object) :
    other ∈ (base.UnregisterSuspendObserverInner observer).suspendObservers ↔
      other ≠ observer ∧ other ∈ base.suspendObservers :=
  h.mem_erase_iff

theorem nodup_unregister (h : base.suspendObservers.Nodup) :
    (base.UnregisterSuspendObserverInner observer).suspendObservers.Nodup :=
  h.erase observer

theorem hasRecipient_remove (other : Observer Object) :
    HasRecipient (base.RemoveObserverDeathRecipient observer).1 other ↔
      other ≠ observer ∧ HasRecipient base other := by
  rw [SuspendManagerBaseObserver.RemoveObserverDeathRecipient]
  cases hobject : observer.AsObject with
  | none =>
      refine ⟨fun h => ⟨?_, h⟩, fun h => h.2⟩
      rintro rfl
      exact not_hasRecipient_null base hobject h
  | some object =>
      obtain ⟨_⟩ := observer
      obtain rfl := hobject
      constructor
      · rintro ⟨added, hmem, rfl⟩
        obtain ⟨hne, hmem⟩ := Finset.mem_erase.mp hmem
        refine ⟨fun heq => hne ?_, added, hmem, rfl⟩
        injection heq with heq
        exact Option.some.inj heq
      · rintro ⟨hne, added, hmem, rfl⟩
        refine ⟨added, Finset.mem_erase.mpr ⟨?_, hmem⟩, rfl⟩
        rintro rfl
        exact hne rfl

theorem suspendObservers_remove :
    (base.RemoveObserverDeathRecipient observer).1.suspendObservers = base.suspendObservers := by
  rw [SuspendManagerBaseObserver.RemoveObserverDeathRecipient]
  cases observer.AsObject <;> rfl

theorem hasRecipient_insert {object : Object} {other : Observer Object}
    (h : other ≠ ⟨some object⟩) :
    HasRecipient { base with recipientMap := insert object base.recipientMap } other ↔
      HasRecipient base other := by
  constructor
  · rintro ⟨added, hmem, rfl⟩
    rcases Finset.mem_insert.mp hmem with rfl | hold
    · exact absurd rfl h
    · exact ⟨added, hold, rfl⟩
  · rintro ⟨added, hmem, rfl⟩
    exact ⟨added, Finset.mem_insert_of_mem hmem, rfl⟩

theorem recipientMap_remove_subset :
    (base.RemoveObserverDeathRecipient observer).1.recipientMap ⊆ base.recipientMap := by
  rw [SuspendManagerBaseObserver.RemoveObserverDeathRecipient]
  cases observer.AsObject with
  | none => exact Finset.Subset.refl _
  | some object => exact Finset.erase_subset _ _

/-- Either the recipient is there, or it is added, or nothing changes and the call fails. -/
theorem AddObserverDeathRecipient_cases (added : Bool) :
    (HasRecipient base observer ∧
      base.AddObserverDeathRecipient observer added = (base, .ERR_OK)) ∨
    (¬ HasRecipient base observer ∧ added = true ∧ ∃ object, observer = ⟨some object⟩ ∧
      base.AddObserverDeathRecipient observer added =
        ({ base with recipientMap := insert object base.recipientMap }, .ERR_OK)) ∨
    (¬ HasRecipient base observer ∧ ∃ ret, ret ≠ .ERR_OK ∧
      base.AddObserverDeathRecipient observer added = (base, ret)) := by
  rw [SuspendManagerBaseObserver.AddObserverDeathRecipient]
  cases hobject : observer.AsObject with
  | none =>
      refine Or.inr (Or.inr ⟨not_hasRecipient_null base hobject, _, ?_, rfl⟩)
      exact fun h => by cases h
  | some object =>
      rw [hasRecipient_iff base hobject]
      dsimp only
      split_ifs with hmem hadded
      · exact Or.inl ⟨hmem, rfl⟩
      · refine Or.inr (Or.inl ⟨hmem, hadded, object, ?_, rfl⟩)
        rw [← hobject]
      · refine Or.inr (Or.inr ⟨hmem, _, ?_, rfl⟩)
        exact fun h => by cases h

end

/-! ## Observers stay settled -/

section

variable {system : System Object} (h : Sound system) {observer : Observer Object}

include h

theorem settled_register (hsettled : ∀ other, Settled system other) (other : Observer Object) :
    Settled (system.handle (.RegisterSuspendObserver (some observer))) other := by
  refine (begin_stepFor h _ .addRecipient ?_ (recipientMap_register _ _)).settled hsettled
    ⟨fun _ hunlisted => absurd ?_ hunlisted, fun _ _ => halfway_begin _ trivial⟩ other
  · intro other hother
    rw [mem_register, or_iff_right hother]
  · exact (mem_register _ _ _).mpr (Or.inl rfl)

/-- A removal begins with the observer taken from the list. -/
theorem settled_unregister {stage : Stage} (hstage : Removes stage)
    (hsettled : ∀ other, Settled system other) (other : Observer Object) :
    Settled (system.begin (system.base.UnregisterSuspendObserverInner observer) observer stage)
      other := by
  refine (begin_stepFor h (system.base.UnregisterSuspendObserverInner observer) stage ?_
    rfl).settled hsettled
    ⟨fun _ _ => halfway_begin _ hstage, fun hlisted => absurd hlisted ?_⟩ other
  · intro other hother
    rw [mem_unregister _ _ h.once, and_iff_right hother]
  · exact fun hlisted => ((mem_unregister _ _ h.once _).mp hlisted).1 rfl

theorem settled_takeBack {call : Nat} {ret : ErrCode}
    (hcall : system.calls.lookup call = some ⟨observer, .takeBack ret⟩)
    (hremoval : HasRecipient system.base observer → Halfway Removes system observer)
    (hsettled : ∀ other, Settled system other) (other : Observer Object) :
    Settled (system.goOn (system.base.UnregisterSuspendObserverInner observer) call observer none)
      other := by
  refine (goOn_stepFor (system.base.UnregisterSuspendObserverInner observer) none hcall ?_
    fun _ _ => Iff.rfl).settled hsettled ⟨?_, ?_⟩ other
  · intro other hother
    rw [mem_unregister _ _ h.once, and_iff_right hother]
  · exact fun hrecipient _ => (hremoval hrecipient).goOn _ hcall id
  · exact fun hlisted => absurd rfl ((mem_unregister _ _ h.once _).mp hlisted).1

end

section

variable {system : System Object} {observer : Observer Object} {call : Nat}

theorem settled_putBack {ret : ErrCode}
    (hcall : system.calls.lookup call = some ⟨observer, .putBack ret⟩)
    (hregistration : Halfway Registers system observer)
    (hsettled : ∀ other, Settled system other) (other : Observer Object) :
    Settled (system.goOn (system.base.RegisterSuspendObserverInner observer) call observer none)
      other := by
  refine (goOn_stepFor (system.base.RegisterSuspendObserverInner observer) none hcall ?_
    fun other _ => hasRecipient_congr (recipientMap_register _ _) other).settled hsettled
      ⟨?_, ?_⟩ other
  · intro other hother
    rw [mem_register, or_iff_right hother]
  · exact fun _ hunlisted => absurd ((mem_register _ _ _).mpr (Or.inl rfl)) hunlisted
  · exact fun _ _ => hregistration.goOn _ hcall id

/-- The recipient is removed, or there was none. -/
theorem settled_remove {stage : Stage} (after : Option Stage)
    (hcall : system.calls.lookup call = some ⟨observer, stage⟩) (hstage : Removes stage)
    (hregistration : observer ∈ system.base.suspendObservers →
      HasRecipient system.base observer → Halfway Registers system observer)
    (hsettled : ∀ other, Settled system other) (other : Observer Object) :
    Settled (system.goOn (system.base.RemoveObserverDeathRecipient observer).1 call observer after)
      other := by
  refine (goOn_stepFor (system.base.RemoveObserverDeathRecipient observer).1 after hcall ?_
    ?_).settled hsettled ⟨?_, ?_⟩ other
  · intro other _
    rw [suspendObservers_remove]
  · intro other hother
    rw [hasRecipient_remove, and_iff_right hother]
  · exact fun hrecipient => absurd rfl ((hasRecipient_remove _ _ _).mp hrecipient).1
  · intro hlisted _
    change observer ∈ (system.base.RemoveObserverDeathRecipient observer).1.suspendObservers
      at hlisted
    rw [suspendObservers_remove] at hlisted
    have hhalfway : Halfway Registers system observer := by
      by_cases hrecipient : HasRecipient system.base observer
      · exact hregistration hlisted hrecipient
      · exact (hsettled observer).registration hlisted hrecipient
    refine hhalfway.goOn _ hcall fun hregisters => ?_
    cases stage with
    | removeRecipient => exact hregisters
    | removeDied => exact hregisters
    | _ => exact hstage

theorem settled_add (added : Bool)
    (hcall : system.calls.lookup call = some ⟨observer, .addRecipient⟩)
    (hlisted : added = true → (∃ object, observer = ⟨some object⟩) →
      ¬ HasRecipient system.base observer →
        observer ∈ system.base.suspendObservers ∨ Halfway Removes system observer)
    (hsettled : ∀ other, Settled system other) (other : Observer Object) :
    Settled (system.goOn (system.base.AddObserverDeathRecipient observer added).1 call observer
      (if (system.base.AddObserverDeathRecipient observer added).2 = .ERR_OK then none
        else some (.takeBack (system.base.AddObserverDeathRecipient observer added).2))) other := by
  rcases AddObserverDeathRecipient_cases system.base observer added with
    ⟨hrecipient, heq⟩ | ⟨hnone, hadded, object, rfl, heq⟩ | ⟨hnone, ret, hret, heq⟩
  · rw [heq]
    refine (goOn_stepFor system.base _ hcall (fun _ _ => Iff.rfl)
      fun _ _ => Iff.rfl).settled hsettled ⟨?_, ?_⟩ other
    · exact fun hrecipient hunlisted =>
        ((hsettled observer).removal hrecipient hunlisted).goOn _ hcall id
    · exact fun _ hnone => absurd hrecipient hnone
  · rw [heq]
    refine (goOn_stepFor { system.base with
      recipientMap := insert object system.base.recipientMap } _ hcall (fun _ _ => Iff.rfl)
        fun other hother => hasRecipient_insert _ hother).settled hsettled ⟨?_, ?_⟩ other
    · intro _ hunlisted
      rcases hlisted hadded ⟨object, rfl⟩ hnone with hin | hhalfway
      · exact absurd hin hunlisted
      · exact hhalfway.goOn _ hcall id
    · exact fun _ hnone => absurd ⟨object, Finset.mem_insert_self _ _, rfl⟩ hnone
  · rw [heq, if_neg hret]
    refine (goOn_stepFor system.base _ hcall (fun _ _ => Iff.rfl)
      fun _ _ => Iff.rfl).settled hsettled ⟨?_, ?_⟩ other
    · exact fun hrecipient => absurd hrecipient hnone
    · exact fun _ _ => halfway_goOn _ trivial

end

/-! ## One event -/

section

variable (system : System Object) (call : Nat) (observer : Observer Object) (added : Bool)

/-- A dead object takes no recipient. -/
def takes : Bool :=
  added && observer.AsObject.any fun object => decide (object ∉ system.dead)

theorem proceed_addRecipient : system.proceed call observer added .addRecipient =
    system.goOn (system.base.AddObserverDeathRecipient observer (takes system observer added)).1
      call observer
      (if (system.base.AddObserverDeathRecipient observer (takes system observer added)).2 = .ERR_OK
        then none
        else some (.takeBack
          (system.base.AddObserverDeathRecipient observer (takes system observer added)).2)) :=
  rfl

theorem proceed_removeRecipient : system.proceed call observer added .removeRecipient =
    system.goOn (system.base.RemoveObserverDeathRecipient observer).1 call observer
      (if (system.base.RemoveObserverDeathRecipient observer).2 = .ERR_OK then none
        else some (.putBack (system.base.RemoveObserverDeathRecipient observer).2)) :=
  rfl

theorem takes_alive {object : Object} (h : takes system ⟨some object⟩ added = true) :
    added = true ∧ object ∉ system.dead := by
  simpa [takes] using h

end

theorem suspendObservers_add (base : SuspendManagerBaseObserver Object)
    (observer : Observer Object) (added : Bool) :
    (base.AddObserverDeathRecipient observer added).1.suspendObservers =
      base.suspendObservers := by
  rcases AddObserverDeathRecipient_cases base observer added with
    ⟨-, heq⟩ | ⟨-, -, object, -, heq⟩ | ⟨-, ret, -, heq⟩ <;> rw [heq]

theorem begun_proceed (system : System Object) (call : Nat) (observer : Observer Object)
    (added : Bool) (stage : Stage) :
    (system.proceed call observer added stage).begun = system.begun := by
  cases stage <;> rfl

theorem observer_proceed {system : System Object} {call : Nat} {observer : Observer Object}
    {stage : Stage} (hcall : system.calls.lookup call = some ⟨observer, stage⟩) (added : Bool)
    {other : Nat} {inProgress : Call Object}
    (hlookup : (system.proceed call observer added stage).calls.lookup other = some inProgress) :
    ∃ before, system.calls.lookup other = some before ∧
      before.observer = inProgress.observer := by
  cases stage <;> exact observer_goOn hcall hlookup

theorem dead_proceed (system : System Object) (call : Nat) (observer : Observer Object)
    (added : Bool) (stage : Stage) :
    (system.proceed call observer added stage).dead = system.dead := by
  cases stage <;> rfl

/-- Only a living object gets a recipient. -/
theorem recipients_proceed (system : System Object) (call : Nat) (observer : Observer Object)
    (added : Bool) (stage : Stage) :
    ∀ object ∈ (system.proceed call observer added stage).base.recipientMap,
      object ∈ system.base.recipientMap ∨ object ∉ system.dead := by
  intro object hobject
  cases stage with
  | addRecipient =>
      change object ∈ (system.base.AddObserverDeathRecipient observer
        (takes system observer added)).1.recipientMap at hobject
      rcases AddObserverDeathRecipient_cases system.base observer (takes system observer added) with
        ⟨-, heq⟩ | ⟨-, htakes, taken, rfl, heq⟩ | ⟨-, ret, -, heq⟩
      · rw [heq] at hobject
        exact Or.inl hobject
      · rw [heq] at hobject
        rcases Finset.mem_insert.mp hobject with rfl | hold
        · exact Or.inr (takes_alive _ _ htakes).2
        · exact Or.inl hold
      · rw [heq] at hobject
        exact Or.inl hobject
  | takeBack ret => exact Or.inl hobject
  | removeRecipient => exact Or.inl (recipientMap_remove_subset _ _ hobject)
  | putBack ret =>
      change object ∈ (system.base.RegisterSuspendObserverInner observer).recipientMap at hobject
      rw [recipientMap_register] at hobject
      exact Or.inl hobject
  | removeDied => exact Or.inl (recipientMap_remove_subset _ _ hobject)

theorem proceed_sound {system : System Object} (h : Sound system) {call : Nat}
    {inProgress : Call Object} (hcall : system.calls.lookup call = some inProgress)
    (added : Bool) :
    Sound (system.proceed call inProgress.observer added inProgress.stage) := by
  obtain ⟨observer, stage⟩ := inProgress
  cases stage with
  | addRecipient =>
      rw [proceed_addRecipient]
      refine goOn_sound h _ _ ?_ hcall ?_
      · rw [suspendObservers_add]
        exact h.once
      · split_ifs
        · exact (Option.some_ne_none _).symm
        · exact fun heq => by cases heq
  | takeBack ret =>
      exact goOn_sound h _ none (nodup_unregister _ _ h.once) hcall (Option.some_ne_none _).symm
  | removeRecipient =>
      rw [proceed_removeRecipient]
      refine goOn_sound h _ _ ?_ hcall ?_
      · rw [suspendObservers_remove]
        exact h.once
      · split_ifs
        · exact (Option.some_ne_none _).symm
        · exact fun heq => by cases heq
  | putBack ret =>
      exact goOn_sound h _ none (nodup_register _ _ h.once) hcall (Option.some_ne_none _).symm
  | removeDied =>
      refine goOn_sound h _ none ?_ hcall (Option.some_ne_none _).symm
      rw [suspendObservers_remove]
      exact h.once

theorem handle_sound {system : System Object} (h : Sound system) (event : Event Object) :
    Sound (system.handle event) := by
  cases event with
  | RegisterSuspendObserver observer =>
      cases observer with
      | none => exact h
      | some observer =>
          exact begin_sound h _ (nodup_register _ _ h.once) fun hstage => by cases hstage
  | UnregisterSuspendObserver observer =>
      cases observer with
      | none => exact h
      | some observer =>
          exact begin_sound h _ (nodup_unregister _ _ h.once) fun hstage => by cases hstage
  | OnObserverDied remote =>
      rw [System.handle]
      split_ifs with hdead
      · exact begin_sound h _ (nodup_unregister _ _ h.once) fun _ => ⟨remote, hdead, rfl⟩
      · exact h
  | proceed call added =>
      rw [System.handle]
      cases hcall : system.calls.lookup call with
      | none => exact h
      | some inProgress => exact proceed_sound h hcall added
  | die object =>
      refine ⟨h.once, h.begun, fun call inProgress hlookup hstage => ?_⟩
      obtain ⟨died, hdead, hobserver⟩ := h.dying call inProgress hlookup hstage
      exact ⟨died, Finset.mem_insert_of_mem hdead, hobserver⟩

theorem handle_settled {watched : Watched Object} (h : Sound watched.system)
    (hsettled : ∀ other, Settled watched.system other) (event : Event Object)
    (horderly : watched.Orderly event) (other : Observer Object) :
    Settled (watched.system.handle event) other := by
  cases event with
  | RegisterSuspendObserver observer =>
      cases observer with
      | none => exact hsettled other
      | some observer => exact settled_register h hsettled other
  | UnregisterSuspendObserver observer =>
      cases observer with
      | none => exact hsettled other
      | some observer => exact settled_unregister h (by trivial) hsettled other
  | OnObserverDied remote =>
      rw [System.handle]
      split_ifs with hdead
      · exact settled_unregister h (by trivial) hsettled other
      · exact hsettled other
  | proceed call added =>
      rw [System.handle]
      cases hcall : watched.system.calls.lookup call with
      | none => exact hsettled other
      | some inProgress =>
          have hstep := horderly inProgress hcall
          obtain ⟨observer, stage⟩ := inProgress
          cases stage with
          | addRecipient =>
              refine settled_add _ hcall ?_ hsettled other
              rintro htakes ⟨object, rfl⟩ hnone
              obtain ⟨hadded, halive⟩ := takes_alive _ _ htakes
              exact hstep hadded ⟨object, rfl, halive⟩ hnone
          | takeBack ret => exact settled_takeBack h hcall hstep.2 hsettled other
          | removeRecipient => exact settled_remove _ hcall (by trivial) hstep hsettled other
          | putBack ret => exact settled_putBack hcall hstep hsettled other
          | removeDied => exact settled_remove none hcall (by trivial) hstep hsettled other
  | die object => exact ⟨(hsettled other).removal, (hsettled other).registration⟩

namespace Watched

/-! ## Deaths and registrations on record -/

/-- A handled object is dead and has no recipient. -/
structure HandledGone (watched : Watched Object) : Prop where
  dead : ∀ object ∈ watched.handled, object ∈ watched.system.dead
  gone : ∀ object ∈ watched.handled, object ∉ watched.system.base.recipientMap

/-- A call in progress has put nothing but its own observer into the list. -/
structure AddersOwn (watched : Watched Object) : Prop where
  begun : ∀ observer call, watched.adders.lookup observer = some call → call < watched.system.begun
  own : ∀ call inProgress observer, watched.system.calls.lookup call = some inProgress →
    watched.adders.lookup observer = some call → inProgress.observer = observer

omit [DecidableEq Object] in
theorem HandledGone.of_subset {watched after : Watched Object} (h : watched.HandledGone)
    (hhandled : after.handled = watched.handled) (hdead : watched.system.dead ⊆ after.system.dead)
    (hrecipients : ∀ object ∈ after.system.base.recipientMap,
      object ∈ watched.system.base.recipientMap ∨ object ∉ watched.system.dead) :
    after.HandledGone := by
  refine ⟨?_, ?_⟩
  · rw [hhandled]
    exact fun object hobject => hdead (h.dead object hobject)
  · rw [hhandled]
    intro object hobject hrecipient
    rcases hrecipients object hrecipient with hold | halive
    · exact h.gone object hobject hold
    · exact halive (h.dead object hobject)

theorem HandledGone.of_erased {watched after : Watched Object} (h : watched.HandledGone)
    {object : Object} (hhandled : after.handled = watched.handled ++ [object])
    (hobject : object ∈ watched.system.dead) (hdead : after.system.dead = watched.system.dead)
    (hrecipients : after.system.base.recipientMap =
      watched.system.base.recipientMap.erase object) : after.HandledGone := by
  refine ⟨?_, ?_⟩
  · rw [hhandled, hdead]
    intro other hother
    rcases List.mem_append.mp hother with hold | hnew
    · exact h.dead other hold
    · rw [List.mem_singleton.mp hnew]
      exact hobject
  · rw [hhandled, hrecipients]
    intro other hother
    rw [Finset.mem_erase, not_and]
    intro hne
    rcases List.mem_append.mp hother with hold | hnew
    · exact h.gone other hold
    · exact absurd (List.mem_singleton.mp hnew) hne

omit [DecidableEq Object] in
theorem inProgress?_proceed {watched : Watched Object} {call : Nat} {inProgress : Call Object}
    (hcall : watched.system.calls.lookup call = some inProgress) (added : Bool) :
    watched.inProgress? (.proceed call added) = some (call, inProgress) := by
  rw [inProgress?, hcall]
  rfl

theorem system_proceed {watched : Watched Object} {call : Nat} {inProgress : Call Object}
    (hcall : watched.system.calls.lookup call = some inProgress) (added : Bool) :
    (watched.handle (.proceed call added)).system =
      watched.system.proceed call inProgress.observer added inProgress.stage := by
  simp only [handle, System.handle, hcall]

theorem proceed_none {watched : Watched Object} {call : Nat}
    (hcall : watched.system.calls.lookup call = none) (added : Bool) :
    watched.handle (.proceed call added) = watched := by
  have hnone : watched.inProgress? (.proceed call added) = none := by
    rw [inProgress?, hcall]
    rfl
  simp only [handle, System.handle, hcall, adding?, hnone, Option.elim_none]

theorem handledGone_handle {watched : Watched Object} (hsound : Sound watched.system)
    (h : watched.HandledGone) (event : Event Object) : (watched.handle event).HandledGone := by
  cases event with
  | RegisterSuspendObserver observer =>
      cases observer with
      | none => exact h
      | some observer =>
          refine h.of_subset rfl (Finset.Subset.refl _) fun object hobject => Or.inl ?_
          change object ∈ (watched.system.base.RegisterSuspendObserverInner observer).recipientMap
            at hobject
          rwa [recipientMap_register] at hobject
  | UnregisterSuspendObserver observer =>
      cases observer with
      | none => exact h
      | some observer => exact h.of_subset rfl (Finset.Subset.refl _) fun _ => Or.inl
  | OnObserverDied remote =>
      have hsame : (watched.handle (.OnObserverDied remote)).system.dead = watched.system.dead ∧
          (watched.handle (.OnObserverDied remote)).system.base.recipientMap =
            watched.system.base.recipientMap := by
        simp only [handle, System.handle]
        split_ifs <;> exact ⟨rfl, rfl⟩
      refine h.of_subset rfl hsame.1.superset fun object hobject => Or.inl ?_
      rwa [hsame.2] at hobject
  | proceed call added =>
      cases hcall : watched.system.calls.lookup call with
      | none =>
          rw [proceed_none hcall]
          exact h
      | some inProgress =>
          have hprogress := inProgress?_proceed hcall added
          have hsystem := system_proceed hcall added
          obtain ⟨observer, stage⟩ := inProgress
          by_cases hstage : stage = .removeDied
          · subst hstage
            obtain ⟨object, hdead, hobserver⟩ := hsound.dying call _ hcall rfl
            obtain rfl : observer = ⟨some object⟩ := hobserver
            have hhandled : (watched.handle (.proceed call added)).handled =
                watched.handled ++ [object] := by
              rw [handle, hprogress]
              rfl
            refine h.of_erased hhandled hdead ?_ ?_
            · rw [hsystem]
              rfl
            · rw [hsystem]
              rfl
          · refine h.of_subset ?_ ?_ ?_
            · rw [handle, hprogress]
              cases stage with
              | removeDied => exact absurd rfl hstage
              | _ => rfl
            · rw [hsystem, dead_proceed]
            · rw [hsystem]
              exact recipients_proceed _ _ _ _ _
  | die object =>
      exact h.of_subset rfl (Finset.subset_insert _ _) fun _ => Or.inl

theorem AddersOwn.of_observers {watched after : Watched Object}
    (h : watched.AddersOwn) (hadders : after.adders = watched.adders)
    (hbegun : watched.system.begun ≤ after.system.begun)
    (hcalls : ∀ call inProgress, after.system.calls.lookup call = some inProgress →
      call < watched.system.begun → ∃ before, watched.system.calls.lookup call = some before ∧
        before.observer = inProgress.observer) : after.AddersOwn := by
  refine ⟨?_, ?_⟩
  · rw [hadders]
    exact fun observer call hlookup => (h.begun observer call hlookup).trans_le hbegun
  · rw [hadders]
    intro call inProgress observer hcall hadder
    obtain ⟨before, hbefore, hobserver⟩ := hcalls call inProgress hcall (h.begun _ _ hadder)
    exact hobserver ▸ h.own call before observer hbefore hadder

/-- A call that ends by putting its observer back owns the entry it leaves. -/
theorem AddersOwn.of_adder {watched after : Watched Object} (h : watched.AddersOwn)
    {observer : Observer Object} {call : Nat}
    (hadders : after.adders = watched.adders.insert observer call)
    (hbegun : after.system.begun = watched.system.begun) (hcall : call < watched.system.begun)
    (hended : after.system.calls.lookup call = none)
    (hcalls : ∀ other inProgress, after.system.calls.lookup other = some inProgress →
      ∃ before, watched.system.calls.lookup other = some before ∧
        before.observer = inProgress.observer) : after.AddersOwn := by
  refine ⟨?_, ?_⟩
  · rw [hadders, hbegun]
    intro other adder hlookup
    rw [AssocMap.lookup_insert_ite] at hlookup
    split_ifs at hlookup
    · obtain rfl := Option.some.inj hlookup
      exact hcall
    · exact h.begun other adder hlookup
  · rw [hadders]
    intro other inProgress listed hlookup hadder
    rw [AssocMap.lookup_insert_ite] at hadder
    split_ifs at hadder
    · obtain rfl := Option.some.inj hadder
      cases hended.symm.trans hlookup
    · obtain ⟨before, hbefore, hobserver⟩ := hcalls other inProgress hlookup
      exact hobserver ▸ h.own other before listed hbefore hadder

theorem addersOwn_register {watched : Watched Object} (hsound : Sound watched.system)
    (h : watched.AddersOwn) (observer : Observer Object) :
    (watched.handle (.RegisterSuspendObserver (some observer))).AddersOwn := by
  have hcalls : ∀ call inProgress,
      (watched.handle (.RegisterSuspendObserver (some observer))).system.calls.lookup call =
        some inProgress →
      (call = watched.system.begun ∧ inProgress.observer = observer) ∨
        watched.system.calls.lookup call = some inProgress := by
    intro call inProgress hlookup
    simp only [handle, System.handle, System.begin] at hlookup
    rw [AssocMap.lookup_insert_ite] at hlookup
    split_ifs at hlookup with hnew
    · exact Or.inl ⟨hnew, (Option.some.inj hlookup) ▸ rfl⟩
    · exact Or.inr hlookup
  have hadders : ∀ other call,
      (watched.handle (.RegisterSuspendObserver (some observer))).adders.lookup other = some call →
      (other = observer ∧ call = watched.system.begun) ∨
        watched.adders.lookup other = some call := by
    intro other call hlookup
    simp only [handle, adding?, Option.map_some, Option.elim_some] at hlookup
    split_ifs at hlookup with hlisted
    · exact Or.inr hlookup
    · rw [AssocMap.lookup_insert_ite] at hlookup
      split_ifs at hlookup with hsame
      · exact Or.inl ⟨hsame, (Option.some.inj hlookup).symm⟩
      · exact Or.inr hlookup
  refine ⟨?_, ?_⟩
  · intro other call hlookup
    rcases hadders other call hlookup with ⟨-, rfl⟩ | hold
    · exact Nat.lt_succ_self _
    · exact Nat.lt_succ_of_lt (h.begun other call hold)
  · intro call inProgress other hcall hadder
    rcases hadders other call hadder with ⟨rfl, rfl⟩ | hold
    · rcases hcalls _ inProgress hcall with ⟨-, hobserver⟩ | hbefore
      · exact hobserver
      · exact absurd (hsound.begun _ _ hbefore) (Nat.lt_irrefl _)
    · rcases hcalls call inProgress hcall with ⟨rfl, -⟩ | hbefore
      · exact absurd (h.begun _ _ hold) (Nat.lt_irrefl _)
      · exact h.own call inProgress other hbefore hold

theorem addersOwn_handle {watched : Watched Object} (hsound : Sound watched.system)
    (h : watched.AddersOwn) (event : Event Object) : (watched.handle event).AddersOwn := by
  cases event with
  | RegisterSuspendObserver observer =>
      cases observer with
      | none => exact h
      | some observer => exact addersOwn_register hsound h observer
  | UnregisterSuspendObserver observer =>
      cases observer with
      | none => exact h
      | some observer =>
          exact h.of_observers rfl (Nat.le_succ _) fun _ _ hlookup hold =>
            observer_begin hlookup hold
  | OnObserverDied remote =>
      by_cases hdead : remote ∈ watched.system.dead
      · refine h.of_observers rfl ?_ fun call inProgress hlookup hold => ?_
        · simp only [handle, System.handle, if_pos hdead]
          exact Nat.le_succ _
        · simp only [handle, System.handle, if_pos hdead] at hlookup
          exact observer_begin hlookup hold
      · have hsystem : (watched.handle (.OnObserverDied remote)).system = watched.system :=
          if_neg hdead
        refine h.of_observers rfl ?_ fun call inProgress hlookup _ => ⟨inProgress, ?_, rfl⟩
        · rw [hsystem]
        · rwa [hsystem] at hlookup
  | proceed call added =>
      cases hcall : watched.system.calls.lookup call with
      | none =>
          rw [proceed_none hcall]
          exact h
      | some inProgress =>
          have hprogress := inProgress?_proceed hcall added
          have hsystem := system_proceed hcall added
          obtain ⟨observer, stage⟩ := inProgress
          by_cases hput : ∃ ret, stage = .putBack ret ∧
              observer ∉ watched.system.base.suspendObservers
          · obtain ⟨ret, rfl, hunlisted⟩ := hput
            have hadders : (watched.handle (.proceed call added)).adders =
                watched.adders.insert observer call := by
              simp only [handle, adding?, hprogress, Option.elim_some, List.contains_iff_mem,
                if_neg hunlisted]
            refine h.of_adder hadders ?_ (hsound.begun _ _ hcall) ?_ ?_
            · rw [hsystem, begun_proceed]
            · rw [hsystem]
              exact lookup_goOn_self _ _ _ _ _
            · rw [hsystem]
              exact fun other inProgress hlookup => observer_proceed hcall added hlookup
          · have hadders : (watched.handle (.proceed call added)).adders = watched.adders := by
              simp only [handle, adding?, hprogress]
              cases stage with
              | putBack ret =>
                  by_contra hchanged
                  refine hput ⟨ret, rfl, fun hlisted => hchanged ?_⟩
                  exact if_pos (List.contains_iff_mem.mpr hlisted)
              | _ => rfl
            refine h.of_observers hadders ?_ fun other inProgress hlookup _ => ?_
            · rw [hsystem, begun_proceed]
            · rw [hsystem] at hlookup
              exact observer_proceed hcall added hlookup
  | die object =>
      exact h.of_observers rfl (Nat.le_refl _) fun call inProgress hlookup _ =>
        ⟨inProgress, hlookup, rfl⟩

/-! ## Runs -/

/-- What holds before every event of a run whose steps are orderly. -/
structure Tracked (watched : Watched Object) : Prop where
  sound : Sound watched.system
  settled : ∀ observer, Settled watched.system observer
  handledGone : watched.HandledGone
  addersOwn : watched.AddersOwn

theorem start_tracked : (start : Watched Object).Tracked := by
  refine ⟨⟨List.nodup_nil, ?_, ?_⟩, fun observer => ⟨?_, ?_⟩, ⟨?_, ?_⟩, ⟨?_, ?_⟩⟩
  · intro call inProgress hlookup
    cases hlookup
  · intro call inProgress hlookup
    cases hlookup
  · rintro ⟨object, hmem, -⟩
    cases hmem
  · intro hlisted
    cases hlisted
  · intro object hmem
    cases hmem
  · intro object hmem
    cases hmem
  · intro observer call hlookup
    cases hlookup
  · intro call inProgress observer hlookup
    cases hlookup

theorem handle_tracked (watched : Watched Object) (event : Event Object) (h : watched.Tracked)
    (horderly : watched.Orderly event) : (watched.handle event).Tracked where
  sound := Suspend.handle_sound h.sound event
  settled := handle_settled h.sound h.settled event horderly
  handledGone := handledGone_handle h.sound h.handledGone event
  addersOwn := addersOwn_handle h.sound h.addersOwn event

theorem Tracked.containersAgree {watched : Watched Object} (h : watched.Tracked) :
    watched.ContainersAgree := by
  have hidle : ∀ (P : Stage → Prop) observer, watched.system.calls = ∅ →
      ¬ Halfway P watched.system observer := by
    rintro P observer hcalls ⟨call, inProgress, hlookup, -⟩
    rw [hcalls] at hlookup
    cases hlookup
  have hagree : watched.system.calls = ∅ → ∀ observer,
      observer ∈ watched.system.base.suspendObservers ↔
        HasRecipient watched.system.base observer := by
    intro hcalls observer
    constructor
    · intro hlisted
      by_contra hnone
      exact hidle _ observer hcalls ((h.settled observer).registration hlisted hnone)
    · intro hrecipient
      by_contra hunlisted
      exact hidle _ observer hcalls ((h.settled observer).removal hrecipient hunlisted)
  refine ⟨hagree, h.sound.once, fun hcalls object hobject => ?_⟩
  have hgone := h.handledGone.gone object hobject
  refine ⟨fun hlisted => hgone ?_, hgone⟩
  exact (hasRecipient_iff _ rfl).mp ((hagree hcalls _).mp hlisted)

theorem Tracked.errorUndone {watched : Watched Object} (h : watched.Tracked)
    (event : Event Object) (horderly : watched.Orderly event) : watched.ErrorUndone event := by
  intro named inProgress hprogress
  cases event with
  | proceed call added =>
      cases hcall : watched.system.calls.lookup call with
      | none =>
          rw [inProgress?, hcall] at hprogress
          cases hprogress
      | some found =>
          rw [inProgress?_proceed hcall] at hprogress
          obtain ⟨rfl, rfl⟩ := Prod.mk.inj (Option.some.inj hprogress)
          have hsystem := system_proceed hcall added
          have hstep := horderly found hcall
          obtain ⟨observer, stage⟩ := found
          cases stage with
          | addRecipient =>
              change (watched.handle (.proceed call added)).system.calls.lookup call ≠ none → _
              rw [hsystem, proceed_addRecipient, lookup_goOn_self]
              rcases AddObserverDeathRecipient_cases watched.system.base observer
                (takes watched.system observer added) with
                ⟨-, heq⟩ | ⟨-, -, object, -, heq⟩ | ⟨-, ret, -, heq⟩
              · rw [heq]
                exact fun hfailed => absurd rfl hfailed
              · rw [heq]
                exact fun hfailed => absurd rfl hfailed
              · rw [heq]
                exact fun _ => rfl
          | takeBack ret =>
              refine ⟨by rw [hsystem]; rfl, fun other hlisted => ?_⟩
              rw [hsystem]
              change other ∉ (watched.system.base.UnregisterSuspendObserverInner
                observer).suspendObservers ↔ _
              rw [mem_unregister _ _ h.sound.once]
              constructor
              · intro hunlisted
                obtain rfl : other = observer := by
                  by_contra hother
                  exact hunlisted ⟨hother, hlisted⟩
                exact hstep.1 hlisted
              · rintro hadder ⟨hother, -⟩
                exact hother (h.addersOwn.own call _ other hcall hadder).symm
          | _ => trivial
  | _ => cases hprogress

/-- In every order of the steps of registrations, removals and deaths in which each step is
orderly, the containers agree whenever no call is in progress, and a registration that fails leaves
them as they were. -/
theorem containers_agree_of_orderly (events : List (Event Object))
    (horderly : EachStep handle Orderly (start : Watched Object) events) :
    Always handle ContainersAgree (start : Watched Object) events ∧
      EachStep handle ErrorUndone (start : Watched Object) events := by
  have htracked := always_of_eachStep handle handle_tracked events start start_tracked horderly
  refine ⟨htracked.mono handle fun _ h => h.containersAgree, fun front event hfront => ?_⟩
  have hfront' := htracked front ((List.prefix_append front [event]).trans hfront)
  exact hfront'.errorUndone event (horderly front event hfront)

/-- An observer registers and unregisters. -/
def oneAfterAnother : List (Event Nat) :=
  [.RegisterSuspendObserver (some ⟨some 1⟩), .proceed 0 true,
    .UnregisterSuspendObserver (some ⟨some 1⟩), .proceed 1 true]

theorem oneAfterAnother_agrees : Always handle ContainersAgree start oneAfterAnother ∧
    EachStep handle ErrorUndone start oneAfterAnother := by
  refine containers_agree_of_orderly oneAfterAnother ?_
  rw [oneAfterAnother, eachStep_cons, eachStep_cons, eachStep_cons, eachStep_cons]
  refine ⟨trivial, ?_, trivial, ?_, eachStep_nil handle Orderly _⟩
  · intro inProgress hlookup
    obtain rfl : (⟨⟨some 1⟩, .addRecipient⟩ : Call Nat) = inProgress := Option.some.inj hlookup
    exact fun _ _ _ => Or.inl (by decide)
  · intro inProgress hlookup
    obtain rfl : (⟨⟨some 1⟩, .removeRecipient⟩ : Call Nat) = inProgress := Option.some.inj hlookup
    exact fun hlisted => absurd hlisted (by decide)

/-- A whole removal falls between the two steps of a registration. -/
def removedMeanwhile : List (Event Nat) :=
  [.RegisterSuspendObserver (some ⟨some 1⟩), .UnregisterSuspendObserver (some ⟨some 1⟩),
    .proceed 1 true, .proceed 0 true]

theorem removedMeanwhile_disagrees :
    ¬ ∀ events : List (Event Nat), Always handle ContainersAgree start events ∧
      EachStep handle ErrorUndone start events := by
  intro h
  have hagree := (h removedMeanwhile).1.last.agree (AList.ext rfl) ⟨some 1⟩
  have hunlisted : (run handle start removedMeanwhile).system.base.suspendObservers = [] := by
    decide +kernel
  have hrecipients : (run handle start removedMeanwhile).system.base.recipientMap = {1} := by
    decide +kernel
  rw [hunlisted] at hagree
  refine absurd (hagree.mpr ⟨1, ?_, rfl⟩) List.not_mem_nil
  rw [hrecipients]
  exact Finset.mem_singleton_self 1

end Watched

end ResSched.Suspend
