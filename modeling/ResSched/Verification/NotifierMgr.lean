import ResSched.Library.Transition
import ResSched.Model.NotifierMgr

/-! # The system-load notifiers are up to date -/

namespace ResSched.NotifierMgr

open Transition

variable {Remote : Type*}

/-! ## The records after a step -/

@[simp] theorem drop_delivered_HandleDeviceLevelChange (mgr : Mgr Remote)
    (notifierVec : List Remote) (level : SystemloadLevel) :
    (HandleDeviceLevelChange mgr notifierVec level).delivered.drop mgr.delivered.length =
      notifierVec.map fun notifier => (notifier, level) :=
  List.drop_left

/-- The notifiers a pass delivers to. -/
def passArray (mgr : Mgr Remote) : List Remote :=
  (AssocMap.ascendingKeys mgr.notifierMap_).filterMap fun pid =>
    ((mgr.notifierMap_.lookup pid).filter NotifierInfo.reached).map NotifierInfo.notifier

theorem mem_passArray {mgr : Mgr Remote} {pid : Int} {info : NotifierInfo Remote}
    (hlookup : mgr.notifierMap_.lookup pid = some info) (hreached : info.reached = true) :
    info.notifier ∈ passArray mgr := by
  rw [passArray, List.mem_filterMap]
  refine ⟨pid, ?_, ?_⟩
  · rw [AssocMap.mem_ascendingKeys, AssocMap.mem_keys_iff]
    exact ⟨info, hlookup⟩
  · rw [hlookup, Option.filter_some, if_pos hreached, Option.map_some]

theorem lookup_OnDeviceLevelChangedLock (mgr : Mgr Remote) (level : SystemloadLevel)
    (pid : Int) :
    (OnDeviceLevelChangedLock mgr level).notifierMap_.lookup pid =
      (mgr.notifierMap_.lookup pid).map fun info =>
        if info.reached then { info with level := level } else info :=
  AssocMap.lookup_mapValues _ _ _

theorem RegisterNotifier_cases (mgr : Mgr Remote) (pid : Int) (notifier : Option Remote)
    (hapApp : Bool) :
    RegisterNotifier mgr pid notifier hapApp = mgr ∨
      ∃ registered, mgr.notifierMap_.lookup pid = none ∧
        RegisterNotifier mgr pid notifier hapApp =
          { mgr with
            notifierMap_ :=
              mgr.notifierMap_.insert pid (NotifierInfo.new registered hapApp) } := by
  cases notifier with
  | none => exact .inl rfl
  | some registered =>
      rw [RegisterNotifier]
      split_ifs with hready hknown
      · exact .inl rfl
      · exact .inl rfl
      · exact .inr ⟨registered, Option.not_isSome_iff_eq_none.mp hknown, rfl⟩

/-- What remains registered was registered before, as it was. -/
def Remains (mgr mgr' : Mgr Remote) : Prop :=
  mgr'.notifierHandler_ = mgr.notifierHandler_ ∧
    mgr'.systemloadLevel_ = mgr.systemloadLevel_ ∧
      ∀ pid info, mgr'.notifierMap_.lookup pid = some info →
        mgr.notifierMap_.lookup pid = some info

theorem remains_erase (mgr : Mgr Remote) (pid : Int) :
    Remains mgr { mgr with notifierMap_ := mgr.notifierMap_.erase pid } := by
  refine ⟨rfl, rfl, ?_⟩
  intro other info hlookup
  rw [AssocMap.lookup_erase_ite] at hlookup
  split_ifs at hlookup
  exact hlookup

/-- The record of an application after a change of its state. -/
def NotifierInfo.changeTo (info : NotifierInfo Remote) (state : ApplicationState)
    (level : SystemloadLevel) : NotifierInfo Remote :=
  if !info.hapApp then info
  else if state = .APP_STATE_FOREGROUND then { info with foreground := true, level := level }
  else if state.leavesForeground then { info with foreground := false }
  else info

@[simp] theorem hapApp_changeTo (info : NotifierInfo Remote) (state : ApplicationState)
    (level : SystemloadLevel) : (info.changeTo state level).hapApp = info.hapApp := by
  rw [NotifierInfo.changeTo]
  split_ifs <;> rfl

@[simp] theorem notifier_changeTo (info : NotifierInfo Remote) (state : ApplicationState)
    (level : SystemloadLevel) : (info.changeTo state level).notifier = info.notifier := by
  rw [NotifierInfo.changeTo]
  split_ifs <;> rfl

/-- The notifiers a change of the state of an application delivers to. -/
def changeArray (mgr : Mgr Remote) (state : ApplicationState) (pid : Int) : List Remote :=
  match mgr.notifierMap_.lookup pid with
  | none => []
  | some info =>
      if info.hapApp ∧ state = .APP_STATE_FOREGROUND ∧ info.level ≠ mgr.systemloadLevel_ then
        [info.notifier]
      else []

/-- What a change of the state of an application does. -/
structure ChangeSpec (mgr : Mgr Remote) (state : ApplicationState) (pid : Int)
    (changed : Mgr Remote) : Prop where
  lookup : ∀ other, changed.notifierMap_.lookup other =
    if other = pid then
      (mgr.notifierMap_.lookup pid).map fun info => info.changeTo state mgr.systemloadLevel_
    else mgr.notifierMap_.lookup other
  delivered : changed.delivered = mgr.delivered ++
    (changeArray mgr state pid).map fun notifier => (notifier, mgr.systemloadLevel_)
  level : changed.systemloadLevel_ = mgr.systemloadLevel_
  handler : changed.notifierHandler_ = mgr.notifierHandler_
  file : changed.SYSTEMLOAD_FILE = mgr.SYSTEMLOAD_FILE

theorem OnApplicationStateChange_spec (mgr : Mgr Remote) (state : ApplicationState) (pid : Int) :
    ChangeSpec mgr state pid (OnApplicationStateChange mgr state pid) := by
  have hsame : ∀ info, mgr.notifierMap_.lookup pid = some info →
      info.changeTo state mgr.systemloadLevel_ = info →
      changeArray mgr state pid = [] → ChangeSpec mgr state pid mgr := by
    intro info hlookup hinfo harray
    refine ⟨?_, by simp [harray], rfl, rfl, rfl⟩
    intro other
    split_ifs with hother
    · rw [hother, hlookup, Option.map_some, hinfo]
    · rfl
  rw [OnApplicationStateChange]
  cases hlookup : mgr.notifierMap_.lookup pid with
  | none =>
      refine ⟨?_, by simp [changeArray, hlookup], rfl, rfl, rfl⟩
      intro other
      dsimp only
      split_ifs with hother
      · rw [hother, hlookup, Option.map_none]
      · rfl
  | some info =>
      dsimp only
      by_cases hhap : info.hapApp = true
      · rw [hhap, Bool.not_true, if_neg Bool.false_ne_true]
        by_cases hstate : state = .APP_STATE_FOREGROUND
        · rw [if_pos hstate]
          by_cases hlevel : mgr.systemloadLevel_ = info.level
          · rw [if_neg (not_not_intro hlevel)]
            refine ⟨?_, ?_, rfl, rfl, rfl⟩
            · intro other
              rw [AssocMap.lookup_insert_ite, hlookup, Option.map_some]
              simp [NotifierInfo.changeTo, hhap, hstate, hlevel]
            · simp [changeArray, hlookup, hlevel]
          · rw [if_pos hlevel]
            refine ⟨?_, ?_, rfl, rfl, rfl⟩
            · intro other
              simp only [HandleDeviceLevelChange, AssocMap.lookup_insert_ite, hlookup,
                Option.map_some]
              simp [NotifierInfo.changeTo, hhap, hstate]
            · simp [HandleDeviceLevelChange, changeArray, hlookup, hhap, hstate, Ne.symm hlevel]
        · rw [if_neg hstate]
          have harray : changeArray mgr state pid = [] := by
            simp [changeArray, hlookup, hstate]
          by_cases hleaves : state.leavesForeground = true
          · rw [if_pos hleaves]
            refine ⟨?_, by simp [harray], rfl, rfl, rfl⟩
            intro other
            rw [AssocMap.lookup_insert_ite, hlookup, Option.map_some]
            simp [NotifierInfo.changeTo, hhap, hstate, hleaves]
          · rw [if_neg hleaves]
            refine hsame info hlookup ?_ harray
            simp [NotifierInfo.changeTo, hhap, hstate, hleaves]
      · rw [Bool.not_eq_true] at hhap
        rw [hhap, Bool.not_false, if_pos rfl]
        refine hsame info hlookup ?_ ?_
        · simp [NotifierInfo.changeTo, hhap]
        · simp [changeArray, hlookup, hhap]

/-! ## The notifiers and what they were told -/

/-- The steps under the lock, and the write of the level before it. `OnDeviceLevelChanged` is a
write followed by a pass of its own level over the map. -/
inductive Event (Remote : Type*) where
  | RegisterNotifier (pid : Int) (notifier : Option Remote) (hapApp : Bool)
  | UnRegisterNotifier (pid : Int)
  | OnRemoteNotifierDied (notifier : Option Remote)
  | writeLevel (type level : Int)
  | passLevel (level : SystemloadLevel)
  | OnApplicationStateChange (state : ApplicationState) (pid : Int)

/-- What a registered notifier was told: the level current when it registered, the level last
delivered to it since, and the state last reported for its application since. -/
structure Client where
  registeredAt : SystemloadLevel
  delivered : Option SystemloadLevel
  reported : Option ApplicationState

def Client.knows (client : Client) : SystemloadLevel :=
  client.delivered.getD client.registeredAt

/-- The manager, the levels that are written but not passed on yet, and the clients. -/
structure World (Remote : Type*) where
  mgr : Mgr Remote
  pending : List SystemloadLevel
  clients : AssocMap Int Client

def World.start (SYSTEMLOAD_FILE : Option String) : World Remote where
  mgr := Init (Mgr.created SYSTEMLOAD_FILE)
  pending := []
  clients := ∅

def World.report (world : World Remote) (state : ApplicationState) (pid : Int) : World Remote :=
  { world with
    clients := AssocMap.modify pid (fun client => { client with reported := some state })
      world.clients }

/-- A pid that was not registered and is now is a new client. -/
def World.welcome (world : World Remote) (mgr : Mgr Remote) (pid : Int) : World Remote :=
  match world.mgr.notifierMap_.lookup pid, mgr.notifierMap_.lookup pid with
  | none, some _ =>
      { world with
        mgr := mgr
        clients := world.clients.insert pid ⟨mgr.systemloadLevel_, none, none⟩ }
  | _, _ => { world with mgr := mgr }

/-- The notifier is to be kept up to date: it is no application, or its application was last
reported to be in the foreground, or was not reported at all. -/
def Concerned (info : NotifierInfo Remote) (client : Client) : Prop :=
  info.hapApp = false ∨ client.reported = none ∨
    client.reported = some .APP_STATE_FOREGROUND

/-- With no change of the level in progress, every notifier concerned knows the level. -/
def UpToDate (world : World Remote) : Prop :=
  world.pending = [] → ∀ pid info, world.mgr.notifierMap_.lookup pid = some info →
    ∃ client, world.clients.lookup pid = some client ∧
      (Concerned info client → client.knows = world.mgr.systemloadLevel_)

/-! ## What every run keeps -/

/-- The handler exists, every registered notifier is a client, and the notifiers concerned are
those the passes reach. -/
structure NotifierInv (world : World Remote) : Prop where
  handler : world.mgr.notifierHandler_ = true
  client : ∀ pid info, world.mgr.notifierMap_.lookup pid = some info →
    ∃ client, world.clients.lookup pid = some client ∧
      (Concerned info client → info.reached = true)

theorem notifierInv_start (SYSTEMLOAD_FILE : Option String) :
    NotifierInv (World.start SYSTEMLOAD_FILE : World Remote) := by
  refine ⟨rfl, ?_⟩
  intro pid info hlookup
  simp [World.start, Init, Mgr.created] at hlookup

theorem upToDate_start (SYSTEMLOAD_FILE : Option String) :
    UpToDate (World.start SYSTEMLOAD_FILE : World Remote) := by
  intro _ pid info hlookup
  simp [World.start, Init, Mgr.created] at hlookup

theorem notifierInv_of_remains {world : World Remote} {mgr : Mgr Remote}
    (hremains : Remains world.mgr mgr) (h : NotifierInv world) :
    NotifierInv { world with mgr := mgr } :=
  ⟨hremains.1.trans h.handler,
    fun pid info hlookup => h.client pid info (hremains.2.2 pid info hlookup)⟩

theorem upToDate_of_remains {world : World Remote} {mgr : Mgr Remote}
    (hremains : Remains world.mgr mgr) (h : UpToDate world) :
    UpToDate { world with mgr := mgr } := by
  intro hpending pid info hlookup
  obtain ⟨client, hclient, hknows⟩ := h hpending pid info (hremains.2.2 pid info hlookup)
  exact ⟨client, hclient, fun hconcerned => (hknows hconcerned).trans hremains.2.1.symm⟩

/-- A registration changes nothing or adds one client, that knows the level. -/
theorem welcome_cases (world : World Remote) (pid : Int) (notifier : Option Remote)
    (hapApp : Bool) :
    world.welcome (RegisterNotifier world.mgr pid notifier hapApp) pid = world ∨
      ∃ registered, world.welcome (RegisterNotifier world.mgr pid notifier hapApp) pid =
        { world with
          mgr := { world.mgr with
            notifierMap_ :=
              world.mgr.notifierMap_.insert pid (NotifierInfo.new registered hapApp) }
          clients := world.clients.insert pid ⟨world.mgr.systemloadLevel_, none, none⟩ } := by
  rcases RegisterNotifier_cases world.mgr pid notifier hapApp with hsame | ⟨registered, hnew, heq⟩
  · left
    rw [hsame, World.welcome]
    cases world.mgr.notifierMap_.lookup pid <;> rfl
  · right
    refine ⟨registered, ?_⟩
    rw [heq, World.welcome, hnew]
    simp

/-- A notifier that is registered after a pass is one that was, at the level of the pass when the
pass reached it. -/
theorem pass_lookup {world : World Remote} {level : SystemloadLevel} {pid : Int}
    {info : NotifierInfo Remote} (h : NotifierInv world)
    (hlookup : (OnDeviceLevelChangedLock world.mgr level).notifierMap_.lookup pid = some info) :
    ∃ before client, world.mgr.notifierMap_.lookup pid = some before ∧
      world.clients.lookup pid = some client ∧
      (Concerned before client → before.reached = true) ∧
      info.notifier = before.notifier ∧ info.hapApp = before.hapApp ∧
      info.reached = before.reached := by
  rw [lookup_OnDeviceLevelChangedLock] at hlookup
  obtain ⟨before, hbefore, rfl⟩ := Option.map_eq_some_iff.mp hlookup
  obtain ⟨client, hclient, hreached⟩ := h.client pid before hbefore
  refine ⟨before, client, hbefore, hclient, hreached, ?_⟩
  split_ifs <;> exact ⟨rfl, rfl, rfl⟩

/-! ## Runs of the notifier manager -/

variable [DecidableEq Remote]

/-- The last level among the deliveries to a notifier. -/
def lastTo (notifier : Remote) (deliveries : List (Remote × SystemloadLevel)) :
    Option SystemloadLevel :=
  ((deliveries.filter fun delivery => delivery.1 = notifier).getLast?).map Prod.snd

def Client.hear (deliveries : List (Remote × SystemloadLevel)) (info : Option (NotifierInfo Remote))
    (client : Client) : Client :=
  match info.bind fun info => lastTo info.notifier deliveries with
  | none => client
  | some level => { client with delivered := some level }

/-- The manager goes on to `mgr`, and what it delivered on the way is heard. -/
def World.goTo (world : World Remote) (mgr : Mgr Remote) : World Remote :=
  let deliveries := mgr.delivered.drop world.mgr.delivered.length
  { world with
    mgr := mgr
    clients := AssocMap.mapValues
      (fun pid client => client.hear deliveries (mgr.notifierMap_.lookup pid)) world.clients }

/-- A pass only follows the write of its level. -/
def step (world : World Remote) : Event Remote → World Remote
  | .RegisterNotifier pid notifier hapApp =>
      world.welcome (RegisterNotifier world.mgr pid notifier hapApp) pid
  | .UnRegisterNotifier pid => { world with mgr := UnRegisterNotifier world.mgr pid }
  | .OnRemoteNotifierDied notifier => { world with mgr := OnRemoteNotifierDied world.mgr notifier }
  | .writeLevel type level =>
      match reportedLevel type level with
      | none => world
      | some level =>
          { world with
            mgr := storeLevel world.mgr level
            pending := if world.mgr.notifierHandler_ then level :: world.pending
              else world.pending }
  | .passLevel level =>
      if level ∈ world.pending then
        { world.goTo (OnDeviceLevelChangedLock world.mgr level) with
          pending := world.pending.erase level }
      else world
  | .OnApplicationStateChange state pid =>
      (world.report state pid).goTo (OnApplicationStateChange world.mgr state pid)

/-- What a step needs to keep the notifiers up to date: the pass that ends last brings the
current level, and an application that comes to the foreground while the level recorded for it
is the current one knows it. -/
def UpToDateKept (world : World Remote) : Event Remote → Prop
  | .passLevel level => world.pending = [level] →
      (∀ pid info client, world.mgr.notifierMap_.lookup pid = some info →
        world.clients.lookup pid = some client → ¬Concerned info client) ∨
      level = world.mgr.systemloadLevel_
  | .OnApplicationStateChange state pid =>
      world.pending = [] → state = .APP_STATE_FOREGROUND →
        ∀ info client, world.mgr.notifierMap_.lookup pid = some info →
          world.clients.lookup pid = some client → info.hapApp = true →
            info.level = world.mgr.systemloadLevel_ →
              client.knows = world.mgr.systemloadLevel_
  | _ => True

/-! ## What is delivered and heard -/

theorem lastTo_map (notifierVec : List Remote) (level : SystemloadLevel) (notifier : Remote) :
    lastTo notifier (notifierVec.map fun notifier => (notifier, level)) =
      if notifier ∈ notifierVec then some level else none := by
  rw [lastTo, List.filter_map, List.getLast?_map, Option.map_map]
  split_ifs with hmem
  · have hne : notifierVec.filter (fun other => other = notifier) ≠ [] :=
      List.ne_nil_of_mem (List.mem_filter.mpr ⟨hmem, by simp⟩)
    obtain ⟨last, hlast⟩ := Option.ne_none_iff_exists'.mp
      (mt List.getLast?_eq_none_iff.mp hne)
    simp only [Function.comp_def]
    rw [hlast]
    rfl
  · have hnil : notifierVec.filter (fun other => other = notifier) = [] := by
      rw [List.filter_eq_nil_iff]
      intro other hother
      simpa using fun heq : other = notifier => hmem (heq ▸ hother)
    simp only [Function.comp_def]
    rw [hnil]
    rfl

theorem lookup_goTo (world : World Remote) (mgr : Mgr Remote) (pid : Int) :
    (world.goTo mgr).clients.lookup pid =
      (world.clients.lookup pid).map
        (Client.hear (mgr.delivered.drop world.mgr.delivered.length)
          (mgr.notifierMap_.lookup pid)) :=
  AssocMap.lookup_mapValues _ _ _

/-- A notifier among those a level is delivered to knows it, any other one knows what it knew. -/
theorem knows_hear (notifierVec : List Remote) (level : SystemloadLevel)
    (info : NotifierInfo Remote) (client : Client) :
    (client.hear (notifierVec.map fun notifier => (notifier, level)) (some info)).knows =
      if info.notifier ∈ notifierVec then level else client.knows := by
  rw [Client.hear, Option.bind_some, lastTo_map]
  split_ifs <;> rfl

@[simp] theorem reported_hear (deliveries : List (Remote × SystemloadLevel))
    (info : Option (NotifierInfo Remote)) (client : Client) :
    (client.hear deliveries info).reported = client.reported := by
  rw [Client.hear]
  split <;> rfl

/-! ## Registering and leaving -/

theorem remains_OnRemoteNotifierDied (mgr : Mgr Remote) (notifier : Option Remote) :
    Remains mgr (OnRemoteNotifierDied mgr notifier) := by
  cases notifier with
  | none => exact ⟨rfl, rfl, fun _ _ h => h⟩
  | some notifier =>
      rw [OnRemoteNotifierDied, RemoveNotifierLock]
      split
      · exact ⟨rfl, rfl, fun _ _ h => h⟩
      · exact remains_erase mgr _

theorem register_keeps (world : World Remote) (pid : Int) (notifier : Option Remote)
    (hapApp : Bool) (h : NotifierInv world) :
    NotifierInv (step world (.RegisterNotifier pid notifier hapApp)) ∧
      (UpToDate world → UpToDate (step world (.RegisterNotifier pid notifier hapApp))) := by
  rw [step]
  rcases welcome_cases world pid notifier hapApp with hsame | ⟨registered, hnew⟩
  · rw [hsame]
    exact ⟨h, id⟩
  · rw [hnew]
    constructor
    · refine ⟨h.handler, ?_⟩
      intro other info hlookup
      simp only [AssocMap.lookup_insert_ite] at hlookup ⊢
      split_ifs at hlookup ⊢
      · obtain rfl := Option.some.inj hlookup
        exact ⟨_, rfl, fun _ => by simp [NotifierInfo.reached, NotifierInfo.new]⟩
      · exact h.client other info hlookup
    · intro hupToDate hpending other info hlookup
      simp only [AssocMap.lookup_insert_ite] at hlookup ⊢
      split_ifs at hlookup ⊢
      · exact ⟨_, rfl, fun _ => rfl⟩
      · exact hupToDate hpending other info hlookup

/-! ## Changes of the level -/

theorem write_keeps (world : World Remote) (type level : Int) (h : NotifierInv world) :
    NotifierInv (step world (.writeLevel type level)) ∧
      (UpToDate world → UpToDate (step world (.writeLevel type level))) := by
  rw [step]
  cases reportedLevel type level with
  | none => exact ⟨h, id⟩
  | some level =>
      refine ⟨⟨h.handler, h.client⟩, ?_⟩
      intro _ hpending
      simp [h.handler] at hpending

theorem pass_goTo_lookup (world : World Remote) (level : SystemloadLevel) {pid : Int}
    {client : Client} (hclient : world.clients.lookup pid = some client) :
    (world.goTo (OnDeviceLevelChangedLock world.mgr level)).clients.lookup pid =
      some (client.hear ((passArray world.mgr).map fun notifier => (notifier, level))
        ((OnDeviceLevelChangedLock world.mgr level).notifierMap_.lookup pid)) := by
  rw [lookup_goTo, hclient, Option.map_some]
  congr 2
  exact drop_delivered_HandleDeviceLevelChange _ _ _

theorem pass_inv (world : World Remote) (level : SystemloadLevel) (h : NotifierInv world) :
    NotifierInv (world.goTo (OnDeviceLevelChangedLock world.mgr level)) := by
  refine ⟨h.handler, ?_⟩
  intro pid info hlookup
  obtain ⟨before, client, hbefore, hclient, hreached, _, hhap, hsame⟩ := pass_lookup h hlookup
  refine ⟨_, pass_goTo_lookup world level hclient, ?_⟩
  rw [Concerned, reported_hear, hhap, hsame]
  exact hreached

/-- After a pass the notifiers concerned know its level. -/
theorem pass_knows {world : World Remote} (level : SystemloadLevel) (h : NotifierInv world)
    {pid : Int} {info : NotifierInfo Remote}
    (hlookup : (OnDeviceLevelChangedLock world.mgr level).notifierMap_.lookup pid = some info) :
    ∃ before client client', world.mgr.notifierMap_.lookup pid = some before ∧
      world.clients.lookup pid = some client ∧
      (world.goTo (OnDeviceLevelChangedLock world.mgr level)).clients.lookup pid =
        some client' ∧
      (Concerned info client' ↔ Concerned before client) ∧
      (Concerned before client → client'.knows = level) := by
  obtain ⟨before, client, hbefore, hclient, hreached, hnotifier, hhap, _⟩ := pass_lookup h hlookup
  refine ⟨before, client, _, hbefore, hclient, pass_goTo_lookup world level hclient, ?_, ?_⟩
  · rw [Concerned, Concerned, reported_hear, hhap]
  · intro hconcerned
    rw [hlookup, knows_hear, hnotifier, if_pos]
    exact mem_passArray hbefore (hreached hconcerned)

theorem pass_exact (world : World Remote) (level : SystemloadLevel) (h : NotifierInv world)
    (hupToDate : UpToDate world) :
    UpToDate (step world (.passLevel level)) ↔ UpToDateKept world (.passLevel level) := by
  rw [step, UpToDateKept]
  by_cases hmem : level ∈ world.pending
  · rw [if_pos hmem]
    have hlast : world.pending.erase level = [] ↔ world.pending = [level] := by
      rw [List.erase_eq_nil_iff]
      constructor
      · rintro (hnil | honly)
        · rw [hnil] at hmem
          exact absurd hmem List.not_mem_nil
        · exact honly
      · exact Or.inr
    constructor
    · intro hafter honly
      by_cases hlevel : level = world.mgr.systemloadLevel_
      · exact .inr hlevel
      · left
        intro pid before client hbefore hclient hconcerned
        obtain ⟨info, hinfo⟩ : ∃ info,
            (OnDeviceLevelChangedLock world.mgr level).notifierMap_.lookup pid = some info := by
          rw [lookup_OnDeviceLevelChangedLock, hbefore]
          exact ⟨_, rfl⟩
        obtain ⟨before', client', after, hbefore', hclient', hafterClient, hiff, hknows⟩ :=
          pass_knows level h hinfo
        obtain rfl := Option.some.inj (hbefore.symm.trans hbefore')
        obtain rfl := Option.some.inj (hclient.symm.trans hclient')
        obtain ⟨after', hafter', hcurrent⟩ := hafter (hlast.mpr honly) pid info hinfo
        obtain rfl := Option.some.inj (hafterClient.symm.trans hafter')
        exact hlevel ((hknows hconcerned).symm.trans (hcurrent (hiff.mpr hconcerned)))
    · intro hkept hpending pid info hinfo
      obtain ⟨before, client, after, hbefore, hclient, hafterClient, hiff, hknows⟩ :=
        pass_knows level h hinfo
      refine ⟨after, hafterClient, ?_⟩
      intro hconcerned
      have hbeforeConcerned := hiff.mp hconcerned
      rcases hkept (hlast.mp hpending) with hnobody | hlevel
      · exact absurd hbeforeConcerned (hnobody pid before client hbefore hclient)
      · exact (hknows hbeforeConcerned).trans hlevel
  · rw [if_neg hmem]
    refine iff_of_true hupToDate ?_
    intro honly
    rw [honly] at hmem
    exact absurd (List.mem_singleton.mpr rfl) hmem

/-! ## Changes of an application -/

/-- A notifier that is registered after a change of an application is one that was, and heard
what the change delivered to it. -/
theorem change_lookup {world : World Remote} (state : ApplicationState) (pid : Int)
    (h : NotifierInv world) {other : Int} {info : NotifierInfo Remote}
    (hlookup : (OnApplicationStateChange world.mgr state pid).notifierMap_.lookup other =
      some info) :
    ∃ before client client', world.mgr.notifierMap_.lookup other = some before ∧
      world.clients.lookup other = some client ∧
      (step world (.OnApplicationStateChange state pid)).clients.lookup other = some client' ∧
      (Concerned before client → before.reached = true) ∧
      info = (if other = pid then before.changeTo state world.mgr.systemloadLevel_ else before) ∧
      client'.reported = (if other = pid then some state else client.reported) ∧
      client'.knows = if info.notifier ∈ changeArray world.mgr state pid then
        world.mgr.systemloadLevel_ else client.knows := by
  have hspec := OnApplicationStateChange_spec world.mgr state pid
  have hbefore : ∃ before, world.mgr.notifierMap_.lookup other = some before ∧
      info = if other = pid then before.changeTo state world.mgr.systemloadLevel_ else before := by
    rw [hspec.lookup] at hlookup
    by_cases hother : other = pid
    · rw [if_pos hother] at hlookup
      obtain ⟨before, hbefore, rfl⟩ := Option.map_eq_some_iff.mp hlookup
      exact ⟨before, hother ▸ hbefore, (if_pos hother).symm⟩
    · rw [if_neg hother] at hlookup
      exact ⟨info, hlookup, (if_neg hother).symm⟩
  obtain ⟨before, hbefore, hinfo⟩ := hbefore
  obtain ⟨client, hclient, hreached⟩ := h.client other before hbefore
  have hdeliveries : (OnApplicationStateChange world.mgr state pid).delivered.drop
      world.mgr.delivered.length =
        (changeArray world.mgr state pid).map fun notifier =>
          (notifier, world.mgr.systemloadLevel_) := by
    rw [hspec.delivered, List.drop_left]
  have hafter : (step world (.OnApplicationStateChange state pid)).clients.lookup other =
      ((if other = pid then (some client).map fun client => { client with reported := some state }
        else some client).map (Client.hear ((changeArray world.mgr state pid).map fun notifier =>
          (notifier, world.mgr.systemloadLevel_)) (some info))) := by
    rw [step, lookup_goTo, hlookup, World.report]
    dsimp only
    rw [hdeliveries, AssocMap.lookup_modify, hclient]
  by_cases hother : other = pid
  · rw [if_pos hother, Option.map_some, Option.map_some] at hafter
    refine ⟨before, client, _, hbefore, hclient, hafter, hreached, hinfo, ?_, ?_⟩
    · rw [reported_hear, if_pos hother]
    · rw [knows_hear]
      rfl
  · rw [if_neg hother, Option.map_some] at hafter
    refine ⟨before, client, _, hbefore, hclient, hafter, hreached, hinfo, ?_, ?_⟩
    · rw [reported_hear, if_neg hother]
    · rw [knows_hear]

theorem change_inv (world : World Remote) (state : ApplicationState) (pid : Int)
    (h : NotifierInv world) :
    NotifierInv (step world (.OnApplicationStateChange state pid)) := by
  have hspec := OnApplicationStateChange_spec world.mgr state pid
  refine ⟨hspec.handler.trans h.handler, ?_⟩
  intro other info hlookup
  obtain ⟨before, client, after, _, _, hafter, hreached, hinfo, hreported, _⟩ :=
    change_lookup state pid h hlookup
  refine ⟨after, hafter, ?_⟩
  intro hconcerned
  rw [Concerned, hreported] at hconcerned
  by_cases hother : other = pid
  · rw [if_pos hother] at hinfo hconcerned
    rw [hinfo] at hconcerned ⊢
    rw [hapApp_changeTo] at hconcerned
    cases hhap : before.hapApp with
    | false => simp [NotifierInfo.reached, hhap]
    | true =>
        obtain hstate : state = .APP_STATE_FOREGROUND := by simpa [hhap] using hconcerned
        simp [NotifierInfo.reached, NotifierInfo.changeTo, hhap, hstate]
  · rw [if_neg hother] at hinfo hconcerned
    rw [hinfo] at hconcerned ⊢
    exact hreached hconcerned

theorem change_exact (world : World Remote) (state : ApplicationState) (pid : Int)
    (h : NotifierInv world) (hupToDate : UpToDate world) :
    UpToDate (step world (.OnApplicationStateChange state pid)) ↔
      UpToDateKept world (.OnApplicationStateChange state pid) := by
  have hspec := OnApplicationStateChange_spec world.mgr state pid
  constructor
  · intro hafter hpending hstate before client hbefore hclient hhap hlevel
    have hnone : changeArray world.mgr state pid = [] := by
      simp [changeArray, hbefore, hlevel]
    obtain ⟨info, hinfo⟩ : ∃ info,
        (OnApplicationStateChange world.mgr state pid).notifierMap_.lookup pid = some info := by
      rw [hspec.lookup, if_pos rfl, hbefore]
      exact ⟨_, rfl⟩
    obtain ⟨_, client', after, _, hclient', hafterClient, _, _, hreported, hknows⟩ :=
      change_lookup state pid h hinfo
    obtain rfl := Option.some.inj (hclient.symm.trans hclient')
    obtain ⟨after', hafter', hcurrent⟩ := hafter hpending pid info hinfo
    obtain rfl := Option.some.inj (hafterClient.symm.trans hafter')
    rw [hnone, if_neg List.not_mem_nil] at hknows
    rw [← hknows]
    refine (hcurrent ?_).trans hspec.level
    rw [if_pos rfl, hstate] at hreported
    exact .inr (.inr hreported)
  · intro hkept hpending other info hlookup
    obtain ⟨before, client, after, hbefore, hclient, hafter, _, hinfo, hreported, hknows⟩ :=
      change_lookup state pid h hlookup
    refine ⟨after, hafter, ?_⟩
    intro hconcerned
    refine Eq.trans ?_ hspec.level.symm
    obtain ⟨client', hclient', hcurrent⟩ := hupToDate hpending other before hbefore
    obtain rfl := Option.some.inj (hclient.symm.trans hclient')
    rw [hknows]
    split_ifs with hmem
    · rfl
    · rw [Concerned, hreported] at hconcerned
      by_cases hother : other = pid
      · subst hother
        rw [if_pos rfl] at hinfo hconcerned
        rw [hinfo, hapApp_changeTo] at hconcerned
        rw [hinfo, notifier_changeTo] at hmem
        cases hhap : before.hapApp with
        | false => exact hcurrent (.inl hhap)
        | true =>
            obtain hstate : state = .APP_STATE_FOREGROUND := by simpa [hhap] using hconcerned
            have hlevel : before.level = world.mgr.systemloadLevel_ := by
              simpa [changeArray, hbefore, hhap, hstate] using hmem
            exact hkept hpending hstate before client hbefore hclient hhap hlevel
      · rw [if_neg hother] at hinfo hconcerned
        rw [hinfo] at hconcerned
        exact hcurrent hconcerned

/-! ## Main result -/

theorem notifierInv_step (world : World Remote) (event : Event Remote) (h : NotifierInv world) :
    NotifierInv (step world event) := by
  cases event with
  | RegisterNotifier pid notifier hapApp => exact (register_keeps world pid notifier hapApp h).1
  | UnRegisterNotifier pid => exact notifierInv_of_remains (remains_erase world.mgr pid) h
  | OnRemoteNotifierDied notifier =>
      exact notifierInv_of_remains (remains_OnRemoteNotifierDied world.mgr notifier) h
  | writeLevel type level => exact (write_keeps world type level h).1
  | passLevel level =>
      rw [step]
      split_ifs
      · have hpass := pass_inv world level h
        exact ⟨hpass.handler, hpass.client⟩
      · exact h
  | OnApplicationStateChange state pid => exact change_inv world state pid h

theorem upToDate_step_iff (world : World Remote) (event : Event Remote) (h : NotifierInv world)
    (hupToDate : UpToDate world) : UpToDate (step world event) ↔ UpToDateKept world event := by
  cases event with
  | RegisterNotifier pid notifier hapApp =>
      exact iff_of_true ((register_keeps world pid notifier hapApp h).2 hupToDate) trivial
  | UnRegisterNotifier pid =>
      exact iff_of_true (upToDate_of_remains (remains_erase world.mgr pid) hupToDate) trivial
  | OnRemoteNotifierDied notifier =>
      exact iff_of_true
        (upToDate_of_remains (remains_OnRemoteNotifierDied world.mgr notifier) hupToDate) trivial
  | writeLevel type level =>
      exact iff_of_true ((write_keeps world type level h).2 hupToDate) trivial
  | passLevel level => exact pass_exact world level h hupToDate
  | OnApplicationStateChange state pid => exact change_exact world state pid h hupToDate

/-- From every content of the file, a run keeps the notifiers up to date in all its states if and
only if whenever no other change is in progress the pass that ends brings the current level to
those concerned, and an application that comes to the foreground knows the level recorded for it
when that is the current one. -/
theorem notifiers_upToDate_iff (SYSTEMLOAD_FILE : Option String) (events : List (Event Remote)) :
    Always step UpToDate (World.start SYSTEMLOAD_FILE) events ↔
      EachStep step UpToDateKept (World.start SYSTEMLOAD_FILE) events :=
  always_iff_eachStep step notifierInv_step upToDate_step_iff events
    (World.start SYSTEMLOAD_FILE) (notifierInv_start SYSTEMLOAD_FILE)
    (upToDate_start SYSTEMLOAD_FILE)

/-- An application registers while the level is `HIGH`, goes to the background, and comes back
when the level is `LOW`, the level its record starts from: nothing is delivered to it. -/
theorem notifiers_upToDate_counterexample :
    ¬ ∀ (SYSTEMLOAD_FILE : Option String) (events : List (Event Nat)),
      Always step UpToDate (World.start SYSTEMLOAD_FILE) events := by
  intro h
  have hlast := (h (some "HIGH") [.RegisterNotifier 100 (some 1) true,
    .OnApplicationStateChange .APP_STATE_BACKGROUND 100, .writeLevel SYSTEMLOAD_LEVEL 0,
    .passLevel .LOW, .OnApplicationStateChange .APP_STATE_FOREGROUND 100]).last
  obtain ⟨client, hclient, hknows⟩ := hlast (by decide) 100 ⟨1, true, true, .LOW⟩ rfl
  obtain rfl : (⟨.HIGH, none, some .APP_STATE_FOREGROUND⟩ : Client) = client :=
    Option.some.inj hclient
  exact absurd (hknows (.inr (.inr rfl))) (by decide)

end ResSched.NotifierMgr
