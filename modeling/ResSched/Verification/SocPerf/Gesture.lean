import ResSched.Library.Ledger
import ResSched.Library.Transition
import ResSched.Model.SocPerf.Gesture

/-! # Boosts of gestures and the events that end them -/

namespace ResSched.SocPerf.Gesture

open Lifecycle Focus Transition

/-! ## Requests of a run -/

/-- A request that is on or off, with the bundle name of the event it was issued for. -/
structure Issued where
  cmdId : Int
  onOffTag : Bool
  bundleName : Option String
deriving DecidableEq

def Call.issued? (bundleName : Option String) : Call → Option Issued
  | .PerfRequest _ => none
  | .PerfRequestEx cmdId onOffTag => some ⟨cmdId, onOffTag, bundleName⟩

def Event.bundleName : Event → Option String
  | .HandleEventSlide data _ _ => bundleNameString data.payload
  | .HandleEventClick data _ => bundleNameString data.payload
  | .HandleSwiperFlingEndEx _ => none
  | .focus _ => none

/-- The requests that are on or off among the calls of an event. -/
def paired (event : Event) (calls : List Call) : List Issued :=
  calls.filterMap (Call.issued? event.bundleName)

/-- The plugin beside the requests it has issued. -/
structure Watched where
  plugin : Plugin
  issued : List Issued

def Watched.start (configured : Lifecycle.Plugin) : Watched where
  plugin := Plugin.start configured
  issued := []

def Watched.step (env : Lifecycle.External) (watched : Watched) (event : Event) : Watched where
  plugin := watched.plugin.handle env event
  issued := watched.issued ++ paired event (watched.plugin.handle env event).calls

/-- A boost: the command, and the application it is for if it is for one. -/
structure Boost where
  cmdId : Int
  bundleName : Option String

/-- The request turns the boost on. -/
def Opens (boost : Boost) (request : Issued) : Prop :=
  request.cmdId = boost.cmdId ∧ request.onOffTag = true ∧
    ∀ name, boost.bundleName = some name → request.bundleName = some name

/-- The request turns the command of the boost off. -/
def Closes (boost : Boost) (request : Issued) : Prop :=
  request.cmdId = boost.cmdId ∧ request.onOffTag = false

/-- The boost was turned on, and its command has not been turned off since. -/
def Watched.Open (watched : Watched) (boost : Boost) : Prop :=
  Ledger.Outstanding (Opens boost) (Closes boost) watched.issued

/-- The boost that ends with an event. -/
def Event.ends : Event → Option Boost
  | .HandleEventSlide data _ _ =>
      if data.value = SLIDE_EVENT_OFF then some ⟨PERF_REQUEST_CMD_ID_EVENT_FLING, none⟩
      else if data.value = SLIDE_NORMAL_END then some ⟨PERF_REQUEST_CMD_ID_EVENT_DRAG, none⟩
      else none
  | .HandleEventClick data _ =>
      if data.value = TOUCH_EVENT_UP then
        (bundleNameString data.payload).map fun name =>
          ⟨PERF_REQUEST_CMD_ID_MOVE_EVENT_BOOST, some name⟩
      else none
  | .HandleSwiperFlingEndEx _ => none
  | .focus _ => none

/-- The boost that ends with an event is off once the event has been handled. -/
def Released (env : Lifecycle.External) (watched : Watched) (event : Event) : Prop :=
  ∀ boost, event.ends = some boost → ¬ (watched.step env event).Open boost

/-! ## Gates -/

/-- An event of a game, or one while a custom game is focused. -/
def gated (plugin : Plugin) (payload : Json String) : Bool :=
  (gameCanNotGet plugin payload).1 || plugin.focus.custGameState_

/-- An event that the gates let through; a click is also to be of a bundle whose signature
holds. -/
def letThrough (plugin : Plugin) : Event → Bool
  | .HandleEventSlide data _ _ => !gated plugin data.payload
  | .HandleEventClick data signed => !gated plugin data.payload && signed
  | .HandleSwiperFlingEndEx _ => true
  | .focus _ => true

/-- An event that ends a boost which is on is let through. -/
def EndsLetThrough (watched : Watched) (event : Event) : Prop :=
  ∀ boost, event.ends = some boost → watched.Open boost →
    letThrough watched.plugin event = true

/-- What a gate leaves of the plugin: a pid may have been entered. -/
theorem gameCanNotGet_snd (plugin : Plugin) (payload : Json String) :
    ∃ focus : Focus.Plugin, (gameCanNotGet plugin payload).2 = { plugin with focus := focus } ∧
      focus.custGameState_ = plugin.focus.custGameState_ := by
  rw [gameCanNotGet]
  split_ifs
  · exact ⟨plugin.focus, rfl, rfl⟩
  · rw [IsGameEvent]
    dsimp only
    split_ifs
    · exact ⟨plugin.focus, rfl, rfl⟩
    · cases plugin.focus.pidToAppTypeMap_.lookup (GetPidByData payload CLIENT_PID_NAME) with
      | some appType => exact ⟨plugin.focus, rfl, rfl⟩
      | none => exact ⟨_, rfl, rfl⟩
  · exact ⟨plugin.focus, rfl, rfl⟩

theorem unlessGame_eq (handle : Plugin → Plugin) (plugin : Plugin) (payload : Json String) :
    unlessGame handle plugin payload =
      if gated plugin payload then (gameCanNotGet plugin payload).2
      else handle (gameCanNotGet plugin payload).2 := by
  obtain ⟨focus, hafter, hcust⟩ := gameCanNotGet_snd plugin payload
  have hstate : (gameCanNotGet plugin payload).2.focus.custGameState_ =
      plugin.focus.custGameState_ := by
    rw [hafter]
    exact hcust
  rw [gated, unlessGame]
  dsimp only
  rw [hstate]
  cases (gameCanNotGet plugin payload).1 with
  | true => rfl
  | false => rfl

/-! ## Calls of a handler -/

/-- A handler keeps the configured names and adds calls, and those for moves only on a payload
that names a configured application. -/
structure Adds (payload : Json String) (plugin plugin' : Plugin) : Prop where
  names : plugin'.appNameMoveEvent_ = plugin.appNameMoveEvent_
  calls : ∃ more, plugin'.calls = plugin.calls ++ more ∧
    ∀ onOffTag, .PerfRequestEx PERF_REQUEST_CMD_ID_MOVE_EVENT_BOOST onOffTag ∈ more →
      ∀ name, bundleNameString payload = some name → name ∈ plugin.appNameMoveEvent_

theorem Adds.of_no_call {payload : Json String} {plugin plugin' : Plugin}
    (hnames : plugin'.appNameMoveEvent_ = plugin.appNameMoveEvent_)
    (hcalls : plugin'.calls = plugin.calls) : Adds payload plugin plugin' where
  names := hnames
  calls := by
    refine ⟨[], ?_, ?_⟩
    · rw [hcalls, List.append_nil]
    · intro onOffTag hmem
      exact absurd hmem List.not_mem_nil

theorem Adds.refl (payload : Json String) (plugin : Plugin) : Adds payload plugin plugin :=
  Adds.of_no_call rfl rfl

theorem Adds.trans {payload : Json String} {plugin plugin' plugin'' : Plugin}
    (h : Adds payload plugin plugin') (h' : Adds payload plugin' plugin'') :
    Adds payload plugin plugin'' where
  names := h'.names.trans h.names
  calls := by
    obtain ⟨more, hmore, hlisted⟩ := h.calls
    obtain ⟨more', hmore', hlisted'⟩ := h'.calls
    refine ⟨more ++ more', ?_, ?_⟩
    · rw [hmore', hmore, List.append_assoc]
    · intro onOffTag hmem name hname
      rcases List.mem_append.mp hmem with hmem | hmem
      · exact hlisted onOffTag hmem name hname
      · rw [← h.names]
        exact hlisted' onOffTag hmem name hname

theorem adds_call (payload : Json String) (plugin : Plugin) (call : Call)
    (h : ∀ onOffTag, call = .PerfRequestEx PERF_REQUEST_CMD_ID_MOVE_EVENT_BOOST onOffTag →
      ∀ name, bundleNameString payload = some name → name ∈ plugin.appNameMoveEvent_) :
    Adds payload plugin (plugin.call call) where
  names := rfl
  calls := by
    refine ⟨[call], rfl, ?_⟩
    intro onOffTag hmem
    exact h onOffTag (List.mem_singleton.mp hmem).symm

theorem adds_handleMoveEventBoost (plugin : Plugin) (payload : Json String)
    (signed isSet : Bool) :
    Adds payload plugin (HandleMoveEventBoost plugin payload signed isSet) := by
  rw [HandleMoveEventBoost]
  cases hbundle : bundleNameString payload with
  | none => exact Adds.refl payload plugin
  | some bundleName =>
      dsimp only
      split_ifs with hlisted
      · refine adds_call payload plugin _ fun onOffTag _ name hname => ?_
        rw [hbundle] at hname
        obtain rfl := Option.some.inj hname
        exact hlisted.1
      · exact Adds.refl payload plugin

theorem adds_handleContinuousDrag (payload : Json String) (plugin : Plugin) (dragStatus : Int)
    (curMs : Nat) : Adds payload plugin (HandleContinuousDrag plugin dragStatus curMs) := by
  have hdrag : ∀ (plugin' : Plugin) (onOffTag : Bool),
      plugin'.appNameMoveEvent_ = plugin.appNameMoveEvent_ → plugin'.calls = plugin.calls →
        Adds payload plugin
          (plugin'.call (.PerfRequestEx PERF_REQUEST_CMD_ID_EVENT_DRAG onOffTag)) := by
    intro plugin' onOffTag hnames hcalls
    refine (Adds.of_no_call hnames hcalls).trans (adds_call payload plugin' _ ?_)
    intro onOffTag' heq
    cases heq
  rw [HandleContinuousDrag]
  dsimp only
  split_ifs
  · exact Adds.refl payload plugin
  · exact hdrag _ false rfl rfl
  · exact hdrag _ true rfl rfl
  · exact Adds.of_no_call rfl rfl

theorem adds_unlessGame {handle : Plugin → Plugin} {payload : Json String}
    (h : ∀ plugin, Adds payload plugin (handle plugin)) (plugin : Plugin) :
    Adds payload plugin (unlessGame handle plugin payload) := by
  have hgate : Adds payload plugin (gameCanNotGet plugin payload).2 := by
    obtain ⟨focus, hafter, -⟩ := gameCanNotGet_snd plugin payload
    rw [hafter]
    exact Adds.of_no_call rfl rfl
  rw [unlessGame_eq]
  split_ifs
  · exact hgate
  · exact hgate.trans (h _)

theorem adds_handleEventClick (plugin : Plugin) (data : ResData) (signed : Bool) :
    Adds data.payload plugin (HandleEventClick plugin data signed) := by
  have hcall : ∀ (plugin : Plugin) (cmdId : Int),
      Adds data.payload plugin (plugin.call (.PerfRequest cmdId)) := by
    intro plugin cmdId
    exact adds_call data.payload plugin _ (by rintro _ ⟨⟩)
  refine adds_unlessGame (fun plugin => ?_) plugin
  split_ifs
  · exact hcall plugin _
  · exact hcall plugin _
  · exact (hcall plugin _).trans (adds_handleMoveEventBoost _ data.payload signed false)
  · exact hcall plugin _
  · exact Adds.refl data.payload plugin

theorem adds_handleEventSlide (plugin : Plugin) (data : ResData) (signed : Bool) (curMs : Nat) :
    Adds data.payload plugin (HandleEventSlide plugin data signed curMs) := by
  have hfling : ∀ (plugin : Plugin) (onOffTag : Bool), Adds data.payload plugin
      (plugin.call (.PerfRequestEx PERF_REQUEST_CMD_ID_EVENT_FLING onOffTag)) := by
    intro plugin onOffTag
    refine adds_call data.payload plugin _ ?_
    intro onOffTag' heq
    cases heq
  have hdrag : ∀ plugin : Plugin,
      Adds data.payload plugin (HandleContinuousDrag plugin data.value curMs) :=
    fun plugin => adds_handleContinuousDrag data.payload plugin data.value curMs
  refine adds_unlessGame (fun plugin => ?_) plugin
  split_ifs
  · exact hfling plugin true
  · exact hfling plugin false
  · exact hfling plugin false
  · exact Adds.refl data.payload plugin
  · exact hdrag plugin
  · exact hdrag plugin
  · exact (adds_handleMoveEventBoost plugin data.payload signed true).trans (hdrag _)
  · exact Adds.refl data.payload plugin

/-! ## Listed requests -/

/-- The requests for moves that name an application name a configured one. -/
def Listed (watched : Watched) : Prop :=
  ∀ request ∈ watched.issued, request.cmdId = PERF_REQUEST_CMD_ID_MOVE_EVENT_BOOST →
    ∀ name, request.bundleName = some name → name ∈ watched.plugin.appNameMoveEvent_

theorem mem_paired {event : Event} {calls : List Call} {request : Issued}
    (h : request ∈ paired event calls) :
    .PerfRequestEx request.cmdId request.onOffTag ∈ calls ∧
      request.bundleName = event.bundleName := by
  obtain ⟨call, hmem, hissued⟩ := List.mem_filterMap.mp h
  cases call with
  | PerfRequest cmdId => cases hissued
  | PerfRequestEx cmdId onOffTag =>
      obtain rfl := Option.some.inj hissued
      exact ⟨hmem, rfl⟩

theorem Listed.of_adds {watched : Watched} {event : Event} {payload : Json String}
    {plugin' : Plugin} (h : Listed watched)
    (hadds : Adds payload { watched.plugin with calls := [] } plugin')
    (hbundle : event.bundleName = bundleNameString payload) :
    Listed ⟨plugin', watched.issued ++ paired event plugin'.calls⟩ := by
  obtain ⟨more, hmore, hlisted⟩ := hadds.calls
  intro request hmem hmove name hname
  show name ∈ plugin'.appNameMoveEvent_
  rw [hadds.names]
  rcases List.mem_append.mp hmem with hmem | hmem
  · exact h request hmem hmove name hname
  · obtain ⟨hcall, howner⟩ := mem_paired hmem
    rw [hmove, hmore] at hcall
    refine hlisted request.onOffTag hcall name ?_
    rw [← hbundle, ← howner]
    exact hname

theorem listed_step (env : Lifecycle.External) (watched : Watched) (event : Event)
    (h : Listed watched) : Listed (watched.step env event) := by
  cases event with
  | HandleEventSlide data signed curMs =>
      exact h.of_adds (adds_handleEventSlide _ data signed curMs) rfl
  | HandleEventClick data signed => exact h.of_adds (adds_handleEventClick _ data signed) rfl
  | HandleSwiperFlingEndEx data =>
      show Listed ⟨_, watched.issued ++ []⟩
      rw [List.append_nil]
      exact h
  | focus event =>
      show Listed ⟨_, watched.issued ++ []⟩
      rw [List.append_nil]
      exact h

/-! ## What an event does that ends a boost -/

@[simp] theorem appNameMoveEvent_call (plugin : Plugin) (call : Call) :
    (plugin.call call).appNameMoveEvent_ = plugin.appNameMoveEvent_ :=
  rfl

theorem gated_withCalls (plugin : Plugin) (calls : List Call) (payload : Json String) :
    gated { plugin with calls := calls } payload = gated plugin payload := by
  have hgame : (gameCanNotGet { plugin with calls := calls } payload).1 =
      (gameCanNotGet plugin payload).1 := by
    rw [gameCanNotGet, gameCanNotGet]
    dsimp only
    split_ifs
    · rfl
    · rw [IsGameEvent, IsGameEvent]
      dsimp only
      split_ifs
      · rfl
      · cases plugin.focus.pidToAppTypeMap_.lookup (GetPidByData payload CLIENT_PID_NAME) <;> rfl
    · rfl
  rw [gated, gated, hgame]

theorem paired_unlessGame {handle : Plugin → Plugin} {event : Event} {requests : List Issued}
    (plugin : Plugin) (payload : Json String)
    (h : ∀ plugin' : Plugin, plugin'.calls = [] →
      plugin'.appNameMoveEvent_ = plugin.appNameMoveEvent_ →
        paired event (handle plugin').calls = requests) :
    paired event (unlessGame handle { plugin with calls := [] } payload).calls =
      if gated plugin payload then [] else requests := by
  obtain ⟨focus, hafter, -⟩ := gameCanNotGet_snd { plugin with calls := [] } payload
  rw [unlessGame_eq, gated_withCalls, hafter]
  split_ifs
  · rfl
  · exact h _ rfl rfl

theorem paired_slideOff (plugin : Plugin) (data : ResData) (signed : Bool) (curMs : Nat)
    (hvalue : data.value = SLIDE_EVENT_OFF) :
    paired (.HandleEventSlide data signed curMs)
        (HandleEventSlide { plugin with calls := [] } data signed curMs).calls =
      if gated plugin data.payload then []
      else [⟨PERF_REQUEST_CMD_ID_EVENT_FLING, false, bundleNameString data.payload⟩] := by
  refine paired_unlessGame plugin data.payload fun plugin' hcalls _ => ?_
  rw [if_neg (by rw [hvalue]; decide), if_pos hvalue, Plugin.call, hcalls]
  rfl

theorem paired_slideNormalEnd (plugin : Plugin) (data : ResData) (signed : Bool) (curMs : Nat)
    (hvalue : data.value = SLIDE_NORMAL_END) :
    paired (.HandleEventSlide data signed curMs)
        (HandleEventSlide { plugin with calls := [] } data signed curMs).calls =
      if gated plugin data.payload then []
      else [⟨PERF_REQUEST_CMD_ID_EVENT_DRAG, false, bundleNameString data.payload⟩] := by
  refine paired_unlessGame plugin data.payload fun plugin' hcalls _ => ?_
  have hmove : ¬(plugin'.lastStatus = SLIDE_NORMAL_END ∧ SLIDE_NORMAL_END = MOVE_EVENT_ON) := by
    rintro ⟨-, heq⟩
    exact absurd heq (by decide)
  rw [hvalue, if_neg (by decide), if_neg (by decide), if_neg (by decide), if_neg (by decide),
    if_pos rfl, HandleContinuousDrag, if_neg hmove, if_pos rfl, Plugin.call, hcalls]
  rfl

theorem paired_touchUp (plugin : Plugin) (data : ResData) (signed : Bool) (name : String)
    (hvalue : data.value = TOUCH_EVENT_UP) (hname : bundleNameString data.payload = some name) :
    paired (.HandleEventClick data signed)
        (HandleEventClick { plugin with calls := [] } data signed).calls =
      if gated plugin data.payload then []
      else if name ∈ plugin.appNameMoveEvent_ ∧ signed then
        [⟨PERF_REQUEST_CMD_ID_MOVE_EVENT_BOOST, false, some name⟩]
      else [] := by
  refine paired_unlessGame plugin data.payload fun plugin' hcalls hnames => ?_
  rw [hvalue, if_neg (by decide), if_neg (by decide), if_pos rfl, HandleMoveEventBoost, hname,
    ← hnames]
  dsimp only
  rw [appNameMoveEvent_call]
  by_cases hlisted : name ∈ plugin'.appNameMoveEvent_ ∧ signed
  · rw [if_pos hlisted, if_pos hlisted, ← hname, Plugin.call, Plugin.call, hcalls]
    rfl
  · rw [if_neg hlisted, if_neg hlisted, Plugin.call, hcalls]
    rfl

/-- Whether the plugin knows the application a boost is for. -/
def knows (plugin : Plugin) (boost : Boost) : Bool :=
  match boost.bundleName with
  | none => true
  | some name => name ∈ plugin.appNameMoveEvent_

/-- An event that ends a boost turns its command off if it is let through, and issues nothing
else that is on or off. -/
theorem paired_of_ends (env : Lifecycle.External) (plugin : Plugin) {event : Event}
    {boost : Boost} (hends : event.ends = some boost) :
    paired event (plugin.handle env event).calls =
      if letThrough plugin event && knows plugin boost then
        [⟨boost.cmdId, false, event.bundleName⟩]
      else [] := by
  cases event with
  | HandleEventSlide data signed curMs =>
      simp only [Event.ends] at hends
      split_ifs at hends with hoff hend
      · obtain rfl := Option.some.inj hends
        refine (paired_slideOff plugin data signed curMs hoff).trans ?_
        rw [letThrough]
        cases gated plugin data.payload <;> rfl
      · obtain rfl := Option.some.inj hends
        refine (paired_slideNormalEnd plugin data signed curMs hend).trans ?_
        rw [letThrough]
        cases gated plugin data.payload <;> rfl
  | HandleEventClick data signed =>
      simp only [Event.ends] at hends
      split_ifs at hends with hup
      obtain ⟨name, hname, rfl⟩ := Option.map_eq_some_iff.mp hends
      refine (paired_touchUp plugin data signed name hup hname).trans ?_
      rw [letThrough, knows, Event.bundleName, hname]
      cases gated plugin data.payload with
      | true => rfl
      | false =>
          rw [if_neg Bool.false_ne_true]
          simp only [Bool.not_false, Bool.true_and, Bool.and_eq_true, decide_eq_true_eq, and_comm]
  | HandleSwiperFlingEndEx data => cases hends
  | focus event => cases hends

/-- A boost that is for an application is one of its moves. -/
theorem cmdId_of_ends {event : Event} {boost : Boost} (hends : event.ends = some boost)
    (hname : boost.bundleName ≠ none) : boost.cmdId = PERF_REQUEST_CMD_ID_MOVE_EVENT_BOOST := by
  cases event with
  | HandleEventSlide data signed curMs =>
      simp only [Event.ends] at hends
      split_ifs at hends
      · obtain rfl := Option.some.inj hends
        exact absurd rfl hname
      · obtain rfl := Option.some.inj hends
        exact absurd rfl hname
  | HandleEventClick data signed =>
      simp only [Event.ends] at hends
      split_ifs at hends
      obtain ⟨name, -, rfl⟩ := Option.map_eq_some_iff.mp hends
      rfl
  | HandleSwiperFlingEndEx data => cases hends
  | focus event => cases hends

/-- A boost that is on and ends with an event is for no application or for one the plugin
knows. -/
theorem knows_of_open {watched : Watched} (hlisted : Listed watched) {event : Event}
    {boost : Boost} (hends : event.ends = some boost) (hopen : watched.Open boost) :
    knows watched.plugin boost = true := by
  obtain ⟨request, hmem, hcmd, -, howner⟩ := Ledger.Outstanding.exists_opens hopen
  rw [knows]
  cases hname : boost.bundleName with
  | none => rfl
  | some name =>
      have hmove := cmdId_of_ends hends (by rw [hname]; exact Option.some_ne_none name)
      exact decide_eq_true
        (hlisted request hmem (hcmd.trans hmove) name (howner name hname))

/-- A step releases the boost its event ends exactly when it lets the event through. -/
theorem released_iff (env : Lifecycle.External) (watched : Watched) (event : Event)
    (hlisted : Listed watched) :
    Released env watched event ↔ EndsLetThrough watched event := by
  refine forall_congr' fun boost => forall_congr' fun hends => ?_
  have hnew : ∀ request ∈ paired event (watched.plugin.handle env event).calls,
      Closes boost request := by
    rw [paired_of_ends env watched.plugin hends]
    intro request hmem
    split_ifs at hmem
    · rw [List.mem_singleton.mp hmem]
      exact ⟨rfl, rfl⟩
    · exact absurd hmem List.not_mem_nil
  have hstep : (watched.step env event).Open boost ↔
      watched.Open boost ∧ paired event (watched.plugin.handle env event).calls = [] := by
    refine (Ledger.outstanding_append_iff_of_no_opens ?_).trans (and_congr_right fun _ => ?_)
    · rintro request hmem ⟨-, hon, -⟩
      exact Bool.false_ne_true ((hnew request hmem).2.symm.trans hon)
    · rw [List.eq_nil_iff_forall_not_mem]
      exact forall_congr' fun request =>
        ⟨fun h hmem => h hmem (hnew request hmem), fun h hmem => absurd hmem h⟩
  rw [hstep, not_and, paired_of_ends env watched.plugin hends]
  refine forall_congr' fun hopen => ?_
  rw [knows_of_open hlisted hends hopen, Bool.and_true]
  cases letThrough watched.plugin event with
  | true => exact iff_of_true (List.cons_ne_nil _ _) rfl
  | false => exact iff_of_false (fun h => h rfl) Bool.false_ne_true

/-- In a run, every event that ends a boost leaves it off if and only if every one that arrives
while its boost is on is let through. -/
theorem released_runs_iff (env : Lifecycle.External) (build : Build) (reader : ConfigReader)
    (mgr : ResSched.Plugin.PluginMgr) (events : List Event) :
    EachStep (Watched.step env) (Released env)
        (Watched.start (Lifecycle.Init env build ⟨.created, reader, mgr⟩).plugin) events ↔
      EachStep (Watched.step env) EndsLetThrough
        (Watched.start (Lifecycle.Init env build ⟨.created, reader, mgr⟩).plugin) events := by
  refine eachStep_iff_of_invariant (Watched.step env) (R := Listed)
    (fun watched event h => released_iff env watched event h)
    (fun watched event h _ => listed_step env watched event h) events _ ?_
  intro request hmem
  exact absurd hmem List.not_mem_nil

/-- A slide that begins before a custom game gets the focus and ends after it. -/
def slideIntoGame : List Event :=
  [.HandleEventSlide ⟨SLIDE_EVENT_ON, .null⟩ true 0,
    .focus (.HandleGameStateChange ⟨GAME_GEE_FOCUS_STATE,
      .object [(UID_NAME, .int 20010042), (GAME_ENV, .int GAME_CUST)]⟩),
    .HandleEventSlide ⟨SLIDE_EVENT_OFF, .null⟩ true 100]

/-- The end of the slide is kept back, and the fling boost stays on. -/
theorem released_counterexample :
    ¬ ∀ (env : Lifecycle.External) (build : Build) (reader : ConfigReader)
      (mgr : ResSched.Plugin.PluginMgr) (events : List Event),
      EachStep (Watched.step env) (Released env)
        (Watched.start (Lifecycle.Init env build ⟨.created, reader, mgr⟩).plugin) events := by
  intro h
  have hreleased := h ⟨fun _ => false, fun _ _ => none, fun _ => "", fun _ => true⟩
    ⟨false, false, false⟩ ⟨∅⟩ (ResSched.Plugin.PluginMgr.initialised true) slideIntoGame
    (slideIntoGame.take 2) _ (List.prefix_refl _) ⟨PERF_REQUEST_CMD_ID_EVENT_FLING, none⟩ rfl
  refine hreleased ⟨[], ⟨PERF_REQUEST_CMD_ID_EVENT_FLING, true, none⟩, [], ?_, ?_, ?_⟩
  · decide
  · exact ⟨rfl, rfl, by rintro _ ⟨⟩⟩
  · exact fun later hmem => absurd hmem List.not_mem_nil

end ResSched.SocPerf.Gesture
