import ResSched.Model.Plugin.Repair
import ResSched.Model.Plugin.Subscription
import ResSched.Model.SocPerf.Battery
import ResSched.Model.SocPerf.Focus

/-! # Initialising and disabling the SocPerf plugin -/

namespace ResSched.SocPerf.Lifecycle

open CLibrary Focus

def LIB_NAME : String := "libsocperf_plugin.z.so"
def PLUGIN_NAME : String := "SOCPERF"

def CONFIG_NAME_SOCPERF_EVENT_ID : String := "socperfEventId"
def SPECIAL_EXTENSION_STRING : String := "specialExtension"
def CONFIG_NAME_SOCPERF_FEATURE_SWITCH : String := "socperfFeatureSwitch"
def CNOFIG_NAME_SOCPERF_CRUCIAL_FUNC : String := "socperfCrucialFunc"
def CONFIG_NAME_SOCPERF_BUNDLE_NAME_BOOST_LIST : String := "socperfBundleNameBoostList"
def WEAK_ACTION_STRING : String := "weakInterAction"
def CONFIG_NAME_SOCPERF_BATTERY_CAPACITY_LIMIT_FREQ : String := "socperfBatteryCapacityLimitFreq"
def CONFIG_NAME_SOCPERF_POLICY_MODE : String := "socperfPolicyMode"
def CONFIG_NAME_SOCPERF_LIMIT_POLICY : String := "limitPolicy"

def SOCPERF_TYPE_ID : String := "socperf_type_id"
def SOCPERF_TYPE_RGM : String := "socperf_type_rgm"
def INFO_STRING : String := "info"
def CALLER_BUNDLE_NAME : String := "callerBundleName"
def SUB_ITEM_KEY_NAME_SOCPERF_GAME_BOOST : String := "socperf_game_boost"
def SUB_ITEM_KEY_NAME_SOCPERF_RERQ_APPTYPE_PATH : String := "socperf_req_apptype_path"
def SUB_ITEM_KEY_NAME_SOCPERF_RERQ_APPTYPE_FUNC : String := "socperf_req_apptype_func"
def SUB_ITEM_KEY_NAME_APP_USE_CAMERA_BOOST : String := "app_use_camera_boost"
def SUB_ITEM_KEY_NAME_APP_MOVE_EVENT_BOOST : String := "app_move_event_boost"

def TOUCH_EVENT_DOWN : Int := 1
def CLICK_EVENT : Int := 2
def TOUCH_EVENT_UP : Int := 3
def TOUCH_EVENT_DOWN_MMI : Int := 5
def LOAD_PAGE_START : Int := 0
def LOAD_PAGE_COMPLETE : Int := 1
def SLIDE_EVENT_OFF : Int := 0
def SLIDE_EVENT_ON : Int := 1
def SLIDE_NORMAL_BEGIN : Int := 3
def SLIDE_NORMAL_END : Int := 4
def MOVE_EVENT_ON : Int := 7
def SWIPER_FLING_END : Int := 8
def BMM_CLOSE : Int := 0
def BMM_BACKGROUND : Int := 2
def ANIMATION_BEGIN : Int := 0
def ANIMATION_END : Int := 1

/-! ## Event types and handlers -/

def RES_TYPE_WINDOW_FOCUS : Nat := 5
def RES_TYPE_CLICK_RECOGNIZE : Nat := 9
def RES_TYPE_LOAD_PAGE : Nat := 34
def RES_TYPE_SLIDE_RECOGNIZE : Nat := 11
def RES_TYPE_WEB_GESTURE : Nat := 29
def RES_TYPE_POP_PAGE : Nat := 28
def RES_TYPE_APP_ABILITY_START : Nat := 27
def RES_TYPE_RESIZE_WINDOW : Nat := 31
def RES_TYPE_MOVE_WINDOW : Nat := 32
def RES_TYPE_SHOW_REMOTE_ANIMATION : Nat := 33
def RES_TYPE_DRAG_STATUS_BAR : Nat := 37
def RES_TYPE_WEB_GESTURE_MOVE : Nat := 42
def RES_TYPE_WEB_SLIDE_NORMAL : Nat := 43
def RES_TYPE_LOAD_URL : Nat := 44
def RES_TYPE_MOUSEWHEEL : Nat := 45
def RES_TYPE_APP_STATE_CHANGE : Nat := 1
def RES_TYPE_DEVICE_MODE_STATUS : Nat := 88
def RES_TYPE_ACCOUNT_ACTIVATING : Nat := 96
def RES_TYPE_WEB_DRAG_RESIZE : Nat := 90
def RES_TYPE_FILE_COPY_STATUS : Nat := 139
def RES_TYPE_WEB_SLIDE_SCROLL : Nat := 127
def RES_TYPE_ANCO_CUST : Nat := 48
def RES_TYPE_SOCPERF_CUST_EVENT_BEGIN : Nat := 67
def RES_TYPE_SOCPERF_CUST_EVENT_END : Nat := 68
def RES_TYPE_SOCPERF_CUST_ACTION : Nat := 149
def RES_TYPE_ONLY_PERF_APP_COLD_START : Nat := 104
def RES_TYPE_SCENE_ROTATION : Nat := 105
def RES_TYPE_BMM_MONITER_CHANGE_EVENT : Nat := 113
def RES_TYPE_POWER_MODE_CHANGED : Nat := 92
def RES_TYPE_SCREEN_STATUS : Nat := 0
def RES_TYPE_APP_GAME_BOOST_EVENT : Nat := 120
def RES_TYPE_KEY_EVENT : Nat := 122
def RES_TYPE_MMI_INPUT_POWER_KEY : Nat := 117
def RES_TYPE_CROWN_ROTATION_STATUS : Nat := 129
def RES_TYPE_APP_INSTALL_UNINSTALL : Nat := 15
def RES_TYPE_PROCESS_STATE_CHANGE : Nat := 4
def RES_TYPE_REPORT_CAMERA_STATE : Nat := 35
def RES_TYPE_REPORT_GAME_STATE_CHANGE : Nat := 148
def RES_TYPE_RECENT_BUILD : Nat := 150
def RES_TYPE_DEVICE_ORIENTATION_STATUS : Nat := 152
def RES_TYPE_REPORT_BATTERY_STATUS_CHANGE : Nat := 155
def RES_TYPE_SCHED_MODE_CHANGE : Nat := 163
def RES_TYPE_RSS_CLOUD_CONFIG_UPDATE : Nat := 115
def RES_TYPE_SYSTEM_ABILITY_STATUS_CHANGE : Nat := 108
def RES_TYPE_DISPLAY_POWER_WAKE_UP : Nat := 509
def RES_TYPE_SWIPER_FLING_END_EXCEPTION_FLAG : Nat := 183
def RES_TYPE_HIGH_FREQUENCE_LOAD_SCENE_WITHOUT_AGGREGATION : Nat := 146
def RES_TYPE_OOBE_CLONE : Nat := 197
def RES_TYPE_CREATE_LIVING_APP_PROCESS : Nat := 198
def RES_TYPE_SOCPERF_PERFORMANCE_MODE_CHANGED : Nat := 213

/-- The handlers of `DispatchResource`. -/
inductive Handler where
  | HandleWindowFocus
  | HandleEventClick
  | HandleLoadPage
  | HandleEventSlide
  | HandleEventWebGesture
  | HandlePopPage
  | HandleAppAbilityStart
  | HandleResizeWindow
  | HandleMoveWindow
  | HandleRemoteAnimation
  | HandleDragStatusBar
  | HandleWebGestureMove
  | HandleWebSlideNormal
  | HandleLoadUrl
  | HandleMousewheel
  | HandleAppStateChange
  | HandleDeviceModeStatusChange
  | HandleSocperfAccountActivating
  | HandleWebDragResize
  | HandleFileCopyStatus
  | HandleWebSildeScroll
  | HandleCustEvent
  | HandleCustEventBegin
  | HandleCustEventEnd
  | HandleCustAction
  | HandleAppColdStartEx
  | HandleSceneRotation
  | HandleBmmMoniterStatus
  | HandlePowerModeChanged
  | HandleScreenStatusAnalysis
  | HandleGameBoost
  | HandleEventKey
  | HandlePowerEventKey
  | HandleCrownRotation
  | HandleUninstallEvent
  | HandleProcessStateChange
  | HandleCameraStateChange
  | HandleGameStateChange
  | HandleSocperfSceneBoard
  | HandleRgmBootingStatus
  | HandleRecentBuild
  | HandleDeviceOrientationStatusChange
  | HandleBatteryStatusChange
  | HandleSchedModeChange
  | HandleRssCloudConfigUpdate
  | ReportAbilityStatus
  | HandleDisplayPowerWakeUp
  | HandleSwiperFlingEndEx
  | HandleLiveBroadcast
  | HandleOobeClone
  | HandleResTypeCreateLivingApp
  | HandlePerformanceModeChange
deriving DecidableEq

/-- The build switches of the plugin. -/
structure Build where
  CUST_SOC_PERF_ENABLE : Bool
  FILE_COPY_SOC_PERF_ENABLE : Bool
  CROWN_POWER_KEY_ENABLE : Bool

/-- What the plugin gets from elsewhere: the loader of libraries, the bundle manager and the
validator of signatures. -/
structure External where
  dlopen : String → Bool
  dlsym : String → String → Option (String → Int)
  GetBundleNameByUid : Int → String
  CheckSignatureByBundleName : String → Bool

/-- The fields of `SocPerfPlugin` that `Init` sets; a `std::set` that is iterated is the list of
its members. `handle_` is the library that is open. -/
structure Plugin where
  RES_TYPE_SCENE_BOARD_ID : Int
  RES_TYPE_RGM_BOOTING_STATUS : Int
  resTypes : List Nat
  resTypeWithVal_ : List (Nat × Int)
  functionMap : AssocMap Nat Handler
  specialExtensionMap_ : AssocMap String (Finset String)
  socperfGameBoostSwitch_ : Bool
  perfReqAppTypeSoPath_ : String
  perfReqAppTypeSoFunc_ : String
  handle_ : Option String
  reqAppTypeFunc_ : Option (String → Int)
  appNameUseCamera_ : Finset String
  appNameMoveEvent_ : Finset String
  focus : Focus.Plugin
  battery : Battery.Plugin

def Plugin.created : Plugin where
  RES_TYPE_SCENE_BOARD_ID := 0
  RES_TYPE_RGM_BOOTING_STATUS := 0
  resTypes := []
  resTypeWithVal_ := []
  functionMap := ∅
  specialExtensionMap_ := ∅
  socperfGameBoostSwitch_ := false
  perfReqAppTypeSoPath_ := ""
  perfReqAppTypeSoFunc_ := ""
  handle_ := none
  reqAppTypeFunc_ := none
  appNameUseCamera_ := ∅
  appNameMoveEvent_ := ∅
  focus := Focus.Plugin.created
  battery := Battery.Plugin.created

/-- The plugin beside the part of `PluginMgr` it uses. -/
structure System where
  plugin : Plugin
  reader : ConfigReader
  mgr : ResSched.Plugin.PluginMgr

/-- All sub items of a configuration, in order. -/
def subItems (itemLists : PluginConfig) : List SubItem :=
  itemLists.itemList.flatMap Item.subItemList

/-- A sub-initialiser: read a configuration, load it, and remove it. -/
def System.initFrom (configName : String) (load : Plugin → PluginConfig → Plugin)
    (system : System) : System :=
  { system with
    plugin := load system.plugin (system.reader.GetConfig PLUGIN_NAME configName)
    reader := system.reader.RemoveConfig PLUGIN_NAME configName }

/-! ## Event ids, types and the handler map -/

def loadEventId (plugin : Plugin) (itemLists : PluginConfig) : Plugin :=
  (subItems itemLists).foldl (fun plugin sub =>
    if sub.name = SOCPERF_TYPE_ID then { plugin with RES_TYPE_SCENE_BOARD_ID := atoi sub.value }
    else if sub.name = SOCPERF_TYPE_RGM then
      { plugin with RES_TYPE_RGM_BOOTING_STATUS := atoi sub.value }
    else plugin) plugin

def InitEventId : System → System :=
  System.initFrom CONFIG_NAME_SOCPERF_EVENT_ID loadEventId

/-- The types of an id that is configured. -/
def configuredType (id : Int) : List Nat :=
  if id ≠ 0 then [toUnsigned 32 id] else []

/-- The types `InitResTypes` starts with. -/
def resTypesOf (build : Build) : List Nat :=
  [RES_TYPE_KEY_EVENT, RES_TYPE_WEB_GESTURE, RES_TYPE_POP_PAGE, RES_TYPE_APP_ABILITY_START,
   RES_TYPE_RESIZE_WINDOW, RES_TYPE_MOVE_WINDOW, RES_TYPE_SHOW_REMOTE_ANIMATION,
   RES_TYPE_DRAG_STATUS_BAR, RES_TYPE_WEB_GESTURE_MOVE, RES_TYPE_WEB_SLIDE_NORMAL,
   RES_TYPE_LOAD_URL, RES_TYPE_MOUSEWHEEL, RES_TYPE_DEVICE_MODE_STATUS,
   RES_TYPE_ACCOUNT_ACTIVATING, RES_TYPE_DEVICE_ORIENTATION_STATUS] ++
  (if build.CUST_SOC_PERF_ENABLE then
    [RES_TYPE_ANCO_CUST, RES_TYPE_SOCPERF_CUST_EVENT_BEGIN, RES_TYPE_SOCPERF_CUST_EVENT_END,
     RES_TYPE_SOCPERF_CUST_ACTION]
  else []) ++
  [RES_TYPE_ONLY_PERF_APP_COLD_START, RES_TYPE_SCENE_ROTATION, RES_TYPE_POWER_MODE_CHANGED,
   RES_TYPE_SCREEN_STATUS, RES_TYPE_APP_GAME_BOOST_EVENT, RES_TYPE_MMI_INPUT_POWER_KEY,
   RES_TYPE_CROWN_ROTATION_STATUS, RES_TYPE_WEB_DRAG_RESIZE, RES_TYPE_REPORT_CAMERA_STATE,
   RES_TYPE_REPORT_GAME_STATE_CHANGE] ++
  (if build.FILE_COPY_SOC_PERF_ENABLE then [RES_TYPE_FILE_COPY_STATUS] else []) ++
  [RES_TYPE_WEB_SLIDE_SCROLL, RES_TYPE_DISPLAY_POWER_WAKE_UP,
   RES_TYPE_SWIPER_FLING_END_EXCEPTION_FLAG,
   RES_TYPE_HIGH_FREQUENCE_LOAD_SCENE_WITHOUT_AGGREGATION, RES_TYPE_OOBE_CLONE,
   RES_TYPE_SOCPERF_PERFORMANCE_MODE_CHANGED]

/-- The types `InitOtherResTypes` adds. -/
def otherResTypes (plugin : Plugin) : List Nat :=
  [RES_TYPE_REPORT_BATTERY_STATUS_CHANGE, RES_TYPE_RECENT_BUILD, RES_TYPE_SCHED_MODE_CHANGE,
   RES_TYPE_RSS_CLOUD_CONFIG_UPDATE, RES_TYPE_SYSTEM_ABILITY_STATUS_CHANGE,
   RES_TYPE_CREATE_LIVING_APP_PROCESS] ++
  configuredType plugin.RES_TYPE_SCENE_BOARD_ID ++
  configuredType plugin.RES_TYPE_RGM_BOOTING_STATUS

def InitResTypes (build : Build) (plugin : Plugin) : Plugin :=
  { plugin with
    resTypes := (otherResTypes plugin).foldl (fun resTypes resType => resTypes.insert resType)
      (resTypesOf build) }

/-- The pairs of the scene board, once its id is configured. -/
def sceneBoardPairs (id : Int) : List (Nat × Int) :=
  if id ≠ 0 then [(toUnsigned 32 id, ANIMATION_BEGIN), (toUnsigned 32 id, ANIMATION_END)] else []

def InitResTypeWithVal (plugin : Plugin) : Plugin :=
  { plugin with
    resTypeWithVal_ :=
      (sceneBoardPairs plugin.RES_TYPE_SCENE_BOARD_ID).foldl
        (fun pairs pair => pairs.insert pair)
        [(RES_TYPE_WINDOW_FOCUS, WINDOW_FOCUS),
         (RES_TYPE_WINDOW_FOCUS, WINDOW_UNFOCUS),
         (RES_TYPE_CLICK_RECOGNIZE, TOUCH_EVENT_DOWN_MMI),
         (RES_TYPE_CLICK_RECOGNIZE, TOUCH_EVENT_DOWN),
         (RES_TYPE_CLICK_RECOGNIZE, TOUCH_EVENT_UP),
         (RES_TYPE_CLICK_RECOGNIZE, CLICK_EVENT),
         (RES_TYPE_LOAD_PAGE, LOAD_PAGE_START),
         (RES_TYPE_LOAD_PAGE, LOAD_PAGE_COMPLETE),
         (RES_TYPE_SLIDE_RECOGNIZE, SLIDE_EVENT_ON),
         (RES_TYPE_SLIDE_RECOGNIZE, SLIDE_EVENT_OFF),
         (RES_TYPE_SLIDE_RECOGNIZE, SWIPER_FLING_END),
         (RES_TYPE_SLIDE_RECOGNIZE, SLIDE_NORMAL_BEGIN),
         (RES_TYPE_SLIDE_RECOGNIZE, SLIDE_NORMAL_END),
         (RES_TYPE_SLIDE_RECOGNIZE, MOVE_EVENT_ON),
         (RES_TYPE_APP_STATE_CHANGE, PROCESS_CREATED),
         (RES_TYPE_BMM_MONITER_CHANGE_EVENT, BMM_BACKGROUND),
         (RES_TYPE_BMM_MONITER_CHANGE_EVENT, BMM_CLOSE),
         (RES_TYPE_APP_INSTALL_UNINSTALL, APP_UNINSTALL),
         (RES_TYPE_PROCESS_STATE_CHANGE, PROCESS_DIED)] }

/-- `functionMap.insert`: a key that is there keeps its handler. -/
def insertHandlers (functionMap : AssocMap Nat Handler) (handlers : List (Nat × Handler)) :
    AssocMap Nat Handler :=
  handlers.foldl (fun functionMap entry =>
    if (functionMap.lookup entry.1).isSome then functionMap
    else functionMap.insert entry.1 entry.2) functionMap

/-- The entries `InitFunctionMap` starts with. -/
def functionTable (build : Build) : List (Nat × Handler) :=
  [(RES_TYPE_WINDOW_FOCUS, .HandleWindowFocus),
   (RES_TYPE_CLICK_RECOGNIZE, .HandleEventClick),
   (RES_TYPE_LOAD_PAGE, .HandleLoadPage),
   (RES_TYPE_SLIDE_RECOGNIZE, .HandleEventSlide),
   (RES_TYPE_WEB_GESTURE, .HandleEventWebGesture),
   (RES_TYPE_POP_PAGE, .HandlePopPage),
   (RES_TYPE_APP_ABILITY_START, .HandleAppAbilityStart),
   (RES_TYPE_RESIZE_WINDOW, .HandleResizeWindow),
   (RES_TYPE_MOVE_WINDOW, .HandleMoveWindow),
   (RES_TYPE_SHOW_REMOTE_ANIMATION, .HandleRemoteAnimation),
   (RES_TYPE_DRAG_STATUS_BAR, .HandleDragStatusBar),
   (RES_TYPE_WEB_GESTURE_MOVE, .HandleWebGestureMove),
   (RES_TYPE_WEB_SLIDE_NORMAL, .HandleWebSlideNormal),
   (RES_TYPE_LOAD_URL, .HandleLoadUrl),
   (RES_TYPE_MOUSEWHEEL, .HandleMousewheel),
   (RES_TYPE_APP_STATE_CHANGE, .HandleAppStateChange),
   (RES_TYPE_DEVICE_MODE_STATUS, .HandleDeviceModeStatusChange),
   (RES_TYPE_ACCOUNT_ACTIVATING, .HandleSocperfAccountActivating),
   (RES_TYPE_WEB_DRAG_RESIZE, .HandleWebDragResize)] ++
  (if build.FILE_COPY_SOC_PERF_ENABLE then [(RES_TYPE_FILE_COPY_STATUS, .HandleFileCopyStatus)]
    else []) ++
  [(RES_TYPE_WEB_SLIDE_SCROLL, .HandleWebSildeScroll)]

def AddOtherEventToFunctionMap : List (Nat × Handler) :=
  [(RES_TYPE_RECENT_BUILD, .HandleRecentBuild),
   (RES_TYPE_DEVICE_ORIENTATION_STATUS, .HandleDeviceOrientationStatusChange),
   (RES_TYPE_REPORT_BATTERY_STATUS_CHANGE, .HandleBatteryStatusChange),
   (RES_TYPE_SCHED_MODE_CHANGE, .HandleSchedModeChange),
   (RES_TYPE_RSS_CLOUD_CONFIG_UPDATE, .HandleRssCloudConfigUpdate),
   (RES_TYPE_SYSTEM_ABILITY_STATUS_CHANGE, .ReportAbilityStatus),
   (RES_TYPE_DISPLAY_POWER_WAKE_UP, .HandleDisplayPowerWakeUp),
   (RES_TYPE_SWIPER_FLING_END_EXCEPTION_FLAG, .HandleSwiperFlingEndEx),
   (RES_TYPE_HIGH_FREQUENCE_LOAD_SCENE_WITHOUT_AGGREGATION, .HandleLiveBroadcast),
   (RES_TYPE_OOBE_CLONE, .HandleOobeClone),
   (RES_TYPE_CREATE_LIVING_APP_PROCESS, .HandleResTypeCreateLivingApp),
   (RES_TYPE_SOCPERF_PERFORMANCE_MODE_CHANGED, .HandlePerformanceModeChange)]

def AddEventToFunctionMap (build : Build) (plugin : Plugin) : List (Nat × Handler) :=
  (if build.CUST_SOC_PERF_ENABLE then
    [(RES_TYPE_ANCO_CUST, .HandleCustEvent),
     (RES_TYPE_SOCPERF_CUST_EVENT_BEGIN, .HandleCustEventBegin),
     (RES_TYPE_SOCPERF_CUST_EVENT_END, .HandleCustEventEnd),
     (RES_TYPE_SOCPERF_CUST_ACTION, .HandleCustAction)]
  else []) ++
  [(RES_TYPE_ONLY_PERF_APP_COLD_START, .HandleAppColdStartEx),
   (RES_TYPE_SCENE_ROTATION, .HandleSceneRotation),
   (RES_TYPE_BMM_MONITER_CHANGE_EVENT, .HandleBmmMoniterStatus),
   (RES_TYPE_POWER_MODE_CHANGED, .HandlePowerModeChanged),
   (RES_TYPE_SCREEN_STATUS, .HandleScreenStatusAnalysis),
   (RES_TYPE_APP_GAME_BOOST_EVENT, .HandleGameBoost),
   (RES_TYPE_KEY_EVENT, .HandleEventKey)] ++
  (if build.CROWN_POWER_KEY_ENABLE then
    [(RES_TYPE_MMI_INPUT_POWER_KEY, .HandlePowerEventKey),
     (RES_TYPE_CROWN_ROTATION_STATUS, .HandleCrownRotation)]
  else []) ++
  [(RES_TYPE_APP_INSTALL_UNINSTALL, .HandleUninstallEvent),
   (RES_TYPE_PROCESS_STATE_CHANGE, .HandleProcessStateChange),
   (RES_TYPE_REPORT_CAMERA_STATE, .HandleCameraStateChange),
   (RES_TYPE_REPORT_GAME_STATE_CHANGE, .HandleGameStateChange)] ++
  (configuredType plugin.RES_TYPE_SCENE_BOARD_ID).map
    (fun resType => (resType, .HandleSocperfSceneBoard)) ++
  (configuredType plugin.RES_TYPE_RGM_BOOTING_STATUS).map
    (fun resType => (resType, .HandleRgmBootingStatus)) ++
  AddOtherEventToFunctionMap

/-- The value of a feature in the first sub item that names it. -/
def featureSwitch (itemLists : PluginConfig) (featureName : String) : Bool :=
  match (subItems itemLists).find? fun sub => sub.name = featureName with
  | none => false
  | some sub => sub.value = "1"

def loadFeatureSwitch (plugin : Plugin) (itemLists : PluginConfig) : Plugin :=
  { plugin with
    socperfGameBoostSwitch_ := featureSwitch itemLists SUB_ITEM_KEY_NAME_SOCPERF_GAME_BOOST }

def InitFeatureSwitch : System → System :=
  System.initFrom CONFIG_NAME_SOCPERF_FEATURE_SWITCH loadFeatureSwitch

def setFunctionMap (build : Build) (plugin : Plugin) : Plugin :=
  { plugin with
    functionMap := insertHandlers ∅ (functionTable build ++ AddEventToFunctionMap build plugin) }

def InitFunctionMap (build : Build) (system : System) : System :=
  InitFeatureSwitch { system with plugin := setFunctionMap build system.plugin }

/-! ## Special extensions -/

def AddSpecialExtension (plugin : Plugin) (sub : SubItem) : Plugin :=
  match sub.properties.lookup Focus.BUNDLE_NAME, sub.properties.lookup CALLER_BUNDLE_NAME with
  | some bundleName, some callerBundleNames =>
      { plugin with
        specialExtensionMap_ := plugin.specialExtensionMap_.insert bundleName
          (getlines '|' callerBundleNames).toFinset }
  | _, _ => plugin

def LoadSpecialExtension (plugin : Plugin) (itemLists : PluginConfig) : Plugin :=
  (subItems itemLists).foldl (fun plugin sub =>
    if sub.name = INFO_STRING then AddSpecialExtension plugin sub else plugin) plugin

def InitSpecialExtension : System → System :=
  System.initFrom SPECIAL_EXTENSION_STRING LoadSpecialExtension

/-! ## The function of the application types -/

def InitPerfCrucialFunc (env : External) (plugin : Plugin) (perfSoPath perfSoFunc : String) :
    Plugin :=
  if env.dlopen perfSoPath then
    match env.dlsym perfSoPath perfSoFunc with
    | some reqAppTypeFunc_ =>
        { plugin with handle_ := some perfSoPath, reqAppTypeFunc_ := some reqAppTypeFunc_ }
    | none => { plugin with handle_ := none, reqAppTypeFunc_ := none }
  else { plugin with handle_ := none }

def loadPerfCrucialSo (env : External) (plugin : Plugin) (itemLists : PluginConfig) : Plugin :=
  let plugin := (subItems itemLists).foldl (fun plugin sub =>
    let plugin :=
      if sub.name = SUB_ITEM_KEY_NAME_SOCPERF_RERQ_APPTYPE_PATH then
        { plugin with perfReqAppTypeSoPath_ := sub.value }
      else plugin
    if sub.name = SUB_ITEM_KEY_NAME_SOCPERF_RERQ_APPTYPE_FUNC then
      { plugin with perfReqAppTypeSoFunc_ := sub.value }
    else plugin) plugin
  if plugin.perfReqAppTypeSoPath_ ≠ "" ∧ plugin.perfReqAppTypeSoFunc_ ≠ "" then
    InitPerfCrucialFunc env plugin (cString plugin.perfReqAppTypeSoPath_)
      (cString plugin.perfReqAppTypeSoFunc_)
  else plugin

def InitPerfCrucialSo (env : External) : System → System :=
  System.initFrom CNOFIG_NAME_SOCPERF_CRUCIAL_FUNC (loadPerfCrucialSo env)

/-! ## The other lists -/

def HandleSubValue (subValue : String) (nameSet : Finset String) : Finset String :=
  nameSet ∪ (getlines ',' (cString subValue)).toFinset

def InitBundleNameBoostLists (plugin : Plugin) (itemLists : PluginConfig) : Plugin :=
  (subItems itemLists).foldl (fun plugin sub =>
    if sub.name = SUB_ITEM_KEY_NAME_APP_USE_CAMERA_BOOST then
      { plugin with appNameUseCamera_ := HandleSubValue sub.value plugin.appNameUseCamera_ }
    else if sub.name = SUB_ITEM_KEY_NAME_APP_MOVE_EVENT_BOOST then
      { plugin with appNameMoveEvent_ := HandleSubValue sub.value plugin.appNameMoveEvent_ }
    else plugin) plugin

def InitBundleNameBoostList : System → System :=
  System.initFrom CONFIG_NAME_SOCPERF_BUNDLE_NAME_BOOST_LIST InitBundleNameBoostLists

/-- What the handlers of focused applications get from elsewhere, beside a plugin. -/
def External.focus (env : External) (plugin : Plugin) : Focus.External :=
  ⟨plugin.reqAppTypeFunc_, env.GetBundleNameByUid, env.CheckSignatureByBundleName⟩

def loadWeakInterAction (env : External) (plugin : Plugin) (itemLists : PluginConfig) : Plugin :=
  { plugin with focus := Focus.LoadWeakInterAction (env.focus plugin) plugin.focus itemLists }

def InitWeakInterAction (env : External) : System → System :=
  System.initFrom WEAK_ACTION_STRING (loadWeakInterAction env)

def loadBatteryCapacityLimitFreq (plugin : Plugin) (itemLists : PluginConfig) : Plugin :=
  { plugin with battery := itemLists.itemList.foldl Battery.initItem plugin.battery }

def InitBatteryCapacityLimitFreq : System → System :=
  System.initFrom CONFIG_NAME_SOCPERF_BATTERY_CAPACITY_LIMIT_FREQ loadBatteryCapacityLimitFreq

def loadPolicyMode (plugin : Plugin) (socperfPolicy limitPolicy : PluginConfig) : Plugin :=
  { plugin with focus := Focus.InitPolicyMode plugin.focus socperfPolicy limitPolicy }

def InitPolicyMode (system : System) : System where
  plugin := loadPolicyMode system.plugin
    (system.reader.GetConfig PLUGIN_NAME CONFIG_NAME_SOCPERF_POLICY_MODE)
    (system.reader.GetConfig PLUGIN_NAME CONFIG_NAME_SOCPERF_LIMIT_POLICY)
  reader := (system.reader.RemoveConfig PLUGIN_NAME CONFIG_NAME_SOCPERF_POLICY_MODE).RemoveConfig
    PLUGIN_NAME CONFIG_NAME_SOCPERF_LIMIT_POLICY
  mgr := system.mgr

/-! ## Init and Disable -/

def subscribe (system : System) : System :=
  let mgr := system.plugin.resTypes.foldl (fun mgr resType =>
    mgr.SubscribeResource LIB_NAME resType) system.mgr
  { system with
    mgr := system.plugin.resTypeWithVal_.foldl (fun mgr pair =>
      mgr.SubscribeResourceAccurately LIB_NAME pair.1 pair.2) mgr }

def Init (env : External) (build : Build) (system : System) : System :=
  let system := InitEventId system
  let system := { system with plugin := InitResTypeWithVal (InitResTypes build system.plugin) }
  let system := InitSpecialExtension (InitFunctionMap build system)
  let system := subscribe system
  let system := InitBundleNameBoostList (InitPerfCrucialSo env system)
  InitPolicyMode (InitBatteryCapacityLimitFreq (InitWeakInterAction env system))

def Disable (system : System) : System :=
  let mgr := system.plugin.resTypes.foldl (fun mgr resType =>
    mgr.UnSubscribeResource LIB_NAME resType) system.mgr
  let mgr := system.plugin.resTypeWithVal_.foldl (fun mgr pair =>
    mgr.UnSubscribeResourceAccurately LIB_NAME pair.1 pair.2) mgr
  { system with
    plugin := { system.plugin with functionMap := ∅, resTypes := [], handle_ := none }
    mgr := mgr }

/-- What the plugin does when `PluginMgr` calls into it. -/
def System.onCall (env : External) (build : Build) (system : System) :
    ResSched.Plugin.PluginCall → System
  | .OnPluginInit pluginLib => if pluginLib = LIB_NAME then Init env build system else system
  | .OnPluginDisable pluginLib => if pluginLib = LIB_NAME then Disable system else system
  | .OnDispatchResource _ => system

end ResSched.SocPerf.Lifecycle
