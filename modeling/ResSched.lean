import ResSched.Library.Transition
import ResSched.Library.AssocMap
import ResSched.Library.CLibrary
import ResSched.Verification.EventListener
import ResSched.Verification.EventListenerMgr
import ResSched.Verification.ReportClient
import ResSched.Verification.OobeManager
import ResSched.Verification.SignatureValidator
import ResSched.Verification.SuspendObserver
import ResSched.Verification.AppStartupSceneRec
import ResSched.Verification.SceneRecognize.Overlap
import ResSched.Verification.SceneRecognize.Slide
import ResSched.Verification.SceneRecognize.SlideProxy
import ResSched.Verification.SocPerf.Battery
import ResSched.Verification.SocPerf.DisplayMode
import ResSched.Verification.SocPerf.ScreenBoost
import ResSched.Verification.SocPerf.WeakAction
import ResSched.Verification.SocPerf.GameFocus
import ResSched.Verification.SocPerf.Restart
import ResSched.Verification.SocPerf.Lifecycle
import ResSched.Verification.SocPerf.Gesture
import ResSched.Verification.Executor.Reassembly
import ResSched.Verification.Executor.Atomicity
import ResSched.Verification.Executor.MessageSize
import ResSched.Verification.Executor.Transmission
import ResSched.Verification.Executor.GovResource
import ResSched.Verification.Executor.SocPerfConfig
import ResSched.Verification.Executor.SocPerfWriteNode
import ResSched.Verification.Cgroup.Focus
import ResSched.Verification.Cgroup.FollowRuns
import ResSched.Verification.Cgroup.ProcessGroup
import ResSched.Verification.Cgroup.TopApp
import ResSched.Verification.Cgroup.Phantom
import ResSched.Verification.Cgroup.ContinuousTask
import ResSched.Verification.Service.SystemLoad
import ResSched.Verification.Service.Permission
import ResSched.Verification.Service.Report
import ResSched.Verification.Service.Foreground
import ResSched.Verification.Service.RequestLimit
import ResSched.Verification.Plugin.Repair
import ResSched.Verification.Plugin.Subscription
import ResSched.Verification.Plugin.SyncSubscription
import ResSched.Verification.FrameAware.NetworkLatency
import ResSched.Verification.LruCache
import ResSched.Verification.ConfigContent
import ResSched.Verification.AudioObserver
import ResSched.Verification.Executor.KillProcess
import ResSched.Verification.Cgroup.WindowSerial
import ResSched.Verification.Cgroup.WebSubWin
import ResSched.Verification.Cgroup.ForkProcess
import ResSched.Verification.Cgroup.LoadPolicies
import ResSched.Verification.Cgroup.TaskGroup
import ResSched.Verification.SceneRecognize.ContinuousInstall
import ResSched.Verification.Common.SystemUtil
import ResSched.Verification.Common.FileUtil
import ResSched.Verification.Common.BatchLogPrinter
import ResSched.Verification.Common.TimeUtil
import ResSched.Verification.KillEventListener
import ResSched.Verification.Plugin.SortPluginList
import ResSched.Verification.FrameAware.FrameAwarePlugin
import ResSched.Verification.Executor.ConfigNumbers
import ResSched.Verification.Cgroup.RecordIdentity
import ResSched.Verification.Cgroup.Observers
import ResSched.Verification.Cgroup.Isolation
import ResSched.Verification.Cgroup.Decision
import ResSched.Verification.Plugin.Dispatchers
import ResSched.Verification.SceneRecognize.RecognizerMgr
import ResSched.Verification.Plugin.Lifecycle
import ResSched.Verification.Plugin.ReportCount
