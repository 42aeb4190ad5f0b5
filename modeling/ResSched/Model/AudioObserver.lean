import ResSched.Library.AssocMap
import Mathlib.Data.Finset.Insert
import Mathlib.Data.Finset.Erase

/-! # The observer of audio streams -/

namespace ResSched.Audio

def PID_MIN : Int := 0
def INT32_MAX : Int := 2147483647

/-- The states the observer tells apart. -/
inductive RendererState where
  | RENDERER_RUNNING
  | RENDERER_STOPPED
  | RENDERER_RELEASED
  | RENDERER_PAUSED
  | other (value : Int)
deriving DecidableEq

structure AudioRendererChangeInfo where
  clientUID : Int
  clientPid : Int
  sessionId : Int
  rendererState : RendererState
  contentType : Int
  streamUsage : Int
deriving DecidableEq

inductive CapturerState where
  | CAPTURER_RUNNING
  | CAPTURER_STOPPED
  | CAPTURER_RELEASED
  | other (value : Int)
deriving DecidableEq

structure AudioCapturerChangeInfo where
  clientUID : Int
  clientPid : Int
  sessionId : Int
  capturerState : CapturerState
  sourceType : Int
deriving DecidableEq

/-! ## Reports -/

inductive InnerAudioState where
  | AUDIO_STATE_RUNNING
  | AUDIO_STATE_STOP
deriving DecidableEq

inductive AudioCaptureState where
  | AUDIO_CAPTURE_BEGIN
  | AUDIO_CAPTURE_END
deriving DecidableEq

structure ProcessPayload where
  uid : Int
  pid : Int
deriving DecidableEq

structure CapturerPayload where
  uid : Int
  sessionId : Int
  capturerState : CapturerState
  sourceType : Int
deriving DecidableEq

/-- What is passed to `ReportData`; the last one is `RES_TYPE_AUDIO_CAPTURE_STATUS_CHANGED`, too. -/
inductive Report where
  | RES_TYPE_AUDIO_RENDER_STATE_CHANGE (value : RendererState) (payload : AudioRendererChangeInfo)
  | RES_TYPE_INNER_AUDIO_STATE (value : InnerAudioState) (payload : ProcessPayload)
  | RES_TYPE_AUDIO_CAPTURE_STATUS_CHANGED (value : AudioCaptureState) (payload : ProcessPayload)
  | AUDIO_CAPTURE_CHANGE (infos : List CapturerPayload)
deriving DecidableEq

/-! ## The observer -/

structure ProcessRenderState where
  pid : Int
  uid : Int
  renderRunningSessionSet : Finset Int

/-- The containers of the observer, and the reports made so far. -/
structure AudioObserver where
  renderState_ : AssocMap Int RendererState
  processRenderStateMap_ : AssocMap Int ProcessRenderState
  capturerStateMap_ : AssocMap Int (Finset Int)
  capturerInfoPidToUidMap_ : AssocMap Int Int
  reports : List Report

/-- The order in which an unordered container with these keys is walked. -/
structure Iteration where
  order : List Int → List Int
  perm : ∀ keys, (order keys).Perm keys

/-- A call of `OnRendererStateChange` with its two sets. -/
structure Snapshot where
  observer : AudioObserver
  newRunningPid : List Int
  newStopSessionPid : List Int

def AudioObserver.start : AudioObserver :=
  ⟨∅, ∅, ∅, ∅, []⟩

def AudioObserver.ReportData (observer : AudioObserver) (report : Report) : AudioObserver :=
  { observer with reports := observer.reports ++ [report] }

def IsValidPid (pid : Int) : Bool :=
  pid > PID_MIN && pid ≤ INT32_MAX

/-! ## Renderers -/

def AudioObserver.IsRenderStateChange (observer : AudioObserver)
    (info : AudioRendererChangeInfo) : Bool :=
  match observer.renderState_.lookup info.sessionId with
  | some state => state ≠ info.rendererState
  | none => true

namespace Snapshot

def setProcess (snapshot : Snapshot) (pid : Int) (process : ProcessRenderState) : Snapshot :=
  { snapshot with
    observer := { snapshot.observer with
      processRenderStateMap_ := snapshot.observer.processRenderStateMap_.insert pid process } }

def ProcessRunningSessionState (snapshot : Snapshot) (info : AudioRendererChangeInfo) : Snapshot :=
  let pid := info.clientPid
  match snapshot.observer.processRenderStateMap_.lookup pid with
  | some process =>
      snapshot.setProcess pid { process with
        renderRunningSessionSet := insert info.sessionId process.renderRunningSessionSet }
  | none =>
      { snapshot.setProcess pid ⟨pid, info.clientUID, {info.sessionId}⟩ with
        newRunningPid := snapshot.newRunningPid.insert pid }

def ProcessStopSessionState (snapshot : Snapshot) (info : AudioRendererChangeInfo) : Snapshot :=
  let pid := info.clientPid
  if !IsValidPid pid then snapshot
  else
    let snapshot := { snapshot with newStopSessionPid := snapshot.newStopSessionPid.insert pid }
    match snapshot.observer.processRenderStateMap_.lookup pid with
    | none => snapshot
    | some process =>
        snapshot.setProcess pid { process with
          renderRunningSessionSet := process.renderRunningSessionSet.erase info.sessionId }

def HandleInnerAudioStateChange (snapshot : Snapshot) (info : AudioRendererChangeInfo) : Snapshot :=
  match info.rendererState with
  | .RENDERER_RUNNING => snapshot.ProcessRunningSessionState info
  | .RENDERER_STOPPED => snapshot.ProcessStopSessionState info
  | .RENDERER_RELEASED => snapshot.ProcessStopSessionState info
  | .RENDERER_PAUSED => snapshot.ProcessStopSessionState info
  | .other _ => snapshot

/-- The body of the loop over the snapshot. -/
def handleInfo (snapshot : Snapshot) (info : AudioRendererChangeInfo) : Snapshot :=
  let reported :=
    if snapshot.observer.IsRenderStateChange info then
      { snapshot with
        observer := (snapshot.observer.ReportData
          (.RES_TYPE_AUDIO_RENDER_STATE_CHANGE info.rendererState info)) }
    else snapshot
  reported.HandleInnerAudioStateChange info

end Snapshot

namespace AudioObserver

def MarshallingInnerAudioRendererChangeInfo (process : ProcessRenderState) : ProcessPayload :=
  ⟨process.uid, process.pid⟩

/-- The body of the loop of `HandleStartAudioStateEvent`. -/
def startPid (observer : AudioObserver) (pid : Int) : AudioObserver :=
  match observer.processRenderStateMap_.lookup pid with
  | none => observer
  | some process =>
      if process.renderRunningSessionSet = ∅ then observer
      else observer.ReportData (.RES_TYPE_INNER_AUDIO_STATE .AUDIO_STATE_RUNNING
        (MarshallingInnerAudioRendererChangeInfo process))

def HandleStartAudioStateEvent (observer : AudioObserver) (newRunningPid : List Int) :
    AudioObserver :=
  newRunningPid.foldl startPid observer

/-- The body of the loop of `HandleStopAudioStateEvent`. -/
def stopPid (observer : AudioObserver) (pid : Int) : AudioObserver :=
  match observer.processRenderStateMap_.lookup pid with
  | none => observer
  | some process =>
      if process.renderRunningSessionSet ≠ ∅ then observer
      else
        { observer with
          processRenderStateMap_ := observer.processRenderStateMap_.erase pid }.ReportData
            (.RES_TYPE_INNER_AUDIO_STATE .AUDIO_STATE_STOP
              (MarshallingInnerAudioRendererChangeInfo process))

def HandleStopAudioStateEvent (observer : AudioObserver) (newStopSessionPid : List Int) :
    AudioObserver :=
  newStopSessionPid.foldl stopPid observer

def OnRendererStateChange (iteration : Iteration) (observer : AudioObserver)
    (infos : List AudioRendererChangeInfo) : AudioObserver :=
  let snapshot := infos.foldl Snapshot.handleInfo ⟨observer, [], []⟩
  let observer := { snapshot.observer with
    renderState_ := infos.foldl
      (fun states (info : AudioRendererChangeInfo) =>
        states.insert info.sessionId info.rendererState) ∅ }
  let observer := observer.HandleStartAudioStateEvent (iteration.order snapshot.newRunningPid)
  observer.HandleStopAudioStateEvent (iteration.order snapshot.newStopSessionPid)

/-! ## Capturers -/

def ProcessCapturerBegin (observer : AudioObserver) (pid uid sessionId : Int) : AudioObserver :=
  let reported :=
    match observer.capturerStateMap_.lookup pid with
    | none =>
        observer.ReportData (.RES_TYPE_AUDIO_CAPTURE_STATUS_CHANGED .AUDIO_CAPTURE_BEGIN ⟨uid, pid⟩)
    | some _ => observer
  { reported with
    capturerStateMap_ := observer.capturerStateMap_.insert pid
      (insert sessionId ((observer.capturerStateMap_.lookup pid).getD ∅))
    capturerInfoPidToUidMap_ := observer.capturerInfoPidToUidMap_.insert pid uid }

def ProcessCapturerEnd (observer : AudioObserver) (pid uid sessionId : Int) : AudioObserver :=
  match observer.capturerStateMap_.lookup pid with
  | none => observer
  | some sessions =>
      if sessions.erase sessionId = ∅ then
        { observer with
          capturerInfoPidToUidMap_ := observer.capturerInfoPidToUidMap_.erase pid
          capturerStateMap_ := observer.capturerStateMap_.erase pid }.ReportData
            (.RES_TYPE_AUDIO_CAPTURE_STATUS_CHANGED .AUDIO_CAPTURE_END ⟨uid, pid⟩)
      else
        { observer with
          capturerStateMap_ := observer.capturerStateMap_.insert pid (sessions.erase sessionId) }

/-- The body of the loop of `ProcessCapturerEndCaseByUnregister`. -/
def endPid (observer : AudioObserver) (pid : Int) : AudioObserver :=
  { observer with
    capturerInfoPidToUidMap_ := observer.capturerInfoPidToUidMap_.erase pid }.ReportData
      (.RES_TYPE_AUDIO_CAPTURE_STATUS_CHANGED .AUDIO_CAPTURE_END
        ⟨(observer.capturerInfoPidToUidMap_.lookup pid).getD 0, pid⟩)

def ProcessCapturerEndCaseByUnregister (iteration : Iteration) (observer : AudioObserver) :
    AudioObserver :=
  if observer.capturerStateMap_.keys.isEmpty then observer
  else
    { (iteration.order observer.capturerStateMap_.keys).foldl endPid observer with
      capturerStateMap_ := ∅ }

def ReportCapturerStateChange (observer : AudioObserver)
    (infos : List (Option AudioCapturerChangeInfo)) : AudioObserver :=
  observer.ReportData (.AUDIO_CAPTURE_CHANGE (infos.filterMap fun info? => info?.map fun info =>
    ⟨info.clientUID, info.sessionId, info.capturerState, info.sourceType⟩))

/-- The body of the loop of `OnCapturerStateChange`, which takes the lock for each stream. -/
def handleCapturer (observer : AudioObserver) (info? : Option AudioCapturerChangeInfo) :
    AudioObserver :=
  match info? with
  | none => observer
  | some info =>
      if info.clientPid = 0 then observer
      else
        match info.capturerState with
        | .CAPTURER_RUNNING =>
            observer.ProcessCapturerBegin info.clientPid info.clientUID info.sessionId
        | .CAPTURER_STOPPED =>
            observer.ProcessCapturerEnd info.clientPid info.clientUID info.sessionId
        | .CAPTURER_RELEASED =>
            observer.ProcessCapturerEnd info.clientPid info.clientUID info.sessionId
        | .other _ => observer

def OnCapturerStateChange (observer : AudioObserver)
    (infos : List (Option AudioCapturerChangeInfo)) : AudioObserver :=
  infos.foldl handleCapturer (observer.ReportCapturerStateChange infos)

end AudioObserver

/-- The steps that a lock keeps together. A call of `OnCapturerStateChange` is a report and a step
for each stream, and other calls can come between them. -/
inductive Event where
  | OnRendererStateChange (infos : List AudioRendererChangeInfo)
  | ReportCapturerStateChange (infos : List (Option AudioCapturerChangeInfo))
  | handleCapturer (info? : Option AudioCapturerChangeInfo)
  | ProcessCapturerEndCaseByUnregister
deriving DecidableEq

def AudioObserver.handle (iteration : Iteration) (observer : AudioObserver) :
    Event → AudioObserver
  | .OnRendererStateChange infos => observer.OnRendererStateChange iteration infos
  | .ReportCapturerStateChange infos => observer.ReportCapturerStateChange infos
  | .handleCapturer info? => observer.handleCapturer info?
  | .ProcessCapturerEndCaseByUnregister => observer.ProcessCapturerEndCaseByUnregister iteration

/-- The steps of a call of `OnCapturerStateChange`. -/
def Event.OnCapturerStateChange (infos : List (Option AudioCapturerChangeInfo)) : List Event :=
  .ReportCapturerStateChange infos :: infos.map .handleCapturer

end ResSched.Audio
