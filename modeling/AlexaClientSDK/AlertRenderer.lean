import AlexaClientSDK.AlertScheduler

/-!
# An alert and its renderer

`Renderer` plays the audio of an alert on a media player. Calls from outside and the callbacks of the media player put
tasks into its executor. A task may wait, in a pause before or between two loops, and while the alert that it has
notified is about to start the renderer again; it is taken up by a step of its own. Stop reasons, volume ramps and the
times of pauses are left out.
-/

namespace AlexaClientSDK.AlertRenderer

open FocusChannel Alerts AlertScheduler

/-- `RendererObserverInterface::State`. -/
inductive RendererState
  | started
  | stopped
  | completed
  | error
  deriving DecidableEq

/-- The arguments of `Renderer::start`. -/
structure StartRequest where
  urls : List String
  loopCount : ℤ
  loopPause : ℤ
  startWithPause : Bool

/-- A task of the renderer's executor. -/
inductive Task
  | start (request : StartRequest)
  | stop
  | playbackStarted (sourceId : ℕ)
  | playbackStopped (sourceId : ℕ)
  | playbackFinished (sourceId : ℕ)
  | playbackError (sourceId : ℕ)

/-- What a task has left when the alert has started the renderer again. -/
inductive Rest
  | nothing
  /-- The end of `executeOnPlaybackStopped`. -/
  | afterStopped
  | forget
  deriving DecidableEq

/-- Where a task waits. -/
inductive Running
  | pausedBeforePlay
  | pausedBetweenLoops
  /-- In `onRendererStateChange`, before `startRenderer`. -/
  | retrying (rest : Rest)

/-- The alert, the renderer, the media player and the history. -/
structure System where
  data : DynamicData
  focusState : FocusState
  hasTimerExpired : Bool
  maxLengthTimer : Bool
  focusChangedDuringAlertActivation : Bool
  startRendererAgainAfterFullStop : Bool
  /-- `m_observer` of the renderer is the alert and not null. -/
  observer : Bool
  urls : List String
  numberOfStreamsRenderedThisLoop : ℕ
  remainingLoopCount : ℤ
  directiveLoopCount : ℤ
  loopPause : ℤ
  shouldPauseBeforeRender : Bool
  isStopping : Bool
  isStartPending : Bool
  /-- `m_currentSourceId`, if it is not `ERROR`. -/
  currentSourceId : Option ℕ
  tasks : List Task
  running : Option Running
  playing : List ℕ
  nextSourceId : ℕ
  activations : ℕ
  told : List (ℕ × ObserverState)

/-- An alert that is set, and a new renderer. -/
def System.init (data : DynamicData) : System where
  data := {data with state := .set}
  focusState := .none
  hasTimerExpired := false
  maxLengthTimer := false
  focusChangedDuringAlertActivation := false
  startRendererAgainAfterFullStop := false
  observer := false
  urls := []
  numberOfStreamsRenderedThisLoop := 0
  remainingLoopCount := 0
  directiveLoopCount := 0
  loopPause := 0
  shouldPauseBeforeRender := false
  isStopping := false
  isStartPending := false
  currentSourceId := none
  tasks := []
  running := none
  playing := []
  nextSourceId := 1
  activations := 0
  told := []

/-- What the media player answers, and whether some of a pause is left. -/
structure Answers where
  setSource : Bool
  play : Bool
  pauseLeft : Bool

section

variable (s : System)

def System.withState (state : State) : System :=
  {s with data := {s.data with state := state}}

def System.tell (state : ObserverState) : System :=
  {s with told := s.told++[(s.activations,state)]}

def System.stop (s : System) : System :=
  {s with isStopping := true,tasks := s.tasks++[.stop]}

def BACKGROUND_ALERT_SOUND_PAUSE_TIME : ℤ := 10000

/-- The url of an asset, empty when there is no such asset. -/
def assetUrl (assets : Assets) (id : String) : String :=
  ((assets.lookup id).map Asset.url).getD ""

/-- What `startRendererLocked` asks the renderer for. -/
def startRequest (data : DynamicData) (focusState : FocusState) : StartRequest :=
  let configuration := data.assetConfiguration
  if focusState = .background then
    { urls := if configuration.backgroundAssetId ≠ "" ∧ data.hasRenderingFailed = false then
        [assetUrl configuration.assets configuration.backgroundAssetId] else []
      loopCount := data.loopCount
      loopPause := BACKGROUND_ALERT_SOUND_PAUSE_TIME
      startWithPause := decide (data.state ≠ .activating) }
  else
    { urls := if configuration.assets.entries ≠ [] ∧ data.hasRenderingFailed = false then
        configuration.assetPlayOrderItems.map (assetUrl configuration.assets) else []
      loopCount := data.loopCount
      loopPause := configuration.loopPause
      startWithPause := false }

namespace System

/-- `Renderer::start`: what is below zero becomes zero. -/
def start (s : System) (request : StartRequest) : System :=
  {s with tasks := s.tasks++[.start {request with
      loopCount := max request.loopCount 0
      loopPause := max request.loopPause 0}]}

def startRenderer : System := s.start (startRequest s.data s.focusState)

def activate : System :=
  if s.data.state=.activating ∨ s.data.state=.active then s
  else ({s.withState .activating with
    maxLengthTimer := true
    activations := s.activations+1}).startRenderer

def deactivate : System :=
  ({s.withState .stopping with maxLengthTimer := false}).stop

/-- `Alert::snooze`, for a time that can be read. -/
def snooze : System := (s.withState .snoozing).stop

def setFocusState (focusState : FocusState) : System :=
  if focusState=s.focusState then s
  else
    let s := {s with focusState := focusState}
    if s.data.state=.activating then {s with focusChangedDuringAlertActivation := true}
    else if s.data.state=.active then ({s with startRendererAgainAfterFullStop := true}).stop
    else s

def setStateActive : System :=
  if s.data.state=.activating then s.withState .active else s

def onMaxTimerExpiration : System :=
  ({s.withState .stopping with maxLengthTimer := false,hasTimerExpired := true}).stop

/-- Up to `startRenderer`, which is to come where the result is true. -/
def onRendererStateChange : RendererState → System × Bool
  | .started =>
    if s.data.state=.stopped then (s.stop,false)
    else if s.data.state=.activating then
      if s.focusChangedDuringAlertActivation then
        (({s with focusChangedDuringAlertActivation := false}).stop,true)
      else (s.tell .started,false)
    else (s,false)
  | .stopped =>
    if s.hasTimerExpired then ((s.withState .completed).tell .completed,false)
    else if s.data.state=.stopping then ((s.withState .stopped).tell .stopped,false)
    else if s.data.state=.snoozing then ((s.withState .snoozed).tell .snoozed,false)
    else if s.startRendererAgainAfterFullStop then
      ({s with startRendererAgainAfterFullStop := false},true)
    else (s,false)
  | .completed => ((s.withState .completed).tell .completed,false)
  | .error =>
    if s.data.state=.stopping ∨ s.data.state=.stopped then (s,false)
    else if s.data.assetConfiguration.assetPlayOrderItems≠[] ∧ s.data.hasRenderingFailed=false then
      ({s with data := {s.data with hasRenderingFailed := true}},true)
    else (s.tell .error,false)

/-- The observer is forgotten, and the task is done. -/
def forget : System := {s with observer := false,running := none}

/-- `notifyObserver`, when the observer is forgotten after it. -/
def notifyAndForget (state : RendererState) : System :=
  if s.observer then
    let result := s.onRendererStateChange state
    if result.2 then {result.1 with running := some (.retrying .forget)} else result.1.forget
  else s.forget

def handlePlaybackError : System :=
  ({s with isStopping := false,isStartPending := false,currentSourceId := none}).notifyAndForget .error

end System

section

variable (answers : Answers)

namespace System

def playSource : System :=
  if answers.play then
    {s with playing := s.playing++s.currentSourceId.toList,running := none}
  else s.handlePlaybackError

/-- `play`. Nobody is notified when there is no source. -/
def play : System :=
  let s := {s with isStartPending := false}
  if answers.setSource then
    let s := {s with currentSourceId := some s.nextSourceId,nextSourceId := s.nextSourceId+1}
    if s.shouldPauseBeforeRender then
      let s := {s with shouldPauseBeforeRender := false}
      if 0<s.loopPause then {s with running := some .pausedBeforePlay} else s.playSource answers
    else s.playSource answers
  else {s with currentSourceId := none,running := none}

def executeStart (request : StartRequest) (answers : Answers) : System :=
  let s := {s with
    observer := true
    urls := request.urls
    remainingLoopCount := request.loopCount
    directiveLoopCount := request.loopCount
    loopPause := request.loopPause
    shouldPauseBeforeRender := request.startWithPause
    numberOfStreamsRenderedThisLoop := 0}
  if s.isStopping then {s with isStartPending := true} else s.play answers

/-- `executeStop`. The media player answers with a callback, if it stops. -/
def executeStop : System :=
  let s := {s with isStartPending := false}
  if s.currentSourceId=none then {s with isStopping := false,observer := false} else s

def executeOnPlaybackStarted : System :=
  if s.observer then
    let result := s.onRendererStateChange .started
    if result.2 then {result.1 with running := some (.retrying .nothing)} else result.1
  else s

/-- The end of `executeOnPlaybackStopped`. -/
def afterStopped : System :=
  if s.isStartPending then s.play answers
  else {s with observer := false,currentSourceId := none,running := none}

/-- `notifyObserver` in `executeOnPlaybackStopped`, and what follows it. -/
def notifyStopped : System :=
  if s.observer then
    let result := s.onRendererStateChange .stopped
    if result.2 then {result.1 with running := some (.retrying .afterStopped)}
    else result.1.afterStopped answers
  else s.afterStopped answers

def executeOnPlaybackStopped : System :=
  ({s with isStopping := false}).notifyStopped answers

def shouldMediaPlayerRepeat : Bool :=
  decide (s.urls=[] ∧ s.directiveLoopCount=0 ∧ s.loopPause=0)

def shouldRenderNext : Bool :=
  if s.shouldMediaPlayerRepeat then false
  else if 0<s.directiveLoopCount then decide (0<s.remainingLoopCount)
  else decide (s.urls=[] ∧ s.loopPause≠0)

def shouldPause : Bool :=
  if s.loopPause=0 then false
  else if s.directiveLoopCount=0 then true
  else decide (0<s.remainingLoopCount)

/-- The end of `executeOnPlaybackFinished`. -/
def finish (state : RendererState) : System :=
  ({s with currentSourceId := none}).notifyAndForget state

/-- The end of `renderNextAudioAsset`, and what follows it. -/
def renderNext : System :=
  if s.shouldRenderNext then s.play answers else s.finish .completed

def prepareLoop : System :=
  {s with remainingLoopCount := s.remainingLoopCount-1,numberOfStreamsRenderedThisLoop := 0}

def renderNextAudioAsset : System :=
  if s.urls.length ≤ s.numberOfStreamsRenderedThisLoop then
    if s.prepareLoop.shouldPause ∧ answers.pauseLeft then
      {s.prepareLoop with running := some .pausedBetweenLoops}
    else s.prepareLoop.renderNext answers
  else s.renderNext answers

/-- One more source was rendered, and the renderer is not stopping any more. -/
def countSource : System :=
  {s with
    numberOfStreamsRenderedThisLoop := s.numberOfStreamsRenderedThisLoop+1
    isStopping := false}

def executeOnPlaybackFinished : System :=
  if s.isStopping=false ∧ s.countSource.shouldRenderNext then
    s.countSource.renderNextAudioAsset answers
  else s.countSource.finish .stopped

/-- A callback for another source than the current one is ignored. -/
def runTask : Task → System
  | .start request => s.executeStart request answers
  | .stop => s.executeStop
  | .playbackStarted sourceId =>
    if s.currentSourceId=some sourceId then s.executeOnPlaybackStarted else s
  | .playbackStopped sourceId =>
    if s.currentSourceId=some sourceId then s.executeOnPlaybackStopped answers else s
  | .playbackFinished sourceId =>
    if s.currentSourceId=some sourceId then s.executeOnPlaybackFinished answers else s
  | .playbackError sourceId =>
    if s.currentSourceId=some sourceId then s.handlePlaybackError else s

/-- A pause ends, or the alert starts the renderer again, and the task goes on. -/
def goOn : Running → System
  | .pausedBeforePlay => s.playSource answers
  | .pausedBetweenLoops => if s.isStopping then s.finish .stopped else s.renderNext answers
  | .retrying .nothing => {s.startRenderer with running := none}
  | .retrying .afterStopped => s.startRenderer.afterStopped answers
  | .retrying .forget => s.startRenderer.forget

end System

end

inductive Event
  | activate
  | deactivate
  | snooze
  | setFocusState (focusState : FocusState)
  | setStateActive
  | maxTimerExpires
  | playbackStarted (sourceId : ℕ)
  | playbackStopped (sourceId : ℕ)
  | playbackFinished (sourceId : ℕ)
  | playbackError (sourceId : ℕ)
  | runTask (answers : Answers)
  | goOn (answers : Answers)

/-- A callback of the media player, with which a source is done. -/
def System.sourceDone (sourceId : ℕ) (task : Task) : System :=
  {s with playing := s.playing.erase sourceId,tasks := s.tasks++[task]}

end

inductive Step : System → Event → System → Prop
  | activate {s : System} : Step s .activate s.activate
  | deactivate {s : System} : Step s .deactivate s.deactivate
  | snooze {s : System} : Step s .snooze s.snooze
  | setFocusState {s : System} (focusState : FocusState) :
      Step s (.setFocusState focusState) (s.setFocusState focusState)
  | setStateActive {s : System} : Step s .setStateActive s.setStateActive
  | maxTimerExpires {s : System} (runs : s.maxLengthTimer=true) : Step s .maxTimerExpires s.onMaxTimerExpiration
  | playbackStarted {s : System} {sourceId : ℕ} (plays : sourceId∈s.playing) :
      Step s (.playbackStarted sourceId) {s with tasks := s.tasks++[.playbackStarted sourceId]}
  | playbackStopped {s : System} {sourceId : ℕ} (plays : sourceId∈s.playing) :
      Step s (.playbackStopped sourceId) (s.sourceDone sourceId (.playbackStopped sourceId))
  | playbackFinished {s : System} {sourceId : ℕ} (plays : sourceId∈s.playing) :
      Step s (.playbackFinished sourceId) (s.sourceDone sourceId (.playbackFinished sourceId))
  | playbackError {s : System} {sourceId : ℕ} (plays : sourceId∈s.playing) :
      Step s (.playbackError sourceId) (s.sourceDone sourceId (.playbackError sourceId))
  | runTask {s : System} {task : Task} {tasks : List Task} (answers : Answers)
      (idle : s.running=none) (next : s.tasks=task::tasks) :
      Step s (.runTask answers) (({s with tasks := tasks} : System).runTask answers task)
  | goOn {s : System} {running : Running} (answers : Answers) (waits : s.running=some running) :
      Step s (.goOn answers) (s.goOn answers running)

end AlexaClientSDK.AlertRenderer
