import AlexaClientSDK.FocusChannel

/-!
# The notification renderer

`NotificationRenderer` plays the sound of one notification at a time: the one of its url, or the default sound when that
fails. What the calls, the focus manager, the executor, the callbacks and the fallback have still to do is an activity,
done in one step up to where its thread waits or hands over. A channel is given once for each time it is acquired, and
stopping a source is left to the callbacks.
-/

namespace AlexaClientSDK.NotificationRenderer

open FocusChannel

inductive State
  | idle
  | renderingPreferred
  | renderingDefault
  | cancelling
  | notifying
  deriving DecidableEq

inductive Activity
  /-- The rest of a call of `renderNotification`. -/
  | call (number : ℕ)
  /-- The focus manager has a channel to give. -/
  | focus
  /-- The task of `onFocusChanged` in the executor. -/
  | play
  /-- The thread of `m_renderFallbackFuture`. -/
  | fallback
  /-- `onRenderingFinished`, while it waits for the channel to be released. -/
  | release
  /-- `onRenderingFinished`, before it tells the observers. -/
  | notify
  /-- `onRenderingFinished`, after it has told the observers. -/
  | settle
  deriving DecidableEq

/-- The members of the renderer, the media player and the history. -/
structure Renderer where
  state : State
  focusState : FocusState
  audioFactory : Bool
  /-- `m_sourceId`, if it is not `ERROR`. -/
  sourceId : Option ℕ
  pending : List Activity
  playing : List ℕ
  nextSourceId : ℕ
  /-- How many calls of `renderNotification` have begun to render. -/
  renderings : ℕ
  /-- The calls that have returned true. -/
  accepted : List ℕ
  /-- The states in which the other calls have begun and returned. -/
  refused : List (State × State)
  /-- `onNotificationRenderingFinished`, with the rendering. -/
  finished : List ℕ

def Renderer.new : Renderer where
  state := .idle
  focusState := .none
  audioFactory := false
  sourceId := none
  pending := []
  playing := []
  nextSourceId := 1
  renderings := 0
  accepted := []
  refused := []
  finished := []

structure Answers where
  /-- `play` returns true for the source that is set. -/
  play : Bool
  /-- `setSource` returns a source for the default sound. -/
  setSource : Bool
  /-- `play` returns true for the default sound. -/
  playDefault : Bool

/-- Whether `setStateLocked` succeeds. -/
def canSetState (state newState : State) : Bool :=
  if newState=state then false
  else
    match newState with
    | .idle => decide (state≠.renderingPreferred) && decide (state≠.renderingDefault)
    | .renderingPreferred => decide (state=.idle)
    | .renderingDefault => decide (state=.renderingPreferred)
    | .cancelling => decide (state=.renderingDefault) || decide (state=.renderingPreferred)
    | .notifying => decide (state≠.idle)

section

variable (r : Renderer)

namespace Renderer

def setState (newState : State) : Renderer :=
  if canSetState r.state newState then {r with state := newState} else r

/-- A thread has something to do. -/
def submit (activity : Activity) : Renderer :=
  {r with pending := r.pending++[activity]}

/-- A thread takes up what it has to do. -/
def take (activity : Activity) : Renderer :=
  {r with pending := r.pending.erase activity}

/-- Up to `setState`, where another may be first. -/
def renderNotification (audioFactory : Bool) : Renderer :=
  if audioFactory=true ∧ canSetState r.state .renderingPreferred=true then
    {r.submit (.call (r.renderings+1)) with
      state := .renderingPreferred
      renderings := r.renderings+1}
  else {r with refused := r.refused++[(r.state,r.state)]}

/-- `setSource` of the media player. -/
def setSource (succeeds : Bool) : Renderer :=
  if succeeds then {r with sourceId := some r.nextSourceId,nextSourceId := r.nextSourceId+1}
  else {r with sourceId := none}

/-- The rest of `renderNotification`. -/
def acquireChannel (number : ℕ) (setSource acquires : Bool) : Renderer :=
  let r := ({r with audioFactory := true} : Renderer).setSource setSource
  if acquires then {r.submit .focus with accepted := r.accepted++[number]}
  else
    let r := ({r with sourceId := none,audioFactory := false} : Renderer).setState .idle
    {r with refused := r.refused++[(.idle,r.state)]}

def cancelNotificationRendering : Renderer := r.setState .cancelling

def onFocusChanged (newFocus : FocusState) (behavior : MixingBehavior) : Renderer :=
  let changed := {r with focusState := newFocus}
  if (newFocus=.none ∨ r.focusState≠.none) ∨ ¬(behavior=.undefined ∨ behavior=.primary) then changed
  else changed.submit .play

/-- `play` of the media player, for the source that is set. -/
def playSource : Renderer :=
  {r with playing := r.playing++r.sourceId.toList}

/-- The task of `onFocusChanged`. -/
def executePlay (answers : Answers) : Renderer :=
  if r.sourceId≠none ∧ answers.play=true then r.playSource
  else if canSetState r.state .renderingDefault then
    let r := ({r with state := .renderingDefault} : Renderer).setSource answers.setSource
    if r.sourceId≠none ∧ answers.playDefault=true then r.playSource
    else ({r with sourceId := none,audioFactory := false} : Renderer).setState .idle
  else r

/-- `onPlaybackStopped` and `onPlaybackFinished`. -/
def onPlaybackEnded (sourceId : ℕ) : Renderer :=
  if r.sourceId=some sourceId then r.submit .release else r

def onPlaybackError (sourceId : ℕ) : Renderer :=
  if r.sourceId=some sourceId then
    match r.state with
    | .idle | .notifying => r
    | .renderingDefault | .cancelling => r.submit .release
    | .renderingPreferred => ({r with state := .renderingDefault} : Renderer).submit .fallback
  else r

/-- The thread that `onPlaybackError` starts. -/
def runFallback (answers : Answers) : Renderer :=
  let r := r.setSource answers.setSource
  if r.sourceId≠none ∧ answers.playDefault=true then r.playSource else r.submit .release

/-- `onRenderingFinished`, when the channel is released. -/
def onChannelReleased : Renderer :=
  if canSetState r.state .notifying then ({r with state := .notifying} : Renderer).submit .notify
  else r

def notifyObservers : Renderer :=
  {r.submit .settle with finished := r.finished++[r.renderings]}

end Renderer

end

inductive Event
  | renderNotification (audioFactory : Bool)
  | acquireChannel (setSource acquires : Bool)
  | cancelNotificationRendering
  | focusGiven (newFocus : FocusState) (behavior : MixingBehavior)
  | focusChanged (newFocus : FocusState) (behavior : MixingBehavior)
  | executePlay (answers : Answers)
  | playbackEnded (sourceId : ℕ)
  | playbackError (sourceId : ℕ)
  | runFallback (answers : Answers)
  | channelReleased
  | notifyObservers
  | settle

/-- The steps. A factory that is not set cannot be called. -/
inductive Step : Renderer → Event → Renderer → Prop
  | renderNotification {r : Renderer} (audioFactory : Bool) :
      Step r (.renderNotification audioFactory) (r.renderNotification audioFactory)
  | acquireChannel {r : Renderer} {number : ℕ} (setSource acquires : Bool) (calls : Activity.call number∈r.pending) :
      Step r (.acquireChannel setSource acquires) ((r.take (.call number)).acquireChannel number setSource acquires)
  | cancelNotificationRendering {r : Renderer} : Step r .cancelNotificationRendering r.cancelNotificationRendering
  | focusGiven {r : Renderer} {newFocus : FocusState} (behavior : MixingBehavior)
      (acquired : Activity.focus∈r.pending) (gives : newFocus≠.none) :
      Step r (.focusGiven newFocus behavior) ((r.take .focus).onFocusChanged newFocus behavior)
  | focusChanged {r : Renderer} {newFocus : FocusState} (behavior : MixingBehavior)
      (had : newFocus=.none ∨ r.focusState≠.none) :
      Step r (.focusChanged newFocus behavior) (r.onFocusChanged newFocus behavior)
  | executePlay {r : Renderer} (answers : Answers) (queued : Activity.play∈r.pending)
      (factory : r.audioFactory=true ∨ (r.sourceId≠none ∧ answers.play=true) ∨
        canSetState r.state .renderingDefault=false) :
      Step r (.executePlay answers) ((r.take .play).executePlay answers)
  | playbackEnded {r : Renderer} {sourceId : ℕ} (plays : sourceId∈r.playing) : Step r (.playbackEnded sourceId)
        (({r with playing := r.playing.erase sourceId} : Renderer).onPlaybackEnded sourceId)
  | playbackError {r : Renderer} {sourceId : ℕ} (plays : sourceId∈r.playing) : Step r (.playbackError sourceId)
        (({r with playing := r.playing.erase sourceId} : Renderer).onPlaybackError sourceId)
  | runFallback {r : Renderer} (answers : Answers) (started : Activity.fallback∈r.pending)
      (factory : r.audioFactory=true) :
      Step r (.runFallback answers) ((r.take .fallback).runFallback answers)
  | channelReleased {r : Renderer} (waits : Activity.release∈r.pending) :
      Step r .channelReleased (r.take .release).onChannelReleased
  | notifyObservers {r : Renderer} (waits : Activity.notify∈r.pending) :
      Step r .notifyObservers (r.take .notify).notifyObservers
  | settle {r : Renderer} (waits : Activity.settle∈r.pending) : Step r .settle ((r.take .settle).setState .idle)

end AlexaClientSDK.NotificationRenderer
