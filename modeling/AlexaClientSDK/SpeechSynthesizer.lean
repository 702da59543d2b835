import AlexaClientSDK.TemplateRuntime

/-!
# The speech synthesizer

`SpeechSynthesizer` plays the speech of Speak directives. A directive is pre-handled, which puts it into the queue, and
then handled, which makes it the current one if there is none and asks for the dialog channel. The focus manager answers
on a thread of its own, which waits for the state; everything else runs as tasks of one executor. A number stands for
the message id. Directives that were not pre-handled, the shutdown, metrics, captions, analyzers, the power resource,
the context and the offsets are left out.
-/

namespace AlexaClientSDK.SpeechSynthesizer

open FocusChannel (FocusState)
open TemplateRuntime (DialogUXState)
open AudioPlayer (PlayBehavior ChannelRequest SourceId)

inductive SpeechSynthesizerState
  | PLAYING
  | FINISHED
  | INTERRUPTED
  | GAINING_FOCUS
  | LOSING_FOCUS
deriving DecidableEq

structure SpeakDirectiveInfo where
  token : String
  attachmentReader : Bool
  sendPlaybackStartedMessage : Bool
  sendPlaybackFinishedMessage : Bool
  sendCompletedMessage : Bool
  isSetFailedCalled : Bool
  isPlaybackInitiated : Bool
  isHandled : Bool
  playBehavior : PlayBehavior

def SpeakDirectiveInfo.create : SpeakDirectiveInfo :=
  ⟨"",false,false,false,false,false,false,false,.replaceAll⟩

/-- `clear`. It leaves alone whether the directive was handled. -/
def SpeakDirectiveInfo.clear (info : SpeakDirectiveInfo) : SpeakDirectiveInfo :=
  {info with
    attachmentReader := false
    sendPlaybackStartedMessage := false
    sendPlaybackFinishedMessage := false
    sendCompletedMessage := false
    isSetFailedCalled := false
    isPlaybackInitiated := false}

/-- What `FindMember` finds. -/
inductive Member
  /-- There is no such member. -/
  | missing
  | invalid
  | string (value : String)

structure SpeakPayload where
  token : Member
  format : Member
  url : Member
  playBehavior : Member

/-- A directive that is pre-handled. -/
structure Speak where
  name : String
  /-- `getPayload`, if it can be parsed. -/
  payload : Option SpeakPayload
  /-- The content ids that `getAttachmentReader` makes a reader for. -/
  attachments : String → Bool

def stringToPlayBehavior (text : String) : Option PlayBehavior :=
  if text = "REPLACE_ALL" then some .replaceAll
  else if text = "ENQUEUE" then some .enqueue
  else if text = "REPLACE_ENQUEUED" then some .replaceEnqueued
  else none

/-- What stands behind `CID_PREFIX`, if a URL begins with it. -/
def contentId (url : String) : Option String :=
  if "cid:".toList.isPrefixOf url.toList then some (String.ofList (url.toList.drop "cid:".toList.length)) else none

inductive Happening
  | completed (directive : ℕ)
  | failed (directive : ℕ) (message : String)
  | cancelled (directive : ℕ)
  /-- `play` was called, with a reader or without one. -/
  | played (directive : ℕ) (attachmentReader : Bool)
  | sent (eventName : String) (token : String)

inductive Task
  | preHandle (directive : ℕ) (speak : Speak)
  | handle (directive : ℕ)
  | cancel (directive : ℕ)
  | stateChange (newState : SpeechSynthesizerState)
  | stateChangeTimeout
  | playbackStarted (id : SourceId)
  | playbackFinished (id : SourceId)
  | playbackStopped (id : SourceId)
  | playbackError (id : SourceId) (error : String)
  | dialogUXStateChanged (newState : DialogUXState)

/-- What the calls of a task return. No task makes one of them twice. -/
structure Answers where
  acquiresChannel : Bool
  /-- `setSource` gives an id other than `ERROR`. -/
  setsSource : Bool
  plays : Bool
  stops : Bool

structure Synthesizer where
  /-- One that was not made yet is as it will be made. -/
  info : ℕ → SpeakDirectiveInfo
  directives : ℕ
  speakInfoQueue : List ℕ
  currentInfo : Option ℕ
  currentState : SpeechSynthesizerState
  desiredState : SpeechSynthesizerState
  currentFocus : FocusState
  /-- `m_mediaSourceId`, if it is not `ERROR`. -/
  mediaSourceId : Option SourceId
  sources : ℕ
  initialDialogUXStateReceived : Bool
  /-- The tasks of `m_executor`, oldest first. -/
  tasks : List Task
  /-- The state that the thread of the focus manager waits for. -/
  waiting : Option SpeechSynthesizerState
  /-- The directive that was the current one at the last state change. -/
  captured : Option ℕ
  /-- The requests the focus manager has not answered, oldest first. -/
  requests : List ChannelRequest
  /-- The sources that play and whose end the media player has not told. -/
  owed : List SourceId
  history : List Happening

def create : Synthesizer where
  info := fun _ => .create
  directives := 0
  speakInfoQueue := []
  currentInfo := none
  currentState := .FINISHED
  desiredState := .FINISHED
  currentFocus := .none
  mediaSourceId := none
  sources := 0
  initialDialogUXStateReceived := false
  tasks := []
  waiting := none
  captured := none
  requests := []
  owed := []
  history := []

namespace Synthesizer

section

variable (s : Synthesizer)

def updateInfo (directive : ℕ) (f : SpeakDirectiveInfo → SpeakDirectiveInfo) : Synthesizer :=
  {s with info := Function.update s.info directive (f (s.info directive))}

def note (happening : Happening) : Synthesizer :=
  {s with history := s.history++[happening]}

/-- The focus manager is asked. -/
def request (r : ChannelRequest) : Synthesizer := {s with requests := s.requests++[r]}

def submit (task : Task) : Synthesizer := {s with tasks := s.tasks++[task]}

/-- A directive has its result, and its info is cleared. -/
def conclude (directive : ℕ) (happening : Happening) : Synthesizer :=
  (s.note happening).updateInfo directive SpeakDirectiveInfo.clear

/-- One directive after the other. -/
def concludeAll (directives : List ℕ) (happening : ℕ → Happening) : Synthesizer :=
  directives.foldl (fun s directive => s.conclude directive (happening directive)) s

def resetCurrentInfo : Synthesizer :=
  match s.currentInfo with
  | none => s
  | some current => {s.updateInfo current SpeakDirectiveInfo.clear with currentInfo := none}

def releaseForegroundFocus : Synthesizer :=
  {s with currentFocus := .none}.request .release

/-- In the state INTERRUPTED nothing is stopped. -/
def executePlaybackError (error : String) : Synthesizer :=
  match s.currentInfo with
  | none => s
  | some current =>
    let s := {s with
      desiredState := .INTERRUPTED
      currentState := .INTERRUPTED}.releaseForegroundFocus
    let s := s.concludeAll (current::s.speakInfoQueue) fun directive => .failed directive error
    {{s with speakInfoQueue := []}.resetCurrentInfo with mediaSourceId := none}

def stopPlaying (stops : Bool) : Synthesizer :=
  if s.mediaSourceId=none then s
  else if s.desiredState=.INTERRUPTED then s
  else if stops then {s with desiredState := .INTERRUPTED}
  else s.executePlaybackError "stopFailed"

section

variable (directive : ℕ)

def sendExceptionEncounteredAndReportFailed (message : String) (stops : Bool) : Synthesizer :=
  let s := s.conclude directive (.failed directive message)
  if s.currentState=.PLAYING ∨ s.currentState=.GAINING_FOCUS then
    (s.updateInfo directive fun info => {info with isSetFailedCalled := true}).stopPlaying stops
  else s

def sendExceptionEncounteredAndReportMissingProperty (key : String) (stops : Bool) : Synthesizer :=
  s.sendExceptionEncounteredAndReportFailed directive ("missing property: " ++ key) stops

def sendExceptionEncounteredAndReportUnexpectedPropertyType (key : String) (stops : Bool) : Synthesizer :=
  s.sendExceptionEncounteredAndReportFailed directive ("invalid property: " ++ key) stops

def executeHandleAfterValidation (a : Answers) : Synthesizer :=
  let s := s.updateInfo directive fun info => {info with isHandled := true}
  if s.currentInfo.isSome then s
  else if s.speakInfoQueue.head?≠some directive then
    s.sendExceptionEncounteredAndReportFailed directive ("UnexpectedId " ++ toString directive) a.stops
  else
    let s := {s with
      speakInfoQueue := s.speakInfoQueue.tail
      currentInfo := some directive
      desiredState := .PLAYING}
    if a.acquiresChannel then s.request .acquire
    else
      let s := s.sendExceptionEncounteredAndReportFailed directive "Could not acquire Dialog for SpeechSynthesizer"
        a.stops
      {s with desiredState := s.currentState}

/-- The front of the queue is handled if that was asked for. -/
def handleFront (a : Answers) : Synthesizer :=
  match s.speakInfoQueue with
  | [] => s
  | front::_ => if (s.info front).isHandled then s.executeHandleAfterValidation front a else s

/-- The end of a playback is told. -/
def tellFinished (current : ℕ) : Synthesizer :=
  let info := s.info current
  let interrupted : Bool := s.desiredState=.INTERRUPTED
  let s := {s with currentState := if interrupted then .INTERRUPTED else .FINISHED}
  let s := if info.sendPlaybackFinishedMessage then
      s.note (.sent (if interrupted then "SpeechInterrupted" else "SpeechFinished") info.token)
    else s
  if info.sendCompletedMessage then s.note (.completed current) else s

def executePlaybackFinished (a : Answers) : Synthesizer :=
  match s.currentInfo with
  | none => s
  | some current => {(s.tellFinished current).resetCurrentInfo.handleFront a with mediaSourceId := none}

def executeCancel (a : Answers) : Synthesizer :=
  if s.currentInfo≠some directive then
    {s.updateInfo directive SpeakDirectiveInfo.clear with speakInfoQueue := s.speakInfoQueue.erase directive}
  else
    let s := s.updateInfo directive fun info =>
      {info with sendPlaybackStartedMessage := false,sendCompletedMessage := false}
    if (s.info directive).isPlaybackInitiated then s.stopPlaying a.stops
    else
      let desiredState : SpeechSynthesizerState := if s.currentState=.FINISHED then .FINISHED else .INTERRUPTED
      let s := {s with desiredState := desiredState}.executePlaybackFinished a
      if s.currentInfo.isNone then s.releaseForegroundFocus else s

def clearPendingDirectives : Synthesizer :=
  {s.concludeAll s.speakInfoQueue Happening.completed with speakInfoQueue := []}

def addToDirectiveQueue (a : Answers) : Synthesizer :=
  match (s.info directive).playBehavior with
  | .enqueue => {s with speakInfoQueue := s.speakInfoQueue++[directive]}
  | .replaceEnqueued => {s.clearPendingDirectives with speakInfoQueue := [directive]}
  | .replaceAll =>
    let s := {s.clearPendingDirectives with speakInfoQueue := [directive]}
    match s.currentInfo with
    | none => s
    | some current => s.executeCancel current a

/-- The play behaviour is read, and the directive is put into the queue. -/
def preHandlePlayBehavior (playBehavior : Member) (a : Answers) : Synthesizer :=
  match playBehavior with
  | .missing =>
    (s.updateInfo directive fun info => {info with playBehavior := .replaceAll}).addToDirectiveQueue directive a
  | .invalid => s.sendExceptionEncounteredAndReportUnexpectedPropertyType directive "playBehavior" a.stops
  | .string behavior =>
    match stringToPlayBehavior behavior with
    | none => s.sendExceptionEncounteredAndReportFailed directive "failedToParsePlayBehavior" a.stops
    | some playBehavior =>
      (s.updateInfo directive fun info => {info with playBehavior := playBehavior}).addToDirectiveQueue directive a

/-- Without its attachment it is reported as failed, and goes on. -/
def preHandleUrl (speak : Speak) (payload : SpeakPayload) (a : Answers) : Synthesizer :=
  match payload.url with
  | .missing => s.sendExceptionEncounteredAndReportMissingProperty directive "url" a.stops
  | .invalid => s.sendExceptionEncounteredAndReportUnexpectedPropertyType directive "url" a.stops
  | .string url =>
    match contentId url with
    | none => s.sendExceptionEncounteredAndReportFailed directive "expectedCIDUrlPrefixNotFound" a.stops
    | some content =>
      let s := s.updateInfo directive fun info => {info with attachmentReader := speak.attachments content}
      let s := if (s.info directive).attachmentReader then s
        else s.sendExceptionEncounteredAndReportFailed directive "getAttachmentReaderFailed" a.stops
      s.preHandlePlayBehavior directive payload.playBehavior a

/-- A directive with another format is reported as failed, and goes on. -/
def preHandleFormat (speak : Speak) (payload : SpeakPayload) (a : Answers) : Synthesizer :=
  match payload.format with
  | .missing => s.sendExceptionEncounteredAndReportMissingProperty directive "format" a.stops
  | .invalid => s.sendExceptionEncounteredAndReportUnexpectedPropertyType directive "format" a.stops
  | .string format =>
    let s := if format ≠ "AUDIO_MPEG" then
        s.sendExceptionEncounteredAndReportFailed directive
          ("unknownFormat " ++ toString directive ++ " format " ++ format) a.stops
      else s
    s.preHandleUrl directive speak payload a

def executePreHandleAfterValidation (speak : Speak) (a : Answers) : Synthesizer :=
  if speak.name ≠ "Speak" then
    s.sendExceptionEncounteredAndReportFailed directive ("unexpectedDirective " ++ speak.name) a.stops
  else
    match speak.payload with
    | none =>
      s.sendExceptionEncounteredAndReportFailed directive ("unableToParsePayload" ++ toString directive) a.stops
    | some payload =>
      match payload.token with
      | .missing => s.sendExceptionEncounteredAndReportMissingProperty directive "token" a.stops
      | .invalid => s.sendExceptionEncounteredAndReportUnexpectedPropertyType directive "token" a.stops
      | .string token =>
        (s.updateInfo directive fun info => {info with token := token}).preHandleFormat directive speak payload a

/-- `validateInfo` is `create`, with which any directive starts. -/
def executePreHandle (speak : Speak) (a : Answers) : Synthesizer :=
  s.executePreHandleAfterValidation directive speak a

end

def startPlaying (current : ℕ) (a : Answers) : Synthesizer :=
  let attachmentReader := (s.info current).attachmentReader
  let s := s.updateInfo current fun info => {info with attachmentReader := false}
  if a.setsSource then
    let id := s.sources
    let s := {s with mediaSourceId := some id,sources := id+1}.note (.played current attachmentReader)
    if a.plays then {s with owed := id::s.owed} else s.executePlaybackError "playFailed"
  else {s with mediaSourceId := none}.executePlaybackError "playFailed"

/-- A directive whose playback begins sends its messages. -/
def initiate (current : ℕ) : Synthesizer :=
  s.updateInfo current fun info =>
    {info with
      sendPlaybackStartedMessage := true
      sendPlaybackFinishedMessage := true
      sendCompletedMessage := true
      isPlaybackInitiated := true}

/-- It is reported as failed, whether it was before or not. -/
def interrupt (current : ℕ) : Synthesizer :=
  (s.note (.failed current "Stopped due to SpeechSynthesizer going into INTERRUPTED state.")).updateInfo current
    fun info =>
      {info with
        sendCompletedMessage := false
        isSetFailedCalled := true}

def executeStateChange (newState : SpeechSynthesizerState) (a : Answers) : Synthesizer :=
  match s.currentInfo with
  | none => s
  | some current =>
    match newState with
    | .PLAYING => (s.initiate current).startPlaying current a
    | .INTERRUPTED =>
      if ((s.interrupt current).info current).isPlaybackInitiated then (s.interrupt current).stopPlaying a.stops
      else {s.interrupt current with desiredState := .INTERRUPTED}.executePlaybackFinished a
    | .FINISHED | .GAINING_FOCUS | .LOSING_FOCUS => s

/-- The task submitted when the state has not changed in time. -/
def executeStateChangeTimeout (a : Answers) : Synthesizer :=
  match s.currentInfo with
  | none => s
  | some current =>
    if s.captured=some current then
      s.sendExceptionEncounteredAndReportFailed current ("stateChangeTimeout messageId=" ++ toString current) a.stops
    else s

def executePlaybackStarted : Synthesizer :=
  match s.currentInfo with
  | none => s
  | some current =>
    let s := {s with
      currentState := .PLAYING
      desiredState := .FINISHED}
    if (s.info current).sendPlaybackStartedMessage then s.note (.sent "SpeechStarted" (s.info current).token) else s

def onPlaybackStarted (id : SourceId) : Synthesizer :=
  if s.mediaSourceId≠some id then s.executePlaybackError "executePlaybackStartedFailed"
  else s.executePlaybackStarted

def onPlaybackFinished (id : SourceId) (a : Answers) : Synthesizer :=
  if s.mediaSourceId≠some id then s.executePlaybackError "executePlaybackFinishedFailed"
  else s.executePlaybackFinished a

/-- A directive that is stopped is reported as failed, unless it was before. -/
def tellStopped (current : ℕ) : Synthesizer :=
  let s := s.updateInfo current fun info => {info with sendCompletedMessage := false}
  if (s.info current).isSetFailedCalled then s
  else
    (s.note (.failed current "Stopped due to MediaPlayer stopping.")).updateInfo current fun info =>
      {info with isSetFailedCalled := true}

def onPlaybackStopped (id : SourceId) (a : Answers) : Synthesizer :=
  match s.currentInfo with
  | none => s.executePlaybackError "UnexpectedId"
  | some current =>
    if s.mediaSourceId≠some id then s.executePlaybackError "UnexpectedId"
    else (s.tellStopped current).executePlaybackFinished a

def executeOnDialogUXStateChanged (newState : DialogUXState) : Synthesizer :=
  if s.initialDialogUXStateReceived=false then {s with initialDialogUXStateReceived := true}
  else if newState≠.idle then s
  else if s.currentFocus≠.none ∧ s.currentState≠.GAINING_FOCUS then
    {s.request .release with currentFocus := .none}
  else s

def execute (a : Answers) : Task → Synthesizer
  | .preHandle directive speak => s.executePreHandle directive speak a
  | .handle directive => s.executeHandleAfterValidation directive a
  | .cancel directive => s.executeCancel directive a
  | .stateChange newState => {s with captured := s.currentInfo}.executeStateChange newState a
  | .stateChangeTimeout => s.executeStateChangeTimeout a
  | .playbackStarted id => s.onPlaybackStarted id
  | .playbackFinished id => s.onPlaybackFinished id a
  | .playbackStopped id => s.onPlaybackStopped id a
  | .playbackError _ error => s.executePlaybackError error
  | .dialogUXStateChanged newState => s.executeOnDialogUXStateChanged newState

/-- The executor performs its oldest task. -/
def perform (a : Answers) : Synthesizer :=
  match s.tasks with
  | [] => s
  | task::rest => {s with tasks := rest}.execute a task

/-- It is submitted, and the focus manager's thread waits. -/
def awaitStateChange (desiredState : SpeechSynthesizerState) : Synthesizer :=
  {s.submit (.stateChange desiredState) with waiting := some desiredState}

/-- Speech that has not ended is to be interrupted. -/
def awaitInterrupted : Synthesizer :=
  if s.currentState=.INTERRUPTED ∨ s.currentState=.FINISHED then s else s.awaitStateChange .INTERRUPTED

/-- `onFocusChanged`, up to where it waits. -/
def onFocusChanged (newFocus : FocusState) : Synthesizer :=
  let s := {s with currentFocus := newFocus}
  if s.currentState=s.desiredState then s
  else
    match newFocus with
    | .foreground => {s with currentState := .GAINING_FOCUS}.awaitStateChange s.desiredState
    | .background => {s with currentState := .LOSING_FOCUS}.awaitInterrupted
    | .none => s.awaitInterrupted

end

end Synthesizer

/-- What can happen. -/
inductive Event
  | preHandleDirective (speak : Speak)
  | handleDirective (directive : ℕ)
  | cancelDirective (directive : ℕ)
  | onDialogUXStateChanged (newState : DialogUXState)
  | onPlaybackStarted (id : SourceId)
  | onPlaybackFinished (id : SourceId)
  | onPlaybackStopped (id : SourceId)
  | onPlaybackError (id : SourceId) (error : String)
  | acquired (newFocus : FocusState)
  /-- The focus manager answers a release: the channel was held, or it was not. -/
  | released (held : Bool)
  | focusChanged (newFocus : FocusState)
  /-- The thread of the focus manager sees the state it waits for. -/
  | stateChanged
  /-- It has waited for too long. -/
  | stateChangeTimeout
  /-- The executor performs its oldest task. -/
  | perform (a : Answers)

section

variable (s : Synthesizer)

/-- The focus manager answers in order, not while its thread waits. -/
def Possible : Event → Prop
  | .handleDirective directive | .cancelDirective directive => directive<s.directives
  | .acquired newFocus => s.requests.head?=some .acquire ∧ newFocus≠.none ∧ s.waiting=none
  | .released _ => s.requests.head?=some .release ∧ s.waiting=none
  | .focusChanged _ => s.waiting=none
  | .stateChanged => s.waiting=some s.currentState
  | .stateChangeTimeout => s.waiting≠none ∧ s.waiting≠some s.currentState
  | _ => True

def Synthesizer.next : Event → Synthesizer
  | .preHandleDirective speak => {s with directives := s.directives+1}.submit (.preHandle s.directives speak)
  | .handleDirective directive => s.submit (.handle directive)
  | .cancelDirective directive => (s.note (.cancelled directive)).submit (.cancel directive)
  | .onDialogUXStateChanged newState => s.submit (.dialogUXStateChanged newState)
  | .onPlaybackStarted id => s.submit (.playbackStarted id)
  | .onPlaybackFinished id => {s with owed := s.owed.erase id}.submit (.playbackFinished id)
  | .onPlaybackStopped id => {s with owed := s.owed.erase id}.submit (.playbackStopped id)
  | .onPlaybackError id error => {s with owed := s.owed.erase id}.submit (.playbackError id error)
  | .acquired newFocus => {s with requests := s.requests.tail}.onFocusChanged newFocus
  | .released held =>
    let s := {s with requests := s.requests.tail}
    if held then s.onFocusChanged .none else s
  | .focusChanged newFocus => s.onFocusChanged newFocus
  | .stateChanged => {s with waiting := none}
  | .stateChangeTimeout => {s with waiting := none}.submit .stateChangeTimeout
  | .perform a => s.perform a

def Step (event : Event) (t : Synthesizer) : Prop := Possible s event ∧ t=s.next event

theorem step_next {s : Synthesizer} (event : Event) (h : Possible s event) : Step s event (s.next event) := ⟨h,rfl⟩

def Answered (directive : ℕ) : Prop :=
  Happening.completed directive∈s.history ∨ ∃ message,Happening.failed directive message∈s.history

def Cancelled (directive : ℕ) : Prop := Happening.cancelled directive∈s.history

def Done (directive : ℕ) : Prop := Answered s directive ∨ Cancelled s directive

end

theorem Answered.mono {s t : Synthesizer} {directive : ℕ} (h : Answered s directive)
    (hpast : ∀ happening∈s.history,happening∈t.history) : Answered t directive := by
  obtain hcompleted|⟨message,hfailed⟩ := h
  · exact .inl (hpast _ hcompleted)
  · exact .inr ⟨message,hpast _ hfailed⟩

theorem Done.mono {s t : Synthesizer} {directive : ℕ} (h : Done s directive)
    (hpast : ∀ happening∈s.history,happening∈t.history) : Done t directive :=
  h.imp (fun hanswered => hanswered.mono hpast) (hpast _)

end AlexaClientSDK.SpeechSynthesizer
