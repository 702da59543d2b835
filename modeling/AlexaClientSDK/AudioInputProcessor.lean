import AlexaClientSDK.TemplateRuntime

/-!
# The audio input processor

A recognition opens an audio reader, asks for the context, acquires the dialog channel and sends a Recognize event with
the reader. A StopCapture ends capturing, once the event was sent. ExpectSpeech opens a time window; its timer is a
thread of its own, and all else runs as tasks of one executor. The metrics, the sounds, the observers, the power
resource and the closing points of the readers are left out. Beside the members stands what happened.
-/

namespace AlexaClientSDK.AudioInputProcessor

open FocusChannel
open TemplateRuntime (DialogUXState)

inductive Encoding
  | LPCM
  | OPUS
deriving DecidableEq

inductive Endianness
  | LITTLE
  | BIG
deriving DecidableEq

/-- `AudioFormat`, as far as a recognition looks at it. -/
structure AudioFormat where
  encoding : Encoding
  endianness : Endianness
  sampleRateHz : ℕ
  sampleSizeInBits : ℕ
  numChannels : ℕ

inductive ASRProfile
  | CLOSE_TALK
  | NEAR_FIELD
  | FAR_FIELD
deriving DecidableEq

structure AudioProvider where
  /-- `stream`, if it is not null. -/
  stream : Option ℕ
  format : AudioFormat
  profile : ASRProfile
  alwaysReadable : Bool
  canOverride : Bool
  canBeOverridden : Bool

def AudioProvider.null : AudioProvider := ⟨none,⟨.LPCM,.LITTLE,0,0,0⟩,.CLOSE_TALK,false,false,false⟩

/-- The format a recognition tells, or that the format is not supported. -/
def AudioFormat.avsEncodingFormat (format : AudioFormat) : Option String :=
  let name :=
    match format.encoding with
    | .LPCM =>
      if format.sampleRateHz≠16000 then none
      else if format.sampleSizeInBits≠16 then none
      else some "AUDIO_L16_RATE_16000_CHANNELS_1"
    | .OPUS => if format.sampleRateHz=32000 then some "OPUS" else none
  if format.endianness≠.LITTLE then none
  else if format.numChannels≠1 then none
  else name

def INVALID_INDEX : ℕ := 18446744073709551615

/-- The number of values of an `AudioInputStream::Index`. -/
def INDEX_VALUES : ℕ := 18446744073709551616

inductive Initiator
  | PRESS_AND_HOLD
  | TAP
  | WAKEWORD
deriving DecidableEq

/-- The JSON object that tells who initiated a recognition. -/
structure InitiatorJson where
  type : Initiator
  /-- `startIndexInSamples` and `endIndexInSamples`. -/
  wakeWordIndices : Option (ℕ × ℕ)
  wakeWord : Option String
  token : Option String

inductive InitiatorMember
  | generated (json : InitiatorJson)
  /-- It comes with an ExpectSpeech directive. -/
  | raw (json : String)

structure RecognizePayload where
  profile : ASRProfile
  format : String
  initiator : Option InitiatorMember
  startOfSpeechTimestamp : ℤ

/-- An attachment reader over the audio, with the number of its recognition. -/
structure Reader where
  number : ℕ
  /-- The stream, which is not read itself if there is an encoder. -/
  stream : ℕ
  encoded : Bool
  /-- Where it starts, if not at the writer. -/
  offset : Option ℕ

structure RecognizeRequest where
  dialogRequestId : String
  payload : RecognizePayload
  jsonContext : String
  wakewordEngineMetadata : Option String
  audio : Reader

inductive Event
  | recognize (request : RecognizeRequest)
  | expectSpeechTimedOut (timer expectation : ℕ)

structure DirectiveInfo where
  number : ℕ
  isCancelled : Bool
  result : Bool

structure StopCapture where
  stopImmediately : Bool
  info : Option DirectiveInfo
  /-- The number of recognitions accepted before. -/
  capture : ℕ

inductive State
  | IDLE
  | EXPECTING_SPEECH
  | RECOGNIZING
  | BUSY
deriving DecidableEq

inductive ExpectingSpeechTimer
  | off
  | running (expectation : ℕ)
  /-- The thread has submitted its task and is about to end. -/
  | expired
deriving DecidableEq

structure Processor where
  /-- `m_encoder`, with the format its context tells. -/
  encoder : Option (Option String)
  defaultAudioProvider : AudioProvider
  lastAudioProvider : AudioProvider
  reader : Option Reader
  KWDMetadataReader : Option String
  recognizePayload : Option RecognizePayload
  recognizeRequest : Option RecognizeRequest
  recognizeRequestSent : Option RecognizeRequest
  state : State
  focusState : FocusState
  preparingToSend : Bool
  deferredStopCapture : Option StopCapture
  initialDialogUXStateReceived : Bool
  localStopCapturePerformed : Bool
  precedingExpectSpeechInitiator : Option String
  /-- `m_preCachedDialogRequestId`, if it is not empty. -/
  preCachedDialogRequestId : Option String
  dialogRequestId : String
  expectingSpeechTimer : ExpectingSpeechTimer
  /-- The tasks submitted by timers that have expired, oldest first. -/
  timerTasks : List ℕ
  /-- Those whose context was requested and has not come, oldest first. -/
  contexts : List ℕ
  recognitions : List RecognizePayload
  /-- The number of ExpectSpeech directives that were accepted. -/
  expectations : ℕ
  events : List Event
  /-- Where the stop was accepted, and which capture was the newest then. -/
  stops : List (ℕ × ℕ)
  results : List (ℕ × Option String)
  nullDereferenced : Bool

def create (encoder : Option (Option String)) (defaultAudioProvider : AudioProvider) : Processor where
  encoder := encoder
  defaultAudioProvider := defaultAudioProvider
  lastAudioProvider := .null
  reader := none
  KWDMetadataReader := none
  recognizePayload := none
  recognizeRequest := none
  recognizeRequestSent := none
  state := .IDLE
  focusState := .none
  preparingToSend := false
  deferredStopCapture := none
  initialDialogUXStateReceived := false
  localStopCapturePerformed := false
  precedingExpectSpeechInitiator := none
  preCachedDialogRequestId := none
  dialogRequestId := ""
  expectingSpeechTimer := .off
  timerTasks := []
  contexts := []
  recognitions := []
  expectations := 0
  events := []
  stops := []
  results := []
  nullDereferenced := false

structure RecognizeCall where
  audioProvider : AudioProvider
  initiator : Initiator
  startOfSpeechTimestamp : ℤ
  begin : ℕ
  keywordEnd : ℕ
  keyword : String
  KWDMetadata : Option String
  initiatorToken : String

/-- What the calls of a recognition return. -/
structure Answers where
  /-- Where the stream is, if a reader can be made for it. -/
  tell : Option ℕ
  startsEncoding : Bool
  createsReader : Bool
  createsMetadataReader : Bool
  uuid : String

namespace Processor

section

variable (s : Processor)

def report (info : Option DirectiveInfo) (failure : Option String) : Processor :=
  match info with
  | some info => if info.result then {s with results := s.results++[(info.number,failure)]} else s
  | none => s

/-- The function object of a StopCapture is called. -/
def stopCapture (stop : StopCapture) : Processor :=
  let s := if s.encoder=none ∧ s.reader=none then {s with nullDereferenced := true} else s
  {s with
    reader := none
    state := .BUSY
    stops := s.stops++[(stop.capture,s.recognitions.length)]}.report stop.info none

def executeStopCapture (stopImmediately : Bool) (info : Option DirectiveInfo) : Processor :=
  if info.any DirectiveInfo.isCancelled then s
  else if s.state≠.RECOGNIZING then
    if info.any DirectiveInfo.result then
      if s.localStopCapturePerformed then {s with localStopCapturePerformed := false}.report info none
      else s.report info (some "StopCapture only allowed in RECOGNIZING state.")
    else s
  else
    let s := {s with localStopCapturePerformed := s.localStopCapturePerformed || info.isNone}
    let stop : StopCapture := ⟨stopImmediately,info,s.recognitions.length⟩
    if s.preparingToSend then {s with deferredStopCapture := some stop} else s.stopCapture stop

def executeResetState : Processor :=
  {s with
    expectingSpeechTimer := .off
    precedingExpectSpeechInitiator := none
    reader := none
    KWDMetadataReader := none
    recognizeRequestSent := none
    recognizeRequest := none
    preparingToSend := false
    deferredStopCapture := none
    focusState := .none
    state := .IDLE}

def sendRequestNow : Processor :=
  match s.recognizeRequest with
  | none => s
  | some request =>
    let s := {s with
      recognizeRequestSent := some request
      events := s.events++[Event.recognize request]
      recognizeRequest := none
      preparingToSend := false}
    match s.deferredStopCapture with
    | none => s
    | some stop => {s.stopCapture stop with deferredStopCapture := none}

def buildRequest (payload : RecognizePayload) (reader : Reader) (jsonContext : String) : Processor :=
  let s := match s.preCachedDialogRequestId with
    | some id => {s with dialogRequestId := id,preCachedDialogRequestId := none}
    | none => s
  {s with
    recognizeRequest := some ⟨s.dialogRequestId,payload,jsonContext,s.KWDMetadataReader,reader⟩
    KWDMetadataReader := none}

def executeOnContextAvailable (jsonContext : String) (acquiresChannel : Bool) : Processor :=
  if s.state≠.RECOGNIZING then s
  else
    match s.reader,s.recognizePayload with
    | none,_ => s.executeResetState
    | some _,none => s.executeResetState
    | some reader,some payload =>
      if s.focusState≠.foreground ∧ acquiresChannel=false then s.executeResetState
      else
        let s := s.buildRequest payload reader jsonContext
        if s.focusState=.foreground then s.sendRequestNow else s

def executeOnContextFailure : Processor := s.executeResetState

def executeOnFocusChanged (newFocus : FocusState) : Processor :=
  let s := {s with focusState := newFocus}
  if newFocus≠.foreground then s.executeResetState
  else if s.state≠.RECOGNIZING then s
  else s.sendRequestNow

section

variable (provider : AudioProvider)

/-- A running capture may be given up for another provider. -/
def admits : Bool :=
  match s.state with
  | .IDLE | .EXPECTING_SPEECH => true
  | .RECOGNIZING => s.lastAudioProvider.canBeOverridden && provider.canOverride
  | .BUSY => false

/-- An initiator that came with an ExpectSpeech directive goes first. -/
def payloadOf (format : String) (initiatorJson : Option InitiatorJson)
    (startOfSpeechTimestamp : ℤ) : RecognizePayload where
  profile := provider.profile
  format := format
  initiator :=
    match s.precedingExpectSpeechInitiator with
    | some json => if json = "" then none else some (.raw json)
    | none => initiatorJson.map .generated
  startOfSpeechTimestamp := startOfSpeechTimestamp

/-- The end of `executeRecognize`, when there is a reader. -/
def startCapture (payload : RecognizePayload) (reader : Reader)
    (KWDMetadata : Option String) (answers : Answers) : Processor :=
  {s with
    reader := some reader
    KWDMetadataReader :=
      match KWDMetadata with
      | some metadata => if answers.createsMetadataReader then some metadata else none
      | none => s.KWDMetadataReader
    preCachedDialogRequestId := some answers.uuid
    state := .RECOGNIZING
    preparingToSend := true
    localStopCapturePerformed := false
    contexts := s.contexts++[s.recognitions.length]
    expectingSpeechTimer := .off
    lastAudioProvider := provider
    recognizePayload := some payload
    recognizeRequest := none
    recognitions := s.recognitions++[payload]}

/-- `executeRecognize`, and whether the recognition is accepted. -/
def executeRecognize (initiatorJson : Option InitiatorJson)
    (startOfSpeechTimestamp : ℤ) (begin : ℕ) (KWDMetadata : Option String) (answers : Answers) : Processor × Bool :=
  match provider.stream,provider.format.avsEncodingFormat with
  | none,_ => (s,false)
  | some _,none => (s,false)
  | some stream,some avsEncodingFormat =>
    if !s.admits provider then (s,false)
    else
      let format := (s.encoder.bind id).getD avsEncodingFormat
      let payload := s.payloadOf provider format initiatorJson startOfSpeechTimestamp
      let s := {s with
        reader := if s.state=.RECOGNIZING then none else s.reader
        precedingExpectSpeechInitiator := none}
      let offset := if begin=INVALID_INDEX ∨ s.encoder.isSome then none else some begin
      if s.encoder.isSome && !answers.startsEncoding then (s,false)
      else if !answers.createsReader then ({s with reader := none},false)
      else
        let reader : Reader := ⟨s.recognitions.length,stream,s.encoder.isSome,offset⟩
        (s.startCapture provider payload reader KWDMetadata answers,true)

end

def executeRecognizeCall (call : RecognizeCall) (begin : ℕ) (answers : Answers) : Processor × Bool :=
  if call.initiator=.WAKEWORD ∧ call.keyword = "" then (s,false)
  else
    let preroll := call.audioProvider.format.sampleRateHz / 2
    let falseWakewordDetection := decide (call.initiator=.WAKEWORD ∧ begin≠INVALID_INDEX ∧ preroll≤begin ∧
      call.keywordEnd≠INVALID_INDEX)
    let initiatorJson : InitiatorJson := {
      type := call.initiator
      wakeWordIndices :=
        if falseWakewordDetection then
          some (preroll,(preroll+call.keywordEnd+(INDEX_VALUES-begin))%INDEX_VALUES)
        else none
      wakeWord := if call.keyword = "" then none else some call.keyword.toUpper
      token := if call.initiatorToken = "" then none else some call.initiatorToken}
    let begin := if falseWakewordDetection then begin-preroll else begin
    s.executeRecognize call.audioProvider (some initiatorJson) call.startOfSpeechTimestamp begin call.KWDMetadata answers

/-- `recognize`, with the task it submits. -/
def recognize (call : RecognizeCall) (answers : Answers) : Processor × Bool :=
  if call.keyword.toUpper = "STOP" then (s,false)
  else if call.audioProvider.stream.isSome ∧ call.begin=INVALID_INDEX then
    match answers.tell with
    | none => (s,false)
    | some begin => s.executeRecognizeCall call begin answers
  else s.executeRecognizeCall call call.begin answers

def startTimer : Processor :=
  if s.expectingSpeechTimer=.off then {s with expectingSpeechTimer := .running s.expectations} else s

theorem startTimer_cases : ∃ timer,s.startTimer={s with expectingSpeechTimer := timer} ∧
    (timer=.running s.expectations ∨ timer=s.expectingSpeechTimer) := by
  unfold startTimer
  split
  · exact ⟨_,rfl,.inl rfl⟩
  · exact ⟨_,rfl,.inr rfl⟩

/-- `executeExpectSpeech`, with the initiator of the directive. -/
def executeExpectSpeech (info : DirectiveInfo) (initiator : Option String) (now : ℤ) (answers : Answers) : Processor :=
  if info.isCancelled then s
  else if s.state≠.IDLE ∧ s.state≠.BUSY then
    s.report (some info) (some "ExpectSpeech only allowed in IDLE or BUSY state.")
  else
    let s := {s with precedingExpectSpeechInitiator := some (initiator.getD "")}.startTimer
    let s := {s with state := .EXPECTING_SPEECH,expectations := s.expectations+1}.report (some info) none
    if s.lastAudioProvider.stream.isSome ∧ s.lastAudioProvider.alwaysReadable then
      (s.executeRecognize s.lastAudioProvider none now INVALID_INDEX none answers).1
    else if s.defaultAudioProvider.stream.isSome ∧ s.defaultAudioProvider.alwaysReadable then
      (s.executeRecognize s.defaultAudioProvider none now INVALID_INDEX none answers).1
    else s

def executeExpectSpeechTimedOut (timer : ℕ) : Processor :=
  if s.state≠.EXPECTING_SPEECH then s
  else
    {s with
      precedingExpectSpeechInitiator := none
      events := s.events++[Event.expectSpeechTimedOut timer (s.expectations-1)]
      state := .IDLE}

def executeOnDialogUXStateChanged (newState : DialogUXState) : Processor :=
  if !s.initialDialogUXStateReceived then {s with initialDialogUXStateReceived := true}
  else if newState≠.idle then s
  else s.executeResetState

def executeDisconnected : Processor := if s.state≠.IDLE then s.executeResetState else s

end

end Processor

inductive ProcessorTask
  | recognize (call : RecognizeCall) (answers : Answers)
  | stopCapture
  | stopCaptureDirective (info : DirectiveInfo)
  | resetState
  | contextAvailable (jsonContext : String) (acquiresChannel : Bool)
  | contextFailure
  | focusChanged (newFocus : FocusState)
  | dialogUXStateChanged (newState : DialogUXState)
  | expectSpeech (info : DirectiveInfo) (initiator : Option String) (now : ℤ) (answers : Answers)
  | timerExpires
  | timerEnds
  | expectSpeechTimedOut
  /-- `onSendCompleted`, with a status of success or pending, or another one. -/
  | sendCompleted (success : Bool)
  /-- `onConnectionStatusChanged`, to not connected. -/
  | disconnected

def Processor.perform (s : Processor) : ProcessorTask → Processor
  | .recognize call answers => (s.recognize call answers).1
  | .stopCapture => s.executeStopCapture false none
  | .stopCaptureDirective info => s.executeStopCapture true (some info)
  | .resetState => s.executeResetState
  | .contextAvailable jsonContext acquiresChannel =>
    {s with contexts := s.contexts.tail}.executeOnContextAvailable jsonContext acquiresChannel
  | .contextFailure => {s with contexts := s.contexts.tail}.executeOnContextFailure
  | .focusChanged newFocus => s.executeOnFocusChanged newFocus
  | .dialogUXStateChanged newState => s.executeOnDialogUXStateChanged newState
  | .expectSpeech info initiator now answers => s.executeExpectSpeech info initiator now answers
  | .timerExpires =>
    match s.expectingSpeechTimer with
    | .running expectation =>
      {s with expectingSpeechTimer := .expired,timerTasks := s.timerTasks++[expectation]}
    | .off | .expired => s
  | .timerEnds => if s.expectingSpeechTimer=.expired then {s with expectingSpeechTimer := .off} else s
  | .expectSpeechTimedOut =>
    match s.timerTasks with
    | timer::rest => {s with timerTasks := rest}.executeExpectSpeechTimedOut timer
    | [] => s
  | .sendCompleted success => if success then s.executeStopCapture false none else s.executeResetState
  | .disconnected => s.executeDisconnected

end AlexaClientSDK.AudioInputProcessor
