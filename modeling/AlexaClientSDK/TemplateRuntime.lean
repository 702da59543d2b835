import Mathlib.Data.List.Infix
import AlexaClientSDK.AudioPlayer

/-!
# Display cards

`TemplateRuntime` shows one card at a time: that of the last RenderTemplate directive, or of the audio item that is
played. It acquires the visual channel before and releases it when the card is cleared; cards that arrive in between
wait. The timer that clears a card submits a task. The observers and the results of the directives are left out.
-/

namespace AlexaClientSDK.TemplateRuntime

open Function FocusChannel AudioPlayer

inductive State
  | idle
  | acquiring
  | displaying
  | releasing
  | reacquiring
deriving DecidableEq

inductive CardName
  | renderTemplate
  | renderPlayerInfo
deriving DecidableEq

inductive DialogUXState
  | idle
  | listening
  | expecting
  | thinking
  | speaking
  | finished
deriving DecidableEq

/-- A `DirectiveInfo`, told apart by its number. -/
structure Directive where
  number : ℕ
  name : CardName
  payload : String
deriving DecidableEq

structure AudioItemPair where
  audioItemId : String
  directive : Option Directive

structure AudioPlayerInfo where
  audioPlayerState : PlayerActivity
  offset : ℕ

/-- What the observers are told. -/
inductive Call
  | renderTemplateCard (directive : Directive) (focus : FocusState)
  | clearTemplateCard
  | renderPlayerInfoCard (directive : Directive) (info : AudioPlayerInfo) (focus : FocusState)
  | clearPlayerInfoCard

/-- The three configured time-outs. -/
inductive Timeout
  | ttsFinished
  | audioPlaybackFinished
  | audioPlaybackStoppedPaused
deriving DecidableEq

inductive ClearTimer
  | off
  | running (number : ℕ) (timeout : Timeout)
  /-- The thread has submitted its task and is about to end; `m_running` is still set. -/
  | expired
deriving DecidableEq

/-- What the payload of a RenderPlayerInfo directive turns out to be. -/
inductive PlayerInfoPayload
  | malformed
  | noAudioItemId
  | audioItem (audioItemId : String)

structure Runtime (ρ : Type) where
  audioItemsInExecution : ρ → AudioItemPair
  activeRenderPlayerInfoCardsProvider : Option ρ
  audioItems : List (String × Directive)
  audioPlayerInfo : ρ → AudioPlayerInfo
  lastDisplayedDirective : Option Directive
  isRenderTemplateLastReceived : Bool
  focus : FocusState
  state : State
  clearDisplayTimer : ClearTimer
  timers : ℕ
  /-- The tasks submitted by timers that have expired, oldest first. -/
  timerTasks : List ℕ
  directives : ℕ
  /-- The requests the focus manager has not answered, oldest first. -/
  requests : List ChannelRequest
  calls : List Call
  exceptions : List String

variable {ρ : Type}

/-- A new `TemplateRuntime`. -/
def create (ρ : Type) : Runtime ρ where
  audioItemsInExecution := fun _ => ⟨"",none⟩
  activeRenderPlayerInfoCardsProvider := none
  audioItems := []
  audioPlayerInfo := fun _ => ⟨.idle,0⟩
  lastDisplayedDirective := none
  isRenderTemplateLastReceived := false
  focus := .none
  state := .idle
  clearDisplayTimer := .off
  timers := 0
  timerTasks := []
  directives := 0
  requests := []
  calls := []
  exceptions := []

def MAXIMUM_QUEUE_SIZE : ℕ := 100

/-- `audioItemId.find(part) != npos`. -/
def mentions (audioItemId part : String) : Bool := decide (part.toList <:+: audioItemId.toList)

namespace Runtime

section

variable (s : Runtime ρ)

/-- The observers are told something. -/
def tell (call : Call) : Runtime ρ := {s with calls := s.calls++[call]}

/-- `acquireChannel`. What it returns is not looked at. -/
def acquireChannel (accepted : Bool) : Runtime ρ :=
  if accepted then {s with requests := s.requests++[.acquire]} else s

def releaseChannel : Runtime ρ := {s with requests := s.requests++[.release]}

/-- `executeStartTimer`. A timer that is on is not started again. -/
def executeStartTimer (timeout : Timeout) : Runtime ρ :=
  if s.state=.displaying ∧ s.clearDisplayTimer=.off then
    {s with clearDisplayTimer := .running s.timers timeout,timers := s.timers+1}
  else s

/-- `executeStopTimer`: the thread is joined. -/
def executeStopTimer : Runtime ρ := {s with clearDisplayTimer := .off}

def executeRenderTemplateCallbacks (directive : Directive) (isClearCard : Bool) : Runtime ρ :=
  if isClearCard then s.tell .clearTemplateCard else s.tell (.renderTemplateCard directive s.focus)

def executeRenderPlayerInfoCallbacks (isClearCard : Bool) : Runtime ρ :=
  if isClearCard then s.tell .clearPlayerInfoCard
  else
    match s.activeRenderPlayerInfoCardsProvider with
    | none => s
    | some provider =>
      match (s.audioItemsInExecution provider).directive with
      | none => s
      | some directive => s.tell (.renderPlayerInfoCard directive (s.audioPlayerInfo provider) s.focus)

def executeDisplayCard : Runtime ρ :=
  match s.lastDisplayedDirective with
  | none => s
  | some directive =>
    match directive.name with
    | .renderTemplate => s.executeStopTimer.executeRenderTemplateCallbacks directive false
    | .renderPlayerInfo => s.executeRenderPlayerInfoCallbacks false

def executeClearCard : Runtime ρ :=
  match s.lastDisplayedDirective with
  | none => s
  | some directive =>
    match directive.name with
    | .renderTemplate => s.executeRenderTemplateCallbacks directive true
    | .renderPlayerInfo => s.executeRenderPlayerInfoCallbacks true

def executeDisplayCardEvent (info : Directive) (accepted : Bool) : Runtime ρ :=
  let s := {s with lastDisplayedDirective := some info}
  match s.state with
  | .idle => {s.acquireChannel accepted with state := .acquiring}
  | .acquiring => s
  | .displaying => s.executeDisplayCard
  | .releasing => {s with state := .reacquiring}
  | .reacquiring => s

def executeCardClearedEvent : Runtime ρ :=
  match s.state with
  | .displaying => {s.releaseChannel with state := .releasing}
  | .idle | .acquiring | .releasing | .reacquiring => s

def executeTimerEvent : Runtime ρ :=
  match s.state with
  | .displaying => {s.executeClearCard.releaseChannel with state := .releasing}
  | .idle | .acquiring | .releasing | .reacquiring => s

/-- `executeOnFocusChangedEvent` for `FOREGROUND` and `BACKGROUND`. -/
def onFocusGained : Runtime ρ :=
  match s.state with
  | .idle | .reacquiring | .releasing => {s.releaseChannel with state := .releasing}
  | .acquiring => {s.executeDisplayCard with state := .displaying}
  | .displaying => s.executeDisplayCard

/-- `executeOnFocusChangedEvent` for `NONE`. -/
def onFocusLost (accepted : Bool) : Runtime ρ :=
  match s.state with
  | .idle => s
  | .acquiring | .releasing => {s with state := .idle}
  | .displaying => {s.executeClearCard with state := .idle}
  | .reacquiring => {s.acquireChannel accepted with state := .acquiring}

def executeOnFocusChangedEvent (newFocus : FocusState) (accepted : Bool) : Runtime ρ :=
  let s := {s with focus := newFocus}
  match newFocus with
  | .foreground | .background => s.onFocusGained
  | .none => s.onFocusLost accepted

def nextDirective (name : CardName) (payload : String) : Directive :=
  ⟨s.directives,name,payload⟩

/-- The task of `handleRenderTemplateDirective`. -/
def handleRenderTemplate (payload : String) (accepted : Bool) : Runtime ρ :=
  let info := s.nextDirective .renderTemplate payload
  let s := {s with directives := s.directives+1,isRenderTemplateLastReceived := true}
  s.executeDisplayCardEvent info accepted

def sendException (message : String) : Runtime ρ :=
  {s with exceptions := s.exceptions++[message]}

def plays (audioItemId : String) (provider : ρ) : Bool :=
  (s.audioItemsInExecution provider).audioItemId ≠ "" &&
    mentions audioItemId (s.audioItemsInExecution provider).audioItemId

/-- A card waits for its audio item. If too many do, the oldest does no longer. -/
def pushAudioItem (audioItemId : String) (info : Directive) : Runtime ρ :=
  let waiting := if s.audioItems.length=MAXIMUM_QUEUE_SIZE then s.audioItems.dropLast else s.audioItems
  {s with audioItems := (audioItemId,info)::waiting}

end

variable [DecidableEq ρ]

section

variable (s : Runtime ρ)

/-- With its provider and the offset that this returns. -/
def handleRenderPlayerInfo (payload : String) (content : PlayerInfoPayload)
    (found : Option ρ) (offset : ℕ) (accepted : Bool) : Runtime ρ :=
  let info := s.nextDirective .renderPlayerInfo payload
  let s := {s with directives := s.directives+1,isRenderTemplateLastReceived := false}
  match content with
  | .malformed => s.sendException "Unable to parse payload"
  | .noAudioItemId => s.sendException "missing audioItemId"
  | .audioItem audioItemId =>
    match found with
    | none => s.pushAudioItem audioItemId info
    | some provider =>
      let s := {s with
        audioItemsInExecution := update s.audioItemsInExecution provider
          ⟨(s.audioItemsInExecution provider).audioItemId,some info⟩
        activeRenderPlayerInfoCardsProvider := some provider
        audioPlayerInfo := update s.audioPlayerInfo provider ⟨(s.audioPlayerInfo provider).audioPlayerState,offset⟩}
      let s := s.executeStopTimer.executeDisplayCardEvent info accepted
      {s with audioItems := []}

section

variable (state : PlayerActivity)

def executeAudioPlayerStartTimer : Runtime ρ :=
  match state with
  | .playing => s.executeStopTimer
  | .paused | .stopped => s.executeStartTimer .audioPlaybackStoppedPaused
  | .finished => s.executeStartTimer .audioPlaybackFinished
  | .idle | .bufferUnderrun => s

/-- Its card, and those that wait longer, are taken. -/
def changeAudioItem (provider : ρ) (audioItemId : String) : Runtime ρ :=
  match s.audioItems.findIdx? fun item => mentions item.1 audioItemId with
  | none =>
    {s with
      audioItemsInExecution := update s.audioItemsInExecution provider ⟨audioItemId,none⟩}
  | some index =>
    {s with
      audioItemsInExecution := update s.audioItemsInExecution provider ⟨audioItemId,(s.audioItems[index]?).map Prod.snd⟩
      activeRenderPlayerInfoCardsProvider := some provider
      audioItems := s.audioItems.take index}

/-- The end of `executeAudioPlayerInfoUpdates`. -/
def displayPlayerInfo (provider : ρ) (isStateUpdated accepted : Bool) : Runtime ρ :=
  if s.isRenderTemplateLastReceived && state≠.playing then s
  else
    let s := {s with isRenderTemplateLastReceived := false}
    match (s.audioItemsInExecution provider).directive with
    | some directive =>
      let s := if isStateUpdated then s.executeAudioPlayerStartTimer state else s
      s.executeDisplayCardEvent directive accepted
    | none => if s.state=.acquiring then {s with state := .releasing} else s

/-- `executeAudioPlayerInfoUpdates`, with the members of the context. -/
def executeAudioPlayerInfoUpdates (mediaProperties : Option ρ)
    (audioItemId : String) (offset : ℕ) (accepted : Bool) : Runtime ρ :=
  if state=.idle ∨ state=.bufferUnderrun then s
  else
    match mediaProperties with
    | none => s
    | some provider =>
      let isStateUpdated := decide ((s.audioPlayerInfo provider).audioPlayerState≠state)
      let isItemUpdated := decide ((s.audioItemsInExecution provider).audioItemId≠audioItemId)
      if !isStateUpdated && !isItemUpdated then s
      else
        let s := {s with audioPlayerInfo := update s.audioPlayerInfo provider ⟨state,offset⟩}
        let s := if isItemUpdated then s.changeAudioItem provider audioItemId else s
        s.displayPlayerInfo state provider isStateUpdated accepted

end

def executeOnDialogUXStateChanged (newState : DialogUXState) : Runtime ρ :=
  match s.state,s.lastDisplayedDirective with
  | .displaying,some directive =>
    match directive.name,newState with
    | .renderTemplate,.idle => s.executeStartTimer .ttsFinished
    | .renderTemplate,.expecting | .renderTemplate,.speaking => s.executeStopTimer
    | _,_ => s
  | _,_ => s

end

end Runtime

/-- The tasks of the executor, and what the thread of the timer does. -/
inductive RuntimeTask (ρ : Type)
  | renderTemplate (payload : String) (accepted : Bool)
  | renderPlayerInfo (payload : String) (content : PlayerInfoPayload) (found : Option ρ) (offset : ℕ) (accepted : Bool)
  /-- `onRenderPlayerCardsInfoChanged`. -/
  | audioPlayerUpdate (state : PlayerActivity) (mediaProperties : Option ρ) (audioItemId : String) (offset : ℕ)
      (accepted : Bool)
  | dialogUXStateChanged (newState : DialogUXState)
  | cardCleared
  | timerExpires
  | timerEnds
  | timerEvent
  /-- The focus manager answers an acquisition. -/
  | acquired (background : Bool)
  /-- The focus manager answers a release. -/
  | released (accepted : Bool)

/-- The focus manager answers in order; any provider may match. -/
def Possible (s : Runtime ρ) : RuntimeTask ρ → Prop
  | .renderPlayerInfo _ (.audioItem audioItemId) found _ _ =>
    match found with
    | some provider => s.plays audioItemId provider=true
    | none => ∀ provider,s.plays audioItemId provider=false
  | .timerExpires => ∃ number timeout,s.clearDisplayTimer=.running number timeout
  | .timerEnds => s.clearDisplayTimer=.expired
  | .timerEvent => s.timerTasks≠[]
  | .acquired _ => s.requests.head?=some .acquire
  | .released _ => s.requests.head?=some .release
  | _ => True

def Runtime.perform [DecidableEq ρ] (s : Runtime ρ) : RuntimeTask ρ → Runtime ρ
  | .renderTemplate payload accepted => s.handleRenderTemplate payload accepted
  | .renderPlayerInfo payload content found offset accepted =>
    s.handleRenderPlayerInfo payload content found offset accepted
  | .audioPlayerUpdate state mediaProperties audioItemId offset accepted =>
    s.executeAudioPlayerInfoUpdates state mediaProperties audioItemId offset accepted
  | .dialogUXStateChanged newState => s.executeOnDialogUXStateChanged newState
  | .cardCleared => s.executeCardClearedEvent
  | .timerExpires =>
    match s.clearDisplayTimer with
    | .running number _ => {s with clearDisplayTimer := .expired,timerTasks := s.timerTasks++[number]}
    | .off | .expired => s
  | .timerEnds => {s with clearDisplayTimer := .off}
  | .timerEvent => {s with timerTasks := s.timerTasks.tail}.executeTimerEvent
  | .acquired background =>
    {s with requests := s.requests.tail}.executeOnFocusChangedEvent
      (if background then .background else .foreground) true
  | .released accepted => {s with requests := s.requests.tail}.executeOnFocusChangedEvent .none accepted

/-- One task, or one step of the timer. -/
def Step [DecidableEq ρ] (s : Runtime ρ) (task : RuntimeTask ρ) (t : Runtime ρ) : Prop :=
  Possible s task ∧ t=s.perform task

theorem step_perform [DecidableEq ρ] {s : Runtime ρ} (task : RuntimeTask ρ) (h : Possible s task) :
    Step s task (s.perform task) :=
  ⟨h,rfl⟩

end AlexaClientSDK.TemplateRuntime
