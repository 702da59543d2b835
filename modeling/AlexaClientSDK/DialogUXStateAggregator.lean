import AlexaClientSDK.LabelledRuns

/-!
# The state of the dialog

One state of the dialog is made out of what the audio input, the speech and the connection do. A call records the state
of its component and leaves the rest to the executor, and so do three timers when they expire. The clock is left out: a
timer may expire at any time, and may take any time to end after that.
-/

namespace AlexaClientSDK.DialogUXStateAggregator

open Function LabelledRuns

inductive DialogUXState
  | IDLE
  | LISTENING
  | EXPECTING
  | THINKING
  | SPEAKING
  | FINISHED
deriving DecidableEq

/-- `AudioInputProcessorObserverInterface::State`. -/
inductive AudioInputProcessorState
  | IDLE
  | EXPECTING_SPEECH
  | RECOGNIZING
  | BUSY
deriving DecidableEq

inductive SpeechSynthesizerState
  | PLAYING
  | FINISHED
  | INTERRUPTED
  | GAINING_FOCUS
  | LOSING_FOCUS
deriving DecidableEq

/-- `ConnectionStatusObserverInterface::Status`. -/
inductive ConnectionStatus
  | DISCONNECTED
  | PENDING
  | CONNECTED
deriving DecidableEq

inductive TimerName
  | thinkingTimeout
  | multiturnSpeakingToListening
  | listeningTimeout
deriving DecidableEq

inductive TimerState
  | idle
  /-- It waits for its delay to pass; the number says which start this was. -/
  | waiting (number : ℕ)
  /-- Its task has returned, and its thread has yet to say so. -/
  | ending
deriving DecidableEq

inductive Task (ω : Type)
  | addObserver (observer : ω)
  | removeObserver (observer : ω)
  | audioInput (state : AudioInputProcessorState)
  | speech (state : SpeechSynthesizerState)
  | receive
  | connection (status : ConnectionStatus)
  | requestProcessingStarted
  /-- Of `transitionFromThinkingTimedOut`, `tryEnterIdleStateOnTimer` or `transitionFromListeningTimedOut`. -/
  | expired (timer : TimerName) (number : ℕ)

inductive Mark (ω : Type)
  | told (observer : ω) (state : DialogUXState)
  | started (timer : TimerName) (number : ℕ)
  | expired (timer : TimerName) (number : ℕ)
  /-- Its time-out made the dialog idle. -/
  | timedOut (timer : TimerName) (number : ℕ)
  | activity
deriving DecidableEq

variable {ω : Type}

/-- The state, its timers, and what waits in the executor. -/
structure Aggregator (ω : Type) where
  currentState : DialogUXState
  speechSynthesizerState : SpeechSynthesizerState
  audioInputProcessorState : AudioInputProcessorState
  timers : TimerName → TimerState
  observers : List ω
  queue : List (Task ω)
  starts : ℕ
  history : List (Mark ω)

def create : Aggregator ω where
  currentState := .IDLE
  speechSynthesizerState := .FINISHED
  audioInputProcessorState := .IDLE
  timers := fun _ => .idle
  observers := []
  queue := []
  starts := 0
  history := []

namespace Aggregator

/-- A timer is stopped; its queued time-out stays. -/
def stop (s : Aggregator ω) (timer : TimerName) : Aggregator ω :=
  {s with timers := update s.timers timer .idle}

/-- `Timer::start`: it fails when the timer is running. -/
def start (s : Aggregator ω) (timer : TimerName) : Aggregator ω :=
  if s.timers timer=.idle then
    {s with
      timers := update s.timers timer (.waiting s.starts)
      starts := s.starts+1
      history := s.history++[.started timer s.starts]}
  else s

/-- Every observer is told the state. -/
def notifyObserversOfState (s : Aggregator ω) : Aggregator ω :=
  {s with history := s.history++s.observers.map fun observer => .told observer s.currentState}

/-- A new state stops the timers and is told. -/
def setState (s : Aggregator ω) (newState : DialogUXState) : Aggregator ω :=
  if newState=s.currentState then s
  else
    let s := ((s.stop .listeningTimeout).stop .thinkingTimeout).stop .multiturnSpeakingToListening
    notifyObserversOfState {s with currentState := newState}

/-- The dialog is idle after a while, unless it goes on. -/
def tryEnterIdleState (s : Aggregator ω) : Aggregator ω :=
  ((s.stop .thinkingTimeout).stop .multiturnSpeakingToListening).start .multiturnSpeakingToListening

def noteActivity (s : Aggregator ω) : Aggregator ω := {s with history := s.history++[.activity]}

/-- An activity stops the two time-outs. -/
def onActivityStarted (s : Aggregator ω) : Aggregator ω :=
  ((s.stop .listeningTimeout).stop .thinkingTimeout).noteActivity

/-- The task of `onStateChanged` for the audio input. -/
def onAudioInputState (s : Aggregator ω) : AudioInputProcessorState → Aggregator ω
  | .IDLE => s.tryEnterIdleState
  | .RECOGNIZING => s.onActivityStarted.setState .LISTENING
  | .EXPECTING_SPEECH => s.onActivityStarted.setState .EXPECTING
  | .BUSY => (s.setState .LISTENING).start .listeningTimeout

/-- The task of `onStateChanged` for the speech. -/
def onSpeechState (s : Aggregator ω) : SpeechSynthesizerState → Aggregator ω
  | .PLAYING => s.onActivityStarted.setState .SPEAKING
  | .FINISHED | .INTERRUPTED => s.tryEnterIdleState
  | .LOSING_FOCUS => s
  | .GAINING_FOCUS => s.onActivityStarted

/-- The task of `receive`. -/
def onMessage (s : Aggregator ω) : Aggregator ω :=
  if s.currentState=.THINKING ∧ s.speechSynthesizerState≠.GAINING_FOCUS then
    (s.stop .thinkingTimeout).start .thinkingTimeout
  else s

/-- The task of `onConnectionStatusChanged`. -/
def onConnectionStatus (s : Aggregator ω) (status : ConnectionStatus) : Aggregator ω :=
  if status≠.CONNECTED then s.setState .IDLE else s

/-- The task of `onRequestProcessingStarted`. -/
def onRequestProcessing (s : Aggregator ω) : Aggregator ω :=
  let s := s.stop .listeningTimeout
  if s.currentState=.IDLE ∨ s.currentState=.LISTENING then
    (s.setState .THINKING).noteActivity.start .thinkingTimeout
  else s

/-- Of the thinking or of the listening. -/
def onTimeOut (s : Aggregator ω) (state : DialogUXState) (timer : TimerName) (number : ℕ) : Aggregator ω :=
  if s.currentState=state then
    {s with history := s.history++[Mark.timedOut timer number]}.setState .IDLE
  else s

def isSpeechOver (s : Aggregator ω) : Prop :=
  s.speechSynthesizerState=.FINISHED ∨ s.speechSynthesizerState=.INTERRUPTED

instance (s : Aggregator ω) : Decidable s.isSpeechOver :=
  inferInstanceAs (Decidable (s.speechSynthesizerState=.FINISHED ∨ s.speechSynthesizerState=.INTERRUPTED))

/-- The task of `tryEnterIdleStateOnTimer`. -/
def onIdleTimer (s : Aggregator ω) : Aggregator ω :=
  if s.currentState≠.IDLE ∧ s.audioInputProcessorState=.IDLE ∧ s.isSpeechOver then s.setState .IDLE else s

/-- What the executor does about a time-out. -/
def onExpired (s : Aggregator ω) (timer : TimerName) (number : ℕ) : Aggregator ω :=
  match timer with
  | .thinkingTimeout => s.onTimeOut .THINKING .thinkingTimeout number
  | .multiturnSpeakingToListening => s.onIdleTimer
  | .listeningTimeout => s.onTimeOut .LISTENING .listeningTimeout number

/-- What the executor does about a task. -/
def perform [DecidableEq ω] (s : Aggregator ω) : Task ω → Aggregator ω
  | .addObserver observer =>
    {s with
      observers := if observer∈s.observers then s.observers else s.observers++[observer]
      history := s.history++[.told observer s.currentState]}
  | .removeObserver observer => {s with observers := s.observers.erase observer}
  | .audioInput state => s.onAudioInputState state
  | .speech state => s.onSpeechState state
  | .receive => s.onMessage
  | .connection status => s.onConnectionStatus status
  | .requestProcessingStarted => s.onRequestProcessing
  | .expired timer number => s.onExpired timer number

def submit (s : Aggregator ω) (task : Task ω) : Aggregator ω := {s with queue := s.queue++[task]}

end Aggregator

namespace Aggregator

variable (s : Aggregator ω) (timer : TimerName)

@[simp] theorem stop_timers_self : (s.stop timer).timers timer=.idle := update_self _ _ _

@[simp] theorem stop_timers_ne {other : TimerName} (hne : other≠timer) :
    (s.stop timer).timers other=s.timers other := update_of_ne hne _ _

theorem start_idle {timer : TimerName} (hidle : s.timers timer=.idle) : s.start timer={s with
    timers := update s.timers timer (.waiting s.starts)
    starts := s.starts+1
    history := s.history++[.started timer s.starts]} := if_pos hidle

theorem start_timers_self {timer : TimerName} (hidle : s.timers timer=.idle) :
    (s.start timer).timers timer=.waiting s.starts := by
  rw [start_idle s hidle]
  exact update_self _ _ _

/-- Two states that differ in nothing that the calls write. -/
structure SameCalls (t : Aggregator ω) : Prop where
  queue : t.queue=s.queue
  audio : t.audioInputProcessorState=s.audioInputProcessorState
  speech : t.speechSynthesizerState=s.speechSynthesizerState

variable {s} {t u : Aggregator ω}

theorem SameCalls.trans (h : s.SameCalls t) (h' : t.SameCalls u) : s.SameCalls u :=
  ⟨h'.queue.trans h.queue,h'.audio.trans h.audio,h'.speech.trans h.speech⟩

theorem same_history (history : List (Mark ω)) : s.SameCalls {s with history := history} := ⟨rfl,rfl,rfl⟩

theorem same_stop : s.SameCalls (s.stop timer) := ⟨rfl,rfl,rfl⟩

theorem same_start : s.SameCalls (s.start timer) := by
  unfold start
  split
  · exact ⟨rfl,rfl,rfl⟩
  · exact ⟨rfl,rfl,rfl⟩

theorem same_setState (newState : DialogUXState) : s.SameCalls (s.setState newState) := by
  unfold setState
  split
  · exact ⟨rfl,rfl,rfl⟩
  · exact ⟨rfl,rfl,rfl⟩

theorem same_tryEnterIdleState : s.SameCalls s.tryEnterIdleState :=
  ((same_stop _).trans (same_stop _)).trans (same_start _)

theorem same_onActivityStarted : s.SameCalls s.onActivityStarted := ⟨rfl,rfl,rfl⟩

theorem same_onTimeOut (state : DialogUXState) (number : ℕ) : s.SameCalls (s.onTimeOut state timer number) := by
  unfold onTimeOut
  split
  · exact (same_history _).trans (same_setState _)
  · exact ⟨rfl,rfl,rfl⟩

/-- A task leaves the queue and the last calls. -/
theorem same_perform [DecidableEq ω] (task : Task ω) : s.SameCalls (s.perform task) := by
  cases task with
  | addObserver | removeObserver => exact ⟨rfl,rfl,rfl⟩
  | audioInput state =>
    cases state with
    | IDLE => exact same_tryEnterIdleState
    | EXPECTING_SPEECH | RECOGNIZING => exact same_onActivityStarted.trans (same_setState _)
    | BUSY => exact (same_setState _).trans (same_start _)
  | speech state =>
    cases state with
    | PLAYING => exact same_onActivityStarted.trans (same_setState _)
    | FINISHED | INTERRUPTED => exact same_tryEnterIdleState
    | GAINING_FOCUS => exact same_onActivityStarted
    | LOSING_FOCUS => exact ⟨rfl,rfl,rfl⟩
  | receive =>
    change s.SameCalls s.onMessage
    unfold onMessage
    split
    · exact (same_stop _).trans (same_start _)
    · exact ⟨rfl,rfl,rfl⟩
  | connection status =>
    change s.SameCalls (s.onConnectionStatus status)
    unfold onConnectionStatus
    split
    · exact same_setState _
    · exact ⟨rfl,rfl,rfl⟩
  | requestProcessingStarted =>
    change s.SameCalls s.onRequestProcessing
    unfold onRequestProcessing
    dsimp only
    split
    · exact ((same_stop _).trans (same_setState _)).trans ((same_history _).trans (same_start _))
    · exact same_stop _
  | expired timer =>
    cases timer with
    | thinkingTimeout | listeningTimeout => exact same_onTimeOut _ _ _
    | multiturnSpeakingToListening =>
      change s.SameCalls s.onIdleTimer
      unfold onIdleTimer
      split
      · exact same_setState _
      · exact ⟨rfl,rfl,rfl⟩

@[simp] theorem setState_currentState (newState : DialogUXState) : (s.setState newState).currentState=newState := by
  unfold setState
  split
  next heq => exact heq.symm
  · rfl

theorem setState_timers {newState : DialogUXState} (hne : newState≠s.currentState) :
    (s.setState newState).timers timer=.idle := by
  unfold setState
  rw [if_neg hne]
  cases timer with
  | thinkingTimeout => rfl
  | multiturnSpeakingToListening => rfl
  | listeningTimeout => rfl

end Aggregator

inductive Event (ω : Type)
  | addObserver (observer : Option ω)
  | removeObserver (observer : Option ω)
  | audioInput (state : AudioInputProcessorState)
  | speech (state : SpeechSynthesizerState)
  | receive
  | connection (status : ConnectionStatus)
  | requestProcessingStarted
  | expire (timer : TimerName)
  | finish (timer : TimerName)
  | execute

/-- It can happen now. -/
def Possible (s : Aggregator ω) : Event ω → Prop
  | .expire timer => ∃ number,s.timers timer=.waiting number
  | .finish timer => s.timers timer=.ending
  | .execute => s.queue≠[]
  | _ => True

instance (state : TimerState) : Decidable (∃ number,state=.waiting number) :=
  match state with
  | .idle => .isFalse fun ⟨_,h⟩ => by cases h
  | .waiting number => .isTrue ⟨number,rfl⟩
  | .ending => .isFalse fun ⟨_,h⟩ => by cases h

instance [DecidableEq ω] (s : Aggregator ω) : (event : Event ω) → Decidable (Possible s event)
  | .expire timer => inferInstanceAs (Decidable (∃ number,s.timers timer=.waiting number))
  | .finish timer => inferInstanceAs (Decidable (s.timers timer=.ending))
  | .execute => inferInstanceAs (Decidable (s.queue≠[]))
  | .addObserver _ | .removeObserver _ | .audioInput _ | .speech _ | .receive | .connection _
  | .requestProcessingStarted => isTrue trivial

namespace Aggregator

/-- The delay of a timer has passed. -/
def expire (s : Aggregator ω) (timer : TimerName) : Aggregator ω :=
  match s.timers timer with
  | .waiting number =>
    {s with
      timers := update s.timers timer .ending
      queue := s.queue++[.expired timer number]
      history := s.history++[.expired timer number]}
  | _ => s

/-- Only a waiting timer expires. -/
theorem expire_cases (s : Aggregator ω) (timer : TimerName) :
    s.expire timer=s ∨ ∃ number,s.timers timer=.waiting number ∧
      s.expire timer={s with
        timers := update s.timers timer .ending
        queue := s.queue++[.expired timer number]
        history := s.history++[.expired timer number]} := by
  unfold expire
  cases htimer : s.timers timer with
  | idle | ending => exact .inl rfl
  | waiting number => exact .inr ⟨number,rfl,rfl⟩

/-- The executor runs the next task. -/
def execute [DecidableEq ω] (s : Aggregator ω) : Aggregator ω :=
  match s.queue with
  | [] => s
  | task::queue => {s with queue := queue}.perform task

def next [DecidableEq ω] (s : Aggregator ω) : Event ω → Aggregator ω
  | .addObserver observer => observer.elim s fun observer => s.submit (.addObserver observer)
  | .removeObserver observer => observer.elim s fun observer => s.submit (.removeObserver observer)
  | .audioInput state => {s with audioInputProcessorState := state}.submit (.audioInput state)
  | .speech state => {s with speechSynthesizerState := state}.submit (.speech state)
  | .receive => s.submit .receive
  | .connection status => s.submit (.connection status)
  | .requestProcessingStarted => s.submit .requestProcessingStarted
  | .expire timer => s.expire timer
  | .finish timer => s.stop timer
  | .execute => s.execute

end Aggregator

variable [DecidableEq ω]

def Step (s : Aggregator ω) (event : Event ω) (t : Aggregator ω) : Prop := Possible s event ∧ t=s.next event

theorem step_next (s : Aggregator ω) (event : Event ω) (hpossible : decide (Possible s event)=true) :
    Step s event (s.next event) := ⟨of_decide_eq_true hpossible,rfl⟩

end AlexaClientSDK.DialogUXStateAggregator
