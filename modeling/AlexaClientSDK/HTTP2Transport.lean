import Mathlib.Data.Int.Notation
import AlexaClientSDK.MessageRouter

/-!
# The HTTP2 transport

The main loop takes the next state to handle into a local variable, and other threads move `m_state` as well. A step is
what a thread does while it holds `m_mutex`, or a call that the main loop makes to its observers. Whether a token, a
handler or the post-connect object could be had comes with the step, and a time-out may come at any time. The observers,
the tokens and what the requests contain are left out.
-/

namespace AlexaClientSDK.HTTP2Transport

open MessageRouter (ChangedReason)
open MessageRequestQueue (MessageRequest RequestQueue)

inductive State
  | INIT
  | AUTHORIZING
  | CONNECTING
  | WAITING_TO_RETRY_CONNECTING
  | POST_CONNECTING
  | CONNECTED
  | SERVER_SIDE_DISCONNECT
  | DISCONNECTING
  | SHUTDOWN
deriving DecidableEq

/-- `AuthObserverInterface::State`. -/
inductive AuthState
  | UNINITIALIZED
  | REFRESHED
  | EXPIRED
  | UNRECOVERABLE_ERROR
deriving DecidableEq

def MAX_MESSAGE_HANDLERS : ℤ := 10-2

inductive Loop
  | idle
  /-- `doPostConnect` is still to be called. -/
  | starting
  /-- `getState` is still to be called. -/
  | entering
  | dispatching (nextState : State)
  /-- In `monitorSharedQueueWhileWaiting`. -/
  | monitoring (whileState : State)
  /-- In `sendMessagesAndPings`, waiting. -/
  | sending (whileState : State)
  | holding (whileState : State) (request : MessageRequest)
  /-- There, about to create a `PingHandler`. -/
  | pinging (whileState : State)
  /-- In `handleShutdown`, without the lock. -/
  | closing
  | done
deriving DecidableEq

structure Handler where
  request : MessageRequest
  /-- `m_wasMessageRequestAcknowledgeReported`. -/
  acknowledged : Bool
  /-- `m_wasMessageRequestFinishedReported`. -/
  finished : Bool
deriving DecidableEq

structure Transport where
  state : State
  disconnectReason : ChangedReason
  postConnected : Bool
  pingHandler : Bool
  requestQueue : RequestQueue
  countOfUnfinishedMessageHandlers : ℤ
  loop : Loop
  handlers : List Handler
  /-- The requests for which the transport has called `sendCompleted`. -/
  completed : List MessageRequest
  connectedAt : List State
  /-- How many handlers were unfinished when `m_state` became `SHUTDOWN`. -/
  unfinishedAtShutdown : Option ℕ

def create : Transport where
  state := .INIT
  disconnectReason := .NONE
  postConnected := false
  pingHandler := false
  requestQueue := MessageRequestQueue.create
  countOfUnfinishedMessageHandlers := 0
  loop := .idle
  handlers := []
  completed := []
  connectedAt := []
  unfinishedAtShutdown := none

/-- `setStateLocked` allows the change. -/
def allowed (oldState newState : State) : Bool :=
  match newState with
  | .INIT => false
  | .AUTHORIZING => oldState == .INIT || oldState == .WAITING_TO_RETRY_CONNECTING
  | .CONNECTING => oldState == .AUTHORIZING || oldState == .WAITING_TO_RETRY_CONNECTING
  | .WAITING_TO_RETRY_CONNECTING => oldState == .CONNECTING
  | .POST_CONNECTING => oldState == .CONNECTING
  | .CONNECTED => oldState == .POST_CONNECTING
  | .SERVER_SIDE_DISCONNECT => oldState != .DISCONNECTING && oldState != .SHUTDOWN
  | .DISCONNECTING => oldState != .SHUTDOWN
  | .SHUTDOWN => true

def State.ending : State → Bool
  | .SERVER_SIDE_DISCONNECT | .DISCONNECTING | .SHUTDOWN => true
  | .INIT | .AUTHORIZING | .CONNECTING | .WAITING_TO_RETRY_CONNECTING | .POST_CONNECTING | .CONNECTED => false

namespace Transport

section

variable (s : Transport)

def unfinished : ℕ := s.handlers.countP fun handler => !handler.finished

def setStateLocked (newState : State) (changedReason : ChangedReason) : Transport × Bool :=
  if newState=s.state then (s,true)
  else if allowed s.state newState then
    ({s with
      disconnectReason :=
        if newState.ending && decide (s.disconnectReason=.NONE) then changedReason else s.disconnectReason
      state := newState
      unfinishedAtShutdown := if newState=.SHUTDOWN then some s.unfinished else s.unfinishedAtShutdown},true)
  else (s,false)

def setState (newState : State) (changedReason : ChangedReason) : Transport :=
  (s.setStateLocked newState changedReason).1

def connect : Transport × Bool :=
  let change := s.setStateLocked .AUTHORIZING .ACL_CLIENT_REQUEST
  if change.2 then ({change.1 with loop := .starting},true) else (s,false)

/-- `disconnect`, up to the join. -/
def disconnect : Transport :=
  if s.state≠.SHUTDOWN then s.setState .DISCONNECTING .ACL_CLIENT_REQUEST else s

/-- `doShutdown`, up to the join. -/
def doShutdown : Transport := (s.setState .SHUTDOWN .ACL_CLIENT_REQUEST).disconnect

def sendMessage (request : MessageRequest) : Transport :=
  match s.state with
  | .INIT | .AUTHORIZING | .CONNECTING | .WAITING_TO_RETRY_CONNECTING | .POST_CONNECTING =>
    {s with requestQueue := s.requestQueue.enqueueRequest request}
  | .CONNECTED | .SERVER_SIDE_DISCONNECT | .DISCONNECTING | .SHUTDOWN =>
    {s with completed := s.completed++[request]}

def onPostConnected : Transport :=
  match s.state with
  | .INIT | .AUTHORIZING | .CONNECTING | .WAITING_TO_RETRY_CONNECTING => {s with postConnected := true}
  | .CONNECTED => s
  | .POST_CONNECTING => {s with postConnected := true}.setState .CONNECTED .SUCCESS
  | .SERVER_SIDE_DISCONNECT | .DISCONNECTING | .SHUTDOWN => s

def onUnRecoverablePostConnectFailure : Transport :=
  match s.state with
  | .INIT | .AUTHORIZING | .CONNECTING | .WAITING_TO_RETRY_CONNECTING | .POST_CONNECTING | .CONNECTED =>
    s.setState .SHUTDOWN .UNRECOVERABLE_ERROR
  | .SERVER_SIDE_DISCONNECT | .DISCONNECTING | .SHUTDOWN => s

def onAuthStateChange (newState : AuthState) : Transport :=
  match newState with
  | .UNINITIALIZED | .EXPIRED =>
    if s.state=.WAITING_TO_RETRY_CONNECTING then s.setState .AUTHORIZING .INVALID_AUTH else s
  | .REFRESHED => if s.state=.AUTHORIZING then s.setState .CONNECTING .SUCCESS else s
  | .UNRECOVERABLE_ERROR => s.setState .SHUTDOWN .UNRECOVERABLE_ERROR

def onWakeConnectionRetry : Transport :=
  if s.state≠.WAITING_TO_RETRY_CONNECTING then s else s.setState .CONNECTING .ACL_CLIENT_REQUEST

def onDownchannelConnected : Transport := s.setState .POST_CONNECTING .SUCCESS

def onDownchannelFinished : Transport :=
  match s.state with
  | .INIT | .AUTHORIZING | .WAITING_TO_RETRY_CONNECTING => s
  | .CONNECTING => s.setState .WAITING_TO_RETRY_CONNECTING .NONE
  | .POST_CONNECTING | .CONNECTED => s.setState .SERVER_SIDE_DISCONNECT .SERVER_SIDE_DISCONNECT
  | .SERVER_SIDE_DISCONNECT | .DISCONNECTING | .SHUTDOWN => s

def onPingRequestAcknowledged (success : Bool) : Transport :=
  let s := {s with pingHandler := false}
  if success then s else s.setState .SERVER_SIDE_DISCONNECT .SERVER_SIDE_DISCONNECT

def onPingTimeout : Transport := {s with pingHandler := false}.setState .SHUTDOWN .PING_TIMEDOUT

section

variable (shared : RequestQueue)

def onMessageRequestSent (request : MessageRequest) : Transport × RequestQueue :=
  ({s with
    countOfUnfinishedMessageHandlers := s.countOfUnfinishedMessageHandlers+1
    handlers := s.handlers++[⟨request,false,false⟩]},
    if request.isSerialized then shared.setWaitingForSendAcknowledgement else shared)

def onMessageRequestAcknowledged (index : ℕ) (handler : Handler) : Transport × RequestQueue :=
  ({s with handlers := s.handlers.set index {handler with acknowledged := true}},
    if handler.request.isSerialized then shared.clearWaitingForSendAcknowledgement else shared)

def onMessageRequestFinished (index : ℕ) (handler : Handler) : Transport :=
  {s with
    countOfUnfinishedMessageHandlers := s.countOfUnfinishedMessageHandlers-1
    handlers := s.handlers.set index {handler with finished := true}}

/-- `mainLoop`, up to `getState`. -/
def start (postConnect : Bool) : Transport :=
  {(if postConnect then s else s.setState .SHUTDOWN .INTERNAL_ERROR) with loop := .entering}

/-- The state that the main loop takes for the next one. -/
def dispatching (s : Transport) : Transport := {s with loop := .dispatching s.state}

/-- `handleConnecting`, up to the wait. -/
def handleConnecting (downchannel : Bool) : Transport :=
  if downchannel then {s with loop := .monitoring .CONNECTING}
  else (s.setState .WAITING_TO_RETRY_CONNECTING .INTERNAL_ERROR).dispatching

/-- `handlePostConnecting`, up to the wait. -/
def handlePostConnecting : Transport :=
  if s.postConnected then {s.setState .CONNECTED .SUCCESS with loop := .dispatching .CONNECTED}
  else {s with loop := .sending .POST_CONNECTING}

/-- `handleConnected`, up to the wait. -/
def handleConnected : Transport :=
  {s with
    connectedAt := s.connectedAt++[s.state]
    loop := .sending .CONNECTED}

def isDraining : Bool := s.state == .DISCONNECTING && decide (0<s.countOfUnfinishedMessageHandlers)

/-- `handleShutdown`, up to where it gives the lock up. -/
def handleShutdown : Transport × RequestQueue :=
  ({s with
    completed := s.completed++s.requestQueue.queue
    requestQueue := s.requestQueue.clear
    loop := .closing},shared.clearWaitingForSendAcknowledgement)

/-- The main loop handles the next state. -/
def dispatch (downchannel : Bool) : State → Transport × RequestQueue
  | .INIT => ((s.setState .SHUTDOWN .INTERNAL_ERROR).dispatching,shared)
  | .AUTHORIZING => ({s with loop := .monitoring .AUTHORIZING},shared)
  | .CONNECTING => (s.handleConnecting downchannel,shared)
  | .WAITING_TO_RETRY_CONNECTING => ({s with loop := .monitoring .WAITING_TO_RETRY_CONNECTING},shared)
  | .POST_CONNECTING => (s.handlePostConnecting,shared)
  | .CONNECTED => (s.handleConnected,shared)
  | .SERVER_SIDE_DISCONNECT => ({s with loop := .dispatching .DISCONNECTING},shared)
  | .DISCONNECTING => ((s.setState .SHUTDOWN .SUCCESS).dispatching,shared)
  | .SHUTDOWN => s.handleShutdown shared

/-- The main loop takes the oldest request that has waited for too long. -/
def timeOut : Transport × RequestQueue :=
  let result := shared.dequeueOldestRequest
  ({s with completed := s.completed++result.2.toList},result.1)

/-- `handleWaitingToRetryConnecting` goes on to connect then. -/
def wake (whileState : State) : Transport :=
  if whileState=.WAITING_TO_RETRY_CONNECTING ∧ s.state=.WAITING_TO_RETRY_CONNECTING then
    (s.setState .CONNECTING .NONE).dispatching
  else s.dispatching

/-- The queue that `sendMessagesAndPings` takes requests from. -/
def queueFor (whileState : State) : RequestQueue :=
  if whileState=.POST_CONNECTING then s.requestQueue else shared

def canSendMessage (whileState : State) : Bool :=
  (s.queueFor shared whileState).isMessageRequestAvailable &&
    decide (s.countOfUnfinishedMessageHandlers<MAX_MESSAGE_HANDLERS)

/-- `sendMessagesAndPings` takes a request. -/
def take (whileState : State) : Transport × RequestQueue :=
  let result := (s.queueFor shared whileState).dequeueSendableRequest
  let s := {s with loop := result.2.elim (.sending whileState) (.holding whileState)}
  if whileState=.POST_CONNECTING then ({s with requestQueue := result.1},shared) else (s,result.1)

def send (whileState : State) (request : MessageRequest) (token : Bool) : Transport × RequestQueue :=
  let s := {s with loop := .sending whileState}
  if token then s.onMessageRequestSent shared request else ({s with completed := s.completed++[request]},shared)

end

/-- A `PingHandler` was created, or the transport shuts down. -/
def ping (whileState : State) (created : Bool) : Transport :=
  let s := {s with loop := .sending whileState}
  if created then {s with pingHandler := true} else s.setState .SHUTDOWN .PING_TIMEDOUT

end

end Transport

/-- What callers and callbacks on other threads do. -/
inductive Call
  | disconnect
  | shutdown
  | sendMessage (request : MessageRequest)
  | onPostConnected
  | onUnRecoverablePostConnectFailure
  | onAuthStateChange (newState : AuthState)
  | onWakeConnectionRetry
  | onDownchannelConnected
  | onDownchannelFinished
  | onPingRequestAcknowledged (success : Bool)
  | onPingTimeout
deriving DecidableEq

def Transport.call (s : Transport) : Call → Transport
  | .disconnect => s.disconnect
  | .shutdown => s.doShutdown
  | .sendMessage request => s.sendMessage request
  | .onPostConnected => s.onPostConnected
  | .onUnRecoverablePostConnectFailure => s.onUnRecoverablePostConnectFailure
  | .onAuthStateChange newState => s.onAuthStateChange newState
  | .onWakeConnectionRetry => s.onWakeConnectionRetry
  | .onDownchannelConnected => s.onDownchannelConnected
  | .onDownchannelFinished => s.onDownchannelFinished
  | .onPingRequestAcknowledged success => s.onPingRequestAcknowledged success
  | .onPingTimeout => s.onPingTimeout

inductive Event
  | call (call : Call)
  | connect
  | acknowledge (index : ℕ) (handler : Handler)
  | finish (index : ℕ) (handler : Handler)
  | start (postConnect : Bool)
  | enter
  | dispatch (nextState : State) (downchannel : Bool)
  /-- It takes a request that has waited for too long. -/
  | timeOut
  | wake (whileState : State)
  | take (whileState : State)
  | send (whileState : State) (request : MessageRequest) (token : Bool)
  | inactive (whileState : State)
  | ping (whileState : State) (created : Bool)
  /-- The state has changed, and it sends no more. -/
  | leave (whileState : State)
  | close
deriving DecidableEq

/-- It can happen now. -/
def Possible (s : Transport) (shared : RequestQueue) : Event → Prop
  | .call _ => True
  | .connect => s.loop=.idle
  | .acknowledge index handler => s.handlers[index]?=some handler ∧ handler.acknowledged=false
  | .finish index handler =>
    s.handlers[index]?=some handler ∧ handler.acknowledged=true ∧ handler.finished=false
  | .start _ => s.loop=.starting
  | .enter => s.loop=.entering
  | .dispatch nextState _ => s.loop=.dispatching nextState ∧ (nextState=.DISCONNECTING → s.isDraining=false)
  | .timeOut => ∃ whileState,s.loop=.monitoring whileState
  | .wake whileState =>
    s.loop=.monitoring whileState ∧ (s.state≠whileState ∨ whileState=.WAITING_TO_RETRY_CONNECTING)
  | .take whileState =>
    s.loop=.sending whileState ∧ s.state=whileState ∧ s.canSendMessage shared whileState=true
  | .send whileState request _ => s.loop=.holding whileState request
  | .inactive whileState =>
    s.loop=.sending whileState ∧ s.state=whileState ∧ s.canSendMessage shared whileState=false ∧ s.pingHandler=false
  | .ping whileState _ => s.loop=.pinging whileState
  | .leave whileState => s.loop=.sending whileState ∧ s.state≠whileState
  | .close => s.loop=.closing

instance (s : Transport) (shared : RequestQueue) : (event : Event) → Decidable (Possible s shared event)
  | .call _ => inferInstanceAs (Decidable True)
  | .connect => inferInstanceAs (Decidable (s.loop=.idle))
  | .acknowledge index handler =>
    inferInstanceAs (Decidable (s.handlers[index]?=some handler ∧ handler.acknowledged=false))
  | .finish index handler =>
    inferInstanceAs (Decidable (s.handlers[index]?=some handler ∧ handler.acknowledged=true ∧ handler.finished=false))
  | .start _ => inferInstanceAs (Decidable (s.loop=.starting))
  | .enter => inferInstanceAs (Decidable (s.loop=.entering))
  | .dispatch nextState _ =>
    inferInstanceAs (Decidable (s.loop=.dispatching nextState ∧ (nextState=.DISCONNECTING → s.isDraining=false)))
  | .timeOut =>
    match hloop : s.loop with
    | .monitoring whileState => isTrue ⟨whileState,hloop⟩
    | .idle | .starting | .entering | .dispatching _ | .sending _ | .holding _ _ | .pinging _ | .closing | .done =>
      isFalse fun ⟨_,hmonitoring⟩ => by cases hloop.symm.trans hmonitoring
  | .wake whileState =>
    inferInstanceAs (Decidable
      (s.loop=.monitoring whileState ∧ (s.state≠whileState ∨ whileState=.WAITING_TO_RETRY_CONNECTING)))
  | .take whileState =>
    inferInstanceAs (Decidable
      (s.loop=.sending whileState ∧ s.state=whileState ∧ s.canSendMessage shared whileState=true))
  | .send whileState request _ => inferInstanceAs (Decidable (s.loop=.holding whileState request))
  | .inactive whileState =>
    inferInstanceAs (Decidable
      (s.loop=.sending whileState ∧ s.state=whileState ∧ s.canSendMessage shared whileState=false ∧
        s.pingHandler=false))
  | .ping whileState _ => inferInstanceAs (Decidable (s.loop=.pinging whileState))
  | .leave whileState => inferInstanceAs (Decidable (s.loop=.sending whileState ∧ s.state≠whileState))
  | .close => inferInstanceAs (Decidable (s.loop=.closing))

def Transport.next (s : Transport) (shared : RequestQueue) : Event → Transport × RequestQueue
  | .call call => (s.call call,shared)
  | .connect => (s.connect.1,shared)
  | .acknowledge index handler => s.onMessageRequestAcknowledged shared index handler
  | .finish index handler => (s.onMessageRequestFinished index handler,shared)
  | .start postConnect => (s.start postConnect,shared)
  | .enter => (s.dispatching,shared)
  | .dispatch nextState downchannel => s.dispatch shared downchannel nextState
  | .timeOut => s.timeOut shared
  | .wake whileState => (s.wake whileState,shared)
  | .take whileState => s.take shared whileState
  | .send whileState request token => s.send shared whileState request token
  | .inactive whileState => ({s with loop := .pinging whileState},shared)
  | .ping whileState created => (s.ping whileState created,shared)
  | .leave _ => (s.dispatching,shared)
  | .close => ({s with loop := .done},shared)

def Step (s : Transport) (label : RequestQueue × Event) (t : Transport) : Prop :=
  Possible s label.1 label.2 ∧ t=(s.next label.1 label.2).1

theorem step_next {s : Transport} (shared : RequestQueue) (event : Event) (hpossible : Possible s shared event) :
    Step s (shared,event) (s.next shared event).1 :=
  ⟨hpossible,rfl⟩

end AlexaClientSDK.HTTP2Transport
