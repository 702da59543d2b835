import AlexaClientSDK.MessageRequestQueue

/-!
# The message router

`MessageRouter` keeps the transports it has made, one of which is the active one, and the queue from which they take
requests. A step is what a thread does under `m_connectionMutex`. `disconnectAllTransportsLocked` gives the lock up, so
that `setAVSGateway` and `doShutdown` have two parts each. Whether a transport could be created and connected comes with
the step; what it does with its requests is left out.
-/

namespace AlexaClientSDK.MessageRouter

open MessageRequestQueue (MessageRequest RequestQueue)

inductive Status
  | DISCONNECTED
  | PENDING
  | CONNECTED
deriving DecidableEq

inductive ChangedReason
  | NONE
  | SUCCESS
  | UNRECOVERABLE_ERROR
  | ACL_CLIENT_REQUEST
  | ACL_DISABLED
  | DNS_TIMEDOUT
  | CONNECTION_TIMEDOUT
  | CONNECTION_THROTTLED
  | INVALID_AUTH
  | PING_TIMEDOUT
  | WRITE_TIMEDOUT
  | READ_TIMEDOUT
  | FAILURE_PROTOCOL_ERROR
  | INTERNAL_ERROR
  | SERVER_INTERNAL_ERROR
  | SERVER_SIDE_DISCONNECT
  | SERVER_ENDPOINT_CHANGED
deriving DecidableEq

variable {τ : Type} [DecidableEq τ]

/-- The transports of a `MessageRouter` and what goes with them. -/
structure Connection (τ : Type) where
  avsGateway : String
  connectionStatus : Status
  connectionReason : ChangedReason
  isEnabled : Bool
  transports : List τ
  activeTransport : Option τ
  notified : List (Status × ChangedReason)
  /-- Those shut down, by the executor or the thread that disconnects them. -/
  released : List τ
  /-- The calls of `setAVSGateway` that have given the lock up. -/
  changingGateway : ℕ
  /-- Since it was enabled a transport was not created, or failed for good. -/
  troubled : Bool

namespace Connection

section

variable (s : Connection τ)

def setConnectionStatusLocked (status : Status) (reason : ChangedReason) : Connection τ :=
  if status≠s.connectionStatus then
    {s with
      connectionStatus := status
      connectionReason := reason
      notified := s.notified++[(status,reason)]}
  else s

def safelyReleaseTransport (transport : τ) : Connection τ :=
  {s with released := s.released++[transport]}

def safelyResetActiveTransportLocked : Connection τ :=
  match s.activeTransport with
  | none => s
  | some active =>
    {(if active∈s.transports then s else s.safelyReleaseTransport active) with activeTransport := none}

section

variable (created : Option τ)

def createActiveTransportLocked : Connection τ :=
  match created with
  | some transport => {s with transports := s.transports++[transport],activeTransport := some transport}
  | none =>
    {s.safelyResetActiveTransportLocked.setConnectionStatusLocked .DISCONNECTED .INTERNAL_ERROR with troubled := true}

/-- `disconnectAllTransportsLocked`, up to where it gives the lock up. -/
def disconnectAllTransportsLocked (reason : ChangedReason) : Connection τ :=
  let s := s.safelyResetActiveTransportLocked
  {s with
    transports := []
    released := s.released++s.transports}.setConnectionStatusLocked .DISCONNECTED reason

def enable : Connection τ :=
  if s.isEnabled then s
  else if s.activeTransport.isSome then s
  else
    {s with
      isEnabled := true
      troubled := false}.setConnectionStatusLocked .PENDING .ACL_CLIENT_REQUEST |>.createActiveTransportLocked created

def disable : Connection τ :=
  {s with isEnabled := false}.disconnectAllTransportsLocked .ACL_CLIENT_REQUEST

/-- `setAVSGateway`, up to where it gives the lock up. -/
def setAVSGateway (avsGateway : String) : Connection τ :=
  if avsGateway≠s.avsGateway then
    let s := {s with avsGateway := avsGateway}
    if s.isEnabled then
      {s.disconnectAllTransportsLocked .SERVER_ENDPOINT_CHANGED with changingGateway := s.changingGateway+1}
    else s
  else s

def setAVSGatewayRest : Connection τ :=
  let s := {s with changingGateway := s.changingGateway-1}
  if s.isEnabled then s.createActiveTransportLocked created else s

end

section

variable (transport : τ)

def onConnected : Connection τ :=
  if !s.isEnabled then s
  else if some transport≠s.activeTransport then s
  else s.setConnectionStatusLocked .CONNECTED .ACL_CLIENT_REQUEST

/-- A transport that reports its end leaves `m_transports`. -/
def releaseTransport (reason : ChangedReason) : Connection τ :=
  let s := {s with troubled := s.troubled || reason=.UNRECOVERABLE_ERROR}
  if transport∈s.transports then
    {s with transports := s.transports.erase transport}.safelyReleaseTransport transport
  else s

def loseActiveTransport (reason : ChangedReason) (created : Option τ) : Connection τ :=
  let s := {s with activeTransport := none}
  match s.connectionStatus with
  | .PENDING | .CONNECTED =>
    if s.isEnabled ∧ reason≠.UNRECOVERABLE_ERROR then
      (s.setConnectionStatusLocked .PENDING reason).createActiveTransportLocked created
    else if s.transports=[] then s.setConnectionStatusLocked .DISCONNECTED reason
    else s
  | .DISCONNECTED => s

def onDisconnected (reason : ChangedReason) (created : Option τ) : Connection τ :=
  let s := s.releaseTransport transport reason
  if some transport=s.activeTransport then s.loseActiveTransport reason created else s

def onServerSideDisconnect (created : Option τ) : Connection τ :=
  if s.isEnabled ∧ some transport=s.activeTransport then
    (s.setConnectionStatusLocked .PENDING .SERVER_SIDE_DISCONNECT).createActiveTransportLocked created
  else s

end

end

end Connection

inductive Change (τ : Type)
  | enable (created : Option τ)
  | disable
  | setAVSGateway (avsGateway : String)
  | setAVSGatewayRest (created : Option τ)
  | onConnected (transport : τ)
  | onDisconnected (transport : τ) (reason : ChangedReason) (created : Option τ)
  | onServerSideDisconnect (transport : τ) (created : Option τ)

def Connection.next (s : Connection τ) : Change τ → Connection τ
  | .enable created => s.enable created
  | .disable => s.disable
  | .setAVSGateway avsGateway => s.setAVSGateway avsGateway
  | .setAVSGatewayRest created => s.setAVSGatewayRest created
  | .onConnected transport => s.onConnected transport
  | .onDisconnected transport reason created => s.onDisconnected transport reason created
  | .onServerSideDisconnect transport created => s.onServerSideDisconnect transport created

/-- How far `doShutdown` has come. -/
inductive Shutdown
  | none
  | disabling
  /-- It is about to clear the queue, and holds the lock. -/
  | clearing
  | done
deriving DecidableEq

structure Router (τ : Type) where
  connection : Connection τ
  requestQueue : RequestQueue
  /-- How far `doShutdown` has come. -/
  shutdown : Shutdown
  /-- The number of requests that `sendMessage` has accepted. -/
  accepted : ℕ
  /-- The requests for which the router has called `sendCompleted`. -/
  completed : List ℕ
  /-- The requests that transports have taken from the queue. -/
  dequeued : List ℕ

def create (avsGateway : String) : Router τ where
  connection :=
    { avsGateway := avsGateway
      connectionStatus := .DISCONNECTED
      connectionReason := .ACL_CLIENT_REQUEST
      isEnabled := false
      transports := []
      activeTransport := none
      notified := []
      released := []
      changingGateway := 0
      troubled := false }
  requestQueue := MessageRequestQueue.create
  shutdown := .none
  accepted := 0
  completed := []
  dequeued := []

namespace Router

section

variable (s : Router τ)

/-- `sendMessage`, of a request that is null, serialized or not serialized. -/
def sendMessage (isSerialized : Option Bool) : Router τ :=
  match isSerialized with
  | none => s
  | some isSerialized =>
    let request : MessageRequest := ⟨s.accepted,isSerialized⟩
    let s := {s with accepted := s.accepted+1}
    if s.connection.activeTransport.isSome then {s with requestQueue := s.requestQueue.enqueueRequest request}
    else {s with completed := s.completed++[request.id]}

/-- A transport has taken a request from the queue. -/
def dequeue (result : RequestQueue × Option MessageRequest) : Router τ :=
  {s with
    requestQueue := result.1
    dequeued := s.dequeued++result.2.toList.map MessageRequest.id}

/-- `doShutdown`, up to where `disable` gives the lock up. -/
def doShutdown : Router τ :=
  {s with
    connection := s.connection.disable
    shutdown := .disabling}

/-- Its first look at the queue: the oldest request is completed. -/
def completeOldest : Router τ :=
  if s.requestQueue.empty then {s with shutdown := .done}
  else
    let result := s.requestQueue.dequeueOldestRequest
    {s with
      requestQueue := result.1
      completed := s.completed++result.2.toList.map MessageRequest.id
      shutdown := .clearing}

def clearQueue : Router τ :=
  {s with
    requestQueue := s.requestQueue.clear
    shutdown := .done}

end

end Router

inductive Event (τ : Type)
  | connection (change : Change τ)
  | sendMessage (isSerialized : Option Bool)
  | dequeueOldestRequest
  | dequeueSendableRequest
  /-- A transport sets whether a request waits for its acknowledgement. -/
  | waitForAcknowledgement (waiting : Bool)
  | doShutdown
  | completeOldest
  | clearQueue

/-- The lock is held while `doShutdown` looks at the queue. -/
def Possible (s : Router τ) : Event τ → Prop
  | .connection (.setAVSGatewayRest _) =>
    (s.shutdown=.none ∨ s.shutdown=.disabling) ∧ 0<s.connection.changingGateway
  | .connection _ | .sendMessage _ => s.shutdown=.none ∨ s.shutdown=.disabling
  | .dequeueOldestRequest | .dequeueSendableRequest | .waitForAcknowledgement _ => s.shutdown≠.done
  | .doShutdown => s.shutdown=.none
  | .completeOldest => s.shutdown=.disabling
  | .clearQueue => s.shutdown=.clearing

def Router.next (s : Router τ) : Event τ → Router τ
  | .connection change => {s with connection := s.connection.next change}
  | .sendMessage isSerialized => s.sendMessage isSerialized
  | .dequeueOldestRequest => s.dequeue s.requestQueue.dequeueOldestRequest
  | .dequeueSendableRequest => s.dequeue s.requestQueue.dequeueSendableRequest
  | .waitForAcknowledgement waiting =>
    {s with
      requestQueue := if waiting then s.requestQueue.setWaitingForSendAcknowledgement
        else s.requestQueue.clearWaitingForSendAcknowledgement}
  | .doShutdown => s.doShutdown
  | .completeOldest => s.completeOldest
  | .clearQueue => s.clearQueue

def Step (s : Router τ) (event : Event τ) (t : Router τ) : Prop := Possible s event ∧ t=s.next event

theorem step_next {s : Router τ} (event : Event τ) (hpossible : Possible s event) : Step s event (s.next event) :=
  ⟨hpossible,rfl⟩

end AlexaClientSDK.MessageRouter
