import AlexaClientSDK.GracefulDisconnects

/-!
# The message request handlers

A `MessageRequestHandler` is created when the transport sends a request. The HTTP/2 connection tells it the response
code and the end of the response, and `create` when the request could not be sent. A step is one call of a member
function or the destructor; those of one handler do not overlap. Response codes are as HTTP has them.
-/

namespace AlexaClientSDK.MessageRequestHandler

open HTTP2Transport Transport
open MessageRequestQueue (MessageRequest RequestQueue)

inductive HTTP2ResponseFinishedStatus
  | COMPLETE
  | TIMEOUT
  | CANCELLED
  | INTERNAL_ERROR
deriving DecidableEq

/-- As far as a handler uses it. -/
inductive Status
  | SUCCESS
  | SUCCESS_ACCEPTED
  | SUCCESS_NO_CONTENT
  | TIMEDOUT
  | INTERNAL_ERROR
  | SERVER_INTERNAL_ERROR_V2
  | CANCELED
  | INVALID_AUTH
  | BAD_REQUEST
  | SERVER_OTHER_ERROR
deriving DecidableEq

def responseToResult (responseCode : ℤ) : Option Status :=
  if responseCode=0 then some .INTERNAL_ERROR
  else if responseCode=200 then some .SUCCESS
  else if responseCode=202 then some .SUCCESS_ACCEPTED
  else if responseCode=204 then some .SUCCESS_NO_CONTENT
  else if responseCode=400 then some .BAD_REQUEST
  else if responseCode=403 then some .INVALID_AUTH
  else if responseCode=500 then some .SERVER_INTERNAL_ERROR_V2
  else none

/-- The result that `onResponseFinished` completes the request with. -/
def result (status : HTTP2ResponseFinishedStatus) (responseCode : ℤ) : Status :=
  match status with
  | .COMPLETE => (responseToResult responseCode).getD .SERVER_OTHER_ERROR
  | .INTERNAL_ERROR => .INTERNAL_ERROR
  | .CANCELLED => .CANCELED
  | .TIMEOUT => .TIMEDOUT

inductive Call
  | onMessageRequestTimeout
  | reportMessageRequestAcknowledged
  | reportMessageRequestFinished
  | onForbidden
  | exceptionReceived (nonMimeBody : String)
  | sendCompleted (result : Status)
deriving DecidableEq

/-- With the end of `create` when the request could not be sent. -/
inductive Callback
  /-- `createAndSendRequest` gives no request. -/
  | createFailed
  | onReceiveResponseCode (responseCode : ℤ)
  | onResponseFinished (status : HTTP2ResponseFinishedStatus) (nonMimeBody : String)
  | destroy

structure Exchange where
  responseCode : ℤ
  calls : List Call
  /-- The request failed, the response has finished, or the handler is destroyed. -/
  ended : Bool
  destroyed : Bool
deriving DecidableEq

namespace Exchange

def create : Exchange where
  responseCode := 0
  calls := []
  ended := false
  destroyed := false

section

variable (e : Exchange)

/-- `create`, when the request could not be sent. -/
def createFailed : Exchange :=
  {e with
    calls := [.reportMessageRequestAcknowledged,.reportMessageRequestFinished]
    ended := true}

def onReceiveResponseCode (responseCode : ℤ) : Exchange :=
  {e with
    calls := .reportMessageRequestAcknowledged::if responseCode=403 then [.onForbidden] else []
    responseCode := responseCode}

def onResponseFinished (status : HTTP2ResponseFinishedStatus) (nonMimeBody : String) : Exchange :=
  {e with
    calls :=
      (if status=.TIMEOUT then [.onMessageRequestTimeout] else []) ++
        [.reportMessageRequestAcknowledged,.reportMessageRequestFinished] ++
        (if e.responseCode≠200 ∧ nonMimeBody ≠ "" then [.exceptionReceived nonMimeBody] else []) ++
        [.sendCompleted (result status e.responseCode)]
    ended := true}

def destroy : Exchange :=
  {e with
    calls := [.reportMessageRequestAcknowledged,.reportMessageRequestFinished]
    ended := true
    destroyed := true}

def start : Callback → Exchange
  | .createFailed => e.createFailed
  | .onReceiveResponseCode responseCode => e.onReceiveResponseCode responseCode
  | .onResponseFinished status nonMimeBody => e.onResponseFinished status nonMimeBody
  | .destroy => e.destroy

end

end Exchange

/-- What the transport is told about a request. -/
inductive Notice
  | sent
  | acknowledged
  | finished
deriving DecidableEq

structure Connection where
  transport : Transport
  exchanges : List Exchange
  /-- What the transport was told, and about which handler. -/
  notices : List (ℕ × Notice)

def create : Connection where
  transport := HTTP2Transport.create
  exchanges := []
  notices := []

namespace Connection

section

variable (s : Connection)

/-- What the transport was told about a handler. -/
def noticesOf (index : ℕ) : List Notice :=
  (s.notices.filter fun notice => notice.1=index).map Prod.snd

/-- How many handlers were created and not yet reported finished. -/
def unfinished : ℕ :=
  (List.range s.exchanges.length).countP fun index => !(s.noticesOf index).contains .finished

section

variable (shared : RequestQueue)

def reportMessageRequestAcknowledged (index : ℕ) (handler : Handler) : Connection :=
  if handler.acknowledged then s
  else
    {s with
      transport := (s.transport.onMessageRequestAcknowledged shared index handler).1
      notices := s.notices++[(index,.acknowledged)]}

def reportMessageRequestFinished (index : ℕ) (handler : Handler) : Connection :=
  if handler.finished then s
  else
    {s with
      transport := s.transport.onMessageRequestFinished index handler
      notices := s.notices++[(index,.finished)]}

/-- Calls that are not reports only wake the transport up. -/
def call (index : ℕ) (handler : Handler) : Call → Connection
  | .reportMessageRequestAcknowledged => s.reportMessageRequestAcknowledged shared index handler
  | .reportMessageRequestFinished => s.reportMessageRequestFinished index handler
  | .onMessageRequestTimeout | .onForbidden | .exceptionReceived _ | .sendCompleted _ => s

/-- The transport takes a step. A request that it sends has a handler. -/
def advance (event : HTTP2Transport.Event) : Connection :=
  let transport := (s.transport.next shared event).1
  match event with
  | .send _ _ true =>
    { transport := transport
      exchanges := s.exchanges++[Exchange.create]
      notices := s.notices++[(s.exchanges.length, .sent)] }
  | .call _ | .connect | .acknowledge _ _ | .finish _ _ | .start _ | .enter | .dispatch _ _ | .timeOut | .wake _
  | .take _ | .send _ _ false | .inactive _ | .ping _ _ | .leave _ | .close => { s with transport := transport }

end

end

end Connection

def own : HTTP2Transport.Event → Bool
  | .acknowledge _ _ | .finish _ _ => false
  | .call _ | .connect | .start _ | .enter | .dispatch _ _ | .timeOut | .wake _ | .take _ | .send _ _ _ | .inactive _
  | .ping _ _ | .leave _ | .close => true

inductive Event
  | transport (event : HTTP2Transport.Event)
  | start (index : ℕ) (exchange : Exchange) (callback : Callback)
  /-- It makes its next call, and `exchange` is what is left. -/
  | call (index : ℕ) (handler : Handler) (call : Call) (exchange : Exchange)

/-- It can happen now. -/
def Possible (s : Connection) (shared : RequestQueue) : Event → Prop
  | .transport event => own event=true ∧ HTTP2Transport.Possible s.transport shared event
  | .start index exchange _ =>
    s.exchanges[index]?=some exchange ∧ exchange.calls=[] ∧ exchange.destroyed=false
  | .call index handler call exchange =>
    s.transport.handlers[index]?=some handler ∧
      s.exchanges[index]?=some {exchange with calls := call::exchange.calls}

instance (s : Connection) (shared : RequestQueue) : (event : Event) → Decidable (Possible s shared event)
  | .transport event =>
    inferInstanceAs (Decidable (own event=true ∧ HTTP2Transport.Possible s.transport shared event))
  | .start index exchange _ =>
    inferInstanceAs (Decidable (s.exchanges[index]?=some exchange ∧ exchange.calls=[] ∧ exchange.destroyed=false))
  | .call index handler call exchange =>
    inferInstanceAs (Decidable (s.transport.handlers[index]?=some handler ∧
        s.exchanges[index]?=some {exchange with calls := call::exchange.calls}))

def Connection.next (s : Connection) (shared : RequestQueue) : Event → Connection
  | .transport event => s.advance shared event
  | .start index exchange callback => {s with exchanges := s.exchanges.set index (exchange.start callback)}
  | .call index handler call exchange =>
    {s with exchanges := s.exchanges.set index exchange}.call shared index handler call

/-- One step, with what the queue that the transport shares is then. -/
def Step (s : Connection) (label : RequestQueue × Event) (t : Connection) : Prop :=
  Possible s label.1 label.2 ∧ t=s.next label.1 label.2

theorem step_next {s : Connection} (shared : RequestQueue) (event : Event) (hpossible : Possible s shared event) :
    Step s (shared,event) (s.next shared event) :=
  ⟨hpossible,rfl⟩

end AlexaClientSDK.MessageRequestHandler
