import Mathlib.Algebra.Group.Nat.Defs
import AlexaClientSDK.LabelledRuns

/-!
# The certified sender

`CertifiedSender` keeps the messages it accepted in a queue and in a table of `SQLiteMessageStorage`, and sends them one
at a time on a thread of its own. One lock guards both; it is not held while a message is on its way. A step is what
happens between two points where the lock is free. Reading the table succeeds; adding a row, deleting one and clearing
the table may fail.
-/

namespace AlexaClientSDK.CertifiedSender

inductive Status
  | pending
  | success
  | successAccepted
  | successNoContent
  | notConnected
  | notSynchronized
  | timedout
  | protocolError
  | internalError
  | serverInternalErrorV2
  | refused
  | canceled
  | throttled
  | invalidAuth
  | badRequest
  | serverOtherError
  deriving DecidableEq

def shouldRetryTransmission : Status → Bool
  | .success | .successAccepted | .successNoContent => false
  | .serverInternalErrorV2 | .canceled | .serverOtherError | .badRequest => false
  | .throttled | .pending | .notConnected | .notSynchronized | .timedout => true
  | .protocolError | .internalError | .refused | .invalidAuth => true

/-- The number, as it was accepted, tells equal texts apart. -/
structure Message where
  /-- How many messages were accepted before. -/
  serial : ℕ
  jsonContent : String
  uriPathExtension : String

structure StoredMessage where
  id : ℕ
  message : Message

/-- `CertifiedMessageRequest`, without its answer. -/
structure CertifiedMessageRequest where
  dbId : ℕ
  message : Message

/-- `getTableMaxIntValue` for the ids, zero when the table is empty. -/
def getTableMaxIntValue : List StoredMessage → ℕ
  | [] => 0
  | row::rows => max row.id (getTableMaxIntValue rows)

section

variable (rows : List StoredMessage)

/-- The id is one more than the largest, unless that does not fit an `int`. -/
def store (message : Message) : Option (ℕ × List StoredMessage) :=
  let nextId := getTableMaxIntValue rows+1
  if nextId<2^31 then some (nextId,rows++[⟨nextId,message⟩]) else none

/-- `SQLiteMessageStorage::load`, in the order of the ids. -/
def load : List StoredMessage :=
  rows.mergeSort fun row row' => decide (row.id≤row'.id)

/-- `SQLiteMessageStorage::erase`, when the statement succeeds. -/
def erase (messageId : ℕ) : List StoredMessage :=
  rows.filter fun row => decide (row.id≠messageId)

end

/-- The limits that `init` accepts. -/
structure Limits where
  queueSizeWarnLimit : ℕ
  queueSizeHardLimit : ℕ
  hard_pos : 0<queueSizeHardLimit
  warn_le : queueSizeWarnLimit≤queueSizeHardLimit

/-- What is written down about messages, by their serial numbers. -/
inductive Mark
  /-- `sendMessage` is called. -/
  | sent (serial : ℕ)
  | answered (serial : ℕ) (status : Status)
  /-- The row could not be deleted. -/
  | eraseFailed (serial : ℕ)
  /-- `pop_front` of an empty queue. -/
  | poppedEmpty
  /-- `clearData` takes the message out of the queue. -/
  | cleared (serial : ℕ)
  deriving DecidableEq

/-- Where the worker thread is when it does not hold the lock. -/
inductive Worker
  | waiting
  /-- It has taken the message at the front and not called `sendMessage` yet. -/
  | picked (request : CertifiedMessageRequest)
  /-- In `waitForCompletion`, with the answer so far. -/
  | sending (request : CertifiedMessageRequest) (response : Option Status)
  /-- `waitForCompletion` has returned. -/
  | decided (request : CertifiedMessageRequest) (status : Status)
  | backoff

def Worker.currentMessage : Worker → Option CertifiedMessageRequest
  | .waiting => none
  | .picked request => some request
  | .sending request _ => some request
  | .decided request _ => some request
  | .backoff => none

structure Sender where
  messagesToSend : List CertifiedMessageRequest
  storage : List StoredMessage
  isConnected : Bool
  worker : Worker
  accepted : ℕ
  history : List Mark

def Sender.init : Sender where
  messagesToSend := []
  storage := []
  isConnected := false
  worker := .waiting
  accepted := 0
  history := []

/-- `executeSendJSONMessage`; the flag says whether the statement succeeds. -/
def Sender.executeSendJSONMessage (limits : Limits) (s : Sender) (jsonMessage uriPathExtension : String)
    (succeeds : Bool) : Bool × Sender :=
  if limits.queueSizeHardLimit ≤ s.messagesToSend.length then (false,s)
  else if succeeds=false then (false,s)
  else
    match store s.storage ⟨s.accepted,jsonMessage,uriPathExtension⟩ with
    | none => (false,s)
    | some (messageId,storage) =>
      (true,{s with
        storage := storage
        messagesToSend :=
          s.messagesToSend++[⟨messageId,⟨s.accepted,jsonMessage,uriPathExtension⟩⟩]
        accepted := s.accepted+1})

section

variable (s : Sender)

def Sender.popFront : Sender :=
  match s.messagesToSend with
  | [] => {s with history := s.history++[.poppedEmpty]}
  | _::rest => {s with messagesToSend := rest}

section

variable (request : CertifiedMessageRequest)

/-- A new request takes the place of the one at the front. -/
def Sender.retry : Sender :=
  let s := s.popFront
  {s with messagesToSend := request::s.messagesToSend,worker := .backoff}

/-- The other branch; the flag says whether the row can be deleted. -/
def Sender.finish (erased : Bool) : Sender :=
  let s :=
    if erased then {s with storage := erase s.storage request.dbId}
    else {s with history := s.history++[.eraseFailed request.message.serial]}
  {s.popFront with worker := .waiting}

def Sender.settle (status : Status) (erased : Bool) : Sender :=
  if shouldRetryTransmission status then s.retry request else s.finish request erased

end

/-- `clearData`; the flag says whether the table can be cleared. -/
def Sender.clearData (clears : Bool) : Sender :=
  {s with
    messagesToSend := []
    storage := if clears then [] else s.storage
    history := s.history++s.messagesToSend.map fun request => .cleared request.message.serial}

/-- The sender is destroyed, and a new one is created and loads the table. -/
def Sender.restart : Sender :=
  {s with
    messagesToSend := (load s.storage).map fun row => ⟨row.id,row.message⟩
    isConnected := false
    worker := .waiting}

end

inductive Event
  | sendJSONMessage (jsonMessage uriPathExtension : String) (succeeds : Bool)
  | onConnectionStatusChanged (connected : Bool)
  | pick
  | sendMessage
  | sendCompleted (status : Status)
  | exceptionReceived
  | wake
  | settle (erased : Bool)
  | backoffOver
  | clearData (clears : Bool)
  | restart

/-- A status may arrive once the message is sent, an exception until it was read. -/
inductive Step (limits : Limits) : Sender → Event → Sender → Prop
  | sendJSONMessage {s : Sender} (jsonMessage uriPathExtension : String) (succeeds : Bool) :
      Step limits s (.sendJSONMessage jsonMessage uriPathExtension succeeds)
        (s.executeSendJSONMessage limits jsonMessage uriPathExtension succeeds).2
  | onConnectionStatusChanged {s : Sender} (connected : Bool) :
      Step limits s (.onConnectionStatusChanged connected) {s with isConnected := connected}
  | pick {s : Sender} {request : CertifiedMessageRequest} {rest : List CertifiedMessageRequest}
      (waiting : s.worker=.waiting) (connected : s.isConnected=true)
      (front : s.messagesToSend=request::rest) :
      Step limits s .pick {s with worker := .picked request}
  | sendMessage {s : Sender} {request : CertifiedMessageRequest} (picked : s.worker=.picked request) :
      Step limits s .sendMessage {s with
        worker := .sending request none
        history := s.history++[.sent request.message.serial]}
  | sendCompleted {s : Sender} {request : CertifiedMessageRequest} (status : Status)
      (sending : s.worker=.sending request none) :
      Step limits s (.sendCompleted status) {s with
        worker := .sending request (some status)
        history := s.history++[.answered request.message.serial status]}
  | exceptionReceived {s : Sender} {request : CertifiedMessageRequest} {response : Option Status}
      (sending : s.worker=.sending request response) :
      Step limits s .exceptionReceived {s with
        worker := .sending request (some .serverInternalErrorV2)
        history := s.history++[.answered request.message.serial .serverInternalErrorV2]}
  | wake {s : Sender} {request : CertifiedMessageRequest} {status : Status}
      (answered : s.worker=.sending request (some status)) :
      Step limits s .wake {s with worker := .decided request status}
  | settle {s : Sender} {request : CertifiedMessageRequest} {status : Status}
      (decided : s.worker=.decided request status) (erased : Bool) :
      Step limits s (.settle erased) (s.settle request status erased)
  | backoffOver {s : Sender} (backoff : s.worker=.backoff) :
      Step limits s .backoffOver {s with worker := .waiting}
  | clearData {s : Sender} (clears : Bool) : Step limits s (.clearData clears) (s.clearData clears)
  | restart {s : Sender} : Step limits s .restart s.restart

end AlexaClientSDK.CertifiedSender
