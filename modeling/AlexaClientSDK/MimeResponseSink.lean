import Mathlib.Data.List.Infix
import AlexaClientSDK.MimeDecoder

/-!
# The MIME response sink

JSON parts of a response go to the message consumer, and parts with a content id to an attachment. Whether a writer
could be created and what a write returned come with the calls; a write that is not `OK` has written nothing. What the
sink tells its handler, and bodies that are not MIME, are left out.
-/

namespace AlexaClientSDK.MimeResponseSink

open MimeEncoder (Bytes)
open MultipartParser (Headers)
open MimeDecoder (Status)

def ascii (text : String) : Bytes := text.toList.map fun character => UInt8.ofNat character.toNat

def MIME_CONTENT_TYPE_FIELD_NAME : Bytes := ascii "Content-Type"

def MIME_CONTENT_ID_FIELD_NAME : Bytes := ascii "Content-ID"

def MIME_JSON_CONTENT_TYPE : Bytes := ascii "application/json"

def MIME_OCTET_STREAM_CONTENT_TYPE : Bytes := ascii "application/octet-stream"

def ATTACHMENT_ID_COMBINING_SUBSTRING : Bytes := ascii ":"

inductive ContentType
  | NONE
  | JSON
  | ATTACHMENT
deriving DecidableEq

inductive WriteStatus
  | OK
  | CLOSED
  | OK_BUFFER_FULL
  | ERROR_BYTES_LESS_THAN_WORD_SIZE
  | ERROR_INTERNAL
  | TIMEDOUT
deriving DecidableEq

/-- The state of a `MimeResponseSink`. -/
structure Sink where
  contentType : ContentType
  directiveBeingReceived : Bytes
  attachmentIdBeingReceived : Bytes
  attachmentWriter : Option Bytes

/-- A new sink. The constructor does not set `m_contentType`. -/
def Sink.create (contentType : ContentType) : Sink where
  contentType := contentType
  directiveBeingReceived := []
  attachmentIdBeingReceived := []
  attachmentWriter := none

/-- The first header with the name, `multimap::find`. -/
def find (headers : Headers) (name : Bytes) : Option Bytes := (headers.find? fun entry => entry.1 == name).map Prod.snd

/-- How many have the name. -/
def count (headers : Headers) (name : Bytes) : ℕ := headers.countP fun entry => entry.1 == name

def sanitizeContentId (mimeContentId : Bytes) : Bytes :=
  if mimeContentId=[] then []
  else if mimeContentId.head?=(ascii "<").head? ∧ mimeContentId.getLast?=(ascii ">").head? then
    mimeContentId.tail.dropLast
  else mimeContentId

def generateAttachmentId (contextId contentId : Bytes) : Bytes :=
  if contextId=[] ∧ contentId=[] then []
  else if contextId=[] then contentId
  else if contentId=[] then contextId
  else contextId++ATTACHMENT_ID_COMBINING_SUBSTRING++contentId

namespace Sink

def onBeginMimePart (attachmentContextId : Bytes) (s : Sink) (headers : Headers) (created : Bool) : Bool × Sink :=
  match find headers MIME_CONTENT_TYPE_FIELD_NAME with
  | none => (true,s)
  | some contentType =>
    if MIME_JSON_CONTENT_TYPE <:+: contentType then (true,{s with contentType := .JSON})
    else if MIME_OCTET_STREAM_CONTENT_TYPE <:+: contentType ∧ count headers MIME_CONTENT_ID_FIELD_NAME=1 then
      let contentId := sanitizeContentId ((find headers MIME_CONTENT_ID_FIELD_NAME).getD [])
      let attachmentId := generateAttachmentId attachmentContextId contentId
      if s.attachmentWriter=none ∧ attachmentId≠s.attachmentIdBeingReceived then
        if created then (true,{s with attachmentWriter := some attachmentId,contentType := .ATTACHMENT})
        else (false,s)
      else (true,{s with contentType := .ATTACHMENT})
    else (true,{s with contentType := .NONE})

def writeToAttachment (s : Sink) (bytes : Bytes) (writeStatus : WriteStatus) (numWritten : ℕ) : Status :=
  if s.attachmentWriter=none then .abort
  else
    match writeStatus with
    | .OK => if numWritten≠bytes.length then .abort else .success
    | .OK_BUFFER_FULL => .pause
    | .CLOSED | .ERROR_BYTES_LESS_THAN_WORD_SIZE | .ERROR_INTERNAL | .TIMEDOUT => .abort

def onReceiveMimeData (s : Sink) (bytes : Bytes) (writeStatus : WriteStatus) (numWritten : ℕ) : Status × Sink :=
  match s.contentType with
  | .JSON => (.success,{s with directiveBeingReceived := s.directiveBeingReceived++bytes})
  | .ATTACHMENT => (s.writeToAttachment bytes writeStatus numWritten,s)
  | .NONE => (.success,s)

/-- With the id of the attachment. -/
def writes (s : Sink) (bytes : Bytes) (writeStatus : WriteStatus) (numWritten : ℕ) : List (Bytes × Bytes) :=
  if s.contentType=.ATTACHMENT ∧ writeStatus=.OK then
    s.attachmentWriter.toList.map fun attachmentId => (attachmentId,bytes.take numWritten)
  else []

/-- `onEndMimePart`, with the message that the consumer gets. -/
def onEndMimePart (s : Sink) : Option Bytes × Sink :=
  match s.contentType with
  | .JSON =>
    if s.directiveBeingReceived≠[] then (some s.directiveBeingReceived,{s with directiveBeingReceived := []})
    else (none,s)
  | .ATTACHMENT =>
    (none,{s with
      attachmentIdBeingReceived := []
      attachmentWriter := none
      contentType := .NONE})
  | .NONE => (none,s)

section

variable {s : Sink} {bytes : Bytes} {writeStatus : WriteStatus} {numWritten : ℕ}

theorem onReceiveMimeData_json (hcontentType : s.contentType=.JSON) : s.onReceiveMimeData bytes writeStatus numWritten =
      (.success,{s with directiveBeingReceived := s.directiveBeingReceived++bytes}) := by
  unfold onReceiveMimeData
  rw [hcontentType]

theorem onReceiveMimeData_attachment (hcontentType : s.contentType=.ATTACHMENT) :
    s.onReceiveMimeData bytes writeStatus numWritten=(s.writeToAttachment bytes writeStatus numWritten,s) := by
  unfold onReceiveMimeData
  rw [hcontentType]

theorem onReceiveMimeData_none (hcontentType : s.contentType=.NONE) :
    s.onReceiveMimeData bytes writeStatus numWritten=(.success,s) := by
  unfold onReceiveMimeData
  rw [hcontentType]

theorem onEndMimePart_json (hcontentType : s.contentType=.JSON) : s.onEndMimePart =
      if s.directiveBeingReceived≠[] then (some s.directiveBeingReceived,{s with directiveBeingReceived := []})
      else (none,s) := by
  unfold onEndMimePart
  rw [hcontentType]

theorem onEndMimePart_attachment (hcontentType : s.contentType=.ATTACHMENT) : s.onEndMimePart =
      (none,{s with
        attachmentIdBeingReceived := []
        attachmentWriter := none
        contentType := .NONE}) := by
  unfold onEndMimePart
  rw [hcontentType]

theorem onEndMimePart_none (hcontentType : s.contentType=.NONE) : s.onEndMimePart=(none,s) := by
  unfold onEndMimePart
  rw [hcontentType]

end

end Sink

/-- A part, as far as it was received: its headers, and the chunks of its body that the sink has accepted. -/
structure Part where
  headers : Headers
  chunks : List Bytes

/-- The body of a part, concatenated. -/
def Part.body (part : Part) : Bytes := part.chunks.flatten

/-- A response as the sink is told it, with what the sink has passed on. -/
structure Response where
  sink : Sink
  parts : List Part
  current : Option Part
  /-- The sink has refused to go on. -/
  aborted : Bool
  /-- The data that the sink gets again after a pause. -/
  paused : Option Bytes
  /-- The data with which the sink has refused to go on. -/
  refused : Option Bytes
  consumed : List Bytes
  written : List (Bytes × Bytes)

/-- Nothing was received. -/
def create (contentType : ContentType) : Response where
  sink := .create contentType
  parts := []
  current := none
  aborted := false
  paused := none
  refused := none
  consumed := []
  written := []

/-- What the sink is told. -/
inductive Event
  /-- A part begins. A writer can be created, or not. -/
  | begin (headers : Headers) (created : Bool)
  /-- Some of its body comes, and the writer answers, if there is one. -/
  | data (bytes : Bytes) (writeStatus : WriteStatus) (numWritten : ℕ)
  | finish

/-- It can be told this now. -/
def Possible (s : Response) : Event → Prop
  | .begin _ _ => s.aborted=false ∧ s.current=none
  | .data bytes _ numWritten =>
    s.aborted=false ∧ s.current≠none ∧ (s.paused=none ∨ s.paused=some bytes) ∧ numWritten≤bytes.length
  | .finish => s.aborted=false ∧ s.current≠none ∧ s.paused=none

instance (s : Response) : (event : Event) → Decidable (Possible s event)
  | .begin _ _ => inferInstanceAs (Decidable (s.aborted=false ∧ s.current=none))
  | .data bytes _ numWritten =>
    inferInstanceAs (Decidable (s.aborted=false ∧ s.current≠none ∧ (s.paused=none ∨ s.paused=some bytes) ∧
      numWritten≤bytes.length))
  | .finish => inferInstanceAs (Decidable (s.aborted=false ∧ s.current≠none ∧ s.paused=none))

/-- Data that the sink accepts belongs to the body of its part. What it is paused at comes again. -/
def accepted (status : Status) (bytes : Bytes) : List Bytes := if status=.success then [bytes] else []

section

variable (attachmentContextId : Bytes)

/-- The response after one more call of the sink. -/
def Response.next (s : Response) : Event → Response
  | .begin headers created =>
    let result := s.sink.onBeginMimePart attachmentContextId headers created
    {s with
      sink := result.2
      current := some ⟨headers,[]⟩
      aborted := !result.1}
  | .data bytes writeStatus numWritten =>
    let result := s.sink.onReceiveMimeData bytes writeStatus numWritten
    {s with
      sink := result.2
      current := s.current.map fun part => {part with chunks := part.chunks++accepted result.1 bytes}
      aborted := result.1 == .abort
      paused := if result.1=.pause then some bytes else none
      refused := if result.1=.abort then some bytes else none
      written := s.written++s.sink.writes bytes writeStatus numWritten}
  | .finish =>
    let result := s.sink.onEndMimePart
    {s with
      sink := result.2
      parts := s.parts++s.current.toList
      current := none
      consumed := s.consumed++result.1.toList}

def Step (s : Response) (event : Event) (t : Response) : Prop :=
  Possible s event ∧ t=s.next attachmentContextId event

theorem step_next (s : Response) (event : Event) (hpossible : decide (Possible s event)=true) :
    Step attachmentContextId s event (s.next attachmentContextId event) := ⟨of_decide_eq_true hpossible,rfl⟩

end

end AlexaClientSDK.MimeResponseSink
