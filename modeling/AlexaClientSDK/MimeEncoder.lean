import AlexaClientSDK.LabelledRuns

/-!
# The MIME request encoder

`HTTP2MimeRequestEncoder` hands out a multipart body into buffers of any size. Each call runs a loop over the states
until the buffer is full, the source pauses, or the body ends. The bytes copied in the present call are a list whose
length is `m_bytesCopied`.
-/

namespace AlexaClientSDK.MimeEncoder

open LabelledRuns

/-- A `std::string` or a buffer. -/
abbrev Bytes := List UInt8

def crlf : Bytes := [13,10]

def twoDashes : Bytes := [45,45]

inductive State
  | new
  | getting1stPartHeaders
  | sending1stBoundary
  | sendingPartHeaders
  | sendingPartData
  | sendingEndBoundary
  | gettingNthPartHeaders
  | sendingCrlfAfterBoundary
  | sendingTerminatingDashes
  | done
  | abort
  deriving DecidableEq

/-- The table of allowed transitions in `setState`. -/
def transitions : List (State × State) :=
  [(.new,.getting1stPartHeaders),(.getting1stPartHeaders,.sending1stBoundary),(.getting1stPartHeaders,.done),
    (.getting1stPartHeaders,.abort),
    (.sending1stBoundary,.sendingPartHeaders),
    (.sendingPartHeaders,.sendingPartData),
    (.sendingPartData,.sendingEndBoundary),
    (.sendingPartData,.done),
    (.sendingPartData,.abort),
    (.sendingEndBoundary,.gettingNthPartHeaders),
    (.gettingNthPartHeaders,.sendingCrlfAfterBoundary),
    (.gettingNthPartHeaders,.sendingTerminatingDashes),
    (.gettingNthPartHeaders,.abort),
    (.sendingCrlfAfterBoundary,.sendingPartHeaders),
    (.sendingTerminatingDashes,.done)]

/-- `HTTP2GetMimeHeadersResult`. -/
inductive HeadersResult
  | continue_ (headers : List Bytes)
  | pause
  | complete
  | abort

/-- `HTTP2SendDataResult`, with the bytes that were put into the buffer. -/
inductive SendResult
  | continue_ (bytes : Bytes)
  | pause
  | complete
  | abort
  deriving DecidableEq

/-- The two calls the encoder makes, over the states of some source. -/
structure RequestSource (σ : Type) where
  getMimePartHeaderLines : σ → HeadersResult × σ
  /-- `onSendMimePartData` for a buffer of the given size. -/
  onSendMimePartData : σ → ℕ → SendResult × σ

/-- The members of `HTTP2MimeRequestEncoder`. -/
structure Encoder where
  state : State
  prefixedBoundary : Bytes
  /-- The headers of `m_getMimeHeaderLinesResult`. -/
  headers : List Bytes
  /-- `m_headerLine`, as a distance from the first header. -/
  headerLine : ℕ
  stringIndex : ℕ
  /-- The caller's buffer up to `m_bytesCopied`. -/
  buffer : Bytes
  /-- Whether a transition was ever refused as not in the table. -/
  disallowed : Bool

namespace Encoder

def init (boundary : Bytes) : Encoder where
  state := .new
  prefixedBoundary := crlf++twoDashes++boundary
  headers := []
  headerLine := 0
  stringIndex := 0
  buffer := []
  disallowed := false

def setState (e : Encoder) (newState : State) : Encoder :=
  if newState=e.state then e
  else if (e.state,newState)∈transitions then {e with state := newState}
  else {e with state := .done,disallowed := true}

def sendString (e : Encoder) (size : ℕ) (text : Bytes) : Encoder × Bool :=
  let bufferRemaining := size-e.buffer.length
  let textRemaining := text.length-e.stringIndex
  let result := decide (textRemaining<bufferRemaining)
  let sizeToCopy := if result then textRemaining else bufferRemaining
  ({e with
      buffer := e.buffer++(text.drop e.stringIndex).take sizeToCopy
      stringIndex := e.stringIndex+sizeToCopy},result)

/-- The second half of `sendStringAndCRLF`. -/
def sendCRLF (e : Encoder) (size : ℕ) (text : Bytes) : Encoder × Bool :=
  let crlfBytesCopied := e.stringIndex-text.length
  let bufferRemaining := size-e.buffer.length
  let crlfRemaining := crlf.length-crlfBytesCopied
  let result := decide (crlfRemaining<bufferRemaining)
  let sizeToCopy := if result then crlfRemaining else bufferRemaining
  ({e with
      buffer := e.buffer++(crlf.drop crlfBytesCopied).take sizeToCopy
      stringIndex := e.stringIndex+sizeToCopy},result)

def sendStringAndCRLF (e : Encoder) (size : ℕ) (text : Bytes) : Encoder × Bool :=
  if e.stringIndex<text.length then
    let (e,sent) := e.sendString size text
    if sent then e.sendCRLF size text else (e,false)
  else e.sendCRLF size text

/-- The loop over the header lines in `SENDING_PART_HEADERS`. -/
def sendHeaderLines (size : ℕ) : List Bytes → Encoder → Encoder × Bool
  | [],e => (e,true)
  | line::rest,e =>
    let (e,sent) := e.sendStringAndCRLF size line
    if sent then sendHeaderLines size rest {e with headerLine := e.headerLine+1,stringIndex := 0}
    else (e,false)

end Encoder

/-- How one turn of the loop in `onSendData` ends. -/
inductive Turn (σ : Type)
  | again (e : Encoder) (source : σ)
  | return_ (result : SendResult) (e : Encoder) (source : σ)

section

variable {σ : Type} (S : RequestSource σ)

/-- The pause of three states: what was copied is reported first. -/
def Encoder.pauseResult (e : Encoder) : SendResult :=
  if e.buffer.length≠0 then .continue_ e.buffer else .pause

/-- One turn of the loop in `onSendData`: the switch over the state. -/
def Encoder.turn (e : Encoder) (source : σ) (size : ℕ) : Turn σ :=
  match e.state with
  | .new => .again (e.setState .getting1stPartHeaders) source
  | .getting1stPartHeaders =>
    match S.getMimePartHeaderLines source with
    | (.continue_ headers,source) =>
      .again ({e with headers := headers,stringIndex := 0}.setState .sending1stBoundary) source
    | (.pause,source) => .return_ e.pauseResult {e with headers := []} source
    | (.complete,source) => .return_ (.continue_ e.buffer) ({e with headers := []}.setState .done) source
    | (.abort,source) => .return_ .abort ({e with headers := []}.setState .abort) source
  | .sending1stBoundary =>
    match e.sendStringAndCRLF size e.prefixedBoundary with
    | (e,true) => .again ({e with headerLine := 0,stringIndex := 0}.setState .sendingPartHeaders) source
    | (e,false) => .return_ (.continue_ e.buffer) e source
  | .sendingPartHeaders =>
    match Encoder.sendHeaderLines size (e.headers.drop e.headerLine) e with
    | (e,true) =>
      match e.sendString size crlf with
      | (e,true) => .again (e.setState .sendingPartData) source
      | (e,false) => .return_ (.continue_ e.buffer) e source
    | (e,false) => .return_ (.continue_ e.buffer) e source
  | .sendingPartData =>
    match S.onSendMimePartData source (size-e.buffer.length) with
    | (.continue_ bytes,source) =>
      let e := {e with buffer := e.buffer++bytes}
      if e.buffer.length=size then .return_ (.continue_ e.buffer) e source
      else if size<e.buffer.length then .return_ .abort (e.setState .abort) source
      else .again e source
    | (.pause,source) => .return_ e.pauseResult e source
    | (.complete,source) => .again ({e with stringIndex := 0}.setState .sendingEndBoundary) source
    | (.abort,source) => .return_ .abort (e.setState .abort) source
  | .sendingEndBoundary =>
    match e.sendString size e.prefixedBoundary with
    | (e,true) => .again (e.setState .gettingNthPartHeaders) source
    | (e,false) => .return_ (.continue_ e.buffer) e source
  | .gettingNthPartHeaders =>
    match S.getMimePartHeaderLines source with
    | (.continue_ headers,source) =>
      .again ({e with headers := headers,stringIndex := 0}.setState .sendingCrlfAfterBoundary) source
    | (.pause,source) => .return_ e.pauseResult {e with headers := []} source
    | (.complete,source) =>
      .again ({e with headers := [],stringIndex := 0}.setState .sendingTerminatingDashes) source
    | (.abort,source) => .return_ .abort ({e with headers := []}.setState .abort) source
  | .sendingCrlfAfterBoundary =>
    match e.sendString size crlf with
    | (e,true) => .again ({e with headerLine := 0,stringIndex := 0}.setState .sendingPartHeaders) source
    | (e,false) => .return_ (.continue_ e.buffer) e source
  | .sendingTerminatingDashes =>
    match e.sendStringAndCRLF size twoDashes with
    | (e,true) => .return_ (.continue_ e.buffer) (e.setState .done) source
    | (e,false) => .return_ (.continue_ e.buffer) e source
  | .done => .return_ .complete e source
  | .abort => .return_ .abort e source

/-- The loop of `onSendData`, for at most `fuel` turns. -/
def Encoder.loop (size : ℕ) : ℕ → Encoder → σ → Option (SendResult × Encoder × σ)
  | 0,_,_ => none
  | fuel+1,e,source =>
    match e.turn S source size with
    | .again e source => loop size fuel e source
    | .return_ result e source => some (result,e,source)

/-- `onSendData`, for at most `fuel` turns of its loop. -/
def Encoder.onSendData (fuel : ℕ) (e : Encoder) (source : σ) (size : ℕ) : Option (SendResult × Encoder × σ) :=
  Encoder.loop S size fuel {e with buffer := []} source

/-- One call with a buffer of at least one byte. -/
def Call (s : Encoder × σ) (call : ℕ × SendResult) (t : Encoder × σ) : Prop :=
  1≤call.1 ∧ ∃ fuel,s.1.onSendData S fuel s.2 call.1=some (call.2,t.1,t.2)

end

structure Part where
  /-- Header lines without their line ends. -/
  headers : List Bytes
  data : Bytes

/-- What a source may choose to do at its next call. -/
inductive Answer
  | pause
  | give (n : ℕ)

/-- A source with the rest of the part, the parts to send and its choices. -/
structure PartSource where
  /-- Parts not started yet. -/
  parts : List Part
  /-- Rest of the present part. -/
  data : Bytes
  /-- Choices still to be made. -/
  answers : List Answer

/-- The next part's headers, after any pauses the source chooses to make. -/
def PartSource.getMimePartHeaderLines (s : PartSource) : HeadersResult × PartSource :=
  match s.answers with
  | .pause::rest => (.pause,{s with answers := rest})
  | _ =>
    match s.parts with
    | [] => (.complete,s)
    | part::parts => (.continue_ part.headers,{s with parts := parts,data := part.data})

/-- A piece of the present part, possibly empty, or a pause. -/
def PartSource.onSendMimePartData (s : PartSource) (size : ℕ) : SendResult × PartSource :=
  match s.answers with
  | .pause::rest => (.pause,{s with answers := rest})
  | .give 0::rest => (.continue_ [],{s with answers := rest})
  | .give (n+1)::rest =>
    if s.data=[] then (.complete,s)
    else
      (.continue_ (s.data.take (min (n+1) size)),
        {s with data := s.data.drop (min (n+1) size),answers := rest})
  | [] =>
    if s.data=[] then (.complete,s)
    else (.continue_ (s.data.take size),{s with data := s.data.drop size})

/-- The source of a finite list of parts, as the encoder sees it. -/
def partSource : RequestSource PartSource where
  getMimePartHeaderLines := PartSource.getMimePartHeaderLines
  onSendMimePartData := PartSource.onSendMimePartData

/-- The encoder and its source before the first call. -/
def start (boundary : Bytes) (parts : List Part) (answers : List Answer) : Encoder × PartSource :=
  (Encoder.init boundary,{parts := parts,data := [],answers := answers})

def delimiter (boundary : Bytes) : Bytes := crlf++twoDashes++boundary

/-- The header lines, each with its line end. -/
def headerBlock (headers : List Bytes) : Bytes := headers.flatMap fun line => line++crlf

/-- The next part up to and including its own delimiter, or the end of the body. -/
def afterDelimiter (delimiter : Bytes) : List Part → Bytes
  | [] => twoDashes++crlf
  | part::parts =>
    crlf++headerBlock part.headers++crlf++part.data++delimiter ++ afterDelimiter delimiter parts

def encode (boundary : Bytes) (parts : List Part) : Bytes :=
  if parts=[] then [] else delimiter boundary++afterDelimiter (delimiter boundary) parts

def produced : ℕ × SendResult → Bytes
  | (_,.continue_ bytes) => bytes
  | _ => []

def producedBytes (calls : List (ℕ × SendResult)) : Bytes := calls.flatMap produced

end AlexaClientSDK.MimeEncoder
