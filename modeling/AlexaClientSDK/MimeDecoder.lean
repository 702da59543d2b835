import AlexaClientSDK.MultipartParser

/-!
# The MIME response decoder

`HTTP2MimeResponseDecoder` strips the line end in front of the body, feeds chunks to a multipart reader and passes
begins, data and ends on to a sink. When the sink pauses, the reader is rolled back and the chunk is delivered again; an
index tells which data callbacks were accepted.
-/

namespace AlexaClientSDK.MimeDecoder

open MimeEncoder (Bytes crlf)
open MultipartParser (Headers PartCallback Reader Parser)

/-- `HTTP2ReceiveDataStatus`. -/
inductive Status
  | success
  | pause
  | abort
  deriving DecidableEq

/-- `HTTP2MimeResponseSinkInterface`, over the states of some sink. -/
structure ResponseSink (σ : Type) where
  onReceiveResponseCode : σ → Int → Bool × σ
  onReceiveHeaderLine : σ → Bytes → Bool × σ
  onBeginMimePart : σ → Headers → Bool × σ
  onReceiveMimeData : σ → Bytes → Status × σ
  onEndMimePart : σ → Bool × σ
  onReceiveNonMimeData : σ → Bytes → Status × σ

/-- The members of `HTTP2MimeResponseDecoder` beside the sink. -/
structure Decoder where
  responseCode : Int
  reader : Reader
  lastStatus : Status
  index : ℕ
  leadingCRLFCharsLeftToRemove : ℕ
  boundaryFound : Bool
  lastSuccessIndex : ℕ

def Decoder.init : Decoder where
  responseCode := 0
  reader := .init
  lastStatus := .success
  index := 0
  leadingCRLFCharsLeftToRemove := crlf.length
  boundaryFound := false
  lastSuccessIndex := 0

def boundaryPrefix : Bytes := [98,111,117,110,100,97,114,121,61]

def boundaryDelimiter : UInt8 := 59

/-- The line from the first `boundary=` on. -/
def findBoundary : Bytes → Option Bytes
  | [] => none
  | c::line => if boundaryPrefix <+: c::line then some (c::line) else findBoundary line

/-- The two `substr` calls of `onReceiveHeaderLine`. -/
def boundaryOf (line : Bytes) : Option Bytes :=
  (findBoundary line).map fun found =>
    (found.drop boundaryPrefix.length).takeWhile (· ≠ boundaryDelimiter)

section

variable {σ : Type} (K : ResponseSink σ)

def Decoder.onReceiveResponseCode (d : Decoder) (sink : σ) (responseCode : Int) : Bool × Decoder × σ :=
  let (answer,sink) := K.onReceiveResponseCode sink responseCode
  (answer,{d with responseCode := responseCode},sink)

def Decoder.onReceiveHeaderLine (d : Decoder) (sink : σ) (line : Bytes) : Bool × Decoder × σ :=
  let d :=
    if d.boundaryFound then d
    else
      match boundaryOf line with
      | none => d
      | some boundary =>
        {d with
          reader := {d.reader with parser := Parser.setBoundary boundary},boundaryFound := true}
  let (answer,sink) := K.onReceiveHeaderLine sink line
  (answer,d,sink)

section

variable (d : Decoder)

section

variable (sink : σ)

namespace Decoder

def partBeginCallback (headers : Headers) : Decoder × σ :=
  match d.lastStatus with
  | .success =>
    match K.onBeginMimePart sink headers with
    | (true,sink) => (d,sink)
    | (false,sink) => ({d with lastStatus := .abort},sink)
  | .pause => (d,sink)
  | .abort => (d,sink)

/-- The data goes to the sink unless the decoder is paused or has given up. -/
def offerData (bytes : Bytes) : Decoder × σ :=
  if d.lastStatus=.success then
    match K.onReceiveMimeData sink bytes with
    | (.success,sink) => ({d with lastStatus := .success,lastSuccessIndex := d.index},sink)
    | (status,sink) => ({d with lastStatus := status},sink)
  else (d,sink)

def partDataCallback (bytes : Bytes) : Decoder × σ :=
  let d := {d with index := d.index+1}
  if d.lastStatus=.pause ∧ d.index=d.lastSuccessIndex+1 then
    {d with lastStatus := .success}.offerData K sink bytes
  else d.offerData K sink bytes

def partEndCallback : Decoder × σ :=
  if d.lastStatus=.success then
    match K.onEndMimePart sink with
    | (true,sink) => (d,sink)
    | (false,sink) => ({d with lastStatus := .abort},sink)
  else (d,sink)

/-- The reader's callback, as the constructor installed it. -/
def partCallback : PartCallback → Decoder × σ
  | .begin headers => d.partBeginCallback K sink headers
  | .data bytes => d.partDataCallback K sink bytes
  | .end_ => d.partEndCallback K sink

def partCallbacks (d : Decoder) (sink : σ) : List PartCallback → Decoder × σ
  | [] => (d,sink)
  | call::calls =>
    let (d,sink) := d.partCallback K sink call
    d.partCallbacks sink calls

end Decoder

/-- How much is left in front of the body, and what is behind it if it fits. -/
def stripCRLF : ℕ → Bytes → ℕ × Option Bytes
  | 0,bytes => (0,some bytes)
  | left+1,[] => (left+1,some [])
  | left+1,c::bytes =>
    if c=crlf.getD (crlf.length-(left+1)) 0 then stripCRLF left bytes
    else if left+1=1 then (1,none)
    else (0,some (c::bytes))

/-- The part of `onReceiveData` behind the leading line end. -/
def Decoder.feedReader (bytes : Bytes) : Decoder × σ :=
  let (reader,calls) := d.reader.feed bytes
  let (d,sink) := {d with index := 0,reader := reader}.partCallbacks K sink calls
  if d.reader.parser.hasError then ({d with lastStatus := .abort},sink) else (d,sink)

/-- The closing switch of `onReceiveData`, with what a pause puts back. -/
def Decoder.settle (readerCheckpoint : Reader) (oldLeading : ℕ) : Decoder :=
  match d.lastStatus with
  | .success => {d with lastSuccessIndex := 0}
  | .pause => {d with reader := readerCheckpoint,leadingCRLFCharsLeftToRemove := oldLeading}
  | .abort => d

def Decoder.onReceiveData (bytes : Bytes) : Status × Decoder × σ :=
  if d.lastStatus=.abort then (.abort,d,sink)
  else if d.responseCode≠200 then
    let (status,sink) := K.onReceiveNonMimeData sink bytes
    (status,d,sink)
  else if d.boundaryFound=false then (.abort,d,sink)
  else
    match stripCRLF d.leadingCRLFCharsLeftToRemove bytes with
    | (left,none) => (.abort,{d with leadingCRLFCharsLeftToRemove := left},sink)
    | (left,some body) =>
      if 0<d.leadingCRLFCharsLeftToRemove ∧ body=[] then
        (.success,{d with leadingCRLFCharsLeftToRemove := left},sink)
      else
        let (e,sink) := {d with leadingCRLFCharsLeftToRemove := left}.feedReader K sink body
        let e := e.settle d.reader d.leadingCRLFCharsLeftToRemove
        (e.lastStatus,e,sink)

end

end

/-- The chunks of a body, one call each, with the statuses returned. -/
def Decoder.onReceiveChunks (d : Decoder) (sink : σ) : List Bytes → List Status × Decoder × σ
  | [] => ([],d,sink)
  | chunk::chunks =>
    let (status,d,sink) := d.onReceiveData K sink chunk
    let (statuses,d,sink) := d.onReceiveChunks sink chunks
    (status::statuses,d,sink)

/-- A fresh decoder after a response code and one header line. -/
def Decoder.afterHeader (sink : σ) (line : Bytes) : Decoder × σ :=
  let (_,d,sink) := Decoder.init.onReceiveResponseCode K sink 200
  let (_,d,sink) := d.onReceiveHeaderLine K sink line
  (d,sink)

end

/-- A sink that accepts everything and writes it down. -/
def recorder : ResponseSink (List PartCallback) where
  onReceiveResponseCode log _ := (true,log)
  onReceiveHeaderLine log _ := (true,log)
  onBeginMimePart log headers := (true,log++[.begin headers])
  onReceiveMimeData log bytes := (.success,log++[.data bytes])
  onEndMimePart log := (true,log++[.end_])
  onReceiveNonMimeData log _ := (.success,log)

/-- A sink that pauses as its script says, and writes down what it accepts. -/
def pauser : ResponseSink (List PartCallback × List Bool) where
  onReceiveResponseCode s _ := (true,s)
  onReceiveHeaderLine s _ := (true,s)
  onBeginMimePart s headers := (true,(s.1++[.begin headers],s.2))
  onReceiveMimeData s bytes :=
    match s.2 with
    | true::script => (.pause,(s.1,script))
    | false::script => (.success,(s.1++[.data bytes],script))
    | [] => (.success,(s.1++[.data bytes],[]))
  onEndMimePart s := (true,(s.1++[.end_],s.2))
  onReceiveNonMimeData s _ := (.success,s)

/-- A sink's view with the data cut into bytes. -/
inductive Seen
  | begin (headers : Headers)
  | byte (c : UInt8)
  | end_
  deriving DecidableEq

def seenCall : PartCallback → List Seen
  | .begin headers => [.begin headers]
  | .data bytes => bytes.map .byte
  | .end_ => [.end_]

/-- A log with its data cut into bytes: the same begins and ends in the same order, and between them the same
data. -/
def seen (log : List PartCallback) : List Seen := log.flatMap seenCall

end AlexaClientSDK.MimeDecoder
