import AlexaClientSDK.MimeEncoder

/-!
# The multipart parser and reader

`MultipartParser::feed` scans one chunk of a body. It keeps marks into the chunk, looks for the boundary with a skipping
search, and holds back a partial match in `lookbehind`. State, index and flags are stored back only when the whole chunk
was scanned. `MultipartReader` makes whole headers and data of the callbacks.
-/

namespace AlexaClientSDK.MultipartParser

open MimeEncoder (Bytes crlf twoDashes)

def CR : UInt8 := 13

def LF : UInt8 := 10

def SPACE : UInt8 := 32

def HYPHEN : UInt8 := 45

def COLON : UInt8 := 58

inductive State
  | error
  | start
  | startBoundary
  | headerStart
  | duplicateBoundaryStart
  | crlfDuplicateBoundaryStart
  | headerFieldStart
  | headerField
  | headerValueStart
  | headerValue
  | headerValueAlmostDone
  | headersAlmostDone
  | partDataStart
  | partData
  | partEnd
  | end_
  deriving DecidableEq

/-- The calls the parser makes to its user, with the bytes they cover. -/
inductive Callback
  | partBegin
  | headerField (bytes : Bytes)
  | headerValue (bytes : Bytes)
  | headerEnd
  | headersEnd
  | partData (bytes : Bytes)
  | partEnd
  | end_

/-- The members that `feed` copies into locals. -/
structure Core where
  state : State
  index : ℕ
  partBoundary : Bool
  lastBoundary : Bool

/-- The three marks; `UNMARKED` is `none`. -/
structure Marks where
  headerField : Option ℕ
  headerValue : Option ℕ
  partData : Option ℕ

/-- No mark is set. -/
def Marks.unmarked : Marks := ⟨none,none,none⟩

/-- The members of `MultipartParser`. -/
structure Parser where
  boundary : Bytes
  /-- `state`, `index` and `flags`. -/
  core : Core
  marks : Marks
  lookbehind : Bytes
  errorReason : String

/-- `reset`, as the constructor leaves the parser. -/
def Parser.reset : Parser where
  boundary := []
  core := ⟨.error,0,false,false⟩
  marks := .unmarked
  lookbehind := []
  errorReason := "Parser uninitialized."

section

variable (boundary : Bytes)

def Parser.setBoundary : Parser where
  boundary := crlf++twoDashes++boundary
  core := ⟨.start,0,false,false⟩
  marks := .unmarked
  lookbehind := List.replicate (boundary.length+8) 0
  errorReason := "No error."

/-- The locals of `feed`, what it updates, and the callbacks so far. -/
structure Scan where
  /-- `state`, `index` and `flags`. -/
  core : Core
  marks : Marks
  lookbehind : Bytes
  buffer : Bytes
  i : ℕ
  /-- `saveBuffer` and `saveI` while the replay buffer is scanned. -/
  saved : Option (Bytes × ℕ)
  out : List Callback

/-- The bytes of a buffer from `start` up to `stop`. -/
def slice (buffer : Bytes) (start stop : ℕ) : Bytes := (buffer.drop start).take (stop-start)

section

variable (make : Bytes → Callback)

def rangeCallback (buffer : Bytes) (start stop : ℕ) (allowEmpty : Bool) : List Callback :=
  if start=stop ∧ allowEmpty=false then [] else [make (slice buffer start stop)]

/-- `dataCallback` with `clear`: the range up to `i`, and no mark. -/
def dataCallbackClear (mark : Option ℕ) (buffer : Bytes) (i : ℕ) (allowEmpty : Bool) : List Callback :=
  match mark with
  | none => []
  | some start => rangeCallback make buffer start i allowEmpty

/-- Without `clear`: up to the end, and the mark at the next buffer. -/
def dataCallbackFlush (mark : Option ℕ) (buffer : Bytes) : Option ℕ × List Callback :=
  match mark with
  | none => (none,[])
  | some start => (some 0,rangeCallback make buffer start buffer.length false)

end

/-- `retry` is the turn that steps back with `i--`. -/
inductive Outcome
  | next (s : Scan)
  | retry (s : Scan)
  | fail (s : Scan) (reason : String)
  | stop (s : Scan)

section

variable (s : Scan)

def startBoundaryTurn (c : UInt8) : Outcome :=
  if s.core.index=boundary.length-2 then
    if c≠CR then .fail s "Malformed. Expected CR after boundary."
    else .next {s with core := {s.core with index := s.core.index+1}}
  else if s.core.index=boundary.length-2+1 then
    if c≠LF then .fail s "Malformed. Expected LF after boundary CR."
    else
      .next {s with
        core := {s.core with state := .headerStart,index := 0},out := s.out++[.partBegin]}
  else if c≠boundary.getD (s.core.index+2) 0 then
    .fail s "Malformed. Found different boundary data than the given one."
  else .next {s with core := {s.core with index := s.core.index+1}}

/-- `DUPLICATE_BOUNDARY_START` and `CRLF_DUPLICATE_BOUNDARY_START`. -/
def duplicateBoundaryTurn (c : UInt8) : Outcome :=
  let duplicateBoundary := boundary++crlf
  let offset := if s.core.state=.duplicateBoundaryStart then 2 else 0
  let duplicateIndex := s.core.index+offset
  if c≠duplicateBoundary.getD duplicateIndex 0 then
    .next {s with
      core := {s.core with state := .headerField,index := 0}
      marks := {s.marks with headerField := some 0}
      buffer := duplicateBoundary.take (duplicateIndex+1)++[c]
      i := 0
      saved := some (s.buffer,s.i)}
  else if duplicateIndex+1<duplicateBoundary.length then
    .next {s with core := {s.core with index := s.core.index+1}}
  else .next {s with core := {s.core with state := .headerStart}}

def headerFieldTurn (c : UInt8) : Outcome :=
  if c=CR then
    .next {s with
      core := {s.core with state := .headersAlmostDone}
      marks := {s.marks with headerField := none}}
  else
    let s := {s with core := {s.core with index := s.core.index+1}}
    if c=HYPHEN then .next s
    else if c=COLON then
      if s.core.index=1 then .fail s "Malformed first header name character."
      else
        .next {s with
          core := {s.core with state := .headerValueStart}
          marks := {s.marks with headerField := none}
          out := s.out ++ dataCallbackClear .headerField s.marks.headerField s.buffer s.i false}
    else if c ||| 0x20<97 ∨ 122<c ||| 0x20 then .fail s "Malformed header name."
    else .next s

/-- `HEADER_FIELD_START`, which falls through to `HEADER_FIELD`. -/
def headerFieldStartTurn (c : UInt8) : Outcome :=
  headerFieldTurn {s with
    core := {s.core with state := .headerField,index := 0}
    marks := {s.marks with headerField := some s.i}} c

/-- `HEADER_START`, which falls through to `HEADER_FIELD_START`. -/
def headerStartTurn (c : UInt8) : Outcome :=
  let s := {s with marks := {s.marks with headerField := some s.i}}
  if c=HYPHEN then
    .next {s with core := {s.core with state := .duplicateBoundaryStart,index := 1}}
  else if c=CR then
    .next {s with core := {s.core with state := .crlfDuplicateBoundaryStart,index := 1}}
  else headerFieldStartTurn s c

def headerValueTurn (c : UInt8) : Outcome :=
  if c=CR then
    .next {s with
      core := {s.core with state := .headerValueAlmostDone}
      marks := {s.marks with headerValue := none}
      out := s.out ++ dataCallbackClear .headerValue s.marks.headerValue s.buffer s.i true++[.headerEnd]}
  else .next s

/-- `HEADER_VALUE_START`, which falls through to `HEADER_VALUE`. -/
def headerValueStartTurn (c : UInt8) : Outcome :=
  if c=SPACE then .next s
  else
    headerValueTurn {s with
      core := {s.core with state := .headerValue}
      marks := {s.marks with headerValue := some s.i}} c

def headerValueAlmostDoneTurn (c : UInt8) : Outcome :=
  if c≠LF then .fail s "Malformed header value: LF expected after CR"
  else .next {s with core := {s.core with state := .headerFieldStart}}

def headersAlmostDoneTurn (c : UInt8) : Outcome :=
  if c≠LF then .fail s "Malformed header ending: LF expected after CR"
  else
    .next {s with
      core := {s.core with state := .partDataStart},out := s.out++[.headersEnd]}

/-- Blocks whose last byte does not occur in the boundary are skipped. -/
def skip (boundary buffer : Bytes) : ℕ → ℕ → ℕ
  | 0,i => i
  | fuel+1,i =>
    if i+boundary.length≤buffer.length then
      if buffer.getD (i+(boundary.length-1)) 0∈boundary then i
      else skip boundary buffer fuel (i+boundary.length)
    else i

/-- The branches over `index`; `true` marks the two that return. -/
def matchBoundary (c : UInt8) : Scan × Bool :=
  if s.core.index<boundary.length then
    if boundary.getD s.core.index 0=c then
      if s.core.index=0 then
        ({s with
          core := {s.core with index := s.core.index+1}
          marks := {s.marks with partData := none}
          out := s.out++dataCallbackClear .partData s.marks.partData s.buffer s.i false},false)
      else ({s with core := {s.core with index := s.core.index+1}},false)
    else ({s with core := {s.core with index := 0}},false)
  else if s.core.index=boundary.length then
    if c=CR then
      ({s with core := {s.core with index := s.core.index+1,partBoundary := true}},false)
    else if c=HYPHEN then
      ({s with core := {s.core with index := s.core.index+1,lastBoundary := true}},false)
    else ({s with core := {s.core with index := 0}},false)
  else if s.core.index=boundary.length+1 then
    if s.core.partBoundary then
      if c=LF then
        ({s with
          core := {s.core with state := .headerStart,index := 0,partBoundary := false}
          out := s.out++[.partEnd,.partBegin]},true)
      else ({s with core := {s.core with index := 0}},false)
    else if s.core.lastBoundary then
      if c=HYPHEN then
        ({s with core := {s.core with state := .end_},out := s.out++[.partEnd,.end_]},false)
      else ({s with core := {s.core with index := 0}},false)
    else ({s with core := {s.core with index := 0}},false)
  else if s.core.index=boundary.length+2 then
    if c=CR then ({s with core := {s.core with index := s.core.index+1}},false)
    else ({s with core := {s.core with index := 0}},false)
  else if s.core.index=boundary.length+3 then
    if c=LF then
      ({s with
        core := {s.core with state := .end_,index := 0}
        out := s.out++[.partEnd,.end_]},true)
    else ({s with core := {s.core with index := 0}},false)
  else (s,false)

/-- A partial match is held back, one that broke off is data. -/
def holdBack (prevIndex : ℕ) (c : UInt8) : Outcome :=
  if 0<s.core.index then
    if s.lookbehind.length ≤ s.core.index-1 then
      .fail s ("Parser bug: index overflows lookbehind buffer. " ++ "Please send bug report with input file attached.")
    else .next {s with lookbehind := s.lookbehind.set (s.core.index-1) c}
  else if 0<prevIndex then
    .retry {s with
      marks := {s.marks with partData := some s.i}
      out := s.out++[.partData (s.lookbehind.take prevIndex)]}
  else .next s

/-- `processPartData` behind the search. -/
def matchTurn (c : UInt8) : Outcome :=
  match matchBoundary boundary s c with
  | (s',true) => .next s'
  | (s',false) => holdBack s' s.core.index c

def processPartData (c : UInt8) : Outcome :=
  if s.core.index=0 then
    let s := {s with i := skip boundary s.buffer s.buffer.length s.i}
    if s.i=s.buffer.length then .next s
    else matchTurn boundary s (s.buffer.getD s.i 0)
  else matchTurn boundary s c

/-- The switch of the scanning loop. -/
def turn : Outcome :=
  let c := s.buffer.getD s.i 0
  match s.core.state with
  | .start => startBoundaryTurn boundary {s with core := {s.core with state := .startBoundary,index := 0}} c
  | .startBoundary => startBoundaryTurn boundary s c
  | .duplicateBoundaryStart => duplicateBoundaryTurn boundary s c
  | .crlfDuplicateBoundaryStart => duplicateBoundaryTurn boundary s c
  | .headerStart => headerStartTurn s c
  | .headerFieldStart => headerFieldStartTurn s c
  | .headerField => headerFieldTurn s c
  | .headerValueStart => headerValueStartTurn s c
  | .headerValue => headerValueTurn s c
  | .headerValueAlmostDone => headerValueAlmostDoneTurn s c
  | .headersAlmostDone => headersAlmostDoneTurn s c
  | .partDataStart =>
    processPartData boundary {s with
      core := {s.core with state := .partData}
      marks := {s.marks with partData := some s.i}} c
  | .partData => processPartData boundary s c
  | .error => .stop s
  | .partEnd => .stop s
  | .end_ => .stop s

end

end

/-- Marked bytes are handed out, and the chunk is back. -/
def Scan.flush (s : Scan) : Scan :=
  let field := dataCallbackFlush .headerField s.marks.headerField s.buffer
  let value := dataCallbackFlush .headerValue s.marks.headerValue s.buffer
  let data := dataCallbackFlush .partData s.marks.partData s.buffer
  let s := {s with marks := ⟨field.1,value.1,data.1⟩,out := s.out++field.2++value.2++data.2}
  match s.saved with
  | none => s
  | some (buffer,i) => {s with buffer := buffer,i := i,saved := none}

/-- The end of a turn of the loop. -/
def Scan.advance (s : Scan) : Scan :=
  let s := {s with i := s.i+1}
  if s.buffer.length ≤ s.i then s.flush else s

/-- How the scanning loop ends. -/
inductive Exit
  | finished (s : Scan)
  | stopped (s : Scan)
  | failed (s : Scan) (reason : String)

/-- The scanning loop, for at most `fuel` turns. -/
def loop (boundary : Bytes) : ℕ → Scan → Option Exit
  | 0,_ => none
  | fuel+1,s =>
    if s.i<s.buffer.length then
      match turn boundary s with
      | .next s => loop boundary fuel s.advance
      | .retry s => loop boundary fuel s
      | .fail s reason => some (.failed s reason)
      | .stop s => some (.stopped s)
    else some (.finished s)

/-- The locals at the beginning of `feed`. -/
def Parser.scan (p : Parser) (buffer : Bytes) : Scan where
  core := p.core
  marks := p.marks
  lookbehind := p.lookbehind
  buffer := buffer
  i := 0
  saved := none
  out := []

/-- The parser, the returned size and the callbacks. -/
def Parser.leave (p : Parser) : Option Exit → Parser × ℕ × List Callback
  | some (.finished s) =>
    ({p with core := s.core,marks := s.marks,lookbehind := s.lookbehind},s.buffer.length,s.out)
  | some (.stopped s) => ({p with marks := s.marks,lookbehind := s.lookbehind},s.i,s.out)
  | some (.failed s reason) =>
    ({p with
      core := {p.core with state := .error},marks := s.marks,lookbehind := s.lookbehind
      errorReason := reason},s.i,s.out)
  | none => (p,0,[])

/-- `MultipartParser::feed`. Every byte is looked at twice at most. -/
def Parser.feed (p : Parser) (buffer : Bytes) : Parser × ℕ × List Callback :=
  if p.core.state=.error ∨ buffer=[] then (p,0,[])
  else p.leave (loop p.boundary (2*buffer.length+2) (p.scan buffer))

def Parser.hasError (p : Parser) : Bool := p.core.state=.error

/-- In the order of the keys, equal ones as they were inserted. -/
abbrev Headers := List (Bytes × Bytes)

/-- `std::multimap::insert`. -/
def Headers.insert (headers : Headers) (entry : Bytes × Bytes) : Headers :=
  headers.takeWhile (fun e => ¬entry.1<e.1)++entry :: headers.dropWhile (fun e => ¬entry.1<e.1)

/-- The calls the reader makes to its user. -/
inductive PartCallback
  | begin (headers : Headers)
  | data (bytes : Bytes)
  | end_

/-- The members of `MultipartReader`. -/
structure Reader where
  parser : Parser
  currentHeaders : Headers
  currentHeaderName : Bytes
  currentHeaderValue : Bytes

def Reader.init : Reader := ⟨.reset,[],[],[]⟩

/-- `cbPartBegin` to `cbEnd`. -/
def Reader.callback (r : Reader) : Callback → Reader × List PartCallback
  | .partBegin => ({r with currentHeaders := [],currentHeaderName := [],currentHeaderValue := []},[])
  | .headerField bytes => ({r with currentHeaderName := r.currentHeaderName++bytes},[])
  | .headerValue bytes => ({r with currentHeaderValue := r.currentHeaderValue++bytes},[])
  | .headerEnd =>
    ({r with
      currentHeaders := r.currentHeaders.insert (r.currentHeaderName,r.currentHeaderValue)
      currentHeaderName := []
      currentHeaderValue := []},[])
  | .headersEnd =>
    ({r with currentHeaders := [],currentHeaderName := [],currentHeaderValue := []},[.begin r.currentHeaders])
  | .partData bytes => (r,[.data bytes])
  | .partEnd => (r,[.end_])
  | .end_ => (r,[])

/-- The callbacks of one `feed`, in order. -/
def Reader.callbacks (r : Reader) : List Callback → Reader × List PartCallback
  | [] => (r,[])
  | call::calls =>
    let (r,out) := r.callback call
    let (r,out') := r.callbacks calls
    (r,out++out')

def Reader.feed (r : Reader) (buffer : Bytes) : Reader × List PartCallback :=
  let (parser,_,calls) := r.parser.feed buffer
  {r with parser := parser}.callbacks calls

end AlexaClientSDK.MultipartParser
