import AlexaClientSDK.CircularMemory
import AlexaClientSDK.LabelledRuns

/-!
# The shared data stream

One writer side and several readers share a circular block of words. Cursors are 64-bit and count words from the start
of the stream. The block is kept in bytes, so word size and ring size are parameters of the layout. Each member function
is one atomic operation; one that would wait has no result in the present state.
-/

namespace AlexaClientSDK.SharedDataStream

open CircularMemory LabelledRuns

/-- `using Index = uint64_t`; `size_t` has the same width. -/
abbrev Index := UInt64

/-- `numeric_limits<Index>::max()`. -/
def maxIndex : Index := 18446744073709551615

/-- A word, a byte in it, and no more ephemeral readers than readers. -/
structure Layout where
  wordSize : ℕ
  dataSize : Index
  maxReaders : ℕ
  /-- Slots that may be handed out without naming an id. -/
  maxEphemeralReaders : ℕ
  /-- `calculateBufferSize` refuses a zero word size. -/
  wordSize_pos : 0<wordSize
  /-- `create` refuses a buffer without room for one word. -/
  dataSize_pos : 0<dataSize.toNat
  /-- `create` refuses more ephemeral readers than readers. -/
  ephemeral_le : maxEphemeralReaders ≤ maxReaders

/-- Bytes in the ring. -/
def Layout.size (L : Layout) : ℕ := L.dataSize.toNat*L.wordSize

/-- The shared header, without the constants and the locks. -/
structure Header where
  isWriterEnabled : Bool
  /-- Some writer has been closed; never reset. -/
  hasWriterBeenClosed : Bool
  /-- First word not yet readable. -/
  writeStartCursor : Index
  /-- End of the words being written. -/
  writeEndCursor : Index
  /-- Writers that may block do not write past this by more than the ring. -/
  oldestUnconsumedCursor : Index

structure ReaderSlot where
  /-- Entry of `m_readerEnabledArray`. -/
  enabled : Bool
  /-- Entry of `m_readerCursorArray`. -/
  cursor : Index
  /-- Entry of `m_readerCloseIndexArray`. -/
  closeIndex : Index

/-- The contents of the shared buffer. -/
structure Stream (L : Layout) where
  /-- Cursors and writer flags. -/
  header : Header
  readers : Fin L.maxReaders → ReaderSlot
  data : Fin L.size → UInt8

inductive WriterPolicy
  | nonblockable
  | allOrNothing
  | blocking
  deriving DecidableEq

inductive ReaderPolicy
  | nonblocking
  | blocking
  deriving DecidableEq

inductive Reference
  | afterReader
  | beforeReader
  | beforeWriter
  | absolute
  deriving DecidableEq

inductive ReadError
  | closed
  | overrun
  | wouldblock
  | timedout
  | invalid
  deriving DecidableEq

inductive WriteError
  | closed
  | wouldblock
  | invalid
  | timedout
  deriving DecidableEq

/-- With the bytes left in the caller's buffer. -/
inductive ReadResult
  | words (nWords : Index) (bytes : List UInt8)
  | error (error : ReadError)
  deriving DecidableEq

/-- What `Writer::write` returns. -/
inductive WriteResult
  | words (nWords : Index)
  | error (error : WriteError)
  deriving DecidableEq

/-- A caller's buffer together with the word count it passes for it. -/
structure WriteBuffer (L : Layout) where
  /-- Words the caller asks to write. -/
  nWords : Index
  bytes : List UInt8
  /-- The caller owns as many bytes as it announces. -/
  bytes_length : bytes.length=nWords.toNat*L.wordSize

section

variable {L : Layout}

def wordsUntilWrap (L : Layout) (after : Index) : Index := L.dataSize-after%L.dataSize

/-- `BufferLayout::getData`, as a byte offset into the ring. -/
def getData (L : Layout) (at_ : Index) : ℕ := (at_%L.dataSize).toNat*L.wordSize

/-- Words of a copy of `nWords` words that come before the ring wraps. -/
def beforeWrap (L : Layout) (start nWords : Index) : Index :=
  if nWords<wordsUntilWrap L start then nWords else wordsUntilWrap L start

/-- Replace one entry of the reader arrays. -/
def Stream.setReader (s : Stream L) (id : Fin L.maxReaders) (slot : ReaderSlot) : Stream L :=
  {s with readers := Function.update s.readers id slot}

/-- The smallest cursor of an enabled reader, starting from the given bound. -/
def oldestEnabled (readers : Fin L.maxReaders → ReaderSlot) (oldest : Index) : Index :=
  (List.finRange L.maxReaders).foldl (fun oldest id => if (readers id).enabled ∧ (readers id).cursor<oldest
      then (readers id).cursor else oldest) oldest

/-- The bound the readers ask for; the write cursor when nobody asks. -/
def Stream.oldest (s : Stream L) : Index :=
  let found := oldestEnabled s.readers maxIndex
  if found=maxIndex then s.header.writeStartCursor else found

/-- `BufferLayout::updateOldestUnconsumedCursorLocked`. -/
def Stream.updateOldestUnconsumedCursor (s : Stream L) : Stream L :=
  if s.header.oldestUnconsumedCursor<s.oldest then
    {s with header := {s.header with oldestUnconsumedCursor := s.oldest}}
  else s

end

/-- A `Writer` object in some thread's hands. -/
structure Writer where
  policy : WriterPolicy
  closed : Bool
  /-- Not yet destroyed. -/
  alive : Bool

/-- How the switch over the policy in `Writer::write` ends. -/
inductive Reservation
  | granted (nWords writeEnd : Index)
  | refused (error : WriteError)
  | waiting

section

variable {L : Layout}

/-- Words a blocking writer may add before the oldest unconsumed word is hit. -/
def spaceAvailable (L : Layout) (h : Header) : Index :=
  if h.oldestUnconsumedCursor≤h.writeStartCursor then
    let wordsToOverrun := L.dataSize-(h.writeStartCursor-h.oldestUnconsumedCursor)
    if wordsToOverrun<L.dataSize then wordsToOverrun else L.dataSize
  else L.dataSize

/-- How many words, and the cursor behind them. -/
def reserve (L : Layout) (h : Header) (policy : WriterPolicy) (nWords : Index) (timeout : ℕ) : Reservation :=
  let writeEnd := h.writeStartCursor+nWords
  match policy with
  | .nonblockable =>
    if L.dataSize<nWords then .granted L.dataSize (h.writeStartCursor+L.dataSize)
    else .granted nWords writeEnd
  | .allOrNothing =>
    if h.oldestUnconsumedCursor≤writeEnd ∧ L.dataSize<writeEnd-h.oldestUnconsumedCursor then
      .refused .wouldblock
    else .granted nWords writeEnd
  | .blocking =>
    if h.writeStartCursor<h.oldestUnconsumedCursor ∨ h.writeStartCursor-h.oldestUnconsumedCursor<L.dataSize then
      if spaceAvailable L h<nWords then
        .granted (spaceAvailable L h) (h.writeStartCursor+spaceAvailable L h)
      else .granted nWords writeEnd
    else if timeout=0 then .waiting else .refused .timedout

/-- The two `memcpy` calls of `Writer::write`. -/
def copyToRing (L : Layout) (data : Fin L.size → UInt8) (start : Index) (buf8 : List UInt8)
    (wordsToCopy : Index) : Fin L.size → UInt8 :=
  let before := beforeWrap L start wordsToCopy
  let afterWrap := wordsToCopy-before
  let copied := memcpy data (getData L start) (buf8.take (before.toNat*L.wordSize))
  if 0<afterWrap then
    memcpy copied (getData L (start+before)) ((buf8.drop (before.toNat*L.wordSize)).take (afterWrap.toNat*L.wordSize))
  else copied

section

variable (s : Stream L)

/-- The rest of `Writer::write`: copy into the ring, then publish the words. -/
def Stream.copyIn (policy : WriterPolicy) (bytes : List UInt8) (nWords writeEnd : Index) : Stream L :=
  let wordsToCopy :=
    if policy=.allOrNothing ∧ L.dataSize<nWords then L.dataSize else nWords
  let buf8 := bytes.drop ((nWords-wordsToCopy).toNat*L.wordSize)
  {s with
    header := {s.header with writeStartCursor := writeEnd,writeEndCursor := writeEnd}
    data := copyToRing L s.data s.header.writeStartCursor buf8 wordsToCopy}

/-- `Writer::write`; no result while a blocking writer waits for space. -/
def Stream.write (policy : WriterPolicy) (buf : Option (WriteBuffer L))
    (timeout : ℕ) : Option (Stream L × WriteResult) :=
  match buf with
  | none => some (s,.error .invalid)
  | some buf =>
    if buf.nWords=0 then some (s,.error .invalid)
    else if ¬s.header.isWriterEnabled then some (s,.error .closed)
    else
      match reserve L s.header policy buf.nWords timeout with
      | .waiting => none
      | .refused error => some (s,.error error)
      | .granted nWords writeEnd => some (s.copyIn policy buf.bytes nWords writeEnd,.words nWords)

def Stream.attachWriter : Stream L :=
  {s with
    header :=
      {s.header with isWriterEnabled := true,writeEndCursor := s.header.writeStartCursor}}

/-- `Writer::close` on a writer that is not closed yet. -/
def Stream.closeWriter : Stream L :=
  if s.header.isWriterEnabled then
    {s with
      header := {s.header with isWriterEnabled := false,hasWriterBeenClosed := true}}
  else s

end

end

/-- A `Reader` object in some thread's hands. -/
structure Reader (L : Layout) where
  policy : ReaderPolicy
  id : Fin L.maxReaders
  /-- Not yet destroyed. -/
  alive : Bool

section

variable {L : Layout}

section

variable (s : Stream L)

section

variable (id : Fin L.maxReaders)

def Stream.tell : Reference → Index
  | .afterReader => 0
  | .beforeReader => 0
  | .beforeWriter =>
    if (s.readers id).cursor ≤ s.header.writeStartCursor then
      s.header.writeStartCursor-(s.readers id).cursor
    else 0
  | .absolute => (s.readers id).cursor

/-- The two `memcpy` calls of `Reader::read`. -/
def copyFromRing (L : Layout) (data : Fin L.size → UInt8) (start nWords : Index) : List UInt8 :=
  let before := beforeWrap L start nWords
  let afterWrap := nWords-before
  let copied := fetch data (getData L start) (before.toNat*L.wordSize)
  if 0<afterWrap then
    copied++fetch data (getData L (start+before)) (afterWrap.toNat*L.wordSize)
  else copied

/-- No more than asked for, available, and left by the close index. -/
def wordsToRead (slot : ReaderSlot) (nWords wordsAvailable : Index) : Index :=
  let nWords := if wordsAvailable<nWords then wordsAvailable else nWords
  if slot.closeIndex<slot.cursor+nWords then slot.closeIndex-slot.cursor else nWords

namespace Stream

/-- Copy, move the cursor, and check for an overrun. -/
def copyOut (nWords wordsAvailable : Index) : Stream L × ReadResult :=
  let slot := s.readers id
  let taken := wordsToRead slot nWords wordsAvailable
  let cursor := slot.cursor+taken
  let moved := (s.setReader id {slot with cursor := cursor}).updateOldestUnconsumedCursor
  (moved,
    if L.dataSize<s.header.writeEndCursor-cursor then .error .overrun
    else .words taken (copyFromRing L s.data slot.cursor taken))

/-- `Reader::read`; no result while a blocking reader waits for data. -/
def read (policy : ReaderPolicy) (hasBuffer : Bool)
    (nWords : Index) (timeout : ℕ) : Option (Stream L × ReadResult) :=
  let slot := s.readers id
  if ¬hasBuffer then some (s,.error .invalid)
  else if nWords=0 then some (s,.error .invalid)
  else if slot.closeIndex ≤ slot.cursor then some (s,.error .closed)
  else if slot.cursor ≤ s.header.writeEndCursor ∧
      L.dataSize<s.header.writeEndCursor-slot.cursor then some (s,.error .overrun)
  else if s.tell id .beforeWriter=0 then
    if 0<s.header.writeEndCursor ∧ ¬s.header.isWriterEnabled then some (s,.error .closed)
    else
      match policy with
      | .nonblocking => some (s,.error .wouldblock)
      | .blocking =>
        if s.header.hasWriterBeenClosed ∨ 0<s.tell id .beforeWriter then
          if s.tell id .beforeWriter=0 then some (s,.error .closed)
          else some (s.copyOut id nWords (s.tell id .beforeWriter))
        else if timeout=0 then none
        else some (s,.error .timedout)
  else some (s.copyOut id nWords (s.tell id .beforeWriter))

/-- The position `Reader::seek` aims at, if there is one. -/
def seekTarget (offset : Index) : Reference → Option Index
  | .afterReader => some ((s.readers id).cursor+offset)
  | .beforeReader =>
    if (s.readers id).cursor<offset then none else some ((s.readers id).cursor-offset)
  | .beforeWriter =>
    if s.header.writeStartCursor<offset then none
    else some (s.header.writeStartCursor-offset)
  | .absolute => some offset

/-- `Reader::seek`. A backward seek lets the cached bound start again from zero. -/
def seek (offset : Index) (reference : Reference) : Stream L × Bool :=
  match s.seekTarget id offset reference with
  | none => (s,false)
  | some absolute =>
    let slot := s.readers id
    if slot.closeIndex<absolute then (s,false)
    else if absolute ≤ s.header.writeEndCursor ∧ L.dataSize<s.header.writeEndCursor-absolute then (s,false)
    else
      let moved := s.setReader id {slot with cursor := absolute}
      if absolute<slot.cursor then
        let reset :=
          {moved with header := {moved.header with oldestUnconsumedCursor := 0}}
        (reset.updateOldestUnconsumedCursor,true)
      else (moved.updateOldestUnconsumedCursor,true)

def closeReader (offset : Index) (reference : Reference) : Stream L :=
  let slot := s.readers id
  let absolute :=
    match reference with
    | .afterReader => slot.cursor+offset
    | .beforeReader => slot.cursor
    | .beforeWriter =>
      if s.header.writeStartCursor<offset then 0 else s.header.writeStartCursor-offset
    | .absolute => offset
  s.setReader id {slot with closeIndex := absolute}

def attachReader : Stream L :=
  s.setReader id
    {enabled := true,cursor := s.header.writeStartCursor,closeIndex := maxIndex}

def destroyReader : Stream L :=
  let sought := (s.seek id 0 .beforeWriter).1
  (sought.setReader id {sought.readers id with enabled := false}).updateOldestUnconsumedCursor

end Stream

def maxReaderCreationRetries : ℕ := 3

/-- The retry loop: seek back over what the ring holds. -/
def Stream.seekToOldData (s : Stream L) (id : Fin L.maxReaders) : ℕ → Stream L × Bool
  | 0 => (s.destroyReader id,false)
  | retries+1 =>
    let start := s.header.writeStartCursor
    let offset :=
      if start<L.dataSize then some start
      else if s.header.writeEndCursor<start then none
      else if L.dataSize<s.header.writeEndCursor-start then none
      else some (L.dataSize-(s.header.writeEndCursor-start))
    match offset with
    | none => s.seekToOldData id retries
    | some offset =>
      let (sought,found) := s.seek id offset .beforeWriter
      if found then (sought,true) else sought.seekToOldData id retries

/-- `createReaderLocked`, after the check that the slot may be taken. -/
def Stream.createReader (startWithNewData : Bool) : Stream L × Bool :=
  let attached := s.attachReader id
  if startWithNewData then (attached.updateOldestUnconsumedCursor,true)
  else attached.seekToOldData id maxReaderCreationRetries

end

/-- The first slot the id-less `createReader` may use. -/
def Stream.freeEphemeralReader : Option (Fin L.maxReaders) :=
  (List.finRange L.maxReaders).find? fun id =>
    decide (id.val<L.maxEphemeralReaders) && !(s.readers id).enabled

end

end

/-- The shared buffer with every writer and reader object made so far. -/
structure System (L : Layout) where
  stream : Stream L
  /-- Writer objects, in the order of their creation. -/
  writers : List Writer
  /-- Reader objects, in the order of their creation. -/
  readers : List (Reader L)

/-- The operations of the interface; objects are named by creation order. -/
inductive Op (L : Layout)
  | createWriter (policy : WriterPolicy) (forceReplacement : Bool)
  | createReader (policy : ReaderPolicy) (startWithNewData : Bool)
  | createReaderAt (id : Fin L.maxReaders) (policy : ReaderPolicy) (startWithNewData : Bool) (forceReplacement : Bool)
  | write (writer : ℕ) (buf : Option (WriteBuffer L)) (timeout : ℕ)
  | closeWriter (writer : ℕ)
  | destroyWriter (writer : ℕ)
  | read (reader : ℕ) (hasBuffer : Bool) (nWords : Index) (timeout : ℕ)
  | seek (reader : ℕ) (offset : Index) (reference : Reference)
  | closeReader (reader : ℕ) (offset : Index) (reference : Reference)
  | destroyReader (reader : ℕ)

/-- What an operation returns to its caller. -/
inductive Outcome
  | created (handle : Option ℕ)
  | wrote (result : WriteResult)
  | got (result : ReadResult)
  | sought (found : Bool)
  | done
  deriving DecidableEq

section

variable {L : Layout}

section

variable (s : System L)

/-- The living writer with the given creation number. -/
def System.writer (w : ℕ) : Option Writer :=
  (s.writers[w]?).filter Writer.alive

/-- The living reader with the given creation number. -/
def System.reader (r : ℕ) : Option (Reader L) :=
  (s.readers[r]?).filter Reader.alive

/-- Make a reader object for a slot, as `createReaderLocked` does. -/
def System.addReader (id : Fin L.maxReaders) (policy : ReaderPolicy) (startWithNewData : Bool) : System L × Outcome :=
  let (stream,created) := s.stream.createReader id startWithNewData
  if created then
    ({s with stream := stream,readers := s.readers++[⟨policy,id,true⟩]},.created (some s.readers.length))
  else ({s with stream := stream},.created none)

/-- `Writer::close` on an object: the flag of the object, then the header. -/
def System.closeWriter (s : System L) (w : ℕ) (writer : Writer) (alive : Bool) : System L :=
  {s with
    stream := if writer.closed then s.stream else s.stream.closeWriter
    writers := s.writers.set w {writer with closed := true,alive := alive}}

/-- Without a result while it waits, or when its object is missing. -/
def System.step : Op L → Option (System L × Outcome)
  | .createWriter policy forceReplacement =>
    if s.stream.header.isWriterEnabled ∧ ¬forceReplacement then some (s,.created none)
    else
      some ({s with
        stream := s.stream.attachWriter,writers := s.writers++[⟨policy,false,true⟩]},
        .created (some s.writers.length))
  | .createReader policy startWithNewData =>
    match s.stream.freeEphemeralReader with
    | none => some (s,.created none)
    | some id => some (s.addReader id policy startWithNewData)
  | .createReaderAt id policy startWithNewData forceReplacement =>
    if (s.stream.readers id).enabled ∧ ¬forceReplacement then some (s,.created none)
    else some (s.addReader id policy startWithNewData)
  | .write w buf timeout => do
    let writer ← s.writer w
    let (stream,result) ← s.stream.write writer.policy buf timeout
    return ({s with stream := stream},.wrote result)
  | .closeWriter w => do
    let writer ← s.writer w
    return (s.closeWriter w writer true,.done)
  | .destroyWriter w => do
    let writer ← s.writer w
    return (s.closeWriter w writer false,.done)
  | .read r hasBuffer nWords timeout => do
    let reader ← s.reader r
    let (stream,result) ← s.stream.read reader.id reader.policy hasBuffer nWords timeout
    return ({s with stream := stream},.got result)
  | .seek r offset reference => do
    let reader ← s.reader r
    let (stream,found) := s.stream.seek reader.id offset reference
    return ({s with stream := stream},.sought found)
  | .closeReader r offset reference => do
    let reader ← s.reader r
    return ({s with stream := s.stream.closeReader reader.id offset reference},.done)
  | .destroyReader r => do
    let reader ← s.reader r
    return ({s with
      stream := s.stream.destroyReader reader.id
      readers := s.readers.set r {reader with alive := false}},.done)

end

/-- A call and its result. -/
abbrev Event (L : Layout) := Op L × Outcome

/-- The step relation of the stream, labelled by calls with their results. -/
def Step (s : System L) (event : Event L) (t : System L) : Prop :=
  s.step event.1=some (t,event.2)

/-- Execute a list of calls, if none of them waits, with their results. -/
def System.exec (s : System L) : List (Op L) → Option (System L × List (Event L))
  | [] => some (s,[])
  | op::ops => do
    let (t,outcome) ← s.step op
    let (u,events) ← t.exec ops
    return (u,(op,outcome)::events)

/-- `BufferLayout::init` over a buffer with any contents; no objects yet. -/
def System.init (L : Layout) (data : Fin L.size → UInt8) : System L where
  stream :=
    { header := ⟨false, false, 0, 0, 0⟩
      readers := fun _ => ⟨false, 0, 0⟩
      data := data }
  writers := []
  readers := []

/-- The bytes a call added to the stream. -/
def accepted : Event L → List UInt8
  | (.write _ (some buf) _,.wrote (.words nWords)) => buf.bytes.take (nWords.toNat*L.wordSize)
  | _ => []

/-- All bytes accepted along a run, in order. -/
def acceptedBytes (trace : List (Event L)) : List UInt8 := trace.flatMap accepted

theorem exec_run {s t : System L} {ops : List (Op L)} {events : List (Event L)}
    (h : s.exec ops=some (t,events)) : Run Step s events t := by
  induction ops generalizing s events with
  | nil =>
    cases h
    exact Run.refl
  | cons op ops ih =>
    simp only [System.exec,Option.bind_eq_bind,Option.bind_eq_some_iff] at h
    obtain ⟨⟨u,outcome⟩,hstep,⟨v,rest⟩,hexec,hret⟩ := h
    cases hret
    exact (Run.single hstep).append (ih hexec)

end

end AlexaClientSDK.SharedDataStream
