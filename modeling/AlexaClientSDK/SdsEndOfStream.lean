import AlexaClientSDK.SdsFaithfulness

/-!
# The end of the stream

A reader is told `CLOSED` at its close index, and when it has read everything and a writer has been closed since the
last one was made. Both policies look at the present writer when words were written; one that may block looks at earlier
writers as well.
-/

namespace AlexaClientSDK.SdsEndOfStream

open Option LabelledRuns SharedDataStream SdsFaithfulness

variable {L : Layout}

/-- What is known of the writers from the calls. -/
structure History where
  /-- The writers that were not closed. -/
  unclosed : List ℕ
  /-- A writer has been closed, and none was made since. -/
  finished : Bool

/-- No call was made. -/
def History.empty : History := ⟨[],false⟩

/-- A writer is closed. Only the first time counts. -/
def History.close (history : History) (writer : ℕ) : History :=
  if writer∈history.unclosed then ⟨history.unclosed.filter fun other => other != writer,true⟩ else history

def History.next (history : History) : Event L → History
  | (.createWriter _ _,.created (some writer)) => ⟨history.unclosed++[writer],false⟩
  | (.closeWriter writer,_) => history.close writer
  | (.destroyWriter writer,_) => history.close writer
  | _ => history

/-- The calls of a run. -/
def historyOf (trace : List (Event L)) : History := trace.foldl History.next History.empty

def ReturnsClosed (s : Stream L) (id : Fin L.maxReaders) (policy : ReaderPolicy) (nWords : Index) (timeout : ℕ) : Prop :=
  ∃ t,s.read id policy true nWords timeout=some (t,.error .closed)

/-- The close index, or all is read and the last writer closed. -/
def Ended (trace : List (Event L)) (s : Stream L) (id : Fin L.maxReaders) : Prop :=
  (s.readers id).closeIndex≤(s.readers id).cursor ∨ s.tell id .beforeWriter=0 ∧ (historyOf trace).finished=true

/-- A writer was closed, and there is a new one or nothing written. -/
def Misled (s : Stream L) (id : Fin L.maxReaders) : Prop :=
  (s.readers id).cursor<(s.readers id).closeIndex ∧ s.tell id .beforeWriter=0 ∧
    s.header.hasWriterBeenClosed=true ∧ (s.header.isWriterEnabled=true ∨ s.header.writeEndCursor=0)

structure Agrees (history : History) (s : System L) : Prop where
  settled : s.stream.header.writeEndCursor=s.stream.header.writeStartCursor
  finished : history.finished=true ↔
    s.stream.header.hasWriterBeenClosed=true ∧ s.stream.header.isWriterEnabled=false
  unclosed : ∀ writer,writer∈history.unclosed ↔ ∃ object,s.writers[writer]?=some object ∧ object.closed=false
  made : s.writers≠[] → s.stream.header.isWriterEnabled=true ∨ s.stream.header.hasWriterBeenClosed=true
  written : s.stream.header.writeEndCursor≠0 → s.writers≠[]

theorem agrees_init (L : Layout) (data : Fin L.size → UInt8) : Agrees .empty (System.init L data) where
  settled := rfl
  finished := ⟨fun hfalse => (by cases hfalse),fun hboth => by cases hboth.1⟩
  unclosed writer := ⟨fun hmem => (by cases hmem),fun ⟨object,hsome,_⟩ => by cases hsome⟩
  made hne := (hne rfl).elim
  written hne := (hne rfl).elim

variable {history : History}

theorem Agrees.readersOnly {s t : System L} (h : Agrees history s)
    (hstream : ReadersOnly s.stream t.stream) (hwriters : t.writers=s.writers) : Agrees history t := by
  obtain ⟨-,oldest,hheader⟩ := hstream
  refine ⟨?_,?_,fun writer => ?_,fun hne => ?_,fun hne => ?_⟩
  · rw [hheader]
    exact h.settled
  · rw [hheader]
    exact h.finished
  · rw [hwriters]
    exact h.unclosed writer
  · rw [hheader]
    exact h.made (hwriters ▸ hne)
  · rw [hheader] at hne
    rw [hwriters]
    exact h.written hne

variable {s : System L}

theorem agrees_createWriter (h : Agrees history s) (policy : WriterPolicy) :
    Agrees ⟨history.unclosed++[s.writers.length],false⟩
      {s with stream := s.stream.attachWriter,writers := s.writers++[⟨policy,false,true⟩]} where
  settled := rfl
  finished := ⟨fun hfalse => (by cases hfalse),fun hboth => by cases hboth.2⟩
  unclosed writer := by
    rw [List.mem_append,List.mem_singleton,h.unclosed]
    constructor
    · rintro (⟨object,hsome,hopen⟩|rfl)
      · have hlt := (List.getElem?_eq_some_iff.mp hsome).1
        rw [List.getElem?_append_left hlt]
        exact ⟨object,hsome,hopen⟩
      · exact ⟨⟨policy,false,true⟩,List.getElem?_concat_length,rfl⟩
    · rintro ⟨object,hsome,hopen⟩
      rcases Nat.lt_or_ge writer s.writers.length with hlt|hge
      · rw [List.getElem?_append_left hlt] at hsome
        exact .inl ⟨object,hsome,hopen⟩
      · rw [List.getElem?_append_right hge,List.getElem?_singleton] at hsome
        split at hsome
        next hzero => exact .inr (by omega)
        · cases hsome
  made _ := .inl rfl
  written _ := List.append_ne_nil_of_right_ne_nil _ (List.cons_ne_nil _ _)

variable {w : ℕ} {writer : Writer}

theorem getElem?_of_writer (h : s.writer w=some writer) :
    s.writers[w]?=some writer := (filter_eq_some_iff.mp h).1

section

variable (h : Agrees history s)
include h

section

variable (hsome : s.writers[w]?=some writer)
include hsome

theorem unclosed_close (alive : Bool) (other : ℕ) : other∈(history.close w).unclosed ↔
      ∃ object,(s.writers.set w {writer with closed := true,alive := alive})[other]?=some object ∧
        object.closed=false := by
  have hlt := (List.getElem?_eq_some_iff.mp hsome).1
  have hkept : other∈(history.close w).unclosed ↔ other∈history.unclosed ∧ other≠w := by
    unfold History.close
    split
    · rw [List.mem_filter,bne_iff_ne]
    next hnot => exact ⟨fun hmem => ⟨hmem,fun heq => hnot (heq ▸ hmem)⟩,And.left⟩
  rw [hkept,h.unclosed]
  rcases eq_or_ne w other with rfl|hne
  · rw [List.getElem?_set_self hlt]
    refine ⟨fun hboth => (hboth.2 rfl).elim,?_⟩
    rintro ⟨object,heq,hopen⟩
    obtain rfl := Option.some.inj heq
    cases hopen
  · rw [List.getElem?_set_ne hne]
    exact ⟨And.left,fun hobject => ⟨hobject,hne.symm⟩⟩

theorem agrees_closeWriter (alive : Bool) : Agrees (history.close w) (s.closeWriter w writer alive) := by
  have hunclosed := unclosed_close h hsome alive
  have hwriters : s.writers≠[] := by
    intro hnil
    rw [hnil] at hsome
    cases hsome
  have hset : s.writers.set w {writer with closed := true,alive := alive}≠[] := fun hnil =>
    hwriters ((List.set_eq_nil_iff _ _).mp hnil)
  unfold System.closeWriter
  cases hclosed : writer.closed with
  | true =>
    -- The object knows that it is closed, and so do the calls.
    have hnot : w∉history.unclosed := by
      rw [h.unclosed]
      rintro ⟨object,hobject,hopen⟩
      obtain rfl := Option.some.inj (hobject.symm.trans hsome)
      rw [hclosed] at hopen
      cases hopen
    have hsame : history.close w=history := if_neg hnot
    rw [if_pos rfl]
    refine ⟨h.settled,?_,hunclosed,fun _ => h.made hwriters,fun _ => hset⟩
    rw [hsame]
    exact h.finished
  | false =>
    have hmem : w∈history.unclosed := (h.unclosed w).mpr ⟨writer,hsome,hclosed⟩
    have hfinished : (history.close w).finished=true := by
      unfold History.close
      rw [if_pos hmem]
    rw [if_neg Bool.false_ne_true]
    unfold Stream.closeWriter
    split
    next henabled =>
      exact ⟨h.settled,⟨fun _ => ⟨rfl,rfl⟩,fun _ => hfinished⟩,hunclosed,fun _ => .inr rfl,fun _ => hset⟩
    next hdisabled =>
      have hflag : s.stream.header.hasWriterBeenClosed=true := (h.made hwriters).resolve_left hdisabled
      exact ⟨h.settled,⟨fun _ => ⟨hflag,Bool.eq_false_iff.mpr hdisabled⟩,fun _ => hfinished⟩,hunclosed,
        fun _ => .inr hflag,fun _ => hset⟩

theorem agrees_copyIn (policy : WriterPolicy) (bytes : List UInt8) (n writeEnd : Index) :
    Agrees history {s with stream := s.stream.copyIn policy bytes n writeEnd} where
  settled := rfl
  finished := h.finished
  unclosed := h.unclosed
  made := h.made
  written _ hnil := by
    rw [hnil] at hsome
    cases hsome

end

/-- `createReader` makes a reader object and no writer. -/
theorem agrees_addReader (id : Fin L.maxReaders)
    (policy : ReaderPolicy) (fresh : Bool) : Agrees history (s.addReader id policy fresh).1 := by
  refine h.readersOnly (readersOnly_addReader s id policy fresh) ?_
  unfold System.addReader
  dsimp only
  split <;> rfl

end

theorem agrees_step {s t : System L} {event : Event L} (h : Agrees history s)
    (hstep : Step s event t) : Agrees (history.next event) t := by
  obtain ⟨op,out⟩ := event
  unfold Step at hstep
  cases op
  all_goals simp only [System.step,bind_eq_bind,bind_eq_some_iff] at hstep
  case createWriter policy _ =>
    split at hstep
    · cases hstep
      exact h
    · cases hstep
      exact agrees_createWriter h policy
  case createReader policy fresh =>
    split at hstep
    · cases hstep
      exact h
    next id _ =>
      have hadded := agrees_addReader h id policy fresh
      rw [Option.some.inj hstep] at hadded
      exact hadded
  case createReaderAt id policy fresh _ =>
    split at hstep
    · cases hstep
      exact h
    · have hadded := agrees_addReader h id policy fresh
      rw [Option.some.inj hstep] at hadded
      exact hadded
  case write =>
    obtain ⟨writer,hw,⟨stream,result⟩,hwrite,hret⟩ := hstep
    cases hret
    rcases write_cases hwrite with ⟨rfl,-⟩|⟨b,n,writeEnd,-,-,-,-,rfl,-⟩
    · exact h
    · exact agrees_copyIn h (getElem?_of_writer hw) _ _ _ _
  case closeWriter =>
    obtain ⟨writer,hw,hret⟩ := hstep
    cases hret
    exact agrees_closeWriter h (getElem?_of_writer hw) true
  case destroyWriter =>
    obtain ⟨writer,hw,hret⟩ := hstep
    cases hret
    exact agrees_closeWriter h (getElem?_of_writer hw) false
  case read =>
    obtain ⟨reader,hr,⟨stream,result⟩,hread,hret⟩ := hstep
    cases hret
    exact h.readersOnly (readersOnly_read hread) rfl
  case seek r offset reference =>
    obtain ⟨reader,hr,hret⟩ := hstep
    cases hret
    exact h.readersOnly (readersOnly_seek s.stream reader.id offset reference) rfl
  case closeReader =>
    obtain ⟨reader,hr,hret⟩ := hstep
    cases hret
    exact h.readersOnly (readersOnly_setReader s.stream reader.id _) rfl
  case destroyReader =>
    obtain ⟨reader,hr,hret⟩ := hstep
    cases hret
    exact h.readersOnly (readersOnly_destroyReader s.stream reader.id) rfl

theorem agrees_of_run {data : Fin L.size → UInt8} {trace : List (Event L)}
    (run : Run Step (System.init L data) trace s) : Agrees (historyOf trace) s := by
  refine Run.induct (fun trace s => Agrees (historyOf trace) s) run (agrees_init L data) fun past s event t h hstep => ?_
  unfold historyOf
  rw [List.foldl_append]
  exact agrees_step h hstep

section

variable {s : Stream L} {id : Fin L.maxReaders} {nWords : Index} {timeout : ℕ}

theorem not_overrun (hsettled : s.header.writeEndCursor=s.header.writeStartCursor) (htell : s.tell id .beforeWriter=0) :
    ¬((s.readers id).cursor ≤ s.header.writeEndCursor ∧ L.dataSize<s.header.writeEndCursor-(s.readers id).cursor) := by
  rintro ⟨hle,hover⟩
  rw [hsettled] at hle hover
  have hzero : s.header.writeStartCursor-(s.readers id).cursor=0 := by
    unfold Stream.tell at htell
    rw [if_pos hle] at htell
    exact htell
  rw [hzero] at hover
  exact absurd hover (UInt64.not_lt_zero)

theorem copyOut_ne_closed (s : Stream L) (id : Fin L.maxReaders) (nWords available : Index) :
    (s.copyOut id nWords available).2≠.error .closed := by
  unfold Stream.copyOut
  dsimp only
  split
  · exact nofun
  · exact nofun

theorem returnsClosed_iff (hsettled : s.header.writeEndCursor=s.header.writeStartCursor) (hwords : nWords≠0)
    (policy : ReaderPolicy) : ReturnsClosed s id policy nWords timeout ↔
      (s.readers id).closeIndex≤(s.readers id).cursor ∨ s.tell id .beforeWriter=0 ∧
        ((0<s.header.writeEndCursor ∧ ¬s.header.isWriterEnabled=true) ∨
          policy=.blocking ∧ s.header.hasWriterBeenClosed=true) := by
  unfold ReturnsClosed Stream.read
  rw [if_neg (not_not_intro rfl),if_neg hwords]
  by_cases hclose : (s.readers id).closeIndex≤(s.readers id).cursor
  · rw [if_pos hclose]
    exact ⟨fun _ => .inl hclose,fun _ => ⟨s,rfl⟩⟩
  rw [if_neg hclose]
  by_cases htell : s.tell id .beforeWriter=0
  · rw [if_neg (not_overrun hsettled htell),if_pos htell]
    by_cases hended : 0<s.header.writeEndCursor ∧ ¬s.header.isWriterEnabled=true
    · rw [if_pos hended]
      exact ⟨fun _ => .inr ⟨htell,.inl hended⟩,fun _ => ⟨s,rfl⟩⟩
    · rw [if_neg hended]
      cases policy with
      | nonblocking =>
        refine ⟨fun ⟨t,heq⟩ => (by cases heq),?_⟩
        rintro (hle|⟨-,hboth|⟨hblocking,-⟩⟩)
        · exact (hclose hle).elim
        · exact (hended hboth).elim
        · cases hblocking
      | blocking =>
        have hzero : ¬(0<s.tell id .beforeWriter) := by
          rw [htell]
          exact UInt64.not_lt_zero
        dsimp only
        by_cases hflag : s.header.hasWriterBeenClosed=true
        · rw [if_pos (.inl hflag),if_pos htell]
          exact ⟨fun _ => .inr ⟨htell,.inr ⟨rfl,hflag⟩⟩,fun _ => ⟨s,rfl⟩⟩
        · rw [if_neg (not_or.mpr ⟨hflag,hzero⟩)]
          refine ⟨fun ⟨t,heq⟩ => ?_,?_⟩
          · split at heq
            · cases heq
            · cases heq
          · rintro (hle|⟨-,hboth|⟨-,htrue⟩⟩)
            · exact (hclose hle).elim
            · exact (hended hboth).elim
            · exact (hflag htrue).elim
  · refine ⟨fun ⟨t,heq⟩ => ?_,?_⟩
    · by_cases hover : (s.readers id).cursor ≤ s.header.writeEndCursor ∧
        L.dataSize<s.header.writeEndCursor-(s.readers id).cursor
      · rw [if_pos hover] at heq
        cases heq
      · rw [if_neg hover,if_neg htell] at heq
        exact (copyOut_ne_closed s id nWords _ (congrArg Prod.snd (Option.some.inj heq))).elim
    · rintro (hle|⟨hzero,-⟩)
      · exact (hclose hle).elim
      · exact (htell hzero).elim

end

/-- One policy asks whether a writer was ever closed, the other whether words were written and no writer is
enabled. -/
theorem ends_alike_iff {written enabled closed : Prop} (hflags : written → enabled ∨ closed) :
    ((written ∧ ¬enabled ∨ closed ↔ closed ∧ ¬enabled) ∧ (written ∧ ¬enabled ↔ closed ∧ ¬enabled)) ↔
      ¬(closed ∧ (enabled ∨ ¬written)) := by
  tauto

/-- A reader that may block and one that may not, at the same cursor and close index, are told `CLOSED` exactly at the
end of the stream, unless they are misled. -/
theorem closed_alike_iff {data : Fin L.size → UInt8} {trace : List (Event L)} {s : System L}
    (run : Run Step (System.init L data) trace s) {blocking nonblocking : Fin L.maxReaders}
    (hcursor : (s.stream.readers nonblocking).cursor=(s.stream.readers blocking).cursor)
    (hcloseIndex : (s.stream.readers nonblocking).closeIndex=(s.stream.readers blocking).closeIndex)
    {nWords : Index} (hwords : nWords≠0) (timeout : ℕ) :
    ((ReturnsClosed s.stream blocking .blocking nWords timeout ↔ Ended trace s.stream blocking) ∧
        (ReturnsClosed s.stream nonblocking .nonblocking nWords timeout ↔ Ended trace s.stream blocking)) ↔
      ¬Misled s.stream blocking := by
  have hagrees := agrees_of_run run
  have htell : s.stream.tell nonblocking .beforeWriter=s.stream.tell blocking .beforeWriter := by
    unfold Stream.tell
    rw [hcursor]
  have hlt : (s.stream.readers blocking).cursor<(s.stream.readers blocking).closeIndex ↔
      ¬(s.stream.readers blocking).closeIndex≤(s.stream.readers blocking).cursor := UInt64.not_le.symm
  rw [returnsClosed_iff hagrees.settled hwords,returnsClosed_iff hagrees.settled hwords,hcursor,hcloseIndex,htell]
  unfold Ended Misled
  rw [hagrees.finished,hlt]
  -- Words were written only by a writer, and a writer leaves a flag.
  have hflags : 0<s.stream.header.writeEndCursor →
      s.stream.header.isWriterEnabled=true ∨ s.stream.header.hasWriterBeenClosed=true := fun hpos =>
    hagrees.made (hagrees.written (UInt64.pos_iff_ne_zero.mp hpos))
  have hzero : s.stream.header.writeEndCursor=0 ↔ ¬0<s.stream.header.writeEndCursor := by
    rw [UInt64.not_lt]
    exact ⟨fun heq => heq ▸ UInt64.le_refl _,fun hle => UInt64.le_antisymm hle (UInt64.zero_le)⟩
  have hdisabled : s.stream.header.isWriterEnabled=false ↔ ¬s.stream.header.isWriterEnabled=true := Bool.eq_false_iff
  rw [hzero,hdisabled]
  by_cases hclose : (s.stream.readers blocking).closeIndex≤(s.stream.readers blocking).cursor
  · simp only [hclose,true_or,not_true_eq_false,false_and,not_false_eq_true,and_self]
  · by_cases hnothing : s.stream.tell blocking .beforeWriter=0
    · simp only [hclose,hnothing,false_or,true_and,reduceCtorEq,false_and,or_false,not_false_eq_true]
      exact ends_alike_iff hflags
    · simp only [hclose,hnothing,false_and,or_false,and_false,not_false_eq_true,and_self]

/-- A ring of a single one-byte word, with a reader of each policy. -/
def bothPolicies : Layout where
  wordSize := 1
  dataSize := 1
  maxReaders := 2
  maxEphemeralReaders := 2
  wordSize_pos := Nat.one_pos
  dataSize_pos := oneWord.dataSize_pos
  ephemeral_le := le_rfl

def mayBlock : Fin bothPolicies.maxReaders := ⟨0,Nat.two_pos⟩

def mayNotBlock : Fin bothPolicies.maxReaders := ⟨1,Nat.one_lt_two⟩

/-- Two readers join, and a writer is made. -/
def joined : List (Op bothPolicies) :=
  [.createReaderAt mayBlock .blocking true false,.createReaderAt mayNotBlock .nonblocking true false,
    .createWriter .nonblockable false]

/-- The stream with both readers and the writer. -/
def afterCalls (ops : List (Op bothPolicies)) : Option (System bothPolicies × List (Event bothPolicies)) :=
  (System.init bothPolicies fun _ => 0).exec ops

/-- A word is written and read by both, and the writer is closed. -/
def readToTheEnd : List (Op bothPolicies) :=
  joined++[.write 0 (some ⟨1,[5],rfl⟩) 0,.read 0 true 1 0,.read 1 true 1 0,.closeWriter 0]

/-- Behind the last word of a writer that was closed both readers are told `CLOSED`. -/
theorem closed_alike_written :
    ∃ (trace : List (Event bothPolicies)) (s : System bothPolicies),Run Step (System.init bothPolicies fun _ => 0) trace s ∧
      trace.map Prod.fst=readToTheEnd ∧ acceptedBytes trace=[5] ∧ Ended trace s.stream mayBlock ∧
      ReturnsClosed s.stream mayBlock .blocking 1 0 ∧ ReturnsClosed s.stream mayNotBlock .nonblocking 1 0 := by
  obtain ⟨s,events,hexec⟩ : ∃ s events,afterCalls readToTheEnd=some (s,events) := ⟨_,_,rfl⟩
  have hrun := exec_run hexec
  have hall : (s.stream.readers mayNotBlock).cursor=(s.stream.readers mayBlock).cursor ∧
      (s.stream.readers mayNotBlock).closeIndex=(s.stream.readers mayBlock).closeIndex ∧ ¬Misled s.stream mayBlock ∧
      events.map Prod.fst=readToTheEnd ∧ acceptedBytes events=[5] ∧ Ended events s.stream mayBlock := by
    cases hexec
    exact ⟨rfl,rfl,fun hmisled => absurd hmisled.2.2.2 (by decide),rfl,rfl,.inr ⟨by decide,by decide⟩⟩
  obtain ⟨hcursor,hcloseIndex,hclear,hcalls,haccepted,hended⟩ := hall
  have hwords : (1 : Index)≠0 := by decide
  obtain ⟨hblocking,hnonblocking⟩ := (closed_alike_iff hrun hcursor hcloseIndex hwords 0).mpr hclear
  exact ⟨events,s,hrun,hcalls,haccepted,hended,hblocking.mpr hended,hnonblocking.mpr hended⟩

/-- A writer closed before writing: one reader ends, one waits. -/
theorem unwritten_stream_never_ends :
    ∃ (trace : List (Event bothPolicies)) (s : System bothPolicies),Run Step (System.init bothPolicies fun _ => 0) trace s ∧
      s.stream.readers mayBlock=s.stream.readers mayNotBlock ∧ Ended trace s.stream mayNotBlock ∧
      ReturnsClosed s.stream mayBlock .blocking 1 0 ∧ ¬ReturnsClosed s.stream mayNotBlock .nonblocking 1 0 := by
  obtain ⟨s,events,hexec⟩ : ∃ s events,afterCalls (joined++[.closeWriter 0])=some (s,events) := ⟨_,_,rfl⟩
  refine ⟨events,s,exec_run hexec,?_⟩
  cases hexec
  refine ⟨rfl,.inr ⟨by decide,by decide⟩,⟨_,rfl⟩,?_⟩
  rintro ⟨t,heq⟩
  cases heq

end AlexaClientSDK.SdsEndOfStream
