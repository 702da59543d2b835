import AlexaClientSDK.MimeRoundTrip
import AlexaClientSDK.MultipartLoops

/-!
# Parts without headers

The encoder writes a part without headers as a blank line and its data. The parser takes the carriage return for the
beginning of a repeated boundary, and the replay of what turns out to be none fails at the line feed. So a sink never
gets such a part, whatever the others are.
-/

namespace AlexaClientSDK.MimeBareParts

open MimeEncoder (Bytes Part crlf twoDashes delimiter headerBlock afterDelimiter encode)
open List MultipartParser MultipartTurns MimeDecoder MimeDelivery MimeRoundTrip Parser

/-- The parts in front, each with the delimiter that ends it. -/
def leadIn (delimiter : Bytes) (before : List Part) : Bytes :=
  before.flatMap fun part => crlf++headerBlock part.headers++crlf++part.data++delimiter

/-- Behind the line end in front of the part and where its end is told. -/
def cut (boundary : Bytes) (before : List Part) (part : Part) (after : List Part) : List Bytes :=
  [delimiter boundary++leadIn (delimiter boundary) before++crlf,
    headerBlock part.headers++crlf++part.data++delimiter boundary ++ (afterDelimiter (delimiter boundary) after).take 2,
    (afterDelimiter (delimiter boundary) after).drop 2]

/-- What a sink is to see of a part without headers. -/
def bareSeen (data : Bytes) : List Seen := .begin []::data.map .byte++[.end_]

/-- The sink sees a begin without headers, the data, and the end. -/
def Arrives (line boundary : Bytes) (before : List Part) (part : Part) (after : List Part) : Prop :=
  let start := Decoder.afterHeader recorder [] line
  let chunks := cut boundary before part after
  (∀ status∈(start.1.onReceiveChunks recorder start.2 chunks).1,status=.success) ∧
    seen (start.1.onReceiveChunks recorder start.2 (chunks.take 2)).2.2 =
      seen (start.1.onReceiveChunks recorder start.2 (chunks.take 1)).2.2++bareSeen part.data

/-- What a sink sees costs as much as the callbacks it comes from. -/
def seenCost (boundary : Bytes) : List Seen → ℕ
  | [] => 0
  | .begin headers::rest => (if headers=[] then 2 else 0)+seenCost boundary rest
  | .byte _::rest => 1+seenCost boundary rest
  | .end_::rest => boundary.length+2+seenCost boundary rest

section

variable {boundary : Bytes}

theorem seenCost_append (first second : List Seen) :
    seenCost boundary (first++second)=seenCost boundary first+seenCost boundary second := by
  induction first with
  | nil => rw [nil_append,seenCost,Nat.zero_add]
  | cons call first ih =>
    cases call with
    | begin | byte => rw [cons_append,seenCost,seenCost,ih,Nat.add_assoc]
    | end_ =>
      rw [cons_append,seenCost,seenCost,ih]
      exact (Nat.add_assoc _ _ _).symm

theorem seenCost_bytes (data : Bytes) : seenCost boundary (data.map .byte)=data.length := by
  induction data with
  | nil => rfl
  | cons c data ih => rw [map_cons,seenCost,ih,length_cons,Nat.add_comm]

theorem seenCost_bare (data : Bytes) : seenCost boundary (bareSeen data)=2+data.length+(boundary.length+2) := by
  rw [bareSeen,cons_append,seenCost,if_pos rfl,seenCost_append,seenCost_bytes]
  change 2+(data.length+(boundary.length+2+0))=_
  omega

theorem seen_callbacks_cons (r : Reader) (call : Callback) (calls : List Callback) :
    seen (r.callbacks (call::calls)).2=seen (r.callback call).2++seen ((r.callback call).1.callbacks calls).2 := by
  rw [Reader.callbacks]
  exact flatMap_append

theorem callbacks_accounts (boundary : Bytes) (r : Reader) (calls : List Callback) {headed : Bool}
    (hheaded : headed=true ↔ r.currentHeaders≠[]) :
    (headedAfter headed calls=true ↔ (r.callbacks calls).1.currentHeaders≠[]) ∧
      seenCost boundary (seen (r.callbacks calls).2)=cost boundary headed calls := by
  induction calls generalizing r headed with
  | nil => exact ⟨hheaded,rfl⟩
  | cons call calls ih =>
    have hstep : (headedBy headed call=true ↔ (r.callback call).1.currentHeaders≠[]) ∧
        seenCost boundary (seen (r.callback call).2)=costOf boundary headed call := by
      cases call with
      | partBegin => exact ⟨⟨nofun,fun h => absurd rfl h⟩,rfl⟩
      | headerField | headerValue | partEnd | end_ => exact ⟨hheaded,rfl⟩
      | headerEnd =>
        refine ⟨⟨fun _ => ?_,fun _ => rfl⟩,rfl⟩
        exact append_ne_nil_of_right_ne_nil _ (cons_ne_nil _ _)
      | headersEnd =>
        refine ⟨⟨nofun,fun h => absurd rfl h⟩,?_⟩
        change (if r.currentHeaders=[] then 2 else 0)+0=if headed=true then 0 else 2
        by_cases hempty : r.currentHeaders=[]
        · have hnot : ¬headed=true := fun h => hheaded.mp h hempty
          rw [if_pos hempty,if_neg hnot]
        · rw [if_neg hempty,if_pos (hheaded.mpr hempty)]
      | partData bytes =>
        refine ⟨hheaded,?_⟩
        change seenCost boundary (bytes.map .byte++[])=bytes.length
        rw [append_nil,seenCost_bytes]
    obtain ⟨hrest,hcost⟩ := ih (r.callback call).1 hstep.1
    refine ⟨hrest,?_⟩
    rw [seen_callbacks_cons,seenCost_append,hstep.2,hcost,cost]

/-- Where a part is open, a begin is not the first that a sink sees. -/
theorem callbacks_open (r : Reader) (calls : List Callback) {opened : Bool}
    (hopen : openAfter true calls=some opened) (headers : Headers) (rest : List Seen) :
    seen (r.callbacks calls).2≠.begin headers::rest := by
  induction calls generalizing r with
  | nil => exact nofun
  | cons call calls ih =>
    rw [seen_callbacks_cons]
    cases call with
    | partBegin | headerField | headerValue | headerEnd | end_ => exact ih _ hopen
    | headersEnd => cases hopen
    | partData bytes =>
      cases bytes with
      | nil => exact ih _ hopen
      | cons => exact nofun
    | partEnd => exact nofun

theorem seen_callbacks_data (r : Reader) (calls : List Callback) (bytes : Bytes) :
    seen (r.callbacks (calls++[.partData bytes])).2=seen (r.callbacks calls).2++bytes.map Seen.byte := by
  induction calls generalizing r with
  | nil =>
    change bytes.map Seen.byte++[]=[]++bytes.map Seen.byte
    rw [append_nil,nil_append]
  | cons call calls ih => rw [cons_append,seen_callbacks_cons,seen_callbacks_cons,ih,append_assoc]

/-- It costs nothing at the end of a chunk if the end of a part is seen last. -/
theorem cost_handed {calls calls' : List Callback} (hhanded : Handed calls calls') (r : Reader) {headed : Bool}
    {first : List Seen} (hseen : seen (r.callbacks calls').2=first++[.end_]) :
    cost boundary headed calls'=cost boundary headed calls := by
  cases hhanded with
  | same => rfl
  | more hname hvalue hdata =>
    rw [cost_append,cost_append,cost_append,hname.free,hvalue.free]
    rcases hdata with rfl|⟨bytes,rfl⟩
    · rfl
    · rw [seen_callbacks_data] at hseen
      have hnil : bytes=[] := by
        cases hbytes : bytes.reverse with
        | nil => exact reverse_eq_nil_iff.mp hbytes
        | cons =>
          -- the last byte is not the end of a part
          have hrev := congrArg List.reverse hseen
          rw [reverse_append,←map_reverse,hbytes,reverse_append] at hrev
          cases hrev
      rw [hnil]
      rfl

/-- In front of a part: the first chunk ended with a line feed. -/
structure BeforePart (r : Reader) (boundary : Bytes) : Prop where
  boundary : r.parser.boundary=delimiter boundary
  state : r.parser.core.state≠.error
  /-- The search for a repeated boundary has begun if it is on. -/
  doubling : Doubling r.parser.core
  name : r.parser.core.state≠.headerField
  headed : Headed r.parser.core (decide (r.currentHeaders≠[]))

theorem delimiter_eq (boundary : Bytes) : ∃ rest,delimiter boundary=CR::LF::rest :=
  ⟨twoDashes++boundary,rfl⟩

/-- From the bytes of a part without headers a reader never makes this part. -/
theorem feed_ne_bare {r : Reader} (h : BeforePart r boundary) {data buffer : Bytes}
    (hlength : buffer.length=1+data.length+(delimiter boundary).length+2)
    (hok : (r.feed (CR::buffer)).1.parser.hasError=false) : seen (r.feed (CR::buffer)).2≠bareSeen data := by
  intro hseen
  have hboundary : ∃ rest,r.parser.boundary=CR::LF::rest := h.boundary ▸ delimiter_eq boundary
  have hfed : (r.feed (CR::buffer)).1.parser=(r.parser.feed (CR::buffer)).1 := (callbacks_tokens _ _).1
  rw [hfed] at hok
  have hcalls : (r.feed (CR::buffer)).2=({r with parser := (r.parser.feed (CR::buffer)).1}.callbacks
      (r.parser.feed (CR::buffer)).2.2).2 := rfl
  rw [hcalls] at hseen
  cases hopen : inPart r.parser.core with
  | true =>
    obtain ⟨s,calls,hfed⟩ := feed_fed hboundary h.state (cons_ne_nil _ _) h.doubling hok
    have hbrackets := hfed.went.brackets
    have hscan : inPart (r.parser.scan (CR::buffer)).core=true := hopen
    rw [hscan] at hbrackets
    exact callbacks_open _ _ (hfed.handed.accounts hbrackets).1 _ _ hseen
  | false =>
    obtain ⟨s,calls,hfed,hcost⟩ := feed_free hboundary h.state h.doubling hok hopen h.name h.headed
    have hsame : cost r.parser.boundary (decide (r.currentHeaders≠[])) (r.parser.feed (CR::buffer)).2.2 =
        cost r.parser.boundary (decide (r.currentHeaders≠[])) calls := cost_handed hfed.handed _ hseen
    have hpaid := (callbacks_accounts r.parser.boundary {r with parser := (r.parser.feed (CR::buffer)).1}
      (r.parser.feed (CR::buffer)).2.2 decide_eq_true_iff).2
    rw [hseen,seenCost_bare,hsame,h.boundary] at hpaid
    rw [h.boundary] at hcost
    omega

/-- A chunk that ends with a line feed, taken by a parser that was given its boundary. -/
theorem beforePart_feed (boundary : Bytes) {first : Bytes}
    (hok : (({Reader.init with parser := setBoundary boundary} : Reader).feed (first++[LF])).1.parser.hasError =
      false) :
    BeforePart (({Reader.init with parser := setBoundary boundary} : Reader).feed (first++[LF])).1 boundary := by
  have hparser : (({Reader.init with parser := setBoundary boundary} : Reader).feed (first++[LF])).1.parser =
      ((setBoundary boundary).feed (first++[LF])).1 := (callbacks_tokens _ _).1
  have hstart : (setBoundary boundary).core.state=.start := rfl
  have hdoubling : Doubling (setBoundary boundary).core := fun h => by
    rw [hstart] at h
    rcases h with h|h
    · cases h
    · cases h
  have hclosed : ∀ headed,Headed (setBoundary boundary).core headed := fun headed h => by
    rw [hstart] at h
    rcases h with h|h
    · cases h
    · cases h
  have hne : first++[LF]≠[] := append_ne_nil_of_right_ne_nil _ (cons_ne_nil _ _)
  have hfine : (setBoundary boundary).core.state≠.error := by
    rw [hstart]
    decide
  rw [hparser] at hok
  obtain ⟨s,calls,hfed⟩ := feed_fed (delimiter_eq boundary) hfine hne hdoubling hok
  have hheaded : decide ((({Reader.init with parser := setBoundary boundary} : Reader).feed
      (first++[LF])).1.currentHeaders≠[])=headedAfter false calls := by
    have hnone : false=true ↔ Reader.init.currentHeaders≠[] := ⟨nofun,fun h => absurd rfl h⟩
    have hcount := (callbacks_accounts boundary
      {Reader.init with parser := ((setBoundary boundary).feed (first++[LF])).1}
      ((setBoundary boundary).feed (first++[LF])).2.2 hnone).1
    rw [(hfed.handed.accounts hfed.went.brackets).2] at hcount
    exact Bool.eq_iff_iff.mpr (decide_eq_true_iff.trans hcount.symm)
  refine ⟨by rw [hparser]; exact hfed.boundary,?_,?_,?_,?_⟩
  · rw [hparser]
    exact of_decide_eq_false hok
  · rw [hparser]
    rcases hfed.core with hcore|⟨hcore,_⟩
    · rw [hcore]
      exact hdoubling
    · rw [hcore]
      exact hfed.went.doubling
  · rw [hparser]
    rcases hfed.core with hcore|⟨hcore,hplace⟩
    · rw [hcore,hstart]
      decide
    · rw [hcore]
      intro hname
      have hnames : NameEnds ((setBoundary boundary).scan (first++[LF])) := fun h => by
        cases h
      have hlast := (hfed.went.names hnames hname).2
      rw [hfed.went.buffer,hplace] at hlast
      refine hlast ?_
      rw [length_append]
      change (first++[LF]).getD (first.length+1-1) 0=LF
      rw [Nat.add_sub_cancel,getD_eq_getElem?_getD,List.getElem?_append_right (Nat.le_refl _),Nat.sub_self]
      rfl
  · rw [hparser,hheaded]
    rcases hfed.core with hcore|⟨hcore,_⟩
    · rw [hcore]
      exact hclosed _
    · rw [hcore]
      exact hfed.went.headed false (hclosed false)

end

section

variable {d : Decoder} {log : List PartCallback}

/-- A chunk that a decoder answers with `SUCCESS` was taken by its reader. -/
theorem receive_success (h : Ready d) {bytes body : Bytes} (hne : body≠[])
    (hstrip : stripCRLF d.leadingCRLFCharsLeftToRemove bytes=(0,some body))
    (hsuccess : (d.onReceiveData recorder log bytes).1=.success) :
    (d.reader.feed body).1.parser.hasError=false ∧ d.onReceiveData recorder log bytes=(.success,{d with
      reader := (d.reader.feed body).1
      index := dataCount (d.reader.feed body).2
      leadingCRLFCharsLeftToRemove := 0},log++(d.reader.feed body).2) := by
  cases hok : (d.reader.feed body).1.parser.hasError with
  | false => exact ⟨rfl,onReceiveData_fed h hne hstrip rfl hok⟩
  | true =>
    have hstatus : d.lastStatus≠.abort := by
      rw [h.status]
      decide
    have hreader : ({d with leadingCRLFCharsLeftToRemove := 0} : Decoder).feedReader recorder log body=({d with
        reader := (d.reader.feed body).1
        index := dataCount (d.reader.feed body).2
        leadingCRLFCharsLeftToRemove := 0
        lastSuccessIndex := dataCount (d.reader.feed body).2
        lastStatus := if (d.reader.feed body).1.parser.hasError then .abort else .success},_) :=
      feedReader_recorder h.status h.fresh rfl
    rw [hok,if_pos rfl] at hreader
    rw [onReceiveData_body hstatus h.code h.found (fun hboth => hne hboth.2) hstrip hreader] at hsuccess
    cases hsuccess

def told (boundary : Bytes) : Decoder := {Decoder.init with
  responseCode := 200
  reader := {Reader.init with parser := setBoundary boundary}
  boundaryFound := true}

theorem afterHeader_eq {line boundary : Bytes} (hline : CarriesBoundary line boundary) :
    Decoder.afterHeader recorder [] line=(told boundary,[]) := by
  simp only [Decoder.afterHeader,Decoder.onReceiveResponseCode,Decoder.onReceiveHeaderLine,recorder,
    boundaryOf_eq hline]
  rfl

theorem ready_told (boundary : Bytes) : Ready (told boundary) := ⟨rfl,rfl,rfl,rfl⟩

end

theorem length_take_afterDelimiter (delimiter : Bytes) (parts : List Part) :
    ((afterDelimiter delimiter parts).take 2).length=2 := by
  cases parts with
  | nil => rfl
  | cons => rfl

/-- For no boundary, among no other parts, and whatever its data is. -/
theorem bare_part_lost {line boundary : Bytes} (hline : CarriesBoundary line boundary) (before : List Part) {part : Part}
    (hheaders : part.headers=[]) (after : List Part) : ¬Arrives line boundary before part after := by
  rintro ⟨hstatuses,hgrows⟩
  have hready : Ready (told boundary) := ready_told boundary
  -- the first chunk leaves the parser in front of the part
  have hfirst : delimiter boundary++leadIn (delimiter boundary) before++crlf =
      CR::LF::((twoDashes++boundary++leadIn (delimiter boundary) before++[CR])++[LF]) := by
    rw [append_assoc _ [CR] [LF]]
    rfl
  obtain ⟨lead,hlead⟩ : ∃ lead,lead=twoDashes++boundary++leadIn (delimiter boundary) before++[CR] := ⟨_,rfl⟩
  -- the second begins with the blank line
  obtain ⟨rest,hrest⟩ : ∃ rest,rest=LF::part.data++delimiter boundary ++
      (afterDelimiter (delimiter boundary) after).take 2 := ⟨_,rfl⟩
  have hsecond : headerBlock part.headers++crlf++part.data++delimiter boundary ++
      (afterDelimiter (delimiter boundary) after).take 2=CR::rest := by
    rw [hheaders,hrest]
    rfl
  have hlength : rest.length=1+part.data.length+(delimiter boundary).length+2 := by
    rw [hrest,length_append,length_append,length_take_afterDelimiter,length_cons]
    omega
  rw [cut,hfirst,hsecond,←hlead,afterHeader_eq hline] at hstatuses hgrows
  dsimp only [List.take,Decoder.onReceiveChunks] at hstatuses hgrows
  have hstrip : stripCRLF (told boundary).leadingCRLFCharsLeftToRemove (CR::LF::(lead++[LF])) =
      (0,some (lead++[LF])) := by
    have hcr : CR=crlf.getD (crlf.length-(1+1)) 0 := rfl
    have hlf : LF=crlf.getD (crlf.length-(0+1)) 0 := rfl
    change stripCRLF 2 (CR::LF::(lead++[LF]))=_
    rw [stripCRLF,if_pos hcr,stripCRLF,if_pos hlf,stripCRLF]
  obtain ⟨hok,hreceive⟩ := receive_success hready (append_ne_nil_of_right_ne_nil _ (cons_ne_nil _ _)) hstrip
    (hstatuses _ mem_cons_self)
  rw [hreceive] at hstatuses hgrows
  have hbefore : BeforePart ((told boundary).reader.feed (lead++[LF])).1 boundary := beforePart_feed boundary hok
  obtain ⟨hok',hreceive'⟩ := receive_success ⟨rfl,rfl,rfl,rfl⟩ (cons_ne_nil CR rest) rfl
    (hstatuses _ (mem_cons_of_mem _ mem_cons_self))
  rw [hreceive'] at hgrows
  have hseen : ∀ log log' : List PartCallback,seen (log++log')=seen log++seen log' := fun _ _ => flatMap_append
  rw [hseen] at hgrows
  exact feed_ne_bare hbefore hlength hok' (append_cancel_left hgrows)

/-- A part without headers behind one with a header line. -/
theorem bare_part_lost_second : ¬Arrives (boundaryPrefix++[98]) [98] [⟨[[78,58,32,118]],[120]⟩] ⟨[],[121]⟩ [] :=
  bare_part_lost ⟨⟨[],[],rfl,.inl rfl,fun k hk => absurd hk (Nat.not_lt_zero k)⟩,by decide⟩
    [⟨[[78,58,32,118]],[120]⟩] rfl []

/-- Nothing of one byte, or what looks like a part in the data. -/
theorem bare_part_not_seen :
    sinkSees [98] [⟨[],[120]⟩]=(.abort,[]) ∧ sinkSees [98] [⟨[],[120]⟩]≠(.success,bareSeen [120]) ∧
      sinkSees [98] [⟨[],[45,45,98,13,10,78,58,118,13,10,13,10,120]⟩] =
        (.success,[.begin [([78],[118])],.byte 120,.end_]) := by
  decide +kernel

end AlexaClientSDK.MimeBareParts
