import AlexaClientSDK.MultipartScan
import AlexaClientSDK.MimeDecoder

/-!
# Well-formed multipart messages

A message is a boundary without a carriage return and a nonempty list of parts, each with a header line and with data
that does not contain the delimiter. The transducer reads the encoder's body of a message and writes its parts, and
comes to the end of the body three bytes before the last.
-/

namespace AlexaClientSDK.MimeMessage

open MimeEncoder (Bytes Part crlf twoDashes delimiter headerBlock afterDelimiter encode)
open List MultipartParser MultipartScan Transducers
open MimeDecoder (Seen)

def isLetter (c : UInt8) : Bool := (65≤c && c≤90) || (97≤c && c≤122)

structure HeaderLine where
  /-- First character of the name. -/
  initial : UInt8
  others : Bytes
  value : Bytes
  initial_letter : isLetter initial=true
  /-- A name goes on with letters and hyphens. -/
  others_letter : ∀ c∈others,isLetter c=true ∨ c=HYPHEN
  value_line : CR∉value

open HeaderLine

def HeaderLine.name (h : HeaderLine) : Bytes := h.initial::h.others

/-- The line as it is sent, without its end. -/
def HeaderLine.text (h : HeaderLine) : Bytes := h.name++[COLON,SPACE]++h.value

/-- The value as the parser sees it: the spaces in front of it are skipped. -/
def HeaderLine.seenValue (h : HeaderLine) : Bytes := h.value.dropWhile (· = SPACE)

structure MessagePart where
  first : HeaderLine
  others : List HeaderLine
  data : Bytes

def MessagePart.lines (p : MessagePart) : List HeaderLine := p.first::p.others

/-- The part as the encoder's source hands it out. -/
def MessagePart.part (p : MessagePart) : Part := ⟨p.lines.map text,p.data⟩

/-- The headers as a sink sees them. -/
def MessagePart.headers (p : MessagePart) : Headers :=
  p.lines.foldl (fun headers line => headers.insert (line.name,line.seenValue)) []

/-- A well-formed message. -/
structure Message where
  boundary : Bytes
  first : MessagePart
  others : List MessagePart
  /-- A boundary has no carriage return. -/
  boundary_line : CR∉boundary
  /-- The data of a part does not contain the delimiter. -/
  data_clean : ∀ p∈first::others,¬delimiter boundary <:+: p.data

def Message.parts (m : Message) : List MessagePart := m.first::m.others

def Message.body (m : Message) : Bytes := encode m.boundary (m.parts.map MessagePart.part)

/-- What a sink sees of a part. -/
def MessagePart.seen (p : MessagePart) : List Seen :=
  .begin p.headers::p.data.map .byte++[.end_]

/-- What a sink sees of a message. -/
def Message.seen (m : Message) : List Seen := m.parts.flatMap MessagePart.seen

/-- The states the transducer goes through, with both flags clear. -/
def core (state : State) (index : ℕ) : Core := ⟨state,index,false,false⟩

/-- A letter is a header name character and nothing else. -/
theorem letter_facts {c : UInt8} (h : isLetter c=true) :
    c≠CR ∧ c≠HYPHEN ∧ c≠COLON ∧ ¬(c ||| 0x20<97 ∨ 122<c ||| 0x20) := by
  have hall : ∀ n : Fin 256,isLetter (UInt8.ofNat n)=true →
      UInt8.ofNat n≠CR ∧ UInt8.ofNat n≠HYPHEN ∧ UInt8.ofNat n≠COLON ∧
        ¬(UInt8.ofNat n ||| 0x20<97 ∨ 122<UInt8.ofNat n ||| 0x20) := by decide +kernel
  have hc := hall ⟨c.toNat,c.toNat_lt⟩
  rw [UInt8.ofNat_toNat] at hc
  exact hc h

section

variable {boundary : Bytes} {k : ℕ}

theorem run_name (name : Bytes) (hname : ∀ c∈name,isLetter c=true ∨ c=HYPHEN) (hk : k≠0) :
    run (byteStep boundary) (core .headerField k) (name++[COLON]) =
      some (core .headerValueStart (k+name.length+1),name.map .field) := by
  induction name generalizing k with
  | nil =>
    have hstep : byteStep boundary (core .headerField k) COLON = some (core .headerValueStart (k+1),[]) := by
      simp [byteStep,core,fieldStep,hk,COLON,CR,HYPHEN]
    exact run_cons hstep rfl
  | cons c name ih =>
    have hstep : byteStep boundary (core .headerField k) c = some (core .headerField (k+1),[.field c]) := by
      rcases hname c mem_cons_self with hletter|hhyphen
      · obtain ⟨h1,h2,h3,h4⟩ := letter_facts hletter
        simp only [byteStep,core,fieldStep,hk,h1,h2,h3,h4,if_false]
      · rw [hhyphen]
        simp [byteStep,core,fieldStep,hk,CR,HYPHEN]
    have hrest := ih (fun d hd => hname d (mem_cons_of_mem _ hd)) (Nat.succ_ne_zero k)
    have hall := run_cons hstep hrest
    rw [cons_append,hall]
    simp only [length_cons,map_cons,singleton_append]
    congr 3
    omega

theorem run_value (value : Bytes) (hvalue : CR∉value) (k : ℕ) :
    run (byteStep boundary) (core .headerValue k) (value++crlf) =
      some (core .headerFieldStart k,value.map .value++[.headerEnd]) := by
  induction value with
  | nil =>
    have hcr : byteStep boundary (core .headerValue k) CR = some (core .headerValueAlmostDone k,[.headerEnd]) := by
      simp [byteStep,core,valueStep]
    have hlf : byteStep boundary (core .headerValueAlmostDone k) LF = some (core .headerFieldStart k,[]) := by
      simp [byteStep,core]
    have hall := run_cons hcr (run_cons hlf (run_nil _))
    exact hall
  | cons c value ih =>
    have hc : c≠CR := fun h => hvalue (h ▸ mem_cons_self)
    have hstep : byteStep boundary (core .headerValue k) c=some (core .headerValue k,[.value c]) := by
      simp [byteStep,core,valueStep,hc]
    have hrest := ih (fun h => hvalue (mem_cons_of_mem _ h))
    have hall := run_cons hstep hrest
    rw [cons_append,hall]
    rfl

/-- A header value from its first byte, the spaces in front of it skipped. -/
theorem run_valueStart (value : Bytes) (hvalue : CR∉value) (k : ℕ) :
    run (byteStep boundary) (core .headerValueStart k) (value++crlf) =
      some (core .headerFieldStart k, (value.dropWhile (· = SPACE)).map .value++[.headerEnd]) := by
  induction value with
  | nil =>
    have hcr : byteStep boundary (core .headerValueStart k) CR = some (core .headerValueAlmostDone k,[.headerEnd]) := by
      simp [byteStep,core,valueStep,CR,SPACE]
    have hlf : byteStep boundary (core .headerValueAlmostDone k) LF = some (core .headerFieldStart k,[]) := by
      simp [byteStep,core]
    have hall := run_cons hcr (run_cons hlf (run_nil _))
    exact hall
  | cons c value ih =>
    have hrest : CR∉value := fun h => hvalue (mem_cons_of_mem _ h)
    by_cases hspace : c=SPACE
    · have hstep : byteStep boundary (core .headerValueStart k) c = some (core .headerValueStart k,[]) := by
        simp [byteStep,core,hspace]
      have hall := run_cons hstep (ih hrest)
      rw [cons_append,hall]
      simp [List.dropWhile,hspace]
    · have hc : c≠CR := fun h => hvalue (h ▸ mem_cons_self)
      have hstep : byteStep boundary (core .headerValueStart k) c = some (core .headerValue k,[.value c]) := by
        simp [byteStep,core,valueStep,hspace,hc]
      have hall := run_cons hstep (run_value value hrest k)
      rw [cons_append,hall]
      simp [List.dropWhile,hspace]

/-- What the transducer writes for a header line. -/
def lineTokens (h : HeaderLine) : List Token :=
  h.name.map .field++h.seenValue.map .value++[.headerEnd]

theorem run_line_rest (h : HeaderLine) :
    run (byteStep boundary) (core .headerField 1) (h.others++[COLON,SPACE]++h.value++crlf) =
      some (core .headerFieldStart (1+h.others.length+1),
        h.others.map .field++(h.seenValue.map .value++[.headerEnd])) := by
  have hname : run (byteStep boundary) (core .headerField 1) (h.others++[COLON]) =
      some (core .headerValueStart (1+h.others.length+1),h.others.map .field) :=
    run_name h.others h.others_letter Nat.one_ne_zero
  have hspace : byteStep boundary (core .headerValueStart (1+h.others.length+1)) SPACE =
      some (core .headerValueStart (1+h.others.length+1),[]) := by
    simp [byteStep,core]
  have hvalue := run_cons hspace (run_valueStart h.value h.value_line _)
  have hall := run_append hname hvalue
  simpa [seenValue] using hall

/-- A header line, at the beginning of the headers or behind another line. -/
theorem run_line (h : HeaderLine) {state : State} (hs : state=.headerStart ∨ state=.headerFieldStart) :
    run (byteStep boundary) (core state k) (h.text++crlf) =
      some (core .headerFieldStart (h.name.length+1),lineTokens h) := by
  obtain ⟨h1,h2,h3,h4⟩ := letter_facts h.initial_letter
  have hstep : byteStep boundary (core state k) h.initial = some (core .headerField 1,[.field h.initial]) := by
    rcases hs with rfl|rfl
    · simp only [byteStep,core,fieldStep,h1,h2,h3,h4,or_self,if_false,Nat.zero_add]
    · simp only [byteStep,core,fieldStep,h1,h2,h3,h4,if_false,Nat.zero_add]
  have hall := run_cons hstep (run_line_rest h)
  have hlen : 1+h.others.length+1=h.name.length+1 := by
    simp only [name,length_cons]
    omega
  rw [hlen] at hall
  simpa [text,name,lineTokens] using hall

theorem run_lines (lines : List HeaderLine) (k : ℕ) : ∃ j,run (byteStep boundary) (core .headerFieldStart k)
      (headerBlock (lines.map text)) = some (core .headerFieldStart j,lines.flatMap lineTokens) := by
  induction lines generalizing k with
  | nil => exact ⟨k,rfl⟩
  | cons line lines ih =>
    obtain ⟨j,hrest⟩ := ih (line.name.length+1)
    refine ⟨j,?_⟩
    have hline : run (byteStep boundary) (core .headerFieldStart k) (line.text++crlf) =
        some (core .headerFieldStart (line.name.length+1),lineTokens line) :=
      run_line line (.inr rfl)
    have hall := run_append hline hrest
    simpa [headerBlock] using hall

theorem run_blank (k : ℕ) : run (byteStep boundary) (core .headerFieldStart k) crlf =
      some (core .partDataStart 0,[.headersEnd]) := by
  have hcr : byteStep boundary (core .headerFieldStart k) CR = some (core .headersAlmostDone 0,[]) := by
    simp [byteStep,core,fieldStep]
  have hlf : byteStep boundary (core .headersAlmostDone 0) LF = some (core .partDataStart 0,[.headersEnd]) := by
    simp [byteStep,core]
  have hall := run_cons hcr (run_cons hlf (run_nil _))
  exact hall

/-- A beginning of the delimiter may stay held back. -/
theorem run_data (data : Bytes) (hk : k<boundary.length) (hlong : 1<boundary.length)
    (hclean : ¬boundary <:+: boundary.take k++data) :
    ∃ j out,run (byteStep boundary) (core .partData k) data=some (core .partData j,out) ∧ j<boundary.length ∧
      out++(boundary.take j).map .byte=(boundary.take k++data).map .byte := by
  induction data generalizing k with
  | nil => exact ⟨k,[],rfl,hk,by simp⟩
  | cons c data ih =>
    by_cases hc : boundary.getD k 0=c
    · have hstep : byteStep boundary (core .partData k) c=some (core .partData (k+1),[]) := by
        simp only [byteStep,core,dataStep,hk,hc,if_true]
      have htake : boundary.take (k+1)++data=boundary.take k++c::data := by
        rw [take_succ_getD hk,hc,append_assoc]
        rfl
      have hmore : k+1<boundary.length := by
        -- a complete match would be an occurrence of the delimiter
        by_contra hfull
        have hall : boundary.take (k+1)=boundary := take_of_length_le (by omega)
        rw [hall] at htake
        exact hclean (htake ▸ (prefix_append boundary data).isInfix)
      obtain ⟨j,out,hrun,hj,hout⟩ := ih hmore (by rw [htake]; exact hclean)
      exact ⟨j,[]++out,run_cons hstep hrun,hj,by rw [nil_append,hout,htake]⟩
    · have hsuffix : ∀ tail : Bytes,tail <:+ c::data → ¬boundary <:+: tail := by
        intro tail htail hin
        exact hclean (hin.trans (htail.isInfix.trans (suffix_append _ _).isInfix))
      have hpos : 0<boundary.length := by omega
      by_cases hfirst : boundary.getD 0 0=c
      · have hstep : byteStep boundary (core .partData k) c = some (core .partData 1,(boundary.take k).map .byte) := by
          simp only [byteStep,core,dataStep,hk,hc,hfirst,if_true,if_false]
        have htake : boundary.take 1++data=c::data := by
          rw [take_succ_getD hpos,hfirst,take_zero]
          rfl
        obtain ⟨j,out,hrun,hj,hout⟩ := ih hlong (by
          rw [htake]
          exact hsuffix _ (suffix_refl _))
        refine ⟨j,_,run_cons hstep hrun,hj,?_⟩
        rw [append_assoc,hout,htake,map_append]
      · have hstep : byteStep boundary (core .partData k) c =
            some (core .partData 0,(boundary.take k++[c]).map .byte) := by
          simp only [byteStep,core,dataStep,hk,hc,hfirst,if_true,if_false]
        obtain ⟨j,out,hrun,hj,hout⟩ := ih hpos (by
          rw [take_zero,nil_append]
          exact hsuffix _ (suffix_cons _ _))
        refine ⟨j,_,run_cons hstep hrun,hj,?_⟩
        rw [append_assoc,hout]
        simp

theorem run_match (rest : Bytes) (hrest : boundary.drop k=rest) (hk : k≤boundary.length) :
    run (byteStep boundary) (core .partData k) rest=some (core .partData boundary.length,[]) := by
  induction rest generalizing k with
  | nil =>
    have hlen : k=boundary.length := by
      have hle := drop_eq_nil_iff.mp hrest
      omega
    rw [hlen]
    rfl
  | cons c rest ih =>
    have hlt : k<boundary.length := by
      by_contra hge
      rw [drop_eq_nil_iff.mpr (by omega)] at hrest
      exact absurd hrest nofun
    have hcons := drop_eq_cons hlt
    rw [hrest] at hcons
    simp only [List.cons.injEq] at hcons
    have hstep : byteStep boundary (core .partData k) c=some (core .partData (k+1),[]) := by
      simp only [byteStep,core,dataStep,hlt,hcons.1,if_true]
    exact run_cons hstep (ih hcons.2.symm hlt)

/-- Data, since only the first byte of the delimiter is a carriage return. -/
theorem run_delimiter {tail : Bytes} (hboundary : boundary=CR::tail) (htail : CR∉tail) (hk : k<boundary.length) :
    run (byteStep boundary) (core .partData k) boundary =
      some (core .partData boundary.length,(boundary.take k).map .byte) := by
  have hpos : 0<boundary.length := by omega
  have hfirst : boundary.getD 0 0=CR := by
    rw [hboundary]
    rfl
  have hstep : byteStep boundary (core .partData k) CR = some (core .partData 1,(boundary.take k).map .byte) := by
    cases k with
    | zero => simp only [byteStep,core,dataStep,hpos,hfirst,if_true,take_zero,map_nil]
    | succ k =>
      have hne : boundary.getD (k+1) 0≠CR := by
        have hlt : k<tail.length := by
          rw [hboundary,length_cons] at hk
          omega
        rw [hboundary,getD_cons_succ,getD_eq_getElem?_getD,List.getElem?_eq_getElem hlt]
        intro heq
        exact htail (heq ▸ getElem_mem hlt)
      simp only [byteStep,core,dataStep,hk,hne,hfirst,if_true,if_false]
  have hdrop : boundary.drop 1=tail := by
    rw [hboundary]
    rfl
  have hall := run_cons hstep (run_match tail hdrop hpos)
  rw [append_nil,←hboundary] at hall
  exact hall

theorem run_partData {tail data : Bytes} (hboundary : boundary=CR::tail) (htail : CR∉tail)
    (hlong : 1<boundary.length) (hclean : ¬boundary <:+: data) :
    run (byteStep boundary) (core .partDataStart 0) (data++boundary) =
      some (core .partData boundary.length,data.map .byte) := by
  have hpos : 0<boundary.length := by omega
  obtain ⟨j,out,hdata,hj,hout⟩ := run_data (k := 0) data hpos hlong (by simpa using hclean)
  have hall := run_append hdata (run_delimiter hboundary htail hj)
  rw [hout,take_zero,nil_append] at hall
  -- the first byte is read as in the data
  have hfirst : ∀ input : Bytes,input≠[] → run (byteStep boundary) (core .partDataStart 0) input =
        run (byteStep boundary) (core .partData 0) input := by
    intro input hne
    cases input with
    | nil => exact absurd rfl hne
    | cons c =>
      have hsame : byteStep boundary (core .partDataStart 0) c = byteStep boundary (core .partData 0) c := by
        simp only [byteStep,core,if_true]
      simp only [run,hsame]
  rw [hfirst _ (by rw [hboundary]; simp),hall]

theorem run_nextPart : run (byteStep boundary) (core .partData boundary.length) crlf =
      some (core .headerStart 0,[.partEnd,.partBegin]) := by
  have hcr : byteStep boundary (core .partData boundary.length) CR =
      some (⟨.partData,boundary.length+1,true,false⟩,[]) := by
    simp [byteStep,core,dataStep]
  have hlf : byteStep boundary ⟨.partData,boundary.length+1,true,false⟩ LF =
      some (core .headerStart 0,[.partEnd,.partBegin]) := by
    have hnot : ¬boundary.length+1<boundary.length := by omega
    simp [byteStep,core,dataStep,hnot]
  have hall := run_cons hcr (run_cons hlf (run_nil _))
  exact hall

theorem run_lastHyphen : run (byteStep boundary) (core .partData boundary.length) [HYPHEN] =
      some (⟨.partData,boundary.length+1,false,true⟩,[]) := by
  have hstep : byteStep boundary (core .partData boundary.length) HYPHEN =
      some (⟨.partData,boundary.length+1,false,true⟩,[]) := by
    simp [byteStep,core,dataStep,HYPHEN,CR]
  exact run_cons hstep (run_nil _)

theorem byteStep_last : byteStep boundary ⟨.partData,boundary.length+1,false,true⟩ HYPHEN =
      some (⟨.end_,boundary.length+1,false,true⟩,[.partEnd,.end_]) := by
  have hnot : ¬boundary.length+1<boundary.length := by omega
  simp [byteStep,dataStep,hnot]

theorem run_startRest (rest : Bytes) (hrest : boundary.drop (k+2)=rest) (hk : k+2≤boundary.length) :
    run (byteStep boundary) (core .startBoundary k) rest = some (core .startBoundary (boundary.length-2),[]) := by
  induction rest generalizing k with
  | nil =>
    have hlen : k=boundary.length-2 := by
      have hle := drop_eq_nil_iff.mp hrest
      omega
    rw [hlen]
    rfl
  | cons c rest ih =>
    have hlt : k+2<boundary.length := by
      by_contra hge
      rw [drop_eq_nil_iff.mpr (by omega)] at hrest
      exact absurd hrest nofun
    have hcons := drop_eq_cons hlt
    rw [hrest] at hcons
    simp only [List.cons.injEq] at hcons
    have hne : k≠boundary.length-2 := by omega
    have hne' : k≠boundary.length-2+1 := by omega
    have hstep : byteStep boundary (core .startBoundary k) c = some (core .startBoundary (k+1),[]) := by
      simp only [byteStep,core,boundaryStep,hne,hne',hcons.1,if_true,if_false]
    exact run_cons hstep (ih hcons.2.symm (by omega))

theorem run_start {rest : Bytes} (hrest : boundary.drop 2=rest) (hne : rest≠[]) :
    run (byteStep boundary) (core .start 0) (rest++crlf) = some (core .headerStart 0,[.partBegin]) := by
  have hlong : 2≤boundary.length := by
    by_contra hshort
    rw [drop_eq_nil_iff.mpr (by omega)] at hrest
    exact hne hrest.symm
  have hbody : run (byteStep boundary) (core .startBoundary 0) rest =
      some (core .startBoundary (boundary.length-2),[]) := run_startRest rest hrest hlong
  have hcr : byteStep boundary (core .startBoundary (boundary.length-2)) CR =
      some (core .startBoundary (boundary.length-2+1),[]) := by
    simp [byteStep,core,boundaryStep]
  have hlf : byteStep boundary (core .startBoundary (boundary.length-2+1)) LF =
      some (core .headerStart 0,[.partBegin]) := by
    simp [byteStep,core,boundaryStep]
  have hend : run (byteStep boundary) (core .startBoundary (boundary.length-2)) crlf =
      some (core .headerStart 0,[.partBegin]) := run_cons hcr (run_cons hlf (run_nil _))
  have hall := run_append hbody hend
  cases rest with
  | nil => exact absurd rfl hne
  | cons c =>
    have hsame : byteStep boundary (core .start 0) c=byteStep boundary (core .startBoundary 0) c := by
      simp only [byteStep,core]
    rw [cons_append] at hall ⊢
    simp only [run,hsame] at hall ⊢
    exact hall

end

/-- What the transducer writes for a part, from its headers on. -/
def partTokens (p : MessagePart) : List Token :=
  p.lines.flatMap lineTokens++[.headersEnd]++p.data.map .byte

/-- What it writes behind a delimiter, up to the last hyphen. -/
def restTokens : List MessagePart → List Token
  | [] => []
  | p::parts => [.partEnd,.partBegin]++partTokens p++restTokens parts

/-- The bytes behind a delimiter, up to the last hyphen. -/
def openEnd (delimiter : Bytes) : List MessagePart → Bytes
  | [] => [HYPHEN]
  | p::parts =>
    crlf++headerBlock (p.lines.map text)++crlf++p.data++delimiter ++ openEnd delimiter parts

/-- The last hyphen and the line end behind it. -/
def closing : Bytes := [HYPHEN,CR,LF]

/-- Behind the leading line end, up to the last hyphen. -/
def Message.stem (m : Message) : Bytes :=
  twoDashes++m.boundary++openEnd (delimiter m.boundary) m.parts

/-- What the transducer writes up to the last hyphen. -/
def Message.stemTokens (m : Message) : List Token :=
  [.partBegin]++partTokens m.first++restTokens m.others

theorem afterDelimiter_eq (boundary : Bytes) (parts : List MessagePart) :
    afterDelimiter boundary (parts.map MessagePart.part)=openEnd boundary parts++closing := by
  induction parts with
  | nil => rfl
  | cons p parts ih =>
    simp only [map_cons,afterDelimiter,openEnd,ih,MessagePart.part,append_assoc]

theorem body_eq (m : Message) : m.body=crlf++m.stem++closing := by
  unfold Message.body encode
  rw [if_neg (by simp [Message.parts]),afterDelimiter_eq]
  simp only [Message.stem,delimiter,append_assoc]

section

variable {boundary : Bytes}

theorem delimiter_eq (boundary : Bytes) : delimiter boundary=CR::(LF::twoDashes++boundary) := rfl

theorem run_part (p : MessagePart) (hline : CR∉boundary) (hclean : ¬delimiter boundary <:+: p.data) :
    run (byteStep (delimiter boundary)) (core .headerStart 0)
      (headerBlock (p.lines.map text)++crlf++p.data++delimiter boundary) =
      some (core .partData (delimiter boundary).length,partTokens p) := by
  have htail : CR∉LF::twoDashes++boundary := by
    simp [CR,LF,twoDashes] at hline ⊢
    exact hline
  have hlong : 1<(delimiter boundary).length := by
    rw [delimiter_eq]
    simp
  have hfirst : run (byteStep (delimiter boundary)) (core .headerStart 0) (p.first.text++crlf) =
      some (core .headerFieldStart (p.first.name.length+1),lineTokens p.first) :=
    run_line p.first (.inl rfl)
  have hothers : ∃ j,run (byteStep (delimiter boundary)) (core .headerFieldStart (p.first.name.length+1))
      (headerBlock (p.others.map text)) =
      some (core .headerFieldStart j,p.others.flatMap lineTokens) := run_lines p.others _
  obtain ⟨j,hothers⟩ := hothers
  have hdata := run_partData (delimiter_eq boundary) htail hlong hclean
  have hall := run_append (run_append hfirst hothers) (run_append (run_blank j) hdata)
  simpa [partTokens,MessagePart.lines,headerBlock] using hall

/-- Everything behind a delimiter, up to the last hyphen. -/
theorem run_openEnd (parts : List MessagePart) (hline : CR∉boundary)
    (hclean : ∀ p∈parts,¬delimiter boundary <:+: p.data) :
    run (byteStep (delimiter boundary)) (core .partData (delimiter boundary).length)
      (openEnd (delimiter boundary) parts) =
      some (⟨.partData,(delimiter boundary).length+1,false,true⟩,restTokens parts) := by
  induction parts with
  | nil => exact run_lastHyphen
  | cons p parts ih =>
    have hrest := ih fun q hq => hclean q (mem_cons_of_mem _ hq)
    have hall := run_append (run_nextPart) (run_append (run_part p hline (hclean p mem_cons_self)) hrest)
    simpa [openEnd,restTokens] using hall

theorem run_stem (m : Message) : run (byteStep (delimiter m.boundary)) (core .start 0) m.stem =
      some (⟨.partData,(delimiter m.boundary).length+1,false,true⟩,m.stemTokens) := by
  have hfirst : run (byteStep (delimiter m.boundary)) (core .start 0)
      (twoDashes++m.boundary++crlf)=some (core .headerStart 0,[.partBegin]) :=
    run_start rfl (by simp [twoDashes])
  have hpart := run_part m.first m.boundary_line (m.data_clean _ mem_cons_self)
  have hrest := run_openEnd m.others m.boundary_line fun q hq => m.data_clean q (mem_cons_of_mem _ hq)
  have hall := run_append hfirst (run_append hpart hrest)
  simpa [Message.stem,Message.parts,openEnd,Message.stemTokens] using hall

theorem run_end_of_stem (m : Message) : run (byteStep (delimiter m.boundary)) (core .start 0) (m.stem++[HYPHEN]) =
      some (⟨.end_,(delimiter m.boundary).length+1,false,true⟩, m.stemTokens++[.partEnd,.end_]) := by
  have hlast : run (byteStep (delimiter m.boundary)) ⟨.partData,(delimiter m.boundary).length+1,false,true⟩ [HYPHEN] =
      some (⟨.end_,(delimiter m.boundary).length+1,false,true⟩,[.partEnd,.end_]) :=
    run_cons byteStep_last (run_nil _)
  exact run_append (run_stem m) hlast

end

end AlexaClientSDK.MimeMessage
