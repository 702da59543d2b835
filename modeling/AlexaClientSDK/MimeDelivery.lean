import AlexaClientSDK.MultipartFeed
import AlexaClientSDK.MimeMessage

/-!
# Delivering a message

A decoder with a sink that accepts everything, fed in chunks. As long as the end of the body was not passed inside a
chunk, it stands where the transducer stands after the bytes so far, and the sink has seen what that wrote.
-/

namespace AlexaClientSDK.MimeDelivery

open MimeEncoder (Bytes crlf twoDashes delimiter)
open List MultipartParser MultipartScan MultipartFeed Transducers MimeDecoder MimeMessage Decoder

structure HeaderState where
  headers : Headers
  /-- Name of the header being read. -/
  name : Bytes
  /-- Value of the header being read. -/
  value : Bytes

/-- Nothing collected. -/
def HeaderState.empty : HeaderState := ⟨[],[],[]⟩

/-- The headers a reader has collected. -/
def headerState (r : Reader) : HeaderState :=
  ⟨r.currentHeaders,r.currentHeaderName,r.currentHeaderValue⟩

/-- What a reader makes of a token, and what a sink sees of it. -/
def readToken (h : HeaderState) : Token → HeaderState × List Seen
  | .partBegin => (.empty,[])
  | .field c => ({h with name := h.name++[c]},[])
  | .value c => ({h with value := h.value++[c]},[])
  | .headerEnd => (⟨h.headers.insert (h.name,h.value),[],[]⟩,[])
  | .headersEnd => (.empty,[.begin h.headers])
  | .byte c => (h,[.byte c])
  | .partEnd => (h,[.end_])
  | .end_ => (h,[])

/-- What a reader makes of tokens, one after the other. -/
def readTokens : HeaderState → List Token → HeaderState × List Seen
  | h,[] => (h,[])
  | h,token::rest =>
    let (h,out) := readToken h token
    let (h,out') := readTokens h rest
    (h,out++out')

section

variable (h : HeaderState)

theorem readTokens_append (first second : List Token) : readTokens h (first++second) =
      ((readTokens (readTokens h first).1 second).1,
        (readTokens h first).2++(readTokens (readTokens h first).1 second).2) := by
  induction first generalizing h with
  | nil => rfl
  | cons token first ih => simp only [cons_append,readTokens,ih,append_assoc]

theorem readTokens_field (bytes : Bytes) : readTokens h (bytes.map .field)=({h with name := h.name++bytes},[]) := by
  induction bytes generalizing h with
  | nil => simp [readTokens]
  | cons c bytes ih => simp [readTokens,readToken,ih]

theorem readTokens_value (bytes : Bytes) : readTokens h (bytes.map .value)=({h with value := h.value++bytes},[]) := by
  induction bytes generalizing h with
  | nil => simp [readTokens]
  | cons c bytes ih => simp [readTokens,readToken,ih]

theorem readTokens_byte (bytes : Bytes) : readTokens h (bytes.map .byte)=(h,bytes.map .byte) := by
  induction bytes with
  | nil => rfl
  | cons c bytes ih => simp [readTokens,readToken,ih]

end

theorem callback_tokens (r : Reader) (call : Callback) : (r.callback call).1.parser=r.parser ∧
      (headerState (r.callback call).1,seen (r.callback call).2) = readTokens (headerState r) (tokensOf call) := by
  refine ⟨by cases call <;> rfl,?_⟩
  cases call with
  | partBegin => rfl
  | headerField =>
    rw [tokensOf,readTokens_field]
    rfl
  | headerValue =>
    rw [tokensOf,readTokens_value]
    rfl
  | headerEnd => rfl
  | headersEnd => rfl
  | partData =>
    rw [tokensOf,readTokens_byte]
    simp [Reader.callback,seen,seenCall,headerState]
  | partEnd => rfl
  | end_ => rfl

theorem callbacks_tokens (calls : List Callback) (r : Reader) : (r.callbacks calls).1.parser=r.parser ∧
      (headerState (r.callbacks calls).1,seen (r.callbacks calls).2) = readTokens (headerState r) (tokens calls) := by
  induction calls generalizing r with
  | nil => exact ⟨rfl,rfl⟩
  | cons call calls ih =>
    obtain ⟨hparser,hread⟩ := callback_tokens r call
    obtain ⟨hparser',hread'⟩ := ih (r.callback call).1
    have htokens : tokens (call::calls)=tokensOf call++tokens calls := rfl
    have hseen : seen ((r.callback call).2++((r.callback call).1.callbacks calls).2) =
        seen (r.callback call).2++seen ((r.callback call).1.callbacks calls).2 := by
      simp [seen]
    refine ⟨hparser'.trans hparser,?_⟩
    rw [htokens,readTokens_append,←hread]
    rw [←hread']
    dsimp only [Reader.callbacks]
    rw [hseen]

theorem readTokens_line (headers : Headers) (line : HeaderLine) : readTokens ⟨headers,[],[]⟩ (lineTokens line) =
      (⟨headers.insert (line.name,line.seenValue),[],[]⟩,[]) := by
  rw [lineTokens,readTokens_append,readTokens_append,readTokens_field]
  rw [readTokens_value]
  rfl

theorem readTokens_lines (lines : List HeaderLine) (headers : Headers) :
    readTokens ⟨headers,[],[]⟩ (lines.flatMap lineTokens) =
      (⟨lines.foldl (fun headers line => headers.insert (line.name,line.seenValue)) headers, [],[]⟩,[]) := by
  induction lines generalizing headers with
  | nil => rfl
  | cons line lines ih =>
    rw [flatMap_cons,readTokens_append,readTokens_line]
    rw [ih]
    rfl

theorem readTokens_part (p : MessagePart) :
    readTokens .empty (partTokens p)=(.empty,.begin p.headers::p.data.map .byte) := by
  have hlines := readTokens_lines p.lines []
  have hempty : (HeaderState.empty : HeaderState)=⟨[],[],[]⟩ := rfl
  rw [partTokens,readTokens_append,readTokens_append,hempty,hlines]
  dsimp only [readTokens,readToken]
  rw [readTokens_byte]
  rfl

theorem readTokens_rest (parts : List MessagePart) : readTokens .empty (restTokens parts++[.partEnd,.end_]) =
      (.empty,.end_::parts.flatMap MessagePart.seen) := by
  induction parts with
  | nil => rfl
  | cons p parts ih =>
    have hbegin : readTokens .empty [.partEnd,.partBegin]=(.empty,[.end_]) := rfl
    rw [restTokens,append_assoc,append_assoc,readTokens_append,hbegin]
    rw [readTokens_append,readTokens_part]
    rw [ih]
    simp [MessagePart.seen]

theorem readTokens_message (m : Message) : readTokens .empty (m.stemTokens++[.partEnd,.end_])=(.empty,m.seen) := by
  have hbegin : readTokens .empty [.partBegin]=(.empty,[]) := rfl
  rw [Message.stemTokens,append_assoc,append_assoc,readTokens_append,hbegin]
  rw [readTokens_append,readTokens_part]
  rw [readTokens_rest]
  simp [Message.seen,Message.parts,MessagePart.seen]

/-- How many of the callbacks carry data. -/
def dataCount : List PartCallback → ℕ
  | [] => 0
  | .data _::calls => dataCount calls+1
  | _::calls => dataCount calls

variable {d : Decoder}

/-- A decoder that has not paused passes every callback on. -/
theorem partCallbacks_recorder (calls : List PartCallback) (log : List PartCallback)
    (hs : d.lastStatus=.success) (hidx : d.lastSuccessIndex=d.index) :
    d.partCallbacks recorder log calls =
      ({d with
        index := d.index+dataCount calls,lastSuccessIndex := d.index+dataCount calls},
        log++calls) := by
  induction calls generalizing d log with
  | nil =>
    have hsame : {d with index := d.index+0,lastSuccessIndex := d.index+0}=d := by
      rcases d with ⟨code,reader,status,index,left,found,last⟩
      dsimp only at hidx ⊢
      rw [hidx,Nat.add_zero]
    rw [partCallbacks,dataCount,hsame,append_nil]
  | cons call calls ih =>
    cases call with
    | begin headers =>
      have hcall : d.partCallback recorder log (.begin headers)=(d,log++[.begin headers]) := by
        simp only [partCallback,partBeginCallback,hs,recorder]
      rw [partCallbacks,hcall]
      dsimp only
      rw [ih _ hs hidx,append_assoc]
      rfl
    | data bytes =>
      have hcall : d.partCallback recorder log (.data bytes) =
          ({d with index := d.index+1,lastSuccessIndex := d.index+1},log++[.data bytes]) := by
        simp [partCallback,partDataCallback,offerData,hs,recorder]
      rw [partCallbacks,hcall]
      dsimp only
      rw [ih _ (by exact hs) rfl,append_assoc]
      simp only [dataCount,singleton_append]
      congr 2 <;> omega
    | end_ =>
      have hcall : d.partCallback recorder log .end_=(d,log++[.end_]) := by
        simp only [partCallback,partEndCallback,hs,recorder,if_true]
      rw [partCallbacks,hcall]
      dsimp only
      rw [ih _ hs hidx,append_assoc]
      rfl

/-- A decoder that expects the next chunk of a multipart body. -/
structure Ready (d : Decoder) : Prop where
  code : d.responseCode=200
  found : d.boundaryFound=true
  /-- The decoder is neither paused nor has it given up. -/
  status : d.lastStatus=.success
  fresh : d.lastSuccessIndex=0

variable {bytes : Bytes} {left : ℕ}

theorem onReceiveData_leading {σ : Type} {K : ResponseSink σ} {sink : σ}
    (hs : d.lastStatus≠.abort) (hcode : d.responseCode=200)
    (hfound : d.boundaryFound=true) (hpos : 0<d.leadingCRLFCharsLeftToRemove)
    (hstrip : stripCRLF d.leadingCRLFCharsLeftToRemove bytes=(left,some [])) : d.onReceiveData K sink bytes =
      (.success,{d with leadingCRLFCharsLeftToRemove := left},sink) := by
  unfold onReceiveData
  rw [if_neg hs,if_neg (not_not.mpr hcode),if_neg (by rw [hfound]; nofun),hstrip]
  dsimp only
  rw [if_pos ⟨hpos,rfl⟩]

variable {body : Bytes}

theorem onReceiveData_body {σ : Type} {K : ResponseSink σ} {e : Decoder} {sink sink' : σ}
    (hs : d.lastStatus≠.abort) (hcode : d.responseCode=200)
    (hfound : d.boundaryFound=true) (hne : ¬(0<d.leadingCRLFCharsLeftToRemove ∧ body=[]))
    (hstrip : stripCRLF d.leadingCRLFCharsLeftToRemove bytes=(left,some body))
    (hfeed : ({d with leadingCRLFCharsLeftToRemove := left} : Decoder).feedReader K sink body = (e,sink')) :
    d.onReceiveData K sink bytes = ((e.settle d.reader d.leadingCRLFCharsLeftToRemove).lastStatus,
        e.settle d.reader d.leadingCRLFCharsLeftToRemove,sink') := by
  unfold onReceiveData
  rw [if_neg hs,if_neg (not_not.mpr hcode),if_neg (by rw [hfound]; nofun),hstrip]
  dsimp only
  rw [if_neg hne,hfeed]

variable {log : List PartCallback} {calls : List PartCallback}

theorem feedReader_recorder {reader : Reader} (hs : d.lastStatus=.success)
    (hfresh : d.lastSuccessIndex=0) (hfeed : d.reader.feed body=(reader,calls)) :
    d.feedReader recorder log body =
      ({d with
        reader := reader
        index := dataCount calls
        lastSuccessIndex := dataCount calls
        lastStatus := if reader.parser.hasError then .abort else .success},log++calls) := by
  have hcalls : ({d with index := 0,reader := reader} : Decoder).partCallbacks recorder log calls =
      ({d with
        reader := reader
        index := 0+dataCount calls
        lastSuccessIndex := 0+dataCount calls},log++calls) :=
    partCallbacks_recorder calls log hs hfresh
  unfold feedReader
  rw [hfeed]
  dsimp only
  rw [hcalls,Nat.zero_add]
  cases reader.parser.hasError with
  | true => rfl
  | false =>
    rw [if_neg Bool.false_ne_true,if_neg Bool.false_ne_true,hs]

theorem onReceiveData_fed {reader : Reader} (h : Ready d) (hne : body≠[])
    (hstrip : stripCRLF d.leadingCRLFCharsLeftToRemove bytes=(left,some body))
    (hfeed : d.reader.feed body=(reader,calls)) (hok : reader.parser.hasError=false) :
    d.onReceiveData recorder log bytes =
      (.success,{d with
        reader := reader
        index := dataCount calls
        leadingCRLFCharsLeftToRemove := left},log++calls) := by
  have hs : d.lastStatus≠.abort := by rw [h.status]; nofun
  have hreader : ({d with leadingCRLFCharsLeftToRemove := left} : Decoder).feedReader recorder log
      body=({d with
        reader := reader
        index := dataCount calls
        leadingCRLFCharsLeftToRemove := left
        lastSuccessIndex := dataCount calls
        lastStatus := if reader.parser.hasError then .abort else .success},log++calls) :=
    feedReader_recorder h.status h.fresh hfeed
  rw [hok,if_neg Bool.false_ne_true] at hreader
  rw [onReceiveData_body hs h.code h.found (fun h => hne h.2) hstrip hreader]
  dsimp only [settle]
  rw [←h.status,←h.fresh]

variable {done chunk : Bytes}

/-- The leading line end is stripped across chunks. -/
theorem stripCRLF_eq {rest : Bytes} (hpre : done++chunk <+: crlf++rest) : stripCRLF (2-done.length) chunk =
      (2-(done++chunk).length,some (chunk.drop (2-done.length))) := by
  obtain ⟨tail,htail⟩ := hpre
  rcases done with _|⟨a,_|⟨b,done⟩⟩
  · rcases chunk with _|⟨c,_|⟨c',chunk⟩⟩
    · rfl
    · simp only [crlf,nil_append,cons_append,List.cons.injEq] at htail
      rw [htail.1]
      rfl
    · simp only [crlf,nil_append,cons_append,List.cons.injEq] at htail
      rw [htail.1,htail.2.1]
      simp [stripCRLF,crlf]
  · rcases chunk with _|⟨c,chunk⟩
    · rfl
    · simp only [crlf,nil_append,cons_append,List.cons.injEq] at htail
      rw [htail.2.1]
      simp [stripCRLF,crlf]
  · have hzero : 2-(a::b::done).length=0 := by simp
    have hzero' : 2-(a::b::done++chunk).length=0 := by simp
    rw [hzero,hzero']
    rfl

variable {core' : Core} {out : List Token} {boundary input : Bytes}

/-- The transducer never enters the error state on the way to the end. -/
theorem state_ne_error {core : Core}
    (hrun : run (byteStep boundary) core input=some (core',out)) (hs : core'.state≠.error) : core.state≠.error := by
  intro herror
  cases input with
  | nil =>
    simp only [run,Option.some.injEq,Prod.mk.injEq] at hrun
    rw [←hrun.1] at hs
    exact hs herror
  | cons =>
    obtain ⟨_,_,_,hstep,_⟩ := run_cons_inv hrun
    simp only [byteStep,herror] at hstep
    cases hstep

/-- The transducer at the beginning of a body. -/
def startCore : Core := core .start 0

/-- The transducer reads the whole body behind its leading line end. -/
theorem run_whole (m : Message) : run (byteStep (delimiter m.boundary)) startCore (m.stem++closing) =
      some (⟨.end_,(delimiter m.boundary).length+1,false,true⟩, m.stemTokens++[.partEnd,.end_]) := by
  have hrest : run (byteStep (delimiter m.boundary)) ⟨.end_,(delimiter m.boundary).length+1,false,true⟩ [CR,LF] =
      some (⟨.end_,(delimiter m.boundary).length+1,false,true⟩,[]) := run_end rfl _
  have hall := run_append (run_end_of_stem m) hrest
  rw [append_nil,append_assoc] at hall
  exact hall

theorem reader_feed {r : Reader} (h : Synced r.parser) (hne : chunk≠[])
    (hrun : run (byteStep r.parser.boundary) r.parser.core chunk=some (core',out)) :
    ∃ r' calls,r.feed chunk=(r',calls) ∧ (headerState r',seen calls)=readTokens (headerState r) out ∧
      r'.parser.boundary=r.parser.boundary ∧
      (¬Passes r.parser.boundary r.parser.core chunk → Synced r'.parser ∧ r'.parser.core=core') ∧
      (Passes r.parser.boundary r.parser.core chunk → r'.parser.core=r.parser.core ∧ r'.parser.marks=.unmarked ∧
        r'.parser.lookbehind.length=r.parser.boundary.length+4) := by
  obtain ⟨p',n,calls,hfeed,hfed⟩ := feed_fed h hne hrun
  obtain ⟨hparser,hread⟩ := callbacks_tokens calls {r with parser := p'}
  have heq : r.feed chunk=({r with parser := p'} : Reader).callbacks calls := by
    unfold Reader.feed
    rw [hfeed]
  refine ⟨(({r with parser := p'} : Reader).callbacks calls).1,
    (({r with parser := p'} : Reader).callbacks calls).2,heq,?_,?_,?_,?_⟩
  · rw [hread,hfed.calls]
    rfl
  · rw [hparser]
    exact hfed.boundary
  · intro hnot
    rw [hparser]
    exact hfed.stored hnot
  · intro hpasses
    rw [hparser]
    exact hfed.stale hpasses

/-- What a sink has seen after `done` bytes, and what the reader has collected. -/
def Wrote (m : Message) (done : Bytes) (core' : Core) (h : HeaderState) (log : List PartCallback) : Prop :=
  ∃ out,run (byteStep (delimiter m.boundary)) startCore (done.drop 2)=some (core',out) ∧
    readTokens .empty out=(h,seen log)

/-- The decoder after `done` bytes of the body of a message. -/
structure Receiving (m : Message) (done : Bytes) (d : Decoder) (log : List PartCallback) :
    Prop where
  ready : Ready d
  /-- The leading line end is stripped as far as it was delivered. -/
  leading : d.leadingCRLFCharsLeftToRemove=2-done.length
  boundary : d.reader.parser.boundary=delimiter m.boundary
  synced : Synced d.reader.parser
  /-- The parser, the reader and the sink are where the transducer is. -/
  wrote : Wrote m done d.reader.parser.core (headerState d.reader) log

/-- What should have been stored is that of the chunk's beginning. -/
structure Stale (m : Message) (core' : Core) (d : Decoder) : Prop where
  ready : Ready d
  leading : d.leadingCRLFCharsLeftToRemove=0
  boundary : d.reader.parser.boundary=delimiter m.boundary
  core_eq : d.reader.parser.core=core'
  marks : d.reader.parser.marks=.unmarked
  lookbehind : d.reader.parser.lookbehind.length=(delimiter m.boundary).length+4

theorem end_of_passes {core : Core} (hpasses : Passes boundary core input)
    (hrun : run (byteStep boundary) core input=some (core',out)) : core'.state=.end_ := by
  obtain ⟨before,after,last,out',rfl,_,hbefore,hend⟩ := hpasses
  obtain ⟨out₂,hafter,_⟩ := run_append_left hbefore hrun
  rw [run_end hend] at hafter
  simp only [Option.some.injEq,Prod.mk.injEq] at hafter
  rw [←hafter.1]
  exact hend

theorem run_prefix {m : Message} (hpre : done++chunk <+: m.body)
    (hrun : run (byteStep (delimiter m.boundary)) startCore (done.drop 2)=some (core',out)) :
    ∃ core'' out₂,run (byteStep (delimiter m.boundary)) core' (chunk.drop (2-done.length)) = some (core'',out₂) ∧
      run (byteStep (delimiter m.boundary)) startCore ((done++chunk).drop 2) =
        some (core'',out++out₂) ∧ core''.state≠.error := by
  have hdrop : (done++chunk).drop 2=done.drop 2++chunk.drop (2-done.length) :=
    drop_append
  have hbody : m.body.drop 2=m.stem++closing := by
    rw [body_eq,append_assoc]
    rfl
  obtain ⟨tail,htail⟩ := hpre
  have htail := congrArg (List.drop 2) htail
  rw [drop_append,hbody,hdrop] at htail
  have hwhole := run_whole m
  rw [←htail] at hwhole
  obtain ⟨core'',out₁,out₃,hfirst,hrest,_⟩ := run_append_inv hwhole
  obtain ⟨out₂,hchunk,rfl⟩ := run_append_left hrun hfirst
  rw [hdrop]
  exact ⟨core'',out₂,hchunk,hfirst,state_ne_error hrest nofun⟩

theorem receive_chunk {m : Message} (h : Receiving m done d log) (hpre : done++chunk <+: m.body) (hne : chunk≠[]) :
    ∃ d' log' core',d.onReceiveData recorder log chunk=(.success,d',log') ∧
      Wrote m (done++chunk) core' (headerState d'.reader) log' ∧
      (Passes (delimiter m.boundary) d.reader.parser.core (chunk.drop (2-done.length)) →
        core'.state=.end_ ∧ Stale m d.reader.parser.core d') ∧
      (¬Passes (delimiter m.boundary) d.reader.parser.core (chunk.drop (2-done.length)) →
        Receiving m (done++chunk) d' log') := by
  obtain ⟨out,hrun,hread⟩ := h.wrote
  obtain ⟨core',out₂,hchunk,hall,herror⟩ := run_prefix hpre hrun
  have hstrip : stripCRLF d.leadingCRLFCharsLeftToRemove chunk =
      (2-(done++chunk).length,some (chunk.drop (2-done.length))) := by
    rw [h.leading]
    rw [body_eq,append_assoc] at hpre
    exact stripCRLF_eq hpre
  by_cases hnil : chunk.drop (2-done.length)=[]
  · -- nothing but the leading line end
    have hpos : 0<d.leadingCRLFCharsLeftToRemove := by
      rw [h.leading]
      by_contra hzero
      have hz : 2-done.length=0 := by omega
      rw [hz] at hnil
      exact hne hnil
    rw [hnil] at hstrip hchunk ⊢
    simp only [run,Option.some.injEq,Prod.mk.injEq] at hchunk
    obtain ⟨rfl,rfl⟩ := hchunk
    rw [append_nil] at hall
    refine ⟨_,log,d.reader.parser.core,
      onReceiveData_leading (by rw [h.ready.status]; simp) h.ready.code h.ready.found hpos hstrip,
      ⟨out,hall,hread⟩,fun hp => absurd hp not_passes_nil,fun _ => ?_⟩
    exact ⟨⟨h.ready.code,h.ready.found,h.ready.status,h.ready.fresh⟩,rfl,h.boundary,h.synced,⟨out,hall,hread⟩⟩
  · have hchunk' := hchunk
    rw [←h.boundary] at hchunk'
    obtain ⟨r',calls,hfeed,hcalls,hboundary,hstored,hstale⟩ :=
      reader_feed h.synced hnil hchunk'
    rw [h.boundary] at hboundary hstored hstale
    have hok : r'.parser.hasError=false := by
      have hne : r'.parser.core.state≠.error := by
        by_cases hp : Passes (delimiter m.boundary) d.reader.parser.core (chunk.drop (2-done.length))
        · rw [(hstale hp).1]
          exact state_ne_error hchunk herror
        · rw [(hstored hp).2]
          exact herror
      simp [Parser.hasError,hne]
    have hwrote : Wrote m (done++chunk) core' (headerState r') (log++calls) := by
      refine ⟨out++out₂,hall,?_⟩
      rw [readTokens_append,hread]
      rw [←hcalls]
      simp [seen]
    have hready : Ready {d with
        reader := r'
        index := dataCount calls
        leadingCRLFCharsLeftToRemove := 2-(done++chunk).length} :=
      ⟨h.ready.code,h.ready.found,h.ready.status,h.ready.fresh⟩
    refine ⟨_,log++calls,core',onReceiveData_fed h.ready hnil hstrip hfeed hok,hwrote,fun hp => ?_,fun hp => ?_⟩
    · obtain ⟨hcore,hmarks,hlook⟩ := hstale hp
      refine ⟨end_of_passes hp hchunk,hready,?_,hboundary,hcore,hmarks,hlook⟩
      have hlen : 0<(chunk.drop (2-done.length)).length := length_pos_iff.mpr hnil
      rw [length_drop] at hlen
      dsimp only
      rw [length_append]
      omega
    · obtain ⟨hsynced,hcore⟩ := hstored hp
      refine ⟨hready,rfl,hboundary,hsynced,?_⟩
      rw [hcore]
      exact hwrote

end AlexaClientSDK.MimeDelivery
