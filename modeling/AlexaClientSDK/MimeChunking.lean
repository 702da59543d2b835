import AlexaClientSDK.MimeRoundTrip

/-!
# Delivering a message in chunks

How a body is cut does not matter to the sink, with one exception. When a chunk holds the last hyphen and the carriage
return behind it but not the line feed, `feed` returns at the carriage return and stores nothing, and the line feed is
read in the state before that chunk. The delivery is right exactly when that state takes it quietly, or there is no such
cut.
-/

namespace AlexaClientSDK.MimeChunking

open MimeEncoder (Bytes crlf twoDashes delimiter)
open Option List
open MultipartParser MultipartScan MultipartFeed Transducers MimeDecoder MimeMessage MimeDelivery
open MimeRoundTrip

/-- A line feed neither fails there nor shows the sink anything, without a mark. -/
def quietLineFeed (boundary : Bytes) (core : Core) : Bool :=
  match core.state with
  | .startBoundary =>
    decide (core.index=boundary.length-2+1) ||
      (decide (core.index<boundary.length-2) &&
        decide (boundary.getD (core.index+2) 0=LF))
  | .headerValueStart => true
  | .headerValue => true
  | .headerValueAlmostDone => true
  | .partData =>
    decide (core.index=0) ||
      (decide (core.index<boundary.length) && decide (boundary.getD core.index 0=LF))
  | _ => false

section

variable {boundary : Bytes} {s s' : Scan}

/-- A scan of one line feed without marks. -/
structure Lone (boundary : Bytes) (s : Scan) : Prop where
  buffer : s.buffer=[LF]
  i : s.i=0
  saved : s.saved=none
  marks : s.marks=.unmarked
  out : s.out=[]
  lookbehind : s.lookbehind.length=boundary.length+4

/-- A turn that reads the line feed ends the chunk. -/
theorem loop_of_next (hchunk : s.buffer=[LF]) (hzero : s.i=0)
    (hturn : turn boundary s=.next s') (hbuffer : s'.buffer=[LF]) (hsaved : s'.saved=none) (fuel : ℕ) :
    ∃ t,loop boundary (fuel+2) s=some (.finished t) ∧ t.core=s'.core ∧
      t.out=s'.out++(dataCallbackFlush .headerField s'.marks.headerField [LF]).2 ++
        (dataCallbackFlush .headerValue s'.marks.headerValue [LF]).2 ++
        (dataCallbackFlush .partData s'.marks.partData [LF]).2 := by
  have hi : s.i<s.buffer.length := by
    rw [hzero,hchunk]
    decide
  have hpast : s'.buffer.length ≤ s'.i+1 := by
    rw [hbuffer]
    simp
  have hadvance : s'.advance=({s' with i := s'.i+1} : Scan).flush := by
    unfold Scan.advance
    rw [if_pos hpast]
  have hflush : ({s' with i := s'.i+1} : Scan).flush.buffer=[LF] ∧ ({s' with i := s'.i+1} : Scan).flush.i=s'.i+1 := by
    simp only [Scan.flush,hsaved]
    exact ⟨hbuffer,trivial⟩
  have hend : ¬({s' with i := s'.i+1} : Scan).flush.i < ({s' with i := s'.i+1} : Scan).flush.buffer.length := by
    rw [hflush.1,hflush.2]
    simp
  refine ⟨({s' with i := s'.i+1} : Scan).flush,?_,?_,?_⟩
  · simp only [loop,hi,if_true,hturn,hadvance,hend,if_false]
  · simp only [Scan.flush,hsaved]
  · simp only [Scan.flush,hsaved,hbuffer]

theorem loop_of_fail (h : Lone boundary s) {reason : String} (hturn : turn boundary s=.fail s' reason) (fuel : ℕ) :
    loop boundary (fuel+1) s=some (.failed s' reason) := by
  have hi : s.i<s.buffer.length := by
    rw [h.i,h.buffer]
    decide
  simp only [loop,hi,if_true,hturn]

def visible : Token → Bool
  | .headersEnd => true
  | .byte _ => true
  | .partEnd => true
  | _ => false

/-- The loop ends on it with tokens that a sink sees, not at all, or unnoticed. -/
def Noticed (exit : Option Exit) (noticed : Bool) : Prop :=
  (noticed=true ∧ ∃ t reason,exit=some (.failed t reason) ∧ t.out=[]) ∨
  ∃ t,exit=some (.finished t) ∧ t.core.state≠.error ∧ (tokens t.out).any visible=noticed

theorem noticed_of_next {noticed : Bool} (h : Lone boundary s) (hturn : turn boundary s=.next s')
    (hbuffer : s'.buffer=[LF]) (hsaved : s'.saved=none) (hs : s'.core.state≠.error)
    (hout : (tokens (s'.out++(dataCallbackFlush .headerField s'.marks.headerField [LF]).2 ++
        (dataCallbackFlush .headerValue s'.marks.headerValue [LF]).2 ++
        (dataCallbackFlush .partData s'.marks.partData [LF]).2)).any visible=noticed) (fuel : ℕ) :
    Noticed (loop boundary (fuel+2) s) noticed := by
  obtain ⟨t,hfinished,htcore,htout⟩ := loop_of_next h.buffer h.i hturn hbuffer hsaved fuel
  refine .inr ⟨t,hfinished,?_,?_⟩
  · rw [htcore]
    exact hs
  · rw [htout]
    exact hout

theorem noticed_of_fail (h : Lone boundary s) (hfails : ∃ s₂ reason,turn boundary s=.fail s₂ reason ∧ s₂.out=s.out)
    (hloud : quietLineFeed boundary s.core=false) (fuel : ℕ) :
    Noticed (loop boundary (fuel+3) s) (!quietLineFeed boundary s.core) := by
  obtain ⟨s₂,reason,hfail,hout⟩ := hfails
  rw [hloud]
  exact .inl ⟨rfl,_,_,loop_of_fail h hfail (fuel+2),hout.trans h.out⟩

theorem noticed_startBoundary (h : Lone boundary s) (hs : s.core.state=.startBoundary) (fuel : ℕ) :
    Noticed (loop boundary (fuel+3) s) (!quietLineFeed boundary s.core) := by
  have hget : s.buffer.getD s.i 0=LF := by
    rw [h.buffer,h.i]
    rfl
  have hturn : turn boundary s=startBoundaryTurn boundary s LF := by
    simp only [turn,hs,hget]
  by_cases hcr : s.core.index=boundary.length-2
  · refine noticed_of_fail h ⟨s,"Malformed. Expected CR after boundary.",?_,rfl⟩ ?_ fuel
    · rw [hturn,startBoundaryTurn,if_pos hcr,if_pos (by decide)]
    · have h1 : ¬boundary.length-2=boundary.length-2+1 := by omega
      simp only [quietLineFeed,hs,hcr,h1,Nat.lt_irrefl,decide_false,Bool.false_and,Bool.or_self]
  · by_cases hlf : s.core.index=boundary.length-2+1
    · have hquiet : quietLineFeed boundary s.core=true := by
        simp only [quietLineFeed,hs,hlf,decide_true,Bool.true_or]
      have hnext : turn boundary s=.next {s with
          core := {s.core with state := .headerStart,index := 0}
          out := s.out++[.partBegin]} := by
        rw [hturn,startBoundaryTurn,if_neg hcr,if_pos hlf,if_neg (by decide)]
      rw [hquiet]
      refine noticed_of_next h hnext h.buffer h.saved (by simp) ?_ (fuel+1)
      rw [h.out,h.marks]
      rfl
    · by_cases hc : LF=boundary.getD (s.core.index+2) 0
      · have hlt : s.core.index<boundary.length-2 := by
          by_contra hge
          have hout : boundary.getD (s.core.index+2) 0=0 := by
            rw [getD_eq_getElem?_getD,List.getElem?_eq_none (by omega)]
            rfl
          rw [hout] at hc
          exact absurd hc (by decide)
        have hquiet : quietLineFeed boundary s.core=true := by
          simp only [quietLineFeed,hs,hlt,hc.symm,decide_true,Bool.and_self,Bool.or_true]
        have hnext : turn boundary s=.next {s with
            core := {s.core with index := s.core.index+1}} := by
          rw [hturn,startBoundaryTurn,if_neg hcr,if_neg hlf,if_neg (not_not.mpr hc)]
        rw [hquiet]
        refine noticed_of_next h hnext h.buffer h.saved (by dsimp only; rw [hs]; simp) ?_ (fuel+1)
        rw [h.out,h.marks]
        rfl
      · refine noticed_of_fail h ⟨s,"Malformed. Found different boundary data than the given one.",?_,rfl⟩ ?_ fuel
        · rw [hturn,startBoundaryTurn,if_neg hcr,if_neg hlf,if_pos hc]
        · have hc' : ¬boundary.getD (s.core.index+2) 0=LF := fun heq => hc heq.symm
          simp only [quietLineFeed,hs,hlf,hc',decide_false,Bool.and_false,Bool.or_self]

section

variable (hb : 2≤boundary.length)
include hb

section

variable (hfirst : boundary.getD 0 0=CR)
include hfirst

/-- A line feed inside the data, with the mark at it and nothing held back. -/
theorem turn_data_marked (hbuffer : s.buffer=[LF]) (hi : s.i=0) (hidx : s.core.index=0) :
    ∃ s',processPartData boundary s LF=.next s' ∧ s'.core=s.core ∧ s'.buffer=[LF] ∧
      s'.saved=s.saved ∧ s'.marks=s.marks ∧ s'.out=s.out := by
  have hskip : skip boundary [LF] 1 0=0 := by
    have hlong : ¬0+boundary.length≤1 := by omega
    simp only [skip,length_singleton,hlong,if_false]
  have hne : ¬boundary.getD 0 0=LF := by
    rw [hfirst]
    decide
  have hpos : 0<boundary.length := by omega
  have hone : ¬(0 : ℕ)=1 := by omega
  have hget : ([LF] : Bytes).getD 0 0=LF := rfl
  unfold processPartData
  rw [if_pos hidx,hbuffer,hi]
  simp only [length_singleton,hskip,hone,if_false,hget]
  unfold matchTurn matchBoundary
  rw [hidx,if_pos hpos,if_neg hne]
  dsimp only [holdBack]
  rw [if_neg (Nat.lt_irrefl 0),if_neg (Nat.lt_irrefl 0)]
  refine ⟨_,rfl,?_,rfl,rfl,rfl,rfl⟩
  rw [←hidx]

/-- A line feed that breaks a match is handed out with what was held back. -/
theorem noticed_of_retry (h : Lone boundary s) (hturn : turn boundary s=.retry s') (hs : s'.core.state=.partData)
    (hidx : s'.core.index=0) (hbuffer : s'.buffer=[LF]) (hi : s'.i=0)
    (hsaved : s'.saved=none) (hmarks : s'.marks.partData=some 0) (fuel : ℕ) :
    Noticed (loop boundary (fuel+3) s) true := by
  have hlt : s.i<s.buffer.length := by
    rw [h.i,h.buffer]
    decide
  have hloop : loop boundary (fuel+3) s=loop boundary (fuel+2) s' := by
    simp only [loop,hlt,if_true,hturn]
  obtain ⟨s'',hnext,hcore,hbuffer',hsaved',hmarks',hout'⟩ :=
    turn_data_marked hb hfirst hbuffer hi hidx
  have hget : s'.buffer.getD s'.i 0=LF := by
    rw [hbuffer,hi]
    rfl
  have hturn' : turn boundary s'=.next s'' := by
    simp only [turn,hs,hget,hnext]
  have hsaved'' : s''.saved=none := hsaved'.trans hsaved
  obtain ⟨t,hfinished,htcore,htout⟩ := loop_of_next hbuffer hi hturn' hbuffer' hsaved'' fuel
  refine .inr ⟨t,hloop.trans hfinished,?_,?_⟩
  · rw [htcore,hcore,hs]
    simp
  · rw [htout,hmarks',hmarks,tokens_append,any_append,Bool.or_eq_true]
    exact .inr rfl

theorem noticed_data (h : Lone boundary s) (hs : s.core.state=.partData)
    (hidx : s.core.index≤boundary.length+1) (fuel : ℕ) :
    Noticed (loop boundary (fuel+3) s) (!quietLineFeed boundary s.core) := by
  have hget : s.buffer.getD s.i 0=LF := by
    rw [h.buffer,h.i]
    rfl
  have hturn : turn boundary s=processPartData boundary s LF := by
    simp only [turn,hs,hget]
  by_cases hzero : s.core.index=0
  · obtain ⟨s',hnext,hcore,hbuffer',hsaved',hmarks',hout'⟩ :=
      turn_data_marked hb hfirst h.buffer h.i hzero
    have hquiet : quietLineFeed boundary s.core=true := by
      simp [quietLineFeed,hs,hzero]
    rw [hquiet]
    refine noticed_of_next h (hturn.trans hnext) hbuffer' (hsaved'.trans h.saved) ?_ ?_ (fuel+1)
    · rw [hcore,hs]
      simp
    · rw [hout',hmarks',h.out,h.marks]
      rfl
  · have hmatch : turn boundary s=matchTurn boundary s LF := by
      rw [hturn,processPartData,if_neg hzero]
    have hcr : ¬LF=CR := by decide
    have hhyphen : ¬LF=HYPHEN := by decide
    have hlook := h.lookbehind
    -- a match that breaks off
    have hbreaks : matchBoundary boundary s LF =
        ({s with core := {s.core with index := 0}},false) →
        Noticed (loop boundary (fuel+3) s) true := by
      intro hbreak
      have hretry : turn boundary s=.retry {s with
          core := {s.core with index := 0}
          marks := {s.marks with partData := some s.i}
          out := s.out++[.partData (s.lookbehind.take s.core.index)]} := by
        rw [hmatch,matchTurn,hbreak]
        dsimp only [holdBack]
        rw [if_neg (Nat.lt_irrefl 0),if_pos (Nat.pos_of_ne_zero hzero)]
      exact noticed_of_retry hb hfirst h hretry hs rfl h.buffer h.i h.saved (by rw [h.i]) fuel
    by_cases hlt : s.core.index<boundary.length
    · by_cases hc : boundary.getD s.core.index 0=LF
      · have hquiet : quietLineFeed boundary s.core=true := by
          simp only [quietLineFeed,hs,hlt,hc,decide_true,Bool.and_self,Bool.or_true]
        have hnext : turn boundary s=.next {s with
            core := {s.core with index := s.core.index+1}
            lookbehind := s.lookbehind.set s.core.index LF} := by
          have hroom : ¬s.lookbehind.length ≤ s.core.index := by omega
          rw [hmatch,matchTurn,matchBoundary,if_pos hlt,if_pos hc,if_neg hzero]
          dsimp only [holdBack]
          rw [if_pos (Nat.succ_pos _),Nat.add_sub_cancel,if_neg hroom]
        rw [hquiet]
        refine noticed_of_next h hnext h.buffer h.saved (by dsimp only; rw [hs]; simp) ?_ (fuel+1)
        rw [h.out,h.marks]
        rfl
      · have hloud : quietLineFeed boundary s.core=false := by
          simp only [quietLineFeed,hs,hlt,hc,hzero,decide_true,decide_false,Bool.and_false,Bool.or_self]
        rw [hloud]
        exact hbreaks (by rw [matchBoundary,if_pos hlt,if_neg hc])
    · have hloud : quietLineFeed boundary s.core=false := by
        simp only [quietLineFeed,hs,hlt,hzero,decide_false,Bool.false_and,Bool.or_self]
      rw [hloud]
      by_cases hfull : s.core.index=boundary.length
      · exact hbreaks (by rw [matchBoundary,if_neg hlt,if_pos hfull,if_neg hcr,if_neg hhyphen])
      · have hlast : s.core.index=boundary.length+1 := by omega
        by_cases hpart : s.core.partBoundary=true
        · have hnext : turn boundary s=.next {s with
              core := {s.core with state := .headerStart,index := 0,partBoundary := false}
              out := s.out++[.partEnd,.partBegin]} := by
            rw [hmatch,matchTurn,matchBoundary,if_neg hlt,if_neg hfull,if_pos hlast,if_pos hpart,if_pos rfl]
          refine noticed_of_next h hnext h.buffer h.saved (by simp) ?_ (fuel+1)
          rw [h.out,h.marks]
          rfl
        · refine hbreaks ?_
          rw [matchBoundary,if_neg hlt,if_neg hfull,if_pos hlast,if_neg hpart,if_neg hhyphen]
          exact ite_self _

theorem noticed_partDataStart (h : Lone boundary s)
    (hs : s.core.state=.partDataStart) (hidx : s.core.index=0) (fuel : ℕ) :
    Noticed (loop boundary (fuel+3) s) (!quietLineFeed boundary s.core) := by
  have hget : s.buffer.getD s.i 0=LF := by
    rw [h.buffer,h.i]
    rfl
  have hloud : quietLineFeed boundary s.core=false := by simp only [quietLineFeed,hs]
  obtain ⟨s',hnext,hcore,hbuffer',hsaved',hmarks',hout'⟩ :=
    turn_data_marked (s := {s with
      core := {s.core with state := .partData}
      marks := {s.marks with partData := some s.i}}) hb hfirst h.buffer h.i hidx
  have hturn : turn boundary s=.next s' := by
    simp only [turn,hs,hget]
    exact hnext
  rw [hloud]
  refine noticed_of_next h hturn hbuffer' (hsaved'.trans h.saved) (by rw [hcore]; simp) ?_ (fuel+1)
  rw [hout',hmarks']
  rw [h.out,h.marks,h.i]
  rfl

end

end

theorem noticed_lineFeed {tail : Bytes} {c : UInt8} (hboundary : boundary=[13,10,45,45]++tail)
    (h : Lone boundary s) (hlive : byteStep boundary s.core c≠none) (hend : s.core.state≠.end_) (fuel : ℕ) :
    Noticed (loop boundary (fuel+3) s) (!quietLineFeed boundary s.core) := by
  have hlong : 4≤boundary.length := by
    rw [hboundary]
    simp
  have hfirst : boundary.getD 0 0=CR := by
    rw [hboundary]
    rfl
  have hget : s.buffer.getD s.i 0=LF := by
    rw [h.buffer,h.i]
    rfl
  have hfield : ∀ s₁ : Scan,∃ s₂ reason,headerFieldTurn s₁ LF=.fail s₂ reason ∧ s₂.out=s₁.out := by
    intro s₁
    exact ⟨_,_,rfl,rfl⟩
  cases hs : s.core.state with
  | start =>
    refine noticed_of_fail h ?_ (by simp only [quietLineFeed,hs]) fuel
    have h1 : ¬0=boundary.length-2 := by omega
    have h2 : ¬0=boundary.length-2+1 := by omega
    have h3 : LF≠boundary.getD (0+2) 0 := by
      have hdash : boundary.getD (0+2) 0=HYPHEN := by
        rw [hboundary]
        rfl
      rw [hdash]
      decide
    simp only [turn,hs,hget,startBoundaryTurn,h1,h2,h3,if_false,ne_eq,not_false_eq_true,if_true]
    exact ⟨_,_,rfl,rfl⟩
  | startBoundary => exact noticed_startBoundary h hs fuel
  | headerStart | headerFieldStart | headerField =>
    refine noticed_of_fail h ?_ (by simp only [quietLineFeed,hs]) fuel
    simp only [turn,hs,hget]
    exact hfield _
  | headerValueStart =>
    have hquiet : quietLineFeed boundary s.core=true := by simp only [quietLineFeed,hs]
    have hnext : turn boundary s=.next {s with
        core := {s.core with state := .headerValue}
        marks := {s.marks with headerValue := some s.i}} := by
      simp only [turn,hs,hget]
      rfl
    rw [hquiet]
    refine noticed_of_next h hnext h.buffer h.saved (by simp) ?_ (fuel+1)
    rw [h.out,h.marks,h.i]
    rfl
  | headerValue =>
    have hquiet : quietLineFeed boundary s.core=true := by simp only [quietLineFeed,hs]
    have hnext : turn boundary s=.next s := by
      simp only [turn,hs,hget]
      rfl
    rw [hquiet]
    refine noticed_of_next h hnext h.buffer h.saved (by rw [hs]; simp) ?_ (fuel+1)
    rw [h.out,h.marks]
    rfl
  | headerValueAlmostDone =>
    have hquiet : quietLineFeed boundary s.core=true := by simp only [quietLineFeed,hs]
    have hnext : turn boundary s=.next {s with
        core := {s.core with state := .headerFieldStart}} := by
      simp only [turn,hs,hget]
      rfl
    rw [hquiet]
    refine noticed_of_next h hnext h.buffer h.saved (by simp) ?_ (fuel+1)
    rw [h.out,h.marks]
    rfl
  | headersAlmostDone =>
    have hloud : quietLineFeed boundary s.core=false := by simp only [quietLineFeed,hs]
    have hnext : turn boundary s=.next {s with
        core := {s.core with state := .partDataStart}
        out := s.out++[.headersEnd]} := by
      simp only [turn,hs,hget]
      rfl
    rw [hloud]
    refine noticed_of_next h hnext h.buffer h.saved (by simp) ?_ (fuel+1)
    rw [h.out,h.marks]
    rfl
  | partDataStart =>
    have hidx : s.core.index=0 := by
      by_contra hne
      refine hlive ?_
      simp only [byteStep,hs,hne,if_false]
    exact noticed_partDataStart (by omega) hfirst h hs hidx fuel
  | partData =>
    have hidx : s.core.index≤boundary.length+1 := by
      by_contra hbig
      refine hlive ?_
      have h1 : ¬s.core.index<boundary.length := by omega
      have h2 : ¬s.core.index=boundary.length := by omega
      have h3 : ¬s.core.index=boundary.length+1 := by omega
      simp only [byteStep,hs,dataStep,h1,h2,h3,if_false]
    exact noticed_data (by omega) hfirst h hs hidx fuel
  | end_ => exact absurd hs hend
  | error | duplicateBoundaryStart | crlfDuplicateBoundaryStart | partEnd => exact absurd (by simp only [byteStep,hs]) hlive

end

/-- The sink was told everything once, and every chunk was taken. -/
def Delivered (m : Message) (result : List Status × Decoder × List PartCallback) : Prop :=
  (∀ status∈result.1,status=.success) ∧ seen result.2.2=m.seen

/-- It is alone, behind a chunk that began where it is not quiet. -/
def LateLineFeed (m : Message) (done : Bytes) (chunks : List Bytes) : Prop :=
  ∃ init last core' out,chunks=init++[last++[HYPHEN,CR],[LF]] ∧
    run (byteStep (delimiter m.boundary)) startCore ((done++init.flatten).drop 2) = some (core',out) ∧
    quietLineFeed (delimiter m.boundary) core'=false

theorem readTokens_silent (h : HeaderState) (input : List Token) :
    (readTokens h input).2=[] ↔ input.any visible=false := by
  induction input generalizing h with
  | nil => simp [readTokens]
  | cons token input ih =>
    have hhead : (readToken h token).2=[] ↔ visible token=false := by
      cases token with
      | headersEnd | byte | partEnd =>
        constructor
        · intro hnil
          cases hnil
        · intro hvisible
          cases hvisible
      | _ => exact ⟨fun _ => rfl,fun _ => rfl⟩
    simp only [readTokens,List.append_eq_nil_iff,ih,hhead,List.any_cons,Bool.or_eq_false_iff]

variable {m : Message} {done : Bytes} {core' : Core} {out : List Token}

/-- Before the last hyphen the transducer has not come to the end. -/
theorem not_end_in_stem (hpre : done <+: m.stem)
    (hrun : run (byteStep (delimiter m.boundary)) startCore done=some (core',out)) : core'.state≠.end_ := by
  intro hend
  obtain ⟨tail,htail⟩ := hpre
  have hstem := run_stem m
  rw [←htail] at hstem
  obtain ⟨out₂,hrest,_⟩ := run_append_left hrun hstem
  rw [run_end hend] at hrest
  simp only [some.injEq,Prod.mk.injEq] at hrest
  rw [hrest.1] at hend
  exact absurd hend nofun

theorem end_behind_stem (hpre : m.stem++[HYPHEN] <+: done)
    (hrun : run (byteStep (delimiter m.boundary)) startCore done=some (core',out)) :
    core'.state=.end_ ∧ out=m.stemTokens++[.partEnd,.end_] := by
  obtain ⟨tail,rfl⟩ := hpre
  obtain ⟨out₂,hrest,hout⟩ := run_append_left (run_end_of_stem m) hrun
  rw [run_end rfl] at hrest
  simp only [some.injEq,Prod.mk.injEq] at hrest
  rw [hout,←hrest.1,←hrest.2,append_nil]
  exact ⟨rfl,rfl⟩

variable {d : Decoder} {c : UInt8}

/-- A line feed behind a passed end fails without a callback, or does not fail. -/
theorem reader_feed_stale (h : Stale m core' d)
    (hlive : byteStep (delimiter m.boundary) core' c≠none) (hend : core'.state≠.end_) :
    ∃ r calls,d.reader.feed [LF]=(r,calls) ∧
      ((quietLineFeed (delimiter m.boundary) core'=false ∧ r.parser.hasError=true ∧ calls=[]) ∨
        (r.parser.hasError=false ∧ (seen calls=[] ↔ quietLineFeed (delimiter m.boundary) core'=true))) := by
  have hcore := h.core_eq
  subst hcore
  have herror : d.reader.parser.core.state≠.error := by
    intro hs
    exact hlive (by simp only [byteStep,hs])
  have hlone : Lone (delimiter m.boundary) (d.reader.parser.scan [LF]) :=
    ⟨rfl,rfl,rfl,h.marks,rfl,h.lookbehind⟩
  have hnoticed : Noticed (loop (delimiter m.boundary) 4 (d.reader.parser.scan [LF]))
      (!quietLineFeed (delimiter m.boundary) d.reader.parser.core) :=
    noticed_lineFeed (delimiter_eq m.boundary) hlone hlive hend 1
  have hfeed : d.reader.parser.feed [LF] =
      d.reader.parser.leave (loop (delimiter m.boundary) 4 (d.reader.parser.scan [LF])) := by
    rw [Parser.feed,if_neg (by rintro (he | he); exact herror he; cases he),h.boundary]
    rfl
  unfold Reader.feed
  rw [hfeed]
  refine ⟨_,_,rfl,?_⟩
  rcases hnoticed with ⟨hloud,t,reason,hfailed,hout⟩|⟨t,hfinished,hok,hany⟩
  · rw [hfailed]
    dsimp only [Parser.leave]
    rw [hout]
    exact .inl ⟨by simpa using hloud,rfl,rfl⟩
  · rw [hfinished]
    dsimp only [Parser.leave]
    refine .inr ⟨?_,?_⟩
    · rw [(callbacks_tokens _ _).1]
      simp [Parser.hasError,hok]
    · rw [show seen _=_ from congrArg Prod.snd (callbacks_tokens t.out _).2,readTokens_silent,hany]
      simp

variable {log : List PartCallback}

theorem lineFeed_stale (h : Stale m core' d)
    (hlive : byteStep (delimiter m.boundary) core' c≠none) (hend : core'.state≠.end_)
    (hseen : seen log=m.seen) : Delivered m (d.onReceiveChunks recorder log [[LF]]) ↔
      quietLineFeed (delimiter m.boundary) core'=true := by
  have hstrip : stripCRLF d.leadingCRLFCharsLeftToRemove [LF]=(0,some [LF]) := by
    rw [h.leading]
    rfl
  have hstatus : d.lastStatus≠.abort := by
    rw [h.ready.status]
    nofun
  have hchunks : ∀ status d' log',d.onReceiveData recorder log [LF]=(status,d',log') →
      d.onReceiveChunks recorder log [[LF]]=([status],d',log') := by
    intro status d' log' hreceive
    simp only [Decoder.onReceiveChunks,hreceive]
  obtain ⟨r,calls,hread,⟨hquiet,hbad,_⟩|⟨hgood,hsilent⟩⟩ := reader_feed_stale h hlive hend
  · -- the parser fails, and the chunk is refused
    have hfed : ({d with leadingCRLFCharsLeftToRemove := 0} : Decoder).feedReader recorder log [LF] =
        ({d with
          reader := r
          index := dataCount calls
          leadingCRLFCharsLeftToRemove := 0
          lastSuccessIndex := dataCount calls
          lastStatus := if r.parser.hasError then .abort else .success},log++calls) :=
      feedReader_recorder h.ready.status h.ready.fresh hread
    rw [hbad,if_pos rfl] at hfed
    have hreceive := onReceiveData_body hstatus h.ready.code h.ready.found (by simp) hstrip hfed
    rw [hchunks _ _ _ hreceive,hquiet]
    refine ⟨fun hd => ?_,nofun⟩
    exact absurd (hd.1 _ (mem_singleton.mpr rfl)) nofun
  · have hreceive : d.onReceiveData recorder log [LF]=(.success,{d with
        reader := r
        index := dataCount calls
        leadingCRLFCharsLeftToRemove := 0},log++calls) :=
      onReceiveData_fed h.ready (by simp) hstrip hread hgood
    have hseen' : seen (log++calls)=m.seen++seen calls := by
      rw [←hseen]
      simp [seen]
    rw [hchunks _ _ _ hreceive]
    unfold Delivered
    rw [hseen',append_right_eq_self,hsilent]
    simp

variable {chunk : Bytes}

theorem receiving_next (h : Receiving m done d log) (hpre : done++chunk <+: m.body) (hne : chunk≠[])
    (hgo : Passes (delimiter m.boundary) d.reader.parser.core (chunk.drop (2-done.length)) →
      d.reader.parser.core.state=.end_) : ∃ d' log',d.onReceiveData recorder log chunk=(.success,d',log') ∧
      Receiving m (done++chunk) d' log' := by
  obtain ⟨d',log',core',hreceive,hwrote,hpassed,hstored⟩ := receive_chunk h hpre hne
  refine ⟨d',log',hreceive,?_⟩
  by_cases hp : Passes (delimiter m.boundary) d.reader.parser.core (chunk.drop (2-done.length))
  · have hend := hgo hp
    obtain ⟨-,hstale⟩ := hpassed hp
    obtain ⟨out,hrun,_⟩ := h.wrote
    obtain ⟨core'',out₂,hchunk,hall,_⟩ := run_prefix hpre hrun
    obtain ⟨out',hrun',hread'⟩ := hwrote
    rw [run_end hend] at hchunk
    simp only [some.injEq,Prod.mk.injEq] at hchunk
    rw [←hchunk.1,hrun'] at hall
    simp only [some.injEq,Prod.mk.injEq] at hall
    rw [hall.1] at hrun'
    have hcore := hstale.core_eq
    refine ⟨hstale.ready,?_,hstale.boundary,⟨?_,?_,?_,?_⟩,out',?_,hread'⟩
    · have hlen : 0<(chunk.drop (2-done.length)).length := by
        rw [length_pos_iff]
        intro hnil
        rw [hnil] at hp
        exact not_passes_nil hp
      rw [length_drop] at hlen
      rw [hstale.leading,length_append]
      omega
    · rw [hstale.boundary,delimiter_eq]
      exact cons_ne_nil _ _
    · unfold MarksOk
      rw [hcore,hend]
      exact hstale.marks
    · rw [hstale.boundary]
      exact hstale.lookbehind
    · intro hdata
      rw [hcore,hend] at hdata
      exact absurd hdata nofun
    · rw [hcore]
      exact hrun'
  · exact hstored hp

theorem passes_of_late {last : Bytes} (hall : done++(last++[HYPHEN,CR])++[LF]=m.body)
    (hrun : run (byteStep (delimiter m.boundary)) startCore (done.drop 2)=some (core',out)) :
    Passes (delimiter m.boundary) core' ((last++[HYPHEN,CR]).drop (2-done.length)) ∧ core'.state≠.end_ := by
  have hstart : done++last=crlf++m.stem := by
    rw [body_eq] at hall
    have hsplit : (done++last)++closing=(crlf++m.stem)++closing := by
      rw [←hall]
      simp [closing]
    exact append_cancel_right hsplit
  have hdrop : done.drop 2++last.drop (2-done.length)=m.stem := by
    rw [←drop_append,hstart]
    rfl
  have hlen : 2-done.length≤last.length := by
    have hl := congrArg List.length hstart
    simp only [length_append,crlf,length_cons,length_nil] at hl
    omega
  have hcut : (last++[HYPHEN,CR]).drop (2-done.length) = (last.drop (2-done.length)++[HYPHEN])++[CR] := by
    rw [drop_append_of_le_length hlen,append_assoc]
    rfl
  refine ⟨?_,not_end_in_stem ⟨_,hdrop⟩ hrun⟩
  have hend := run_end_of_stem m
  rw [←hdrop,append_assoc] at hend
  obtain ⟨out₂,hbefore,_⟩ := run_append_left hrun hend
  exact ⟨_,[CR],_,out₂,hcut,by simp,hbefore,rfl⟩

variable {rest : List Bytes}

theorem late_cons (h : Receiving m done d log) (hall : done++(chunk::rest).flatten=m.body)
    (hgo : Passes (delimiter m.boundary) d.reader.parser.core (chunk.drop (2-done.length)) →
      d.reader.parser.core.state=.end_) : LateLineFeed m done (chunk::rest) ↔ LateLineFeed m (done++chunk) rest := by
  constructor
  · rintro ⟨init,last,core',out,heq,hrun,hloud⟩
    cases init with
    | nil =>
      simp only [nil_append,List.cons.injEq] at heq
      obtain ⟨rfl,rfl⟩ := heq
      obtain ⟨out',hrun',_⟩ := h.wrote
      have hbody : done++(last++[HYPHEN,CR])++[LF]=m.body := by
        rw [←hall]
        simp
      obtain ⟨hp,hne⟩ := passes_of_late hbody hrun'
      exact absurd (hgo hp) hne
    | cons first init =>
      simp only [cons_append,List.cons.injEq] at heq
      obtain ⟨rfl,rfl⟩ := heq
      refine ⟨init,last,core',out,rfl,?_,hloud⟩
      rw [append_assoc]
      exact hrun
  · rintro ⟨init,last,core',out,rfl,hrun,hloud⟩
    refine ⟨chunk::init,last,core',out,rfl,?_,hloud⟩
    rw [append_assoc] at hrun
    exact hrun

variable {chunks : List Bytes}

theorem chunks_of_nil (hne : ∀ c∈chunks,c≠[]) (h : chunks.flatten=[]) : chunks=[] := by
  cases chunks with
  | nil => rfl
  | cons chunk =>
    rw [flatten_cons,append_eq_nil_iff] at h
    exact absurd h.1 (hne chunk mem_cons_self)

theorem chunks_of_singleton (hne : ∀ c∈chunks,c≠[]) (h : chunks.flatten=[c]) : chunks=[[c]] := by
  cases chunks with
  | nil => exact absurd h nofun
  | cons chunk =>
    rw [flatten_cons] at h
    rcases append_eq_singleton_iff.mp h with ⟨h1,_⟩|⟨h1,h2⟩
    · exact absurd h1 (hne chunk mem_cons_self)
    · rw [h1,chunks_of_nil (fun c hc => hne c (mem_cons_of_mem _ hc)) h2]

/-- The end is passed in the last chunk, or before a lone line feed. -/
theorem rest_of_passes (hall : done++(chunk::rest).flatten=m.body) (hne : ∀ c∈rest,c≠[])
    (hrun : run (byteStep (delimiter m.boundary)) startCore (done.drop 2)=some (core',out))
    (hp : Passes (delimiter m.boundary) core' (chunk.drop (2-done.length))) (hend : core'.state≠.end_) :
    rest=[] ∨ rest=[[LF]] ∧ ∃ last,chunk=last++[HYPHEN,CR] := by
  obtain ⟨before,after,core'',out',hcut,hafter,hbefore,hlast⟩ := hp
  have hreach := run_append hrun hbefore
  have hlenc : 2-done.length≤chunk.length := by
    have hpos : 0<(chunk.drop (2-done.length)).length := by
      rw [hcut,length_append]
      have hpos' := length_pos_iff.mpr hafter
      omega
    rw [length_drop] at hpos
    omega
  have htotal : (done.drop 2++before)++(after++rest.flatten)=m.stem++closing := by
    have hdrop := congrArg (List.drop 2) hall
    rw [flatten_cons,drop_append,drop_append_of_le_length hlenc,hcut,body_eq,append_assoc crlf] at hdrop
    rw [←show (crlf++(m.stem++closing)).drop 2=m.stem++closing from rfl,←hdrop]
    simp only [append_assoc]
  -- the end is not reached inside the stem
  have hlong : m.stem.length<(done.drop 2++before).length := by
    by_contra hshort
    have hprefix : done.drop 2++before <+: m.stem :=
      prefix_of_prefix_length_le ⟨_,htotal⟩ (prefix_append _ _) (by omega)
    exact not_end_in_stem hprefix hreach hlast
  have hrest : rest.flatten.length≤1 := by
    have hl := congrArg List.length htotal
    have hpos := length_pos_iff.mpr hafter
    simp only [length_append,closing,length_cons,length_nil] at hl hlong
    omega
  by_cases hnil : rest.flatten=[]
  · exact .inl (chunks_of_nil hne hnil)
  · have hone : rest.flatten.length=1 := by
      have hpos := length_pos_iff.mpr hnil
      omega
    have hsides : (done++chunk)++rest.flatten=(crlf++m.stem++[HYPHEN,CR])++[LF] := by
      rw [flatten_cons,←append_assoc] at hall
      rw [hall,body_eq]
      simp [closing]
    obtain ⟨hleft,hright⟩ := append_inj' hsides (by rw [hone]; rfl)
    refine .inr ⟨chunks_of_singleton hne hright,?_⟩
    -- the last hyphen was not delivered before
    have hdone : done.length≤(crlf++m.stem).length := by
      by_contra hmore
      have hprefix : crlf++(m.stem++[HYPHEN]) <+: done := by
        have hleft' : crlf++(m.stem++[HYPHEN]) <+: done++chunk := by
          rw [hleft]
          exact ⟨[CR],by simp⟩
        refine prefix_of_prefix_length_le hleft' (prefix_append _ _) ?_
        · simp only [length_append,length_cons,length_nil] at hmore ⊢
          omega
      obtain ⟨tail,htail⟩ := hprefix
      have hdrop : done.drop 2=(m.stem++[HYPHEN])++tail := by
        rw [←htail]
        rfl
      exact hend (end_behind_stem ⟨tail,hdrop.symm⟩ hrun).1
    have hprefix : done <+: crlf++m.stem :=
      prefix_of_prefix_length_le (prefix_append done chunk) (by rw [hleft]; exact prefix_append _ _) hdone
    obtain ⟨last,hlast'⟩ := hprefix
    refine ⟨last,?_⟩
    rw [←hlast',append_assoc] at hleft
    exact append_cancel_left hleft

/-- Where the end is passed, the transducer goes on. -/
theorem live_of_passes (hpre : done++chunk <+: m.body)
    (hrun : run (byteStep (delimiter m.boundary)) startCore (done.drop 2)=some (core',out))
    (hp : Passes (delimiter m.boundary) core' (chunk.drop (2-done.length))) :
    ∃ c,byteStep (delimiter m.boundary) core' c≠none := by
  obtain ⟨core'',out₂,hchunk,_⟩ := run_prefix hpre hrun
  cases hcut : chunk.drop (2-done.length) with
  | nil =>
    rw [hcut] at hp
    exact absurd hp not_passes_nil
  | cons c =>
    rw [hcut] at hchunk
    obtain ⟨_,_,_,hstep,_⟩ := run_cons_inv hchunk
    exact ⟨c,by rw [hstep]; nofun⟩

theorem delivered_cons {d' : Decoder} {log' : List PartCallback} (h : d.onReceiveData recorder log chunk=(.success,d',log')) :
    Delivered m (d.onReceiveChunks recorder log (chunk::rest)) ↔
      Delivered m (d'.onReceiveChunks recorder log' rest) := by
  simp only [Delivered,Decoder.onReceiveChunks,h,mem_cons,forall_eq_or_imp,true_and]

/-- From any point on, by induction on the chunks that are left. -/
theorem delivered_iff (chunks : List Bytes) (h : Receiving m done d log) (hall : done++chunks.flatten=m.body)
    (hne : ∀ c∈chunks,c≠[]) : Delivered m (d.onReceiveChunks recorder log chunks) ↔ ¬LateLineFeed m done chunks := by
  induction chunks generalizing done d log with
  | nil =>
    have hdone : done=m.body := by
      rw [←hall]
      simp
    have hwrote := h.wrote
    rw [hdone] at hwrote
    refine ⟨fun _ => ?_,fun _ => ⟨nofun,seen_of_wrote hwrote⟩⟩
    rintro ⟨init,last,_,_,heq,_⟩
    exact absurd heq (by simp)
  | cons chunk rest ih =>
    have hpre : done++chunk <+: m.body := by
      rw [←hall,flatten_cons,←append_assoc]
      exact prefix_append _ _
    have hchunk : chunk≠[] := hne chunk mem_cons_self
    have hrest : ∀ c∈rest,c≠[] := fun c hc => hne c (mem_cons_of_mem _ hc)
    by_cases hgo : Passes (delimiter m.boundary) d.reader.parser.core
        (chunk.drop (2-done.length)) → d.reader.parser.core.state=.end_
    · obtain ⟨d',log',hreceive,hnext⟩ := receiving_next h hpre hchunk hgo
      rw [delivered_cons hreceive,late_cons h hall hgo]
      refine ih hnext ?_ hrest
      rw [append_assoc]
      exact hall
    · -- the end is passed in this chunk
      obtain ⟨hp,hend⟩ := Classical.not_imp.mp hgo
      obtain ⟨out,hrun,_⟩ := h.wrote
      obtain ⟨d',log',core',hreceive,hwrote,hpassed,_⟩ := receive_chunk h hpre hchunk
      obtain ⟨-,hstale⟩ := hpassed hp
      rw [delivered_cons hreceive]
      rcases rest_of_passes hall hrest hrun hp hend with rfl|⟨rfl,last,rfl⟩
      · have hbody : done++chunk=m.body := by
          rw [←hall]
          simp
        rw [hbody] at hwrote
        refine ⟨fun _ => ?_,fun _ => ⟨nofun,seen_of_wrote hwrote⟩⟩
        rintro ⟨init,last,_,_,heq,_⟩
        have hlen := congrArg List.length heq
        simp at hlen
      · have hsides : done++(last++[HYPHEN,CR])=crlf++(m.stem++[HYPHEN,CR]) := by
          have hsplit : (done++(last++[HYPHEN,CR]))++[LF] = (crlf++(m.stem++[HYPHEN,CR]))++[LF] := by
            rw [flatten_cons,flatten_singleton,←append_assoc] at hall
            rw [hall,body_eq]
            simp [closing]
          exact append_cancel_right hsplit
        have hseen : seen log'=m.seen := by
          obtain ⟨out',hrun',hread'⟩ := hwrote
          rw [hsides] at hrun'
          have hprefix : m.stem++[HYPHEN] <+: (crlf++(m.stem++[HYPHEN,CR])).drop 2 :=
            ⟨[CR],by rw [append_assoc]; rfl⟩
          rw [(end_behind_stem hprefix hrun').2,readTokens_message] at hread'
          exact (congrArg Prod.snd hread').symm
        obtain ⟨c,hlive⟩ := live_of_passes hpre hrun hp
        rw [lineFeed_stale hstale hlive hend hseen]
        constructor
        · rintro hquiet ⟨init,last',core'',out',heq,hrun',hloud⟩
          have hinit : init=[] := by
            have hlen := congrArg List.length heq
            simp only [length_append,length_cons,length_nil] at hlen
            exact length_eq_zero_iff.mp (by omega)
          rw [hinit,flatten_nil,append_nil,hrun] at hrun'
          simp only [some.injEq,Prod.mk.injEq] at hrun'
          rw [←hrun'.1,hquiet] at hloud
          exact absurd hloud nofun
        · intro hnot
          by_contra hloud
          refine hnot ⟨[],last,d.reader.parser.core,out,rfl,?_,by simpa using hloud⟩
          rw [flatten_nil,append_nil]
          exact hrun

/-- A message cut into nonempty chunks is delivered, every chunk taken and the sink told the parts once, exactly
when the last line feed is not left to a state that takes notice of it; and always in the same way. -/
theorem chunks_delivered_iff (m : Message) (line : Bytes)
    (hline : CarriesBoundary line m.boundary) (chunks : List Bytes)
    (hall : chunks.flatten=m.body) (hne : ∀ c∈chunks,c≠[]) :
    Delivered m ((Decoder.afterHeader recorder [] line).1.onReceiveChunks recorder
      (Decoder.afterHeader recorder [] line).2 chunks) ↔ ¬LateLineFeed m [] chunks := by
  obtain ⟨d,hstart,hreceiving⟩ := receiving_afterHeader m hline
  rw [hstart]
  exact delivered_iff chunks hreceiving hall hne

/-- A message with boundary `b`, one header line and one byte of data. -/
def oneByteMessage : Message where
  boundary := [98]
  first := ⟨⟨78,[],[118],by decide,nofun,by decide⟩,[],[120]⟩
  others := []
  boundary_line := by decide
  data_clean := by
    intro p hp
    rw [mem_singleton.mp hp]
    decide

/-- Cut in two behind the last carriage return, the message is refused. -/
theorem line_feed_refused : [oneByteMessage.body.dropLast,[10]].flatten=oneByteMessage.body ∧
    ((Decoder.afterHeader recorder [] (boundaryPrefix++[98])).1.onReceiveChunks recorder []
      [oneByteMessage.body]).1=[.success] ∧
    ((Decoder.afterHeader recorder [] (boundaryPrefix++[98])).1.onReceiveChunks recorder []
      [oneByteMessage.body.dropLast,[10]]).1=[.success,.abort] := by
  decide +kernel

/-- Cut behind the data of its part, the message is delivered. -/
theorem chunks_delivered_two_chunks : Delivered oneByteMessage
      ((Decoder.afterHeader recorder [] (boundaryPrefix++[98])).1.onReceiveChunks recorder
        (Decoder.afterHeader recorder [] (boundaryPrefix++[98])).2
        [oneByteMessage.body.take 16,oneByteMessage.body.drop 16]) := by
  refine (chunks_delivered_iff oneByteMessage _ ⟨⟨[],[],rfl,.inl rfl,nofun⟩,by decide⟩ _ (by decide) (by decide)).mpr ?_
  rintro ⟨init,last,_,_,heq,_⟩
  have hlast : oneByteMessage.body.drop 16=[LF] := by
    simpa using congrArg List.getLast? heq
  exact absurd hlast (by decide)

end AlexaClientSDK.MimeChunking
