import AlexaClientSDK.MultipartMatches

/-!
# The scanning loop on any bytes

The accounts of the turns, summed up over a chunk.
-/

namespace AlexaClientSDK.MultipartTurns

open MimeEncoder (Bytes)
open List MultipartParser

/-- What is marked of a header line or of the data. -/
structure Flushed (s e : Scan) : Prop where
  core : e.core=s.core
  out : ∃ name value data,HeaderText name ∧ HeaderText value ∧ (data=[] ∨ ∃ bytes,data=[.partData bytes]) ∧
    e.out=s.out++name++value++data

section

variable {boundary : Bytes} {s s' : Scan}

theorem turn_inside (hne : boundary≠[]) (hopen : inPart s.core=true) (hsaved : s.saved=none)
    (hi : s.i<s.buffer.length) : (turn boundary s=.next s' → ∃ calls,Went boundary s (Scan.behind s') calls) ∧
      (turn boundary s=.retry s' → ∃ calls,Went boundary s s' calls ∧ s'.i<s'.buffer.length) ∧
      turn boundary s≠.stop s' := by
  have hopen' : s.core.state=.partDataStart ∨ s.core.state=.partData := of_decide_eq_true hopen
  rcases hopen' with hs|hs
  · have hturn : turn boundary s=processPartData boundary {s with
        core := {s.core with state := .partData}
        marks := {s.marks with partData := some s.i}} (s.buffer.getD s.i 0) := by
      unfold turn
      rw [hs]
    have hstart : Went boundary s {s with
        core := {s.core with state := .partData}
        marks := {s.marks with partData := some s.i}} [] := went_partDataStart hs hsaved rfl
    rw [hturn]
    obtain ⟨hnext,hretry⟩ := went_processPartData (s := {s with
        core := {s.core with state := .partData}
        marks := {s.marks with partData := some s.i}}) hne rfl hsaved hi (s.buffer.getD s.i 0) s'
    refine ⟨fun h => ?_,fun h => ?_,processPartData_ne_stop _ _ _⟩
    · obtain ⟨calls,hwent⟩ := hnext h
      exact ⟨_,hstart.trans hwent⟩
    · obtain ⟨calls,hwent,hlt⟩ := hretry h
      exact ⟨_,hstart.trans hwent,hlt⟩
  · have hturn : turn boundary s=processPartData boundary s (s.buffer.getD s.i 0) := by
      unfold turn
      rw [hs]
    rw [hturn]
    obtain ⟨hnext,hretry⟩ := went_processPartData hne hs hsaved hi (s.buffer.getD s.i 0) s'
    exact ⟨hnext,hretry,processPartData_ne_stop _ _ _⟩

theorem flush_calls (make : Bytes → Callback) (mark : Option ℕ) (buffer : Bytes) :
    (dataCallbackFlush make mark buffer).2=[] ∨ ∃ bytes,(dataCallbackFlush make mark buffer).2=[make bytes] := by
  cases mark with
  | none => exact .inl rfl
  | some =>
    unfold dataCallbackFlush rangeCallback
    dsimp only
    split
    · exact .inl rfl
    · exact .inr ⟨_,rfl⟩

theorem flushed_flush (hsaved : s.saved=none) : Flushed s s.flush where
  core := by
    unfold Scan.flush
    rw [hsaved]
  out := by
    have hname : HeaderText (dataCallbackFlush .headerField s.marks.headerField s.buffer).2 := by
      rcases flush_calls .headerField s.marks.headerField s.buffer with hnone|hsome
      · exact .inl hnone
      · exact .inr (.inl hsome)
    have hvalue : HeaderText (dataCallbackFlush .headerValue s.marks.headerValue s.buffer).2 := by
      rcases flush_calls .headerValue s.marks.headerValue s.buffer with hnone|hsome
      · exact .inl hnone
      · exact .inr (.inr hsome)
    refine ⟨_,_,_,hname,hvalue,flush_calls .partData s.marks.partData s.buffer,?_⟩
    unfold Scan.flush
    rw [hsaved]

variable {fuel : ℕ} {exit : Exit}

theorem went_exit (hsaved : s.saved=none) (h : loop boundary fuel s.advance=some exit) :
    ((Scan.behind s).i<(Scan.behind s).buffer.length ∧ loop boundary fuel (Scan.behind s)=some exit) ∨
      ((Scan.behind s).i=(Scan.behind s).buffer.length ∧ ∃ e,exit=.finished e ∧ Flushed (Scan.behind s) e) := by
  unfold Scan.advance at h
  dsimp only at h
  split at h
  · next hend =>
    refine .inr ⟨Nat.min_eq_right hend,?_⟩
    have hflush : Flushed {s with i := s.i+1} ({s with i := s.i+1} : Scan).flush := flushed_flush hsaved
    have hover : ¬({s with i := s.i+1} : Scan).flush.i<({s with i := s.i+1} : Scan).flush.buffer.length := by
      rw [hsaved]
      exact Nat.not_lt.mpr hend
    cases fuel with
    | zero => cases h
    | succ =>
      rw [loop,if_neg hover] at h
      cases h
      exact ⟨_,rfl,hflush.core,hflush.out⟩
  · next hlt =>
    refine .inl ?_
    rw [behind_eq (by omega)]
    exact ⟨by dsimp only; omega,h⟩

/-- How a step of the loop ends. -/
inductive LoopStep (boundary : Bytes) (fuel : ℕ) (s : Scan) (exit : Exit) : Prop
  | failed (r : Scan) (reason : String) (h : exit=.failed r reason)
  | stopped (hopen : inPart s.core=false) (h : exit=.stopped s)
  | went (s' : Scan) (calls : List Callback) (hwent : Went boundary s s' calls)
    (hfree : s.buffer.getD s.i 0=CR → inPart s.core=false → s.core.state≠.headerField → ∀ headed,Headed s.core headed →
        cost boundary headed calls+standing s' (headedAfter headed calls)=0 ∧ s'.i=s.i+1)
    (hexit : (s'.i<s'.buffer.length ∧ loop boundary fuel s'=some exit) ∨
      (s'.i=s'.buffer.length ∧ ∃ e,exit=.finished e ∧ Flushed s' e))

theorem Went.refl (hsaved : s.saved=none) (hdoubling : Doubling s.core) : Went boundary s s [] where
  buffer := rfl
  saved := hsaved
  out := (append_nil _).symm
  brackets := rfl
  spent := fun headed => Nat.le_of_eq (by rw [show cost boundary headed []=0 from rfl,Nat.zero_add]; rfl)
  doubling := hdoubling
  headed := fun _ h => h
  names := fun h => h

/-- The rest of the chunk is not read, or all of it was. -/
def Ends (s : Scan) (exit : Exit) : Prop :=
  exit=.stopped s ∨ s.i=s.buffer.length ∧ ∃ e,exit=.finished e ∧ Flushed s e

section

variable (hboundary : ∃ rest,boundary=CR::LF::rest)
include hboundary

theorem turn_outside (hopen : inPart s.core=false) (hdoubling : Doubling s.core) :
    HeaderOutcome (s.buffer.getD s.i 0) s.core.state s.core.index s (turn boundary s) ∨ turn boundary s=.stop s := by
  unfold turn
  cases hs : s.core.state with
  | error | partEnd | end_ => exact .inr rfl
  | start => exact .inl ((outcome_startBoundary (.inl rfl) rfl).of_same rfl rfl rfl rfl)
  | startBoundary => exact .inl (outcome_startBoundary (.inr rfl) hs)
  | headerStart => exact .inl outcome_start
  | duplicateBoundaryStart => exact .inl (outcome_duplicate hboundary hs (.inl rfl) hdoubling)
  | crlfDuplicateBoundaryStart => exact .inl (outcome_duplicate hboundary hs (.inr rfl) hdoubling)
  | headerFieldStart => exact .inl (outcome_fieldStart (.inr rfl) fun _ => by decide)
  | headerField => exact .inl (outcome_field (.inr (.inr rfl)) (fun _ => by decide) rfl hs)
  | headerValueStart => exact .inl (outcome_valueStart hs)
  | headerValue => exact .inl (outcome_value (.inr rfl) hs)
  | headerValueAlmostDone => exact .inl outcome_valueAlmostDone
  | headersAlmostDone => exact .inl outcome_headersAlmostDone
  | partDataStart | partData =>
    rw [inPart,hs] at hopen
    cases hopen

section

variable (hsaved : s.saved=none) (hdoubling : Doubling s.core) (hi : s.i<s.buffer.length)
include hsaved hdoubling hi

theorem loop_step (h : loop boundary (fuel+1) s=some exit) : LoopStep boundary fuel s exit := by
  have hne : boundary≠[] := by
    obtain ⟨rest,rfl⟩ := hboundary
    exact cons_ne_nil _ _
  rw [loop,if_pos hi] at h
  cases hopen : inPart s.core with
  | false =>
    rcases turn_outside hboundary hopen hdoubling with houtcome|hstop
    · generalize turn boundary s=outcome at h houtcome
      cases houtcome with
      | fails =>
        cases h
        exact .failed _ _ rfl
      | replays hreplays =>
        dsimp only at h
        rcases loop_replays hreplays fuel with hnone|⟨r,reason,hfailed⟩
        · rw [hnone] at h
          cases h
        · rw [hfailed] at h
          cases h
          exact .failed _ _ rfl
      | @turned s' calls hturned =>
        have hplace : s'.i<s'.buffer.length := by
          rw [hturned.place,hturned.buffer]
          exact hi
        have hbehind := behind_eq hplace
        have hwent : Went boundary s (Scan.behind s') calls := by
          rw [hbehind]
          exact hturned.went hsaved
        refine .went _ calls hwent ?_ (went_exit (hturned.saved.trans hsaved) h)
        intro hc _ hname headed hheaded
        have hcore := hturned.core
        rw [hc] at hcore
        have hnone : waiting (Scan.behind s')=0 := waiting_outside hcore.outside.2.2
        refine ⟨?_,by rw [hbehind,←hturned.place]⟩
        rw [standing,hnone]
        exact hcore.lineEnd_free hname hheaded
    · rw [hstop] at h
      cases h
      exact .stopped hopen rfl
  | true =>
    have hinside : ∀ s',(turn boundary s=.next s' → ∃ calls,Went boundary s (Scan.behind s') calls) ∧
        (turn boundary s=.retry s' → ∃ calls,Went boundary s s' calls ∧ s'.i<s'.buffer.length) ∧
        turn boundary s≠.stop s' := fun s' => turn_inside hne hopen hsaved hi
    have hclosed : ∀ {P : Prop},inPart s.core=false → P := fun hfalse => by
      rw [hopen] at hfalse
      cases hfalse
    cases hturn : turn boundary s with
    | next s' =>
      rw [hturn] at h
      obtain ⟨calls,hwent⟩ := (hinside s').1 hturn
      exact .went _ calls hwent (fun _ hfalse => hclosed hfalse) (went_exit (s := s') hwent.saved h)
    | retry s' =>
      rw [hturn] at h
      obtain ⟨calls,hwent,hlt⟩ := (hinside s').2.1 hturn
      exact .went s' calls hwent (fun _ hfalse => hclosed hfalse) (.inl ⟨hlt,h⟩)
    | fail =>
      rw [hturn] at h
      cases h
      exact .failed _ _ rfl
    | stop s' => exact absurd hturn (hinside s').2.2

theorem loop_went (h : loop boundary fuel s=some exit) : (∃ r reason,exit=.failed r reason) ∨
      ∃ s' calls,Went boundary s s' calls ∧ s'.i ≤ s'.buffer.length ∧ Ends s' exit := by
  induction fuel generalizing s with
  | zero => cases h
  | succ fuel ih =>
    cases loop_step hboundary hsaved hdoubling hi h with
    | failed r reason h => exact .inl ⟨r,reason,h⟩
    | stopped _ h => exact .inr ⟨s,[],.refl hsaved hdoubling,Nat.le_of_lt hi,.inl h⟩
    | went s' calls hwent _ hexit =>
      rcases hexit with ⟨hlt,hrest⟩|⟨hend,hflushed⟩
      · rcases ih hwent.saved hwent.doubling hlt hrest with hfailed|⟨s'',calls',hwent',hplace,hends⟩
        · exact .inl hfailed
        · exact .inr ⟨s'',calls++calls',hwent.trans hwent',hplace,hends⟩
      · exact .inr ⟨s',calls,hwent,Nat.le_of_eq hend,.inr ⟨hend,hflushed⟩⟩

/-- A carriage return that ends no header name pays for nothing. -/
theorem loop_free
    (hc : s.buffer.getD s.i 0=CR) (hopen : inPart s.core=false) (hname : s.core.state≠.headerField) {headed : Bool}
    (hheaded : Headed s.core headed) (h : loop boundary fuel s=some exit) :
    (∃ r reason,exit=.failed r reason) ∨ ∃ s' calls,Went boundary s s' calls ∧ s'.i ≤ s'.buffer.length ∧
      Ends s' exit ∧ cost boundary headed calls+s.i+1 ≤ s.buffer.length := by
  cases fuel with
  | zero => cases h
  | succ =>
    cases loop_step hboundary hsaved hdoubling hi h with
    | failed r reason h => exact .inl ⟨r,reason,h⟩
    | stopped _ h =>
      refine .inr ⟨s,[],.refl hsaved hdoubling,Nat.le_of_lt hi,.inl h,?_⟩
      change 0+s.i+1≤_
      omega
    | went s' calls hwent hfree hexit =>
      obtain ⟨hzero,hplace'⟩ := hfree hc hopen hname headed hheaded
      rcases hexit with ⟨hlt,hrest⟩|⟨hend,hflushed⟩
      · rcases loop_went hboundary hwent.saved hwent.doubling hlt hrest with
          hfailed | ⟨s'',calls',hwent',hplace,hends⟩
        · exact .inl hfailed
        · refine .inr ⟨s'',calls++calls',hwent.trans hwent',hplace,hends,?_⟩
          have hspent := hwent'.spent (headedAfter headed calls)
          rw [hwent'.buffer,hwent.buffer] at hplace
          rw [cost_append]
          omega
      · refine .inr ⟨s',calls,hwent,Nat.le_of_eq hend,.inr ⟨hend,hflushed⟩,?_⟩
        rw [hwent.buffer] at hend
        omega

end

end

end

section

variable {p : Parser} {buffer : Bytes}

/-- What some callbacks have in common with those of the scan they came from. -/
inductive Handed (calls : List Callback) : List Callback → Prop
  | same : Handed calls calls
  | more {name value data : List Callback} (hname : HeaderText name) (hvalue : HeaderText value)
    (hdata : data=[] ∨ ∃ bytes,data=[.partData bytes]) : Handed calls (calls++name++value++data)

theorem Handed.accounts {calls calls' : List Callback} (h : Handed calls calls') {opened opened' : Bool}
    (hopen : openAfter opened calls=some opened') :
    openAfter opened calls'=some opened' ∧ ∀ headed,headedAfter headed calls'=headedAfter headed calls := by
  have htext : ∀ {text : List Callback},HeaderText text → ∀ headed,headedAfter headed text=headed := by
    intro text htext headed
    rcases htext with rfl|⟨bytes,rfl⟩|⟨bytes,rfl⟩
    · rfl
    · rfl
    · rfl
  cases h with
  | same => exact ⟨hopen,fun _ => rfl⟩
  | more hname hvalue hdata =>
    constructor
    · rw [append_assoc,append_assoc,openAfter_append hopen,openAfter_append (hname.openAfter_eq _),
        openAfter_append (hvalue.openAfter_eq _)]
      rcases hdata with rfl|⟨bytes,rfl⟩
      · rfl
      · rfl
    · intro headed
      rw [headedAfter_append,headedAfter_append,headedAfter_append,htext hname,htext hvalue]
      rcases hdata with rfl|⟨bytes,rfl⟩
      · rfl
      · rfl

/-- What a chunk that the parser takes has done: a scan, and what it handed out. -/
structure Fed (p : Parser) (buffer : Bytes) (s : Scan) (calls : List Callback) : Prop where
  went : Went p.boundary (p.scan buffer) s calls
  handed : Handed calls (p.feed buffer).2.2
  boundary : (p.feed buffer).1.boundary=p.boundary
  /-- Stored unless the end of the body was passed in the chunk. -/
  core : (p.feed buffer).1.core=p.core ∨ (p.feed buffer).1.core=s.core ∧ s.i=buffer.length

theorem fed_of_loop (hstate : p.core.state≠.error) (hbuffer : buffer≠[]) (hdoubling : Doubling p.core)
    (hok : (p.feed buffer).1.hasError=false) {P : List Callback → Prop} (hnil : P [])
    (hloop : ∀ {fuel exit},loop p.boundary fuel (p.scan buffer)=some exit → (∃ r reason,exit=.failed r reason) ∨
      ∃ s calls,Went p.boundary (p.scan buffer) s calls ∧ s.i ≤ s.buffer.length ∧ Ends s exit ∧ P calls) :
    ∃ s calls,Fed p buffer s calls ∧ P calls := by
  have hfeed : p.feed buffer=p.leave (loop p.boundary (2*buffer.length+2) (p.scan buffer)) := by
    unfold Parser.feed
    rw [if_neg (not_or.mpr ⟨hstate,hbuffer⟩)]
  cases hresult : loop p.boundary (2*buffer.length+2) (p.scan buffer) with
  | none =>
    rw [hresult] at hfeed
    have hempty : (p.feed buffer).2.2=[] := by rw [hfeed]; rfl
    exact ⟨p.scan buffer,[],⟨.refl rfl hdoubling,hempty ▸ .same,by rw [hfeed]; rfl,.inl (by rw [hfeed]; rfl)⟩,hnil⟩
  | some =>
    rw [hresult] at hfeed
    rcases hloop hresult with ⟨r,reason,rfl⟩|⟨s,calls,hwent,_,hends,hP⟩
    · rw [hfeed] at hok
      cases hok
    · have hout : s.out=calls := hwent.out
      refine ⟨s,calls,?_,hP⟩
      rcases hends with rfl|⟨hend,e,rfl,hflushed⟩
      · have hcalls : (p.feed buffer).2.2=calls := by
          rw [hfeed]
          exact hout
        exact ⟨hwent,hcalls ▸ .same,by rw [hfeed]; rfl,.inl (by rw [hfeed]; rfl)⟩
      · obtain ⟨name,value,data,hname,hvalue,hdata,heq⟩ := hflushed.out
        have hcalls : (p.feed buffer).2.2=calls++name++value++data := by
          rw [hfeed,←hout]
          exact heq
        have hplace : s.i=buffer.length := by
          rw [hend,hwent.buffer]
          rfl
        exact ⟨hwent,hcalls ▸ .more hname hvalue hdata,by rw [hfeed]; rfl,
          .inr ⟨by rw [hfeed]; exact hflushed.core,hplace⟩⟩

section

variable (hboundary : ∃ rest,p.boundary=CR::LF::rest) (hstate : p.core.state≠.error)
include hboundary hstate

/-- A chunk that the parser takes keeps the accounts. -/
theorem feed_fed (hbuffer : buffer≠[]) (hdoubling : Doubling p.core) (hok : (p.feed buffer).1.hasError=false) :
    ∃ s calls,Fed p buffer s calls := by
  obtain ⟨s,calls,hfed,_⟩ := fed_of_loop hstate hbuffer hdoubling hok (P := fun _ => True) trivial fun h => by
    rcases loop_went hboundary rfl hdoubling (length_pos_iff.mpr hbuffer) h with
      hfailed | ⟨s,calls,hwent,hplace,hends⟩
    · exact .inl hfailed
    · exact .inr ⟨s,calls,hwent,hplace,hends,trivial⟩
  exact ⟨s,calls,hfed⟩

/-- A carriage return in front pays for less than the bytes. -/
theorem feed_free
    (hdoubling : Doubling p.core) (hok : (p.feed (CR::buffer)).1.hasError=false) (hopen : inPart p.core=false)
    (hname : p.core.state≠.headerField) {headed : Bool} (hheaded : Headed p.core headed) :
    ∃ s calls,Fed p (CR::buffer) s calls ∧ cost p.boundary headed calls≤buffer.length := by
  refine fed_of_loop hstate (cons_ne_nil _ _) hdoubling hok (Nat.zero_le _) fun h => ?_
  rcases loop_free hboundary rfl hdoubling (Nat.succ_pos _) rfl hopen hname hheaded h with
    hfailed | ⟨s,calls,hwent,hplace,hends,hcost⟩
  · exact .inl hfailed
  · refine .inr ⟨s,calls,hwent,hplace,hends,?_⟩
    change cost p.boundary headed calls+0+1≤buffer.length+1 at hcost
    omega

end

end

end AlexaClientSDK.MultipartTurns
