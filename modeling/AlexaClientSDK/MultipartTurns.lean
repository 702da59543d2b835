import AlexaClientSDK.MultipartParser

/-!
# What the parser makes of any bytes

Turn by turn, for any input: in which order begins and ends of parts come, and how many bytes what was reported has
cost. A byte is data once at most, a delimiter costs its bytes and its line end, and where no header line came before,
the end of the headers costs at least two bytes.
-/

namespace AlexaClientSDK.MultipartTurns

open MimeEncoder (Bytes)
open Nat List MultipartParser

/-- A part has begun and has not ended. -/
def inPart (core : Core) : Bool := decide (core.state=.partDataStart ∨ core.state=.partData)

/-- Whether the part has a header line behind a callback. -/
def headedBy (headed : Bool) : Callback → Bool
  | .partBegin => false
  | .headerField _ => headed
  | .headerValue _ => headed
  | .headerEnd => true
  | .headersEnd => false
  | .partData _ => headed
  | .partEnd => headed
  | .end_ => headed

/-- Whether the part has a header line behind some callbacks. -/
def headedAfter (headed : Bool) (calls : List Callback) : Bool := calls.foldl headedBy headed

/-- Two bytes for a begin without headers, the length of data, the delimiter and line end for an end. -/
def costOf (boundary : Bytes) (headed : Bool) : Callback → ℕ
  | .partBegin => 0
  | .headerField _ => 0
  | .headerValue _ => 0
  | .headerEnd => 0
  | .headersEnd => if headed then 0 else 2
  | .partData bytes => bytes.length
  | .partEnd => boundary.length+2
  | .end_ => 0

def cost (boundary : Bytes) : Bool → List Callback → ℕ
  | _,[] => 0
  | headed,call::calls => costOf boundary headed call+cost boundary (headedBy headed call) calls

/-- Whether a callback reports the beginning of a part, or its end. -/
def openBy (opened : Bool) : Callback → Option Bool
  | .partBegin => some opened
  | .headerField _ => some opened
  | .headerValue _ => some opened
  | .headerEnd => some opened
  | .headersEnd => if opened then none else some true
  | .partData _ => some opened
  | .partEnd => if opened then some false else none
  | .end_ => some opened

/-- Whether a part is open behind begins and ends. -/
def openAfter : Bool → List Callback → Option Bool
  | opened,[] => some opened
  | opened,call::calls => (openBy opened call).bind fun opened => openAfter opened calls

section

variable {boundary : Bytes}

theorem cost_append (headed : Bool) (calls calls' : List Callback) : cost boundary headed (calls++calls') =
      cost boundary headed calls+cost boundary (headedAfter headed calls) calls' := by
  induction calls generalizing headed with
  | nil => rw [cost,Nat.zero_add]; rfl
  | cons call calls ih =>
    rw [cons_append,cost,cost,ih,Nat.add_assoc]
    rfl

theorem headedAfter_append (headed : Bool) (calls calls' : List Callback) :
    headedAfter headed (calls++calls')=headedAfter (headedAfter headed calls) calls' :=
  foldl_append

variable {calls : List Callback}

theorem openAfter_append {opened opened' : Bool} (h : openAfter opened calls=some opened') (calls' : List Callback) :
    openAfter opened (calls++calls')=openAfter opened' calls' := by
  induction calls generalizing opened with
  | nil =>
    cases h
    rfl
  | cons call calls ih =>
    rw [cons_append,openAfter]
    rw [openAfter] at h
    cases hcall : openBy opened call with
    | none =>
      rw [hcall] at h
      cases h
    | some =>
      rw [hcall] at h
      exact ih h

/-- Calls that report text of a header line. -/
def HeaderText (calls : List Callback) : Prop :=
  calls=[] ∨ (∃ bytes,calls=[.headerField bytes]) ∨ ∃ bytes,calls=[.headerValue bytes]

theorem HeaderText.free (h : HeaderText calls) (headed : Bool) : cost boundary headed calls=0 := by
  rcases h with rfl|⟨bytes,rfl⟩|⟨bytes,rfl⟩
  · rfl
  · rfl
  · rfl

/-- Text of a header line is neither a begin nor an end. -/
theorem HeaderText.openAfter_eq (h : HeaderText calls) (opened : Bool) : openAfter opened calls=some opened := by
  rcases h with rfl|⟨bytes,rfl⟩|⟨bytes,rfl⟩
  · rfl
  · rfl
  · rfl

end

theorem headerText_field (mark : Option ℕ) (buffer : Bytes) (i : ℕ) :
    HeaderText (dataCallbackClear .headerField mark buffer i false) := by
  cases mark with
  | none => exact .inl rfl
  | some =>
    unfold dataCallbackClear rangeCallback
    dsimp only
    split
    · exact .inl rfl
    · exact .inr (.inl ⟨_,rfl⟩)

theorem headerText_value (mark : Option ℕ) (buffer : Bytes) (i : ℕ) :
    HeaderText (dataCallbackClear .headerValue mark buffer i true) := by
  cases mark with
  | none => exact .inl rfl
  | some =>
    unfold dataCallbackClear rangeCallback
    dsimp only
    split
    · exact .inl rfl
    · exact .inr (.inr ⟨_,rfl⟩)

/-- The bytes that were spent on a begin or an end to come. -/
def progress (core : Core) (headed : Bool) : ℕ :=
  match core.state with
  | .headerField => core.index
  | .headersAlmostDone => if headed then core.index else core.index+1
  | .partDataStart => core.index
  | .partData => core.index
  | _ => 0

/-- The bytes of data that are marked. -/
def waiting (s : Scan) : ℕ :=
  if s.core.state=.partData ∧ s.core.index=0 then s.marks.partData.elim 0 (s.i - ·) else 0

/-- The bytes that were read and whose callback is to come. -/
def standing (s : Scan) (headed : Bool) : ℕ := progress s.core headed+waiting s

/-- The search for a repeated boundary has read its first byte. -/
def Doubling (core : Core) : Prop :=
  core.state=.duplicateBoundaryStart ∨ core.state=.crlfDuplicateBoundaryStart → 0<core.index

/-- Behind a header line the part has one. -/
def Headed (core : Core) (headed : Bool) : Prop :=
  core.state=.headerFieldStart ∨ core.state=.headerValueAlmostDone → headed=true

/-- A header name does not end with a line feed. -/
def NameEnds (s : Scan) : Prop :=
  s.core.state=.headerField → 0<s.i ∧ s.buffer.getD (s.i-1) 0≠LF

/-- A scan came from one place to another with some callbacks. -/
structure Went (boundary : Bytes) (s s' : Scan) (calls : List Callback) : Prop where
  buffer : s'.buffer=s.buffer
  saved : s'.saved=none
  out : s'.out=s.out++calls
  brackets : openAfter (inPart s.core) calls=some (inPart s'.core)
  /-- Reported and to come, it has cost as many bytes as were read. -/
  spent : ∀ headed,cost boundary headed calls+standing s' (headedAfter headed calls)+s.i ≤ standing s headed+s'.i
  /-- The search for a repeated boundary has begun if it is on. -/
  doubling : Doubling s'.core
  headed : ∀ headed,Headed s.core headed → Headed s'.core (headedAfter headed calls)
  /-- Header names end with other bytes than a line feed. -/
  names : NameEnds s → NameEnds s'

section

variable {boundary : Bytes} {s s' : Scan} {calls : List Callback}

theorem Went.trans {s'' : Scan} {calls' : List Callback} (h : Went boundary s s' calls)
    (h' : Went boundary s' s'' calls') : Went boundary s s'' (calls++calls') where
  buffer := h'.buffer.trans h.buffer
  saved := h'.saved
  out := by rw [h'.out,h.out,append_assoc]
  brackets := by rw [openAfter_append h.brackets,h'.brackets]
  spent := by
    intro headed
    have hfirst := h.spent headed
    have hsecond := h'.spent (headedAfter headed calls)
    rw [cost_append,headedAfter_append]
    omega
  doubling := h'.doubling
  headed := by
    intro headed hheaded
    rw [headedAfter_append]
    exact h'.headed _ (h.headed headed hheaded)
  names := fun hnames => h'.names (h.names hnames)

end

/-- The bytes of the header name that is being read. -/
def nameIndex (state : State) (index : ℕ) : ℕ := if state=.headerField then index else 0

/-- A byte of a header name, or of the line in its place, is read. -/
def AtName (state : State) : Prop := state=.headerStart ∨ state=.headerFieldStart ∨ state=.headerField

/-- A byte of a repeated boundary is read. -/
def AtRepeat (state : State) : Prop := state=.duplicateBoundaryStart ∨ state=.crlfDuplicateBoundaryStart

/-- One byte outside the data: the new state and index, and the callbacks. -/
inductive HeaderTurn (c : UInt8) (state : State) (index : ℕ) : State → ℕ → List Callback → Prop
  | boundary (hs : state=.start ∨ state=.startBoundary) (index' : ℕ) : HeaderTurn c state index .startBoundary index' []
  | first (hs : state=.start ∨ state=.startBoundary) (hc : c=LF) : HeaderTurn c state index .headerStart 0 [.partBegin]
  | repeated (hs : state=.headerStart ∨ AtRepeat state) {state' : State} (hs' : AtRepeat state') {index' : ℕ}
    (hindex : 0 < index') : HeaderTurn c state index state' index' []
  | again (hs : AtRepeat state) (index' : ℕ) : HeaderTurn c state index .headerStart index' []
  | name (hs : AtName state) (hcr : c≠CR) (hlf : c≠LF) :
    HeaderTurn c state index .headerField (nameIndex state index+1) []
  | colon (hs : AtName state) (hcr : c≠CR) (index' : ℕ) {text : List Callback} (htext : HeaderText text) :
    HeaderTurn c state index .headerValueStart index' text
  | blank (hs : AtName state) (hnot : state≠.headerStart) :
    HeaderTurn c state index .headersAlmostDone (nameIndex state index) []
  | value (hs : state=.headerValueStart ∨ state=.headerValue) {state' : State}
    (hs' : state'=.headerValueStart ∨ state'=.headerValue) (index' : ℕ) : HeaderTurn c state index state' index' []
  | valueEnd (hs : state=.headerValueStart ∨ state=.headerValue) (index' : ℕ) {text : List Callback}
    (htext : HeaderText text) : HeaderTurn c state index .headerValueAlmostDone index' (text++[.headerEnd])
  | lineEnd (hs : state=.headerValueAlmostDone) (hc : c=LF) (index' : ℕ) :
    HeaderTurn c state index .headerFieldStart index' []
  | headersEnd (hs : state=.headersAlmostDone) (hc : c=LF) : HeaderTurn c state index .partDataStart index [.headersEnd]

/-- A turn outside the data, as a turn of the scan. -/
structure Turned (c : UInt8) (state : State) (index : ℕ) (s s' : Scan) (calls : List Callback) : Prop where
  core : HeaderTurn c state index s'.core.state s'.core.index calls
  buffer : s'.buffer=s.buffer
  saved : s'.saved=s.saved
  place : s'.i=s.i
  out : s'.out=s.out++calls

/-- The byte behind its first is the line feed of the boundary. -/
structure Replays (s : Scan) : Prop where
  state : s.core.state=.headerField
  place : s.i=0
  buffer : ∃ first last bytes,s.buffer=first::LF::last::bytes

/-- How a turn outside the data ends. -/
inductive HeaderOutcome (c : UInt8) (state : State) (index : ℕ) (s : Scan) : Outcome → Prop
  | turned {s' : Scan} {calls : List Callback} (h : Turned c state index s s' calls) :
    HeaderOutcome c state index s (.next s')
  | replays {s' : Scan} (h : Replays s') : HeaderOutcome c state index s (.next s')
  | fails (s' : Scan) (reason : String) : HeaderOutcome c state index s (.fail s' reason)

section

variable {boundary : Bytes} {s s' : Scan} {c : UInt8} {state : State} {index : ℕ}

theorem HeaderOutcome.silent (hcore : HeaderTurn c state index s'.core.state s'.core.index [])
    (hbuffer : s'.buffer=s.buffer) (hsaved : s'.saved=s.saved) (hplace : s'.i=s.i) (hout : s'.out=s.out) :
    HeaderOutcome c state index s (.next s') :=
  .turned ⟨hcore,hbuffer,hsaved,hplace,by rw [hout,append_nil]⟩

/-- Marks, state and index before the turn do not matter. -/
theorem HeaderOutcome.of_same {e : Scan} {outcome : Outcome} (h : HeaderOutcome c state index e outcome)
    (hbuffer : e.buffer=s.buffer) (hsaved : e.saved=s.saved) (hplace : e.i=s.i) (hout : e.out=s.out) :
    HeaderOutcome c state index s outcome := by
  cases h with
  | turned h =>
    exact .turned ⟨h.core,h.buffer.trans hbuffer,h.saved.trans hsaved,h.place.trans hplace,by rw [h.out,hout]⟩
  | replays h => exact .replays h
  | fails s' reason => exact .fails s' reason

theorem outcome_startBoundary (hs : state=.start ∨ state=.startBoundary) (h0 : s.core.state=.startBoundary) :
    HeaderOutcome c state index s (startBoundaryTurn boundary s c) := by
  unfold startBoundaryTurn
  have hgoes : ∀ k,HeaderTurn c state index s.core.state k [] := fun k => h0 ▸ .boundary hs k
  split
  · split
    · exact .fails _ _
    · exact .silent (hgoes _) rfl rfl rfl rfl
  · split
    · split
      · exact .fails _ _
      · next hc => exact .turned ⟨.first hs (not_not.mp hc),rfl,rfl,rfl,rfl⟩
    · split
      · exact .fails _ _
      · exact .silent (hgoes _) rfl rfl rfl rfl

theorem outcome_field (hs : AtName state) (hnot : c=CR → state≠.headerStart)
    (hindex : s.core.index=nameIndex state index) (h0 : s.core.state=.headerField) :
    HeaderOutcome c state index s (headerFieldTurn s c) := by
  unfold headerFieldTurn
  split
  · next hc =>
    have hblank : HeaderTurn c state index .headersAlmostDone s.core.index [] := hindex ▸ .blank hs (hnot hc)
    exact .silent hblank rfl rfl rfl rfl
  · next hcr =>
    have hname : c≠LF → HeaderTurn c state index s.core.state (s.core.index+1) [] := fun hlf => by
      rw [h0,hindex]
      exact .name hs hcr hlf
    dsimp only
    split
    · next hc =>
      have hlf : c≠LF := by
        rw [hc]
        decide
      exact .silent (hname hlf) rfl rfl rfl rfl
    · split
      · split
        · exact .fails _ _
        · exact .turned ⟨.colon hs hcr _ (headerText_field _ _ _),rfl,rfl,rfl,rfl⟩
      · split
        · exact .fails _ _
        · next hletter =>
          have hlf : c≠LF := by
            rintro rfl
            exact hletter (by decide)
          exact .silent (hname hlf) rfl rfl rfl rfl

theorem outcome_fieldStart (hs : state=.headerStart ∨ state=.headerFieldStart)
    (hnot : c=CR → state≠.headerStart) : HeaderOutcome c state index s (headerFieldStartTurn s c) := by
  have hat : AtName state := by
    rcases hs with hs|hs
    · exact .inl hs
    · exact .inr (.inl hs)
  have hindex : nameIndex state index=0 := by
    rcases hs with hs|hs
    · rw [nameIndex,hs,if_neg (by decide)]
    · rw [nameIndex,hs,if_neg (by decide)]
  exact (outcome_field hat hnot hindex.symm rfl).of_same rfl rfl rfl rfl

theorem outcome_start : HeaderOutcome c .headerStart index s (headerStartTurn s c) := by
  unfold headerStartTurn
  split
  · exact .silent (.repeated (.inl rfl) (.inl rfl) Nat.one_pos) rfl rfl rfl rfl
  · split
    · exact .silent (.repeated (.inl rfl) (.inr rfl) Nat.one_pos) rfl rfl rfl rfl
    · next hcr => exact (outcome_fieldStart (.inl rfl) fun hc => absurd hc hcr).of_same rfl rfl rfl rfl

theorem outcome_value (hs : state=.headerValueStart ∨ state=.headerValue) (h0 : s.core.state=.headerValue) :
    HeaderOutcome c state index s (headerValueTurn s c) := by
  unfold headerValueTurn
  split
  · exact .turned ⟨.valueEnd hs _ (headerText_value _ _ _),rfl,rfl,rfl,by rw [append_assoc]⟩
  · have hvalue : HeaderTurn c state index s.core.state s.core.index [] := h0 ▸ .value hs (.inr rfl) _
    exact .silent hvalue rfl rfl rfl rfl

theorem outcome_valueStart (h0 : s.core.state=.headerValueStart) :
    HeaderOutcome c .headerValueStart index s (headerValueStartTurn s c) := by
  unfold headerValueStartTurn
  split
  · have hspace : HeaderTurn c .headerValueStart index s.core.state s.core.index [] := by
      rw [h0]
      exact .value (.inl rfl) (.inl rfl) _
    exact .silent hspace rfl rfl rfl rfl
  · exact (outcome_value (.inl rfl) rfl).of_same rfl rfl rfl rfl

theorem outcome_valueAlmostDone : HeaderOutcome c .headerValueAlmostDone index s (headerValueAlmostDoneTurn s c) := by
  unfold headerValueAlmostDoneTurn
  split
  · exact .fails _ _
  · next hc => exact .silent (.lineEnd rfl (not_not.mp hc) _) rfl rfl rfl rfl

theorem outcome_headersAlmostDone : HeaderOutcome c .headersAlmostDone s.core.index s (headersAlmostDoneTurn s c) := by
  unfold headersAlmostDoneTurn
  split
  · exact .fails _ _
  · next hc => exact .turned ⟨.headersEnd rfl (not_not.mp hc),rfl,rfl,rfl,rfl⟩

theorem outcome_duplicate (hboundary : ∃ rest,boundary=CR::LF::rest) (hs : s.core.state=state)
    (hat : AtRepeat state) (hdoubling : Doubling s.core) :
    HeaderOutcome c state s.core.index s (duplicateBoundaryTurn boundary s c) := by
  have hat' : AtRepeat s.core.state := hs ▸ hat
  have hpos := hdoubling hat'
  obtain ⟨rest,rfl⟩ := hboundary
  unfold duplicateBoundaryTurn
  dsimp only
  generalize hk : s.core.index+(if s.core.state=.duplicateBoundaryStart then 2 else 0)=k
  split
  · -- the replay buffer begins with the boundary's line end
    obtain ⟨j,rfl⟩ : ∃ j,k=j+1 := ⟨k-1,by omega⟩
    refine .replays ⟨rfl,rfl,CR,?_⟩
    cases htail : (rest++MimeEncoder.crlf).take j++[c] with
    | nil => exact absurd htail (append_ne_nil_of_right_ne_nil _ (cons_ne_nil _ _))
    | cons last bytes =>
      refine ⟨last,bytes,?_⟩
      rw [cons_append,cons_append,take_succ_cons,take_succ_cons,cons_append,cons_append,htail]
  · split
    · exact .silent (.repeated (.inr hat) hat' (succ_pos _)) rfl rfl rfl rfl
    · exact .silent (.again hat _) rfl rfl rfl rfl

theorem loop_replays (hreplays : Replays s) (fuel : ℕ) :
    loop boundary fuel s.advance=none ∨ ∃ r reason,loop boundary fuel s.advance=some (.failed r reason) := by
  obtain ⟨first,last,bytes,hbuffer⟩ := hreplays.buffer
  have hadvance : s.advance={s with i := 1} := by
    unfold Scan.advance
    have hshort : ¬s.buffer.length≤0+1 := by
      rw [hbuffer,length_cons,length_cons]
      omega
    rw [hreplays.place,if_neg hshort]
  rw [hadvance]
  cases fuel with
  | zero => exact .inl rfl
  | succ =>
    refine .inr ?_
    have hlt : ({s with i := 1} : Scan).i<({s with i := 1} : Scan).buffer.length := by
      dsimp only
      rw [hbuffer,length_cons,length_cons]
      omega
    have hbyte : ({s with i := 1} : Scan).buffer.getD ({s with i := 1} : Scan).i 0=LF := by
      rw [hbuffer]
      rfl
    rw [loop,if_pos hlt]
    have hturn : turn boundary {s with i := 1}=headerFieldTurn {s with i := 1} LF := by
      unfold turn
      rw [hbyte]
      rw [hreplays.state]
    have hnot : ¬LF=CR := by decide
    have hhyphen : ¬LF=HYPHEN := by decide
    have hcolon : ¬LF=COLON := by decide
    have hletter : LF ||| 0x20<97 ∨ 122<LF ||| 0x20 := by decide
    rw [hturn,headerFieldTurn,if_neg hnot]
    rw [if_neg hhyphen,if_neg hcolon,if_pos hletter]
    exact ⟨_,_,rfl⟩

end

section

variable {boundary : Bytes} {c : UInt8} {core core' : Core} {calls : List Callback} {state state' : State}

theorem HeaderTurn.outside {index index' : ℕ} (h : HeaderTurn c state index state' index' calls) :
    state≠.partDataStart ∧ state≠.partData ∧ state'≠.partData := by
  cases h with
  | boundary hs | first hs | again hs | valueEnd hs => rcases hs with rfl|rfl <;> decide
  | repeated hs hs' => rcases hs with rfl|rfl|rfl <;> rcases hs' with rfl|rfl <;> decide
  | name hs | colon hs | blank hs => rcases hs with rfl|rfl|rfl <;> decide
  | value hs hs' => rcases hs with rfl|rfl <;> rcases hs' with rfl|rfl <;> decide
  | lineEnd hs | headersEnd hs => rw [hs]; decide

theorem HeaderTurn.name_byte {index index' : ℕ}
    (h : HeaderTurn c state index state' index' calls) (hname : state'=.headerField) : c≠LF := by
  cases h with
  | name _ _ hlf => exact hlf
  | boundary => cases hname
  | first => cases hname
  | repeated hs hs' | value hs hs' => rcases hs' with rfl|rfl <;> cases hname
  | again => cases hname
  | colon => cases hname
  | blank => cases hname
  | valueEnd => cases hname
  | lineEnd => cases hname
  | headersEnd => cases hname

theorem nameIndex_le_progress (hs : AtName core.state) (headed : Bool) :
    nameIndex core.state core.index≤progress core headed := by
  unfold nameIndex progress
  rcases hs with hs|hs|hs
  · rw [hs]
    exact Nat.le_refl 0
  · rw [hs]
    exact Nat.le_refl 0
  · rw [hs]
    exact Nat.le_refl _

namespace HeaderTurn

theorem spent (boundary : Bytes) (h : HeaderTurn c core.state core.index core'.state core'.index calls)
    (headed : Bool) :
    cost boundary headed calls+progress core' (headedAfter headed calls)≤progress core headed+1 := by
  obtain ⟨state',index',partBoundary,lastBoundary⟩ := core'
  cases h with
  | boundary | first | again | lineEnd => exact zero_le _
  | repeated hs hs' | value hs hs' => rcases hs' with rfl|rfl <;> exact zero_le _
  | name hs =>
    have hle := nameIndex_le_progress hs headed
    change 0+(nameIndex core.state core.index+1)≤progress core headed+1
    omega
  | colon hs hcr index htext =>
    rw [htext.free]
    exact zero_le _
  | blank hs =>
    have hle := nameIndex_le_progress hs headed
    cases headed with
    | true =>
      change 0+nameIndex core.state core.index≤progress core true+1
      omega
    | false =>
      change 0+(nameIndex core.state core.index+1)≤progress core false+1
      omega
  | valueEnd hs index htext =>
    rw [cost_append,htext.free]
    exact zero_le _
  | headersEnd hs =>
    unfold progress
    rw [hs]
    cases headed with
    | true =>
      change 0+0+core.index≤core.index+1
      omega
    | false =>
      change 2+0+core.index≤core.index+1+1
      omega

section

variable (h : HeaderTurn c core.state core.index core'.state core'.index calls)
include h

/-- A turn outside the data opens a part or leaves it closed. -/
theorem brackets : openAfter (inPart core) calls=some (inPart core') := by
  have hclosed : inPart core=false := by
    obtain ⟨hstart,hdata,_⟩ := h.outside
    exact decide_eq_false (not_or.mpr ⟨hstart,hdata⟩)
  rw [hclosed]
  obtain ⟨state',index',partBoundary,lastBoundary⟩ := core'
  cases h with
  | boundary => rfl
  | first => rfl
  | repeated hs hs' | value hs hs' => rcases hs' with rfl|rfl <;> rfl
  | again => rfl
  | name => rfl
  | colon hs hcr index htext => exact htext.openAfter_eq false
  | blank => rfl
  | valueEnd hs index htext =>
    rw [openAfter_append (htext.openAfter_eq false)]
    rfl
  | lineEnd => rfl
  | headersEnd => rfl

/-- The search for a repeated boundary has begun if it is on. -/
theorem doubling : Doubling core' := by
  obtain ⟨state',index',partBoundary,lastBoundary⟩ := core'
  intro hon
  cases h with
  | repeated _ _ hindex => exact hindex
  | boundary | first | again | name | colon | blank | valueEnd | lineEnd | headersEnd => rcases hon with hon|hon <;> cases hon
  | value hs hs' => rcases hs' with rfl|rfl <;> rcases hon with hon|hon <;> cases hon

/-- A turn outside the data counts the header lines. -/
theorem headed {headed : Bool} (hheaded : Headed core headed) : Headed core' (headedAfter headed calls) := by
  obtain ⟨state',index',partBoundary,lastBoundary⟩ := core'
  intro hon
  cases h with
  | valueEnd =>
    rw [headedAfter_append]
    rfl
  | lineEnd hs => exact hheaded (.inr hs)
  | repeated hs hs' | value hs hs' => rcases hs' with rfl|rfl <;> rcases hon with hon|hon <;> cases hon
  | boundary | first | again | name | colon | blank | headersEnd => rcases hon with hon|hon <;> cases hon

end

/-- It costs nothing, unless it ends a header name. -/
theorem lineEnd_free (h : HeaderTurn CR core.state core.index core'.state core'.index calls)
    (hname : core.state≠.headerField) {headed : Bool} (hheaded : Headed core headed) :
    cost boundary headed calls+progress core' (headedAfter headed calls)=0 := by
  obtain ⟨state',index',partBoundary,lastBoundary⟩ := core'
  have hlf : CR≠LF := by decide
  cases h with
  | boundary => rfl
  | first hs hc | lineEnd hs hc | headersEnd hs hc => exact absurd hc hlf
  | repeated hs hs' | value hs hs' => rcases hs' with rfl|rfl <;> rfl
  | again => rfl
  | name hs hcr | colon hs hcr => exact absurd rfl hcr
  | blank hs hnot =>
    have hstart : core.state=.headerFieldStart := by
      rcases hs with hs|hs|hs
      · exact absurd hs hnot
      · exact hs
      · exact absurd hs hname
    rw [hheaded (.inl hstart),hstart]
    rfl
  | valueEnd hs index htext =>
    rw [cost_append,htext.free]
    rfl

end HeaderTurn

end

section

variable {boundary : Bytes} {s s' : Scan} {calls : List Callback}

theorem waiting_outside (h : s.core.state≠.partData) : waiting s=0 := if_neg fun hboth => h hboth.1

/-- A turn outside the data, with the step to the next byte. -/
theorem Turned.went (hsaved : s.saved=none) (h : Turned (s.buffer.getD s.i 0) s.core.state s.core.index s s' calls) :
    Went boundary s {s' with i := s'.i+1} calls where
  buffer := h.buffer
  saved := h.saved.trans hsaved
  out := h.out
  brackets := h.core.brackets
  spent := by
    intro headed
    have hspent := h.core.spent boundary headed
    have hbefore : waiting s=0 := waiting_outside h.core.outside.2.1
    have hafter : waiting {s' with i := s'.i+1}=0 := waiting_outside h.core.outside.2.2
    have hplace := h.place
    rw [standing,standing,hbefore,hafter]
    dsimp only
    omega
  doubling := h.core.doubling
  headed := fun headed hheaded => h.core.headed hheaded
  names := by
    intro _ hstate
    refine ⟨Nat.succ_pos _,?_⟩
    rw [h.place,h.buffer,Nat.add_sub_cancel]
    exact h.core.name_byte hstate

end

end AlexaClientSDK.MultipartTurns
