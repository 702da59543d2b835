import AlexaClientSDK.MultipartParser
import AlexaClientSDK.Transducers

/-!
# The multipart grammar as a transducer

What `MultipartParser` recognises, one byte at a time and without buffers, marks or skipping. `feed` makes the callbacks
that the transducer writes, with the bytes of one run of header or data text merged, and stores its state, unless the
end of the body was passed inside the chunk.
-/

namespace AlexaClientSDK.MultipartScan

open MimeEncoder (Bytes crlf twoDashes)
open List MultipartParser Transducers

/-- What the transducer writes: callbacks of one byte. -/
inductive Token
  | partBegin
  | field (c : UInt8)
  | value (c : UInt8)
  | headerEnd
  | headersEnd
  | byte (c : UInt8)
  | partEnd
  | end_

def tokensOf : Callback → List Token
  | .partBegin => [.partBegin]
  | .headerField bytes => bytes.map .field
  | .headerValue bytes => bytes.map .value
  | .headerEnd => [.headerEnd]
  | .headersEnd => [.headersEnd]
  | .partData bytes => bytes.map .byte
  | .partEnd => [.partEnd]
  | .end_ => [.end_]

/-- Callbacks, byte by byte. -/
def tokens (calls : List Callback) : List Token := calls.flatMap tokensOf

def boundaryStep (boundary : Bytes) (core : Core) (c : UInt8) : Option (Core × List Token) :=
  if core.index=boundary.length-2 then
    if c=CR then some ({core with index := core.index+1},[]) else none
  else if core.index=boundary.length-2+1 then
    if c=LF then some ({core with state := .headerStart,index := 0},[.partBegin]) else none
  else if c=boundary.getD (core.index+2) 0 then
    some ({core with index := core.index+1},[])
  else none

/-- A byte of a header name, or of the blank line in its place. -/
def fieldStep (core : Core) (c : UInt8) : Option (Core × List Token) :=
  if c=CR then
    if core.index=0 then some ({core with state := .headersAlmostDone},[]) else none
  else if c=HYPHEN then some ({core with index := core.index+1},[.field c])
  else if c=COLON then
    if core.index=0 then none
    else some ({core with state := .headerValueStart,index := core.index+1},[])
  else if c ||| 0x20<97 ∨ 122<c ||| 0x20 then none
  else some ({core with index := core.index+1},[.field c])

/-- A byte of a header value. -/
def valueStep (core : Core) (c : UInt8) : Option (Core × List Token) :=
  if c=CR then some ({core with state := .headerValueAlmostDone},[.headerEnd])
  else some (core,[.value c])

/-- A byte of data, while `index` bytes of the boundary are held back. -/
def dataStep (boundary : Bytes) (core : Core) (c : UInt8) : Option (Core × List Token) :=
  if core.index<boundary.length then
    if boundary.getD core.index 0=c then some ({core with index := core.index+1},[])
    else if boundary.getD 0 0=c then
      some ({core with index := 1},(boundary.take core.index).map .byte)
    else some ({core with index := 0},(boundary.take core.index++[c]).map .byte)
  else if core.index=boundary.length then
    if c=CR then some ({core with index := core.index+1,partBoundary := true},[])
    else if c=HYPHEN then some ({core with index := core.index+1,lastBoundary := true},[])
    else none
  else if core.index=boundary.length+1 then
    if core.partBoundary then
      if c=LF then
        some ({core with state := .headerStart,index := 0,partBoundary := false},[.partEnd,.partBegin])
      else none
    else if core.lastBoundary then
      if c=HYPHEN then some ({core with state := .end_},[.partEnd,.end_]) else none
    else none
  else none

def byteStep (boundary : Bytes) (core : Core) (c : UInt8) : Option (Core × List Token) :=
  match core.state with
  | .start => boundaryStep boundary {core with state := .startBoundary,index := 0} c
  | .startBoundary => boundaryStep boundary core c
  | .headerStart =>
    if c=HYPHEN ∨ c=CR then none
    else fieldStep {core with state := .headerField,index := 0} c
  | .headerFieldStart => fieldStep {core with state := .headerField,index := 0} c
  | .headerField => if core.index=0 then none else fieldStep core c
  | .headerValueStart =>
    if c=SPACE then some (core,[]) else valueStep {core with state := .headerValue} c
  | .headerValue => valueStep core c
  | .headerValueAlmostDone =>
    if c=LF then some ({core with state := .headerFieldStart},[]) else none
  | .headersAlmostDone =>
    if c=LF then some ({core with state := .partDataStart},[.headersEnd]) else none
  | .partDataStart =>
    if core.index=0 then dataStep boundary {core with state := .partData} c else none
  | .partData => dataStep boundary core c
  | .end_ => some (core,[])
  | _ => none

theorem slice_self (buffer : Bytes) (n : ℕ) : slice buffer n n=[] := by
  simp [slice]

variable {buffer : Bytes} {n : ℕ}

/-- The byte at a position, behind what stands before it. -/
theorem drop_eq_cons (hn : n<buffer.length) : buffer.drop n=buffer.getD n 0::buffer.drop (n+1) := by
  rw [drop_eq_getElem_cons hn,getD_eq_getElem?_getD,List.getElem?_eq_getElem hn]
  rfl

variable {m k : ℕ}

theorem slice_append (hm : m≤n) (hk : n≤k) : slice buffer m n++slice buffer n k=slice buffer m k := by
  unfold slice
  have hdrop : buffer.drop n=(buffer.drop m).drop (n-m) := by
    rw [drop_drop]
    congr 1
    omega
  have hsum : k-m=(n-m)+(k-n) := by omega
  rw [hdrop,hsum,take_add]

theorem slice_one (hn : n<buffer.length) : slice buffer n (n+1)=[buffer.getD n 0] := by
  have hone : n+1-n=1 := by omega
  rw [slice,hone,drop_eq_cons hn]
  rfl

theorem slice_succ (hm : m≤n) (hn : n<buffer.length) : slice buffer m (n+1)=slice buffer m n++[buffer.getD n 0] := by
  rw [←slice_append hm (Nat.le_succ n),slice_one hn]

theorem tokens_rangeCallback {make : Bytes → Callback} {f : UInt8 → Token}
    (hmake : ∀ bytes,tokensOf (make bytes)=bytes.map f) (buffer : Bytes) (m n : ℕ) (allowEmpty : Bool) :
    tokens (rangeCallback make buffer m n allowEmpty)=(slice buffer m n).map f := by
  unfold rangeCallback
  split
  · rename_i hempty
    rw [hempty.1,slice_self]
    rfl
  · simp [tokens,hmake]

theorem tokens_append (calls calls' : List Callback) : tokens (calls++calls')=tokens calls++tokens calls' := by
  simp [tokens]

/-- Text that is marked and not handed out yet, up to position `n`. -/
def pending (marks : Marks) (buffer : Bytes) (n : ℕ) : List Token :=
  (marks.headerField.elim [] fun m => (slice buffer m n).map .field) ++
    (marks.headerValue.elim [] fun m => (slice buffer m n).map .value) ++
    (marks.partData.elim [] fun m => (slice buffer m n).map .byte)

/-- Which mark is set in which state. -/
def MarksOk (core : Core) (marks : Marks) (n : ℕ) : Prop :=
  match core.state with
  | .headerField => ∃ m≤n,marks=⟨some m,none,none⟩
  | .headerValue => ∃ m≤n,marks=⟨none,some m,none⟩
  | .partData =>
    if core.index=0 then ∃ m≤n,marks=⟨none,none,some m⟩ else marks=.unmarked
  | _ => marks=.unmarked

/-- The held back bytes are a beginning of the boundary. -/
def Held (boundary : Bytes) (core : Core) (lookbehind : Bytes) : Prop :=
  lookbehind.length=boundary.length+4 ∧ (core.state=.partData → core.index≤boundary.length →
      lookbehind.take core.index=boundary.take core.index)

/-- `n` bytes are read; output is handed out or marked. -/
structure Tracks (boundary : Bytes) (s : Scan) (n : ℕ) (core : Core) (written : List Token) :
    Prop where
  core_eq : s.core=core
  saved : s.saved=none
  marks : MarksOk core s.marks n
  /-- Nothing is lost and nothing is handed out twice. -/
  out : tokens s.out++pending s.marks s.buffer n=written
  held : Held boundary core s.lookbehind

/-- One turn reads the byte at `n`. -/
def Moves (boundary : Bytes) (s : Scan) (n : ℕ) (core : Core) (written : List Token) (outcome : Outcome) : Prop :=
  ∃ s',outcome=.next s' ∧ s'.i=n ∧ s'.buffer=s.buffer ∧ Tracks boundary s' (n+1) core written

section

variable {boundary : Bytes} {s : Scan} {core core' : Core} {written out : List Token}

theorem tracks_unmarked (hsaved : s.saved=none) (hmarks : s.marks=.unmarked)
    (hlook : s.lookbehind.length=boundary.length+4) (hout : tokens s.out=written)
    (hfield : s.core.state≠.headerField) (hvalue : s.core.state≠.headerValue)
    (hdata : s.core.state≠.partData) : Tracks boundary s n s.core written := by
  refine ⟨rfl,hsaved,?_,?_,hlook,fun h => absurd h hdata⟩
  · unfold MarksOk
    split
    · rename_i h
      exact absurd h hfield
    · rename_i h
      exact absurd h hvalue
    · rename_i h
      exact absurd h hdata
    · exact hmarks
  · rw [hmarks]
    simpa [pending,Marks.unmarked] using hout

theorem Tracks.unmarked (h : Tracks boundary s n core written)
    (hfield : core.state≠.headerField) (hvalue : core.state≠.headerValue)
    (hdata : core.state=.partData → core.index≠0) : s.marks=.unmarked ∧ tokens s.out=written := by
  have hmarks : s.marks=.unmarked := by
    have hm := h.marks
    unfold MarksOk at hm
    split at hm
    · rename_i hs
      exact absurd hs hfield
    · rename_i hs
      exact absurd hs hvalue
    · rename_i hs
      rw [if_neg (hdata hs)] at hm
      exact hm
    · exact hm
  refine ⟨hmarks,?_⟩
  have hout := h.out
  rw [hmarks] at hout
  simpa [pending,Marks.unmarked] using hout

theorem moves_field (hm : m ≤ s.i) (hn : s.i<s.buffer.length) (hs : s.core.state=.headerField) (hsaved : s.saved=none)
    (hmarks : s.marks=⟨some m,none,none⟩) (hlook : s.lookbehind.length=boundary.length+4)
    (hout : tokens s.out++(slice s.buffer m s.i).map .field=written) (hzero : s.core.index=0 → m=s.i)
    (hstep : fieldStep s.core (s.buffer.getD s.i 0)=some (core',out)) :
    Moves boundary s s.i core' (written++out) (headerFieldTurn s (s.buffer.getD s.i 0)) := by
  have hgrow := slice_succ hm hn
  unfold fieldStep at hstep
  unfold headerFieldTurn
  generalize s.buffer.getD s.i 0=c at hstep hgrow ⊢
  -- a letter or a hyphen joins the marked name
  have hjoin : Moves boundary s s.i {s.core with index := s.core.index+1}
      (written++[.field c]) (.next {s with core := {s.core with index := s.core.index+1}}) := by
    refine ⟨_,rfl,rfl,rfl,rfl,hsaved,?_,?_,hlook,fun hd => ?_⟩
    · simp only [MarksOk,hs]
      exact ⟨m,Nat.le_succ_of_le hm,hmarks⟩
    · rw [←hout]
      simp [pending,hmarks,hgrow]
    · dsimp only at hd
      rw [hs] at hd
      exact absurd hd nofun
  split at hstep
  · rename_i hc
    rw [if_pos hc]
    split at hstep
    · rename_i hidx
      cases hstep
      refine ⟨_,rfl,rfl,rfl,tracks_unmarked hsaved ?_ hlook ?_ nofun nofun nofun⟩
      · rw [hmarks]
        rfl
      · rw [←hout,hzero hidx,slice_self]
        simp
    · exact absurd hstep nofun
  · rename_i hc
    rw [if_neg hc]
    dsimp only
    split at hstep
    · rename_i hhyphen
      cases hstep
      rw [if_pos hhyphen]
      exact hjoin
    · rename_i hhyphen
      rw [if_neg hhyphen]
      split at hstep
      · rename_i hcolon
        rw [if_pos hcolon]
        split at hstep
        · exact absurd hstep nofun
        · rename_i hidx
          cases hstep
          rw [if_neg (by omega)]
          refine ⟨_,rfl,rfl,rfl,tracks_unmarked hsaved ?_ hlook ?_ nofun nofun nofun⟩
          · rw [hmarks]
            rfl
          · rw [tokens_append,hmarks,append_nil,←hout]
            dsimp only [dataCallbackClear]
            rw [tokens_rangeCallback (fun _ => rfl)]
      · rename_i hcolon
        rw [if_neg hcolon]
        split at hstep
        · exact absurd hstep nofun
        · rename_i hletter
          cases hstep
          rw [if_neg hletter]
          exact hjoin

theorem moves_value (hm : m ≤ s.i) (hn : s.i<s.buffer.length) (hs : s.core.state=.headerValue) (hsaved : s.saved=none)
    (hmarks : s.marks=⟨none,some m,none⟩) (hlook : s.lookbehind.length=boundary.length+4)
    (hout : tokens s.out++(slice s.buffer m s.i).map .value=written)
    (hstep : valueStep s.core (s.buffer.getD s.i 0)=some (core',out)) :
    Moves boundary s s.i core' (written++out) (headerValueTurn s (s.buffer.getD s.i 0)) := by
  have hgrow := slice_succ hm hn
  unfold valueStep at hstep
  unfold headerValueTurn
  generalize s.buffer.getD s.i 0=c at hstep hgrow ⊢
  split at hstep
  · rename_i hc
    cases hstep
    rw [if_pos hc]
    refine ⟨_,rfl,rfl,rfl,tracks_unmarked hsaved ?_ hlook ?_ nofun nofun nofun⟩
    · rw [hmarks]
      rfl
    · rw [tokens_append,tokens_append,hmarks,←hout]
      dsimp only [dataCallbackClear]
      rw [tokens_rangeCallback (fun _ => rfl)]
      rfl
  · rename_i hc
    cases hstep
    rw [if_neg hc]
    refine ⟨_,rfl,rfl,rfl,rfl,hsaved,?_,?_,hlook,fun hd => ?_⟩
    · simp only [MarksOk,hs]
      exact ⟨m,Nat.le_succ_of_le hm,hmarks⟩
    · rw [←hout]
      simp [pending,hmarks,hgrow]
    · rw [hs] at hd
      exact absurd hd nofun

theorem take_succ_getD (hk : k<boundary.length) : boundary.take (k+1)=boundary.take k++[boundary.getD k 0] := by
  rw [take_succ_eq_append_getElem hk,getD_eq_getElem?_getD,List.getElem?_eq_getElem hk]
  rfl

/-- The bytes held back when one more of the boundary was matched. -/
theorem take_set_succ {lookbehind : Bytes} {c : UInt8} (hk : k<lookbehind.length)
    (htake : lookbehind.take k=boundary.take k) (hc : boundary.getD k 0=c)
    (hkb : k<boundary.length) : (lookbehind.set k c).take (k+1)=boundary.take (k+1) := by
  have hlook : k<(lookbehind.set k c).length := by rwa [length_set]
  rw [take_succ_getD hkb,take_succ_eq_append_getElem hlook,getElem_set_self,take_set_of_le (Nat.le_refl k),htake,hc]

theorem moves_data_zero (hb : boundary≠[]) (hm : m ≤ s.i) (hn : s.i<s.buffer.length)
    (hs : s.core.state=.partData) (hidx : s.core.index=0) (hsaved : s.saved=none)
    (hmarks : s.marks=⟨none,none,some m⟩) (hlook : s.lookbehind.length=boundary.length+4)
    (hout : tokens s.out++(slice s.buffer m s.i).map .byte=written)
    (hstep : dataStep boundary s.core (s.buffer.getD s.i 0)=some (core',out)) :
    Moves boundary s s.i core' (written++out) (matchTurn boundary s (s.buffer.getD s.i 0)) := by
  have hpos : 0<boundary.length := length_pos_iff.mpr hb
  have hgrow := slice_succ hm hn
  unfold dataStep at hstep
  unfold matchTurn matchBoundary
  generalize s.buffer.getD s.i 0=c at hstep hgrow ⊢
  rw [hidx] at hstep ⊢
  rw [if_pos hpos] at hstep ⊢
  by_cases hc : boundary.getD 0 0=c
  · rw [if_pos hc] at hstep ⊢
    rw [if_pos rfl]
    cases hstep
    have hroom : ¬s.lookbehind.length≤0+1-1 := by omega
    dsimp only [holdBack]
    rw [if_pos (by omega),if_neg hroom]
    refine ⟨_,rfl,rfl,rfl,rfl,hsaved,?_,?_,?_,fun _ _ => ?_⟩
    · simp only [MarksOk,hs]
      rw [if_neg (by omega),hmarks]
      rfl
    · rw [tokens_append,hmarks,←hout]
      dsimp only [dataCallbackClear]
      rw [tokens_rangeCallback (fun _ => rfl)]
      simp [pending]
    · rw [length_set]
      exact hlook
    · exact take_set_succ (by omega) (by simp) hc hpos
  · rw [if_neg hc] at hstep ⊢
    rw [if_neg hc] at hstep
    cases hstep
    dsimp only [holdBack]
    rw [if_neg (Nat.lt_irrefl 0),if_neg (Nat.lt_irrefl 0)]
    refine ⟨_,rfl,rfl,rfl,rfl,hsaved,?_,?_,hlook,fun _ _ => rfl⟩
    · simp only [MarksOk,hs,if_true]
      exact ⟨m,Nat.le_succ_of_le hm,hmarks⟩
    · rw [←hout]
      simp [pending,hmarks,hgrow]

/-- The first byte of a name is marked and read as one of the name. -/
theorem moves_fieldStart (hn : s.i<s.buffer.length) (hsaved : s.saved=none) (hmarks : s.marks=.unmarked)
    (hlook : s.lookbehind.length=boundary.length+4) (hout : tokens s.out=written)
    (hstep : fieldStep {s.core with state := .headerField,index := 0} (s.buffer.getD s.i 0)=some (core',out)) :
    Moves boundary s s.i core' (written++out) (headerFieldStartTurn s (s.buffer.getD s.i 0)) := by
  refine moves_field (s := {s with
    core := {s.core with state := .headerField,index := 0}
    marks := {s.marks with headerField := some s.i}}) (Nat.le_refl _) hn rfl hsaved
    (by rw [hmarks]; rfl) hlook ?_ (fun _ => rfl) hstep
  simpa [slice_self] using hout

section

variable (h : Tracks boundary s s.i core written)
include h

theorem moves_boundary (hs : core.state=.startBoundary)
    (hstep : boundaryStep boundary core (s.buffer.getD s.i 0)=some (core',out)) :
    Moves boundary s s.i core' (written++out) (startBoundaryTurn boundary s (s.buffer.getD s.i 0)) := by
  obtain ⟨hmarks,hout⟩ := h.unmarked (by rw [hs]; nofun) (by rw [hs]; nofun)
    (fun hd => by rw [hs] at hd; exact absurd hd nofun)
  have hcore := h.core_eq
  subst hcore
  have hlook := h.held.1
  have hsaved := h.saved
  unfold boundaryStep at hstep
  unfold startBoundaryTurn
  generalize s.buffer.getD s.i 0=c at hstep ⊢
  split at hstep
  · rename_i hlast
    split at hstep
    · rename_i hc
      cases hstep
      rw [if_pos hlast,if_neg (not_not.mpr hc),append_nil]
      refine ⟨_,rfl,rfl,rfl,tracks_unmarked hsaved hmarks hlook hout ?_ ?_ ?_⟩ <;> simp [hs]
    · exact absurd hstep nofun
  · rename_i hnot
    rw [if_neg hnot]
    split at hstep
    · rename_i hlast
      rw [if_pos hlast]
      split at hstep
      · rename_i hc
        cases hstep
        rw [if_neg (not_not.mpr hc)]
        refine ⟨_,rfl,rfl,rfl,tracks_unmarked hsaved hmarks hlook ?_ nofun nofun nofun⟩
        rw [tokens_append,hout]
        rfl
      · exact absurd hstep nofun
    · rename_i hnot'
      rw [if_neg hnot']
      split at hstep
      · rename_i hc
        cases hstep
        rw [if_neg (not_not.mpr hc),append_nil]
        refine ⟨_,rfl,rfl,rfl,tracks_unmarked hsaved hmarks hlook hout ?_ ?_ ?_⟩ <;> simp [hs]
      · exact absurd hstep nofun

/-- A byte of data that goes on a match, or ends one at the boundary's end. -/
theorem moves_data_match (hs : core.state=.partData) (hidx : core.index≠0)
    (hgoes : core.index<boundary.length → boundary.getD core.index 0=s.buffer.getD s.i 0)
    (hstep : dataStep boundary core (s.buffer.getD s.i 0)=some (core',out)) :
    Moves boundary s s.i core' (written++out) (matchTurn boundary s (s.buffer.getD s.i 0)) := by
  obtain ⟨hmarks,hout⟩ := h.unmarked (by rw [hs]; nofun) (by rw [hs]; nofun) (fun _ => hidx)
  have hcore := h.core_eq
  subst hcore
  obtain ⟨hlook,hheld⟩ := h.held
  have hsaved := h.saved
  unfold dataStep at hstep
  unfold matchTurn matchBoundary
  generalize s.buffer.getD s.i 0=c at hstep hgoes ⊢
  have hheld' : ∀ (t : Scan),t.core.state=.partData → t.core.index≠0 → t.saved=none →
      t.marks=.unmarked → tokens t.out=written → Held boundary t.core t.lookbehind →
      Tracks boundary t (s.i+1) t.core written := by
    intro t ht htidx htsaved htmarks htout htheld
    refine ⟨rfl,htsaved,?_,?_,htheld⟩
    · simp only [MarksOk,ht]
      rw [if_neg htidx]
      exact htmarks
    · rw [htmarks]
      simpa [pending,Marks.unmarked] using htout
  split at hstep
  · rename_i hlt
    rw [if_pos hlt]
    rw [if_pos (hgoes hlt)] at hstep ⊢
    rw [if_neg hidx]
    cases hstep
    dsimp only [holdBack]
    rw [if_pos (Nat.succ_pos _),if_neg (by omega),append_nil]
    refine ⟨_,rfl,rfl,rfl,hheld' _ hs (Nat.succ_ne_zero _) hsaved hmarks hout ?_⟩
    refine ⟨by rw [length_set]; exact hlook,fun _ _ => ?_⟩
    exact take_set_succ (by omega) (hheld hs (Nat.le_of_lt hlt)) (hgoes hlt) hlt
  · rename_i hnlt
    rw [if_neg hnlt]
    split at hstep
    · rename_i heq
      rw [if_pos heq]
      have hover : ∀ (t : Scan),t.core.state=.partData → t.core.index=s.core.index+1 →
          t.saved=none → t.marks=.unmarked → tokens t.out=written →
          t.lookbehind.length=boundary.length+4 →
          Tracks boundary t (s.i+1) t.core written := by
        intro t ht htidx htsaved htmarks htout htlook
        refine hheld' t ht (by omega) htsaved htmarks htout ⟨htlook,fun _ hle => ?_⟩
        omega
      split at hstep
      · rename_i hc
        rw [if_pos hc]
        cases hstep
        dsimp only [holdBack]
        rw [if_pos (Nat.succ_pos _),if_neg (by omega),append_nil]
        exact ⟨_,rfl,rfl,rfl,hover _ hs rfl hsaved hmarks hout (by rw [length_set]; exact hlook)⟩
      · rename_i hc
        rw [if_neg hc]
        split at hstep
        · rename_i hc'
          rw [if_pos hc']
          cases hstep
          dsimp only [holdBack]
          rw [if_pos (Nat.succ_pos _),if_neg (by omega),append_nil]
          exact ⟨_,rfl,rfl,rfl,hover _ hs rfl hsaved hmarks hout (by rw [length_set]; exact hlook)⟩
        · exact absurd hstep nofun
    · rename_i hne
      rw [if_neg hne]
      split at hstep
      · rename_i hlast
        rw [if_pos hlast]
        split at hstep
        · rename_i hpart
          rw [if_pos hpart]
          split at hstep
          · rename_i hc
            rw [if_pos hc]
            cases hstep
            refine ⟨_,rfl,rfl,rfl,tracks_unmarked hsaved hmarks hlook ?_ nofun nofun nofun⟩
            rw [tokens_append,hout]
            rfl
          · exact absurd hstep nofun
        · rename_i hpart
          rw [if_neg hpart]
          split at hstep
          · rename_i hlb
            rw [if_pos hlb]
            split at hstep
            · rename_i hc
              rw [if_pos hc]
              cases hstep
              dsimp only [holdBack]
              rw [if_pos (by omega),if_neg (by omega)]
              refine ⟨_,rfl,rfl,rfl,tracks_unmarked hsaved hmarks ?_ ?_ nofun nofun nofun⟩
              · rw [length_set]
                exact hlook
              · rw [tokens_append,hout]
                rfl
            · exact absurd hstep nofun
          · exact absurd hstep nofun
      · exact absurd hstep nofun

/-- The held bytes are handed out and the byte is looked at again. -/
theorem retry_data (hs : core.state=.partData) (hidx : core.index≠0) (hlt : core.index<boundary.length)
    (hbreaks : boundary.getD core.index 0≠s.buffer.getD s.i 0) :
    ∃ s',matchTurn boundary s (s.buffer.getD s.i 0)=.retry s' ∧ s'.i=s.i ∧ s'.buffer=s.buffer ∧
      Tracks boundary s' s.i {core with index := 0} (written++(boundary.take core.index).map .byte) := by
  obtain ⟨hmarks,hout⟩ := h.unmarked (by rw [hs]; nofun) (by rw [hs]; nofun) (fun _ => hidx)
  have hcore := h.core_eq
  subst hcore
  obtain ⟨hlook,hheld⟩ := h.held
  unfold matchTurn matchBoundary
  rw [if_pos hlt,if_neg hbreaks]
  dsimp only [holdBack]
  rw [if_neg (Nat.lt_irrefl 0),if_pos (Nat.pos_of_ne_zero hidx)]
  refine ⟨_,rfl,rfl,rfl,rfl,h.saved,?_,?_,hlook,fun _ _ => rfl⟩
  · simp only [MarksOk,hs,if_true]
    exact ⟨s.i,Nat.le_refl _,by rw [hmarks]; rfl⟩
  · rw [tokens_append,hout,hmarks]
    simp [pending,Marks.unmarked,slice_self,tokens,tokensOf,hheld hs (Nat.le_of_lt hlt)]

theorem moves_headers (hn : s.i<s.buffer.length)
    (hstart : core.state≠.partDataStart) (hdata : core.state≠.partData) (hend : core.state≠.end_)
    (hstep : byteStep boundary core (s.buffer.getD s.i 0)=some (core',out)) :
    Moves boundary s s.i core' (written++out) (turn boundary s) := by
  have hcore := h.core_eq
  subst hcore
  obtain ⟨hlook,-⟩ := h.held
  have hsaved := h.saved
  -- outside the names and the values nothing is marked
  have hplain : s.core.state≠.headerField → s.core.state≠.headerValue →
      s.marks=.unmarked ∧ tokens s.out=written := fun hfield hvalue =>
    h.unmarked hfield hvalue fun hd => absurd hd hdata
  unfold byteStep at hstep
  unfold turn
  generalize hs : s.core.state=state at hplain hstep ⊢
  cases state with
  | start =>
    obtain ⟨hmarks,hout⟩ := hplain nofun nofun
    have hfirst : Tracks boundary
        {s with core := {s.core with state := .startBoundary,index := 0}} s.i
        {s.core with state := .startBoundary,index := 0} written :=
      tracks_unmarked hsaved hmarks hlook hout nofun nofun nofun
    exact moves_boundary hfirst rfl hstep
  | startBoundary => exact moves_boundary h hs hstep
  | headerStart =>
    obtain ⟨hmarks,hout⟩ := hplain nofun nofun
    dsimp only at hstep
    split at hstep
    · exact absurd hstep nofun
    · rename_i hc
      dsimp only [headerStartTurn]
      rw [if_neg (fun h => hc (.inl h)),if_neg (fun h => hc (.inr h))]
      exact moves_fieldStart hn hsaved hmarks hlook hout hstep
  | headerFieldStart =>
    obtain ⟨hmarks,hout⟩ := hplain nofun nofun
    exact moves_fieldStart hn hsaved hmarks hlook hout hstep
  | headerField =>
    have hm := h.marks
    simp only [MarksOk,hs] at hm
    obtain ⟨m,hm,hmarks⟩ := hm
    dsimp only at hstep
    split at hstep
    · exact absurd hstep nofun
    · rename_i hidx
      refine moves_field hm hn hs hsaved hmarks hlook ?_ (fun h => absurd h hidx) hstep
      have hout := h.out
      rw [hmarks] at hout
      simpa [pending] using hout
  | headerValueStart =>
    obtain ⟨hmarks,hout⟩ := hplain nofun nofun
    dsimp only [headerValueStartTurn] at hstep ⊢
    split at hstep
    · rename_i hc
      cases hstep
      rw [if_pos hc,append_nil]
      refine ⟨_,rfl,rfl,rfl,tracks_unmarked hsaved hmarks hlook hout ?_ ?_ ?_⟩ <;> simp [hs]
    · rename_i hc
      rw [if_neg hc]
      refine moves_value (s := {s with
        core := {s.core with state := .headerValue}
        marks := {s.marks with headerValue := some s.i}}) (Nat.le_refl _) hn rfl hsaved
        (by rw [hmarks]; rfl) hlook ?_ hstep
      simpa [slice_self] using hout
  | headerValue =>
    have hm := h.marks
    simp only [MarksOk,hs] at hm
    obtain ⟨m,hm,hmarks⟩ := hm
    refine moves_value hm hn hs hsaved hmarks hlook ?_ hstep
    have hout := h.out
    rw [hmarks] at hout
    simpa [pending] using hout
  | headerValueAlmostDone =>
    obtain ⟨hmarks,hout⟩ := hplain nofun nofun
    dsimp only [headerValueAlmostDoneTurn] at hstep ⊢
    split at hstep
    · rename_i hc
      cases hstep
      rw [if_neg (not_not.mpr hc),append_nil]
      exact ⟨_,rfl,rfl,rfl,tracks_unmarked hsaved hmarks hlook hout nofun nofun nofun⟩
    · exact absurd hstep nofun
  | headersAlmostDone =>
    obtain ⟨hmarks,hout⟩ := hplain nofun nofun
    dsimp only [headersAlmostDoneTurn] at hstep ⊢
    split at hstep
    · rename_i hc
      cases hstep
      rw [if_neg (not_not.mpr hc)]
      refine ⟨_,rfl,rfl,rfl,tracks_unmarked hsaved hmarks hlook ?_ nofun nofun nofun⟩
      rw [tokens_append,hout]
      rfl
    · exact absurd hstep nofun
  | partDataStart => exact absurd hs hstart
  | partData => exact absurd hs hdata
  | end_ => exact absurd hs hend
  | error | duplicateBoundaryStart | crlfDuplicateBoundaryStart | partEnd => exact absurd hstep nofun

end

end

section

variable {boundary : Bytes} {core : Core}

theorem byteStep_data (hs : core.state=.partData) (c : UInt8) : byteStep boundary core c=dataStep boundary core c := by
  simp only [byteStep,hs]

/-- A block with a foreign last byte is data, where no boundary is completed. -/
theorem run_block (block : Bytes) {c : UInt8} (hc : c∉boundary) (hs : core.state=.partData)
    (hlen : core.index+block.length<boundary.length) : run (byteStep boundary) core (block++[c]) =
      some ({core with index := 0}, (boundary.take core.index++block++[c]).map .byte) := by
  induction block generalizing core with
  | nil =>
    have hlt : core.index<boundary.length := by
      simp only [length_nil,Nat.add_zero] at hlen
      exact hlen
    have hget : ∀ k,k<boundary.length → boundary.getD k 0≠c := by
      intro k hk heq
      rw [getD_eq_getElem?_getD,List.getElem?_eq_getElem hk] at heq
      exact hc (heq ▸ getElem_mem hk)
    have hstep : byteStep boundary core c=some ({core with index := 0}, (boundary.take core.index++[c]).map .byte) := by
      rw [byteStep_data hs,dataStep,if_pos hlt,if_neg (hget _ hlt),
        if_neg (hget 0 (Nat.lt_of_le_of_lt (Nat.zero_le _) hlt))]
    simp only [nil_append,append_nil,run,hstep]
  | cons d block ih =>
    simp only [length_cons] at hlen
    have hlt : core.index<boundary.length := by omega
    by_cases hd : boundary.getD core.index 0=d
    · have hstep : byteStep boundary core d=some ({core with index := core.index+1},[]) := by
        rw [byteStep_data hs,dataStep,if_pos hlt,if_pos hd]
      have htake : boundary.take (core.index+1)=boundary.take core.index++[d] := by
        rw [take_succ_getD hlt,hd]
      have hlen' : core.index+1+block.length<boundary.length := by omega
      have hall := run_cons hstep (ih hs hlen')
      rw [cons_append,hall]
      simp [htake]
    · by_cases hfirst : boundary.getD 0 0=d
      · have hstep : byteStep boundary core d=some ({core with index := 1}, (boundary.take core.index).map .byte) := by
          rw [byteStep_data hs,dataStep,if_pos hlt,if_neg hd,if_pos hfirst]
        have hpos : 0<boundary.length := by omega
        have htake : boundary.take 1=[d] := by rw [take_succ_getD hpos,hfirst,take_zero]; rfl
        have hlen' : 1+block.length<boundary.length := by omega
        have hall := run_cons hstep (ih hs hlen')
        rw [cons_append,hall]
        simp [htake]
      · have hstep : byteStep boundary core d=some ({core with index := 0},
            (boundary.take core.index++[d]).map .byte) := by
          rw [byteStep_data hs,dataStep,if_pos hlt,if_neg hd,if_neg hfirst]
        have hlen' : 0+block.length<boundary.length := by omega
        have hall := run_cons hstep (ih hs hlen')
        rw [cons_append,hall]
        simp

theorem run_skip (hb : boundary≠[]) (hs : core.state=.partData)
    (hidx : core.index=0) (fuel : ℕ) (hn : n≤buffer.length) :
    n ≤ skip boundary buffer fuel n ∧ skip boundary buffer fuel n≤buffer.length ∧
      run (byteStep boundary) core (slice buffer n (skip boundary buffer fuel n)) =
        some (core,(slice buffer n (skip boundary buffer fuel n)).map .byte) := by
  induction fuel generalizing n with
  | zero =>
    rw [skip,slice_self]
    exact ⟨Nat.le_refl _,hn,rfl⟩
  | succ fuel ih =>
    have hpos : 0<boundary.length := length_pos_iff.mpr hb
    have hstay : n≤n ∧ n≤buffer.length ∧
        run (byteStep boundary) core (slice buffer n n)=some (core,(slice buffer n n).map .byte) := by
      rw [slice_self]
      exact ⟨Nat.le_refl _,hn,rfl⟩
    rw [skip]
    split
    · rename_i hfits
      split
      · exact hstay
      · rename_i hforeign
        obtain ⟨hlow,hhigh,hrun⟩ := ih (n := n+boundary.length) hfits
        refine ⟨by omega,hhigh,?_⟩
        have hblock : slice buffer n (n+boundary.length) = slice buffer n (n+(boundary.length-1)) ++
              [buffer.getD (n+(boundary.length-1)) 0] := by
          have hsucc : n+boundary.length=n+(boundary.length-1)+1 := by omega
          rw [hsucc]
          exact slice_succ (by omega) (by omega)
        have hlen : (slice buffer n (n+(boundary.length-1))).length=boundary.length-1 := by
          simp only [slice,length_take,length_drop]
          omega
        have hdata := run_block (slice buffer n (n+(boundary.length-1))) hforeign hs (by omega)
        have hzero : {core with index := 0}=core := by rw [←hidx]
        rw [hidx,hzero,take_zero,nil_append,←hblock] at hdata
        have hall := run_append hdata hrun
        rw [slice_append (by omega) hlow,←map_append,slice_append (by omega) hlow] at hall
        exact hall
    · exact hstay

end

end AlexaClientSDK.MultipartScan
