import AlexaClientSDK.SdsSeek

/-!
# Reading an attachment

A reader of an attachment passes reads on to a reader of the stream and counts in bytes what that counts in words. The
number of unread bytes is that of the words before the writer: what later reads deliver for words of one byte, unless
the reader has been overrun or is closed before the writer.
-/

namespace AlexaClientSDK.DefaultAttachmentReader

open Nat UInt64 SharedDataStream SdsFaithfulness

inductive ReadStatus
  | OK
  | OK_WOULDBLOCK
  | OK_TIMEDOUT
  | OK_OVERRUN_RESET
  | CLOSED
  | ERROR_OVERRUN
  | ERROR_BYTES_LESS_THAN_WORD_SIZE
  | ERROR_INTERNAL
  deriving DecidableEq

inductive ClosePoint
  | IMMEDIATELY
  | AFTER_DRAINING_CURRENT_BUFFER
  deriving DecidableEq

structure AttachmentReader (L : Layout) where
  m_reader : Reader L
  m_resetOnOverrun : Bool

structure Call where
  hasReadStatus : Bool
  hasBuf : Bool
  numBytes : Index
  /-- The time to wait, which may be negative by mistake. -/
  timeoutMs : ℤ

structure Delivery where
  bytesRead : ℕ
  readStatus : Option ReadStatus
  buf : List UInt8

def nothing (readStatus : ReadStatus) : Delivery := ⟨0,some readStatus,[]⟩

variable {L : Layout}

section

variable (d : AttachmentReader L)

section

variable (s : Stream L)

def close : ClosePoint → Stream L
  | .IMMEDIATELY => s.closeReader d.m_reader.id 0 .afterReader
  | .AFTER_DRAINING_CURRENT_BUFFER => s.closeReader d.m_reader.id 0 .beforeWriter

def seek (d : AttachmentReader L) (s : Stream L) (offset : Index) : Stream L × Bool :=
  s.seek d.m_reader.id offset .absolute

def getNumUnreadBytes : Index := s.tell d.m_reader.id .beforeWriter

def deliver : ReadResult → Stream L × Delivery
  | .error .overrun =>
    if d.m_resetOnOverrun then ((s.seek d.m_reader.id 0 .beforeWriter).1,nothing .OK_OVERRUN_RESET)
    else (close d s .AFTER_DRAINING_CURRENT_BUFFER,nothing .ERROR_OVERRUN)
  | .error .wouldblock => (s,nothing .OK_WOULDBLOCK)
  | .error .timedout => (s,nothing .OK_TIMEDOUT)
  | .error .invalid => (s,nothing .ERROR_INTERNAL)
  | .error .closed => (s,nothing .CLOSED)
  | .words nWords bytes => (s,⟨nWords.toNat*L.wordSize,some .OK,bytes⟩)

/-- `read`; no result while the stream waits for data. -/
def read (d : AttachmentReader L) (s : Stream L) (call : Call) : Option (Stream L × Delivery) :=
  if !call.hasReadStatus then some (s,⟨0,none,[]⟩)
  else if !call.hasBuf then some (s,nothing .ERROR_INTERNAL)
  else if call.timeoutMs<0 then some (s,nothing .ERROR_INTERNAL)
  else if call.numBytes=0 then some (s,nothing .OK)
  else if call.numBytes.toNat<L.wordSize then some (s,nothing .ERROR_BYTES_LESS_THAN_WORD_SIZE)
  else
    (s.read d.m_reader.id d.m_reader.policy call.hasBuf (ofNat (call.numBytes.toNat / L.wordSize))
      call.timeoutMs.toNat).map fun answer => deliver d answer.1 answer.2

/-- A call that waits has delivered nothing. -/
def afterCall (call : Call) : Stream L × ℕ :=
  match read d s call with
  | some (t,delivery) => (t,delivery.bytesRead)
  | none => (s,0)

end

/-- The stream after some calls and the bytes they have delivered. -/
def afterCalls (d : AttachmentReader L) : Stream L → List Call → Stream L × ℕ
  | s,[] => (s,0)
  | s,call::calls =>
    ((afterCalls d (afterCall d s call).1 calls).1,
      (afterCall d s call).2+(afterCalls d (afterCall d s call).1 calls).2)

/-- No call returns data any more. -/
def Exhausted (s : Stream L) : Prop := ∀ call,(afterCall d s call).2=0

/-- Calls until no data is returned deliver as many bytes as that number. -/
def Exact (s : Stream L) : Prop :=
  (∃ calls,Exhausted d (afterCalls d s calls).1) ∧
    ∀ calls,Exhausted d (afterCalls d s calls).1 → (afterCalls d s calls).2=(getNumUnreadBytes d s).toNat

end

/-- A writer has overwritten the word at the cursor. -/
def Overrun (s : Stream L) (id : Fin L.maxReaders) : Prop :=
  (s.readers id).cursor ≤ s.header.writeEndCursor ∧ L.dataSize<s.header.writeEndCursor-(s.readers id).cursor

instance (s : Stream L) (id : Fin L.maxReaders) : Decidable (Overrun s id) := inferInstanceAs (Decidable (_ ∧ _))

/-- The words that can still be read. -/
def unreadWords (s : Stream L) (id : Fin L.maxReaders) : ℕ :=
  if Overrun s id then 0
  else min s.header.writeStartCursor.toNat (s.readers id).closeIndex.toNat-(s.readers id).cursor.toNat

variable {d : AttachmentReader L} {s t : Stream L} {id : Fin L.maxReaders}

/-- It is open, behind the writer and not overrun. -/
theorem unreadWords_pos_iff : 0<unreadWords s id ↔ ¬Overrun s id ∧ (s.readers id).cursor<(s.readers id).closeIndex ∧
        (s.readers id).cursor<s.header.writeStartCursor := by
  rw [lt_iff_toNat_lt,lt_iff_toNat_lt]
  unfold unreadWords
  split
  · next hover => exact ⟨fun h => absurd h (lt_irrefl 0),fun h => absurd hover h.1⟩
  · next hover =>
    constructor
    · exact fun h => ⟨hover,by omega,by omega⟩
    · rintro ⟨_,hopen,hbehind⟩
      omega

/-- It is within one ring of the end of the words being written. -/
theorem within_of_not_overrun (hover : ¬Overrun s id) (hbehind : (s.readers id).cursor ≤ s.header.writeEndCursor) :
    s.header.writeEndCursor.toNat≤(s.readers id).cursor.toNat+L.dataSize.toNat := by
  have hfar : ¬L.dataSize<s.header.writeEndCursor-(s.readers id).cursor := fun hfar => hover ⟨hbehind,hfar⟩
  rw [UInt64.lt_iff_toNat_lt,UInt64.toNat_sub_of_le _ _ hbehind] at hfar
  omega

/-- There is nothing to read, at the writer or closed. -/
theorem unreadWords_deliver_overrun (hover : Overrun s d.m_reader.id) :
    unreadWords (deliver d s (.error .overrun)).1 d.m_reader.id=0 := by
  unfold deliver
  dsimp only
  split
  · have htarget : s.seekTarget d.m_reader.id 0 .beforeWriter=some (s.header.writeStartCursor-0) := by
      unfold Stream.seekTarget
      exact if_neg (UInt64.not_lt_zero)
    by_cases hadmissible : SdsBackPressure.Admissible s d.m_reader.id (s.header.writeStartCursor-0).toNat
    · obtain ⟨moved,hseek,hreaders,_⟩ := SdsBackPressure.seek_of_admissible htarget hadmissible
      have hstart := (readersOnly_seek s d.m_reader.id 0 .beforeWriter).sameWords.2.1
      have hreader : ((s.seek d.m_reader.id 0 .beforeWriter).1.readers d.m_reader.id).cursor =
          s.header.writeStartCursor := by
        rw [hseek,updateOldest_readers,hreaders,Function.update_self]
        exact UInt64.sub_zero _
      unfold unreadWords
      split
      · rfl
      · rw [hreader,hstart]
        omega
    · rw [SdsBackPressure.seek_of_not_admissible htarget hadmissible]
      exact if_pos hover
  · have hreader : ((close d s .AFTER_DRAINING_CURRENT_BUFFER).readers d.m_reader.id).cursor =
        (s.readers d.m_reader.id).cursor := by
      unfold close Stream.closeReader Stream.setReader
      dsimp only
      rw [Function.update_self]
    refine if_pos ⟨?_,?_⟩
    · rw [hreader]
      exact hover.1
    · rw [hreader]
      exact hover.2

section

variable (d)

theorem sameWords_deliver (s : Stream L) (result : ReadResult) : SameWords s (deliver d s result).1 := by
  cases result with
  | words => exact SameWords.refl s
  | error error =>
    cases error with
    | closed | wouldblock | timedout | invalid => exact SameWords.refl s
    | overrun =>
      unfold deliver
      dsimp only
      split
      · exact (readersOnly_seek s _ _ _).sameWords
      · exact (readersOnly_setReader s _ _).sameWords

theorem deliver_error (s : Stream L) (error : ReadError) : (deliver d s (.error error)).2.bytesRead=0 := by
  cases error with
  | closed => rfl
  | overrun =>
    unfold deliver
    dsimp only
    split
    · rfl
    · rfl
  | wouldblock => rfl
  | timedout => rfl
  | invalid => rfl

end

theorem deliver_error_stream {error : ReadError} (h : error≠.overrun) : (deliver d s (.error error)).1=s := by
  cases error with
  | closed => rfl
  | overrun => exact absurd rfl h
  | wouldblock => rfl
  | timedout => rfl
  | invalid => rfl

/-- Without room for a word it does nothing; else it goes to the stream. -/
theorem read_cases_call (d : AttachmentReader L) (s : Stream L) (call : Call) :
    (∃ delivery,read d s call=some (s,delivery) ∧ delivery.bytesRead=0) ∨
      read d s call=(s.read d.m_reader.id d.m_reader.policy call.hasBuf
        (ofNat (call.numBytes.toNat / L.wordSize)) call.timeoutMs.toNat).map
          fun answer => deliver d answer.1 answer.2 := by
  unfold read
  split
  · exact .inl ⟨_,rfl,rfl⟩
  · split
    · exact .inl ⟨_,rfl,rfl⟩
    · split
      · exact .inl ⟨_,rfl,rfl⟩
      · split
        · exact .inl ⟨_,rfl,rfl⟩
        · split
          · exact .inl ⟨_,rfl,rfl⟩
          · exact .inr rfl

/-- As long as a word can be read, a call with room for one delivers some. -/
theorem afterCall_pos (hfield : L.wordSize≤65535) (hwriting : s.header.writeStartCursor ≤ s.header.writeEndCursor)
    (hunread : 0<unreadWords s d.m_reader.id) : (afterCall d s ⟨true,true,65535,0⟩).2≠0 := by
  obtain ⟨hover,hopen,hbehind⟩ := unreadWords_pos_iff.mp hunread
  have hroom : ¬(65535 : Index).toNat<L.wordSize := Nat.not_lt.mpr hfield
  have hwords : (UInt64.ofNat ((65535 : Index).toNat / L.wordSize))≠0 := by
    have hdiv : 0<65535 / L.wordSize := Nat.div_pos hfield L.wordSize_pos
    have hle : 65535 / L.wordSize≤65535 := Nat.div_le_self _ _
    have hvalue : (UInt64.ofNat (65535 / L.wordSize)).toNat=65535 / L.wordSize :=
      UInt64.toNat_ofNat_of_lt' (Nat.lt_of_le_of_lt hle (by decide))
    intro hzero
    rw [show (65535 : Index).toNat=65535 from rfl] at hzero
    rw [hzero] at hvalue
    exact absurd hvalue.symm (Nat.pos_iff_ne_zero.mp hdiv)
  have hend : (s.readers d.m_reader.id).cursor ≤ s.header.writeEndCursor :=
    UInt64.le_trans (UInt64.le_of_lt hbehind) hwriting
  obtain ⟨v,hread⟩ := read_of_within d.m_reader.policy 0 hwriting hwords hopen hbehind
    (within_of_not_overrun hover hend)
  obtain ⟨hpos,_,_⟩ := wordsToRead_bounds hwords hopen hbehind
  unfold afterCall read
  rw [if_neg (by decide),if_neg (by decide),if_neg (by decide),if_neg (by decide),if_neg hroom]
  have htimeout : (0 : ℤ).toNat=0 := rfl
  rw [htimeout,hread]
  exact Nat.pos_iff_ne_zero.mp (Nat.mul_pos hpos L.wordSize_pos)

section

variable (hwriting : s.header.writeStartCursor ≤ s.header.writeEndCursor)
include hwriting

theorem unreadWords_copyOut (hover : ¬Overrun s id) (hopen : (s.readers id).cursor<(s.readers id).closeIndex)
    (hbehind : (s.readers id).cursor<s.header.writeStartCursor) {nWords : Index} (hn : nWords≠0) :
    ∃ taken bytes,(s.copyOut id nWords (s.header.writeStartCursor-(s.readers id).cursor)).2=.words taken bytes ∧
      0<taken.toNat ∧
      unreadWords (s.copyOut id nWords (s.header.writeStartCursor-(s.readers id).cursor)).1 id+taken.toNat =
        unreadWords s id := by
  obtain ⟨hpos,hstop,hclose⟩ := wordsToRead_bounds hn hopen hbehind
  have hlimit := UInt64.toNat_lt s.header.writeStartCursor
  have hle : (s.readers id).cursor ≤ s.header.writeEndCursor :=
    UInt64.le_trans (UInt64.le_of_lt hbehind) hwriting
  have hring := within_of_not_overrun hover hle
  rw [UInt64.le_iff_toNat_le] at hwriting
  unfold Stream.copyOut
  dsimp only
  generalize wordsToRead (s.readers id) nWords (s.header.writeStartCursor-(s.readers id).cursor)=taken at *
  have hsum : ((s.readers id).cursor+taken).toNat=(s.readers id).cursor.toNat+taken.toNat :=
    toNat_add_of_lt (by omega)
  have hbefore : (s.readers id).cursor+taken ≤ s.header.writeEndCursor := UInt64.le_iff_toNat_le.mpr (by omega)
  have hafter : ¬L.dataSize<s.header.writeEndCursor-((s.readers id).cursor+taken) := by
    rw [UInt64.lt_iff_toNat_lt,UInt64.toNat_sub_of_le _ _ hbefore,hsum]
    omega
  rw [if_neg hafter]
  refine ⟨taken,_,rfl,hpos,?_⟩
  generalize hmoved : (s.setReader id {s.readers id with
    cursor := (s.readers id).cursor+taken}).updateOldestUnconsumedCursor=moved
  obtain ⟨_,hstart,hend⟩ := ((readersOnly_setReader s id {s.readers id with
    cursor := (s.readers id).cursor+taken}).trans (readersOnly_updateOldest _)).sameWords
  have hreader : (s.setReader id {s.readers id with
      cursor := (s.readers id).cursor+taken}).updateOldestUnconsumedCursor.readers id =
      {s.readers id with cursor := (s.readers id).cursor+taken} := by
    rw [updateOldest_readers]
    exact Function.update_self ..
  rw [hmoved] at hstart hend hreader
  have hoverMoved : ¬Overrun moved id := by
    rintro ⟨_,hfar⟩
    rw [hreader,hend] at hfar
    exact hafter hfar
  unfold unreadWords
  rw [if_neg hoverMoved,if_neg hover,hreader,hstart]
  dsimp only
  rw [hsum]
  omega

/-- The words that a call delivers are those that are then no longer unread. -/
theorem afterCall_unread (call : Call) : SameWords s (afterCall d s call).1 ∧
      unreadWords (afterCall d s call).1 d.m_reader.id*L.wordSize+(afterCall d s call).2 =
        unreadWords s d.m_reader.id*L.wordSize := by
  unfold afterCall
  rcases read_cases_call d s call with ⟨delivery,hread,hnothing⟩|hread
  · rw [hread]
    dsimp only
    rw [hnothing]
    exact ⟨SameWords.refl s,rfl⟩
  · rw [hread]
    cases hstream : s.read d.m_reader.id d.m_reader.policy call.hasBuf
        (ofNat (call.numBytes.toNat / L.wordSize)) call.timeoutMs.toNat with
    | none => exact ⟨SameWords.refl s,rfl⟩
    | some answer =>
      obtain ⟨u,result⟩ := answer
      rw [Option.map_some]
      dsimp only
      have hwords : SameWords s u := (readersOnly_read hstream).sameWords
      have hdelivered := sameWords_deliver d u result
      refine ⟨⟨hdelivered.1.trans hwords.1,hdelivered.2.1.trans hwords.2.1,hdelivered.2.2.trans hwords.2.2⟩,?_⟩
      rcases read_cases hstream with ⟨rfl,error,rfl,hover⟩|⟨hn,hopen,hover,htell,hcopy⟩
      · rw [deliver_error,add_zero]
        by_cases herror : error=.overrun
        · subst herror
          have hoverrun : Overrun u d.m_reader.id := (hover rfl).2
          have hnone : unreadWords u d.m_reader.id=0 := if_pos hoverrun
          rw [unreadWords_deliver_overrun hoverrun,hnone]
        · rw [deliver_error_stream herror]
      · obtain ⟨hbehind,htellEq⟩ := tell_beforeWriter_ne_zero htell
        rw [htellEq] at hcopy
        obtain ⟨taken,bytes,hresult,_,hunread⟩ := unreadWords_copyOut hwriting hover hopen hbehind hn
        rw [←hcopy] at hresult hunread
        dsimp only at hresult hunread
        rw [hresult,←hunread,add_mul]
        rfl

/-- The words that some calls deliver are those that are then no longer unread. -/
theorem afterCalls_unread (calls : List Call) : SameWords s (afterCalls d s calls).1 ∧
      unreadWords (afterCalls d s calls).1 d.m_reader.id*L.wordSize+(afterCalls d s calls).2 =
        unreadWords s d.m_reader.id*L.wordSize := by
  induction calls generalizing s with
  | nil => exact ⟨SameWords.refl s,rfl⟩
  | cons call calls ih =>
    obtain ⟨hfirst,hdelivered⟩ := afterCall_unread (d := d) hwriting call
    have hwritingNext : (afterCall d s call).1.header.writeStartCursor ≤
        (afterCall d s call).1.header.writeEndCursor := by
      rw [hfirst.2.1,hfirst.2.2]
      exact hwriting
    obtain ⟨hrest,hdeliveredRest⟩ := ih hwritingNext
    unfold afterCalls
    dsimp only
    exact ⟨⟨hrest.1.trans hfirst.1,hrest.2.1.trans hfirst.2.1,hrest.2.2.trans hfirst.2.2⟩,by omega⟩

end

section

variable (hfield : L.wordSize≤65535) (hwriting : s.header.writeStartCursor ≤ s.header.writeEndCursor)
include hfield hwriting

/-- No data is returned any more when no word can be read. -/
theorem exhausted_iff : Exhausted d s ↔ unreadWords s d.m_reader.id=0 := by
  constructor
  · intro hexhausted
    by_contra hunread
    exact afterCall_pos hfield hwriting (Nat.pos_of_ne_zero hunread) (hexhausted _)
  · intro hunread call
    have hdelivered := (afterCall_unread (d := d) hwriting call).2
    rw [hunread] at hdelivered
    omega

theorem exists_exhausted : ∃ calls,Exhausted d (afterCalls d s calls).1 := by
  generalize hn : unreadWords s d.m_reader.id=n
  induction n using Nat.strongRecOn generalizing s with
  | ind n ih =>
    rcases Nat.eq_zero_or_pos n with hzero|hpos
    · exact ⟨[],(exhausted_iff hfield hwriting).mpr (hn.trans hzero)⟩
    · obtain ⟨hwords,hdelivered⟩ := afterCall_unread (d := d) hwriting ⟨true,true,65535,0⟩
      have hsome := afterCall_pos (d := d) hfield hwriting (hn ▸ hpos)
      have hless : unreadWords (afterCall d s ⟨true,true,65535,0⟩).1 d.m_reader.id<n := by
        refine Nat.lt_of_mul_lt_mul_right (a := L.wordSize) ?_
        rw [←hn]
        omega
      have hwritingNext : (afterCall d s ⟨true,true,65535,0⟩).1.header.writeStartCursor ≤
          (afterCall d s ⟨true,true,65535,0⟩).1.header.writeEndCursor := by
        rw [hwords.2.1,hwords.2.2]
        exact hwriting
      obtain ⟨calls,hcalls⟩ := ih _ hless hwritingNext rfl
      exact ⟨⟨true,true,65535,0⟩::calls,hcalls⟩

/-- It is the size of the words that can be read. -/
theorem exact_iff_unreadWords : Exact d s ↔ unreadWords s d.m_reader.id*L.wordSize=(getNumUnreadBytes d s).toNat := by
  have htotal (calls : List Call) (h : Exhausted d (afterCalls d s calls).1) :
      (afterCalls d s calls).2=unreadWords s d.m_reader.id*L.wordSize := by
    obtain ⟨hwords,hdelivered⟩ := afterCalls_unread (d := d) hwriting calls
    have hwritingNext : (afterCalls d s calls).1.header.writeStartCursor ≤
        (afterCalls d s calls).1.header.writeEndCursor := by
      rw [hwords.2.1,hwords.2.2]
      exact hwriting
    rw [(exhausted_iff hfield hwritingNext).mp h] at hdelivered
    omega
  constructor
  · rintro ⟨⟨calls,hcalls⟩,hall⟩
    rw [←htotal calls hcalls]
    exact hall calls hcalls
  · intro h
    exact ⟨exists_exhausted hfield hwriting,fun calls hcalls => (htotal calls hcalls).trans h⟩

end

/-- It is exact if and only if nothing is before the writer, or the reader has not been overrun and either is
not closed before the writer and has words of one byte, or is closed where the words up to there have as many
bytes. -/
theorem getNumUnreadBytes_exact_iff (d : AttachmentReader L) (s : Stream L) (hfield : L.wordSize≤65535)
    (hwriting : s.header.writeStartCursor ≤ s.header.writeEndCursor) : Exact d s ↔
      s.header.writeStartCursor≤(s.readers d.m_reader.id).cursor ∨ ¬Overrun s d.m_reader.id ∧
          (s.header.writeStartCursor≤(s.readers d.m_reader.id).closeIndex ∧ L.wordSize=1 ∨
            (s.readers d.m_reader.id).cursor<(s.readers d.m_reader.id).closeIndex ∧
              (s.readers d.m_reader.id).closeIndex<s.header.writeStartCursor ∧
              ((s.readers d.m_reader.id).closeIndex-(s.readers d.m_reader.id).cursor).toNat*L.wordSize =
                (s.header.writeStartCursor-(s.readers d.m_reader.id).cursor).toNat) := by
  rw [exact_iff_unreadWords hfield hwriting]
  unfold getNumUnreadBytes unreadWords
  generalize d.m_reader.id=id
  by_cases hbehind : s.header.writeStartCursor≤(s.readers id).cursor
  · have hle := UInt64.le_iff_toNat_le.mp hbehind
    have hnumber : (s.tell id .beforeWriter).toNat=0 := by
      unfold Stream.tell
      dsimp only
      split
      · next hge => rw [UInt64.toNat_sub_of_le _ _ hge,Nat.sub_eq_zero_of_le hle]
      · rfl
    have hunread : (if Overrun s id then 0
        else min s.header.writeStartCursor.toNat (s.readers id).closeIndex.toNat-(s.readers id).cursor.toNat)=0 := by
      split
      · rfl
      · omega
    rw [hnumber,hunread,Nat.zero_mul]
    exact iff_of_true rfl (.inl hbehind)
  · have hlt : (s.readers id).cursor.toNat<s.header.writeStartCursor.toNat := by
      rw [UInt64.le_iff_toNat_le] at hbehind
      omega
    have hge : (s.readers id).cursor ≤ s.header.writeStartCursor := UInt64.le_iff_toNat_le.mpr (Nat.le_of_lt hlt)
    have hnumber : s.tell id .beforeWriter=s.header.writeStartCursor-(s.readers id).cursor := if_pos hge
    have hdistance := UInt64.toNat_sub_of_le _ _ hge
    rw [hnumber,or_iff_right hbehind]
    by_cases hover : Overrun s id
    · rw [if_pos hover,Nat.zero_mul]
      exact iff_of_false (by omega) fun h => h.1 hover
    · rw [if_neg hover,and_iff_right hover,UInt64.le_iff_toNat_le,UInt64.lt_iff_toNat_lt,UInt64.lt_iff_toNat_lt]
      rcases Nat.lt_or_ge (s.readers id).closeIndex.toNat s.header.writeStartCursor.toNat with hcut|hopen
      · rw [Nat.min_eq_right (Nat.le_of_lt hcut),or_iff_right fun h => absurd h.1 (by omega),and_iff_right hcut]
        rcases Nat.lt_or_ge (s.readers id).cursor.toNat (s.readers id).closeIndex.toNat with hsome|hnone
        · rw [and_iff_right hsome,UInt64.toNat_sub_of_le _ _ (UInt64.le_iff_toNat_le.mpr (Nat.le_of_lt hsome))]
        · rw [Nat.sub_eq_zero_of_le hnone,Nat.zero_mul]
          exact iff_of_false (by omega) fun h => absurd h.1 (by omega)
      · rw [Nat.min_eq_left hopen,or_iff_left fun h => absurd h.2.1 (by omega),and_iff_right hopen,hdistance]
        exact Nat.mul_eq_left (by omega)

/-- Two words of one byte have been written, and none was read. -/
def twoUnread : Stream twoWords where
  header := ⟨true,false,2,2,0⟩
  readers := fun _ => ⟨true,0,maxIndex⟩
  data := fun _ => 0

/-- The number is two, and two bytes are delivered. -/
theorem getNumUnreadBytes_exact_two : Exact ⟨⟨.nonblocking,⟨0,one_pos⟩,true⟩,false⟩ twoUnread :=
  (getNumUnreadBytes_exact_iff _ _ (by decide) (by decide)).mpr (.inr ⟨by decide,.inl ⟨by decide,rfl⟩⟩)

/-- Two words of two bytes, and one reader. -/
def longWords : Layout where
  wordSize := 2
  dataSize := 2
  maxReaders := 1
  maxEphemeralReaders := 0
  wordSize_pos := Nat.two_pos
  dataSize_pos := Nat.two_pos
  ephemeral_le := Nat.one_pos.le

def longWord : WriteBuffer longWords := ⟨1,[7,8],rfl⟩

/-- One word of two bytes: the number is one, and two are delivered. -/
theorem getNumUnreadBytes_counts_words : ∃ s : System longWords, (System.init longWords fun _ => 0).exec
          [.createWriter .nonblockable false,.createReaderAt ⟨0,one_pos⟩ .nonblocking true false,
            .write 0 (some longWord) 0] = some (s,[(.createWriter .nonblockable false,.created (some 0)),
          (.createReaderAt ⟨0,one_pos⟩ .nonblocking true false,.created (some 0)),
          (.write 0 (some longWord) 0,.wrote (.words 1))]) ∧
      getNumUnreadBytes ⟨⟨.nonblocking,⟨0,one_pos⟩,true⟩,false⟩ s.stream=1 ∧
      (afterCalls ⟨⟨.nonblocking,⟨0,one_pos⟩,true⟩,false⟩ s.stream [⟨true,true,10,0⟩]).2=2 ∧
      Exhausted ⟨⟨.nonblocking,⟨0,one_pos⟩,true⟩,false⟩
        (afterCalls ⟨⟨.nonblocking,⟨0,one_pos⟩,true⟩,false⟩ s.stream [⟨true,true,10,0⟩]).1 ∧
      ¬Exact ⟨⟨.nonblocking,⟨0,one_pos⟩,true⟩,false⟩ s.stream := by
  refine ⟨_,rfl,rfl,rfl,?_,fun hexact => ?_⟩
  · exact (exhausted_iff (by decide) (by decide)).mpr (by decide)
  · exact absurd ((exact_iff_unreadWords (by decide) (by decide)).mp hexact) (by decide)

end AlexaClientSDK.DefaultAttachmentReader
