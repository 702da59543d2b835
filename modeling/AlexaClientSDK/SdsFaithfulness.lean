import AlexaClientSDK.SharedDataStream

/-!
# Readers see the stream that was written

The ring holds the tail of all accepted words. Every operation keeps that, as long as the write cursor has not wrapped,
so a read that returns words returns the stretch of the stream behind its cursor.
-/

namespace AlexaClientSDK.SdsFaithfulness

open Nat UInt64 Option List CircularMemory LabelledRuns SharedDataStream System

variable {L : Layout}

theorem memcpy_nil {α : Type*} {N : ℕ} (mem : Fin N → α) (off : ℕ) : memcpy mem off []=mem := by
  funext i
  exact memcpy_of_not_mem (by simp only [length_nil]; omega)

/-- A word's offset in the ring is its byte position modulo the ring size. -/
theorem getData_eq (i : Index) : getData L i=(i.toNat*L.wordSize)%L.size := by
  unfold getData Layout.size
  rw [UInt64.toNat_mod,mul_mod_mul_right]

theorem wordsUntilWrap_toNat (i : Index) : (wordsUntilWrap L i).toNat=L.dataSize.toNat-i.toNat%L.dataSize.toNat := by
  have hlt := mod_lt i.toNat L.dataSize_pos
  unfold wordsUntilWrap
  rw [UInt64.toNat_sub_of_le,UInt64.toNat_mod]
  rw [UInt64.le_iff_toNat_le,UInt64.toNat_mod]
  omega

theorem wordsUntilWrap_bytes (i : Index) :
    (wordsUntilWrap L i).toNat*L.wordSize=untilWrap L.size (i.toNat*L.wordSize) := by
  rw [wordsUntilWrap_toNat]
  unfold untilWrap Layout.size
  rw [Nat.mul_mod_mul_right,Nat.sub_mul]

/-- The smaller of two machine words, as the source writes it. -/
theorem toNat_ite_lt (a b : Index) : (if a<b then a else b).toNat=min a.toNat b.toNat := by
  split
  · rename_i h
    rw [lt_iff_toNat_lt] at h
    omega
  · rename_i h
    rw [lt_iff_toNat_lt] at h
    omega

theorem toNat_add_of_lt {a b : Index} (h : a.toNat+b.toNat<2^64) : (a+b).toNat=a.toNat+b.toNat := by
  rw [UInt64.toNat_add,mod_eq_of_lt h]

/-- The first piece of a copy never exceeds the whole. -/
theorem beforeWrap_toNat (i n : Index) :
    (beforeWrap L i n).toNat=min n.toNat (wordsUntilWrap L i).toNat := toNat_ite_lt _ _

/-- The first piece of a copy of `n` words from cursor `i`, in bytes. -/
theorem beforeWrap_bytes (i n : Index) : (beforeWrap L i n).toNat*L.wordSize =
      min (untilWrap L.size (i.toNat*L.wordSize)) (n.toNat*L.wordSize) := by
  rw [beforeWrap_toNat,←wordsUntilWrap_bytes,Nat.mul_min_mul_right,Nat.min_comm]

theorem afterWrap_bytes (i n : Index) : (n-beforeWrap L i n).toNat*L.wordSize = n.toNat*L.wordSize -
        min (untilWrap L.size (i.toNat*L.wordSize)) (n.toNat*L.wordSize) := by
  have hle : beforeWrap L i n≤n := by
    rw [UInt64.le_iff_toNat_le,beforeWrap_toNat]
    omega
  rw [←beforeWrap_bytes,←Nat.sub_mul,UInt64.toNat_sub_of_le _ _ hle]

variable {n : Index} {i writeEnd : Index}

/-- The second piece starts where the first one ended. -/
theorem second_offset (h : i.toNat+n.toNat<2^64) : getData L (i+beforeWrap L i n) = (i.toNat*L.wordSize +
        min (untilWrap L.size (i.toNat*L.wordSize)) (n.toNat*L.wordSize))%L.size := by
  have hlt : i.toNat+(beforeWrap L i n).toNat<2^64 := by
    rw [beforeWrap_toNat]
    omega
  rw [getData_eq,toNat_add_of_lt hlt,add_mul,beforeWrap_bytes]

/-- No second piece means no bytes behind the wrap. -/
theorem afterWrap_none (h : ¬0<n-beforeWrap L i n) : n.toNat*L.wordSize -
      min (untilWrap L.size (i.toNat*L.wordSize)) (n.toNat*L.wordSize)=0 := by
  have hzero := afterWrap_bytes (L := L) i n
  rw [UInt64.lt_iff_toNat_lt,UInt64.toNat_zero,Nat.not_lt,Nat.le_zero] at h
  rw [h,Nat.zero_mul] at hzero
  exact hzero.symm

theorem spaceAvailable_le (L : Layout) (h : Header) : (spaceAvailable L h).toNat≤L.dataSize.toNat := by
  unfold spaceAvailable
  split
  · rw [toNat_ite_lt]
    omega
  · exact le_rfl

variable {policy : WriterPolicy} {nWords : Index} {timeout : ℕ}

/-- What a granted reservation promises, when an all-or-nothing request is no larger than the ring. -/
theorem reserve_granted {h : Header} (hr : reserve L h policy nWords timeout=.granted n writeEnd)
    (hfit : policy=.allOrNothing → nWords≤L.dataSize) :
    n.toNat≤nWords.toNat ∧ n.toNat≤L.dataSize.toNat ∧ writeEnd=h.writeStartCursor+n := by
  cases policy with
  | nonblockable =>
    simp only [reserve] at hr
    split at hr
    · rename_i hbig
      cases hr
      rw [lt_iff_toNat_lt] at hbig
      exact ⟨by omega,le_rfl,rfl⟩
    · rename_i hsmall
      cases hr
      rw [lt_iff_toNat_lt] at hsmall
      exact ⟨le_rfl,by omega,rfl⟩
  | allOrNothing =>
    have hle := hfit rfl
    rw [le_iff_toNat_le] at hle
    simp only [reserve] at hr
    split at hr
    · cases hr
    · cases hr
      exact ⟨le_rfl,hle,rfl⟩
  | blocking =>
    simp only [reserve] at hr
    split at hr
    · have hroom := spaceAvailable_le L h
      split at hr
      · rename_i hless
        cases hr
        rw [lt_iff_toNat_lt] at hless
        exact ⟨by omega,hroom,rfl⟩
      · rename_i hless
        cases hr
        rw [lt_iff_toNat_lt] at hless
        exact ⟨le_rfl,by omega,rfl⟩
    · split at hr <;> cases hr

variable {data : Fin L.size → UInt8} {start : Index}

/-- The two `memcpy` calls of a writer are the circular write of its words. -/
theorem copyToRing_eq {buf8 : List UInt8}
    (hend : start.toNat+n.toNat<2^64) (hbytes : n.toNat*L.wordSize≤buf8.length) : copyToRing L data start buf8 n =
      circularWrite data (start.toNat*L.wordSize) (buf8.take (n.toNat*L.wordSize)) := by
  have hlen : (buf8.take (n.toNat*L.wordSize)).length=n.toNat*L.wordSize := by
    rw [length_take]
    omega
  simp only [copyToRing,circularWrite,hlen]
  rw [beforeWrap_bytes,getData_eq,take_take,Nat.min_eq_left (Nat.min_le_right _ _),
    second_offset hend,afterWrap_bytes,drop_take]
  split
  · rfl
  · rename_i hnone
    rw [afterWrap_none hnone,take_zero,memcpy_nil]

theorem copyFromRing_eq (hend : start.toNat+n.toNat<2^64) : copyFromRing L data start n =
      circularRead data (start.toNat*L.wordSize) (n.toNat*L.wordSize) := by
  simp only [copyFromRing,circularRead]
  rw [beforeWrap_bytes,getData_eq,second_offset hend,afterWrap_bytes]
  split
  · rfl
  · rename_i hnone
    rw [afterWrap_none hnone]
    simp only [fetch,take_zero,append_nil]

variable {s : Stream L}

/-- A copy of at most one turn takes the caller's words from the front. -/
theorem copyIn_data {bytes : List UInt8} (hn : n.toNat≤L.dataSize.toNat) :
    (s.copyIn policy bytes n writeEnd).data = copyToRing L s.data s.header.writeStartCursor bytes n := by
  have hcopy : (if policy=.allOrNothing ∧ L.dataSize<n then L.dataSize else n)=n := by
    rw [if_neg]
    rintro ⟨_,hbig⟩
    rw [UInt64.lt_iff_toNat_lt] at hbig
    omega
  simp only [Stream.copyIn,hcopy,UInt64.sub_self,UInt64.toNat_zero,Nat.zero_mul,drop_zero]

theorem copyIn_header (s : Stream L) (policy : WriterPolicy) (bytes : List UInt8) (n writeEnd : Index) :
    (s.copyIn policy bytes n writeEnd).header =
      {s.header with writeStartCursor := writeEnd,writeEndCursor := writeEnd} := rfl

/-- Same words, same write cursors. -/
def SameWords (s t : Stream L) : Prop :=
  t.data=s.data ∧ t.header.writeStartCursor=s.header.writeStartCursor ∧ t.header.writeEndCursor=s.header.writeEndCursor

theorem SameWords.refl (s : Stream L) : SameWords s s := ⟨rfl,rfl,rfl⟩

/-- But reader slots and the bound the readers ask for. -/
def ReadersOnly (s t : Stream L) : Prop :=
  t.data=s.data ∧ ∃ oldest,t.header={s.header with oldestUnconsumedCursor := oldest}

theorem ReadersOnly.refl (s : Stream L) : ReadersOnly s s := ⟨rfl,_,rfl⟩

variable {t : Stream L}

theorem ReadersOnly.trans {u : Stream L} (h : ReadersOnly s t) (h' : ReadersOnly t u) : ReadersOnly s u := by
  obtain ⟨hdata,oldest,hheader⟩ := h
  obtain ⟨hdata',oldest',hheader'⟩ := h'
  refine ⟨hdata'.trans hdata,oldest',?_⟩
  rw [hheader',hheader]

theorem ReadersOnly.sameWords (h : ReadersOnly s t) : SameWords s t := by
  obtain ⟨hdata,oldest,hheader⟩ := h
  rw [SameWords,hheader]
  exact ⟨hdata,rfl,rfl⟩

section

variable (s)

theorem readersOnly_setReader (id : Fin L.maxReaders) (slot : ReaderSlot) :
    ReadersOnly s (s.setReader id slot) := ⟨rfl,_,rfl⟩

theorem readersOnly_updateOldest : ReadersOnly s s.updateOldestUnconsumedCursor := by
  unfold Stream.updateOldestUnconsumedCursor
  split <;> exact ⟨rfl,_,rfl⟩

section

variable (id : Fin L.maxReaders)

theorem readersOnly_seek (offset : Index) (reference : Reference) : ReadersOnly s (s.seek id offset reference).1 := by
  unfold Stream.seek
  split
  · exact ReadersOnly.refl s
  · dsimp only
    split
    · exact ReadersOnly.refl s
    · split
      · exact ReadersOnly.refl s
      · split
        · exact ReadersOnly.trans ⟨rfl,_,rfl⟩ (readersOnly_updateOldest _)
        · exact (readersOnly_setReader s _ _).trans (readersOnly_updateOldest _)

theorem readersOnly_destroyReader : ReadersOnly s (s.destroyReader id) :=
  ((readersOnly_seek s id 0 .beforeWriter).trans (readersOnly_setReader _ _ _)).trans (readersOnly_updateOldest _)

theorem readersOnly_seekToOldData (retries : ℕ) : ReadersOnly s (s.seekToOldData id retries).1 := by
  induction retries generalizing s with
  | zero => exact readersOnly_destroyReader s id
  | succ retries ih =>
    simp only [Stream.seekToOldData]
    split
    · exact ih s
    · rename_i offset _
      have hseek := readersOnly_seek s id offset .beforeWriter
      split
      · exact hseek
      · exact hseek.trans (ih _)

theorem readersOnly_createReader (startWithNewData : Bool) : ReadersOnly s (s.createReader id startWithNewData).1 := by
  have hattach := readersOnly_setReader s id
    {enabled := true,cursor := s.header.writeStartCursor,closeIndex := maxIndex}
  unfold Stream.createReader
  split
  · exact hattach.trans (readersOnly_updateOldest _)
  · exact hattach.trans (readersOnly_seekToOldData _ id _)

theorem readersOnly_copyOut (nWords avail : Index) : ReadersOnly s (s.copyOut id nWords avail).1 :=
  (readersOnly_setReader s _ _).trans (readersOnly_updateOldest _)

end

end

variable {id : Fin L.maxReaders} {result : ReadResult}

theorem read_cases {policy : ReaderPolicy} {hasBuffer : Bool}
    (h : s.read id policy hasBuffer nWords timeout=some (t,result)) : (t=s ∧ ∃ e,result=.error e ∧
      (e=.overrun → (s.readers id).cursor<(s.readers id).closeIndex ∧
        (s.readers id).cursor ≤ s.header.writeEndCursor ∧ L.dataSize<s.header.writeEndCursor-(s.readers id).cursor)) ∨
    (nWords≠0 ∧ (s.readers id).cursor<(s.readers id).closeIndex ∧ ¬((s.readers id).cursor ≤ s.header.writeEndCursor ∧
        L.dataSize<s.header.writeEndCursor-(s.readers id).cursor) ∧
      s.tell id .beforeWriter≠0 ∧ (t,result)=s.copyOut id nWords (s.tell id .beforeWriter)) := by
  simp only [Stream.read] at h
  split at h
  · cases h
    exact .inl ⟨rfl,_,rfl,nofun⟩
  split at h
  · cases h
    exact .inl ⟨rfl,_,rfl,nofun⟩
  rename_i hzero
  split at h
  · cases h
    exact .inl ⟨rfl,_,rfl,nofun⟩
  rename_i hopen
  have hopen' : (s.readers id).cursor<(s.readers id).closeIndex := by
    rw [le_iff_toNat_le] at hopen
    rw [lt_iff_toNat_lt]
    omega
  split at h
  · rename_i hover
    cases h
    exact .inl ⟨rfl,_,rfl,fun _ => ⟨hopen',hover⟩⟩
  rename_i hover
  split at h
  · rename_i hnone
    split at h
    · cases h
      exact .inl ⟨rfl,_,rfl,nofun⟩
    · split at h
      · cases h
        exact .inl ⟨rfl,_,rfl,nofun⟩
      · split at h
        · cases h
          exact .inl ⟨rfl,_,rfl,nofun⟩
        · split at h
          · cases h
          · cases h
            exact .inl ⟨rfl,_,rfl,nofun⟩
  · rename_i hsome
    exact .inr ⟨hzero,hopen',hover,hsome,(Option.some.inj h).symm⟩

theorem readersOnly_read {policy : ReaderPolicy} {hasBuffer : Bool}
    (h : s.read id policy hasBuffer nWords timeout=some (t,result)) : ReadersOnly s t := by
  rcases read_cases h with ⟨rfl,_⟩|⟨_,_,_,_,hcopy⟩
  · exact ReadersOnly.refl t
  · have hs := readersOnly_copyOut s id nWords (s.tell id .beforeWriter)
    rw [←hcopy] at hs
    exact hs

/-- The cached bound is updated without touching a reader. -/
theorem updateOldest_readers (s : Stream L) : s.updateOldestUnconsumedCursor.readers=s.readers := by
  unfold Stream.updateOldestUnconsumedCursor
  split <;> rfl

theorem readersOnly_addReader (s : System L) (id : Fin L.maxReaders) (policy : ReaderPolicy)
    (startWithNewData : Bool) : ReadersOnly s.stream (s.addReader id policy startWithNewData).1.stream := by
  have hs := readersOnly_createReader s.stream id startWithNewData
  unfold addReader
  dsimp only
  split <;> exact hs

theorem sameWords_closeWriter (s : System L) (w : ℕ) (writer : Writer) (alive : Bool) :
    SameWords s.stream (s.closeWriter w writer alive).stream := by
  unfold closeWriter
  split
  · exact SameWords.refl _
  · unfold Stream.closeWriter
    split <;> exact ⟨rfl,rfl,rfl⟩

theorem write_cases {buf : Option (WriteBuffer L)} {result : WriteResult} (h : s.write policy buf timeout=some (t,result)) :
    (t=s ∧ ∃ e,result=.error e) ∨ (∃ b n writeEnd,buf=some b ∧ b.nWords≠0 ∧ s.header.isWriterEnabled=true ∧
      reserve L s.header policy b.nWords timeout=.granted n writeEnd ∧
      t=s.copyIn policy b.bytes n writeEnd ∧ result=.words n) := by
  cases buf with
  | none =>
    cases h
    exact .inl ⟨rfl,_,rfl⟩
  | some b =>
    simp only [Stream.write] at h
    split at h
    · cases h
      exact .inl ⟨rfl,_,rfl⟩
    rename_i hzero
    split at h
    · cases h
      exact .inl ⟨rfl,_,rfl⟩
    rename_i henabled
    split at h
    · cases h
    · cases h
      exact .inl ⟨rfl,_,rfl⟩
    · rename_i n writeEnd hgrant
      cases h
      exact .inr ⟨b,n,writeEnd,rfl,hzero,by simpa using henabled,hgrant,rfl,rfl⟩

/-- An unfinished write is dropped, words are appended, or nothing happens. -/
theorem step_words {s t : System L} {event : Event L} (h : Step s event t) :
    (accepted event=[] ∧ t.stream.data=s.stream.data ∧
      t.stream.header.writeStartCursor=s.stream.header.writeStartCursor ∧
      (t.stream.header.writeEndCursor=s.stream.header.writeEndCursor ∨
        t.stream.header.writeEndCursor=s.stream.header.writeStartCursor)) ∨ (∃ w writer buf timeout n writeEnd,
      event=(.write w (some buf) timeout,.wrote (.words n)) ∧ s.writer w=some writer ∧
      reserve L s.stream.header writer.policy buf.nWords timeout=.granted n writeEnd ∧
      t={s with stream := s.stream.copyIn writer.policy buf.bytes n writeEnd}) := by
  obtain ⟨op,out⟩ := event
  have hkeep : ∀ {u : System L},SameWords s.stream u.stream → u=t → accepted (op,out)=[] →
      accepted (op,out)=[] ∧ t.stream.data=s.stream.data ∧
      t.stream.header.writeStartCursor=s.stream.header.writeStartCursor ∧
      (t.stream.header.writeEndCursor=s.stream.header.writeEndCursor ∨
        t.stream.header.writeEndCursor=s.stream.header.writeStartCursor) := by
    rintro u hu rfl ha
    exact ⟨ha,hu.1,hu.2.1,.inl hu.2.2⟩
  unfold Step at h
  cases op
  all_goals simp only [step,bind_eq_bind,bind_eq_some_iff] at h
  case createWriter =>
    split at h
    · cases h
      exact .inl (hkeep (SameWords.refl _) rfl rfl)
    · cases h
      exact .inl ⟨rfl,rfl,rfl,.inr rfl⟩
  case createReader policy fresh =>
    split at h
    · cases h
      exact .inl (hkeep (SameWords.refl _) rfl rfl)
    · rename_i id _
      have hs := (readersOnly_addReader s id policy fresh).sameWords
      have he := Option.some.inj h
      rw [he] at hs
      exact .inl (hkeep hs rfl rfl)
  case createReaderAt id policy fresh _ =>
    split at h
    · cases h
      exact .inl (hkeep (SameWords.refl _) rfl rfl)
    · have hs := (readersOnly_addReader s id policy fresh).sameWords
      have he := Option.some.inj h
      rw [he] at hs
      exact .inl (hkeep hs rfl rfl)
  case write w buf timeout =>
    obtain ⟨writer,hw,⟨stream,result⟩,hwrite,hret⟩ := h
    cases hret
    rcases write_cases hwrite with ⟨rfl,e,rfl⟩|⟨b,n,writeEnd,rfl,_,_,hg,rfl,rfl⟩
    · refine .inl (hkeep (SameWords.refl _) rfl ?_)
      cases buf <;> rfl
    · exact .inr ⟨w,writer,b,timeout,n,writeEnd,rfl,hw,hg,rfl⟩
  case closeWriter w =>
    obtain ⟨writer,hw,hret⟩ := h
    cases hret
    exact .inl (hkeep (sameWords_closeWriter s w writer true) rfl rfl)
  case destroyWriter w =>
    obtain ⟨writer,hw,hret⟩ := h
    cases hret
    exact .inl (hkeep (sameWords_closeWriter s w writer false) rfl rfl)
  case read =>
    obtain ⟨reader,hr,⟨stream,result⟩,hread,hret⟩ := h
    cases hret
    have hs : SameWords s.stream {s with stream := stream}.stream := (readersOnly_read hread).sameWords
    exact .inl (hkeep hs rfl rfl)
  case seek r offset reference =>
    obtain ⟨reader,hr,hret⟩ := h
    cases hret
    exact .inl (hkeep (readersOnly_seek s.stream reader.id offset reference).sameWords rfl rfl)
  case closeReader r offset reference =>
    obtain ⟨reader,hr,hret⟩ := h
    cases hret
    have hs : SameWords s.stream (s.stream.closeReader reader.id offset reference) :=
      (readersOnly_setReader s.stream reader.id _).sameWords
    exact .inl ⟨rfl,hs.1,hs.2.1,.inl hs.2.2⟩
  case destroyReader =>
    obtain ⟨reader,hr,hret⟩ := h
    cases hret
    exact .inl (hkeep (readersOnly_destroyReader s.stream reader.id).sameWords rfl rfl)

/-- An all-or-nothing request is no larger than the ring. -/
def FitsRing (s : System L) : Event L → Prop
  | (.write w (some buf) _,_) =>
    ∀ writer,s.writer w=some writer → writer.policy=.allOrNothing → buf.nWords≤L.dataSize
  | _ => True

/-- The tail of the accepted bytes, which both cursors count. -/
structure Faithful (stream : List UInt8) (s : System L) : Prop where
  settled : s.stream.header.writeEndCursor=s.stream.header.writeStartCursor
  counted : stream.length=s.stream.header.writeStartCursor.toNat*L.wordSize
  /-- Slot `i % dataSize` holds word `i` for the last `dataSize` words. -/
  holds : Holds s.stream.data stream

theorem faithful_init (L : Layout) (data : Fin L.size → UInt8) : Faithful [] (init L data) where
  settled := rfl
  counted := by
    have hz : (init L data).stream.header.writeStartCursor.toNat=0 := rfl
    rw [hz,Nat.zero_mul,length_nil]
  holds := holds_nil _

/-- One operation keeps the ring faithful until the write cursor wraps. -/
theorem faithful_step {s t : System L} {event : Event L} {stream : List UInt8}
    (hs : Faithful stream s) (hfit : FitsRing s event) (h : Step s event t)
    (htotal : (stream++accepted event).length<2^64*L.wordSize) : Faithful (stream++accepted event) t := by
  rcases step_words h with ⟨ha,hd,hstart,hend⟩|⟨w,writer,buf,timeout,n,e,rfl,hw,hg,rfl⟩
  · rw [ha,append_nil]
    refine ⟨?_,by rw [hstart]; exact hs.counted,by rw [hd]; exact hs.holds⟩
    rw [hstart]
    rcases hend with hend|hend
    · rw [hend,hs.settled]
    · exact hend
  · obtain ⟨hle,hring,rfl⟩ := reserve_granted hg (hfit writer hw)
    have hbytes : n.toNat*L.wordSize≤buf.bytes.length := by
      rw [buf.bytes_length]
      exact Nat.mul_le_mul_right _ hle
    have hacc : accepted (L := L) (.write w (some buf) timeout,.wrote (.words n)) =
        buf.bytes.take (n.toNat*L.wordSize) := rfl
    have hlen : (buf.bytes.take (n.toNat*L.wordSize)).length=n.toNat*L.wordSize := by
      rw [length_take]
      omega
    rw [hacc] at htotal ⊢
    have hroom : s.stream.header.writeStartCursor.toNat+n.toNat<2^64 := by
      rw [length_append,hlen,hs.counted,←Nat.add_mul] at htotal
      exact Nat.lt_of_mul_lt_mul_right htotal
    refine ⟨rfl,?_,?_⟩
    · rw [length_append,hlen,hs.counted,copyIn_header]
      rw [toNat_add_of_lt hroom,Nat.add_mul]
    · rw [copyIn_data hring,copyToRing_eq hroom hbytes,←hs.counted]
      refine holds_circularWrite ?_ hs.holds
      rw [hlen]
      exact Nat.mul_le_mul_right _ hring

theorem acceptedBytes_snoc (trace : List (Event L)) (event : Event L) :
    acceptedBytes (trace++[event])=acceptedBytes trace++accepted event := by
  simp only [acceptedBytes,flatMap_append,flatMap_cons,flatMap_nil,append_nil]

/-- Every reachable ring is faithful until the write cursor wraps. -/
theorem faithful_of_run {trace : List (Event L)} {s : System L}
    (run : Run (Guarded Step FitsRing) (init L data) trace s)
    (htotal : (acceptedBytes trace).length<2^64*L.wordSize) : Faithful (acceptedBytes trace) s := by
  revert htotal
  refine run.induct (fun past s => (acceptedBytes past).length<2^64*L.wordSize →
    Faithful (acceptedBytes past) s) (fun _ => faithful_init L data) ?_
  intro past s event t ih hstep htotal
  rw [acceptedBytes_snoc] at htotal ⊢
  refine faithful_step (ih ?_) hstep.1 hstep.2 htotal
  rw [length_append] at htotal
  omega

/-- The words end at or before the write cursor and the close index, and there is at least one. -/
theorem wordsToRead_bounds {slot : ReaderSlot} (hn : nWords≠0)
    (hopen : slot.cursor<slot.closeIndex) (hbehind : slot.cursor<start) :
    0<(wordsToRead slot nWords (start-slot.cursor)).toNat ∧
      slot.cursor.toNat+(wordsToRead slot nWords (start-slot.cursor)).toNat ≤ start.toNat ∧
      slot.cursor.toNat+(wordsToRead slot nWords (start-slot.cursor)).toNat ≤ slot.closeIndex.toNat := by
  have hstart := toNat_lt start
  rw [lt_iff_toNat_lt] at hopen hbehind
  have hdist : (start-slot.cursor).toNat=start.toNat-slot.cursor.toNat :=
    UInt64.toNat_sub_of_le _ _ (by rw [UInt64.le_iff_toNat_le]; omega)
  have hleft : (slot.closeIndex-slot.cursor).toNat = slot.closeIndex.toNat-slot.cursor.toNat :=
    UInt64.toNat_sub_of_le _ _ (by rw [UInt64.le_iff_toNat_le]; omega)
  have hn' : 0<nWords.toNat := by
    rw [Ne,←UInt64.toNat_inj,UInt64.toNat_zero] at hn
    omega
  unfold wordsToRead
  dsimp only
  generalize hm : (if start-slot.cursor<nWords then start-slot.cursor else nWords)=m
  have hmin : m.toNat=min (start.toNat-slot.cursor.toNat) nWords.toNat := by
    rw [←hm,toNat_ite_lt,hdist]
  have hsum : (slot.cursor+m).toNat=slot.cursor.toNat+m.toNat :=
    toNat_add_of_lt (by omega)
  split
  · rename_i hcut
    rw [lt_iff_toNat_lt,hsum] at hcut
    rw [hleft]
    omega
  · rename_i hcut
    rw [lt_iff_toNat_lt,hsum] at hcut
    omega

theorem tell_beforeWriter_ne_zero (h : s.tell id .beforeWriter≠0) : (s.readers id).cursor<s.header.writeStartCursor ∧
      s.tell id .beforeWriter=s.header.writeStartCursor-(s.readers id).cursor := by
  simp only [Stream.tell] at h ⊢
  split at h
  · rename_i hle
    rw [if_pos hle]
    refine ⟨?_,rfl⟩
    rw [Ne,←UInt64.toNat_inj,UInt64.toNat_sub_of_le _ _ hle,UInt64.toNat_zero] at h
    rw [UInt64.lt_iff_toNat_lt]
    omega
  · exact absurd rfl h

/-- Every read in a run that has accepted fewer than `2 ^ 64` words, if it returns words, returns the stretch of
the stream at its cursor, moves only that, and stops at the write cursor and its close index. -/
theorem read_returns_stream {data : Fin L.size → UInt8} {trace : List (Event L)}
    {s t : System L} {r : ℕ} {hasBuffer : Bool} {nWords n : Index} {timeout : ℕ} {bytes : List UInt8}
    (run : Run (Guarded Step FitsRing) (init L data) trace s)
    (htotal : (acceptedBytes trace).length<2^64*L.wordSize)
    (hread : Step s (.read r hasBuffer nWords timeout,.got (.words n bytes)) t) :
    ∃ reader,s.reader r=some reader ∧ 0<n.toNat ∧
      bytes=((acceptedBytes trace).drop ((s.stream.readers reader.id).cursor.toNat*L.wordSize)).take
        (n.toNat*L.wordSize) ∧ bytes.length=n.toNat*L.wordSize ∧ (t.stream.readers reader.id).cursor.toNat =
        (s.stream.readers reader.id).cursor.toNat+n.toNat ∧
      (∀ id,id≠reader.id → t.stream.readers id=s.stream.readers id) ∧
      (t.stream.readers reader.id).cursor ≤ s.stream.header.writeStartCursor ∧
      (t.stream.readers reader.id).cursor≤(s.stream.readers reader.id).closeIndex := by
  obtain ⟨hsettled,hcount,hholds⟩ := faithful_of_run run htotal
  simp only [Step,step,bind_eq_bind,bind_eq_some_iff] at hread
  obtain ⟨reader,hr,⟨stream,result⟩,hread,hret⟩ := hread
  cases hret
  refine ⟨reader,hr,?_⟩
  rcases read_cases hread with ⟨_,_,hbad,_⟩|⟨hn,hopen,hover,htell,hcopy⟩
  · cases hbad
  obtain ⟨hbehind,htell⟩ := tell_beforeWriter_ne_zero htell
  obtain ⟨hpos,hstart,hclose⟩ := wordsToRead_bounds hn hopen hbehind
  have hlimit := toNat_lt s.stream.header.writeStartCursor
  rw [htell] at hcopy
  simp only [Stream.copyOut,Prod.mk.injEq] at hcopy
  obtain ⟨rfl,hresult⟩ := hcopy
  split at hresult
  · cases hresult
  cases hresult
  generalize wordsToRead (s.stream.readers reader.id) nWords
    (s.stream.header.writeStartCursor-(s.stream.readers reader.id).cursor)=n at *
  -- the reader is not overrun, so its window is still in the ring
  have hwin : s.stream.header.writeStartCursor.toNat ≤ (s.stream.readers reader.id).cursor.toNat+L.dataSize.toNat := by
    rw [hsettled] at hover
    by_contra hfar
    refine hover ⟨?_,?_⟩
    · rw [le_iff_toNat_le]
      omega
    · rw [UInt64.lt_iff_toNat_lt,UInt64.toNat_sub_of_le _ _ (by rw [UInt64.le_iff_toNat_le]; omega)]
      omega
  have hsum : ((s.stream.readers reader.id).cursor+n).toNat =
      (s.stream.readers reader.id).cursor.toNat+n.toNat := toNat_add_of_lt (by omega)
  have hbytes : copyFromRing L s.stream.data (s.stream.readers reader.id).cursor n =
      ((acceptedBytes trace).drop ((s.stream.readers reader.id).cursor.toNat*L.wordSize)).take
        (n.toNat*L.wordSize) := by
    rw [copyFromRing_eq (by omega)]
    refine circularRead_eq hholds ?_ ?_
    · rw [hcount,Layout.size,←add_mul]
      exact mul_le_mul_right _ hwin
    · rw [hcount,←add_mul]
      exact mul_le_mul_right _ hstart
  have hlen : (copyFromRing L s.stream.data (s.stream.readers reader.id).cursor n).length = n.toNat*L.wordSize := by
    have hle := mul_le_mul_right L.wordSize hstart
    rw [hbytes,length_take,length_drop,hcount]
    rw [add_mul] at hle
    omega
  have hmoved : ∀ (slot : ReaderSlot) (id : Fin L.maxReaders),
      (s.stream.setReader reader.id slot).updateOldestUnconsumedCursor.readers id =
        Function.update s.stream.readers reader.id slot id := by
    intro slot id
    rw [updateOldest_readers]
    rfl
  simp only [hmoved,Function.update_self]
  refine ⟨hpos,hbytes,hlen,hsum,?_,?_,?_⟩
  · intro id hid
    rw [Function.update_of_ne hid]
  · rw [le_iff_toNat_le,hsum]
    exact hstart
  · rw [le_iff_toNat_le,hsum]
    exact hclose

/-- A ring of a single one-byte word with a single reader. -/
def oneWord : Layout where
  wordSize := 1
  dataSize := 1
  maxReaders := 1
  maxEphemeralReaders := 1
  wordSize_pos := by decide
  dataSize_pos := by decide
  ephemeral_le := by decide

def oneByte (b : UInt8) : WriteBuffer oneWord := ⟨1,[b],rfl⟩

section

variable (cursor : Index)

/-- The one-word ring between two writes of a non-blockable writer. -/
def betweenWrites (b : UInt8) : System oneWord where
  stream :=
    { header := ⟨true, false, cursor, cursor, 0⟩
      readers := fun _ => ⟨false, 0, 0⟩
      data := fun _ => b }
  writers := [⟨.nonblockable, false, true⟩]
  readers := []

theorem oneWord_cell (i : Fin oneWord.size) : i.val=0 := by
  have hi : i.val<1 := i.isLt
  omega

theorem copyToRing_oneByte (a b : UInt8) : copyToRing oneWord (fun _ => a) cursor [b] 1=fun _ => b := by
  have hmod : cursor%1=0 := by
    rw [←UInt64.toNat_inj,UInt64.toNat_mod]
    exact mod_one _
  have hwrap : wordsUntilWrap oneWord cursor=1 := by
    have he : wordsUntilWrap oneWord cursor=1-cursor%1 := rfl
    rw [he,hmod]
    rfl
  have hoff : getData oneWord cursor=0 := by
    have he : getData oneWord cursor=(cursor%1).toNat*1 := rfl
    rw [he,hmod]
    rfl
  have hbefore : beforeWrap oneWord cursor 1=1 := by
    unfold beforeWrap
    rw [hwrap]
    rfl
  funext i
  have hcopy : copyToRing oneWord (fun _ => a) cursor [b] 1 i = memcpy (fun _ => a) 0 [b] i := by
    simp only [copyToRing,hbefore,hoff]
    rfl
  rw [hcopy]
  unfold memcpy
  rw [dif_pos (by simp [oneWord_cell i])]
  simp [oneWord_cell i]

theorem step_oneByte (a b : UInt8) : Step (betweenWrites cursor a) (.write 0 (some (oneByte b)) 0, .wrote (.words 1))
      (betweenWrites (cursor + 1) b) := by
  have hw : (betweenWrites cursor a).writer 0 = some ⟨.nonblockable, false, true⟩ := rfl
  have hwrite : (betweenWrites cursor a).stream.write .nonblockable (some (oneByte b)) 0 =
      some ((betweenWrites cursor a).stream.copyIn .nonblockable [b] 1 (cursor + 1), .words 1) := rfl
  have hcopy : (betweenWrites cursor a).stream.copyIn .nonblockable [b] 1 (cursor + 1) =
      ⟨⟨true, false, cursor + 1, cursor + 1, 0⟩, fun _ => ⟨false, 0, 0⟩,
        copyToRing oneWord (fun _ => a) cursor [b] 1⟩ := by
    simp [Stream.copyIn, betweenWrites, oneWord]
  simp only [Step, step, hw, bind_eq_bind, bind_some, hwrite, hcopy, copyToRing_oneByte]
  rfl

theorem fits_oneByte (a b : UInt8) :
    FitsRing (betweenWrites cursor a) (.write 0 (some (oneByte b)) 0, .wrote (.words 1)) := by
  intro writer hw hp
  cases hw
  cases hp

end

theorem step_createWriter_oneWord :
    Step (init oneWord fun _ => 0) (.createWriter .nonblockable false, .created (some 0))
      (betweenWrites 0 0) := rfl

/-- Any number of one-byte writes, a zero first and ones afterwards. -/
theorem run_oneByte (k : ℕ) : ∃ trace rest,Run (Guarded Step FitsRing) (init oneWord fun _ => 0) trace
        (betweenWrites (UInt64.ofNat (k+2)) 1) ∧ acceptedBytes trace=0::rest := by
  induction k with
  | zero =>
    have hcreate : Guarded Step FitsRing (init oneWord fun _ => 0)
        (.createWriter .nonblockable false,.created (some 0)) (betweenWrites 0 0) :=
      ⟨trivial,step_createWriter_oneWord⟩
    have hrun := ((Run.single hcreate).snoc ⟨fits_oneByte 0 0 0,step_oneByte 0 0 0⟩).snoc
      ⟨fits_oneByte _ 0 1,step_oneByte _ 0 1⟩
    exact ⟨_,[1],hrun,rfl⟩
  | succ k ih =>
    obtain ⟨trace,rest,hrun,hacc⟩ := ih
    have hcursor : UInt64.ofNat (k+1+2)=UInt64.ofNat (k+2)+1 := ofNat_add (k+2) 1
    refine ⟨_,rest++[1],hrun.snoc ⟨fits_oneByte _ 1 1,?_⟩,?_⟩
    · rw [hcursor]
      exact step_oneByte _ 1 1
    · rw [acceptedBytes_snoc,hacc]
      rfl

/-- A reader at zero reads the newest word, not the first. -/
theorem read_after_wrap_not_stream :
    ¬ ∀ (L : Layout) (data : Fin L.size → UInt8) (trace : List (Event L)) (s t : System L) (r : ℕ)
      (hasBuffer : Bool) (nWords n : Index) (timeout : ℕ) (bytes : List UInt8) (reader : Reader L),
      Run (Guarded Step FitsRing) (init L data) trace s →
      Step s (.read r hasBuffer nWords timeout, .got (.words n bytes)) t → s.reader r = some reader →
      bytes = ((acceptedBytes trace).drop ((s.stream.readers reader.id).cursor.toNat * L.wordSize)).take
        (n.toNat * L.wordSize) := by
  intro hall
  obtain ⟨trace, rest, hrun, hacc⟩ := run_oneByte (2 ^ 64 - 1)
  have hcursor : UInt64.ofNat (2 ^ 64 - 1 + 2) = 1 := by decide
  rw [hcursor] at hrun
  have hcreate : ∃ s, Step (betweenWrites 1 1) (.createReader .nonblocking false, .created (some 0)) s ∧
      s.reader 0 = some ⟨.nonblocking, ⟨0, by decide⟩, true⟩ ∧
      (s.stream.readers ⟨0, by decide⟩).cursor = 0 ∧
      ∃ t, Step s (.read 0 true 1 0, .got (.words 1 [1])) t :=
    ⟨_, rfl, rfl, rfl, _, rfl⟩
  obtain ⟨s, hs, hr, hzero, t, ht⟩ := hcreate
  have hs' : Guarded Step FitsRing (betweenWrites 1 1)
      (.createReader .nonblocking false, .created (some 0)) s := ⟨trivial, hs⟩
  have hbytes := hall oneWord _ _ s t 0 true 1 1 0 [1] _ (hrun.snoc hs') ht hr
  rw [acceptedBytes_snoc, hacc, hzero] at hbytes
  have hfirst : ((0 :: rest++accepted (L := oneWord) (.createReader .nonblocking false, .created (some 0))).drop
      ((0 : Index).toNat * oneWord.wordSize)).take ((1 : Index).toNat * oneWord.wordSize) =
      [0] := rfl
  rw [hfirst] at hbytes
  exact absurd hbytes (by decide)

/-- It joins after one byte in a ring of one word. -/
theorem read_returns_stream_one_byte :
    ∃ (trace : List (Event oneWord)) (s t : System oneWord) (reader : Reader oneWord), s.reader 0 = some reader ∧
      Step s (.read 0 true 5 0, .got (.words 1 [7])) t ∧ acceptedBytes trace = [7] ∧
      [7] = ((acceptedBytes trace).drop ((s.stream.readers reader.id).cursor.toNat * oneWord.wordSize)).take
        ((1 : Index).toNat * oneWord.wordSize) := by
  have hcreate : Guarded Step FitsRing (init oneWord fun _ => 0)
      (.createWriter .nonblockable false, .created (some 0)) (betweenWrites 0 0) :=
    ⟨trivial, step_createWriter_oneWord⟩
  have hwritten := (Run.single hcreate).snoc ⟨fits_oneByte 0 0 7, step_oneByte 0 0 7⟩
  have hjoin : ∃ s, Step (betweenWrites (0 + 1) 7) (.createReader .nonblocking false, .created (some 0)) s ∧
      ∃ t, Step s (.read 0 true 5 0, .got (.words 1 [7])) t := ⟨_, rfl, _, rfl⟩
  obtain ⟨s, hs, t, ht⟩ := hjoin
  have hs' : Guarded Step FitsRing (betweenWrites (0 + 1) 7)
      (.createReader .nonblocking false, .created (some 0)) s := ⟨trivial, hs⟩
  have hacc : acceptedBytes (([(.createWriter .nonblockable false, .created (some 0))] ++
      [(.write 0 (some (oneByte 7)) 0, .wrote (.words 1))]) ++
      [(.createReader .nonblocking false, .created (some 0))]) = [7] := rfl
  obtain ⟨reader, hr, _, hbytes, _⟩ :=
    read_returns_stream (hwritten.snoc hs') (by rw [hacc]; decide) ht
  exact ⟨_, s, t, reader, hr, ht, hacc, hbytes⟩

end AlexaClientSDK.SdsFaithfulness
