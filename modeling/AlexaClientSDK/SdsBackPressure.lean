import AlexaClientSDK.SdsFaithfulness

/-!
# No unread word is overwritten under back-pressure

Writers that may block keep within one ring of the cached oldest unconsumed cursor. The cache only moves forward, except
by a backward seek. A reader that joins at the write cursor is safe exactly when the cache has not been carried past it
by a reader that sought beyond.
-/

namespace AlexaClientSDK.SdsBackPressure

open Nat Function UInt64 Option List CircularMemory LabelledRuns SharedDataStream SdsFaithfulness Stream

variable {L : Layout}

/-- At its start or an enabled cursor, not above any. -/
theorem foldl_oldest (readers : Fin L.maxReaders → ReaderSlot) (ids : List (Fin L.maxReaders)) (start : Index) :
    let found := ids.foldl (fun oldest id => if (readers id).enabled ∧ (readers id).cursor<oldest
      then (readers id).cursor else oldest) start
    found.toNat ≤ start.toNat ∧ (∀ id∈ids,(readers id).enabled=true → found.toNat≤(readers id).cursor.toNat) ∧
      (found=start ∨ ∃ id,(readers id).enabled=true ∧ (readers id).cursor=found) := by
  induction ids generalizing start with
  | nil => exact ⟨le_rfl,by simp,.inl rfl⟩
  | cons head tail ih =>
    simp only [foldl_cons]
    by_cases hc : (readers head).enabled=true ∧ (readers head).cursor<start
    · rw [if_pos hc]
      obtain ⟨hle,hall,hfound⟩ := ih (readers head).cursor
      have hlt := hc.2
      rw [lt_iff_toNat_lt] at hlt
      refine ⟨by omega,?_,?_⟩
      · intro id hid hen
        rcases mem_cons.mp hid with rfl|hid
        · exact hle
        · exact hall id hid hen
      · rcases hfound with hfound|hfound
        · exact .inr ⟨head,hc.1,hfound.symm⟩
        · exact .inr hfound
    · rw [if_neg hc]
      obtain ⟨hle,hall,hfound⟩ := ih start
      refine ⟨hle,?_,hfound⟩
      intro id hid hen
      rcases mem_cons.mp hid with rfl|hid
      · have hge : ¬(readers id).cursor<start := fun h => hc ⟨hen,h⟩
        rw [lt_iff_toNat_lt] at hge
        omega
      · exact hall id hid hen

theorem toNat_le_maxIndex (i : Index) : i.toNat ≤ maxIndex.toNat := by
  have hi := toNat_lt i
  have hm : maxIndex.toNat=2^64-1 := rfl
  omega

variable {id : Fin L.maxReaders}

section

variable (s : Stream L)

theorem oldest_le (h : (s.readers id).enabled=true) : s.oldest.toNat≤(s.readers id).cursor.toNat := by
  obtain ⟨_,hall,_⟩ := foldl_oldest s.readers (List.finRange L.maxReaders) maxIndex
  have hid := hall id (mem_finRange id) h
  unfold oldest
  dsimp only
  split
  · rename_i hmax
    have htop := toNat_le_maxIndex s.header.writeStartCursor
    unfold oldestEnabled at hmax
    rw [hmax] at hid
    omega
  · exact hid

theorem oldest_cases : s.oldest=s.header.writeStartCursor ∨
      ∃ id,(s.readers id).enabled=true ∧ (s.readers id).cursor=s.oldest := by
  obtain ⟨_,_,hfound⟩ := foldl_oldest s.readers (List.finRange L.maxReaders) maxIndex
  unfold oldest
  dsimp only
  split
  · exact .inl rfl
  · rename_i hmax
    rcases hfound with hfound|hfound
    · exact absurd hfound hmax
    · exact .inr hfound

theorem updateOldest_cache : s.updateOldestUnconsumedCursor.header.oldestUnconsumedCursor.toNat =
      max s.header.oldestUnconsumedCursor.toNat s.oldest.toNat := by
  unfold updateOldestUnconsumedCursor
  split
  · rename_i hlt
    rw [lt_iff_toNat_lt] at hlt
    dsimp only
    omega
  · rename_i hlt
    rw [lt_iff_toNat_lt] at hlt
    omega

/-- The cache is below every enabled cursor outside `except`. -/
def Bounded (except : Fin L.maxReaders → Prop) : Prop :=
  ∀ id,¬except id → (s.readers id).enabled=true → s.header.oldestUnconsumedCursor.toNat≤(s.readers id).cursor.toNat

end

/-- The state of the shared buffer between operations. -/
structure BackPressure (s : Stream L) : Prop where
  settled : s.header.writeEndCursor=s.header.writeStartCursor
  bounded : Bounded s fun _ => False
  /-- The writer is at most one ring ahead of the cache. -/
  reach : s.header.writeStartCursor.toNat ≤ s.header.oldestUnconsumedCursor.toNat+L.dataSize.toNat

variable {s : Stream L}

theorem BackPressure.behind (h : BackPressure s) (hen : (s.readers id).enabled=true) :
    s.header.writeStartCursor.toNat≤(s.readers id).cursor.toNat+L.dataSize.toNat := by
  have hb := h.bounded id (fun hf => hf) hen
  have hr := h.reach
  omega

/-- From zero when all enabled readers are a ring behind. -/
theorem backPressure_reset (hsettled : s.header.writeEndCursor=s.header.writeStartCursor)
    (hbehind : ∀ id,(s.readers id).enabled=true →
      s.header.writeStartCursor.toNat≤(s.readers id).cursor.toNat+L.dataSize.toNat) :
    BackPressure ({s with header := {s.header with oldestUnconsumedCursor := 0}} :
      Stream L).updateOldestUnconsumedCursor := by
  generalize hz : ({s with header := {s.header with oldestUnconsumedCursor := 0}} :
    Stream L)=z
  have hreaders : z.readers=s.readers := by rw [←hz]
  have hstart : z.header.writeStartCursor=s.header.writeStartCursor := by rw [←hz]
  have hend : z.header.writeEndCursor=s.header.writeEndCursor := by rw [←hz]
  have hzero : z.header.oldestUnconsumedCursor.toNat=0 := by rw [←hz]; rfl
  obtain ⟨_,hstart',hend'⟩ := (readersOnly_updateOldest z).sameWords
  refine ⟨by rw [hend',hstart',hend,hstart]; exact hsettled,?_,?_⟩
  · intro id _ hen
    rw [updateOldest_readers] at hen ⊢
    rw [updateOldest_cache]
    have ho := oldest_le z hen
    omega
  · rw [updateOldest_cache,hstart']
    rcases oldest_cases z with ho|⟨id,hen,hc⟩
    · rw [ho]
      omega
    · have hb := hbehind id (by rw [←hreaders]; exact hen)
      rw [←hreaders,hc,←hstart] at hb
      omega

/-- Every successful seek keeps the invariant, a backward one also below the cache. -/
theorem backPressure_seek_absolute (id : Fin L.maxReaders) {absolute : Index}
    (hsettled : s.header.writeEndCursor=s.header.writeStartCursor) (hbounded : Bounded s (· = id))
    (hreach : s.header.writeStartCursor.toNat ≤
      s.header.oldestUnconsumedCursor.toNat+L.dataSize.toNat) (hfree : ¬(absolute ≤ s.header.writeEndCursor ∧
      L.dataSize<s.header.writeEndCursor-absolute)) :
    BackPressure ({s.setReader id {s.readers id with cursor := absolute} with
      header := {s.header with oldestUnconsumedCursor := 0}} : Stream L).updateOldestUnconsumedCursor := by
  refine backPressure_reset (s := s.setReader id {s.readers id with cursor := absolute}) hsettled ?_
  intro other hen
  by_cases heq : other=id
  · subst heq
    simp only [setReader,update_self]
    rw [hsettled] at hfree
    by_contra hfar
    refine hfree ⟨?_,?_⟩
    · rw [le_iff_toNat_le]
      omega
    · rw [UInt64.lt_iff_toNat_lt,UInt64.toNat_sub_of_le _ _ (by rw [UInt64.le_iff_toNat_le]; omega)]
      omega
  · simp only [setReader,update_of_ne heq] at hen ⊢
    have hb := hbounded other heq hen
    omega

section

variable (h : BackPressure s)
include h

theorem backPressure_update : BackPressure s.updateOldestUnconsumedCursor := by
  obtain ⟨_,hstart,hend⟩ := (readersOnly_updateOldest s).sameWords
  refine ⟨by rw [hend,hstart]; exact h.settled,?_,?_⟩
  · intro id _ hen
    rw [updateOldest_readers] at hen ⊢
    rw [updateOldest_cache]
    have hb := h.bounded id (fun hf => hf) hen
    have ho := oldest_le s hen
    omega
  · have hr := h.reach
    rw [updateOldest_cache,hstart]
    omega

/-- A slot that is disabled, or whose cursor did not move back, keeps the
invariant. -/
theorem backPressure_setReader {slot : ReaderSlot} (hslot : slot.enabled=true →
      s.header.oldestUnconsumedCursor.toNat ≤ slot.cursor.toNat) : BackPressure (s.setReader id slot) := by
  refine ⟨h.settled,?_,h.reach⟩
  intro other _ hen
  by_cases heq : other=id
  · subst heq
    simp only [setReader,update_self] at hen ⊢
    exact hslot hen
  · simp only [setReader,update_of_ne heq] at hen ⊢
    exact h.bounded other (fun hf => hf) hen

theorem backPressure_seek (id : Fin L.maxReaders)
    (offset : Index) (reference : Reference) : BackPressure (s.seek id offset reference).1 := by
  unfold seek
  split
  · exact h
  rename_i absolute _
  dsimp only
  split
  · exact h
  split
  · exact h
  rename_i hfree
  split
  · have hsought := backPressure_seek_absolute id h.settled
      (fun other _ => h.bounded other (fun hf => hf)) h.reach hfree
    dsimp only [setReader] at hsought ⊢
    exact hsought
  · rename_i hforward
    rw [lt_iff_toNat_lt] at hforward
    refine backPressure_update (backPressure_setReader h ?_)
    intro hen
    have hb := h.bounded id (fun hf => hf) hen
    dsimp only
    omega

theorem backPressure_destroyReader (id : Fin L.maxReaders) : BackPressure (s.destroyReader id) :=
  backPressure_update (backPressure_setReader (backPressure_seek h id 0 .beforeWriter) nofun)

end

variable {nWords : Index}

theorem backPressure_copyOut (h : BackPressure s) (hn : nWords≠0) (hopen : (s.readers id).cursor<(s.readers id).closeIndex)
    (htell : s.tell id .beforeWriter≠0) : BackPressure (s.copyOut id nWords (s.tell id .beforeWriter)).1 := by
  obtain ⟨hbehind,htell⟩ := tell_beforeWriter_ne_zero htell
  obtain ⟨_,hstart,_⟩ := wordsToRead_bounds hn hopen hbehind
  have hlimit := toNat_lt s.header.writeStartCursor
  rw [htell]
  refine backPressure_update (backPressure_setReader h ?_)
  intro hen
  have hb := h.bounded id (fun hf => hf) hen
  rw [toNat_add_of_lt (by omega)]
  omega

variable {timeout : ℕ} {policy : ReaderPolicy} {hasBuffer startWithNewData : Bool} {result : ReadResult}

theorem backPressure_read {t : Stream L} (h : BackPressure s)
    (hread : s.read id policy hasBuffer nWords timeout=some (t,result)) : BackPressure t := by
  rcases read_cases hread with ⟨rfl,_⟩|⟨hn,hopen,_,htell,hcopy⟩
  · exact h
  · have hc := backPressure_copyOut h hn hopen htell
    rw [←hcopy] at hc
    exact hc

theorem read_not_overrun {t : Stream L} (h : BackPressure s) (hen : (s.readers id).enabled=true)
    (hread : s.read id policy hasBuffer nWords timeout=some (t,result)) : result≠.error .overrun := by
  have hb := h.behind hen
  have hclose : ∀ c : Index,(s.readers id).cursor.toNat≤c.toNat → c.toNat ≤ s.header.writeStartCursor.toNat →
      ¬L.dataSize<s.header.writeEndCursor-c := by
    intro c hlow hhigh hover
    rw [h.settled,UInt64.lt_iff_toNat_lt,UInt64.toNat_sub_of_le _ _ (by rw [UInt64.le_iff_toNat_le]; omega)] at hover
    omega
  rcases read_cases hread with ⟨_,e,rfl,hover⟩|⟨hn,hopen,_,htell,hcopy⟩
  · intro he
    cases he
    obtain ⟨_,hle,hfar⟩ := hover rfl
    rw [h.settled,le_iff_toNat_le] at hle
    exact hclose _ le_rfl hle hfar
  · obtain ⟨hbehind,htell⟩ := tell_beforeWriter_ne_zero htell
    obtain ⟨_,hstart,_⟩ := wordsToRead_bounds hn hopen hbehind
    have hlimit := toNat_lt s.header.writeStartCursor
    rw [htell] at hcopy
    simp only [copyOut,Prod.mk.injEq] at hcopy
    have hsum := toNat_add_of_lt (a := (s.readers id).cursor) (b := wordsToRead (s.readers id) nWords
      (s.header.writeStartCursor-(s.readers id).cursor)) (by omega)
    rw [hcopy.2,if_neg (hclose _ (by omega) (by omega))]
    simp

/-- Joining at the write cursor is safe when the cache has not passed it. -/
def JoinsSafely (s : Stream L) (startWithNewData : Bool) : Prop :=
  startWithNewData=true ∨ s.header.writeStartCursor=0 → s.header.oldestUnconsumedCursor ≤ s.header.writeStartCursor

instance (s : Stream L) (startWithNewData : Bool) : Decidable (JoinsSafely s startWithNewData) :=
  inferInstanceAs (Decidable (_ → _))

/-- It succeeds, and stays inside the ring. -/
theorem seekToOldData_first (retries : ℕ) (hsettled : s.header.writeEndCursor=s.header.writeStartCursor)
    (hclose : (s.readers id).closeIndex=maxIndex) : ∃ absolute : Index, absolute.toNat=s.header.writeStartCursor.toNat -
        min s.header.writeStartCursor.toNat L.dataSize.toNat ∧
      ¬(absolute ≤ s.header.writeEndCursor ∧ L.dataSize<s.header.writeEndCursor-absolute) ∧
      s.seekToOldData id (retries+1) = (if absolute<(s.readers id).cursor then
          ({s.setReader id {s.readers id with cursor := absolute} with
            header := {s.header with oldestUnconsumedCursor := 0}} : Stream L).updateOldestUnconsumedCursor
        else (s.setReader id {s.readers id with
          cursor := absolute}).updateOldestUnconsumedCursor,true) := by
  have hzero : (s.header.writeStartCursor-s.header.writeStartCursor).toNat=0 := by
    rw [UInt64.sub_self]
    rfl
  have hoffset : ∃ offset : Index, (if s.header.writeStartCursor<L.dataSize then some s.header.writeStartCursor
        else if s.header.writeEndCursor<s.header.writeStartCursor then none
        else if L.dataSize<s.header.writeEndCursor-s.header.writeStartCursor then none
        else some (L.dataSize-(s.header.writeEndCursor-s.header.writeStartCursor))) = some offset ∧
      offset.toNat=min s.header.writeStartCursor.toNat L.dataSize.toNat := by
    rw [hsettled]
    by_cases hsmall : s.header.writeStartCursor<L.dataSize
    · rw [if_pos hsmall]
      rw [lt_iff_toNat_lt] at hsmall
      exact ⟨_,rfl,by omega⟩
    · rw [if_neg hsmall,if_neg (by rw [lt_iff_toNat_lt]; omega),if_neg (by rw [lt_iff_toNat_lt,hzero]; omega)]
      rw [lt_iff_toNat_lt] at hsmall
      refine ⟨_,rfl,?_⟩
      rw [UInt64.toNat_sub_of_le _ _ (by rw [UInt64.le_iff_toNat_le,hzero]; omega),hzero]
      omega
  obtain ⟨offset,hoffset,hmin⟩ := hoffset
  have hle : offset ≤ s.header.writeStartCursor := by
    rw [le_iff_toNat_le]
    omega
  have habs : (s.header.writeStartCursor-offset).toNat =
      s.header.writeStartCursor.toNat-offset.toNat := UInt64.toNat_sub_of_le _ _ hle
  have hfree : ¬(s.header.writeStartCursor-offset ≤ s.header.writeEndCursor ∧
      L.dataSize<s.header.writeEndCursor-(s.header.writeStartCursor-offset)) := by
    rw [hsettled]
    rintro ⟨hbelow,hfar⟩
    rw [UInt64.lt_iff_toNat_lt,UInt64.toNat_sub_of_le _ _ hbelow] at hfar
    omega
  have hseek : s.seek id offset .beforeWriter = (if s.header.writeStartCursor-offset<(s.readers id).cursor then
        ({s.setReader id {s.readers id with cursor := s.header.writeStartCursor-offset} with
          header := {s.header with oldestUnconsumedCursor := 0}} : Stream L).updateOldestUnconsumedCursor
      else (s.setReader id {s.readers id with
        cursor := s.header.writeStartCursor-offset}).updateOldestUnconsumedCursor,true) := by
    have hin : ¬s.header.writeStartCursor<offset := by
      rw [lt_iff_toNat_lt]
      rw [le_iff_toNat_le] at hle
      omega
    have hopen : ¬(s.readers id).closeIndex<s.header.writeStartCursor-offset := by
      have htop := toNat_le_maxIndex (s.header.writeStartCursor-offset)
      rw [hclose,lt_iff_toNat_lt]
      omega
    simp only [seek,seekTarget,if_neg hin,if_neg hopen,if_neg hfree]
    split <;> rfl
  refine ⟨s.header.writeStartCursor-offset,by omega,hfree,?_⟩
  simp only [seekToOldData,hoffset,hseek,if_true]

theorem backPressure_createReader (h : BackPressure s) (id : Fin L.maxReaders) (hjoin : JoinsSafely s startWithNewData) :
    BackPressure (s.createReader id startWithNewData).1 := by
  have hreach := h.reach
  have hring := L.dataSize_pos
  have hslot : (s.attachReader id).readers id =
      {enabled := true,cursor := s.header.writeStartCursor,closeIndex := maxIndex} := by
    simp only [attachReader,setReader,update_self]
  have hattached : s.header.oldestUnconsumedCursor ≤ s.header.writeStartCursor → BackPressure (s.attachReader id) := by
    intro hle
    rw [le_iff_toNat_le] at hle
    exact backPressure_setReader h fun _ => hle
  unfold createReader
  cases startWithNewData with
  | true => exact backPressure_update (hattached (hjoin (.inl rfl)))
  | false =>
    have hsettled : (s.attachReader id).header.writeEndCursor =
        (s.attachReader id).header.writeStartCursor := h.settled
    have hopen : ((s.attachReader id).readers id).closeIndex=maxIndex := by rw [hslot]
    obtain ⟨absolute,habs,hfree,hseek⟩ := seekToOldData_first 2 hsettled hopen
    have hstart : (s.attachReader id).header=s.header := rfl
    rw [hstart] at habs hfree
    simp only [Bool.false_eq_true,if_false,maxReaderCreationRetries]
    rw [hseek]
    split
    · -- the reader steps back, so the cache starts again
      refine backPressure_seek_absolute _ h.settled ?_ hreach hfree
      intro other hne hen
      have hother : (s.attachReader id).readers other=s.readers other := by
        simp only [attachReader,setReader,update_of_ne hne]
      rw [hother] at hen ⊢
      exact h.bounded other (fun hf => hf) hen
    · rename_i hstay
      rw [hslot,lt_iff_toNat_lt,habs] at hstay
      have hzero : s.header.writeStartCursor=0 := by
        rw [←UInt64.toNat_inj,UInt64.toNat_zero]
        dsimp only at hstay
        omega
      have hle := hjoin (.inr hzero)
      refine backPressure_update (backPressure_setReader (hattached hle) fun _ => ?_)
      rw [UInt64.le_iff_toNat_le,hzero,UInt64.toNat_zero] at hle
      rw [hstart]
      omega

/-- The most words a request can add, whatever the state grants. -/
def requested (L : Layout) (policy : WriterPolicy) (nWords : Index) : ℕ :=
  if policy=.blocking then min nWords.toNat L.dataSize.toNat else nWords.toNat

variable {policy : WriterPolicy} {n : Index}

/-- No policy grants more words than were asked for. -/
theorem reserve_le {h : Header} {writeEnd : Index}
    (hr : reserve L h policy nWords timeout=.granted n writeEnd) : n.toNat≤nWords.toNat := by
  by_cases hall : policy=.allOrNothing
  · subst hall
    simp only [reserve] at hr
    split at hr
    · cases hr
    · cases hr
      exact le_rfl
  · exact (reserve_granted hr fun h => absurd h hall).1

/-- Blocking and all-or-nothing writers stay within one ring of the cache. -/
theorem reserve_reach {h : Header} {writeEnd : Index} (hpolicy : policy≠.nonblockable)
    (hwrap : h.writeStartCursor.toNat+requested L policy nWords<2^64)
    (hr : reserve L h policy nWords timeout=.granted n writeEnd) :
    writeEnd=h.writeStartCursor+n ∧ h.writeStartCursor.toNat+n.toNat<2^64 ∧ h.writeStartCursor.toNat+n.toNat ≤
        h.oldestUnconsumedCursor.toNat+L.dataSize.toNat := by
  cases policy with
  | nonblockable => exact absurd rfl hpolicy
  | allOrNothing =>
    simp only [requested,reduceCtorEq,if_false] at hwrap
    simp only [reserve] at hr
    split at hr
    · cases hr
    rename_i hroom
    cases hr
    have hsum : (h.writeStartCursor+nWords).toNat =
        h.writeStartCursor.toNat+nWords.toNat := toNat_add_of_lt hwrap
    refine ⟨rfl,hwrap,?_⟩
    by_contra hfar
    refine hroom ⟨?_,?_⟩
    · rw [UInt64.le_iff_toNat_le]
      omega
    · rw [UInt64.lt_iff_toNat_lt,UInt64.toNat_sub_of_le _ _ (by rw [UInt64.le_iff_toNat_le]; omega)]
      omega
  | blocking =>
    simp only [requested,if_true] at hwrap
    have hring := spaceAvailable_le L h
    have hspace : (h.writeStartCursor<h.oldestUnconsumedCursor ∨
        h.writeStartCursor-h.oldestUnconsumedCursor<L.dataSize) →
        h.writeStartCursor.toNat+(spaceAvailable L h).toNat ≤ h.oldestUnconsumedCursor.toNat+L.dataSize.toNat := by
      intro hsome
      unfold spaceAvailable
      split
      · rename_i hle
        have hdist := UInt64.toNat_sub_of_le _ _ hle
        have hlt : (h.writeStartCursor-h.oldestUnconsumedCursor).toNat<L.dataSize.toNat := by
          rw [UInt64.le_iff_toNat_le] at hle
          rw [UInt64.lt_iff_toNat_lt,UInt64.lt_iff_toNat_lt] at hsome
          omega
        have hleft : (L.dataSize-(h.writeStartCursor-h.oldestUnconsumedCursor)).toNat =
            L.dataSize.toNat-(h.writeStartCursor-h.oldestUnconsumedCursor).toNat :=
          UInt64.toNat_sub_of_le _ _ (by rw [UInt64.le_iff_toNat_le]; omega)
        rw [UInt64.le_iff_toNat_le] at hle
        rw [toNat_ite_lt]
        omega
      · rename_i hgt
        rw [UInt64.le_iff_toNat_le] at hgt
        omega
    simp only [reserve] at hr
    split at hr
    · rename_i hsome
      have hs := hspace hsome
      split at hr
      · rename_i hless
        cases hr
        rw [UInt64.lt_iff_toNat_lt] at hless
        exact ⟨rfl,by omega,hs⟩
      · rename_i hless
        cases hr
        rw [UInt64.lt_iff_toNat_lt] at hless
        exact ⟨rfl,by omega,by omega⟩
    · split at hr <;> cases hr

/-- Publishing words within reach of the cache keeps the invariant. -/
theorem backPressure_copyIn (h : BackPressure s) {bytes : List UInt8}
    (hwrap : s.header.writeStartCursor.toNat+n.toNat<2^64) (hreach : s.header.writeStartCursor.toNat+n.toNat ≤
      s.header.oldestUnconsumedCursor.toNat+L.dataSize.toNat) :
    BackPressure (s.copyIn policy bytes n (s.header.writeStartCursor+n)) := by
  refine ⟨rfl,h.bounded,?_⟩
  rw [copyIn_header]
  rw [toNat_add_of_lt hwrap]
  exact hreach

/-- The bytes of word `k` of the stream are at cell `i` of the ring. -/
def IsByteOf (L : Layout) (k : ℕ) (i : Fin L.size) : Prop :=
  i.val / L.wordSize=k%L.dataSize.toNat

theorem copyIn_keeps_unread (h : BackPressure s) {bytes : List UInt8} (hbytes : n.toNat*L.wordSize≤bytes.length)
    (hwrap : s.header.writeStartCursor.toNat+n.toNat<2^64) (hreach : s.header.writeStartCursor.toNat+n.toNat ≤
      s.header.oldestUnconsumedCursor.toNat+L.dataSize.toNat) (hen : (s.readers id).enabled=true) {k : ℕ}
    (hlow : (s.readers id).cursor.toNat≤k) (hhigh : k<s.header.writeStartCursor.toNat)
    {i : Fin L.size} (hi : IsByteOf L k i) :
    (s.copyIn policy bytes n (s.header.writeStartCursor+n)).data i=s.data i := by
  have hb := h.bounded id (fun hf => hf) hen
  have hpos := L.wordSize_pos
  have hring : n.toNat≤L.dataSize.toNat := by omega
  rw [copyIn_data hring,copyToRing_eq hwrap hbytes]
  -- byte `i` belongs to stream position `k * wordSize + i % wordSize`
  have hsplit := div_add_mod i.val L.wordSize
  have hrem := mod_lt i.val hpos
  rw [hi] at hsplit
  have hbyte : (k*L.wordSize+i.val%L.wordSize)%L.size=i.val := by
    have hcell : k*L.wordSize%L.size=k%L.dataSize.toNat*L.wordSize := by
      unfold Layout.size
      rw [mul_mod_mul_right]
    have hlt : k*L.wordSize%L.size+i.val%L.wordSize<L.size := by
      have hi' := i.isLt
      rw [hcell,mul_comm]
      omega
    rw [mod_of_turn hlt,hcell,mul_comm]
    omega
  have hk : (k+1)*L.wordSize ≤ s.header.writeStartCursor.toNat*L.wordSize :=
    mul_le_mul_right _ hhigh
  have hend : (s.header.writeStartCursor.toNat+n.toNat)*L.wordSize ≤
      (k+L.dataSize.toNat)*L.wordSize := mul_le_mul_right _ (by omega)
  rw [add_mul] at hk hend
  refine circularWrite_keeps (k := k*L.wordSize+i.val%L.wordSize) (by omega) ?_ hbyte
  have hsize : L.size=L.dataSize.toNat*L.wordSize := rfl
  rw [length_take]
  rw [add_mul,←hsize] at hend
  omega

/-- No overwriting on purpose, no wrap, and readers join safely. -/
def KeepsBound (s : System L) : Event L → Prop
  | (.createWriter policy _,_) => policy≠.nonblockable
  | (.createReader _ startWithNewData,_) =>
    s.stream.freeEphemeralReader≠none → JoinsSafely s.stream startWithNewData
  | (.createReaderAt id _ startWithNewData forceReplacement,_) =>
    ((s.stream.readers id).enabled=false ∨ forceReplacement=true) → JoinsSafely s.stream startWithNewData
  | (.write w (some buf) _,_) =>
    ∀ writer,s.writer w=some writer → s.stream.header.writeStartCursor.toNat+requested L writer.policy buf.nWords<2^64
  | _ => True

instance (s : System L) : (event : Event L) → Decidable (KeepsBound s event)
  | (.createWriter policy _,_) => inferInstanceAs (Decidable (policy≠.nonblockable))
  | (.createReader _ startWithNewData,_) =>
    inferInstanceAs (Decidable (s.stream.freeEphemeralReader≠none → JoinsSafely s.stream startWithNewData))
  | (.createReaderAt id _ startWithNewData forceReplacement,_) =>
    inferInstanceAs (Decidable ((s.stream.readers id).enabled=false ∨ forceReplacement=true →
      JoinsSafely s.stream startWithNewData))
  | (.write w (some buf) _,_) => inferInstanceAs (Decidable (∀ writer∈s.writer w,
      s.stream.header.writeStartCursor.toNat+requested L writer.policy buf.nWords<2^64))
  | (.write _ none _,_) | (.closeWriter _,_) | (.destroyWriter _,_) | (.read _ _ _ _,_) | (.seek _ _ _,_)
  | (.closeReader _ _ _,_) | (.destroyReader _,_) => inferInstanceAs (Decidable True)

/-- The buffer is under back-pressure, and so is every writer object. -/
structure SystemInv (s : System L) : Prop where
  stream : BackPressure s.stream
  writers : ∀ writer∈s.writers,writer.policy≠.nonblockable

variable {s : System L}

theorem writer_mem {w : ℕ} {writer : Writer} (h : s.writer w=some writer) : writer∈s.writers := by
  unfold System.writer at h
  rw [filter_eq_some_iff] at h
  exact mem_of_getElem? h.1

/-- Making a reader object keeps the invariant when it joins safely. -/
theorem systemInv_addReader (h : SystemInv s) (id : Fin L.maxReaders)
    (policy : ReaderPolicy) (hjoin : JoinsSafely s.stream startWithNewData) :
    SystemInv (s.addReader id policy startWithNewData).1 := by
  have hs := backPressure_createReader h.stream id hjoin
  unfold System.addReader
  dsimp only
  split <;> exact ⟨hs,h.writers⟩

theorem systemInv_closeWriter (h : SystemInv s) {w : ℕ} {writer : Writer}
    (hw : s.writer w=some writer) (alive : Bool) : SystemInv (s.closeWriter w writer alive) := by
  refine ⟨?_,?_⟩
  · unfold System.closeWriter
    split
    · exact h.stream
    · unfold closeWriter
      split
      · exact ⟨h.stream.settled,h.stream.bounded,h.stream.reach⟩
      · exact h.stream
  · intro other hmem
    rcases mem_or_eq_of_mem_set hmem with hmem|rfl
    · exact h.writers other hmem
    · exact h.writers writer (writer_mem hw)

theorem systemInv_step {s t : System L} {event : Event L} (h : SystemInv s)
    (hok : KeepsBound s event) (hstep : Step s event t) : SystemInv t := by
  obtain ⟨op,out⟩ := event
  unfold Step at hstep
  cases op
  all_goals simp only [System.step,bind_eq_bind,bind_eq_some_iff] at hstep
  case createWriter =>
    split at hstep
    · cases hstep
      exact h
    · cases hstep
      refine ⟨⟨rfl,h.stream.bounded,h.stream.reach⟩,?_⟩
      intro writer hmem
      rcases mem_append.mp hmem with hmem|hmem
      · exact h.writers writer hmem
      · rw [mem_singleton.mp hmem]
        exact hok
  case createReader policy fresh =>
    split at hstep
    · cases hstep
      exact h
    · rename_i id hid
      have hs := systemInv_addReader h id policy (hok (by rw [hid]; simp))
      rw [Option.some.inj hstep] at hs
      exact hs
  case createReaderAt id policy fresh force =>
    split at hstep
    · cases hstep
      exact h
    · rename_i hgrant
      have hfree : (s.stream.readers id).enabled=false ∨ force=true := by
        cases hen : (s.stream.readers id).enabled with
        | false => exact .inl rfl
        | true => exact .inr (by simpa [hen] using hgrant)
      have hs := systemInv_addReader h id policy (hok hfree)
      rw [Option.some.inj hstep] at hs
      exact hs
  case write =>
    obtain ⟨writer,hw,⟨stream,result⟩,hwrite,hret⟩ := hstep
    cases hret
    rcases write_cases hwrite with ⟨rfl,_⟩|⟨b,n,writeEnd,rfl,_,_,hg,rfl,rfl⟩
    · exact h
    · obtain ⟨rfl,hwrap,hreach⟩ :=
        reserve_reach (h.writers writer (writer_mem hw)) (hok writer hw) hg
      exact ⟨backPressure_copyIn h.stream hwrap hreach,h.writers⟩
  case closeWriter =>
    obtain ⟨writer,hw,hret⟩ := hstep
    cases hret
    exact systemInv_closeWriter h hw true
  case destroyWriter =>
    obtain ⟨writer,hw,hret⟩ := hstep
    cases hret
    exact systemInv_closeWriter h hw false
  case read =>
    obtain ⟨reader,hr,⟨stream,result⟩,hread,hret⟩ := hstep
    cases hret
    exact ⟨backPressure_read h.stream hread,h.writers⟩
  case seek r offset reference =>
    obtain ⟨reader,hr,hret⟩ := hstep
    cases hret
    exact ⟨backPressure_seek h.stream reader.id offset reference,h.writers⟩
  case closeReader =>
    obtain ⟨reader,hr,hret⟩ := hstep
    cases hret
    exact ⟨backPressure_setReader h.stream fun hen =>
      h.stream.bounded reader.id (fun hf => hf) hen,h.writers⟩
  case destroyReader =>
    obtain ⟨reader,hr,hret⟩ := hstep
    cases hret
    exact ⟨backPressure_destroyReader h.stream reader.id,h.writers⟩

theorem systemInv_init (L : Layout) (data : Fin L.size → UInt8) : SystemInv (System.init L data) :=
  ⟨⟨rfl,nofun,zero_le _⟩,nofun⟩

/-- Every state reached by steps that keep the bound is under back-pressure. -/
theorem systemInv_of_run {data : Fin L.size → UInt8} {trace : List (Event L)}
    (run : Run (Guarded Step KeepsBound) (System.init L data) trace s) : SystemInv s :=
  run.invariant SystemInv (systemInv_init L data) fun _ _ _ hs hstep => systemInv_step hs hstep.1 hstep.2

/-- The readers that still have something to read. -/
def Unfinished (s : Stream L) (id : Fin L.maxReaders) : Prop :=
  (s.readers id).enabled=true ∧ (s.readers id).cursor<(s.readers id).closeIndex

/-- In every state of a run that keeps the bound, the cache is below every unfinished reader, no further such
step changes a byte that one has not read, and no enabled reader is overrun. -/
theorem no_unread_word_lost {data : Fin L.size → UInt8} {trace : List (Event L)} {s : System L}
    (run : Run (Guarded Step KeepsBound) (System.init L data) trace s) : (∀ id,Unfinished s.stream id →
      s.stream.header.oldestUnconsumedCursor≤(s.stream.readers id).cursor) ∧
    (∀ event t,Guarded Step KeepsBound s event t → ∀ id,Unfinished s.stream id →
      ∀ k i,(s.stream.readers id).cursor.toNat≤k → k<s.stream.header.writeStartCursor.toNat → IsByteOf L k i →
        t.stream.data i=s.stream.data i) ∧ (∀ r reader hasBuffer nWords timeout out t,s.reader r=some reader →
      (s.stream.readers reader.id).enabled=true →
      Step s (.read r hasBuffer nWords timeout,out) t → out≠.got (.error .overrun)) := by
  have hinv := systemInv_of_run run
  refine ⟨?_,?_,?_⟩
  · intro id hid
    rw [le_iff_toNat_le]
    exact hinv.stream.bounded id (fun hf => hf) hid.1
  · intro event t hstep id hid k i hlow hhigh hbyte
    rcases step_words hstep.2 with ⟨_,hd,_⟩|⟨w,writer,buf,timeout,n,e,rfl,hw,hg,rfl⟩
    · rw [hd]
    · obtain ⟨rfl,hwrap,hreach⟩ :=
        reserve_reach (hinv.writers writer (writer_mem hw)) (hstep.1 writer hw) hg
      by_cases hring : n.toNat≤L.dataSize.toNat
      · have hbytes : n.toNat*L.wordSize≤buf.bytes.length := by
          rw [buf.bytes_length]
          exact mul_le_mul_right _ (reserve_le hg)
        exact copyIn_keeps_unread hinv.stream hbytes hwrap hreach hid.1 hlow hhigh hbyte
      · -- an oversized write is granted only behind every reader
        have hb := hinv.stream.bounded id (fun hf => hf) hid.1
        omega
  · intro r reader hasBuffer nWords timeout out t hr hen hstep
    simp only [Step,System.step,hr,bind_eq_bind,bind_some,bind_eq_some_iff] at hstep
    obtain ⟨⟨stream,result⟩,hread,hret⟩ := hstep
    cases hret
    intro hout
    cases hout
    exact read_not_overrun hinv.stream hen hread rfl

theorem one_index_pos : 0<(1 : Index).toNat := by decide

/-- A ring of a single one-byte word with two readers. -/
def twoReaders : Layout where
  wordSize := 1
  dataSize := 1
  maxReaders := 2
  maxEphemeralReaders := 2
  wordSize_pos := one_pos
  dataSize_pos := one_index_pos
  ephemeral_le := by decide

/-- After a seek ahead a second one joins; two words are written. -/
def lateJoin : List (Op twoReaders) :=
  [.createWriter .blocking false,.createReader .nonblocking true,.seek 0 5 .absolute,
    .createReader .nonblocking true,.write 0 (some ⟨1,[7],rfl⟩) 0,
    .write 0 (some ⟨1,[8],rfl⟩) 0]

/-- Its first word is gone, and its read reports an overrun. -/
theorem late_join_loses_word : ∃ (trace : List (Event twoReaders)) (s t : System twoReaders),
      Run Step (System.init twoReaders fun _ => 0) trace s ∧
      (∀ event∈trace,∀ policy force,event.1=.createWriter policy force → policy=.blocking) ∧
      Unfinished s.stream ⟨1,by decide⟩ ∧
      ¬s.stream.header.oldestUnconsumedCursor≤(s.stream.readers ⟨1,by decide⟩).cursor ∧
      s.reader 1=some ⟨.nonblocking,⟨1,by decide⟩,true⟩ ∧ Step s (.read 1 true 1 0,.got (.error .overrun)) t := by
  obtain ⟨s,events,hexec⟩ : ∃ s events,
      (System.init twoReaders fun _ => 0).exec lateJoin=some (s,events) := ⟨_,_,rfl⟩
  have hshape : events.map Prod.fst=lateJoin := by
    cases hexec
    rfl
  refine ⟨events,s,s,exec_run hexec,?_,?_⟩
  · intro event hmem policy force he
    have hop : event.1∈lateJoin := by
      rw [←hshape]
      exact mem_map_of_mem hmem
    rw [he] at hop
    simp [lateJoin] at hop
    exact hop.1
  · cases hexec
    exact ⟨⟨rfl,by decide⟩,by decide,rfl,rfl⟩

/-- The stream behind a call, which stays as it is where the call waits. -/
def next (s : System L) (event : Event L) : System L := ((s.step event.1).map Prod.fst).getD s

/-- The call returns this now, and keeps the bound. -/
def returns (s : System L) (event : Event L) : Bool :=
  decide (KeepsBound s event) && (s.step event.1).map Prod.snd == some event.2

/-- Where a call can return what it does, it makes a step. -/
theorem step_next (s : System L) (event : Event L) (h : returns s event=true) :
    Guarded Step KeepsBound s event (next s event) := by
  obtain ⟨hkeeps,hreturns⟩ := Bool.and_eq_true_iff.mp h
  obtain ⟨⟨t,out⟩,hstep,hout⟩ := Option.map_eq_some_iff.mp (beq_iff_eq.mp hreturns)
  refine ⟨of_decide_eq_true hkeeps,?_⟩
  unfold Step next
  rw [hstep,←hout]
  rfl

/-- A ring of two one-byte words with two readers. -/
def sharedRing : Layout where
  wordSize := 1
  dataSize := 2
  maxReaders := 2
  maxEphemeralReaders := 2
  wordSize_pos := one_pos
  dataSize_pos := by decide
  ephemeral_le := by decide

/-- Of two readers that join a blocking writer, one reads the word that is written. -/
def heldWord : List (Event sharedRing) :=
  [(.createWriter .blocking false,.created (some 0)),(.createReader .nonblocking true,.created (some 0)),
    (.createReader .nonblocking true,.created (some 1)),(.write 0 (some ⟨1,[7],rfl⟩) 0,.wrote (.words 1)),
    (.read 0 true 1 0,.got (.words 1 [7]))]

/-- A second word is written. -/
def secondWord : Event sharedRing := (.write 0 (some ⟨1,[8],rfl⟩) 0,.wrote (.words 1))

/-- The stream after some calls. -/
def afterCalls (events : List (Event sharedRing)) : System sharedRing :=
  events.foldl next (System.init sharedRing fun _ => 0)

/-- The reader that has not read the first word keeps it when a second one is written, and then reads it. -/
theorem no_unread_word_lost_second_write : Unfinished (afterCalls heldWord).stream ⟨1,by decide⟩ ∧
    (afterCalls heldWord).stream.tell ⟨1,by decide⟩ .beforeWriter=1 ∧
    (afterCalls heldWord).stream.header.oldestUnconsumedCursor≤((afterCalls heldWord).stream.readers ⟨1,by decide⟩).cursor ∧
    (afterCalls (heldWord++[secondWord])).stream.data ⟨0,by decide⟩=(afterCalls heldWord).stream.data ⟨0,by decide⟩ ∧
    ((afterCalls (heldWord++[secondWord])).step (.read 1 true 1 0)).map Prod.snd=some (.got (.words 1 [7])) ∧
    ∀ out t,Step (afterCalls (heldWord++[secondWord])) (.read 1 true 1 0,out) t → out≠.got (.error .overrun) := by
  have hheld : canFollow returns next (System.init sharedRing fun _ => 0) heldWord=true := by decide
  have run := Run.follow step_next .refl hheld
  have hlate : Unfinished (afterCalls heldWord).stream ⟨1,by decide⟩ := ⟨by decide,by decide⟩
  have hstep : Guarded Step KeepsBound (afterCalls heldWord) secondWord (afterCalls (heldWord++[secondWord])) :=
    step_next _ _ (by decide)
  exact ⟨hlate,by decide,(no_unread_word_lost run).1 _ hlate,
    (no_unread_word_lost run).2.1 _ _ hstep _ hlate 0 _ (by decide) (by decide) rfl,by decide,
    fun out t hread => (no_unread_word_lost (run.snoc hstep)).2.2 1 _ true 1 0 out t rfl (by decide) hread⟩

end AlexaClientSDK.SdsBackPressure
