import AlexaClientSDK.SdsFaithfulness

/-!
# What an all-or-nothing write leaves in the ring

Such a writer is only held back by the oldest unconsumed word, so it may write more words than the ring has. It then
skips the words that would be overwritten, but copies the rest from the cursor where the write began. That puts the
words into their slots where their number is a multiple of the ring size, and otherwise only if the words kept read the
same when rotated.
-/

namespace AlexaClientSDK.SdsFaithfulness

open Nat List UInt64 CircularMemory LabelledRuns SharedDataStream

variable {L : Layout} {s t : Stream L} {buf : WriteBuffer L}

/-- The word in the slot of an index. -/
def wordAt (s : Stream L) (i : ℕ) : List UInt8 := fetch s.data (i%L.dataSize.toNat*L.wordSize) L.wordSize

section

variable (buf)

/-- A word of a caller's buffer. -/
def wordOf (k : ℕ) : List UInt8 := (buf.bytes.drop (k*L.wordSize)).take L.wordSize

/-- Words that a write leaves in the ring. -/
def keptWords : ℕ := min buf.nWords.toNat L.dataSize.toNat

/-- Writes are counted, and the last words are in their slots. -/
structure KeepsLayout (s t : Stream L) (buf : WriteBuffer L) : Prop where
  counted : t.header.writeStartCursor.toNat=s.header.writeStartCursor.toNat+buf.nWords.toNat
  stored : ∀ k,buf.nWords.toNat≤k+keptWords buf → k<buf.nWords.toNat →
    wordAt t (s.header.writeStartCursor.toNat+k)=wordOf buf k

/-- As many words as the ring has, read the same when rotated. -/
def ReadsRotated : Prop :=
  ∀ d<L.dataSize.toNat, wordOf buf (buf.nWords.toNat-L.dataSize.toNat+(buf.nWords.toNat+d)%L.dataSize.toNat) =
      wordOf buf (buf.nWords.toNat-L.dataSize.toNat+d)

end

theorem readsRotated_of_dvd (h : L.dataSize.toNat ∣ buf.nWords.toNat) : ReadsRotated buf := by
  intro d hd
  obtain ⟨turns,hturns⟩ := h
  have hmod : (buf.nWords.toNat+d)%L.dataSize.toNat=d := by
    rw [hturns,mul_add_mod,mod_eq_of_lt hd]
  rw [hmod]

theorem allOrNothing_cases {timeout : ℕ} {n : Index} (h : s.write .allOrNothing (some buf) timeout=some (t,.words n)) :
    t=s.copyIn .allOrNothing buf.bytes buf.nWords (s.header.writeStartCursor+buf.nWords) := by
  rcases write_cases h with ⟨_,_,hresult⟩|⟨b,n,writeEnd,hbuf,_,_,hgranted,ht,_⟩
  · cases hresult
  · obtain rfl := Option.some.inj hbuf
    unfold reserve at hgranted
    dsimp only at hgranted
    split at hgranted
    · cases hgranted
    · cases hgranted
      exact ht

theorem wordAt_congr {i j : ℕ} (h : i%L.dataSize.toNat=j%L.dataSize.toNat) : wordAt s i=wordAt s j := by
  unfold wordAt
  rw [h]

section

variable (hroom : s.header.writeStartCursor.toNat+buf.nWords.toNat<2^64)
include hroom

theorem allOrNothing_data (writeEnd : Index) : (s.copyIn .allOrNothing buf.bytes buf.nWords writeEnd).data =
      circularWrite s.data (s.header.writeStartCursor.toNat*L.wordSize)
        (buf.bytes.drop ((buf.nWords.toNat-keptWords buf)*L.wordSize)) := by
  have hkept : (if WriterPolicy.allOrNothing=.allOrNothing ∧ L.dataSize<buf.nWords then L.dataSize
      else buf.nWords).toNat=keptWords buf := by
    unfold keptWords
    split
    · next hbig =>
      have hlt := lt_iff_toNat_lt.mp hbig.2
      omega
    · next hsmall =>
      have hle : ¬L.dataSize<buf.nWords := fun hbig => hsmall ⟨rfl,hbig⟩
      rw [lt_iff_toNat_lt] at hle
      omega
  unfold Stream.copyIn
  dsimp only
  generalize (if WriterPolicy.allOrNothing=.allOrNothing ∧ L.dataSize<buf.nWords then L.dataSize
    else buf.nWords)=copied at hkept ⊢
  have hle : keptWords buf≤buf.nWords.toNat := Nat.min_le_left _ _
  have hskip : (buf.nWords-copied).toNat=buf.nWords.toNat-keptWords buf := by
    rw [UInt64.toNat_sub_of_le _ _ (UInt64.le_iff_toNat_le.mpr (hkept ▸ hle)),hkept]
  have hlength : (buf.bytes.drop ((buf.nWords.toNat-keptWords buf)*L.wordSize)).length = keptWords buf*L.wordSize := by
    rw [length_drop,buf.bytes_length,←Nat.sub_mul,Nat.sub_sub_self hle]
  rw [hskip,copyToRing_eq (by omega) (by rw [hkept,hlength]),hkept,take_of_length_le (by rw [hlength])]

theorem wordAt_allOrNothing (writeEnd : Index) {d : ℕ} (hd : d<keptWords buf) :
    wordAt (s.copyIn .allOrNothing buf.bytes buf.nWords writeEnd) (s.header.writeStartCursor.toNat+d) =
      wordOf buf (buf.nWords.toNat-keptWords buf+d) := by
  have hle : keptWords buf≤buf.nWords.toNat := Nat.min_le_left _ _
  have hring : keptWords buf≤L.dataSize.toNat := Nat.min_le_right _ _
  have hslot : (s.header.writeStartCursor.toNat+d)%L.dataSize.toNat*L.wordSize =
      (s.header.writeStartCursor.toNat*L.wordSize+d*L.wordSize)%L.size := by
    unfold Layout.size
    rw [←Nat.add_mul,Nat.mul_mod_mul_right]
  have hlength : (buf.bytes.drop ((buf.nWords.toNat-keptWords buf)*L.wordSize)).length = keptWords buf*L.wordSize := by
    rw [length_drop,buf.bytes_length,←Nat.sub_mul,Nat.sub_sub_self hle]
  have hword : d*L.wordSize+L.wordSize≤keptWords buf*L.wordSize := by
    rw [←Nat.succ_mul]
    exact Nat.mul_le_mul_right _ hd
  have hturn : (s.header.writeStartCursor.toNat*L.wordSize+d*L.wordSize)%L.size+L.wordSize≤L.size := by
    rw [←hslot]
    rw [←Nat.succ_mul]
    exact Nat.mul_le_mul_right _ (Nat.mod_lt _ L.dataSize_pos)
  unfold wordAt wordOf
  rw [allOrNothing_data hroom,hslot,fetch_circularWrite (by rw [hlength]; exact Nat.mul_le_mul_right _ hring)
    (by rw [hlength]; exact hword) hturn,drop_drop,←Nat.add_mul]

/-- No wrap: the words fit, or read the same when rotated. -/
theorem stored_iff (writeEnd : Index) : (∀ k,buf.nWords.toNat≤k+keptWords buf → k<buf.nWords.toNat →
      wordAt (s.copyIn .allOrNothing buf.bytes buf.nWords writeEnd) (s.header.writeStartCursor.toNat+k) =
        wordOf buf k) ↔ buf.nWords≤L.dataSize ∨ ReadsRotated buf := by
  rcases Nat.lt_or_ge L.dataSize.toNat buf.nWords.toNat with hbig|hsmall
  · have hkept : keptWords buf=L.dataSize.toNat := Nat.min_eq_right (Nat.le_of_lt hbig)
    have hnot : ¬buf.nWords≤L.dataSize := by
      rw [le_iff_toNat_le]
      omega
    -- the slot of the `d`-th of the last words was filled with the word that the rotation puts there
    have hfilled : ∀ d<L.dataSize.toNat, wordAt (s.copyIn .allOrNothing buf.bytes buf.nWords writeEnd)
            (s.header.writeStartCursor.toNat+(buf.nWords.toNat-L.dataSize.toNat+d)) =
          wordOf buf (buf.nWords.toNat-L.dataSize.toNat+(buf.nWords.toNat+d)%L.dataSize.toNat) := by
      intro d hd
      have hslot : (s.header.writeStartCursor.toNat+(buf.nWords.toNat-L.dataSize.toNat+d))%L.dataSize.toNat =
          (s.header.writeStartCursor.toNat+(buf.nWords.toNat+d)%L.dataSize.toNat)%L.dataSize.toNat := by
        rw [Nat.add_mod_mod,←Nat.add_mod_right]
        congr 1
        omega
      rw [wordAt_congr hslot,wordAt_allOrNothing hroom _ (by rw [hkept]; exact Nat.mod_lt _ L.dataSize_pos),hkept]
    rw [hkept]
    constructor
    · intro hstored
      refine .inr fun d hd => ?_
      rw [←hfilled d hd]
      exact hstored _ (by omega) (by omega)
    · intro hcondition k hlast hk
      have hrotated := hcondition.resolve_left hnot
      obtain ⟨d,rfl⟩ : ∃ d,k=buf.nWords.toNat-L.dataSize.toNat+d :=
        ⟨k-(buf.nWords.toNat-L.dataSize.toNat),by omega⟩
      rw [hfilled d (by omega)]
      exact hrotated d (by omega)
  · have hkept : keptWords buf=buf.nWords.toNat := Nat.min_eq_left hsmall
    refine iff_of_true (fun k _ hk => ?_) (.inl (le_iff_toNat_le.mpr hsmall))
    rw [wordAt_allOrNothing hroom _ (by omega),hkept,Nat.sub_self,Nat.zero_add]

end

theorem byte_of_wordAt {i k r : ℕ} (h : wordAt s i=wordOf buf k) (hr : r<L.wordSize) (hsize : 0<L.size) :
    some (s.data ⟨(i*L.wordSize+r)%L.size,mod_lt _ hsize⟩)=buf.bytes[k*L.wordSize+r]? := by
  have hslot : i%L.dataSize.toNat*L.wordSize+L.wordSize≤L.size := by
    rw [←succ_mul]
    exact mul_le_mul_right _ (mod_lt _ L.dataSize_pos)
  have hbase : i*L.wordSize%L.size=i%L.dataSize.toNat*L.wordSize := by
    unfold Layout.size
    rw [mul_mod_mul_right]
  have hcell : (i*L.wordSize+r)%L.size=i%L.dataSize.toNat*L.wordSize+r := by
    rw [mod_of_turn (by omega),hbase]
  have hbyte := congrArg (fun word : List UInt8 => word[r]?) h
  unfold wordAt wordOf at hbyte
  rw [fetch_getElem? hr (by omega),getElem?_take_of_lt hr,getElem?_drop] at hbyte
  rw [←hbyte]
  exact congrArg some (congrArg s.data (Fin.ext hcell))

/-- A stretch of words that are in their slots is copied out as it was written. -/
theorem copyFromRing_of_stored {start : ℕ} {cursor taken : Index}
    (hstart : start≤cursor.toNat) (hend : cursor.toNat+taken.toNat<2^64) (hfits : taken≤L.dataSize)
    (hstored : ∀ k,cursor.toNat-start≤k → k<cursor.toNat-start+taken.toNat →
      wordAt s (start+k)=wordOf buf k) : copyFromRing L s.data cursor taken =
      (buf.bytes.drop ((cursor.toNat-start)*L.wordSize)).take (taken.toNat*L.wordSize) := by
  have hsize : 0<L.size := Nat.mul_pos L.dataSize_pos L.wordSize_pos
  have hwindow : taken.toNat*L.wordSize≤L.size := Nat.mul_le_mul_right _ (le_iff_toNat_le.mp hfits)
  have hturning := holds_turning s.data hsize (cursor.toNat*L.wordSize+taken.toNat*L.wordSize)
  rw [copyFromRing_eq hend,circularRead_eq hturning (by rw [List.length_ofFn]; omega) (by rw [List.length_ofFn])]
  apply List.ext_getElem?
  intro b
  rcases Nat.lt_or_ge b (taken.toNat*L.wordSize) with hb|hb
  · have hr : b%L.wordSize<L.wordSize := Nat.mod_lt _ L.wordSize_pos
    have hword : b / L.wordSize<taken.toNat := (Nat.div_lt_iff_lt_mul L.wordSize_pos).mpr hb
    have hb' : b / L.wordSize*L.wordSize+b%L.wordSize=b := Nat.div_add_mod' b L.wordSize
    generalize b / L.wordSize=q at hword hb'
    generalize b%L.wordSize=r at hr hb'
    have hcursor : start+(cursor.toNat-start+q)=cursor.toNat+q := by omega
    have hbyte := byte_of_wordAt (hstored (cursor.toNat-start+q) (by omega) (by omega)) hr hsize
    rw [List.getElem?_take_of_lt hb,List.getElem?_take_of_lt hb,List.getElem?_drop,List.getElem?_drop,
      List.getElem?_ofFn,dif_pos (by omega)]
    rw [hcursor,Nat.add_mul,Nat.add_mul,Nat.add_assoc,hb',Nat.add_assoc,hb'] at hbyte
    exact hbyte
  · rw [List.getElem?_eq_none (by rw [List.length_take]; omega),List.getElem?_eq_none (by rw [List.length_take]; omega)]

variable {id : Fin L.maxReaders}

theorem read_of_within {u : Stream L} (policy : ReaderPolicy) {nWords : Index} (timeout : ℕ)
    (hwriting : u.header.writeStartCursor≤u.header.writeEndCursor) (hn : nWords≠0)
    (hopen : (u.readers id).cursor<(u.readers id).closeIndex)
    (hbehind : (u.readers id).cursor<u.header.writeStartCursor)
    (hring : u.header.writeEndCursor.toNat≤(u.readers id).cursor.toNat+L.dataSize.toNat) :
    let taken := wordsToRead (u.readers id) nWords (u.header.writeStartCursor-(u.readers id).cursor)
    ∃ v,u.read id policy true nWords timeout=some (v,.words taken (copyFromRing L u.data (u.readers id).cursor taken)) := by
  intro taken
  have htaken : taken=wordsToRead (u.readers id) nWords (u.header.writeStartCursor-(u.readers id).cursor) := rfl
  obtain ⟨hpos,hstop,_⟩ := wordsToRead_bounds hn hopen hbehind
  rw [←htaken] at hpos hstop
  have hlimit := toNat_lt u.header.writeStartCursor
  rw [lt_iff_toNat_lt] at hopen hbehind
  rw [le_iff_toNat_le] at hwriting
  have hle : (u.readers id).cursor≤u.header.writeStartCursor := le_iff_toNat_le.mpr (by omega)
  have hleEnd : (u.readers id).cursor≤u.header.writeEndCursor := le_iff_toNat_le.mpr (by omega)
  have htell : u.tell id .beforeWriter=u.header.writeStartCursor-(u.readers id).cursor := if_pos hle
  have hsome : ¬u.tell id .beforeWriter=0 := by
    rw [htell,←UInt64.toNat_inj,UInt64.toNat_sub_of_le _ _ hle,UInt64.toNat_zero]
    omega
  have hclosed : ¬(u.readers id).closeIndex≤(u.readers id).cursor := by
    rw [le_iff_toNat_le]
    omega
  have hover : ¬((u.readers id).cursor≤u.header.writeEndCursor ∧
      L.dataSize<u.header.writeEndCursor-(u.readers id).cursor) := by
    rw [UInt64.lt_iff_toNat_lt,UInt64.toNat_sub_of_le _ _ hleEnd]
    omega
  have hafter : ¬L.dataSize<u.header.writeEndCursor-((u.readers id).cursor+taken) := by
    have hsum : ((u.readers id).cursor+taken).toNat=(u.readers id).cursor.toNat+taken.toNat :=
      toNat_add_of_lt (by omega)
    have hbefore : (u.readers id).cursor+taken≤u.header.writeEndCursor :=
      UInt64.le_iff_toNat_le.mpr (by omega)
    rw [UInt64.lt_iff_toNat_lt,UInt64.toNat_sub_of_le _ _ hbefore,hsum]
    omega
  unfold Stream.read
  rw [if_neg (by decide),if_neg hn,if_neg hclosed,if_neg hover,if_neg hsome,htell]
  refine ⟨(u.copyOut id nWords (u.header.writeStartCursor-(u.readers id).cursor)).1,?_⟩
  unfold Stream.copyOut
  dsimp only
  rw [←htaken,if_neg hafter]

theorem read_of_keepsLayout {u : Stream L} (h : KeepsLayout s t buf)
    (hsettled : t.header.writeEndCursor=t.header.writeStartCursor) (hu : SameWords t u)
    (policy : ReaderPolicy) {nWords : Index} (timeout : ℕ) (hn : nWords≠0)
    (hopen : (u.readers id).cursor<(u.readers id).closeIndex)
    (hlast : t.header.writeStartCursor.toNat≤(u.readers id).cursor.toNat+keptWords buf)
    (hbehind : (u.readers id).cursor<t.header.writeStartCursor) :
    ∃ v taken,u.read id policy true nWords timeout=some (v,.words taken
        ((buf.bytes.drop (((u.readers id).cursor.toNat-s.header.writeStartCursor.toNat)*L.wordSize)).take
          (taken.toNat*L.wordSize))) ∧ 0<taken.toNat := by
  obtain ⟨hdata,hstart,hend⟩ := hu
  have hring : keptWords buf≤L.dataSize.toNat := min_le_right _ _
  have hle : keptWords buf≤buf.nWords.toNat := min_le_left _ _
  have hcounted := h.counted
  have hbehindU : (u.readers id).cursor<u.header.writeStartCursor := hstart ▸ hbehind
  obtain ⟨hpos,hstop,_⟩ := wordsToRead_bounds hn hopen hbehindU
  have hsettledU : u.header.writeEndCursor=u.header.writeStartCursor := by rw [hend,hstart,hsettled]
  obtain ⟨v,hread⟩ := read_of_within policy timeout (UInt64.le_of_eq hsettledU.symm) hn hopen hbehindU
    (by rw [hsettledU,hstart]; omega)
  generalize wordsToRead (u.readers id) nWords (u.header.writeStartCursor-(u.readers id).cursor)=taken at *
  rw [hstart] at hstop
  rw [lt_iff_toNat_lt] at hbehind
  have hlimit := toNat_lt t.header.writeStartCursor
  refine ⟨v,taken,?_,hpos⟩
  rw [hread,hdata,copyFromRing_of_stored (by omega) (by omega) (le_iff_toNat_le.mpr (by omega))
    fun k hfrom hto => h.stored k (by omega) (by omega)]

/-- An accepted all-or-nothing write keeps the layout if and only if its end has an index and it has no more
words than the ring, or its last words read the same when rotated; and then later reads return them. -/
theorem allOrNothing_keepsLayout_iff {timeout : ℕ} {n : Index}
    (h : s.write .allOrNothing (some buf) timeout=some (t,.words n)) : (KeepsLayout s t buf ↔
        s.header.writeStartCursor.toNat+buf.nWords.toNat<2^64 ∧ (buf.nWords≤L.dataSize ∨ ReadsRotated buf)) ∧
      (KeepsLayout s t buf → ∀ (u : Stream L) (id : Fin L.maxReaders) (policy : ReaderPolicy) (nWords : Index)
        (timeout : ℕ),SameWords t u → nWords≠0 → (u.readers id).cursor<(u.readers id).closeIndex →
        t.header.writeStartCursor.toNat≤(u.readers id).cursor.toNat+keptWords buf →
        (u.readers id).cursor<t.header.writeStartCursor →
        ∃ v taken,u.read id policy true nWords timeout=some (v,.words taken
          ((buf.bytes.drop (((u.readers id).cursor.toNat-s.header.writeStartCursor.toNat)*L.wordSize)).take
            (taken.toNat*L.wordSize))) ∧ 0<taken.toNat) := by
  obtain rfl := allOrNothing_cases h
  constructor
  · constructor
    · rintro ⟨hcounted,hstored⟩
      have hroom : s.header.writeStartCursor.toNat+buf.nWords.toNat<2^64 := by
        rw [←hcounted]
        exact toNat_lt _
      exact ⟨hroom,(stored_iff hroom _).mp hstored⟩
    · rintro ⟨hroom,hcondition⟩
      exact ⟨toNat_add_of_lt hroom,(stored_iff hroom _).mpr hcondition⟩
  · intro hkeeps u id policy nWords timeout hu hn hopen hlast hbehind
    exact read_of_keepsLayout hkeeps rfl hu policy timeout hn hopen hlast hbehind

/-- Two words of one byte, and one reader. -/
def twoWords : Layout where
  wordSize := 1
  dataSize := 2
  maxReaders := 1
  maxEphemeralReaders := 0
  wordSize_pos := Nat.one_pos
  dataSize_pos := Nat.two_pos
  ephemeral_le := Nat.zero_le 1

def fourBytes : WriteBuffer twoWords := ⟨4,[1,2,3,4],rfl⟩

def threeBytes : WriteBuffer twoWords := ⟨3,[10,11,12],rfl⟩

def fourAhead : Stream twoWords where
  header := ⟨true,false,0,0,4⟩
  readers := fun _ => ⟨true,4,maxIndex⟩
  data := fun _ => 0

/-- Twice as many words as slots. -/
theorem allOrNothing_keepsLayout_four :
    KeepsLayout fourAhead (fourAhead.copyIn .allOrNothing fourBytes.bytes 4 4) fourBytes := by
  have haccepted : fourAhead.write .allOrNothing (some fourBytes) 0 =
      some (fourAhead.copyIn .allOrNothing fourBytes.bytes 4 4,.words 4) := rfl
  refine (allOrNothing_keepsLayout_iff haccepted).1.mpr ⟨by decide,.inr (readsRotated_of_dvd (by decide))⟩

/-- Three words in a ring of two are the wrong way round. -/
theorem allOrNothing_three_words_swapped : ∃ s t u : System twoWords, (System.init twoWords fun _ => 0).exec
          [.createWriter .allOrNothing false,.createReaderAt ⟨0,one_pos⟩ .nonblocking true false,
            .seek 0 3 .afterReader] = some (s,[(.createWriter .allOrNothing false,.created (some 0)),
          (.createReaderAt ⟨0,one_pos⟩ .nonblocking true false,.created (some 0)),
          (.seek 0 3 .afterReader,.sought true)]) ∧ Step s (.write 0 (some threeBytes) 0,.wrote (.words 3)) t ∧
      ¬KeepsLayout s.stream t.stream threeBytes ∧ t.exec [.seek 0 1 .absolute,.read 0 true 2 0] =
        some (u,[(.seek 0 1 .absolute,.sought true),(.read 0 true 2 0,.got (.words 2 [12,11]))]) := by
  refine ⟨_,_,_,rfl,rfl,fun h => ?_,rfl⟩
  have hword := h.stored 1 (by decide) (by decide)
  exact absurd hword (by decide)

end AlexaClientSDK.SdsFaithfulness
