import Mathlib.Order.Basic

/-!
# The layout of a shared buffer

`BufferLayout` puts a header, three arrays and the words into one buffer of bytes, and `calculateBufferSize` says how
large it has to be. Positions are offsets into the buffer, and sizes are exact: each on the way is at most that of the
buffer, so that none wraps around if that does not.
-/

namespace AlexaClientSDK.BufferLayout

open List

/-- Sizes and alignments in the buffer. A size is a multiple of the alignment. -/
structure Platform where
  sizeofHeader : ℕ
  alignofHeader : ℕ
  sizeofAtomicBool : ℕ
  alignofAtomicBool : ℕ
  sizeofAtomicIndex : ℕ
  alignofAtomicIndex : ℕ
  bool_pos : 0<alignofAtomicBool
  index_pos : 0<alignofAtomicIndex
  index_dvd : alignofAtomicIndex∣sizeofAtomicIndex

/-- The largest `Header::wordSize`. -/
def WORD_SIZE_LIMIT : ℕ := 65535

/-- The largest `Header::maxReaders`. -/
def MAX_READERS_LIMIT : ℕ := 255

def alignSizeTo (size align : ℕ) : ℕ := if size≠0 then ((size-1)/align+1)*align else 0

variable (P : Platform) (nWords wordSize maxReaders : ℕ)

def calculateReaderEnabledArrayOffset : ℕ := alignSizeTo P.sizeofHeader P.alignofAtomicBool

def calculateReaderCursorArrayOffset : ℕ :=
  alignSizeTo (calculateReaderEnabledArrayOffset P+maxReaders*P.sizeofAtomicBool) P.alignofAtomicIndex

def calculateReaderCloseIndexArrayOffset : ℕ :=
  calculateReaderCursorArrayOffset P maxReaders+maxReaders*P.sizeofAtomicIndex

def calculateDataOffset : ℕ :=
  alignSizeTo (calculateReaderCloseIndexArrayOffset P maxReaders+maxReaders*P.sizeofAtomicIndex) wordSize

def calculateBufferSize : ℕ :=
  if nWords=0 then 0
  else if wordSize=0 then 0
  else calculateDataOffset P wordSize maxReaders+nWords*wordSize

/-- What `BufferLayout` caches. -/
structure Constants where
  readerEnabledArray : ℕ
  readerCursorArray : ℕ
  readerCloseIndexArray : ℕ
  dataSize : ℕ
  data : ℕ

def calculateAndCacheConstants (bufferSize : ℕ) : Constants where
  readerEnabledArray := calculateReaderEnabledArrayOffset P
  readerCursorArray := calculateReaderCursorArrayOffset P maxReaders
  readerCloseIndexArray := calculateReaderCloseIndexArrayOffset P maxReaders
  dataSize := (bufferSize-calculateDataOffset P wordSize maxReaders)/wordSize
  data := calculateDataOffset P wordSize maxReaders

/-- `BufferLayout::init`, as far as it places what is in the buffer. -/
def init (bufferSize : ℕ) : Option Constants :=
  if wordSize>WORD_SIZE_LIMIT then none
  else if maxReaders>MAX_READERS_LIMIT then none
  else some (calculateAndCacheConstants P wordSize maxReaders bufferSize)

/-- `SharedDataStream::create` over a buffer of so many bytes. -/
def createEphemeral (bufferSize maxEphemeralReaders : ℕ) : Option Constants :=
  let expectedSize := calculateBufferSize P 1 wordSize maxReaders
  if expectedSize=0 then none
  else if expectedSize>bufferSize then none
  else if maxEphemeralReaders>maxReaders then none
  else init P wordSize maxReaders bufferSize

def create (bufferSize : ℕ) : Option Constants := createEphemeral P wordSize maxReaders bufferSize maxReaders

/-- A part of the buffer, with the alignment of what is in it. -/
structure Area where
  offset : ℕ
  size : ℕ
  align : ℕ

def areas (c : Constants) : List Area :=
  [⟨0,P.sizeofHeader,P.alignofHeader⟩,⟨c.readerEnabledArray,maxReaders*P.sizeofAtomicBool,P.alignofAtomicBool⟩,
    ⟨c.readerCursorArray,maxReaders*P.sizeofAtomicIndex,P.alignofAtomicIndex⟩,
    ⟨c.readerCloseIndexArray,maxReaders*P.sizeofAtomicIndex,P.alignofAtomicIndex⟩,
    ⟨c.data,c.dataSize*wordSize,wordSize⟩]

/-- The buffer is laid out for so many words. -/
structure LaidOut (c : Constants) : Prop where
  words : c.dataSize=nWords
  /-- The areas stand one behind the other. -/
  disjoint : (areas P wordSize maxReaders c).Pairwise fun a b => a.offset+a.size≤b.offset
  inside : ∀ a∈areas P wordSize maxReaders c,a.offset+a.size≤calculateBufferSize P nWords wordSize maxReaders
  /-- In a buffer that is aligned itself. -/
  aligned : ∀ a∈areas P wordSize maxReaders c,a.align∣a.offset

variable {P nWords wordSize maxReaders}

/-- A size is rounded up to a multiple. -/
theorem alignSizeTo_spec {align : ℕ} (size : ℕ) (hpos : 0<align) :
    size≤alignSizeTo size align ∧ align∣alignSizeTo size align := by
  unfold alignSizeTo
  split
  · have hdiv := Nat.lt_div_mul_add (a := size-1) hpos
    exact ⟨by rw [Nat.succ_mul]; omega,Nat.dvd_mul_left _ _⟩
  · next hzero => exact ⟨by omega,Nat.dvd_zero _⟩

theorem laidOut (hwords : 0<nWords) (hword : 0<wordSize) :
    LaidOut P nWords wordSize maxReaders (calculateAndCacheConstants P wordSize maxReaders
      (calculateBufferSize P nWords wordSize maxReaders)) := by
  have hsize : calculateBufferSize P nWords wordSize maxReaders=
      calculateDataOffset P wordSize maxReaders+nWords*wordSize := by
    unfold calculateBufferSize
    rw [if_neg (by omega),if_neg (by omega)]
  have henabled : P.sizeofHeader≤calculateReaderEnabledArrayOffset P ∧
      P.alignofAtomicBool∣calculateReaderEnabledArrayOffset P := alignSizeTo_spec _ P.bool_pos
  have hcursor : calculateReaderEnabledArrayOffset P+maxReaders*P.sizeofAtomicBool≤
      calculateReaderCursorArrayOffset P maxReaders ∧
      P.alignofAtomicIndex∣calculateReaderCursorArrayOffset P maxReaders := alignSizeTo_spec _ P.index_pos
  have hclose : calculateReaderCloseIndexArrayOffset P maxReaders=
      calculateReaderCursorArrayOffset P maxReaders+maxReaders*P.sizeofAtomicIndex := rfl
  have hdata : calculateReaderCloseIndexArrayOffset P maxReaders+maxReaders*P.sizeofAtomicIndex≤
      calculateDataOffset P wordSize maxReaders ∧ wordSize∣calculateDataOffset P wordSize maxReaders :=
    alignSizeTo_spec _ hword
  have hdataSize : (calculateBufferSize P nWords wordSize maxReaders-calculateDataOffset P wordSize maxReaders)/wordSize=
      nWords := by
    rw [hsize,Nat.add_sub_cancel_left,Nat.mul_div_cancel _ hword]
  refine ⟨hdataSize,?_,?_,?_⟩
  · simp only [areas,calculateAndCacheConstants,pairwise_cons,forall_mem_cons]
    simp only [not_mem_nil,false_implies,implies_true,List.Pairwise.nil,and_true]
    omega
  · simp only [areas,calculateAndCacheConstants,hdataSize,forall_mem_cons]
    simp only [not_mem_nil,false_implies,implies_true,and_true]
    omega
  · simp only [areas,calculateAndCacheConstants,forall_mem_cons]
    refine ⟨Nat.dvd_zero _,henabled.2,hcursor.2,?_,hdata.2,nofun⟩
    exact Nat.dvd_add hcursor.2 (Nat.dvd_mul_left_of_dvd P.index_dvd _)

/-- A buffer of the calculated size is laid out for its words unless there are none, a word is too large or there are too
many readers: then it is refused. -/
theorem create_laidOut (P : Platform) (nWords wordSize maxReaders : ℕ) (hword : 0<wordSize) :
    (0<nWords ∧ wordSize≤WORD_SIZE_LIMIT ∧ maxReaders≤MAX_READERS_LIMIT →
      ∃ c,create P wordSize maxReaders (calculateBufferSize P nWords wordSize maxReaders)=some c ∧
        LaidOut P nWords wordSize maxReaders c) ∧
    (¬(0<nWords ∧ wordSize≤WORD_SIZE_LIMIT ∧ maxReaders≤MAX_READERS_LIMIT) →
      create P wordSize maxReaders (calculateBufferSize P nWords wordSize maxReaders)=none) := by
  have hone : calculateBufferSize P 1 wordSize maxReaders=calculateDataOffset P wordSize maxReaders+wordSize := by
    unfold calculateBufferSize
    rw [if_neg Nat.one_ne_zero,if_neg (by omega),Nat.one_mul]
  have hsize : calculateBufferSize P nWords wordSize maxReaders=
      if nWords=0 then 0 else calculateDataOffset P wordSize maxReaders+nWords*wordSize := by
    unfold calculateBufferSize
    rw [if_neg (show wordSize≠0 by omega)]
  unfold create createEphemeral init
  rw [hone,if_neg (show calculateDataOffset P wordSize maxReaders+wordSize≠0 by omega),
    if_neg (show ¬maxReaders>maxReaders from Nat.lt_irrefl _)]
  constructor
  · rintro ⟨hwords,hlimit,hreaders⟩
    have hle : wordSize≤nWords*wordSize := Nat.le_mul_of_pos_left _ hwords
    rw [if_neg (by rw [hsize,if_neg (by omega)]; omega),if_neg (by omega),if_neg (by omega)]
    exact ⟨_,rfl,laidOut hwords hword⟩
  · intro hno
    rcases Nat.eq_zero_or_pos nWords with hzero|hwords
    · rw [if_pos (by rw [hsize,if_pos hzero]; omega)]
    · split
      · rfl
      · split
        · rfl
        · exact if_pos (by omega)

/-- The sizes of a 64-bit Linux. -/
def linux64 : Platform := ⟨352,8,1,1,8,8,Nat.one_pos,by decide,Nat.dvd_refl _⟩

/-- Three words of two bytes, and four readers. -/
theorem create_laidOut_three : ∃ c,create linux64 2 4 (calculateBufferSize linux64 3 2 4)=some c ∧
    LaidOut linux64 3 2 4 c :=
  (create_laidOut linux64 3 2 4 (by decide)).1 (by decide)

/-- A word size that does not fit the header is refused. -/
theorem large_words_are_refused : ¬∀ (P : Platform) (nWords wordSize maxReaders : ℕ),0<wordSize →
    ∃ c,create P wordSize maxReaders (calculateBufferSize P nWords wordSize maxReaders)=some c ∧
      LaidOut P nWords wordSize maxReaders c := by
  intro hall
  obtain ⟨c,hc,-⟩ := hall linux64 1 65536 0 (by decide)
  have hnone : create linux64 65536 0 (calculateBufferSize linux64 1 65536 0)=none := by decide
  cases hnone.symm.trans hc

end AlexaClientSDK.BufferLayout
