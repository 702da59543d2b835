import AlexaClientSDK.SdsBackPressure
import AlexaClientSDK.SdsRingLayout

/-!
# Seeking

The position is computed in 64 bits and checked against the close index and the words still in the ring. Backward
references refuse one before the start; a sum after the reader that wraps is taken for a position near the start. A
backward seek computes the oldest unconsumed cursor anew; a forward one only moves it forward, so a bound that was too
high stays so.
-/

namespace AlexaClientSDK.SdsBackPressure

open Nat Function UInt64 SharedDataStream SdsFaithfulness

variable {L : Layout} {s : Stream L} {id : Fin L.maxReaders} {offset : Index} {reference : Reference}

section

variable (s)

section

variable (id)

/-- The position a seek aims at, without wrap-around. -/
def target (offset : Index) : Reference → ℤ
  | .afterReader => (s.readers id).cursor.toNat+offset.toNat
  | .beforeReader => (s.readers id).cursor.toNat-offset.toNat
  | .beforeWriter => s.header.writeStartCursor.toNat-offset.toNat
  | .absolute => offset.toNat

/-- Up to the close index, and not overwritten. -/
def Admissible (position : ℤ) : Prop :=
  0≤position ∧ position≤(s.readers id).closeIndex.toNat ∧ s.header.writeEndCursor.toNat≤position+L.dataSize.toNat

/-- The cached bound covers every enabled reader. -/
def Covered : Prop :=
  ∀ other,(s.readers other).enabled=true → s.header.oldestUnconsumedCursor.toNat≤(s.readers other).cursor.toNat

structure SeekExact (s : Stream L) (id : Fin L.maxReaders) (offset : Index) (reference : Reference) : Prop where
  succeeds : (s.seek id offset reference).2=true ↔ Admissible s id (target s id offset reference)
  moved : (s.seek id offset reference).2=true →
    (((s.seek id offset reference).1.readers id).cursor.toNat : ℤ)=target s id offset reference
  covered : (s.seek id offset reference).2=true → Covered (s.seek id offset reference).1
  unchanged : (s.seek id offset reference).2=false → (s.seek id offset reference).1=s

/-- The sum for a position after the reader does not fit into an index. -/
def Wraps (offset : Index) (reference : Reference) : Prop :=
  reference=.afterReader ∧ 2^64≤(s.readers id).cursor.toNat+offset.toNat

/-- Every enabled reader, if one of them moved to a position. -/
def CoversMove (position : ℤ) : Prop :=
  ∀ other,(s.readers other).enabled=true →
    (s.header.oldestUnconsumedCursor.toNat : ℤ) ≤ if other=id then position else (s.readers other).cursor.toNat

/-- A sum that wraps leaves no position, and the bound covers a move. -/
def SoundSeek (offset : Index) (reference : Reference) : Prop :=
  (Wraps s id offset reference → ¬Admissible s id (target s id offset reference-2^64)) ∧
    (Admissible s id (target s id offset reference) → ((s.readers id).cursor.toNat : ℤ)≤target s id offset reference →
      CoversMove s id (target s id offset reference))

/-- The target, if not before the start and not wrapped. -/
theorem seekTarget_cases (offset : Index) (reference : Reference) :
    (¬Wraps s id offset reference ∧ ∃ absolute,s.seekTarget id offset reference=some absolute ∧
        (absolute.toNat : ℤ)=target s id offset reference) ∨
      (¬Wraps s id offset reference ∧ s.seekTarget id offset reference=none ∧ target s id offset reference<0) ∨
      (Wraps s id offset reference ∧ ∃ absolute,s.seekTarget id offset reference=some absolute ∧
        (absolute.toNat : ℤ)=target s id offset reference-2^64) := by
  have hcursor := toNat_lt (s.readers id).cursor
  have hoffset := toNat_lt offset
  cases reference with
  | afterReader =>
    have hsum : ((s.readers id).cursor+offset).toNat=((s.readers id).cursor.toNat+offset.toNat)%2^64 :=
      UInt64.toNat_add _ _
    rcases lt_or_ge ((s.readers id).cursor.toNat+offset.toNat) (2^64) with hfits|hwraps
    · refine .inl ⟨fun h => absurd h.2 (by omega),_,rfl,?_⟩
      rw [hsum,mod_eq_of_lt hfits]
      rfl
    · refine .inr (.inr ⟨⟨rfl,hwraps⟩,_,rfl,?_⟩)
      unfold target
      dsimp only
      rw [hsum]
      omega
  | beforeReader | beforeWriter =>
    unfold Stream.seekTarget target
    dsimp only
    split
    · next hbefore =>
      rw [lt_iff_toNat_lt] at hbefore
      exact .inr (.inl ⟨fun h => (nomatch h.1),rfl,by omega⟩)
    · next hbefore =>
      rw [lt_iff_toNat_lt] at hbefore
      refine .inl ⟨fun h => (nomatch h.1),_,rfl,?_⟩
      rw [UInt64.toNat_sub_of_le _ _ (UInt64.le_iff_toNat_le.mpr (by omega))]
      omega
  | absolute => exact .inl ⟨fun h => (by cases h.1),offset,rfl,rfl⟩

end

end

variable {absolute : Index}

/-- After an update the bound covers the readers if it did before. -/
theorem covered_update_iff (s : Stream L) : Covered s.updateOldestUnconsumedCursor ↔ Covered s := by
  unfold Covered
  rw [updateOldest_cache,updateOldest_readers]
  refine forall_congr' fun other => forall_congr' fun henabled => ?_
  have holdest := oldest_le s henabled
  omega

section

variable (h : s.seekTarget id offset reference=some absolute)
include h

theorem seek_of_not_admissible (hnot : ¬Admissible s id absolute.toNat) : s.seek id offset reference=(s,false) := by
  unfold Stream.seek
  rw [h]
  dsimp only
  split
  · rfl
  · next hclose =>
    rw [lt_iff_toNat_lt] at hclose
    split
    · rfl
    · next hover =>
      refine absurd ⟨by omega,by omega,?_⟩ hnot
      by_contra hfar
      have hle : absolute ≤ s.header.writeEndCursor := le_iff_toNat_le.mpr (by omega)
      refine hover ⟨hle,?_⟩
      rw [UInt64.lt_iff_toNat_lt,UInt64.toNat_sub_of_le _ _ hle]
      omega

theorem seek_of_admissible (hadmissible : Admissible s id absolute.toNat) :
    ∃ moved : Stream L,s.seek id offset reference=(moved.updateOldestUnconsumedCursor,true) ∧
      moved.readers=update s.readers id {s.readers id with cursor := absolute} ∧
      moved.header.oldestUnconsumedCursor =
        if absolute<(s.readers id).cursor then 0 else s.header.oldestUnconsumedCursor := by
  obtain ⟨_,hclose,hring⟩ := hadmissible
  have hopen : ¬(s.readers id).closeIndex<absolute := by
    rw [lt_iff_toNat_lt]
    omega
  have hkept : ¬(absolute ≤ s.header.writeEndCursor ∧ L.dataSize<s.header.writeEndCursor-absolute) := by
    rintro ⟨hle,hfar⟩
    rw [UInt64.lt_iff_toNat_lt,UInt64.toNat_sub_of_le _ _ hle] at hfar
    omega
  unfold Stream.seek
  rw [h]
  dsimp only
  rw [if_neg hopen,if_neg hkept]
  split
  · exact ⟨_,rfl,rfl,rfl⟩
  · exact ⟨_,rfl,rfl,rfl⟩

/-- Backward, or the old bound covers the move. -/
theorem covered_seek_iff (hadmissible : Admissible s id absolute.toNat) : Covered (s.seek id offset reference).1 ↔
      (((s.readers id).cursor.toNat : ℤ)≤absolute.toNat → CoversMove s id absolute.toNat) := by
  obtain ⟨moved,hseek,hreaders,holdest⟩ := seek_of_admissible h hadmissible
  rw [hseek,covered_update_iff]
  unfold Covered CoversMove
  rw [hreaders,holdest]
  by_cases hback : absolute<(s.readers id).cursor
  · rw [if_pos hback]
    rw [lt_iff_toNat_lt] at hback
    exact iff_of_true (fun _ _ => zero_le _) fun hforward => by omega
  · rw [if_neg hback]
    rw [lt_iff_toNat_lt] at hback
    have hforward : ((s.readers id).cursor.toNat : ℤ)≤absolute.toNat := by omega
    rw [forall_prop_of_true hforward]
    refine forall_congr' fun other => ?_
    by_cases hother : other=id
    · subst hother
      rw [update_self,if_pos rfl]
      exact forall_congr' fun _ => Int.ofNat_le.symm
    · rw [update_of_ne hother,if_neg hother]
      exact forall_congr' fun _ => Int.ofNat_le.symm

end

theorem seekExact_of_refused (hseek : s.seek id offset reference=(s,false))
    (hnot : ¬Admissible s id (target s id offset reference)) : SeekExact s id offset reference := by
  have hrefused : ¬(s.seek id offset reference).2=true := by
    rw [hseek]
    exact Bool.false_ne_true
  exact ⟨iff_of_false hrefused hnot,fun h => absurd h hrefused,fun h => absurd h hrefused,fun _ => by rw [hseek]⟩

theorem seekExact_iff_of_admissible (htarget : s.seekTarget id offset reference=some absolute)
    (heq : (absolute.toNat : ℤ)=target s id offset reference)
    (hadmissible : Admissible s id (target s id offset reference)) : SeekExact s id offset reference ↔
      (((s.readers id).cursor.toNat : ℤ)≤target s id offset reference →
        CoversMove s id (target s id offset reference)) := by
  have hposition : Admissible s id absolute.toNat := heq ▸ hadmissible
  have hcovered := covered_seek_iff htarget hposition
  obtain ⟨moved,hseek,hreaders,_⟩ := seek_of_admissible htarget hposition
  have hcursor : ((s.seek id offset reference).1.readers id).cursor=absolute := by
    rw [hseek,updateOldest_readers,hreaders,update_self]
  have hsuccess : (s.seek id offset reference).2=true := by rw [hseek]
  rw [heq] at hcovered
  constructor
  · exact fun hexact => hcovered.mp (hexact.covered hsuccess)
  · refine fun hcovers => ⟨iff_of_true hsuccess hadmissible,fun _ => ?_,fun _ => hcovered.mpr hcovers,fun h => ?_⟩
    · rw [hcursor]
      exact heq
    · rw [hsuccess] at h
      cases h

/-- A seek is exact and atomic if and only if what is left of a sum that wraps is no position for the reader, and the
bound covers a move forward. -/
theorem seekExact_iff (s : Stream L) (id : Fin L.maxReaders) (offset : Index) (reference : Reference) :
    SeekExact s id offset reference ↔ SoundSeek s id offset reference := by
  rcases seekTarget_cases s id offset reference with
    ⟨hwraps,absolute,htarget,heq⟩ | ⟨hwraps,htarget,hbefore⟩ | ⟨hwraps,absolute,htarget,heq⟩
  · by_cases hadmissible : Admissible s id (target s id offset reference)
    · rw [seekExact_iff_of_admissible htarget heq hadmissible]
      exact ⟨fun hcovers => ⟨fun h => absurd h hwraps,fun _ => hcovers⟩,fun hsound => hsound.2 hadmissible⟩
    · have hseek := seek_of_not_admissible htarget (heq ▸ hadmissible)
      exact iff_of_true (seekExact_of_refused hseek hadmissible)
        ⟨fun h => absurd h hwraps,fun h => absurd h hadmissible⟩
  · have hnot : ¬Admissible s id (target s id offset reference) := fun h => absurd h.1 (by omega)
    have hseek : s.seek id offset reference=(s,false) := by
      unfold Stream.seek
      rw [htarget]
    exact iff_of_true (seekExact_of_refused hseek hnot) ⟨fun h => absurd h hwraps,fun h => absurd h hnot⟩
  · have hnot : ¬Admissible s id (target s id offset reference) := by
      have hclose := toNat_lt (s.readers id).closeIndex
      exact fun h => absurd h.2.1 (by omega)
    by_cases hadmissible : Admissible s id absolute.toNat
    · obtain ⟨_,hseek,_⟩ := seek_of_admissible htarget hadmissible
      have hsuccess : (s.seek id offset reference).2=true := by rw [hseek]
      rw [heq] at hadmissible
      exact iff_of_false (fun hexact => hnot (hexact.succeeds.mp hsuccess)) fun hsound => hsound.1 hwraps hadmissible
    · have hseek := seek_of_not_admissible htarget hadmissible
      rw [heq] at hadmissible
      exact iff_of_true (seekExact_of_refused hseek hnot) ⟨fun _ => hadmissible,fun h => absurd h hnot⟩

/-- By the greatest offset, back to the first word. -/
theorem seek_wraps_backward : ∃ s t : System twoWords, (System.init twoWords fun _ => 0).exec
          [.createReaderAt ⟨0,one_pos⟩ .nonblocking true false,.seek 0 1 .afterReader] =
        some (s,[(.createReaderAt ⟨0,one_pos⟩ .nonblocking true false,.created (some 0)),
          (.seek 0 1 .afterReader,.sought true)]) ∧
      target s.stream ⟨0,one_pos⟩ maxIndex .afterReader=18446744073709551616 ∧
      Step s (.seek 0 maxIndex .afterReader,.sought true) t ∧ (t.stream.readers ⟨0,one_pos⟩).cursor=0 ∧
      ¬SeekExact s.stream ⟨0,one_pos⟩ maxIndex .afterReader := by
  refine ⟨_,_,rfl,rfl,rfl,rfl,fun hexact => ?_⟩
  have hclose := (hexact.succeeds.mp rfl).2.1
  exact absurd hclose (by decide)

end AlexaClientSDK.SdsBackPressure
