import AlexaClientSDK.CaptionLines

/-!
# Merged caption lines

`CaptionLine::merge` joins the texts. The styles of a line are moved by the length of the line just in front of it, so a
style of a later line can begin too early, over letters of the lines before.
-/

namespace AlexaClientSDK.CaptionLines

open Nat List Marks StringUtils TextStyle

section

def textOf (captionLines : List CaptionLine) : Text := captionLines.flatMap CaptionLine.text

def lengthInFront (captionLines : List CaptionLine) : ℕ → ℕ
  | 0 => 0
  | j+1 => ((captionLines[j]?).map fun line => line.text.length).getD 0

/-- The styles that the loop adds for each of the lines. -/
def laidOut (indexOffset : ℕ) : List CaptionLine → List (List TextStyle)
  | [] => []
  | line::captionLines => line.styles.map (advance indexOffset)::laidOut line.text.length captionLines

theorem mergeLoop_eq (result : CaptionLine) (indexOffset : ℕ) (captionLines : List CaptionLine) :
    mergeLoop result indexOffset captionLines =
      ⟨result.text++textOf captionLines,result.styles++(laidOut indexOffset captionLines).flatten⟩ := by
  induction captionLines generalizing result indexOffset with
  | nil => simp [mergeLoop,textOf,laidOut]
  | cons line captionLines ih =>
    rw [mergeLoop,ih]
    simp [textOf,laidOut,append_assoc]

theorem laidOut_getElem? (indexOffset : ℕ) (captionLines : List CaptionLine) (j : ℕ) :
    (laidOut indexOffset captionLines)[j]?=(captionLines[j]?).map fun line =>
      line.styles.map (advance (if j=0 then indexOffset else lengthInFront captionLines j)) := by
  induction captionLines generalizing indexOffset j with
  | nil => rfl
  | cons line captionLines ih =>
    cases j with
    | zero => rfl
    | succ j =>
      rw [laidOut,List.getElem?_cons_succ,List.getElem?_cons_succ,ih]
      cases j with
      | zero => rfl
      | succ => rfl

/-- At most a default style in front, then what the lines bring. -/
theorem merge_eq (captionLines : List CaptionLine) : ∃ front : List TextStyle,(∀ style∈front,style={}) ∧
    merge captionLines=⟨textOf captionLines,front++(laidOut 0 captionLines).flatten⟩ := by
  have hdefault : ∀ style∈[({} : TextStyle)],style={} := fun style hmem => mem_singleton.mp hmem
  have hnone : ∀ style∈([] : List TextStyle),style={} := fun style hmem => absurd hmem not_mem_nil
  cases captionLines with
  | nil => exact ⟨[],hnone,rfl⟩
  | cons =>
    unfold merge
    dsimp only
    split
    · exact ⟨_,hdefault,mergeLoop_eq _ _ _⟩
    · split
      · exact ⟨_,hdefault,mergeLoop_eq _ _ _⟩
      · exact ⟨_,hnone,mergeLoop_eq _ _ _⟩

theorem merge_text (captionLines : List CaptionLine) : (merge captionLines).text=textOf captionLines := by
  obtain ⟨front,-,heq⟩ := merge_eq captionLines
  rw [heq]

end

section

variable {captionLines : List CaptionLine} {line : CaptionLine} {i j p : ℕ}

/-- A style, moved by the length in front, begins at the place or before. -/
def Reaches (captionLines : List CaptionLine) (j p : ℕ) : Prop :=
  ∃ line∈captionLines[j]?,∃ style∈line.styles,(style.charIndex+lengthInFront captionLines j)%SIZE_VALUES≤p

/-- The last of its styles that begins, moved, there or before. -/
def CaptionLine.shownAt (line : CaptionLine) (indexOffset p : ℕ) : Option Style :=
  (inForce (fun style : TextStyle => (style.charIndex+indexOffset)%SIZE_VALUES) line.styles p).map activeStyle

/-- Moved styles show what the line shows when it is moved. -/
theorem inForce_advance (line : CaptionLine) (indexOffset p : ℕ) :
    (inForce charIndex (line.styles.map (advance indexOffset)) p).map activeStyle = line.shownAt indexOffset p := by
  have hmoved : inForce charIndex (line.styles.map (advance indexOffset)) p =
      (inForce (fun style : TextStyle => (style.charIndex+indexOffset)%SIZE_VALUES) line.styles p).map
        (advance indexOffset) := inForce_map fun _ _ => Iff.rfl
  rw [hmoved,Option.map_map]
  rfl

theorem effectiveStyle_merge (hj : captionLines[j]?=some line) (hreach : Reaches captionLines j p)
    (hlast : ∀ k,j<k → ¬Reaches captionLines k p) :
    (merge captionLines).effectiveStyle p=line.shownAt (lengthInFront captionLines j) p := by
  obtain ⟨front,-,heq⟩ := merge_eq captionLines
  have hblock : ∀ k,(laidOut 0 captionLines)[k]?=(captionLines[k]?).map fun line : CaptionLine =>
      line.styles.map (advance (lengthInFront captionLines k)) := fun k => by
    rw [laidOut_getElem?]
    cases k with
    | zero => rfl
    | succ => rfl
  have hthis := hblock j
  rw [hj,Option.map_some] at hthis
  have hhas : ∃ mark∈line.styles.map (advance (lengthInFront captionLines j)),mark.charIndex≤p := by
    obtain ⟨line',hline,style,hstyle,hle⟩ := hreach
    obtain rfl := Option.some.inj (hj.symm.trans hline)
    exact ⟨_,mem_map_of_mem hstyle,hle⟩
  have hblocks : inForce charIndex (laidOut 0 captionLines).flatten p =
      inForce charIndex (line.styles.map (advance (lengthInFront captionLines j))) p := by
    refine inForce_flatten hthis hhas fun k hk later hlater mark hmark => ?_
    rw [hblock k,Option.map_eq_some_iff] at hlater
    obtain ⟨cover,hover,rfl⟩ := hlater
    obtain ⟨style,hstyle,rfl⟩ := mem_map.mp hmark
    exact Nat.lt_of_not_le fun hle => hlast k hk ⟨cover,hover,style,hstyle,hle⟩
  obtain ⟨mark,hmark⟩ := Option.isSome_iff_exists.mp (inForce_isSome hhas)
  unfold CaptionLine.effectiveStyle
  rw [heq,←inForce_advance,inForce_append,hblocks,hmark,Option.some_or]

section

variable (captionLines)

def lengthUpTo (i : ℕ) : ℕ := (textOf (captionLines.take i)).length

theorem lengthInFront_le (i : ℕ) : lengthInFront captionLines i≤lengthUpTo captionLines i := by
  cases i with
  | zero => exact zero_le _
  | succ i =>
    have hfront : lengthInFront captionLines (i+1) =
        ((captionLines[i]?).map fun line => line.text.length).getD 0 := rfl
    rw [hfront]
    cases hi : captionLines[i]? with
    | none => exact zero_le _
    | some =>
      unfold lengthUpTo textOf
      rw [take_add_one,hi,flatMap_append,length_append]
      simp

end

/-- With a style at its beginning a line reaches the places from the length of the line just in front on. -/
theorem reaches_of_zero (hj : captionLines[j]?=some line) (hzero : ∃ style∈line.styles,style.charIndex=0)
    (hp : lengthInFront captionLines j≤p) : Reaches captionLines j p := by
  obtain ⟨style,hstyle,hindex⟩ := hzero
  refine ⟨line,hj,style,hstyle,?_⟩
  rw [hindex,Nat.zero_add]
  exact (Nat.mod_le _ _).trans hp

/-- Where no sum wraps round, it reaches no others: the line just in front is no longer than the place. -/
theorem lengthInFront_le_of_reaches (hj : captionLines[j]?=some line)
    (hfits : ∀ style∈line.styles,style.charIndex+lengthInFront captionLines j<SIZE_VALUES)
    (hreach : Reaches captionLines j p) : lengthInFront captionLines j≤p := by
  obtain ⟨line',hline,style,hstyle,hle⟩ := hreach
  obtain rfl := Option.some.inj (hj.symm.trans hline)
  rw [mod_eq_of_lt (hfits style hstyle)] at hle
  exact (le_add_left _ _).trans hle

end

section

section

variable (captionLines)

/-- The texts are joined, and every letter keeps the style of its own line. -/
def MergesFaithfully : Prop :=
  (merge captionLines).text=textOf captionLines ∧ ∀ i line,captionLines[i]?=some line → ∀ index<line.text.length,
      (merge captionLines).effectiveStyle (lengthUpTo captionLines i+index)=line.effectiveStyle index

/-- The last line that reaches a letter shows it in its own style. -/
def ReachedInStyle : Prop :=
  ∀ i line,captionLines[i]?=some line → ∀ index<line.text.length,
    ∀ j cover,i≤j → captionLines[j]?=some cover → Reaches captionLines j (lengthUpTo captionLines i+index) →
      (∀ k,j<k → ¬Reaches captionLines k (lengthUpTo captionLines i+index)) →
      cover.shownAt (lengthInFront captionLines j) (lengthUpTo captionLines i+index)=line.effectiveStyle index

end

/-- Lines that have a style at their beginning are merged faithfully exactly when the last line that reaches a letter shows
it in its own style. -/
theorem mergesFaithfully_iff {captionLines : List CaptionLine}
    (hzero : ∀ line∈captionLines,∃ style∈line.styles,style.charIndex=0) :
    MergesFaithfully captionLines ↔ ReachedInStyle captionLines := by
  constructor
  · rintro ⟨-,hstyles⟩ i line hi index hindex j cover - hj hreach hlast
    rw [←effectiveStyle_merge hj hreach hlast]
    exact hstyles i line hi index hindex
  · intro h
    refine ⟨merge_text captionLines,fun i line hi index hindex => ?_⟩
    have hown : Reaches captionLines i (lengthUpTo captionLines i+index) :=
      reaches_of_zero hi (hzero line (mem_of_getElem? hi)) ((lengthInFront_le captionLines i).trans (le_add_right _ _))
    have hbound : ∀ k,captionLines.length<k → ¬Reaches captionLines k (lengthUpTo captionLines i+index) := by
      rintro k hk ⟨later,hlater,-⟩
      rw [List.getElem?_eq_none (le_of_lt hk)] at hlater
      exact Option.some_ne_none later hlater.symm
    obtain ⟨j,hij,hreach,hlast⟩ := exists_last
      (Q := fun k => Reaches captionLines k (lengthUpTo captionLines i+index)) hown hbound
    obtain ⟨cover,hover,-⟩ := id hreach
    rw [effectiveStyle_merge hover hreach hlast]
    exact h i line hi index hindex j cover hij hover hreach hlast

instance (captionLines : List CaptionLine) (j p : ℕ) : Decidable (Reaches captionLines j p) :=
  inferInstanceAs (Decidable (∃ line∈captionLines[j]?,∃ style∈line.styles,
    (style.charIndex+lengthInFront captionLines j)%SIZE_VALUES≤p))

def boldPlainPlain : List CaptionLine := [⟨['a','b'],[⟨0,{bold := true}⟩]⟩,⟨['c','d'],[⟨0,{}⟩]⟩,⟨['e'],[⟨0,{}⟩]⟩]

set_option synthInstance.maxSize 256 in
/-- A bold line is followed by two plain ones: the last begins too early, but over letters that are plain as well. -/
theorem mergesFaithfully_bold_plain_plain : MergesFaithfully boldPlainPlain := by
  refine (mergesFaithfully_iff (by decide)).mpr fun i line hi index hindex j cover hij hj hreach _ => ?_
  have hlength : ∀ {k : ℕ} {l : CaptionLine},boldPlainPlain[k]?=some l → k<3 := fun h =>
    (List.getElem?_eq_some_iff.mp h).1
  have hlines : ∀ i<3,∀ line∈boldPlainPlain[i]?,∀ index<line.text.length,∀ j<3,∀ cover∈boldPlainPlain[j]?,
      i≤j → Reaches boldPlainPlain j (lengthUpTo boldPlainPlain i+index) →
        cover.shownAt (lengthInFront boldPlainPlain j) (lengthUpTo boldPlainPlain i+index) =
          line.effectiveStyle index := by decide
  exact hlines i (hlength hi) line hi index hindex j (hlength hj) cover hj hij hreach

/-- Of three lines the second is bold: the third is shown over it. -/
theorem second_of_three_lines_restyled :
    (∀ line∈([⟨['a'],[⟨0,{}⟩]⟩,⟨['b'],[⟨0,{bold := true}⟩]⟩,⟨['c'],[⟨0,{}⟩]⟩] : List CaptionLine),
      (line.styles.Pairwise fun s s' => s.charIndex ≤ s'.charIndex) ∧ ∃ style∈line.styles,style.charIndex=0) ∧
      ¬MergesFaithfully [⟨['a'],[⟨0,{}⟩]⟩,⟨['b'],[⟨0,{bold := true}⟩]⟩,⟨['c'],[⟨0,{}⟩]⟩] := by
  refine ⟨by decide,fun h => ?_⟩
  have hsecond := h.2 1 ⟨['b'],[⟨0,{bold := true}⟩]⟩ rfl 0 (by decide)
  exact absurd hsecond (by decide)

end

end AlexaClientSDK.CaptionLines
