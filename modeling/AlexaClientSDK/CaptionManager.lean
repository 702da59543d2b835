import AlexaClientSDK.CaptionMerge
import AlexaClientSDK.CaptionSplit
import Mathlib.Data.List.AList

/-!
# Wrapped captions

`CaptionManager::onParsed` merges the lines of a frame and cuts the result again where the presenter wants it wrapped. The
presenter may answer every question anew, and the number of cuts is limited.
-/

namespace AlexaClientSDK.CaptionManager

open CaptionLines StringUtils

def LINE_WRAP_LIMIT : ℕ := 200

/-- The answers to the questions of `getWrapIndex`, by their numbers. -/
abbrev Presenter := ℕ → CaptionLine → Bool × ℤ

structure Manager where
  presenter : Option Presenter
  /-- The frames that each adapter was given, where it is not null. -/
  timingAdaptersBySourceIds : AList fun _ : ℕ => Option (List CaptionFrame)

/-- The index of the end reads as null, and `none` is behind it. -/
def charAt (lineText : Text) (i : ℕ) : Option Char :=
  if i=lineText.length then some (Char.ofNat 0) else lineText[i]?

/-- The search for a blank at the index or before, except at 0. -/
def searchBlank (lineText : Text) : ℕ → Option (Option ℕ)
  | 0 => some none
  | i+1 =>
    match charAt lineText (i+1) with
    | none => none
    | some c => if c = ' ' then some (some (i+1)) else searchBlank lineText i

/-- The conversion of an `int` to `size_t`. -/
def toSize (wrapIndex : ℤ) : ℕ := (wrapIndex%SIZE_VALUES).toNat

/-- At index 0 the answer of the presenter stands. -/
def splitIndex (lineText : Text) (wrapIndex : ℤ) : Option ℕ :=
  (searchBlank lineText (toSize wrapIndex)).map fun blank => blank.getD (toSize wrapIndex)

/-- The line that remains and the lines that were cut off. -/
def wrapLoop (presenter : Presenter) :
    (left lineWrapIterationCount : ℕ) → CaptionLine → List CaptionLine → Option (CaptionLine × List CaptionLine)
  | 0,_,line,wrappedCaptionLines => some (line,wrappedCaptionLines)
  | left+1,lineWrapIterationCount,line,wrappedCaptionLines =>
    let wrapIndexResult := presenter lineWrapIterationCount line
    if wrapIndexResult.1 then
      (splitIndex line.text wrapIndexResult.2).bind fun wrapIndex =>
        (line.splitAtTextIndex wrapIndex).bind fun splitLines =>
          match splitLines with
          | [first,second] =>
            wrapLoop presenter left (lineWrapIterationCount+1) second (wrappedCaptionLines++[first])
          | splitLines => wrapLoop presenter left (lineWrapIterationCount+1) line (wrappedCaptionLines++splitLines)
    else some (line,wrappedCaptionLines)

def displayLines (presenter : Presenter) (captionLines : List CaptionLine) : Option (List CaptionLine) :=
  (wrapLoop presenter LINE_WRAP_LIMIT 0 (merge captionLines) []).map fun (line,wrappedCaptionLines) =>
    if line.text≠[] then wrappedCaptionLines++[line] else wrappedCaptionLines

/-- To the timing adapter of its source, unless that is null. -/
def Manager.queueForDisplay (s : Manager) (timingAdapter : Option (List CaptionFrame)) (displayFrame : CaptionFrame) :
    Manager :=
  let timingAdapterCopy := (s.timingAdaptersBySourceIds.lookup displayFrame.sourceId).getD timingAdapter
  let queued := timingAdapterCopy.map fun frames => frames++[displayFrame]
  {s with timingAdaptersBySourceIds := s.timingAdaptersBySourceIds.insert displayFrame.sourceId queued}

/-- `none` is a read behind the end of a text, or of a missing style. -/
def Manager.onParsed (s : Manager) (timingAdapter : Option (List CaptionFrame)) (captionFrame : CaptionFrame) :
    Option Manager :=
  match s.presenter with
  | none => some s
  | some presenter =>
    (displayLines presenter captionFrame.captionLines).map fun wrappedCaptionLines =>
      s.queueForDisplay timingAdapter {captionFrame with captionLines := wrappedCaptionLines}

section

variable {presenter : Presenter}

/-- The answers lie within the text of the line. -/
def WithinText (presenter : Presenter) : Prop :=
  ∀ count line,(presenter count line).1=true → 0≤(presenter count line).2 ∧ (presenter count line).2≤line.text.length

/-- It does not read behind the text, and finds no blank behind the index. -/
theorem searchBlank_spec {lineText : Text} {i : ℕ} (hi : i≤lineText.length) :
    ∃ blank,searchBlank lineText i=some blank ∧ ∀ j∈blank,j ≤ i := by
  induction i with
  | zero => exact ⟨none,rfl,fun j hj => absurd hj.symm (Option.some_ne_none j)⟩
  | succ i ih =>
    obtain ⟨c,hc⟩ : ∃ c,charAt lineText (i+1)=some c := by
      unfold charAt
      split
      · exact ⟨_,rfl⟩
      · exact ⟨_,List.getElem?_eq_getElem (by omega)⟩
    rw [searchBlank,hc]
    dsimp only
    split
    · exact ⟨_,rfl,fun j hj => Nat.le_of_eq (Option.some.inj hj).symm⟩
    · obtain ⟨blank,hblank,hle⟩ := ih (by omega)
      exact ⟨blank,hblank,fun j hj => (hle j hj).trans (Nat.le_succ i)⟩

theorem splitIndex_spec {lineText : Text} {wrapIndex : ℤ} (hpos : 0≤wrapIndex) (hle : wrapIndex≤lineText.length) :
    ∃ index,splitIndex lineText wrapIndex=some index ∧ index≤lineText.length := by
  obtain ⟨n,rfl⟩ := Int.eq_ofNat_of_zero_le hpos
  have hsize : toSize n≤lineText.length := by
    unfold toSize
    rw [←Int.natCast_emod,Int.toNat_natCast]
    exact (Nat.mod_le _ _).trans (Int.ofNat_le.mp hle)
  obtain ⟨blank,hblank,hbehind⟩ := searchBlank_spec hsize
  unfold splitIndex
  rw [hblank]
  refine ⟨_,rfl,?_⟩
  cases blank with
  | none => exact hsize
  | some j => exact (hbehind j rfl).trans hsize

section

variable (captionLines : List CaptionLine)

def lettersOf : Text := letters (textOf captionLines)

theorem lettersOf_snoc (line : CaptionLine) :
    lettersOf (captionLines++[line])=lettersOf captionLines++letters line.text := by
  unfold lettersOf textOf
  rw [List.flatMap_append,letters_append,List.flatMap_singleton]

/-- What is cut off and what remains spell what was there. -/
theorem wrapLoop_spec (hpresenter : WithinText presenter) (left count : ℕ) {line : CaptionLine}
    (hanchor : line.Anchored) (wrapped : List CaptionLine) :
    ∃ last lines,wrapLoop presenter left count line wrapped=some (last,lines) ∧
      lettersOf (lines++[last])=lettersOf (wrapped++[line]) := by
  induction left generalizing count line wrapped with
  | zero => exact ⟨line,wrapped,rfl,rfl⟩
  | succ left ih =>
    rw [wrapLoop]
    split
    · next hwrap =>
      obtain ⟨hpos,hle⟩ := hpresenter count line hwrap
      obtain ⟨index,hindex,hwithin⟩ := splitIndex_spec hpos hle
      obtain ⟨one,two,hsplit,hone,htwo,hanchor'⟩ := splitAtTextIndex_texts hanchor hwithin
      rw [hindex,Option.bind_some,hsplit,Option.bind_some]
      obtain ⟨last,lines,hloop,hletters⟩ := ih (count+1) hanchor' (wrapped++[one])
      refine ⟨last,lines,hloop,hletters.trans ?_⟩
      rw [lettersOf_snoc,lettersOf_snoc,lettersOf_snoc,List.append_assoc,hone,htwo,letters_ltrim,←letters_append,
        List.take_append_drop]
    · exact ⟨line,wrapped,rfl,rfl⟩

/-- The merged line has a style for its beginning, unless there was no line. -/
theorem merge_anchored : (merge captionLines).Anchored := by
  cases captionLines with
  | nil => exact .inl rfl
  | cons =>
    refine .inr ?_
    unfold merge
    dsimp only
    split
    · rw [mergeLoop_eq]
      exact ⟨{},List.mem_append_left _ List.mem_cons_self,rfl⟩
    · next first rest heq =>
      rw [mergeLoop_eq]
      split
      · exact ⟨{},List.mem_append_left _ List.mem_cons_self,rfl⟩
      · next hzero =>
        have hindex : first.charIndex=0 := by omega
        refine ⟨first.advance 0,List.mem_append_right _ ?_,?_⟩
        · rw [laidOut,heq]
          exact List.mem_append_left _ List.mem_cons_self
        · unfold TextStyle.advance
          rw [hindex]
          rfl

end

theorem displayLines_spec (hpresenter : WithinText presenter) (captionLines : List CaptionLine) :
    ∃ displayed,displayLines presenter captionLines=some displayed ∧ lettersOf displayed=lettersOf captionLines := by
  obtain ⟨last,lines,hloop,hletters⟩ := wrapLoop_spec hpresenter LINE_WRAP_LIMIT 0 (merge_anchored captionLines) []
  have hmerged : lettersOf (lines++[last])=lettersOf captionLines := by
    rw [hletters,lettersOf_snoc,merge_text]
    rfl
  unfold displayLines
  rw [hloop]
  refine ⟨_,rfl,?_⟩
  dsimp only
  split
  · exact hmerged
  · next hempty =>
    rw [lettersOf_snoc,not_not.mp hempty] at hmerged
    rw [←hmerged]
    exact (List.append_nil _).symm

end

/-- For every frame and presenter, `onParsed` ends and hands the adapter of the source one more frame, unless
that is null, whose lines spell the letters of the original lines in order. -/
theorem onParsed_spells (s : Manager) {presenter : Presenter} (hset : s.presenter=some presenter)
    (hpresenter : WithinText presenter) (timingAdapter : Option (List CaptionFrame)) (captionFrame : CaptionFrame) :
    ∃ s' displayed,s.onParsed timingAdapter captionFrame=some s' ∧
      lettersOf displayed=lettersOf captionFrame.captionLines ∧
      ∀ frames,(s.timingAdaptersBySourceIds.lookup captionFrame.sourceId).getD timingAdapter=some frames →
        s'.timingAdaptersBySourceIds.lookup captionFrame.sourceId =
          some (some (frames++[{captionFrame with captionLines := displayed}])) := by
  obtain ⟨displayed,hdisplayed,hletters⟩ := displayLines_spec hpresenter captionFrame.captionLines
  unfold Manager.onParsed
  rw [hset]
  dsimp only
  rw [hdisplayed]
  refine ⟨_,displayed,rfl,hletters,fun frames hframes => ?_⟩
  unfold Manager.queueForDisplay
  rw [AList.lookup_insert,hframes,Option.map_some]

/-- Room for three letters, and two lines that together have five. -/
theorem onParsed_spells_three_wide : ∃ s' displayed,
    Manager.onParsed ⟨some fun _ line => (decide (3<line.text.length),3),∅⟩ (some [])
      ⟨7,1000,0,[⟨['a',' ','b'],[⟨0,{}⟩]⟩,⟨['c','d'],[⟨0,{}⟩]⟩]⟩=some s' ∧
    lettersOf displayed=lettersOf [⟨['a',' ','b'],[⟨0,{}⟩]⟩,⟨['c','d'],[⟨0,{}⟩]⟩] ∧
    ∀ frames,((∅ : AList fun _ : ℕ => Option (List CaptionFrame)).lookup 7).getD (some [])=some frames →
      s'.timingAdaptersBySourceIds.lookup 7=some (some (frames++[⟨7,1000,0,displayed⟩])) := by
  have hroom : WithinText fun _ line => (decide (3<line.text.length),3) := by
    intro count line hwrap
    have hlt := of_decide_eq_true hwrap
    dsimp only
    omega
  exact onParsed_spells ⟨some fun _ line => (decide (3<line.text.length),3),∅⟩ rfl hroom (some [])
    ⟨7,1000,0,[⟨['a',' ','b'],[⟨0,{}⟩]⟩,⟨['c','d'],[⟨0,{}⟩]⟩]⟩

end AlexaClientSDK.CaptionManager
