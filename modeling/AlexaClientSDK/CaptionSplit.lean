import AlexaClientSDK.CaptionLines

/-!
# Split caption lines

`CaptionLine::splitAtTextIndex` gives two lines for every index of the text. Each letter of the two keeps the style that
was in force at it, and the second line has a style for its beginning.
-/

namespace AlexaClientSDK.CaptionLines

open Nat Option List Marks StringUtils TextStyle

section

variable {line : CaptionLine} {index : ℕ}

/-- A line has no styles at all, or one for its beginning. -/
def CaptionLine.Anchored (line : CaptionLine) : Prop := line.styles=[] ∨ ∃ style∈line.styles,style.charIndex=0

def BeginsAtZero (styles : List TextStyle) : Prop := ∃ first∈styles.head?,first.charIndex=0

theorem sortStyles_sorted (styles : List TextStyle) : (sortStyles styles).Pairwise fun l r => l.charIndex≤r.charIndex :=
  pairwise_insertionSort (r := fun l r : TextStyle => l.charIndex≤r.charIndex) styles

variable {styles : List TextStyle}

theorem mem_sortStyles {style : TextStyle} : style∈sortStyles styles ↔ style∈styles :=
  mem_insertionSort _

/-- Behind the last one of the first line unless they begin at zero. -/
inductive Carried (lineOne lineTwo : List TextStyle) : List TextStyle → Prop
  | kept (hzero : BeginsAtZero lineTwo) : Carried lineOne lineTwo lineTwo
  | led (last : TextStyle) (hlast : last∈lineOne.getLast?) :
    Carried lineOne lineTwo ({last with charIndex := 0}::lineTwo)

theorem carryOver_spec {lineOne lineTwo : List TextStyle} (h : lineOne≠[] ∨ BeginsAtZero lineTwo) :
    ∃ styles,carryOver lineOne lineTwo=some styles ∧ BeginsAtZero styles ∧ Carried lineOne lineTwo styles := by
  by_cases hzero : BeginsAtZero lineTwo
  · obtain ⟨first,hfirst,hindex⟩ := id hzero
    obtain ⟨rest,rfl⟩ := List.head?_eq_some_iff.mp hfirst
    refine ⟨_,?_,hzero,.kept hzero⟩
    unfold carryOver
    dsimp only
    rw [if_neg (not_not.mpr hindex)]
  · have hne : lineOne≠[] := h.resolve_right hzero
    obtain ⟨last,hlast⟩ := isSome_iff_exists.mp (List.getLast?_isSome.mpr hne)
    refine ⟨{last with charIndex := 0}::lineTwo,?_,⟨_,rfl,rfl⟩,.led last hlast⟩
    unfold carryOver
    cases lineTwo with
    | nil => rw [hlast,map_some]
    | cons first =>
      dsimp only
      rw [if_pos fun hindex => hzero ⟨first,rfl,hindex⟩,hlast,map_some]

theorem TextStyle.retreat_zero {style : TextStyle} (h : style.charIndex=0) (indexOffset : ℕ) :
    (style.retreat indexOffset).charIndex=0 := by
  unfold retreat
  rw [h,Nat.zero_sub,ite_self]

/-- The one for the beginning is in front, or begins the rest. -/
theorem cut_spec (index indexOffset : ℕ)
    (hsorted : styles.Pairwise fun l r => l.charIndex≤r.charIndex) (hzero : ∃ style∈styles,style.charIndex=0) :
    styles.take (before charIndex styles index)≠[] ∨
      BeginsAtZero ((styles.drop (before charIndex styles index)).map (retreat indexOffset)) := by
  obtain ⟨zero,hmem,hindex⟩ := hzero
  cases styles with
  | nil => exact absurd hmem not_mem_nil
  | cons first rest =>
    have hfirst : first.charIndex=0 := by
      rcases mem_cons.mp hmem with rfl|hrest
      · exact hindex
      · have hle := (pairwise_cons.mp hsorted).1 zero hrest
        omega
    unfold before
    rcases Nat.eq_zero_or_pos index with rfl|hpos
    · have hnone : (first::rest).countP (fun style => decide (style.charIndex<0))=0 := by
        rw [countP_eq_zero]
        simp
      rw [hnone]
      exact .inr ⟨_,rfl,retreat_zero hfirst indexOffset⟩
    · rw [countP_cons_of_pos (by rw [hfirst]; exact decide_eq_true hpos)]
      exact .inl (cons_ne_nil _ _)

theorem splitAtTextIndex_texts (hanchor : line.Anchored) (hle : index≤line.text.length) :
    ∃ one two,line.splitAtTextIndex index=some [one,two] ∧ one.text=line.text.take index ∧
      two.text=ltrim (line.text.drop index) ∧ two.Anchored := by
  unfold CaptionLine.splitAtTextIndex
  rw [if_neg (not_lt.mpr hle)]
  cases hstyles : line.styles with
  | nil => exact ⟨_,_,rfl,rfl,rfl,.inl rfl⟩
  | cons style styles =>
    dsimp only
    obtain ⟨zero,hmem,hindex⟩ := hanchor.resolve_left (by rw [hstyles]; exact cons_ne_nil _ _)
    rw [hstyles,←mem_sortStyles] at hmem
    have hcarry := cut_spec index (indexOffset index (whitespaceCount (line.text.drop index)))
      (sortStyles_sorted (style::styles)) ⟨zero,hmem,hindex⟩
    obtain ⟨carried,hcarried,⟨first,hfirst,hzero⟩,-⟩ := carryOver_spec hcarry
    rw [hcarried,map_some]
    exact ⟨_,_,rfl,rfl,rfl,.inr ⟨first,mem_of_mem_head? hfirst,hzero⟩⟩

/-- It keeps the text, up to white space, and the style of every letter. -/
structure SplitsFaithfully (line : CaptionLine) (index : ℕ) (one two : CaptionLine) (removed : Text) : Prop where
  text : one.text++removed++two.text=line.text
  length : one.text.length=index
  space : ∀ c∈removed,isspace c=true
  /-- The second line does not begin with white space. -/
  trimmed : ∀ c∈two.text.head?,isspace c=false
  stylesOne : ∀ i<one.text.length,one.effectiveStyle i=line.effectiveStyle i
  stylesTwo : ∀ i<two.text.length,two.effectiveStyle i=line.effectiveStyle (index+removed.length+i)
  begins : BeginsAtZero two.styles

/-- Of sorted styles those behind an index are not yet in force in front of it. -/
theorem inForce_take {i : ℕ} (hsorted : styles.Pairwise fun l r => l.charIndex≤r.charIndex) (hi : i < index) :
    inForce charIndex (styles.take (before charIndex styles index)) i = inForce charIndex styles i := by
  have hbehind : inForce charIndex (styles.drop (before charIndex styles index)) i=none :=
    inForce_eq_none_iff.mpr fun style hmem => by
      have hle := (sorted_cut hsorted index).2 style hmem
      omega
  conv_rhs => rw [←take_append_drop (before charIndex styles index) styles]
  rw [inForce_append,hbehind,none_or]

/-- Moved back along with the letters, a style is in force where it was. -/
theorem inForce_retreat (styles : List TextStyle) (indexOffset i : ℕ) :
    inForce charIndex (styles.map (retreat indexOffset)) i =
      (inForce charIndex styles (indexOffset+i)).map (retreat indexOffset) := by
  refine inForce_map fun style _ => ?_
  unfold retreat
  dsimp only
  split
  · next hlt => exact iff_of_true (zero_le i) (by omega)
  · next hge => omega

/-- They show in the second line what was in force behind the index. -/
theorem carried_inForce {styles carried : List TextStyle} {indexOffset i : ℕ}
    (hsorted : styles.Pairwise fun l r => l.charIndex≤r.charIndex) (hle : index ≤ indexOffset)
    (h : Carried (styles.take (before charIndex styles index))
      ((styles.drop (before charIndex styles index)).map (retreat indexOffset)) carried) :
    (inForce charIndex carried i).map activeStyle = (inForce charIndex styles (indexOffset+i)).map activeStyle := by
  have hcut := sorted_cut hsorted index
  have hwhole : inForce charIndex styles (indexOffset+i) =
      (inForce charIndex (styles.drop (before charIndex styles index)) (indexOffset+i)).or
        (inForce charIndex (styles.take (before charIndex styles index)) (indexOffset+i)) := by
    rw [←inForce_append,take_append_drop]
  have hfront : inForce charIndex (styles.take (before charIndex styles index)) (indexOffset+i) =
      (styles.take (before charIndex styles index)).getLast? := by
    refine inForce_of_forall_le fun style hmem => ?_
    have hlt := hcut.1 style hmem
    omega
  have hstyle : ∀ style : Option TextStyle,
      (style.map (retreat indexOffset)).map activeStyle=style.map activeStyle := by
    intro style
    rw [Option.map_map]
    rfl
  rw [hwhole,hfront]
  cases h with
  | kept hzero =>
    obtain ⟨first,hfirst,hindex⟩ := hzero
    have hsome : (inForce charIndex ((styles.drop (before charIndex styles index)).map
        (retreat indexOffset)) i).isSome=true :=
      inForce_isSome ⟨first,mem_of_mem_head? hfirst,by rw [hindex]; exact zero_le i⟩
    rw [inForce_retreat,Option.isSome_map] at hsome
    obtain ⟨style,hin⟩ := Option.isSome_iff_exists.mp hsome
    rw [inForce_retreat,hstyle,hin,Option.some_or]
  | led last hlast =>
    rw [←singleton_append,inForce_append,inForce_retreat,inForce_singleton,if_pos (zero_le i),hlast]
    cases inForce charIndex (styles.drop (before charIndex styles index)) (indexOffset+i) with
    | none => rfl
    | some => rfl

/-- With increasing styles from index 0 on, the split is faithful everywhere. -/
theorem splitAtTextIndex_faithful {line : CaptionLine} {index : ℕ}
    (hincreasing : line.styles.Pairwise fun l r => l.charIndex<r.charIndex) (hzero : BeginsAtZero line.styles)
    (hle : index≤line.text.length) (hsize : line.text.length<SIZE_VALUES) :
    ∃ one two removed,line.splitAtTextIndex index=some [one,two] ∧ SplitsFaithfully line index one two removed := by
  have hsorted : line.styles.Pairwise fun l r => l.charIndex≤r.charIndex :=
    hincreasing.imp fun h => le_of_lt h
  have hsort : sortStyles line.styles=line.styles := hsorted.insertionSort_eq
  obtain ⟨removed,htext,hspace,htrimmed⟩ := ltrim_spec (line.text.drop index)
  have hcount : whitespaceCount (line.text.drop index)=removed.length := by
    unfold whitespaceCount
    have hlen := congrArg List.length htext
    rw [length_append] at hlen
    omega
  have hoffset : indexOffset index (whitespaceCount (line.text.drop index))=index+removed.length := by
    have hlen := congrArg List.length htext
    rw [length_append,length_drop] at hlen
    unfold indexOffset
    rw [hcount,if_neg (by omega)]
  obtain ⟨first,hfirst,hindex⟩ := id hzero
  obtain ⟨carried,hcarried,hbegins,hcarry⟩ := carryOver_spec (cut_spec index (index+removed.length) hsorted
    ⟨first,mem_of_mem_head? hfirst,hindex⟩)
  have hsplit : line.splitAtTextIndex index =
      some [⟨line.text.take index,line.styles.take (before charIndex line.styles index)⟩,
        ⟨ltrim (line.text.drop index),carried⟩] := by
    unfold CaptionLine.splitAtTextIndex
    rw [if_neg (not_lt.mpr hle)]
    dsimp only
    split
    · next hnil =>
      rw [hnil] at hfirst
      exact absurd hfirst.symm (some_ne_none first)
    · rw [hsort,hoffset,hcarried,map_some]
  have hlength : (line.text.take index).length=index := by
    rw [length_take]
    omega
  refine ⟨_,_,removed,hsplit,?_,hlength,hspace,htrimmed,fun i hi => ?_,fun i _ => ?_,hbegins⟩
  · rw [append_assoc,htext,take_append_drop]
  · unfold CaptionLine.effectiveStyle
    rw [hlength] at hi
    rw [inForce_take hsorted hi]
  · exact carried_inForce hsorted (le_add_right _ _) hcarry

/-- A line with a style that begins in the white space at which it is split. -/
theorem splitAtTextIndex_faithful_in_space : ∃ one two removed,
    CaptionLine.splitAtTextIndex ⟨['a',' ',' ','b'],[⟨0,{}⟩,⟨2,{bold := true}⟩]⟩ 1=some [one,two] ∧
      SplitsFaithfully ⟨['a',' ',' ','b'],[⟨0,{}⟩,⟨2,{bold := true}⟩]⟩ 1 one two removed :=
  splitAtTextIndex_faithful (by decide) ⟨_,rfl,rfl⟩ (by decide) (by decide)

end

end AlexaClientSDK.CaptionLines
