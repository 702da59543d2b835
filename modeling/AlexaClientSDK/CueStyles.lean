import AlexaClientSDK.LibwebvttParserAdapter

/-!
# The styles of a cue

Every letter of a cue lies within nodes, the outermost first. `buildStyles` adds the styles of a node behind those of
its children, so that the outermost decides, and does not visit the children of nodes it does not support.
-/

namespace AlexaClientSDK.LibwebvttParserAdapter

open Nat List CaptionLines Marks StringUtils

section

mutual

/-- Each with the kinds of the inner nodes around it, the outermost first. -/
def letters : Node → List (Char × List NodeKind)
  | .text text => text.map fun c => (c,[])
  | .internal kind children => (lettersOf children).map fun letter => (letter.1,kind::letter.2)
  | _ => []

def lettersOf : List Node → List (Char × List NodeKind)
  | [] => []
  | child::children => letters child++lettersOf children

end

/-- A kind of node that gives its text a style. -/
def IsTag (kind : NodeKind) : Prop := kind=.ITALIC ∨ kind=.BOLD ∨ kind=.UNDERLINE

def Visited (kind : NodeKind) : Prop := kind=.HEAD_NODE ∨ IsTag kind

instance : DecidablePred IsTag := fun kind =>
  inferInstanceAs (Decidable (kind=.ITALIC ∨ kind=.BOLD ∨ kind=.UNDERLINE))

instance : DecidablePred Visited := fun kind => inferInstanceAs (Decidable (kind=.HEAD_NODE ∨ IsTag kind))

section

variable (path : List NodeKind)

/-- The style of a letter: the tags around it. -/
def styleOf : Style where
  bold := decide (.BOLD∈path)
  italic := decide (.ITALIC∈path)
  underline := decide (.UNDERLINE∈path)

def outermostStyle : Style :=
  match path.find? fun kind => IsTag kind with
  | none => {}
  | some kind => setStyle kind true {}

def shown (nodeLetters : List (Char × List NodeKind)) : List (Char × List NodeKind) :=
  nodeLetters.filter fun letter => ∀ kind∈letter.2,Visited kind

theorem outermostStyle_cons (kind : NodeKind) (path : List NodeKind) :
    outermostStyle (kind::path)=if IsTag kind then setStyle kind true {} else outermostStyle path := by
  unfold outermostStyle
  by_cases hkind : IsTag kind
  · rw [List.find?_cons_of_pos (by simpa using hkind),if_pos hkind]
  · rw [List.find?_cons_of_neg (by simpa using hkind),if_neg hkind]

def flag (kind : NodeKind) (style : Style) : Bool :=
  match kind with
  | .ITALIC => style.italic
  | .BOLD => style.bold
  | .UNDERLINE => style.underline
  | _ => false

theorem style_ext {style style' : Style} (h : ∀ kind,IsTag kind → flag kind style=flag kind style') : style=style' := by
  obtain ⟨bold,italic,underline⟩ := style
  obtain ⟨bold',italic',underline'⟩ := style'
  obtain rfl : bold=bold' := h .BOLD (.inr (.inl rfl))
  obtain rfl : italic=italic' := h .ITALIC (.inl rfl)
  obtain rfl : underline=underline' := h .UNDERLINE (.inr (.inr rfl))
  rfl

theorem flag_styleOf {kind : NodeKind} (h : IsTag kind) (path : List NodeKind) :
    flag kind (styleOf path)=decide (kind∈path) := by
  rcases h with rfl|rfl|rfl <;> rfl

theorem flag_setStyle {kind kind' : NodeKind} (h : IsTag kind) (h' : IsTag kind') :
    flag kind (setStyle kind' true {})=decide (kind=kind') := by
  rcases h with rfl|rfl|rfl <;> rcases h' with rfl|rfl|rfl <;> rfl

/-- It is the whole style exactly when no two different tags are around. -/
theorem outermostStyle_eq_iff : outermostStyle path=styleOf path ↔
    ∀ kind∈path,∀ kind'∈path,IsTag kind → IsTag kind' → kind=kind' := by
  unfold outermostStyle
  split
  · next hnone =>
    have hno : ∀ kind∈path,¬IsTag kind := fun kind hmem htag =>
      List.find?_eq_none.mp hnone kind hmem (decide_eq_true htag)
    refine iff_of_true (style_ext fun kind htag => ?_) fun kind hmem _ _ htag => absurd htag (hno kind hmem)
    rw [flag_styleOf htag,decide_eq_false fun hmem => hno kind hmem htag]
    rcases htag with rfl|rfl|rfl <;> rfl
  · next outermost hsome =>
    have hfound := List.find?_some hsome
    have htag : IsTag outermost := of_decide_eq_true hfound
    have hmem : outermost∈path := mem_of_find?_eq_some hsome
    constructor
    · intro heq
      have honly : ∀ kind∈path,IsTag kind → kind=outermost := fun kind hin hkind => by
        have hflag := congrArg (flag kind) heq
        rw [flag_setStyle hkind htag,flag_styleOf hkind,decide_eq_true hin] at hflag
        exact of_decide_eq_true hflag
      intro kind hin kind' hin' hkind hkind'
      rw [honly kind hin hkind,honly kind' hin' hkind']
    · intro hsame
      refine style_ext fun kind hkind => ?_
      rw [flag_setStyle hkind htag,flag_styleOf hkind]
      refine decide_eq_decide.mpr ⟨fun heq => heq ▸ hmem,fun hin => hsame kind hin outermost hmem hkind htag⟩

end

end

section

variable {start : ℕ} {nodeLetters : List (Char × List NodeKind)} {added : List TextStyle}

/-- The default one where it has none in force. -/
def shownStyle (styles : List TextStyle) (p : ℕ) : Style :=
  ((inForce TextStyle.charIndex styles p).map TextStyle.activeStyle).getD {}

/-- Each letter in the style of its outermost tag, and the default behind. -/
structure Paints (start : ℕ) (nodeLetters : List (Char × List NodeKind)) (added : List TextStyle) : Prop where
  /-- The styles begin at the letters, or at their end. -/
  within : ∀ style∈added,start ≤ style.charIndex ∧ style.charIndex ≤ start+nodeLetters.length
  closed : ∀ last,added.getLast?=some last → last.activeStyle={}
  painted : ∀ i letter,nodeLetters[i]?=some letter → shownStyle added (start+i)=outermostStyle letter.2

theorem paints_plain (start : ℕ) (text : Text) : Paints start (text.map fun c => (c,[])) [] := by
  refine ⟨fun style hmem => absurd hmem not_mem_nil,fun last hlast => absurd hlast.symm (Option.some_ne_none last),
    fun i letter hletter => ?_⟩
  obtain ⟨c,-,rfl⟩ := mem_map.mp (mem_of_getElem? hletter)
  rfl

/-- Behind all of its styles a list that is closed shows the default one. -/
theorem Paints.shownStyle_behind (h : Paints start nodeLetters added) {p : ℕ} (hp : start+nodeLetters.length≤p) :
    shownStyle added p={} := by
  unfold shownStyle
  rw [inForce_of_forall_le fun style hmem => (h.within style hmem).2.trans hp]
  cases hlast : added.getLast? with
  | none => rfl
  | some last => exact h.closed last hlast

theorem Paints.append {more : List (Char × List NodeKind)} {addedMore : List TextStyle}
    (h : Paints start nodeLetters added) (hmore : Paints (start+nodeLetters.length) more addedMore) :
    Paints start (nodeLetters++more) (added++addedMore) := by
  refine ⟨fun style hmem => ?_,fun last hlast => ?_,fun i letter hletter => ?_⟩
  · rw [length_append]
    rcases mem_append.mp hmem with hmem|hmem
    · have hin := h.within style hmem
      omega
    · have hin := hmore.within style hmem
      omega
  · rw [List.getLast?_append,Option.or_eq_some_iff] at hlast
    rcases hlast with hlast|⟨-,hlast⟩
    · exact hmore.closed last hlast
    · exact h.closed last hlast
  · rcases Nat.lt_or_ge i nodeLetters.length with hlt|hge
    · rw [List.getElem?_append_left hlt] at hletter
      have hnone : inForce TextStyle.charIndex addedMore (start+i)=none :=
        inForce_eq_none_iff.mpr fun style hmem => by
          have hin := hmore.within style hmem
          omega
      have hpainted := h.painted i letter hletter
      unfold shownStyle at hpainted ⊢
      rw [inForce_append,hnone,Option.none_or]
      exact hpainted
    · rw [List.getElem?_append_right hge] at hletter
      have hpainted := hmore.painted _ letter hletter
      rw [Nat.add_assoc,Nat.add_sub_cancel' hge] at hpainted
      have hbehind := h.shownStyle_behind (p := start+i) (by omega)
      unfold shownStyle at hpainted hbehind ⊢
      rw [inForce_append]
      cases hin : inForce TextStyle.charIndex addedMore (start+i) with
      | none =>
        rw [hin] at hpainted
        rw [Option.none_or,hbehind]
        exact hpainted
      | some =>
        rw [hin] at hpainted
        exact hpainted

theorem Paints.enclose {kind : NodeKind} (hkind : ¬IsTag kind) (h : Paints start nodeLetters added) :
    Paints start (nodeLetters.map fun letter => (letter.1,kind::letter.2)) added := by
  refine ⟨by rw [length_map]; exact h.within,h.closed,fun i letter hletter => ?_⟩
  rw [List.getElem?_map,Option.map_eq_some_iff] at hletter
  obtain ⟨inner,hinner,rfl⟩ := hletter
  rw [h.painted i inner hinner,outermostStyle_cons,if_neg hkind]

/-- The style that begins with the tag is before those of its children. -/
theorem Paints.tag {kind : NodeKind} (hkind : IsTag kind) (h : Paints start nodeLetters added) :
    Paints start (nodeLetters.map fun letter => (letter.1,kind::letter.2))
      (added++[⟨start,setStyle kind true {}⟩,⟨start+nodeLetters.length,{}⟩]) := by
  refine ⟨fun style hmem => ?_,fun last hlast => ?_,fun i letter hletter => ?_⟩
  · rw [length_map]
    rcases mem_append.mp hmem with hmem|hmem
    · exact h.within style hmem
    · rcases mem_cons.mp hmem with rfl|hmem
      · exact ⟨le_refl _,le_add_right _ _⟩
      · rw [mem_singleton.mp hmem]
        exact ⟨le_add_right _ _,le_refl _⟩
  · rw [append_cons,List.getLast?_concat] at hlast
    rw [←Option.some.inj hlast]
  · have hlt : i<nodeLetters.length := by
      have hbound := (List.getElem?_eq_some_iff.mp hletter).1
      rwa [length_map] at hbound
    rw [List.getElem?_map,Option.map_eq_some_iff] at hletter
    obtain ⟨inner,-,rfl⟩ := hletter
    unfold shownStyle
    rw [append_cons,inForce_snoc_of_lt (by dsimp only; omega),inForce_snoc (by dsimp only; omega),
      outermostStyle_cons,if_pos hkind]
    rfl

end

section

def EndsPlain (styles : List TextStyle) : Prop := ∃ last,styles.getLast?=some last ∧ last.activeStyle={}

variable {nodeLetters : List (Char × List NodeKind)}

theorem Paints.endsPlain {start : ℕ} {styles added : List TextStyle}
    (h : Paints start nodeLetters added) (hplain : EndsPlain styles) : EndsPlain (styles++added) := by
  obtain ⟨last,hlast,hstyle⟩ := hplain
  unfold EndsPlain
  rw [List.getLast?_append]
  cases hadded : added.getLast? with
  | none => exact ⟨last,hlast,hstyle⟩
  | some last' => exact ⟨last',rfl,h.closed last' hadded⟩

/-- What building a text and its styles leads to: the letters shown, painted. -/
def Builds (cleanText : Text) (styles : List TextStyle) (nodeLetters : List (Char × List NodeKind))
    (built : Option (Text × List TextStyle)) : Prop :=
  ∃ added,built=some (cleanText++(shown nodeLetters).map Prod.fst,styles++added) ∧
    Paints cleanText.length (shown nodeLetters) added

theorem shown_enclosed (kind : NodeKind) (nodeLetters : List (Char × List NodeKind)) :
    shown (nodeLetters.map fun letter => (letter.1,kind::letter.2)) =
      if Visited kind then (shown nodeLetters).map fun letter => (letter.1,kind::letter.2) else [] := by
  unfold shown
  split
  · next hkind =>
    rw [filter_map]
    congr 1
    refine filter_congr fun letter _ => ?_
    simp [hkind]
  · next hkind =>
    rw [filter_eq_nil_iff]
    intro letter hmem
    obtain ⟨inner,-,rfl⟩ := mem_map.mp hmem
    simp [hkind]

theorem builds_nothing (cleanText : Text) (styles : List TextStyle)
    (h : shown nodeLetters=[]) : Builds cleanText styles nodeLetters (some (cleanText,styles)) := by
  refine ⟨[],?_,?_⟩
  · rw [h,map_nil,append_nil,append_nil]
  · rw [h]
    exact paints_plain cleanText.length []

theorem Builds.close {kind : NodeKind} (hkind : IsTag kind) {cleanText : Text} {styles : List TextStyle}
    {built : Option (Text × List TextStyle)} (hplain : EndsPlain styles)
    (h : Builds cleanText styles nodeLetters built) :
    Builds cleanText styles (nodeLetters.map fun letter => (letter.1,kind::letter.2))
      (built.bind (closeNode kind cleanText.length styles)) := by
  obtain ⟨added,rfl,hpaints⟩ := h
  obtain ⟨last,hlast,hstyle⟩ := id hplain
  obtain ⟨last',hlast',hstyle'⟩ := hpaints.endsPlain hplain
  have hnone : setStyle kind false {}={} := by rcases hkind with rfl | rfl | rfl <;> rfl
  unfold Builds
  rw [shown_enclosed,if_pos (.inr hkind)]
  refine ⟨_,?_,hpaints.tag hkind⟩
  unfold closeNode
  rw [Option.bind_some,hlast,Option.bind_some,hlast',Option.map_some,hstyle,hstyle',hnone,map_map,
    length_append,length_map,append_assoc]
  rfl

mutual

/-- It shows its letters, each in the style of its outermost tag. -/
theorem buildStyles_spec (node : Node) (cleanText : Text) {styles : List TextStyle} (hplain : EndsPlain styles) :
    Builds cleanText styles (letters node) (buildStyles cleanText styles node) := by
  match node with
  | .text text =>
    have hshown : shown (letters (.text text))=text.map fun c => (c,[]) :=
      filter_eq_self.mpr fun letter hmem => by
        obtain ⟨c,-,rfl⟩ := mem_map.mp hmem
        rfl
    have htext : (text.map fun c => (c,([] : List NodeKind))).map Prod.fst=text := by
      rw [map_map]
      exact map_id text
    refine ⟨[],?_,?_⟩
    · rw [hshown,htext,buildStyles,append_nil]
    · rw [hshown]
      exact paints_plain cleanText.length text
  | .timeStamp | .empty => exact builds_nothing cleanText styles rfl
  | .internal kind children =>
    have hchildren := buildChildren_spec children cleanText hplain
    have hunsupported : ¬Visited kind →
        Builds cleanText styles (letters (.internal kind children)) (some (cleanText,styles)) :=
      fun hkind => builds_nothing cleanText styles (by rw [letters,shown_enclosed,if_neg hkind])
    rw [letters] at hunsupported ⊢
    cases kind with
    | ITALIC => exact hchildren.close (.inl rfl) hplain
    | BOLD => exact hchildren.close (.inr (.inl rfl)) hplain
    | UNDERLINE => exact hchildren.close (.inr (.inr rfl)) hplain
    | HEAD_NODE =>
      obtain ⟨added,hbuilt,hpaints⟩ := hchildren
      unfold Builds
      rw [shown_enclosed,if_pos (.inl rfl),map_map]
      exact ⟨added,hbuilt,hpaints.enclose (by decide)⟩
    | CLASS | RUBY | RUBY_TEXT | VOICE | LANG => exact hunsupported (by decide)

theorem buildChildren_spec (children : List Node) (cleanText : Text) {styles : List TextStyle}
    (hplain : EndsPlain styles) :
    Builds cleanText styles (lettersOf children) (buildChildren cleanText styles children) := by
  match children with
  | [] => exact builds_nothing cleanText styles rfl
  | child::children =>
    obtain ⟨added,hbuilt,hpaints⟩ := buildStyles_spec child cleanText hplain
    have hsplit : shown (lettersOf (child::children))=shown (letters child)++shown (lettersOf children) := by
      rw [lettersOf]
      exact filter_append _ _
    have hlength : (cleanText++(shown (letters child)).map Prod.fst).length =
        cleanText.length+(shown (letters child)).length := by rw [length_append,length_map]
    obtain ⟨addedMore,hmore,hpaintsMore⟩ := buildChildren_spec children
      (cleanText++(shown (letters child)).map Prod.fst) (hpaints.endsPlain hplain)
    rw [hlength] at hpaintsMore
    refine ⟨added++addedMore,?_,?_⟩
    · rw [buildChildren,hbuilt,Option.bind_some,hmore,hsplit,map_append,append_assoc,append_assoc]
    · rw [hsplit]
      exact hpaints.append hpaintsMore

end

end

/-- The text, and for every letter the style of the tags around it. -/
def BuildsFaithfully (node : Node) : Prop :=
  ∃ cleanText styles,buildStyles [] [{}] node=some (cleanText,styles) ∧ cleanText=(letters node).map Prod.fst ∧
    ∀ i letter,(letters node)[i]?=some letter → CaptionLine.effectiveStyle ⟨cleanText,styles⟩ i=some (styleOf letter.2)

theorem buildStyles_cue (node : Node) :
    ∃ added,buildStyles [] [{}] node=some ((shown (letters node)).map Prod.fst,{}::added) ∧
      ∀ i letter,(shown (letters node))[i]?=some letter →
        CaptionLine.effectiveStyle ⟨(shown (letters node)).map Prod.fst,{}::added⟩ i =
          some (outermostStyle letter.2) := by
  obtain ⟨added,hbuilt,hpaints⟩ := buildStyles_spec node [] (show EndsPlain [{}] from ⟨{},rfl,rfl⟩)
  refine ⟨added,hbuilt,fun i letter hletter => ?_⟩
  have hpainted := hpaints.painted i letter hletter
  rw [length_nil,Nat.zero_add] at hpainted
  rw [←hpainted]
  unfold CaptionLine.effectiveStyle shownStyle
  rw [←singleton_append,inForce_append,inForce_singleton,if_pos (Nat.zero_le i)]
  cases inForce TextStyle.charIndex added i with
  | none => rfl
  | some => rfl

/-- A cue is built faithfully exactly when every letter of it lies within nodes that are visited, with no two different
tags among them. -/
theorem buildsFaithfully_iff (node : Node) : BuildsFaithfully node ↔
    ∀ letter∈letters node,(∀ kind∈letter.2,Visited kind) ∧
      ∀ kind∈letter.2,∀ kind'∈letter.2,IsTag kind → IsTag kind' → kind=kind' := by
  obtain ⟨added,hbuilt,hstyles⟩ := buildStyles_cue node
  constructor
  · rintro ⟨cleanText,styles,heq,htext,hfaithful⟩
    rw [hbuilt] at heq
    obtain ⟨rfl,rfl⟩ := Prod.mk.inj (Option.some.inj heq)
    have hlength := congrArg List.length htext
    rw [length_map,length_map] at hlength
    have hvisited : ∀ letter∈letters node,∀ kind∈letter.2,Visited kind := fun letter hmem =>
      of_decide_eq_true (length_filter_eq_length_iff.mp hlength letter hmem)
    have hshown : shown (letters node)=letters node :=
      filter_eq_self.mpr fun letter hmem => decide_eq_true (hvisited letter hmem)
    intro letter hmem
    obtain ⟨i,hi⟩ := mem_iff_getElem?.mp hmem
    refine ⟨hvisited letter hmem,(outermostStyle_eq_iff letter.2).mp ?_⟩
    have hown := hfaithful i letter hi
    rw [hstyles i letter (hshown.symm ▸ hi)] at hown
    exact Option.some.inj hown
  · intro h
    have hshown : shown (letters node)=letters node :=
      filter_eq_self.mpr fun letter hmem => decide_eq_true (h letter hmem).1
    rw [hshown] at hbuilt hstyles
    refine ⟨_,_,hbuilt,rfl,fun i letter hi => ?_⟩
    rw [hstyles i letter hi,(outermostStyle_eq_iff letter.2).mpr (h letter (mem_of_getElem? hi)).2]

/-- An italic letter in bold text is bold, and that of a class is missing. -/
theorem nested_tags_overwritten :
    ¬BuildsFaithfully (.internal .HEAD_NODE [.internal .BOLD [.text ['a'],.internal .ITALIC [.text ['b']]]]) ∧
      ¬BuildsFaithfully (.internal .HEAD_NODE [.internal .CLASS [.text ['c']]]) := by
  constructor
  · rintro ⟨cleanText,styles,heq,-,hfaithful⟩
    obtain ⟨rfl,rfl⟩ := Prod.mk.inj (Option.some.inj heq)
    exact absurd (hfaithful 1 ('b',[.HEAD_NODE,.BOLD,.ITALIC]) rfl) (by decide)
  · rintro ⟨cleanText,styles,heq,htext,-⟩
    obtain ⟨rfl,rfl⟩ := Prod.mk.inj (Option.some.inj heq)
    exact absurd htext (by decide)

end AlexaClientSDK.LibwebvttParserAdapter
