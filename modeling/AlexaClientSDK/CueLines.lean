import AlexaClientSDK.CueStyles

/-!
# The lines of a cue

`onCueParsed` cuts the text of a cue by the lengths of its lines. Each cut takes away the white space in front of what is
left, which may belong to the next line, so that the next length reaches too far.
-/

namespace AlexaClientSDK.LibwebvttParserAdapter

open Nat Option List CaptionLines StringUtils

section

variable {tempLine : CaptionLine} {textLine rest : Text} {textLines : List Text}

/-- A line of the text without some of the white space in front. -/
def IsLine (textLine : Text) (captionLine : CaptionLine) : Prop :=
  ∃ removed,textLine=removed++captionLine.text ∧ ∀ c∈removed,isspace c=true

/-- Where a text begins with white space other than a newline, it is white space altogether or the last line. -/
def StartsHarmlessly (text : Text) : Prop :=
  ∀ c tail,text=c::tail → isspace c=true → c ≠ '\n' → (∀ d∈c::tail,isspace d=true) ∨ '\n' ∉ c::tail

/-- Behind every newline of a text what follows begins harmlessly. -/
def TrimsHarmlessly (text : Text) : Prop :=
  ∀ before c tail,text=before ++ '\n' :: c::tail → isspace c=true → c ≠ '\n' →
    (∀ d∈c::tail,isspace d=true) ∨ '\n' ∉ c::tail

theorem trimsHarmlessly_of_last (h : '\n' ∉ textLine) : TrimsHarmlessly textLine := by
  intro before c tail heq _ _
  exact absurd (heq ▸ mem_append_right _ mem_cons_self) h

theorem trimsHarmlessly_line (h : '\n' ∉ textLine) :
    TrimsHarmlessly (textLine ++ '\n' :: rest) ↔ StartsHarmlessly rest ∧ TrimsHarmlessly rest := by
  constructor
  · intro htrims
    refine ⟨fun c tail heq => ?_,fun before c tail heq => ?_⟩
    · exact htrims textLine c tail (by rw [heq])
    · exact htrims (textLine ++ '\n' :: before) c tail (by rw [heq,append_assoc,cons_append])
  · rintro ⟨hstarts,htrims⟩ before c tail heq
    rcases append_eq_append_iff.mp heq with ⟨more,hbefore,hrest⟩|⟨more,hline,hrest⟩
    · cases more with
      | nil => exact hstarts c tail (List.cons.inj hrest).2
      | cons d more => exact htrims more c tail (List.cons.inj hrest).2
    · cases more with
      | nil => exact hstarts c tail (List.cons.inj hrest).2.symm
      | cons =>
        obtain rfl := (List.cons.inj hrest).1
        exact absurd (hline ▸ mem_append_right _ mem_cons_self) h

/-- It is cut off, and the white space behind it is taken away. -/
theorem cutLines_cut (hanchor : tempLine.Anchored) (hle : textLine.length≤tempLine.text.length) (textLines : List Text) :
    ∃ one two,one.text=tempLine.text.take textLine.length ∧
      two.text=ltrim (tempLine.text.drop textLine.length) ∧ two.Anchored ∧
      cutLines tempLine (textLine::textLines)=(cutLines two textLines).map (one :: ·) := by
  obtain ⟨one,two,hsplit,hone,htwo,hanchor'⟩ := splitAtTextIndex_texts hanchor hle
  refine ⟨one,two,hone,htwo,hanchor',?_⟩
  rw [cutLines,hsplit]
  rfl

/-- It gets all of what is left, and stays for the next. -/
theorem cutLines_whole (hlt : tempLine.text.length<textLine.length) :
    cutLines tempLine (textLine::textLines)=(cutLines tempLine textLines).map (tempLine :: ·) := by
  rw [cutLines,CaptionLine.splitAtTextIndex,if_pos hlt]
  rfl

theorem cutLines_isSome (hanchor : tempLine.Anchored) (textLines : List Text) :
    ∃ captionLines,cutLines tempLine textLines=some captionLines := by
  induction textLines generalizing tempLine with
  | nil => exact ⟨[],rfl⟩
  | cons textLine textLines ih =>
    rcases lt_or_ge tempLine.text.length textLine.length with hlt|hle
    · obtain ⟨captionLines,hcut⟩ := ih hanchor
      exact ⟨tempLine::captionLines,by rw [cutLines_whole hlt,hcut]; rfl⟩
    · obtain ⟨one,two,-,-,hanchor',hcons⟩ := cutLines_cut hanchor hle textLines
      obtain ⟨captionLines,hcut⟩ := ih hanchor'
      exact ⟨one::captionLines,by rw [hcons,hcut]; rfl⟩

end

section

variable {tempLine : CaptionLine} {textLine rest : Text}

theorem ltrim_newline (text : Text) : ltrim ('\n' :: text)=ltrim text := by
  unfold ltrim
  rw [dropWhile_cons_of_pos (by decide)]

/-- A text that begins with a letter or with a newline begins harmlessly. -/
theorem startsHarmlessly_of_head {text : Text} (h : ∀ c∈text.head?,isspace c=false ∨ c = '\n') :
    StartsHarmlessly text := by
  intro c tail heq hspace hne
  rcases h c (by rw [heq]; rfl) with hno|hnewline
  · rw [hspace] at hno
    exact Bool.noConfusion hno
  · exact absurd hnewline hne

theorem cutLines_last (hanchor : tempLine.Anchored) (htext : tempLine.text=ltrim rest) (hlast : '\n' ∉ rest) :
    ∃ captionLines,cutLines tempLine (getLines rest)=some captionLines ∧
      List.Forall₂ IsLine (getLines rest) captionLines := by
  obtain ⟨removed,heq,hspace,-⟩ := ltrim_spec rest
  have hline : ∀ captionLine : CaptionLine,captionLine.text=ltrim rest → IsLine rest captionLine :=
    fun captionLine h => ⟨removed,by rw [h,heq],hspace⟩
  by_cases hne : rest=[]
  · rw [hne]
    exact ⟨[],rfl,.nil⟩
  · rw [getLines_last hne hlast]
    rcases lt_or_ge tempLine.text.length rest.length with hlt|hle
    · exact ⟨[tempLine],cutLines_whole hlt,.cons (hline tempLine htext) .nil⟩
    · obtain ⟨one,two,hone,-,-,hcons⟩ := cutLines_cut hanchor hle []
      have hshort : (ltrim rest).length≤rest.length := by
        have hlength := congrArg List.length heq
        rw [length_append] at hlength
        omega
      rw [htext,take_of_length_le hshort] at hone
      exact ⟨[one],hcons,.cons (hline one hone) .nil⟩

theorem cutLines_head (hanchor : tempLine.Anchored) {textLines : List Text} {captionLines : List CaptionLine}
    (h : cutLines tempLine (textLine::textLines)=some captionLines) :
    ∃ one more,captionLines=one::more ∧ one.text=tempLine.text.take textLine.length := by
  rcases lt_or_ge tempLine.text.length textLine.length with hlt|hle
  · rw [cutLines_whole hlt] at h
    obtain ⟨more,-,rfl⟩ := map_eq_some_iff.mp h
    exact ⟨tempLine,more,rfl,(take_of_length_le (le_of_lt hlt)).symm⟩
  · obtain ⟨one,two,hone,-,-,hcons⟩ := cutLines_cut hanchor hle textLines
    rw [hcons] at h
    obtain ⟨more,-,rfl⟩ := map_eq_some_iff.mp h
    exact ⟨one,more,rfl,hone⟩

/-- What is left is cut into the lines of a text exactly when something holds. -/
def CutsExactly (tempLine : CaptionLine) (text : Text) (P : Prop) : Prop :=
  ∃ captionLines,cutLines tempLine (getLines text)=some captionLines ∧
    (List.Forall₂ IsLine (getLines text) captionLines ↔ P)

/-- Whatever line is left of a text, it is cut exactly when that holds. -/
def CutsBehind (text : Text) (P : Prop) : Prop :=
  ∀ tempLine : CaptionLine,tempLine.Anchored → tempLine.text=ltrim text → CutsExactly tempLine text P

section

variable (hline : '\n' ∉ textLine)
include hline

/-- The length reaches into what is no part of the line. -/
theorem not_isLine_of_trimmed (hfirst : ∃ c∈textLine.head?,isspace c=true)
    (hletter : ¬∀ d∈textLine ++ '\n' :: rest,isspace d=true) {captionLine : CaptionLine}
    (htext : captionLine.text=(ltrim (textLine ++ '\n' :: rest)).take textLine.length) :
    ¬IsLine textLine captionLine := by
  obtain ⟨removed,heq,hspace,htrimmed⟩ := ltrim_spec (textLine ++ '\n' :: rest)
  obtain ⟨c,hc,hcspace⟩ := hfirst
  obtain ⟨tail,rfl⟩ := List.head?_eq_some_iff.mp hc
  rintro ⟨front,hfront,-⟩
  rw [htext] at hfront
  have hin : ∀ d∈(ltrim (c::tail ++ '\n' :: rest)).take (c::tail).length,d∈c::tail := fun d hd => by
    rw [hfront]
    exact mem_append_right _ hd
  rcases append_eq_append_iff.mp heq with ⟨kept,hsplit,hrest⟩|⟨more,hremoved,-⟩
  · -- the newline comes sooner in what is left than the line is long
    cases removed with
    | nil =>
      rw [nil_append] at heq
      have hno := htrimmed c (by rw [heq]; rfl)
      rw [hcspace] at hno
      exact Bool.noConfusion hno
    | cons r =>
      have hlength := congrArg List.length hsplit
      rw [length_append,length_cons (a := r)] at hlength
      refine hline (hin '\n' ?_)
      rw [hrest,take_append,Nat.sub_add_cancel (show 1≤(c::tail).length-kept.length by omega) |>.symm,take_succ_cons]
      exact mem_append_right _ mem_cons_self
  · -- the line is white space, and what is left begins with a letter
    cases hleft : ltrim (c::tail ++ '\n' :: rest) with
    | nil =>
      rw [hleft,append_nil] at heq
      exact hletter fun d hd => hspace d (heq ▸ hd)
    | cons d =>
      have hno := htrimmed d (by rw [hleft]; rfl)
      have hd : d∈c::tail := hin d (by rw [hleft,length_cons,take_succ_cons]; exact mem_cons_self)
      rw [hspace d (hremoved ▸ mem_append_left _ hd)] at hno
      exact Bool.noConfusion hno

variable {P : Prop}

/-- A line that is still in front of what is left is cut off. -/
theorem cutsExactly_line (hanchor : tempLine.Anchored)
    (hle : textLine.length≤tempLine.text.length) (htake : tempLine.text.take textLine.length=textLine)
    (hleft : ltrim (tempLine.text.drop textLine.length)=ltrim rest) (hbehind : CutsBehind rest P) :
    CutsExactly tempLine (textLine ++ '\n' :: rest) P := by
  obtain ⟨one,two,hone,htwo,hanchor',hcons⟩ := cutLines_cut hanchor hle (getLines rest)
  obtain ⟨captionLines,hcut,hiff⟩ := hbehind two hanchor' (htwo.trans hleft)
  have hisLine : IsLine textLine one := ⟨[],by rw [hone,htake,nil_append],by simp⟩
  refine ⟨one::captionLines,?_,?_⟩
  · rw [getLines_line hline,hcons,hcut]
    rfl
  · rw [getLines_line hline,forall₂_cons,and_iff_right hisLine]
    exact hiff

/-- White space to the end: nothing is left, and every line gets nothing. -/
theorem cutsExactly_space (hne : textLine≠[])
    (hspace : ∀ c∈textLine ++ '\n' :: rest,isspace c=true) (hanchor : tempLine.Anchored)
    (htext : tempLine.text=[]) (hbehind : CutsBehind rest P) : CutsExactly tempLine (textLine ++ '\n' :: rest) P := by
  have hnone : tempLine.text=ltrim rest := by
    rw [htext,ltrim_eq_nil fun c hc => hspace c (mem_append_right _ (mem_cons_of_mem _ hc))]
  obtain ⟨captionLines,hcut,hiff⟩ := hbehind tempLine hanchor hnone
  have hlt : tempLine.text.length<textLine.length := by
    rw [htext]
    exact length_pos_iff.mpr hne
  have hisLine : IsLine textLine tempLine :=
    ⟨textLine,by rw [htext,append_nil],fun c hc => hspace c (mem_append_left _ hc)⟩
  refine ⟨tempLine::captionLines,?_,?_⟩
  · rw [getLines_line hline,cutLines_whole hlt,hcut]
    rfl
  · rw [getLines_line hline,forall₂_cons,and_iff_right hisLine]
    exact hiff

/-- With white space in front the line gets more than its own. -/
theorem cutsExactly_spoiled (hfirst : ∃ c∈textLine.head?,isspace c=true)
    (hletter : ¬∀ c∈textLine ++ '\n' :: rest,isspace c=true) (hanchor : tempLine.Anchored)
    (htext : tempLine.text=ltrim (textLine ++ '\n' :: rest)) (hno : ¬P) :
    CutsExactly tempLine (textLine ++ '\n' :: rest) P := by
  obtain ⟨captionLines,hcut⟩ := cutLines_isSome hanchor (getLines (textLine ++ '\n' :: rest))
  refine ⟨captionLines,hcut,iff_of_false (fun hlines => ?_) hno⟩
  rw [getLines_line hline] at hcut hlines
  obtain ⟨one,more,rfl,hone⟩ := cutLines_head hanchor hcut
  rw [htext] at hone
  exact not_isLine_of_trimmed hline hfirst hletter hone (forall₂_cons.mp hlines).1

end

/-- It is cut rightly exactly when it begins and trims harmlessly. -/
theorem cutsBehind_harmless (rest : Text) : CutsBehind rest (StartsHarmlessly rest ∧ TrimsHarmlessly rest) := by
  induction hn : rest.length using Nat.strong_induction_on generalizing rest with
  | _ n ih =>
    intro tempLine hanchor htext
    by_cases hnewline : '\n' ∈ rest
    · obtain ⟨textLine,behind,hline,rfl⟩ := exists_line hnewline
      have hbehind : CutsBehind behind (StartsHarmlessly behind ∧ TrimsHarmlessly behind) :=
        ih behind.length (by rw [←hn,length_append,length_cons]; omega) behind rfl
      rw [trimsHarmlessly_line hline]
      cases textLine with
      | nil =>
        -- an empty line: its newline is white space too
        rw [nil_append,ltrim_newline] at htext
        obtain ⟨-,-,-,htrimmed⟩ := ltrim_spec behind
        have hstarts : StartsHarmlessly ([] ++ '\n' :: behind) :=
          startsHarmlessly_of_head fun c hc => .inr (some.inj (mem_def.mp hc)).symm
        rw [and_iff_right hstarts]
        exact cutsExactly_line hline hanchor (Nat.zero_le _) rfl (by rw [htext]; exact ltrim_of_head htrimmed) hbehind
      | cons c line =>
        cases hc : isspace c with
        | false =>
          have hhead : ∀ d∈(c::line ++ '\n' :: behind).head?,isspace d=false := fun d hd => by
            rw [←some.inj hd]
            exact hc
          rw [ltrim_of_head hhead] at htext
          rw [and_iff_right (startsHarmlessly_of_head fun d hd => .inl (hhead d hd))]
          exact cutsExactly_line hline hanchor (by rw [htext,length_append]; omega) (by rw [htext,take_left])
            (by rw [htext,drop_left,ltrim_newline]) hbehind
        | true =>
          by_cases hspace : ∀ d∈c::line ++ '\n' :: behind,isspace d=true
          · have hstarts : StartsHarmlessly (c::line ++ '\n' :: behind) := fun d tail heq _ _ =>
              .inl (heq ▸ hspace)
            rw [and_iff_right hstarts]
            exact cutsExactly_space hline (cons_ne_nil _ _) hspace hanchor (htext.trans (ltrim_eq_nil hspace)) hbehind
          · refine cutsExactly_spoiled hline ⟨c,rfl,hc⟩ hspace hanchor htext fun h => ?_
            rcases h.1 c (line ++ '\n' :: behind) rfl hc (fun heq => hline (heq ▸ mem_cons_self)) with hall|hno
            · exact hspace hall
            · exact hno (mem_append_right (c::line) mem_cons_self)
    · obtain ⟨captionLines,hcut,hlines⟩ := cutLines_last hanchor htext hnewline
      refine ⟨captionLines,hcut,iff_of_true hlines ⟨fun c tail heq _ _ => ?_,trimsHarmlessly_of_last hnewline⟩⟩
      exact .inr (heq ▸ hnewline)

/-- Exactly when no white space that is taken away counts for a later one. -/
theorem cutsExactly_cue {text : Text} (hanchor : tempLine.Anchored) (htext : tempLine.text=text) :
    CutsExactly tempLine text (TrimsHarmlessly text) := by
  by_cases hnewline : '\n' ∈ text
  · obtain ⟨textLine,behind,hline,rfl⟩ := exists_line hnewline
    rw [trimsHarmlessly_line hline]
    exact cutsExactly_line hline hanchor (by rw [htext,length_append]; omega) (by rw [htext,take_left])
      (by rw [htext,drop_left,ltrim_newline]) (cutsBehind_harmless behind)
  · have htrims := trimsHarmlessly_of_last hnewline
    by_cases hne : text=[]
    · rw [hne] at htrims ⊢
      exact ⟨[],rfl,iff_of_true .nil htrims⟩
    · have hle : text.length≤tempLine.text.length := by rw [htext]
      obtain ⟨one,two,hone,-,-,hcons⟩ := cutLines_cut hanchor hle []
      rw [htext,take_length] at hone
      refine ⟨[one],?_,iff_of_true ?_ htrims⟩
      · rw [getLines_last hne hnewline]
        exact hcons
      · rw [getLines_last hne hnewline]
        exact .cons ⟨[],by rw [hone,nil_append],by simp⟩ .nil

end

def cueText (cue : Cue) : Text :=
  match cue.nodeHead with
  | none => []
  | some head => (shown (letters head)).map Prod.fst

/-- A line with that text and a first style, unless there is no node. -/
theorem cueLine_spec (cue : Cue) : ∃ tempLine,cueLine cue=some tempLine ∧ tempLine.Anchored ∧
    tempLine.text=cueText cue := by
  unfold cueLine cueText
  cases cue.nodeHead with
  | none => exact ⟨_,rfl,.inl rfl,rfl⟩
  | some head =>
    obtain ⟨added,hbuilt,-⟩ := buildStyles_cue head
    dsimp only
    rw [hbuilt]
    exact ⟨_,rfl,.inr ⟨{},mem_cons_self,rfl⟩,rfl⟩

/-- The lines of a frame are those of the text, up to white space in front. -/
def KeepsLines (cue : Cue) : Prop :=
  ∀ (s : Adapter) (captionId : ℕ),s.parseListener=true → ∃ s' frame,s.onCueParsed captionId cue=some (s',some frame) ∧
      List.Forall₂ IsLine (getLines (cueText cue)) frame.captionLines

/-- The lines of a cue are kept exactly when behind every newline white space other than a newline is followed by white
space only, or by no further newline. -/
theorem keepsLines_iff (cue : Cue) : KeepsLines cue ↔ TrimsHarmlessly (cueText cue) := by
  obtain ⟨tempLine,hline,hanchor,htext⟩ := cueLine_spec cue
  obtain ⟨captionLines,hcut,hiff⟩ := cutsExactly_cue hanchor htext
  rw [←htext] at hcut
  constructor
  · intro h
    obtain ⟨s',frame,heq,hlines⟩ := h ⟨true,∅⟩ 0 rfl
    unfold Adapter.onCueParsed at heq
    rw [hline,Option.bind_some] at heq
    rw [if_pos rfl,hcut,Option.map_some] at heq
    have hframe := congrArg (Option.map fun result => result.2.map CaptionFrame.captionLines) heq
    simp only [Option.map_some,Option.some.injEq] at hframe
    rw [←hframe] at hlines
    exact hiff.mp hlines
  · intro htrims s captionId hlistener
    unfold Adapter.onCueParsed
    rw [hline,Option.bind_some]
    rw [if_pos hlistener,hcut,Option.map_some]
    exact ⟨_,_,rfl,hiff.mpr htrims⟩

/-- Of `a`, ` b` and `c` the second takes the newline behind it. -/
theorem blank_before_second_line_shifts :
    ¬KeepsLines ⟨0,1000,some (.internal .HEAD_NODE [.text ['a','\n',' ','b','\n','c']])⟩ := by
  intro h
  obtain ⟨s',frame,heq,hlines⟩ := h ⟨true,∅⟩ 0 rfl
  have hframe := congrArg (Option.map fun result => result.2.map CaptionFrame.captionLines) heq
  have hthree : some (some [⟨['a'],[⟨0,{}⟩]⟩,⟨['b','\n'],[⟨0,{}⟩]⟩,⟨['c'],[⟨0,{}⟩]⟩]) =
    some (some frame.captionLines) := hframe
  rw [←Option.some.inj (Option.some.inj hthree)] at hlines
  obtain ⟨-,hlines⟩ := forall₂_cons.mp hlines
  obtain ⟨removed,hline,-⟩ := (forall₂_cons.mp hlines).1
  have hmem : '\n' ∈ [' ','b'] := by
    have hin : '\n' ∈ removed++['b','\n'] := mem_append_right _ (by decide)
    exact hline ▸ hin
  exact absurd hmem (by decide)

end AlexaClientSDK.LibwebvttParserAdapter
