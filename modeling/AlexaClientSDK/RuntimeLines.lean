import AlexaClientSDK.M3UParser

/-!
# Runtimes

`parseRuntime` reads the duration of a segment with a string stream, which skips white space before every number and
`char`, and knows signs and a greatest `int`. What it accepts is a language of its own.
-/

namespace AlexaClientSDK.M3UParser

open Nat Option List Playlists StringUtils

section

/-- The end of a line, or a comma with any title. -/
def Ends (text : Text) : Prop := text=[] ∨ ∃ title,text = ',' :: title

/-- The first three digits of a fraction, with zeros on the right. -/
def thousandths (digits : Text) : ℕ := decimal ((digits++['0','0','0']).take 3)

/-- A fraction with at least one digit behind its point, or none. -/
def IsFraction (fraction : Text) (thousandth : ℕ) : Prop :=
  (fraction=[] ∧ thousandth=0) ∨
    ∃ digits,fraction = '.' :: digits ∧ digits≠[] ∧ (∀ c∈digits,c.isDigit=true) ∧ thousandth=thousandths digits

/-- White space, the seconds, a fraction, and a title behind a comma. -/
def IsRuntimeLine (line : Text) (runtime : ℕ) : Prop :=
  ∃ blanks blanks' seconds fraction title thousandth,
    line=EXTINF++blanks ++ ':' :: (blanks'++(seconds++(fraction++title))) ∧
    (∀ c∈blanks,isspace c=true) ∧ (∀ c∈blanks',isspace c=true) ∧
    seconds≠[] ∧ (∀ c∈seconds,c.isDigit=true) ∧ IsFraction fraction thousandth ∧
    Ends title ∧ runtime=decimal seconds*1000+thousandth

/-- Digits or none behind a point, up to the comma. -/
def ReadBehind (text : Text) (thousandth : ℕ) : Prop :=
  (Ends (text.dropWhile Char.isDigit) ∧ thousandth=0) ∨
    ∃ rest,text = '.' :: rest ∧ rest≠[] ∧ Ends (rest.dropWhile Char.isDigit) ∧
      thousandth=thousandths (rest.takeWhile Char.isDigit)

/-- A sign, digits, and what follows them. -/
def ReadsSeconds (sign seconds rest : Text) (thousandth : ℕ) : Prop :=
  (sign=[] ∨ sign=['+'] ∨ (sign=['-'] ∧ decimal seconds=0)) ∧
    seconds≠[] ∧ (∀ c∈seconds,c.isDigit=true) ∧ (∀ c∈rest.head?,c.isDigit=false) ∧
    (decimal seconds : ℤ)≤INT_MAX ∧ ReadBehind (letters rest) thousandth

def ReadAsSeconds (text : Text) (runtime : ℕ) : Prop :=
  ∃ sign seconds rest thousandth,text=sign++seconds++rest ∧ ReadsSeconds sign seconds rest thousandth ∧
    runtime=decimal seconds*1000+thousandth

/-- As many characters as the tag has, and a colon in white space. -/
def Introduces (line front text : Text) : Prop :=
  ∃ blanks blanks',line=front++blanks ++ ':' :: (blanks'++text) ∧ front.length=EXTINF.length ∧
    (∀ c∈blanks,isspace c=true) ∧ ∀ c∈blanks',isspace c=true

def ReadAsRuntime (line : Text) (runtime : ℕ) : Prop :=
  ∃ front text,Introduces line front text ∧ ReadAsSeconds text runtime

/-- Without tag, with a sign, white space, or a point and no digit. -/
def ReadLeniently (line : Text) : Prop :=
  ∃ front sign seconds rest thousandth,Introduces line front (sign++seconds++rest) ∧
    ReadsSeconds sign seconds rest thousandth ∧
    (front≠EXTINF ∨ sign≠[] ∨ (∃ c∈rest.takeWhile (· ≠ ','),isspace c=true) ∨ ∃ title,rest = '.' :: ',' :: title)

end

variable {runtime : ℕ}

section

/-- Behind digits, whatever white space there is. -/
theorem endsInDigits_iff (iss : Text) : endsInDigits iss=true ↔ Ends ((letters iss).dropWhile Char.isDigit) := by
  induction iss with
  | nil => exact iff_of_true rfl (.inl rfl)
  | cons c rest ih =>
    unfold letters at ih ⊢
    rw [endsInDigits]
    cases hspace : isspace c with
    | true =>
      rw [Bool.true_or,if_pos rfl,filter_cons_of_neg (by rw [hspace]; exact Bool.false_ne_true)]
      exact ih
    | false =>
      rw [Bool.false_or,filter_cons_of_pos (by rw [hspace]; rfl)]
      cases hdigit : c.isDigit with
      | true =>
        rw [if_pos rfl,dropWhile_cons_of_pos hdigit]
        exact ih
      | false =>
        rw [if_neg Bool.false_ne_true,dropWhile_cons_of_neg (by rw [hdigit]; exact Bool.false_ne_true)]
        unfold Ends
        simp

/-- A digit in front does not matter to the last loop. -/
theorem endsInDigits_digit {c : Char} (hc : c.isDigit=true) (iss : Text) :
    endsInDigits (c::iss)=endsInDigits iss := by
  rw [endsInDigits,hc,Bool.or_true,if_pos rfl]

variable {iss rest text line title fraction : Text}

/-- The last loop starts where the `char` it was left with stands. -/
theorem endsInDigits_extracted {c : Char} (hletters : letters iss=c::letters rest)
    (hc : isspace c=false) : endsInDigits (c::rest)=endsInDigits iss := by
  have hsame : letters (c::rest)=letters iss := by
    rw [hletters]
    unfold letters
    rw [filter_cons_of_pos (by rw [hc]; rfl)]
  rw [Bool.eq_iff_iff,endsInDigits_iff,endsInDigits_iff,hsame]

theorem padFraction_eq (missing fractionalSeconds : ℕ) : padFraction missing fractionalSeconds =
    (List.replicate missing '0').foldl (fun value c => value*10+(c.toNat-48)) fractionalSeconds := by
  induction missing generalizing fractionalSeconds with
  | zero => rfl
  | succ missing ih =>
    rw [padFraction,ih,replicate_succ,foldl_cons]
    rfl

theorem readFraction_spec {left zeros : ℕ} (hzeros : left≤zeros) (fractionalSeconds : ℕ) (nextChar : Char) (iss : Text) :
    (readFraction left fractionalSeconds nextChar iss).1 =
      (((letters iss).takeWhile Char.isDigit++List.replicate zeros '0').take left).foldl
        (fun value c => value*10+(c.toNat-48)) fractionalSeconds ∧ (nextChar.isDigit=true →
        endsInDigits (readFraction left fractionalSeconds nextChar iss).2=endsInDigits iss) := by
  induction left generalizing fractionalSeconds nextChar iss with
  | zero => exact ⟨by rw [take_zero]; rfl,fun hdigit => endsInDigits_digit hdigit iss⟩
  | succ left ih =>
    have hpad : padFraction (left+1) fractionalSeconds=((List.replicate zeros '0').take (left+1)).foldl
        (fun value c => value*10+(c.toNat-48)) fractionalSeconds := by
      rw [padFraction_eq,take_replicate,min_eq_left hzeros]
    rcases extractChar_cases iss with ⟨hnone,hletters⟩|⟨c,rest,hsome,hspace,hletters⟩
    · rw [readFraction,hnone,hletters]
      refine ⟨hpad,fun hdigit => ?_⟩
      have hempty : endsInDigits iss=true := (endsInDigits_iff iss).mpr (by rw [hletters]; exact .inl rfl)
      rw [hempty]
      exact endsInDigits_digit hdigit []
    · rw [readFraction,hsome,hletters]
      dsimp only
      cases hdigit : c.isDigit with
      | true =>
        rw [if_pos rfl]
        obtain ⟨hvalue,hends⟩ := ih (by omega) (fractionalSeconds*10+(c.toNat-48)) c rest
        refine ⟨?_,fun _ => ?_⟩
        · rw [hvalue,takeWhile_cons_of_pos hdigit,cons_append,take_succ_cons,foldl_cons]
        · rw [hends hdigit,←endsInDigits_extracted hletters hspace,endsInDigits_digit hdigit]
      | false =>
        rw [if_neg Bool.false_ne_true,takeWhile_cons_of_neg (by rw [hdigit]; exact Bool.false_ne_true)]
        exact ⟨hpad,fun _ => endsInDigits_extracted hletters hspace⟩

/-- Behind a point something must follow, and it is judged like the whole. -/
theorem readPoint_spec (iss : Text) : (readFraction 3 0 '.' iss).1=thousandths ((letters iss).takeWhile Char.isDigit) ∧
      (endsInDigits (readFraction 3 0 '.' iss).2=true ↔
        letters iss≠[] ∧ Ends ((letters iss).dropWhile Char.isDigit)) := by
  refine ⟨(readFraction_spec (le_refl 3) 0 '.' iss).1,?_⟩
  rw [←endsInDigits_iff]
  rcases extractChar_cases iss with ⟨hnone,hletters⟩|⟨c,rest,hsome,hspace,hletters⟩
  · rw [readFraction,hnone,hletters]
    exact iff_of_false (by decide) fun h => h.1 rfl
  · have hne : letters iss≠[] := by
      rw [hletters]
      exact cons_ne_nil _ _
    rw [readFraction,hsome,and_iff_right hne]
    dsimp only
    cases hdigit : c.isDigit with
    | true =>
      rw [if_pos rfl,(readFraction_spec (le_refl 2) _ c rest).2 hdigit,
        ← endsInDigits_extracted hletters hspace,endsInDigits_digit hdigit]
    | false => rw [if_neg Bool.false_ne_true,endsInDigits_extracted hletters hspace]

theorem parseFraction_iff (iss : Text) (thousandth : ℕ) :
    parseFraction iss=some thousandth ↔ ReadBehind (letters iss) thousandth := by
  unfold parseFraction ReadBehind
  rcases extractChar_cases iss with ⟨hnone,hletters⟩|⟨c,rest,hsome,hspace,hletters⟩
  · rw [hnone,hletters]
    constructor
    · intro h
      exact .inl ⟨.inl rfl,(Option.some.inj h).symm⟩
    · rintro (⟨-,rfl⟩|⟨rest,heq,-⟩)
      · rfl
      · exact absurd heq.symm (cons_ne_nil _ _)
  · rw [hsome]
    dsimp only
    by_cases hpoint : c = '.'
    · subst hpoint
      have hno : ¬Ends (('.' :: letters rest).dropWhile Char.isDigit) := fun hends => by
        rw [dropWhile_cons_of_neg (by decide)] at hends
        rcases hends with hnil|⟨title,heq⟩
        · exact cons_ne_nil _ _ hnil
        · exact absurd (List.cons.inj heq).1 (by decide)
      obtain ⟨hvalue,hends⟩ := readPoint_spec rest
      rw [if_pos rfl,hletters,hvalue]
      constructor
      · intro h
        split at h
        · next hvalid =>
          exact .inr ⟨letters rest,rfl,(hends.mp hvalid).1,(hends.mp hvalid).2,(Option.some.inj h).symm⟩
        · exact absurd h.symm (some_ne_none thousandth)
      · rintro (⟨hnone,-⟩|⟨rest',heq,hne,hvalid,rfl⟩)
        · exact absurd hnone hno
        · obtain rfl := (List.cons.inj heq).2
          rw [if_pos (hends.mpr ⟨hne,hvalid⟩)]
    · rw [if_neg hpoint,←endsInDigits_iff]
      rw [endsInDigits_extracted hletters hspace]
      constructor
      · intro h
        split at h
        · next hvalid => exact .inl ⟨hvalid,(Option.some.inj h).symm⟩
        · exact absurd h.symm (some_ne_none thousandth)
      · rintro (⟨hvalid,rfl⟩|⟨rest',heq,-⟩)
        · rw [if_pos hvalid]
        · rw [hletters] at heq
          exact absurd (List.cons.inj heq).1 hpoint

/-- Without white space: a sign, digits, and what follows. -/
theorem scanInteger_iff (hfirst : ∀ c∈iss.head?,isspace c=false) (value : ℤ) (rest : Text) :
    scanInteger iss=some (value,rest) ↔ ∃ sign digits,iss=sign++digits++rest ∧ digits≠[] ∧
      (∀ c∈digits,c.isDigit=true) ∧ (∀ c∈rest.head?,c.isDigit=false) ∧
      (((sign=[] ∨ sign=['+']) ∧ value=decimal digits) ∨ (sign=['-'] ∧ value = -decimal digits)) := by
  unfold scanInteger
  rw [ltrim_of_head hfirst]
  dsimp only
  constructor
  · intro h
    split at h
    · exact absurd h.symm (some_ne_none _)
    · next hne =>
      obtain ⟨hvalue,hrest⟩ := Prod.mk.inj (Option.some.inj h)
      have hsigned : ∃ sign : Text,iss=sign++(splitSign iss).2 ∧
          (((sign=[] ∨ sign=['+']) ∧ (splitSign iss).1=false) ∨ (sign=['-'] ∧ (splitSign iss).1=true)) := by
        unfold splitSign
        cases iss with
        | nil => exact ⟨[],rfl,.inl ⟨.inl rfl,rfl⟩⟩
        | cons =>
          dsimp only
          split
          · next hc => exact ⟨['-'],by rw [hc]; rfl,.inr ⟨rfl,rfl⟩⟩
          · split
            · next hc => exact ⟨['+'],by rw [hc]; rfl,.inl ⟨.inr rfl,rfl⟩⟩
            · exact ⟨[],rfl,.inl ⟨.inl rfl,rfl⟩⟩
      obtain ⟨sign,hiss,hsign⟩ := hsigned
      refine ⟨sign,(splitSign iss).2.takeWhile Char.isDigit,?_,hne,fun c hc => mem_takeWhile_imp hc,?_,?_⟩
      · rw [←hrest,append_assoc,takeWhile_append_dropWhile]
        exact hiss
      · rw [←hrest]
        exact head?_dropWhile_digits _
      · rw [←hvalue]
        rcases hsign with ⟨hsign,hpositive⟩|⟨hsign,hnegative⟩
        · exact .inl ⟨hsign,by rw [hpositive]; rfl⟩
        · exact .inr ⟨hsign,by rw [hnegative]; rfl⟩
  · rintro ⟨sign,digits,rfl,hne,hdigits,hrest,hsign⟩
    obtain ⟨htake,hdrop⟩ := digits_split hdigits hrest
    obtain ⟨d,more,rfl⟩ := exists_cons_of_ne_nil hne
    have hd := hdigits d mem_cons_self
    have hsplit : splitSign (sign++d::more++rest) = (decide (sign=['-']),d::more++rest) := by
      rcases hsign with ⟨rfl|rfl,-⟩|⟨rfl,-⟩
      · have hminus : d ≠ '-' := by rintro rfl; exact absurd hd (by decide)
        have hplus : d ≠ '+' := by rintro rfl; exact absurd hd (by decide)
        unfold splitSign
        rw [nil_append,cons_append]
        dsimp only
        rw [if_neg hminus,if_neg hplus]
        rfl
      · rfl
      · rfl
    rw [hsplit,htake,hdrop,if_neg hne]
    rcases hsign with ⟨hsign,rfl⟩|⟨rfl,rfl⟩
    · have hnot : sign≠['-'] := by rcases hsign with rfl | rfl <;> decide
      rw [decide_eq_false hnot]
      rfl
    · rfl

theorem parseSeconds_range (iss : Text) : parseSeconds iss=INVALID_DURATION ∨ ∃ runtime : ℕ,parseSeconds iss=runtime := by
  unfold parseSeconds
  split
  · exact .inl rfl
  · next seconds rest _ =>
    split
    · exact .inl rfl
    · next hpositive =>
      split
      · exact .inl rfl
      · next fractionalSeconds _ =>
        obtain ⟨n,rfl⟩ := Int.eq_ofNat_of_zero_le (Int.not_lt.mp hpositive)
        exact .inr ⟨n*1000+fractionalSeconds,by omega⟩

/-- Parsed, without white space, to the runtime that is read from it. -/
theorem parseSeconds_iff (hfirst : ∀ c∈iss.head?,isspace c=false) (runtime : ℕ) :
    parseSeconds iss=runtime ↔ ReadAsSeconds iss runtime := by
  have hinvalid : ∀ n : ℕ,INVALID_DURATION≠n := fun n h => by
    unfold INVALID_DURATION at h
    omega
  constructor
  · intro h
    unfold parseSeconds at h
    split at h
    · exact absurd h (hinvalid runtime)
    · next value rest hextract =>
      obtain ⟨hscan,hbounds⟩ := filter_eq_some_iff.mp hextract
      have hmax := (of_decide_eq_true hbounds).2
      obtain ⟨sign,seconds,hiss,hne,hdigits,hrest,hsign⟩ := (scanInteger_iff hfirst value rest).mp hscan
      split at h
      · exact absurd h (hinvalid runtime)
      · next hpositive =>
        split at h
        · exact absurd h (hinvalid runtime)
        · next fractionalSeconds hfraction =>
          have hvalue : value=decimal seconds := by
            rcases hsign with ⟨-,hvalue⟩|⟨-,hvalue⟩ <;> omega
          refine ⟨sign,seconds,rest,fractionalSeconds,hiss,⟨?_,hne,hdigits,hrest,by rw [←hvalue]; exact hmax,
            (parseFraction_iff rest fractionalSeconds).mp hfraction⟩,by rw [hvalue] at h; omega⟩
          rcases hsign with ⟨hnone|hplus,-⟩|⟨hminus,hnegative⟩
          · exact .inl hnone
          · exact .inr (.inl hplus)
          · exact .inr (.inr ⟨hminus,by omega⟩)
  · rintro ⟨sign,seconds,rest,thousandth,hiss,⟨hsign,hne,hdigits,hrest,hmax,hbehind⟩,rfl⟩
    have hscan : scanInteger iss=some ((decimal seconds : ℤ),rest) := by
      refine (scanInteger_iff hfirst _ rest).mpr ⟨sign,seconds,hiss,hne,hdigits,hrest,?_⟩
      rcases hsign with hnone|hplus|⟨hminus,hzero⟩
      · exact .inl ⟨.inl hnone,rfl⟩
      · exact .inl ⟨.inr hplus,rfl⟩
      · exact .inr ⟨hminus,by rw [hzero]; rfl⟩
    have hextract : extractInteger INT_MAX iss=some ((decimal seconds : ℤ),rest) := by
      refine filter_eq_some_iff.mpr ⟨hscan,decide_eq_true ⟨?_,hmax⟩⟩
      omega
    unfold parseSeconds
    rw [hextract]
    dsimp only
    rw [if_neg (by omega),(parseFraction_iff rest thousandth).mpr hbehind]
    dsimp only
    omega

theorem ReadAsSeconds.starts (h : ReadAsSeconds text runtime) : ∃ c rest,text=c::rest ∧ isspace c=false := by
  obtain ⟨sign,seconds,rest,-,rfl,⟨hsign,hne,hdigits,-⟩,-⟩ := h
  obtain ⟨d,more,rfl⟩ := exists_cons_of_ne_nil hne
  have hd : isspace d=false := isspace_of_isDigit (hdigits d mem_cons_self)
  rcases hsign with rfl|rfl|⟨rfl,-⟩
  · exact ⟨d,more++rest,rfl,hd⟩
  · exact ⟨'+',d::more++rest,rfl,rfl⟩
  · exact ⟨'-',d::more++rest,rfl,rfl⟩

theorem ReadAsSeconds.head (h : ReadAsSeconds text runtime) : ∀ c∈text.head?,isspace c=false := by
  obtain ⟨d,rest,rfl,hd⟩ := h.starts
  intro c hc
  rw [←Option.some.inj (mem_def.mp hc)]
  exact hd

theorem parseRuntime_cases (hlong : EXTINF.length≤line.length) :
    (∃ runtime : ℕ,parseRuntime line=some (runtime : ℤ)) ∨ parseRuntime line=some INVALID_DURATION := by
  unfold parseRuntime
  rw [if_neg (not_lt.mpr hlong)]
  split
  · exact .inr rfl
  · split
    · exact .inr rfl
    · split
      · exact .inr rfl
      · rcases parseSeconds_range _ with hinvalid|⟨runtime,hruntime⟩
        · exact .inr (congrArg some hinvalid)
        · exact .inl ⟨runtime,congrArg some hruntime⟩

theorem parseRuntime_iff (line : Text) (runtime : ℕ) :
    parseRuntime line=some (runtime : ℤ) ↔ ReadAsRuntime line runtime := by
  have hinvalid : some INVALID_DURATION≠some (runtime : ℤ) := fun h => by
    have heq := Option.some.inj h
    unfold INVALID_DURATION at heq
    omega
  constructor
  · intro h
    unfold parseRuntime at h
    split at h
    · exact absurd h.symm (some_ne_none _)
    · next hlong =>
      split at h
      · exact absurd h hinvalid
      · next c rest htrim =>
        split at h
        · exact absurd h hinvalid
        · next hcolon =>
          split at h
          · exact absurd h hinvalid
          · next text hne =>
            obtain ⟨blanks,hblanks,hspace,-⟩ := ltrim_spec (line.drop EXTINF.length)
            obtain ⟨blanks',hblanks',hspace',hhead⟩ := ltrim_spec rest
            refine ⟨line.take EXTINF.length,ltrim rest,⟨blanks,blanks',?_,?_,hspace,hspace'⟩,
              (parseSeconds_iff hhead runtime).mp (Option.some.inj h)⟩
            · rw [hblanks',←not_not.mp hcolon,append_assoc,←htrim,hblanks,take_append_drop]
            · rw [length_take]
              omega
  · rintro ⟨front,text,⟨blanks,blanks',rfl,hfront,hspace,hspace'⟩,hread⟩
    have hhead := hread.head
    obtain ⟨c,rest,rfl,-⟩ := hread.starts
    have hdrop : (front++blanks ++ ':' :: (blanks'++c::rest)).drop EXTINF.length =
        blanks ++ ':' :: (blanks'++c::rest) := by
      rw [←hfront,append_assoc,drop_left]
    have hcolon : ltrim (blanks ++ ':' :: (blanks'++c::rest)) = ':' :: (blanks'++c::rest) := by
      rw [ltrim_append hspace]
      exact ltrim_of_head fun d hd => by
        rw [←Option.some.inj (mem_def.mp hd)]
        rfl
    unfold parseRuntime
    rw [if_neg,hdrop,hcolon]
    · dsimp only
      rw [if_neg (not_not.mpr rfl),ltrim_append hspace',ltrim_of_head hhead]
      exact congrArg some ((parseSeconds_iff hhead runtime).mpr hread)
    · rw [←hfront,length_append,length_append]
      omega

theorem thousandths_lt {digits : Text} (hdigits : ∀ c∈digits,c.isDigit=true) : thousandths digits<1000 := by
  have hlength : ((digits++['0','0','0']).take 3).length=3 := by
    rw [length_take,length_append]
    exact min_eq_left (le_add_left 3 _)
  have hall : ∀ c∈(digits++['0','0','0']).take 3,c.isDigit=true := fun c hc => by
    rcases mem_append.mp (mem_of_mem_take hc) with hin|hzero
    · exact hdigits c hin
    · have hzeros : ∀ d∈(['0','0','0'] : Text),d.isDigit=true := by simp
      exact hzeros c hzero
  obtain ⟨a,b,c,heq⟩ := length_eq_three.mp hlength
  rw [heq] at hall
  have ha := toNat_of_isDigit (hall a (by simp))
  have hb := toNat_of_isDigit (hall b (by simp))
  have hc := toNat_of_isDigit (hall c (by simp))
  unfold thousandths
  rw [heq]
  show ((0*10+(a.toNat-48))*10+(b.toNat-48))*10+(c.toNat-48)<1000
  omega

theorem ReadAsRuntime.lt (h : ReadAsRuntime line runtime) : (runtime : ℤ)<(INT_MAX+1)*1000 := by
  obtain ⟨-,text,-,sign,seconds,rest,thousandth,-,⟨-,-,-,-,hmax,hbehind⟩,rfl⟩ := h
  have hlt : thousandth<1000 := by
    rcases hbehind with ⟨-,rfl⟩|⟨rest',-,-,-,rfl⟩
    · decide
    · exact thousandths_lt fun c hc => mem_takeWhile_imp hc
  omega

/-- It stays one without white space, and no digit is there. -/
theorem Ends.letters (h : Ends title) : Ends (StringUtils.letters title) ∧ (∀ c∈title.head?,c.isDigit=false) ∧
      ∀ c∈(StringUtils.letters title).head?,c.isDigit=false := by
  rcases h with rfl|⟨title,rfl⟩
  · exact ⟨.inl rfl,fun c hc => absurd (mem_def.mp hc).symm (some_ne_none c),
      fun c hc => absurd (mem_def.mp hc).symm (some_ne_none c)⟩
  · have hcomma : ∀ c : Char,c∈some ',' → c.isDigit=false := fun c hc => by
      rw [←Option.some.inj (mem_def.mp hc)]
      rfl
    exact ⟨.inr ⟨StringUtils.letters title,rfl⟩,hcomma,hcomma⟩

/-- No digit stands behind the seconds of the format. -/
theorem IsFraction.head {thousandth : ℕ} (h : IsFraction fraction thousandth) (hends : Ends title) :
    ∀ c∈(fraction++title).head?,c.isDigit=false := by
  rcases h with ⟨rfl,-⟩|⟨digits,rfl,-⟩
  · exact hends.letters.2.1
  · intro c hc
    rw [←Option.some.inj (mem_def.mp hc)]
    rfl

/-- As its runtime, up to the greatest number of seconds. -/
theorem IsRuntimeLine.read (h : IsRuntimeLine line runtime)
    (hmax : (runtime : ℤ)<(INT_MAX+1)*1000) : ReadAsRuntime line runtime := by
  obtain ⟨blanks,blanks',seconds,fraction,title,thousandth,rfl,hblanks,hblanks',hne,hdigits,hfraction,
    hends,rfl⟩ := h
  obtain ⟨hends',-,hhead'⟩ := hends.letters
  have hsmall : (decimal seconds : ℤ)≤INT_MAX := by omega
  refine ⟨EXTINF,seconds++(fraction++title),⟨blanks,blanks',rfl,rfl,hblanks,hblanks'⟩,
    [],seconds,fraction++title,thousandth,rfl,⟨.inl rfl,hne,hdigits,hfraction.head hends,hsmall,?_⟩,rfl⟩
  rcases hfraction with ⟨rfl,rfl⟩|⟨digits,rfl,hdne,hddigits,rfl⟩
  · rw [nil_append]
    refine .inl ⟨?_,rfl⟩
    have hdrop : ([]++letters title).dropWhile Char.isDigit=letters title :=
      (digits_split (fun c hc => absurd hc not_mem_nil) hhead').2
    rw [nil_append] at hdrop
    rw [hdrop]
    exact hends'
  · have hkept : letters digits=digits := filter_eq_self.mpr fun c hc => by
      rw [isspace_of_isDigit (hddigits c hc)]
      rfl
    have hletters : letters ('.' :: digits++title) = '.' :: (digits++letters title) := by
      rw [cons_append]
      show '.' :: letters (digits++title)=_
      rw [letters_append,hkept]
    obtain ⟨htake,hdrop⟩ := digits_split hddigits hhead'
    refine .inr ⟨digits++letters title,hletters,fun hnil => hdne (append_eq_nil_iff.mp hnil).1,?_,?_⟩
    · rw [hdrop]
      exact hends'
    · rw [htake]

end

section

/-- What stands in front of a comma and is all digits when digits are left out. -/
theorem Ends.digits {text rest : Text} (htext : ',' ∉ text) (h : Ends ((text++rest).dropWhile Char.isDigit)) :
    ∀ c∈text,c.isDigit=true := by
  induction text with
  | nil => exact fun c hc => absurd hc not_mem_nil
  | cons c text ih =>
    obtain ⟨hc,hrest⟩ := ne_and_not_mem_of_not_mem_cons htext
    rw [cons_append] at h
    cases hdigit : c.isDigit with
    | true =>
      rw [dropWhile_cons_of_pos hdigit] at h
      exact forall_mem_cons.mpr ⟨hdigit,ih hrest h⟩
    | false =>
      rw [dropWhile_cons_of_neg (by rw [hdigit]; exact Bool.false_ne_true)] at h
      rcases h with hnil|⟨title,heq⟩
      · exact absurd hnil (cons_ne_nil _ _)
      · exact absurd (List.cons.inj heq).1.symm hc

/-- Up to the first comma there is none, and what follows is the end of a line. -/
theorem split_at_comma (text : Text) : ∃ front title,text=front++title ∧ front=text.takeWhile (· ≠ ',') ∧
    ',' ∉ front ∧ Ends title := by
  refine ⟨text.takeWhile (· ≠ ','),text.dropWhile (· ≠ ','),takeWhile_append_dropWhile.symm,rfl,fun hmem => ?_,?_⟩
  · have hne := mem_takeWhile_imp hmem
    exact of_decide_eq_true hne rfl
  · have hhead := List.head?_dropWhile_not (fun c => decide (c ≠ ',')) text
    cases hdrop : text.dropWhile (· ≠ ',') with
    | nil => exact .inl rfl
    | cons c title =>
      rw [hdrop] at hhead
      have hc : c = ',' := by simpa using hhead
      exact .inr ⟨title,by rw [hc]⟩

theorem ReadBehind.plain {rest : Text} {thousandth : ℕ} (h : ReadBehind (letters rest) thousandth)
    (hfirst : ∀ c∈rest.head?,c.isDigit=false) (hplain : ∀ c∈rest.takeWhile (· ≠ ','),isspace c=false) :
    (∃ title,rest = '.' :: ',' :: title) ∨
      ∃ fraction title,rest=fraction++title ∧ IsFraction fraction thousandth ∧ Ends title := by
  obtain ⟨front,title,heq,hfront,hcomma,hends⟩ := split_at_comma rest
  rw [←hfront] at hplain
  rw [heq] at h hfirst ⊢
  have hkept : letters front=front := filter_eq_self.mpr fun c hc => by
    rw [hplain c hc]
    rfl
  rw [letters_append,hkept] at h
  obtain ⟨-,-,hhead⟩ := hends.letters
  rcases h with ⟨hdigits,rfl⟩|⟨rest',hpoint,hne,hdigits,rfl⟩
  · have hall := hdigits.digits hcomma
    cases front with
    | nil => exact .inr ⟨[],title,rfl,.inl ⟨rfl,rfl⟩,hends⟩
    | cons d => exact absurd (hall d mem_cons_self) (by rw [hfirst d rfl]; exact Bool.false_ne_true)
  · cases front with
    | nil =>
      rcases hends with rfl|⟨title,rfl⟩
      · exact absurd hpoint.symm (cons_ne_nil _ _)
      · exact absurd (List.cons.inj hpoint).1 (by decide)
    | cons d front =>
      obtain ⟨rfl,rfl⟩ := List.cons.inj hpoint
      have hall := hdigits.digits (ne_and_not_mem_of_not_mem_cons hcomma).2
      cases front with
      | nil =>
        rcases hends with rfl|⟨title,rfl⟩
        · exact absurd rfl hne
        · exact .inl ⟨title,rfl⟩
      | cons d' front =>
        refine .inr ⟨'.' :: d'::front,title,rfl,.inr ⟨d'::front,rfl,cons_ne_nil _ _,hall,?_⟩,hends⟩
        exact congrArg thousandths (digits_split hall hhead).1

/-- No white space in front of the comma, and no point. -/
theorem IsFraction.plain {fraction title : Text} {thousandth : ℕ} (h : IsFraction fraction thousandth) (hends : Ends title) :
    (∀ c∈(fraction++title).takeWhile (· ≠ ','),isspace c=false) ∧ ∀ title',fraction++title ≠ '.' :: ',' :: title' := by
  have hfraction : ∀ c∈fraction,c ≠ ',' ∧ isspace c=false := by
    rcases h with ⟨rfl,-⟩|⟨digits,rfl,-,hdigits,-⟩
    · exact fun c hc => absurd hc not_mem_nil
    · refine forall_mem_cons.mpr ⟨by decide,fun c hc => ⟨?_,isspace_of_isDigit (hdigits c hc)⟩⟩
      rintro rfl
      exact absurd (hdigits ',' hc) (by decide)
  have htitle : title.takeWhile (· ≠ ',')=[] := by
    rcases hends with rfl|⟨title,rfl⟩
    · rfl
    · rfl
  constructor
  · rw [takeWhile_append_of_pos fun c hc => decide_eq_true (hfraction c hc).1,htitle,append_nil]
    exact fun c hc => (hfraction c hc).2
  · intro title' heq
    rcases h with ⟨rfl,-⟩|⟨digits,rfl,hne,hdigits,-⟩
    · rcases hends with rfl|⟨title,rfl⟩
      · exact absurd heq.symm (cons_ne_nil _ _)
      · exact absurd (List.cons.inj heq).1 (by decide)
    · obtain ⟨d,more,rfl⟩ := exists_cons_of_ne_nil hne
      have hd := hdigits d mem_cons_self
      rw [(List.cons.inj (List.cons.inj heq).2).1] at hd
      exact absurd hd (by decide)

/-- Unique among texts that begin with no white space. -/
theorem Introduces.unique {line front front' text text' : Text} (h : Introduces line front text)
    (h' : Introduces line front' text') (htext : ∀ c∈text.head?,isspace c=false)
    (htext' : ∀ c∈text'.head?,isspace c=false) : front=front' ∧ text=text' := by
  obtain ⟨blanks,blanks',rfl,hlength,hblanks,hblanks'⟩ := h
  obtain ⟨more,more',heq,hlength',hmore,hmore'⟩ := h'
  rw [append_assoc,append_assoc] at heq
  obtain ⟨hfront,hrest⟩ := append_inj heq (hlength.trans hlength'.symm)
  have htrim := congrArg ltrim hrest
  have hcolon : ∀ tail : Text,ltrim (':' :: tail) = ':' :: tail := fun tail => rfl
  rw [ltrim_append hblanks,ltrim_append hmore,hcolon,hcolon] at htrim
  have htrim' := congrArg ltrim (List.cons.inj htrim).2
  rw [ltrim_append hblanks',ltrim_append hmore',ltrim_of_head htext,ltrim_of_head htext'] at htrim'
  exact ⟨hfront,htrim'⟩

theorem readLeniently_iff (line : Text) :
    ReadLeniently line ↔ ∃ runtime,ReadAsRuntime line runtime ∧ ∀ runtime',¬IsRuntimeLine line runtime' := by
  constructor
  · rintro ⟨front,sign,seconds,rest,thousandth,hintro,hreads,hdeviates⟩
    have hread : ReadAsSeconds (sign++seconds++rest) (decimal seconds*1000+thousandth) :=
      ⟨sign,seconds,rest,thousandth,rfl,hreads,rfl⟩
    refine ⟨_,⟨front,_,hintro,hread⟩,?_⟩
    rintro - ⟨blanks,blanks',seconds',fraction,title,thousandth',hline,hblanks,hblanks',hne,hdigits,hfraction,hends,-⟩
    obtain ⟨d,more,rfl⟩ := exists_cons_of_ne_nil hne
    have hd := hdigits d mem_cons_self
    obtain ⟨hfront,htext⟩ := hintro.unique ⟨blanks,blanks',hline,rfl,hblanks,hblanks'⟩ hread.head fun c hc => by
      rw [←Option.some.inj (mem_def.mp hc)]
      exact isspace_of_isDigit hd
    obtain ⟨hsign,hne',hdigits',hrest,-⟩ := hreads
    have hnone : sign=[] := by
      rcases hsign with hnone|rfl|⟨rfl,-⟩
      · exact hnone
      · rw [←(List.cons.inj htext).1] at hd
        exact absurd hd (by decide)
      · rw [←(List.cons.inj htext).1] at hd
        exact absurd hd (by decide)
    rw [hnone,nil_append] at htext
    have hsame := congrArg (List.dropWhile Char.isDigit) htext
    rw [(digits_split hdigits' hrest).2,(digits_split hdigits (hfraction.head hends)).2] at hsame
    obtain ⟨hplain,hpoint⟩ := hfraction.plain hends
    rw [←hsame] at hplain hpoint
    rcases hdeviates with hother|hsigned|⟨c,hc,hspace⟩|⟨title',hcomma⟩
    · exact hother hfront
    · exact hsigned hnone
    · rw [hplain c hc] at hspace
      exact Bool.false_ne_true hspace
    · exact hpoint title' hcomma
  · rintro ⟨-,⟨front,-,hintro,sign,seconds,rest,thousandth,rfl,hreads,-⟩,hno⟩
    by_contra hformat
    obtain ⟨hfront,hdeviates⟩ := not_or.mp fun hdeviates =>
      hformat ⟨front,sign,seconds,rest,thousandth,hintro,hreads,hdeviates⟩
    rw [not_or,not_or] at hdeviates
    obtain ⟨hsign,hblank,hpoint⟩ := hdeviates
    obtain ⟨-,hne,hdigits,hrest,-,hbehind⟩ := hreads
    obtain ⟨blanks,blanks',hline,-,hblanks,hblanks'⟩ := hintro
    rw [not_not.mp hfront,not_not.mp hsign,nil_append] at hline
    have hplain : ∀ c∈rest.takeWhile (· ≠ ','),isspace c=false := fun c hc =>
      Bool.eq_false_iff.mpr fun hspace => hblank ⟨c,hc,hspace⟩
    rcases hbehind.plain hrest hplain with hcomma|⟨fraction,title,rfl,hfraction,hends⟩
    · exact hpoint hcomma
    · exact hno _ ⟨blanks,blanks',seconds,fraction,title,thousandth,hline,hblanks,hblanks',hne,hdigits,
        hfraction,hends,rfl⟩

end

/-- The runtime is the format's, and other lines are invalid. -/
def ParsesExactly (line : Text) : Prop :=
  (∀ runtime : ℕ,IsRuntimeLine line runtime → parseRuntime line=some (runtime : ℤ)) ∧
    ((∀ runtime,¬IsRuntimeLine line runtime) → parseRuntime line=some INVALID_DURATION)

/-- A line is parsed exactly when it is as long as the tag, a line of the format has at most the greatest number of seconds,
and the line is not read beside the format. -/
theorem parsesExactly_iff (line : Text) : ParsesExactly line ↔ EXTINF.length≤line.length ∧
    (∀ runtime : ℕ,IsRuntimeLine line runtime → (runtime : ℤ)<(INT_MAX+1)*1000) ∧ ¬ReadLeniently line := by
  rw [readLeniently_iff]
  constructor
  · rintro ⟨hformat,hother⟩
    refine ⟨?_,fun runtime h => ((parseRuntime_iff line runtime).mp (hformat runtime h)).lt,?_⟩
    · by_contra hshort
      have hthrows : parseRuntime line=none := by
        unfold parseRuntime
        rw [if_pos (not_le.mp hshort)]
      by_cases hany : ∃ runtime,IsRuntimeLine line runtime
      · obtain ⟨runtime,hruntime⟩ := hany
        exact some_ne_none _ ((hformat runtime hruntime).symm.trans hthrows)
      · exact some_ne_none _ ((hother fun runtime h => hany ⟨runtime,h⟩).symm.trans hthrows)
    · rintro ⟨runtime,hread,hno⟩
      have heq := Option.some.inj ((hother hno).symm.trans ((parseRuntime_iff line runtime).mpr hread))
      unfold INVALID_DURATION at heq
      omega
  · rintro ⟨hlong,hmax,hread⟩
    refine ⟨fun runtime h => (parseRuntime_iff line runtime).mpr (h.read (hmax runtime h)),fun hno => ?_⟩
    rcases parseRuntime_cases hlong with ⟨runtime,hparsed⟩|hinvalid
    · exact absurd ⟨runtime,(parseRuntime_iff line runtime).mp hparsed,hno⟩ hread
    · exact hinvalid

/-- Behind the colon and its white space a line of the format has a digit. -/
theorem IsRuntimeLine.digit {line : Text} (h : IsRuntimeLine line runtime) :
    ∃ c∈(ltrim (ltrim (line.drop EXTINF.length)).tail).head?,c.isDigit=true := by
  obtain ⟨blanks,blanks',seconds,fraction,title,-,rfl,hblanks,hblanks',hne,hdigits,-⟩ := h
  obtain ⟨d,more,rfl⟩ := exists_cons_of_ne_nil hne
  have hd := hdigits d mem_cons_self
  have hhead : ∀ c∈(d::more++(fraction++title)).head?,isspace c=false := fun c hc => by
    rw [←Option.some.inj (mem_def.mp hc)]
    exact isspace_of_isDigit hd
  have hcolon : ltrim (blanks ++ ':' :: (blanks'++(d::more++(fraction++title)))) =
      ':' :: (blanks'++(d::more++(fraction++title))) := by
    rw [ltrim_append hblanks]
    exact ltrim_of_head fun c hc => by
      rw [←Option.some.inj (mem_def.mp hc)]
      rfl
  refine ⟨d,?_,hd⟩
  rw [append_assoc,drop_left,hcolon,tail_cons,ltrim_append hblanks',ltrim_of_head hhead]
  rfl

/-- A sign is no digit, and the seconds are read with it. -/
theorem sign_read_as_seconds : ¬ParsesExactly "#EXTINF:+5".toList := by
  rintro ⟨-,hother⟩
  have hno : ∀ runtime,¬IsRuntimeLine "#EXTINF:+5".toList runtime := fun runtime h => by
    obtain ⟨c,hc,hdigit⟩ := h.digit
    have hsign : (ltrim (ltrim ("#EXTINF:+5".toList.drop EXTINF.length)).tail).head?=some '+' := by decide
    rw [hsign] at hc
    rw [←Option.some.inj (mem_def.mp hc)] at hdigit
    exact absurd hdigit (by decide)
  have hparsed : parseRuntime "#EXTINF:+5".toList=some 5000 := by decide
  exact absurd ((hother hno).symm.trans hparsed) (by decide)

end AlexaClientSDK.M3UParser
