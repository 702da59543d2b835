import Mathlib.Data.List.TakeWhile

/-!
# Strings

The string functions of the standard library and of `StringUtils` that the captions and the playlists rest on. A string
is the list of its `char`s.
-/

namespace AlexaClientSDK.StringUtils

open Bool List

/-- The `char`s of a `std::string`. -/
abbrev Text := List Char

/-- The blank, and from tab to carriage return. -/
def isspace (c : Char) : Bool := c = ' ' || (9≤c.toNat && c.toNat≤13)

def ltrim (str : Text) : Text := str.dropWhile isspace

/-- `ltrim` takes away white space, and leaves none in front. -/
theorem ltrim_spec (str : Text) : ∃ removed,removed++ltrim str=str ∧ (∀ c∈removed,isspace c=true) ∧
    ∀ c∈(ltrim str).head?,isspace c=false := by
  refine ⟨str.takeWhile isspace,takeWhile_append_dropWhile,fun c hc => mem_takeWhile_imp hc,?_⟩
  intro c hc
  have hhead := List.head?_dropWhile_not isspace str
  unfold ltrim at hc
  rw [Option.mem_def.mp hc] at hhead
  simpa using hhead

/-- The letters of a text, leaving out the white space. -/
def letters (str : Text) : Text := str.filter fun c => !isspace c

theorem letters_append (str str' : Text) : letters (str++str')=letters str++letters str' :=
  filter_append str str'

variable {str rest line : Text}

theorem letters_eq_nil (h : ∀ c∈str,isspace c=true) : letters str=[] := by
  unfold letters
  rw [filter_eq_nil_iff]
  intro c hc
  rw [h c hc]
  exact false_ne_true

theorem letters_ltrim (str : Text) : letters (ltrim str)=letters str := by
  obtain ⟨removed,heq,hspace,-⟩ := ltrim_spec str
  have h := letters_append removed (ltrim str)
  rw [heq,letters_eq_nil hspace,nil_append] at h
  exact h.symm

theorem ltrim_eq_nil (h : ∀ c∈str,isspace c=true) : ltrim str=[] :=
  dropWhile_eq_nil_iff.mpr h

/-- What begins with no white space is not trimmed. -/
theorem ltrim_of_head (h : ∀ c∈str.head?,isspace c=false) : ltrim str=str := by
  cases str with
  | nil => rfl
  | cons c =>
    unfold ltrim
    rw [dropWhile_cons_of_neg (by rw [h c rfl]; exact false_ne_true)]

theorem ltrim_append {front str : Text} (h : ∀ c∈front,isspace c=true) : ltrim (front++str)=ltrim str := by
  unfold ltrim
  rw [dropWhile_append_of_pos h]

/-- The next that is no white space. `none` if there is none. -/
def extractChar (iss : Text) : Option (Char × Text) :=
  match ltrim iss with
  | [] => none
  | c::rest => some (c,rest)

/-- The number that decimal digits write. -/
def decimal (digits : Text) : ℕ := digits.foldl (fun value c => value*10+(c.toNat-48)) 0

/-- Whether it is negative, and what follows. -/
def splitSign (text : Text) : Bool × Text :=
  match text with
  | [] => (false,[])
  | c::rest => if c = '-' then (true,rest) else if c = '+' then (false,rest) else (false,text)

/-- Of any size. `none` if there are no digits. -/
def scanInteger (iss : Text) : Option (ℤ × Text) :=
  let signed := splitSign (ltrim iss)
  let digits := signed.2.takeWhile Char.isDigit
  if digits=[] then none
  else some (if signed.1 then -(decimal digits) else decimal digits,signed.2.dropWhile Char.isDigit)

/-- For a signed type. `none` if the stream fails. -/
def extractInteger (max : ℤ) (iss : Text) : Option (ℤ × Text) :=
  (scanInteger iss).filter fun found => -max-1≤found.1 ∧ found.1 ≤ max

/-- What `iss >> value` leaves in the value, also when the stream fails. -/
def readInteger (max : ℤ) (iss : Text) : ℤ :=
  match scanInteger iss with
  | none => 0
  | some (value,_) => if max<value then max else if value < -max-1 then -max-1 else value

def INT_MAX : ℤ := 2147483647

def LONG_MAX : ℤ := 9223372036854775807

/-- A `char` is extracted where there is a letter, and the letters behind it are left. -/
theorem extractChar_cases (iss : Text) : (extractChar iss=none ∧ letters iss=[]) ∨
    ∃ c rest,extractChar iss=some (c,rest) ∧ isspace c=false ∧ letters iss=c::letters rest := by
  obtain ⟨-,-,-,htrimmed⟩ := ltrim_spec iss
  unfold extractChar
  rw [←letters_ltrim iss]
  cases htrim : ltrim iss with
  | nil => exact .inl ⟨rfl,rfl⟩
  | cons c rest =>
    have hc : isspace c=false := htrimmed c (by rw [htrim]; rfl)
    refine .inr ⟨c,rest,rfl,hc,?_⟩
    unfold letters
    rw [filter_cons_of_pos (by rw [hc]; rfl)]

theorem toNat_of_isDigit {c : Char} (h : c.isDigit=true) : 48≤c.toNat ∧ c.toNat≤57 := by
  have hboth := (and_eq_true _ _).mp h
  exact ⟨UInt32.le_iff_toNat_le.mp (of_decide_eq_true hboth.1),UInt32.le_iff_toNat_le.mp (of_decide_eq_true hboth.2)⟩

theorem isspace_of_isDigit {c : Char} (h : c.isDigit=true) : isspace c=false := by
  have hge := (toNat_of_isDigit h).1
  unfold isspace
  rw [or_eq_false_iff,decide_eq_false_iff_not,and_eq_false_iff,decide_eq_false_iff_not,
    decide_eq_false_iff_not]
  refine ⟨?_,.inr (by omega)⟩
  rintro rfl
  exact absurd hge (by decide)

theorem digits_split {digits rest : Text} (hdigits : ∀ c∈digits,c.isDigit=true)
    (hrest : ∀ c∈rest.head?,c.isDigit=false) :
    (digits++rest).takeWhile Char.isDigit=digits ∧ (digits++rest).dropWhile Char.isDigit=rest := by
  rw [takeWhile_append_of_pos hdigits,dropWhile_append_of_pos hdigits]
  cases rest with
  | nil => exact ⟨append_nil _,rfl⟩
  | cons c =>
    have hc : ¬c.isDigit=true := by rw [hrest c rfl]; exact false_ne_true
    rw [takeWhile_cons_of_neg hc,dropWhile_cons_of_neg hc,append_nil]
    exact ⟨rfl,rfl⟩

theorem head?_dropWhile_digits (text : Text) : ∀ c∈(text.dropWhile Char.isDigit).head?,c.isDigit=false := by
  intro c hc
  have hhead := List.head?_dropWhile_not Char.isDigit text
  rw [Option.mem_def.mp hc] at hhead
  simpa using hhead

/-- `line.compare(0, prefix.length(), prefix) == 0`. -/
def hasPrefix (line front : Text) : Bool := front.isPrefixOf line

/-- What stands in front of the first occurrence of a text, and behind it. -/
def find? (pattern : Text) : Text → Option (Text × Text)
  | [] => if pattern=[] then some ([],[]) else none
  | c::text =>
    if pattern.isPrefixOf (c::text) then some ([],(c::text).drop pattern.length)
    else (find? pattern text).map fun found => (c::found.1,found.2)

/-- A newline at the end opens no further line. -/
def getLines : Text → List Text
  | [] => []
  | c::rest =>
    if c = '\n' then []::getLines rest
    else
      match getLines rest with
      | [] => [[c]]
      | line::lines => (c::line)::lines

theorem getLines_line (h : '\n' ∉ line) : getLines (line ++ '\n' :: rest)=line::getLines rest := by
  induction line with
  | nil => rfl
  | cons c line ih =>
    obtain ⟨hc,hline⟩ := ne_and_not_mem_of_not_mem_cons h
    rw [cons_append,getLines,if_neg hc.symm,ih hline]

/-- A last line without a newline is delivered, unless it is empty. -/
theorem getLines_last (hne : line≠[]) (h : '\n' ∉ line) : getLines line=[line] := by
  induction line with
  | nil => exact absurd rfl hne
  | cons c line ih =>
    obtain ⟨hc,hline⟩ := ne_and_not_mem_of_not_mem_cons h
    rw [getLines,if_neg (Ne.symm hc)]
    cases line with
    | nil => rfl
    | cons => rw [ih (cons_ne_nil _ _) hline]

/-- A text has no newline, or begins with a line and its newline. -/
theorem exists_line (h : '\n' ∈ str) : ∃ line rest,'\n' ∉ line ∧ str=line ++ '\n' :: rest := by
  induction str with
  | nil => exact absurd h not_mem_nil
  | cons c str ih =>
    by_cases hc : c = '\n'
    · exact ⟨[],str,not_mem_nil,by rw [hc]; rfl⟩
    · obtain ⟨line,rest,hline,rfl⟩ := ih ((mem_cons.mp h).resolve_left (Ne.symm hc))
      exact ⟨c::line,rest,not_mem_cons_of_ne_of_not_mem (Ne.symm hc) hline,rfl⟩

end AlexaClientSDK.StringUtils
