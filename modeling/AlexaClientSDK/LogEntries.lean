import AlexaClientSDK.StringUtils

/-!
# The entries of a log

`LogEntry` writes sections with colons between them: source, event, pairs, message. Only the values of the pairs are escaped.
Texts are C strings: the values of `d` and the message have no NUL, at which they would be cut. A null pointer is written
as nothing.
-/

namespace AlexaClientSDK.LogEntries

open List StringUtils

/-- The characters that are escaped. -/
def RESERVED_METADATA_CHARS : Text := ['\\',',','=',':']

/-- The loop of `appendEscapedString`, with what `strpbrk` finds. -/
def escapeFrom : ℕ → Text → Text
  | 0,_ => []
  | maxCount+1,pos =>
    match pos.dropWhile (· ∉ RESERVED_METADATA_CHARS) with
    | [] => pos
    | next::rest => pos.takeWhile (· ∉ RESERVED_METADATA_CHARS)++ '\\'::next::escapeFrom maxCount rest

structure LogEntry where
  m_hasMetadata : Bool
  m_stream : Text

open LogEntry

namespace LogEntry

variable (s : LogEntry)

/-- The source and the event come first. -/
def new (source event : Text) : LogEntry := ⟨false,source++ ':'::event⟩

/-- The first pair is behind a colon, the others behind commas. -/
def prefixKeyValuePair : LogEntry :=
  if s.m_hasMetadata then {s with m_stream := s.m_stream++[',']} else ⟨true,s.m_stream++[':']⟩

/-- A value is written with its separators escaped. -/
def appendEscapedString (value : Text) : LogEntry := {s with m_stream := s.m_stream++escapeFrom value.length value}

/-- A pair of a key and a value is added. -/
def d (pair : Text × Text) : LogEntry :=
  let s := s.prefixKeyValuePair
  {s with m_stream := s.m_stream++pair.1++['=']}.appendEscapedString pair.2

def prefixMessage : LogEntry :=
  let s := if s.m_hasMetadata then s else {s with m_stream := s.m_stream++[':']}
  {s with m_stream := s.m_stream++[':']}

/-- The message is added, which is not escaped. -/
def m (message : Text) : LogEntry :=
  let s := s.prefixMessage
  {s with m_stream := s.m_stream++message}

end LogEntry

structure Content where
  source : Text
  event : Text
  pairs : List (Text × Text)
  message : Option Text

/-- The entry that is written for the content. -/
def Content.entry (content : Content) : LogEntry :=
  let s := content.pairs.foldl d (.new content.source content.event)
  content.message.elim s s.m

/-- The text has no separators. -/
def Plain (text : Text) : Prop := ∀ c∈text,c ∉ RESERVED_METADATA_CHARS

/-- Values and the message may be any text. -/
structure Content.Loggable (content : Content) : Prop where
  source : Plain content.source
  event : Plain content.event
  keys : ∀ pair∈content.pairs,Plain pair.1

/-- The value up to the next separator, and the rest. -/
def readValue : Text → Text × Text
  | '\\'::c::rest => (c::(readValue rest).1,(readValue rest).2)
  | c::rest => if c= ',' ∨ c= ':' then ([],c::rest) else (c::(readValue rest).1,(readValue rest).2)
  | [] => ([],[])

/-- The pairs are read up to a value that no comma follows. -/
def readPairs : ℕ → Text → List (Text × Text) × Text
  | 0,text => ([],text)
  | fuel+1,text =>
    let value := readValue (text.dropWhile (· ≠ '=')).tail
    let behind := if value.2.head?=some ',' then readPairs fuel value.2.tail else ([],value.2)
    ((text.takeWhile (· ≠ '='),value.1)::behind.1,behind.2)

/-- The message is behind a colon. -/
def readMessage : Text → Option Text
  | [] => none
  | _::message => some message

def readMetadata (rest : Text) : List (Text × Text) × Text :=
  if rest=[] ∨ rest.head?=some ':' then ([],rest) else readPairs rest.length rest

/-- An entry is read back. -/
def read (text : Text) : Content :=
  let behind := (text.dropWhile (· ≠ ':')).tail
  let metadata := readMetadata (behind.dropWhile (· ≠ ':')).tail
  ⟨text.takeWhile (· ≠ ':'),behind.takeWhile (· ≠ ':'),metadata.1,readMessage metadata.2⟩

def escape (text : Text) : Text := text.flatMap fun c => if c∈RESERVED_METADATA_CHARS then ['\\',c] else [c]

theorem escape_cons (c : Char) (text : Text) :
    escape (c::text)=(if c∈RESERVED_METADATA_CHARS then ['\\',c] else [c])++escape text := flatMap_cons

/-- The loop escapes the whole text. -/
theorem escapeFrom_eq {pos : Text} {maxCount : ℕ} (h : pos.length≤ maxCount) : escapeFrom maxCount pos=escape pos := by
  induction pos generalizing maxCount with
  | nil => cases maxCount <;> rfl
  | cons c pos ih =>
    obtain ⟨count,rfl⟩ := Nat.exists_eq_add_of_le' (Nat.lt_of_lt_of_le (Nat.succ_pos _) h)
    rw [length_cons] at h
    rw [escape_cons]
    by_cases hc : c∈RESERVED_METADATA_CHARS
    · rw [if_pos hc,←ih (Nat.le_of_succ_le_succ h),escapeFrom,dropWhile_cons_of_neg (by simpa using hc),
        takeWhile_cons_of_neg (by simpa using hc)]
      rfl
    · rw [if_neg hc,←ih (Nat.le_of_succ_le h),escapeFrom,escapeFrom,dropWhile_cons_of_pos (by simpa using hc),
        takeWhile_cons_of_pos (by simpa using hc)]
      split <;> rfl

/-- What follows a value. -/
def Ends (rest : Text) : Prop := rest=[] ∨ ∃ c more,rest=c::more ∧ (c= ',' ∨ c= ':')

variable {rest : Text}

/-- An escaped value is read up to its end. -/
theorem readValue_escape (value : Text) (hrest : Ends rest) : readValue (escape value++rest)=(value,rest) := by
  induction value with
  | nil =>
    rcases hrest with rfl|⟨c,more,rfl,rfl|rfl⟩
    · rfl
    · cases more <;> rfl
    · cases more <;> rfl
  | cons c value ih =>
    rw [escape_cons,append_assoc]
    by_cases hc : c∈RESERVED_METADATA_CHARS
    · rw [if_pos hc]
      change (c::(readValue (escape value++rest)).1,(readValue (escape value++rest)).2)=_
      rw [ih]
    · rw [if_neg hc]
      have hother : c≠ '\\' ∧ ¬(c= ',' ∨ c= ':') := by
        refine ⟨fun h => hc (h ▸ by decide),fun h => hc ?_⟩
        rcases h with rfl|rfl <;> decide
      rw [singleton_append,readValue.eq_2 _ _ fun _ _ h => absurd h hother.1,if_neg hother.2,ih]

/-- A plain text is read up to the separator behind it. -/
theorem Plain.split {text : Text} (h : Plain text) {c : Char} (hc : c∈RESERVED_METADATA_CHARS)
    (hrest : rest=[] ∨ ∃ tail,rest=c::tail) :
    (text++rest).takeWhile (· ≠ c)=text ∧ (text++rest).dropWhile (· ≠ c)=rest := by
  have hne : ∀ other∈text,decide (other≠c)=true := fun other hmem => decide_eq_true fun heq => h other hmem (heq ▸ hc)
  rw [takeWhile_append_of_pos hne,dropWhile_append_of_pos hne]
  rcases hrest with rfl|⟨tail,rfl⟩ <;> simp

/-- The text of a pair. -/
def pairText (pair : Text × Text) : Text := pair.1++ '='::escape pair.2

/-- Pairs behind the first one. -/
def more (pairs : List (Text × Text)) : Text := pairs.flatMap fun pair => ','::pairText pair

/-- The pairs behind the first one are written with commas. -/
theorem foldl_d (pairs : List (Text × Text)) (stream : Text) :
    pairs.foldl d ⟨true,stream⟩=⟨true,stream++more pairs⟩ := by
  induction pairs generalizing stream with
  | nil => exact congrArg (mk true) (append_nil _).symm
  | cons pair pairs ih =>
    rw [foldl_cons,d,prefixKeyValuePair,appendEscapedString,escapeFrom_eq (Nat.le_refl _)]
    simp [ih,more,pairText]

theorem length_more (pairs : List (Text × Text)) : pairs.length≤(more pairs).length := by
  induction pairs with
  | nil => exact Nat.zero_le _
  | cons pair pairs ih =>
    rw [more,flatMap_cons,←more,cons_append,length_cons,length_cons,length_append]
    omega

/-- The pairs that were written are read. -/
theorem readPairs_text {pairs : List (Text × Text)} {pair : Text × Text} {fuel : ℕ}
    (hfuel : pairs.length≤fuel) (hkeys : ∀ other∈pair::pairs,Plain other.1) (hrest : rest=[] ∨ ∃ tail,rest= ':'::tail) :
    readPairs (fuel+1) (pairText pair++(more pairs++rest))=(pair::pairs,rest) := by
  induction pairs generalizing pair fuel with
  | nil =>
    have hkey := (hkeys pair mem_cons_self).split
      (show '='∈RESERVED_METADATA_CHARS by decide) (.inr ⟨escape pair.2++rest,rfl⟩)
    have hends : Ends rest := hrest.imp_right fun ⟨tail,h⟩ => ⟨':',tail,h,.inr rfl⟩
    rw [more,flatMap_nil,nil_append,pairText,append_assoc,cons_append,readPairs,hkey.1,hkey.2,
      tail_cons,readValue_escape _ hends]
    rcases hrest with rfl|⟨tail,rfl⟩ <;> rfl
  | cons next pairs ih =>
    obtain ⟨hpair,hnext⟩ := forall_mem_cons.mp hkeys
    obtain ⟨fuel,rfl⟩ := Nat.exists_eq_add_one_of_ne_zero (Nat.ne_zero_of_lt hfuel)
    have hkey := hpair.split (show '='∈RESERVED_METADATA_CHARS by decide)
      (.inr ⟨escape pair.2++ ','::(pairText next++(more pairs++rest)),rfl⟩)
    rw [more,flatMap_cons,←more,pairText,append_assoc,cons_append,append_assoc,cons_append,readPairs,
      hkey.1,hkey.2,tail_cons,readValue_escape _ (.inr ⟨',',_,rfl,.inl rfl⟩),head?_cons,if_pos rfl,tail_cons,
      ih (Nat.le_of_succ_le_succ hfuel) hnext]

/-- What was logged can be read from the text of its entry. -/
theorem read_entry {content : Content} (h : content.Loggable) : read content.entry.m_stream=content := by
  obtain ⟨source,event,pairs,message⟩ := content
  have hcolon : ':'∈RESERVED_METADATA_CHARS := by decide
  have hread {rest : Text} (hrest : rest=[] ∨ ∃ tail,rest= ':'::tail) : read (source++ ':'::(event++rest))=
      ⟨source,event,(readMetadata rest.tail).1,readMessage (readMetadata rest.tail).2⟩ := by
    obtain ⟨hsource,hbehind⟩ := Plain.split h.source hcolon (.inr ⟨event++rest,rfl⟩)
    obtain ⟨hevent,hrest⟩ := Plain.split h.event hcolon hrest
    rw [read,hsource,hbehind,tail_cons,hevent,hrest]
  cases pairs with
  | nil =>
    let rest : Text := message.elim [] (':':: ':'::·)
    have htext : (Content.entry ⟨source,event,[],message⟩).m_stream=source++ ':'::(event++rest) := by
      cases message <;> simp [rest,Content.entry,m,prefixMessage,new]
    cases message with
    | none => exact (congrArg read htext).trans (hread (.inl rfl))
    | some message => exact (congrArg read htext).trans (hread (.inr ⟨_,rfl⟩))
  | cons pair pairs =>
    let rest : Text := message.elim [] (':'::·)
    have htext : (Content.entry ⟨source,event,pair::pairs,message⟩).m_stream =
        source++ ':'::(event++ ':'::(pairText pair++(more pairs++rest))) := by
      have hfirst : (new source event).d pair=⟨true,source++ ':'::(event++ ':'::pairText pair)⟩ := by
        rw [d,appendEscapedString,escapeFrom_eq (Nat.le_refl _)]
        simp [new,prefixKeyValuePair,pairText]
      rw [Content.entry,foldl_cons,hfirst,foldl_d]
      cases message <;> simp [rest,m,prefixMessage]
    have hrest : rest=[] ∨ ∃ tail,rest= ':'::tail := by
      cases message with
      | none => exact .inl rfl
      | some message => exact .inr ⟨message,rfl⟩
    have hpairs : readMetadata (pairText pair++(more pairs++rest))=(pair::pairs,rest) := by
      have hkey := h.keys pair mem_cons_self
      have hlength : ∃ fuel,(pairText pair++(more pairs++rest)).length=fuel+1 ∧ pairs.length≤fuel := by
        refine ⟨(pairText pair++(more pairs++rest)).length-1,?_⟩
        have hmany := length_more pairs
        simp only [pairText,length_append,length_cons]
        omega
      obtain ⟨fuel,hfuel,hmany⟩ := hlength
      rw [readMetadata,if_neg,hfuel,readPairs_text hmany h.keys hrest]
      unfold pairText
      cases hfirst : pair.1 with
      | nil => simp
      | cons c key => simpa using fun heq : c= ':' => hkey c (hfirst ▸ mem_cons_self) (heq ▸ hcolon)
    rw [htext,hread (.inr ⟨_,rfl⟩),tail_cons,hpairs]
    cases message <;> rfl

/-- Separators in a value and in the message are read back. -/
theorem read_entry_escaped : read (Content.entry ⟨['S'],['e'],[(['k'],['=',',','\\'])],some [':']⟩).m_stream =
    ⟨['S'],['e'],[(['k'],['=',',','\\'])],some [':']⟩ :=
  read_entry (by constructor <;> simp [Plain,RESERVED_METADATA_CHARS])

end AlexaClientSDK.LogEntries
