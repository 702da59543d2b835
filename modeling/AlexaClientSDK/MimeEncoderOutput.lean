import AlexaClientSDK.MimeEncoder

/-!
# The encoder's output does not depend on buffering

For every state of the encoder there is a string that it still has to produce. Each turn of the loop moves a prefix of
it into the buffer, whatever the buffer sizes, the pieces of the source and its pauses, and a measure of the remaining
work falls.
-/

namespace AlexaClientSDK.MimeEncoder

open Nat List LabelledRuns Encoder

/-- The members of the encoder that sending does not touch. -/
def SameConfig (e e' : Encoder) : Prop :=
  e'.state=e.state ∧ e'.prefixedBoundary=e.prefixedBoundary ∧ e'.headers=e.headers ∧
    e'.headerLine=e.headerLine ∧ e'.disallowed=e.disallowed

/-- It copies the rest of `text` and leaves room, or fills the buffer with a prefix. -/
structure Sent (e : Encoder) (size : ℕ) (text : Bytes) (result : Encoder × Bool) : Prop where
  /-- Only the buffer and the position in the text change. -/
  config : SameConfig e result.1
  exact_ : result.1.buffer++text.drop result.1.stringIndex=e.buffer++text.drop e.stringIndex
  inside : result.1.stringIndex≤text.length
  finished : result.2=true → result.1.buffer.length<size ∧ result.1.stringIndex=text.length
  full : result.2=false → result.1.buffer.length=size

variable {text : Bytes} {e : Encoder}

section

variable {size : ℕ} (hroom : e.buffer.length<size)
include hroom

theorem sendString_sent (hin : e.stringIndex≤text.length) : Sent e size text (e.sendString size text) := by
  have htake : ∀ n,e.buffer++(text.drop e.stringIndex).take n ++
      text.drop (e.stringIndex+n)=e.buffer++text.drop e.stringIndex := by
    intro n
    rw [append_assoc,←drop_drop,take_append_drop]
  by_cases hfit : text.length-e.stringIndex<size-e.buffer.length
  · have hval : e.sendString size text =
        ({e with
          buffer := e.buffer++(text.drop e.stringIndex).take (text.length-e.stringIndex)
          stringIndex := e.stringIndex+(text.length-e.stringIndex)},true) := by
      simp only [sendString,hfit,decide_true,if_true]
    rw [hval]
    refine ⟨⟨rfl,rfl,rfl,rfl,rfl⟩,htake _,by dsimp only; omega,fun _ => ⟨?_,?_⟩,nofun⟩
    · simp only [length_append,length_take,length_drop]
      omega
    · dsimp only
      omega
  · have hval : e.sendString size text =
        ({e with
          buffer := e.buffer++(text.drop e.stringIndex).take (size-e.buffer.length)
          stringIndex := e.stringIndex+(size-e.buffer.length)},false) := by
      simp only [sendString,hfit,decide_false,Bool.false_eq_true,if_false]
    rw [hval]
    refine ⟨⟨rfl,rfl,rfl,rfl,rfl⟩,htake _,by dsimp only; omega,nofun,fun _ => ?_⟩
    simp only [length_append,length_take,length_drop]
    omega

theorem sendStringAndCRLF_eq (hin : e.stringIndex≤(text++crlf).length) :
    e.sendStringAndCRLF size text=e.sendString size (text++crlf) := by
  have hlen : (text++crlf).length=text.length+2 := by simp [crlf]
  have htwo : crlf.length=2 := rfl
  have htail : ∀ e' : Encoder,text.length≤e'.stringIndex → e'.buffer.length<size →
      e'.stringIndex≤text.length+2 → e'.sendCRLF size text=e'.sendString size (text++crlf) := by
    intro e' hpast _ hle
    have hdrop : (text++crlf).drop e'.stringIndex=crlf.drop (e'.stringIndex-text.length) := by
      rw [drop_append,drop_of_length_le hpast,nil_append]
    have hrem : crlf.length-(e'.stringIndex-text.length) =
        (text++crlf).length-e'.stringIndex := by omega
    simp only [sendCRLF,sendString,hrem,hdrop]
  unfold sendStringAndCRLF
  by_cases hhead : e.stringIndex<text.length
  · rw [if_pos hhead]
    by_cases hfit : text.length-e.stringIndex<size-e.buffer.length
    · -- the text fits; its line end is sent from where the text ended
      have hval : e.sendString size text =
          ({e with
            buffer := e.buffer++text.drop e.stringIndex
            stringIndex := text.length},true) := by
        have hall : (text.drop e.stringIndex).take (text.length-e.stringIndex) = text.drop e.stringIndex :=
          take_of_length_le (Nat.le_of_eq length_drop)
        have hsum : e.stringIndex+(text.length-e.stringIndex)=text.length := by omega
        simp only [sendString,hfit,decide_true,if_true,hall,hsum]
      rw [hval]
      simp only [if_true]
      rw [htail {e with
        buffer := e.buffer++text.drop e.stringIndex
        stringIndex := text.length} (Nat.le_refl _)
        (by simp only [length_append,length_drop]; omega) (Nat.le_add_right _ _)]
      have hdrop : (text++crlf).drop e.stringIndex=text.drop e.stringIndex++crlf := by
        rw [drop_append,Nat.sub_eq_zero_of_le (Nat.le_of_lt hhead),drop_zero]
      have hdrop' : (text++crlf).drop text.length=crlf := drop_left
      simp only [sendString,hdrop,hdrop',hlen,length_append,length_drop]
      have hiff : (text.length+2-text.length<size-(e.buffer.length + (text.length-e.stringIndex))) ↔
          (text.length+2-e.stringIndex<size-e.buffer.length) := by omega
      by_cases hboth : text.length+2-e.stringIndex<size-e.buffer.length
      · have hboth' := hiff.mpr hboth
        simp only [hboth,hboth',decide_true,if_true,append_assoc]
        rw [take_append,take_of_length_le (by rw [length_drop]; omega : (text.drop e.stringIndex).length≤_),
          length_drop]
        have h1 : text.length+2-text.length=2 := by omega
        have h2 : text.length+2-e.stringIndex-(text.length-e.stringIndex)=2 := by omega
        have h3 : e.stringIndex+(text.length+2-e.stringIndex)=text.length+2 := by omega
        rw [h1,h2,h3]
      · have hboth' : ¬text.length+2-text.length<size-(e.buffer.length +
            (text.length-e.stringIndex)) := fun h => hboth (hiff.mp h)
        simp only [hboth,hboth',decide_false,Bool.false_eq_true,if_false,append_assoc]
        rw [take_append,take_of_length_le (by rw [length_drop]; omega : (text.drop e.stringIndex).length≤_),
          length_drop]
        have h2 : size-(e.buffer.length+(text.length-e.stringIndex)) =
            size-e.buffer.length-(text.length-e.stringIndex) := by omega
        have h3 : text.length+(size-e.buffer.length-(text.length-e.stringIndex)) =
            e.stringIndex+(size-e.buffer.length) := by omega
        rw [h2,h3]
    · have hnot : ¬(text++crlf).length-e.stringIndex<size-e.buffer.length := by omega
      have htake : ((text++crlf).drop e.stringIndex).take (size-e.buffer.length) =
          (text.drop e.stringIndex).take (size-e.buffer.length) := by
        rw [drop_append,take_append_of_le_length]
        rw [length_drop]
        omega
      simp only [sendString,hfit,hnot,decide_false,Bool.false_eq_true,if_false,htake]
  · rw [if_neg hhead]
    exact htail e (by omega) hroom (by omega)

theorem sendStringAndCRLF_sent (hin : e.stringIndex≤(text++crlf).length) :
    Sent e size (text++crlf) (e.sendStringAndCRLF size text) := by
  rw [sendStringAndCRLF_eq hroom hin]
  exact sendString_sent hroom hin

end

section

variable (e)

section

variable (source : PartSource)

/-- The rest of the body once the headers of the present part are known. -/
def partRest : Bytes :=
  source.data++e.prefixedBoundary++afterDelimiter e.prefixedBoundary source.parts

/-- The string the encoder still has to produce from a state. -/
def rest : Bytes :=
  match e.state with
  | .new | .getting1stPartHeaders =>
    if source.parts=[] then []
    else e.prefixedBoundary++afterDelimiter e.prefixedBoundary source.parts
  | .sending1stBoundary =>
    (e.prefixedBoundary++crlf).drop e.stringIndex++headerBlock e.headers++crlf ++ partRest e source
  | .sendingPartHeaders =>
    match e.headers.drop e.headerLine with
    | [] => crlf.drop e.stringIndex++partRest e source
    | line::lines => (line++crlf).drop e.stringIndex++headerBlock lines++crlf++partRest e source
  | .sendingPartData => partRest e source
  | .sendingEndBoundary =>
    e.prefixedBoundary.drop e.stringIndex++afterDelimiter e.prefixedBoundary source.parts
  | .gettingNthPartHeaders => afterDelimiter e.prefixedBoundary source.parts
  | .sendingCrlfAfterBoundary => crlf.drop e.stringIndex++headerBlock e.headers++crlf++partRest e source
  | .sendingTerminatingDashes => (twoDashes++crlf).drop e.stringIndex
  | .done | .abort => []

/-- The text that the present state is sending, if it is sending one. -/
def sending : Option Bytes :=
  match e.state with
  | .sending1stBoundary => some (e.prefixedBoundary++crlf)
  | .sendingPartHeaders =>
    match e.headers.drop e.headerLine with
    | [] => some crlf
    | line::_ => some (line++crlf)
  | .sendingEndBoundary => some e.prefixedBoundary
  | .sendingCrlfAfterBoundary => some crlf
  | .sendingTerminatingDashes => some (twoDashes++crlf)
  | _ => none

/-- What holds of the encoder at every turn. -/
structure WellFormed (e : Encoder) : Prop where
  allowed : e.disallowed=false
  running : e.state≠.abort
  inside : ∀ text,sending e=some text → e.stringIndex≤text.length

/-- How far a state is from the end of its part. -/
def rank : State → ℕ
  | .new => 8
  | .getting1stPartHeaders => 7
  | .sending1stBoundary => 6
  | .sendingCrlfAfterBoundary => 6
  | .sendingPartHeaders => 5
  | .sendingPartData => 4
  | .sendingEndBoundary => 3
  | .gettingNthPartHeaders => 2
  | .sendingTerminatingDashes => 1
  | .done => 0
  | .abort => 0

/-- The work left: bytes, choices of the source, parts and states. -/
def work : ℕ :=
  (rest e source).length+source.answers.length+8*source.parts.length+rank e.state

/-- What a turn that goes on must preserve, and what must fall. -/
structure Advances (e : Encoder) (source : PartSource) (size : ℕ) (e' : Encoder)
    (source' : PartSource) : Prop where
  wellFormed : WellFormed e'
  boundary : e'.prefixedBoundary=e.prefixedBoundary
  exact_ : e'.buffer++rest e' source'=e.buffer++rest e source
  room : e'.buffer.length<size
  going : e'.state≠.done
  falls : work e' source'<work e source

/-- What a call that returns must guarantee. -/
structure Returns (e : Encoder) (source : PartSource) (size : ℕ) (result : SendResult)
    (e' : Encoder) (source' : PartSource) : Prop where
  wellFormed : WellFormed e'
  boundary : e'.prefixedBoundary=e.prefixedBoundary
  /-- The bytes reported and the bytes to come are the bytes owed before. -/
  exact_ : produced (size,result)++rest e' source'=e.buffer++rest e source
  fits : (produced (size,result)).length ≤ size
  noAbort : result≠.abort
  /-- Nothing is reported only when nothing is left. -/
  nonempty : result=.continue_ [] → e'.state=.done
  complete : result=.complete → e'.state=.done
  falls : result≠.complete → work e' source'<work e source

/-- What a turn of the loop must guarantee. -/
def TurnOk (size : ℕ) : Turn PartSource → Prop
  | .again e' source' => Advances e source size e' source'
  | .return_ result e' source' => Returns e source size result e' source'

end

end

theorem setState_of_allowed {newState : State}
    (h : (e.state,newState)∈transitions) : e.setState newState={e with state := newState} := by
  unfold setState
  split
  · rename_i heq
    subst heq
    rfl
  · rfl

variable {e' : Encoder} {source : PartSource} {size : ℕ}

/-- The text being sent is fixed by the members that sending does not touch. -/
theorem sending_of_sameConfig (h : SameConfig e e') : sending e'=sending e := by
  obtain ⟨hstate,hboundary,hheaders,hline,_⟩ := h
  simp only [sending,hstate,hboundary,hheaders,hline]

theorem wellFormed_of_sent {sent : Bool}
    (hsent : Sent e size text (e',sent)) (h : WellFormed e) (htext : sending e=some text) : WellFormed e' := by
  have hsame : sending e'=sending e := sending_of_sameConfig hsent.config
  refine ⟨hsent.config.2.2.2.2.trans h.allowed,?_,?_⟩
  · rw [hsent.config.1]
    exact h.running
  · intro text' htext'
    rw [hsame,htext,Option.some.injEq] at htext'
    rw [←htext']
    exact hsent.inside

theorem returns_full (hroom : e.buffer.length<size) (h : WellFormed e')
    (hboundary : e'.prefixedBoundary=e.prefixedBoundary) (hstate : e'.state=e.state)
    (hexact : e'.buffer++rest e' source=e.buffer++rest e source) (hfull : e'.buffer.length=size) :
    Returns e source size (.continue_ e'.buffer) e' source := by
  have hlen := congrArg List.length hexact
  simp only [length_append] at hlen
  refine ⟨h,hboundary,hexact,Nat.le_of_eq hfull,nofun,?_,nofun,fun _ => ?_⟩
  · intro hnil
    have hb : e'.buffer=[] := SendResult.continue_.inj hnil
    rw [hb] at hfull
    simp only [length_nil] at hfull
    omega
  · unfold work
    rw [hstate]
    omega

variable {tail : Bytes}

theorem returns_of_full (hsent : Sent e size text (e',false)) (hroom : e.buffer.length<size) (h : WellFormed e)
    (htext : sending e=some text) (hbefore : rest e source=text.drop e.stringIndex++tail)
    (hafter : rest e' source=text.drop e'.stringIndex++tail) :
    Returns e source size (.continue_ e'.buffer) e' source := by
  have hexact : e'.buffer++rest e' source=e.buffer++rest e source := by
    have hx := hsent.exact_
    rw [hbefore,hafter,←append_assoc,←append_assoc,hx]
  exact returns_full hroom (wellFormed_of_sent hsent h htext) hsent.config.2.1 hsent.config.1 hexact (hsent.full rfl)

/-- What comes behind is left, in a buffer with room. -/
theorem exact_of_sent {e e'' : Encoder} (hsent : Sent e size text (e',true)) (hbuffer : e''.buffer=e'.buffer)
    (hbefore : rest e source=text.drop e.stringIndex++tail) (hafter : rest e'' source=tail)
    (hrank : rank e''.state<rank e.state) :
    e''.buffer.length<size ∧ e''.buffer++rest e'' source=e.buffer++rest e source ∧ work e'' source<work e source := by
  obtain ⟨hroom,hend⟩ := hsent.finished rfl
  have hx := hsent.exact_
  rw [hend,drop_length,append_nil] at hx
  have hexact : e''.buffer++rest e'' source=e.buffer++rest e source := by
    rw [hbefore,hafter,hbuffer,←append_assoc,hx]
  have hlen := congrArg List.length hexact
  have hgrow := congrArg List.length hx
  simp only [length_append] at hlen hgrow
  rw [←hbuffer] at hgrow hroom
  refine ⟨hroom,hexact,?_⟩
  unfold work
  omega

theorem advances_of_sent {e e'' : Encoder}
    (hsent : Sent e size text (e',true)) (h : WellFormed e'') (hgoing : e''.state≠.done)
    (hbuffer : e''.buffer=e'.buffer) (hboundary : e''.prefixedBoundary=e.prefixedBoundary)
    (hbefore : rest e source=text.drop e.stringIndex++tail) (hafter : rest e'' source=tail)
    (hrank : rank e''.state<rank e.state) : Advances e source size e'' source := by
  obtain ⟨hroom,hexact,hfalls⟩ := exact_of_sent hsent hbuffer hbefore hafter hrank
  exact ⟨h,hboundary,hexact,hroom,hgoing,hfalls⟩

/-- A turn may be judged from a later point of the same state. -/
theorem TurnOk.of_later {turn : Turn PartSource}
    (hboundary : e'.prefixedBoundary=e.prefixedBoundary) (hstate : e'.state=e.state)
    (hexact : e'.buffer++rest e' source=e.buffer++rest e source)
    (hgrows : e.buffer.length≤e'.buffer.length) (h : TurnOk e' source size turn) : TurnOk e source size turn := by
  have hwork : work e' source≤work e source := by
    have hlen := congrArg List.length hexact
    simp only [length_append] at hlen
    unfold work
    rw [hstate]
    omega
  cases turn with
  | again =>
    exact ⟨h.wellFormed,h.boundary.trans hboundary,h.exact_.trans hexact,h.room,h.going,
      Nat.lt_of_lt_of_le h.falls hwork⟩
  | return_ =>
    exact ⟨h.wellFormed,h.boundary.trans hboundary,h.exact_.trans hexact,h.fits,h.noAbort,
      h.nonempty,h.complete,fun hc => Nat.lt_of_lt_of_le (h.falls hc) hwork⟩

section

/-- The fields that stay, as equations, for states without a text. -/
theorem wellFormed_of_no_text (hallowed : e.disallowed=false)
    (hrunning : e.state≠.abort) (hnone : sending e=none) : WellFormed e :=
  ⟨hallowed,hrunning,fun text h => by rw [hnone] at h; exact absurd h nofun⟩

theorem wellFormed_of_zero (hallowed : e.disallowed=false)
    (hrunning : e.state≠.abort) (hzero : e.stringIndex=0) : WellFormed e :=
  ⟨hallowed,hrunning,fun _ _ => by rw [hzero]; exact zero_le _⟩

theorem getMimePartHeaderLines_cases (source : PartSource) : (∃ more,source.answers=.pause::more ∧
      source.getMimePartHeaderLines=(.pause,{source with answers := more})) ∨
    (source.parts=[] ∧ source.getMimePartHeaderLines=(.complete,source)) ∨ (∃ part parts,source.parts=part::parts ∧
      source.getMimePartHeaderLines = (.continue_ part.headers,{source with parts := parts,data := part.data})) := by
  unfold PartSource.getMimePartHeaderLines
  split
  · rename_i more hanswers
    exact .inl ⟨more,hanswers,rfl⟩
  · split
    · rename_i hparts
      exact .inr (.inl ⟨hparts,rfl⟩)
    · rename_i part parts hparts
      exact .inr (.inr ⟨part,parts,hparts,rfl⟩)

theorem returns_of_pause {source' : PartSource} (hroom : e.buffer.length<size) (h : WellFormed e')
    (hboundary : e'.prefixedBoundary=e.prefixedBoundary) (hstate : e'.state=e.state)
    (hrest : rest e' source'=rest e source) (hparts : source'.parts=source.parts)
    (hanswers : source'.answers.length<source.answers.length) : Returns e source size e.pauseResult e' source' := by
  have hfalls : work e' source'<work e source := by
    unfold work
    rw [hrest,hparts,hstate]
    omega
  unfold pauseResult
  split
  · rename_i hsome
    refine ⟨h,hboundary,by rw [hrest]; rfl,Nat.le_of_lt hroom,nofun,?_,nofun,fun _ => hfalls⟩
    intro hnil
    rw [SendResult.continue_.inj hnil] at hsome
    exact absurd rfl hsome
  · rename_i hnone
    have hnil : e.buffer=[] := by
      cases hb : e.buffer with
      | nil => rfl
      | cons =>
        rw [hb] at hnone
        simp at hnone
    refine ⟨h,hboundary,?_,Nat.zero_le _,nofun,nofun,nofun,fun _ => hfalls⟩
    rw [hrest,hnil]
    rfl

theorem rest_at_headers {lines : List Bytes} (hs : e.state=.sendingPartHeaders)
    (hlines : e.headers.drop e.headerLine=lines) (hzero : e.stringIndex=0) :
    rest e source=headerBlock lines++crlf++partRest e source := by
  simp only [rest,hs,hlines,hzero,drop_zero]
  cases lines with
  | nil | cons => simp [headerBlock]

/-- It moves a prefix of what is owed, to the blank line with room or till it is full. -/
structure SentLines (e : Encoder) (source : PartSource) (size : ℕ) (result : Encoder × Bool) :
    Prop where
  state : result.1.state=.sendingPartHeaders
  boundary : result.1.prefixedBoundary=e.prefixedBoundary
  wellFormed : WellFormed result.1
  exact_ : result.1.buffer++rest result.1 source=e.buffer++rest e source
  grows : e.buffer.length≤result.1.buffer.length
  finished : result.2=true →
    result.1.buffer.length<size ∧ result.1.headers.drop result.1.headerLine=[]
  full : result.2=false → result.1.buffer.length=size

theorem sendHeaderLines_sent (lines : List Bytes) (h : WellFormed e)
    (hroom : e.buffer.length<size) (hs : e.state=.sendingPartHeaders) (hlines : e.headers.drop e.headerLine=lines) :
    SentLines e source size (sendHeaderLines size lines e) := by
  induction lines generalizing e with
  | nil => exact ⟨hs,rfl,h,rfl,Nat.le_refl _,fun _ => ⟨hroom,hlines⟩,nofun⟩
  | cons line lines ih =>
    have htext : sending e=some (line++crlf) := by simp only [sending,hs,hlines]
    have hsent := sendStringAndCRLF_sent hroom (h.inside _ htext)
    have hbefore : rest e source=(line++crlf).drop e.stringIndex ++ (headerBlock lines++crlf++partRest e source) := by
      simp only [rest,hs,hlines,append_assoc]
    unfold sendHeaderLines
    generalize hres : e.sendStringAndCRLF size line=result at hsent
    obtain ⟨e',sent⟩ := result
    obtain ⟨hstate,hboundary,hheaders,hline,hdis⟩ := hsent.config
    have hexact := hsent.exact_
    dsimp only at hstate hboundary hheaders hline hdis hexact
    rw [hs] at hstate
    cases sent with
    | true =>
      obtain ⟨hroom',hend⟩ := hsent.finished rfl
      rw [hend,drop_length,append_nil] at hexact
      dsimp only
      rw [if_pos rfl]
      have hnext : e'.headers.drop (e'.headerLine+1)=lines := by
        rw [hheaders,hline,←drop_drop,hlines]
        rfl
      have hstep := ih (e := {e' with headerLine := e'.headerLine+1,stringIndex := 0})
        (wellFormed_of_zero (hdis.trans h.allowed) (by rw [hstate]; nofun) rfl) hroom' hstate hnext
      have hafter : rest {e' with headerLine := e'.headerLine+1,stringIndex := 0} source =
          headerBlock lines++crlf++partRest e source := by
        rw [rest_at_headers (e := {e' with headerLine := e'.headerLine+1,stringIndex := 0}) hstate hnext rfl]
        simp only [partRest,hboundary]
      refine ⟨hstep.state,hstep.boundary.trans hboundary,hstep.wellFormed,?_,?_,hstep.finished,hstep.full⟩
      · rw [hstep.exact_,hafter,hbefore]
        rw [hexact,append_assoc]
      · have hgrow := congrArg List.length hexact
        have hgrow' := hstep.grows
        rw [length_append] at hgrow
        dsimp only at hgrow'
        omega
    | false =>
      dsimp only
      rw [if_neg Bool.false_ne_true]
      refine ⟨hstate,hboundary,wellFormed_of_sent hsent h htext,?_,?_,nofun,hsent.full⟩
      swap
      · have hfull := hsent.full rfl
        omega
      have hafter : rest e' source=(line++crlf).drop e'.stringIndex ++
          (headerBlock lines++crlf++partRest e source) := by
        simp only [rest,hstate,hheaders,hline,hlines,partRest,hboundary,append_assoc]
      rw [hafter,hbefore,←append_assoc,hexact,append_assoc]

section

variable (h : WellFormed e)
include h

section

variable (hroom : e.buffer.length<size)
include hroom

theorem turn_new (hs : e.state=.new) : TurnOk e source size (e.turn partSource source size) := by
  have hset : e.setState .getting1stPartHeaders={e with state := .getting1stPartHeaders} :=
    setState_of_allowed (by rw [hs]; decide)
  have hturn : e.turn partSource source size = .again {e with state := .getting1stPartHeaders} source := by
    unfold turn
    rw [hs,←hset]
  have hrest : rest {e with state := .getting1stPartHeaders} source=rest e source := by
    simp only [rest,hs]
  rw [hturn]
  refine ⟨wellFormed_of_no_text h.allowed nofun rfl,rfl,by rw [hrest],hroom,nofun,?_⟩
  unfold work
  rw [hrest,hs]
  simp only [rank]
  omega

theorem turn_getting1st (hs : e.state=.getting1stPartHeaders) :
    TurnOk e source size (e.turn partSource source size) := by
  unfold turn
  rw [hs]
  dsimp only [partSource]
  rcases getMimePartHeaderLines_cases source with
    ⟨more,hanswers,hcall⟩ | ⟨hparts,hcall⟩ | ⟨part,parts,hparts,hcall⟩
  · rw [hcall]
    refine returns_of_pause hroom (wellFormed_of_no_text h.allowed nofun rfl) rfl hs.symm ?_ rfl ?_
    · simp only [rest,hs]
    · rw [hanswers]
      exact Nat.lt_succ_self _
  · rw [hcall]
    rw [setState_of_allowed (by dsimp only; decide)]
    have hrest : rest e source=[] := by simp only [rest,hs,hparts,if_true]
    refine ⟨wellFormed_of_no_text h.allowed nofun rfl,rfl,?_,Nat.le_of_lt hroom,nofun,fun _ => rfl,nofun,fun _ => ?_⟩
    · rw [hrest]
      rfl
    · unfold work
      rw [hrest,hs]
      simp only [rest,rank]
      omega
  · rw [hcall]
    dsimp only
    rw [setState_of_allowed (by dsimp only; decide)]
    have hbefore : rest e source=e.prefixedBoundary++(crlf++headerBlock part.headers++crlf ++
        part.data++e.prefixedBoundary++afterDelimiter e.prefixedBoundary parts) := by
      simp only [rest,hs,hparts,reduceCtorEq,if_false,afterDelimiter]
    have hafter : rest {e with
        state := .sending1stBoundary,headers := part.headers,stringIndex := 0}
        {source with parts := parts,data := part.data}=rest e source := by
      rw [hbefore]
      simp only [rest,partRest,drop_zero,append_assoc]
    refine ⟨wellFormed_of_zero h.allowed nofun rfl,rfl,by rw [hafter],hroom,nofun,?_⟩
    unfold work
    rw [hafter,hs,hparts]
    simp only [rank,length_cons]
    omega

/-- What comes in front of the headers of a part is sent. -/
theorem turnOk_beforeHeaders (hnext : (e.state,State.sendingPartHeaders)∈transitions)
    (hrank : rank .sendingPartHeaders<rank e.state) (htext : sending e=some text)
    (hrest : ∀ e' : Encoder,SameConfig e e' →
      rest e' source=text.drop e'.stringIndex++(headerBlock e.headers++crlf++partRest e source))
    (result : Encoder × Bool) : Sent e size text result → TurnOk e source size (match result with
      | (e,true) => .again ({e with headerLine := 0,stringIndex := 0}.setState .sendingPartHeaders) source
      | (e,false) => .return_ (.continue_ e.buffer) e source) := by
  obtain ⟨e',sent⟩ := result
  intro hsent
  obtain ⟨hstate,hboundary,hheaders,-,hdis⟩ := hsent.config
  have hbefore := hrest e ⟨rfl,rfl,rfl,rfl,rfl⟩
  cases sent with
  | true =>
    dsimp only at hstate hboundary hheaders hdis ⊢
    rw [setState_of_allowed (by dsimp only; rw [hstate]; exact hnext)]
    refine advances_of_sent hsent (wellFormed_of_zero (hdis.trans h.allowed) nofun rfl) nofun rfl hboundary hbefore ?_ hrank
    rw [rest_at_headers rfl rfl rfl,hheaders]
    simp only [partRest,hboundary,drop_zero]
  | false => exact returns_of_full hsent hroom h htext hbefore (hrest e' hsent.config)

theorem turn_sending1st (hs : e.state=.sending1stBoundary) : TurnOk e source size (e.turn partSource source size) := by
  have htext : sending e=some (e.prefixedBoundary++crlf) := by simp only [sending,hs]
  unfold turn
  rw [hs]
  refine turnOk_beforeHeaders h hroom (by rw [hs]; decide) (by rw [hs]; decide) htext (fun e' hsame => ?_) _
    (sendStringAndCRLF_sent hroom (h.inside _ htext))
  obtain ⟨hstate,hboundary,hheaders,-,-⟩ := hsame
  simp only [rest,hstate,hs,partRest,hboundary,hheaders,append_assoc]

theorem turn_sendingPartHeaders (hs : e.state=.sendingPartHeaders) :
    TurnOk e source size (e.turn partSource source size) := by
  have hlines : SentLines e source size (sendHeaderLines size (e.headers.drop e.headerLine) e) :=
    sendHeaderLines_sent _ h hroom hs rfl
  unfold turn
  rw [hs]
  generalize sendHeaderLines size (e.headers.drop e.headerLine) e=result at hlines
  obtain ⟨e',sent⟩ := result
  have hstate := hlines.state
  dsimp only at hstate
  cases sent with
  | false =>
    exact returns_full hroom hlines.wellFormed hlines.boundary (hstate.trans hs.symm) hlines.exact_ (hlines.full rfl)
  | true =>
    refine TurnOk.of_later hlines.boundary (hstate.trans hs.symm) hlines.exact_ hlines.grows ?_
    obtain ⟨hroom',hblank⟩ := hlines.finished rfl
    dsimp only at hroom' hblank ⊢
    have htext : sending e'=some crlf := by simp only [sending,hstate,hblank]
    have hsent := sendString_sent hroom' (hlines.wellFormed.inside _ htext)
    have hbefore : rest e' source=crlf.drop e'.stringIndex++partRest e' source := by
      simp only [rest,hstate,hblank]
    generalize e'.sendString size crlf=result at hsent
    obtain ⟨e'',sent⟩ := result
    obtain ⟨hstate',hboundary,hheaders,hline,hdis⟩ := hsent.config
    dsimp only at hstate' hboundary hheaders hline hdis
    rw [hstate] at hstate'
    cases sent with
    | true =>
      dsimp only
      rw [setState_of_allowed (by rw [hstate']; decide)]
      refine advances_of_sent hsent
        (wellFormed_of_no_text (hdis.trans hlines.wellFormed.allowed) nofun rfl) nofun rfl hboundary
        hbefore ?_ (by rw [hstate]; simp only [rank]; omega)
      simp only [rest,partRest,hboundary]
    | false =>
      refine returns_of_full hsent hroom' hlines.wellFormed htext hbefore ?_
      simp only [rest,hstate',hheaders,hline,hblank,partRest,hboundary]

end

end

/-- A pause, a piece that fits, or the end of a part. -/
theorem onSendMimePartData_cases (source : PartSource) (room : ℕ) : (∃ more,source.answers=.pause::more ∧
      source.onSendMimePartData room=(.pause,{source with answers := more})) ∨
    (source.data=[] ∧ source.onSendMimePartData room=(.complete,source)) ∨ (∃ n more,n≤room ∧
      source.onSendMimePartData room = (.continue_ (source.data.take n),
          {source with data := source.data.drop n,answers := more}) ∧ (more.length<source.answers.length ∨
        more=source.answers ∧ n=room ∧ source.data≠[])) := by
  unfold PartSource.onSendMimePartData
  split
  · rename_i more hanswers
    exact .inl ⟨more,hanswers,rfl⟩
  · rename_i more hanswers
    refine .inr (.inr ⟨0,more,Nat.zero_le _,by simp,.inl ?_⟩)
    rw [hanswers]
    exact Nat.lt_succ_self _
  · rename_i n more hanswers
    split
    · rename_i hdata
      exact .inr (.inl ⟨hdata,rfl⟩)
    · refine .inr (.inr ⟨min (n+1) room,more,Nat.min_le_right _ _,rfl,.inl ?_⟩)
      rw [hanswers]
      exact Nat.lt_succ_self _
  · rename_i hanswers
    split
    · rename_i hdata
      exact .inr (.inl ⟨hdata,rfl⟩)
    · rename_i hdata
      refine .inr (.inr ⟨room,[],Nat.le_refl _,by rw [hanswers],.inr ⟨hanswers.symm,rfl,hdata⟩⟩)

section

variable (h : WellFormed e)
include h

section

variable (hroom : e.buffer.length<size)
include hroom

theorem turn_sendingPartData (hs : e.state=.sendingPartData) :
    TurnOk e source size (e.turn partSource source size) := by
  have hbefore : rest e source=partRest e source := by simp only [rest,hs]
  unfold turn
  rw [hs]
  dsimp only [partSource]
  rcases onSendMimePartData_cases source (size-e.buffer.length) with
    ⟨more,hanswers,hcall⟩ | ⟨hdata,hcall⟩ | ⟨n,more,hn,hcall,hprogress⟩
  · rw [hcall]
    refine returns_of_pause hroom h rfl rfl ?_ rfl ?_
    · simp only [rest,hs,partRest]
    · rw [hanswers]
      exact Nat.lt_succ_self _
  · rw [hcall]
    rw [setState_of_allowed (by dsimp only; decide)]
    have hafter : rest {e with state := .sendingEndBoundary,stringIndex := 0} source = rest e source := by
      rw [hbefore]
      simp only [rest,partRest,hdata,drop_zero,nil_append]
    refine ⟨wellFormed_of_zero h.allowed nofun rfl,rfl,by rw [hafter],hroom,nofun,?_⟩
    unfold work
    rw [hafter,hs]
    simp only [rank]
    omega
  · rw [hcall]
    dsimp only
    have hlen : (e.buffer++source.data.take n).length=e.buffer.length+min n source.data.length := by
      rw [length_append,length_take]
    have hwell : WellFormed {e with state := .sendingPartData,buffer := e.buffer++source.data.take n} :=
      wellFormed_of_no_text h.allowed nofun rfl
    have hexact : (e.buffer++source.data.take n) ++
        rest {e with state := .sendingPartData,buffer := e.buffer++source.data.take n}
          {source with data := source.data.drop n,answers := more} =
        e.buffer++rest e source := by
      rw [hbefore]
      simp only [rest,partRest,append_assoc]
      rw [←append_assoc (source.data.take n),take_append_drop]
    have hfalls : work {e with state := .sendingPartData,buffer := e.buffer++source.data.take n}
        {source with data := source.data.drop n,answers := more}<work e source := by
      have hsum := congrArg List.length hexact
      simp only [length_append,length_take] at hsum
      unfold work
      rw [hs]
      rcases hprogress with hfewer|⟨hsame,hn',hdata⟩
      · dsimp only
        omega
      · have hpos : 0<source.data.length := length_pos_iff.mpr hdata
        have hmore : more.length=source.answers.length := by rw [hsame]
        dsimp only
        omega
    split
    · rename_i hfull
      refine ⟨hwell,rfl,hexact,Nat.le_of_eq hfull,nofun,fun hnil => ?_,nofun,fun _ => hfalls⟩
      have hb : e.buffer++source.data.take n=[] := SendResult.continue_.inj hnil
      rw [hb] at hfull
      simp only [length_nil] at hfull
      omega
    · rename_i hnotfull
      rw [if_neg (by rw [hlen]; omega)]
      exact ⟨hwell,rfl,hexact,by dsimp only; rw [hlen] at hnotfull ⊢; omega,nofun,hfalls⟩

theorem turn_sendingEndBoundary (hs : e.state=.sendingEndBoundary) :
    TurnOk e source size (e.turn partSource source size) := by
  have htext : sending e=some e.prefixedBoundary := by simp only [sending,hs]
  have hsent := sendString_sent hroom (h.inside _ htext)
  have hbefore : rest e source=e.prefixedBoundary.drop e.stringIndex ++
      afterDelimiter e.prefixedBoundary source.parts := by
    simp only [rest,hs]
  unfold turn
  rw [hs]
  generalize e.sendString size e.prefixedBoundary=result at hsent
  obtain ⟨e',sent⟩ := result
  obtain ⟨hstate,hboundary,_,_,hdis⟩ := hsent.config
  dsimp only at hstate hboundary hdis
  rw [hs] at hstate
  cases sent with
  | true =>
    dsimp only
    rw [setState_of_allowed (by rw [hstate]; decide)]
    refine advances_of_sent hsent (wellFormed_of_no_text (hdis.trans h.allowed) nofun rfl) nofun rfl
      hboundary hbefore ?_ (by rw [hs]; simp only [rank]; omega)
    simp only [rest,hboundary]
  | false =>
    refine returns_of_full hsent hroom h htext hbefore ?_
    simp only [rest,hstate,hboundary]

theorem turn_gettingNth (hs : e.state=.gettingNthPartHeaders) :
    TurnOk e source size (e.turn partSource source size) := by
  have hbefore : rest e source=afterDelimiter e.prefixedBoundary source.parts := by
    simp only [rest,hs]
  unfold turn
  rw [hs]
  dsimp only [partSource]
  rcases getMimePartHeaderLines_cases source with
    ⟨more,hanswers,hcall⟩ | ⟨hparts,hcall⟩ | ⟨part,parts,hparts,hcall⟩
  · rw [hcall]
    refine returns_of_pause hroom (wellFormed_of_no_text h.allowed nofun rfl) rfl hs.symm ?_ rfl ?_
    · simp only [rest,hs]
    · rw [hanswers]
      exact lt_succ_self _
  · rw [hcall]
    rw [setState_of_allowed (by dsimp only; decide)]
    have hafter : rest {e with
        state := .sendingTerminatingDashes,headers := [],stringIndex := 0} source =
        rest e source := by
      rw [hbefore,hparts]
      simp only [rest,afterDelimiter,drop_zero]
    refine ⟨wellFormed_of_zero h.allowed nofun rfl,rfl,by rw [hafter],hroom,nofun,?_⟩
    unfold work
    rw [hafter,hs]
    simp only [rank]
    omega
  · rw [hcall]
    dsimp only
    rw [setState_of_allowed (by dsimp only; decide)]
    have hafter : rest {e with
        state := .sendingCrlfAfterBoundary,headers := part.headers,stringIndex := 0}
        {source with parts := parts,data := part.data}=rest e source := by
      rw [hbefore,hparts]
      simp only [rest,partRest,afterDelimiter,drop_zero,append_assoc]
    refine ⟨wellFormed_of_zero h.allowed nofun rfl,rfl,by rw [hafter],hroom,nofun,?_⟩
    unfold work
    rw [hafter,hs,hparts]
    simp only [rank,length_cons]
    omega

theorem turn_sendingCrlf (hs : e.state=.sendingCrlfAfterBoundary) :
    TurnOk e source size (e.turn partSource source size) := by
  have htext : sending e=some crlf := by simp only [sending,hs]
  unfold turn
  rw [hs]
  refine turnOk_beforeHeaders h hroom (by rw [hs]; decide) (by rw [hs]; decide) htext (fun e' hsame => ?_) _
    (sendString_sent hroom (h.inside _ htext))
  obtain ⟨hstate,hboundary,hheaders,-,-⟩ := hsame
  simp only [rest,hstate,hs,partRest,hboundary,hheaders,append_assoc]

theorem turn_terminatingDashes (hs : e.state=.sendingTerminatingDashes) :
    TurnOk e source size (e.turn partSource source size) := by
  have htext : sending e=some (twoDashes++crlf) := by simp only [sending,hs]
  have hsent := sendStringAndCRLF_sent hroom (h.inside _ htext)
  have hbefore : rest e source=(twoDashes++crlf).drop e.stringIndex++[] := by
    simp only [rest,hs,append_nil]
  unfold turn
  rw [hs]
  generalize e.sendStringAndCRLF size twoDashes=result at hsent
  obtain ⟨e',sent⟩ := result
  obtain ⟨hstate,hboundary,_,_,hdis⟩ := hsent.config
  dsimp only at hstate hboundary hdis
  rw [hs] at hstate
  cases sent with
  | true =>
    dsimp only
    rw [setState_of_allowed (by rw [hstate]; decide)]
    have hrank : rank State.done<rank e.state := by
      rw [hs]
      decide
    have hbuffer : ({e' with state := .done} : Encoder).buffer=e'.buffer := rfl
    obtain ⟨hroom',hexact,hfalls⟩ := exact_of_sent hsent hbuffer hbefore rfl hrank
    exact ⟨wellFormed_of_no_text (hdis.trans h.allowed) nofun rfl,hboundary,hexact,
      Nat.le_of_lt hroom',nofun,fun _ => rfl,nofun,fun _ => hfalls⟩
  | false =>
    refine returns_of_full hsent hroom h htext hbefore ?_
    simp only [rest,hstate,append_nil]

end

theorem turn_done (hs : e.state=.done) (hempty : e.buffer=[]) :
    TurnOk e source size (e.turn partSource source size) := by
  unfold turn
  rw [hs]
  refine ⟨h,rfl,?_,zero_le _,nofun,nofun,fun _ => hs,fun hc => absurd rfl hc⟩
  rw [hempty]
  rfl

theorem turn_ok (hroom : e.buffer.length<size) (hdone : e.state=.done → e.buffer=[]) :
    TurnOk e source size (e.turn partSource source size) := by
  cases hs : e.state with
  | new => exact turn_new h hroom hs
  | getting1stPartHeaders => exact turn_getting1st h hroom hs
  | sending1stBoundary => exact turn_sending1st h hroom hs
  | sendingPartHeaders => exact turn_sendingPartHeaders h hroom hs
  | sendingPartData => exact turn_sendingPartData h hroom hs
  | sendingEndBoundary => exact turn_sendingEndBoundary h hroom hs
  | gettingNthPartHeaders => exact turn_gettingNth h hroom hs
  | sendingCrlfAfterBoundary => exact turn_sendingCrlf h hroom hs
  | sendingTerminatingDashes => exact turn_terminatingDashes h hroom hs
  | done => exact turn_done h hs (hdone hs)
  | abort => exact absurd hs h.running

end

end

theorem loop_returns (fuel : ℕ) {source' : PartSource}
    {result : SendResult} (h : WellFormed e) (hroom : e.buffer.length<size) (hdone : e.state=.done → e.buffer=[])
    (hrun : loop partSource size fuel e source=some (result,e',source')) :
    Returns e source size result e' source' := by
  induction fuel generalizing e source with
  | zero => exact absurd hrun nofun
  | succ fuel ih =>
    have hturn : TurnOk e source size (e.turn partSource source size) := turn_ok h hroom hdone
    unfold loop at hrun
    generalize e.turn partSource source size=turn at hturn hrun
    cases turn with
    | again =>
      have hnext := ih hturn.wellFormed hturn.room (fun hd => absurd hd hturn.going) hrun
      exact ⟨hnext.wellFormed,hnext.boundary.trans hturn.boundary,
        hnext.exact_.trans hturn.exact_,hnext.fits,hnext.noAbort,hnext.nonempty,hnext.complete,
        fun hc => Nat.lt_trans (hnext.falls hc) hturn.falls⟩
    | return_ result₁ e₁ source₁ =>
      obtain ⟨rfl,rfl,rfl⟩ : result₁=result ∧ e₁=e' ∧ source₁=source' := by
        simpa only [Option.some.injEq,Prod.mk.injEq] using hrun
      exact hturn

theorem loop_terminates (fuel : ℕ)
    (h : WellFormed e) (hroom : e.buffer.length<size) (hdone : e.state=.done → e.buffer=[])
    (hfuel : work e source<fuel) : (loop partSource size fuel e source).isSome := by
  induction fuel generalizing e source with
  | zero => exact absurd hfuel (not_lt_zero _)
  | succ fuel ih =>
    have hturn : TurnOk e source size (e.turn partSource source size) := turn_ok h hroom hdone
    unfold loop
    generalize e.turn partSource source size=turn at hturn
    cases turn with
    | again =>
      have hfalls := hturn.falls
      exact ih hturn.wellFormed hturn.room (fun hd => absurd hd hturn.going) (by omega)
    | return_ => rfl

variable {s : Encoder × PartSource} {t : Encoder × PartSource} {call : ℕ × SendResult}

theorem call_returns (h : WellFormed s.1)
    (hcall : Call partSource s call t) : Returns {s.1 with buffer := []} s.2 call.1 call.2 t.1 t.2 := by
  obtain ⟨hsize,fuel,hrun⟩ := hcall
  exact loop_returns fuel ⟨h.allowed,h.running,h.inside⟩ hsize (fun _ => rfl) hrun

theorem call_exists (h : WellFormed s.1) (hsize : 1 ≤ size) : ∃ result t,Call partSource s (size,result) t := by
  have hsome : (loop partSource size (work s.1 s.2+1) {s.1 with buffer := []} s.2).isSome :=
    loop_terminates _ ⟨h.allowed,h.running,h.inside⟩ hsize (fun _ => rfl) (lt_succ_self _)
  obtain ⟨⟨result,t⟩,hresult⟩ := Option.isSome_iff_exists.mp hsome
  exact ⟨result,t,hsize,_,hresult⟩

theorem call_of_done (hs : s.1.state=.done)
    (hcall : Call partSource s call t) : call.2=.complete ∧ t.1.state=.done := by
  obtain ⟨_,fuel,hrun⟩ := hcall
  cases fuel with
  | zero => exact absurd hrun nofun
  | succ =>
    have hturn : turn partSource {s.1 with buffer := []} s.2 call.1 =
        .return_ .complete {s.1 with buffer := []} s.2 := by
      simp only [turn,hs]
    unfold onSendData loop at hrun
    rw [hturn] at hrun
    simp only [Option.some.injEq,Prod.mk.injEq] at hrun
    exact ⟨hrun.1.symm,by rw [←hrun.2.1]; exact hs⟩

/-- What holds after every run of calls. -/
structure Produced (boundary : Bytes) (parts : List Part) (answers : List Answer)
    (calls : List (ℕ × SendResult)) (s : Encoder × PartSource) : Prop where
  wellFormed : WellFormed s.1
  /-- The bytes produced and the bytes owed make up the body. -/
  exact_ : producedBytes calls++rest s.1 s.2=encode boundary parts
  /-- No call reports more than its buffer holds, and none gives up. -/
  fits : ∀ call∈calls,(produced call).length≤call.1 ∧ call.2≠.abort
  /-- Each call before the end takes some of the work. -/
  progress : s.1.state=.done ∨ calls.length+work s.1 s.2 ≤
    (encode boundary parts).length+answers.length+8*parts.length+8

/-- The encoder as constructed owes the whole body. -/
theorem rest_start (boundary : Bytes) (parts : List Part) (answers : List Answer) :
    rest (start boundary parts answers).1 (start boundary parts answers).2 =
      encode boundary parts := rfl

theorem run_produced {boundary : Bytes} {parts : List Part} {answers : List Answer} {calls : List (ℕ × SendResult)}
    (hrun : Run (Call partSource) (start boundary parts answers) calls s) :
    Produced boundary parts answers calls s := by
  refine Run.induct (Produced boundary parts answers) hrun ?_ ?_
  · refine ⟨wellFormed_of_no_text rfl nofun rfl,rest_start boundary parts answers,nofun,.inr ?_⟩
    unfold work
    rw [rest_start]
    simp only [start,init,rank,length_nil]
    omega
  · intro past s call t h hcall
    have hreturns := call_returns h.wellFormed hcall
    refine ⟨hreturns.wellFormed,?_,?_,?_⟩
    · have hpast : producedBytes (past++[call])=producedBytes past++produced call := by
        simp [producedBytes]
      have hexact : produced call++rest t.1 t.2=rest s.1 s.2 := hreturns.exact_
      rw [hpast,append_assoc,hexact]
      exact h.exact_
    · intro c hc
      rcases mem_append.mp hc with hold|hnew
      · exact h.fits c hold
      · rw [mem_singleton.mp hnew]
        exact ⟨hreturns.fits,hreturns.noAbort⟩
    · by_cases hcomplete : call.2=.complete
      · exact .inl (hreturns.complete hcomplete)
      · rcases h.progress with hdone|hbound
        · exact absurd (call_of_done hdone hcall).1 hcomplete
        · have hfalls : work t.1 t.2<work s.1 s.2 := hreturns.falls hcomplete
          rw [length_append,length_singleton]
          exact .inr (by omega)

/-- After any run of calls a prefix of the body has been produced, the next call returns and fits its buffer, an
empty buffer or completion is reported only behind the whole body, no transition outside the table is tried, and
a long enough run produces the body. -/
theorem output_independent_of_buffering (boundary : Bytes) (parts : List Part)
    (answers : List Answer) (calls : List (ℕ × SendResult)) (s : Encoder × PartSource)
    (hrun : Run (Call partSource) (start boundary parts answers) calls s) :
    producedBytes calls <+: encode boundary parts ∧
    s.1.disallowed=false ∧ (∀ call∈calls,(produced call).length≤call.1 ∧ call.2≠.abort) ∧
    (∀ size,1 ≤ size → ∃ result t,Call partSource s (size,result) t) ∧
    (∀ call t,Call partSource s call t → call.2=.continue_ [] ∨ call.2=.complete →
      producedBytes calls=encode boundary parts) ∧
    ((encode boundary parts).length+answers.length+8*parts.length+8<calls.length →
      producedBytes calls=encode boundary parts) := by
  have h : Produced boundary parts answers calls s := run_produced hrun
  have hdone : s.1.state=.done → producedBytes calls=encode boundary parts := by
    intro hs
    have hexact := h.exact_
    have hnil : rest s.1 s.2=[] := by simp only [rest,hs]
    rwa [hnil,append_nil] at hexact
  refine ⟨⟨_,h.exact_⟩,h.wellFormed.allowed,h.fits,fun size => call_exists h.wellFormed,?_,?_⟩
  · intro call t hcall hend
    have hreturns := call_returns h.wellFormed hcall
    have hstate : t.1.state=.done := hend.elim hreturns.nonempty hreturns.complete
    have hnone : produced call=[] := by
      rcases hend with hnil|hcomplete
      · obtain ⟨size,result⟩ := call
        rw [show result=.continue_ [] from hnil]
        rfl
      · obtain ⟨size,result⟩ := call
        rw [show result=.complete from hcomplete]
        rfl
    have hexact : produced call++rest t.1 t.2=rest s.1 s.2 := hreturns.exact_
    have hnil : rest t.1 t.2=[] := by simp only [rest,hstate]
    have hall := h.exact_
    rw [←hexact,hnone,hnil,append_nil,append_nil] at hall
    exact hall
  · intro hlong
    rcases h.progress with hs|hbound
    · exact hdone hs
    · omega

/-- Two bytes and one header line, up to a pause behind the first. -/
theorem output_independent_of_buffering_one_part :
    producedBytes [(64,.continue_ ([13,10,45,45,66,13,10]++[78,58,118,13,10] ++
      [13,10]++[120]))] <+: encode [66] [⟨[[78,58,118]],[120,121]⟩] :=
  (output_independent_of_buffering [66] [⟨[[78,58,118]],[120,121]⟩] [.give 1,.pause] _ (_,_)
    (Run.single ⟨by decide,8,rfl⟩)).1

end AlexaClientSDK.MimeEncoder
