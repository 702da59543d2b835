import AlexaClientSDK.MimeResponseSink

/-!
# What becomes of a part

The headers of a part say whether it is a directive, an attachment, or neither. The sink does what they say, but for a
part without a content type: it takes the one that is left from a part before, which only the end of an attachment
clears.
-/

namespace AlexaClientSDK.MimeDispatch

open Option List LabelledRuns MimeResponseSink Sink
open MimeEncoder (Bytes)
open MultipartParser (Headers)

variable {attachmentContextId : Bytes} {s t : Response} {part : Part}

inductive Kind
  | directive
  | attachment (attachmentId : Bytes)
  /-- Something else, by its content type. -/
  | other
  /-- It has no content type. -/
  | unknown
deriving DecidableEq

section

variable (attachmentContextId)

def kindOf (headers : Headers) : Kind :=
  (find headers MIME_CONTENT_TYPE_FIELD_NAME).elim .unknown fun contentType =>
    if MIME_JSON_CONTENT_TYPE <:+: contentType then .directive
    else if MIME_OCTET_STREAM_CONTENT_TYPE <:+: contentType ∧ count headers MIME_CONTENT_ID_FIELD_NAME=1 then
      .attachment (generateAttachmentId attachmentContextId
        (sanitizeContentId ((find headers MIME_CONTENT_ID_FIELD_NAME).getD [])))
    else .other

def message (part : Part) : Option Bytes :=
  if kindOf attachmentContextId part.headers=.directive ∧ part.body≠[] then some part.body else none

/-- What belongs into an attachment: every chunk of the part, for the attachment that its own headers name. -/
def attached (part : Part) : List (Bytes × Bytes) :=
  match kindOf attachmentContextId part.headers with
  | .attachment attachmentId => part.chunks.map fun chunk => (attachmentId,chunk)
  | .directive | .other | .unknown => []

/-- Of the data with which an attachment has made the sink refuse to go on, at most the beginning is written. -/
def Truncated (attachmentContextId : Bytes) (s : Response) (rest : List (Bytes × Bytes)) : Prop :=
  rest=[] ∨ ∃ part attachmentId bytes numWritten,s.current=some part ∧
    kindOf attachmentContextId part.headers=.attachment attachmentId ∧ s.refused=some bytes ∧
    rest=[(attachmentId,bytes.take numWritten)]

/-- What the consumer and the attachments have got is what the parts say by their own headers. -/
structure Faithful (attachmentContextId : Bytes) (s : Response) : Prop where
  /-- The consumer has got the bodies of the directives, in order, each once. -/
  consumed : s.consumed=s.parts.filterMap (message attachmentContextId)
  /-- The attachments have got the bodies of their parts, and of what was refused at most the beginning. -/
  written : ∃ rest,s.written=(s.parts++s.current.toList).flatMap (attached attachmentContextId)++rest ∧
    Truncated attachmentContextId s rest
  /-- Only an attachment makes the sink refuse to go on. -/
  aborted : s.aborted=true → ∃ part attachmentId,s.current=some part ∧
    kindOf attachmentContextId part.headers=.attachment attachmentId

/-- Without a content type no body for a directive, no data otherwise. -/
def Allowed (s : Response) : Event → Prop
  | .begin _ _ => True
  | .data _ _ _ => ∀ part∈s.current,kindOf attachmentContextId part.headers=.unknown → s.sink.contentType≠.ATTACHMENT
  | .finish => ∀ part∈s.current,kindOf attachmentContextId part.headers=.unknown → s.sink.contentType=.JSON →
      part.body=[]

def Held (sink : Sink) (aborted : Bool) (part : Part) : Kind → Prop
  | .directive => sink.contentType=.JSON ∧ sink.directiveBeingReceived=part.body ∧ sink.attachmentWriter=none
  | .attachment attachmentId =>
    sink.directiveBeingReceived=[] ∧ (sink.attachmentWriter=none ∧ part.chunks=[] ∨
      sink.attachmentWriter=some attachmentId) ∧ (aborted=false → sink.contentType=.ATTACHMENT)
  | .other => sink.contentType=.NONE ∧ sink.directiveBeingReceived=[] ∧ sink.attachmentWriter=none
  | .unknown => sink.attachmentWriter=none ∧
      sink.directiveBeingReceived=if sink.contentType=.JSON then part.body else []

/-- What holds in every run in which only what is allowed happens. -/
structure Inv (attachmentContextId : Bytes) (s : Response) : Prop where
  faithful : Faithful attachmentContextId s
  id : s.sink.attachmentIdBeingReceived=[]
  between : s.current=none → s.sink.directiveBeingReceived=[] ∧ s.sink.attachmentWriter=none
  /-- A sink that goes on has refused nothing. -/
  unrefused : s.aborted=false → s.refused=none
  held : ∀ part,s.current=some part → Held s.sink s.aborted part (kindOf attachmentContextId part.headers)

/-- Nothing was received, and nothing passed on. -/
theorem inv_create (contentType : ContentType) : Inv attachmentContextId (create contentType) where
  faithful := ⟨rfl,⟨[],rfl,.inl rfl⟩,nofun⟩
  id := rfl
  between _ := ⟨rfl,rfl⟩
  unrefused _ := rfl
  held _ hsome := by cases hsome

end

/-- As long as the sink goes on, all that was accepted and nothing else is written. -/
theorem Inv.written (h : Inv attachmentContextId s) (hgoing : s.aborted=false) :
    s.written=(s.parts++s.current.toList).flatMap (attached attachmentContextId) := by
  obtain ⟨rest,hwritten,rfl|⟨_,_,_,_,_,_,hrefused,_⟩⟩ := h.faithful.written
  · rw [hwritten,append_nil]
  · cases (h.unrefused hgoing).symm.trans hrefused

variable {sink : Sink}

theorem onBeginMimePart_held (attachmentContextId : Bytes) (headers : Headers) (created : Bool)
    (hid : sink.attachmentIdBeingReceived=[]) (hdirective : sink.directiveBeingReceived=[])
    (hwriter : sink.attachmentWriter=none) :
    (sink.onBeginMimePart attachmentContextId headers created).2.attachmentIdBeingReceived=[] ∧
      Held (sink.onBeginMimePart attachmentContextId headers created).2
        (!(sink.onBeginMimePart attachmentContextId headers created).1) ⟨headers,[]⟩ (kindOf attachmentContextId headers) ∧
      ((sink.onBeginMimePart attachmentContextId headers created).1=false →
        ∃ attachmentId,kindOf attachmentContextId headers=.attachment attachmentId) := by
  unfold onBeginMimePart kindOf
  obtain hnone|⟨contentType,hsome⟩ := eq_none_or_eq_some (find headers MIME_CONTENT_TYPE_FIELD_NAME)
  · rw [hnone]
    refine ⟨hid,⟨hwriter,?_⟩,nofun⟩
    change sink.directiveBeingReceived=if sink.contentType=.JSON then [] else []
    rw [hdirective,ite_self]
  · rw [hsome]
    dsimp only [elim_some]
    by_cases hjson : MIME_JSON_CONTENT_TYPE <:+: contentType
    · rw [if_pos hjson,if_pos hjson]
      exact ⟨hid,⟨rfl,hdirective,hwriter⟩,nofun⟩
    · rw [if_neg hjson,if_neg hjson]
      by_cases hattachment : MIME_OCTET_STREAM_CONTENT_TYPE <:+: contentType ∧ count headers MIME_CONTENT_ID_FIELD_NAME=1
      · rw [if_pos hattachment,if_pos hattachment]
        split
        · cases created with
          | true => exact ⟨hid,⟨hdirective,.inr rfl,fun _ => rfl⟩,nofun⟩
          | false => exact ⟨hid,⟨hdirective,.inl ⟨hwriter,rfl⟩,nofun⟩,fun _ => ⟨_,rfl⟩⟩
        · exact ⟨hid,⟨hdirective,.inl ⟨hwriter,rfl⟩,fun _ => rfl⟩,nofun⟩
      · rw [if_neg hattachment,if_neg hattachment]
        exact ⟨hid,⟨rfl,hdirective,hwriter⟩,nofun⟩

theorem attached_nil (attachmentContextId : Bytes) (headers : Headers) : attached attachmentContextId ⟨headers,[]⟩=[] := by
  unfold attached
  cases kindOf attachmentContextId headers <;> rfl

/-- A part begins where none is being received, and is held by its own headers. -/
theorem inv_begin (h : Inv attachmentContextId s) (headers : Headers) (created : Bool)
    (hpossible : Possible s (.begin headers created)) :
    Inv attachmentContextId (s.next attachmentContextId (.begin headers created)) := by
  obtain ⟨hgoing,hcurrent⟩ := hpossible
  obtain ⟨hdirective,hwriter⟩ := h.between hcurrent
  obtain ⟨hid,hheld,hrefused⟩ := onBeginMimePart_held attachmentContextId headers created h.id hdirective hwriter
  refine ⟨⟨h.faithful.consumed,⟨[],?_,.inl rfl⟩,fun haborted => ?_⟩,hid,fun hnone => (by cases hnone),
    fun _ => h.unrefused hgoing,fun part hsome => ?_⟩
  · have hwritten := h.written hgoing
    rw [hcurrent,toList_none,append_nil] at hwritten
    change s.written=(s.parts++[MimeResponseSink.Part.mk headers []]).flatMap (attached attachmentContextId)++[]
    rw [flatMap_append,flatMap_singleton,attached_nil,append_nil,append_nil]
    exact hwritten
  · obtain ⟨attachmentId,hkind⟩ := hrefused (Bool.not_eq_true' _ |>.mp haborted)
    exact ⟨⟨headers,[]⟩,attachmentId,rfl,hkind⟩
  · obtain rfl := some.inj hsome
    exact hheld

variable {bytes : Bytes} {writeStatus : WriteStatus} {numWritten : ℕ}

theorem writes_nil (hcontentType : sink.contentType≠.ATTACHMENT ∨ sink.attachmentWriter=none) :
    sink.writes bytes writeStatus numWritten=[] := by
  unfold writes
  split
  next hwrites =>
    rcases hcontentType with hne|hnone
    · exact (hne hwrites.1).elim
    · rw [hnone]
      rfl
  · rfl

/-- The writer of an attachment gets what is accepted, and the beginning of what it does not write to the end. -/
theorem writes_attachment {attachmentId : Bytes} (bytes : Bytes) (writeStatus : WriteStatus) (numWritten : ℕ)
    (hcontentType : sink.contentType=.ATTACHMENT) (hwriter : sink.attachmentWriter=some attachmentId) :
    ∃ rest,sink.writes bytes writeStatus numWritten =
        ((accepted (sink.writeToAttachment bytes writeStatus numWritten) bytes).map fun chunk => (attachmentId,chunk))++rest ∧
      (rest=[] ∨ sink.writeToAttachment bytes writeStatus numWritten=.abort ∧
        rest=[(attachmentId,bytes.take numWritten)]) := by
  have hsome : ¬sink.attachmentWriter=none := by
    rw [hwriter]
    exact some_ne_none _
  unfold writes writeToAttachment accepted
  rw [if_neg hsome,hcontentType,hwriter]
  cases writeStatus with
  | OK =>
    by_cases hall : numWritten=bytes.length
    · rw [hall]
      exact ⟨[],by simp,.inl rfl⟩
    · exact ⟨[(attachmentId,bytes.take numWritten)],by simp [hall],.inr ⟨if_pos hall,rfl⟩⟩
  | OK_BUFFER_FULL => exact ⟨[],rfl,.inl rfl⟩
  | CLOSED | ERROR_BYTES_LESS_THAN_WORD_SIZE | ERROR_INTERNAL | TIMEDOUT => exact ⟨[],rfl,.inl rfl⟩

theorem attached_append (attachmentContextId : Bytes) (part : Part) (chunks : List Bytes) :
    attached attachmentContextId {part with chunks := part.chunks++chunks} =
      attached attachmentContextId part++attached attachmentContextId {part with chunks := chunks} := by
  unfold attached
  cases kindOf attachmentContextId part.headers with
  | attachment => exact map_append
  | directive => rfl
  | other => rfl
  | unknown => rfl

theorem attached_eq_nil (hkind : ∀ attachmentId,kindOf attachmentContextId part.headers≠.attachment attachmentId) :
    attached attachmentContextId part=[] := by
  unfold attached
  cases hof : kindOf attachmentContextId part.headers with
  | attachment attachmentId => exact (hkind attachmentId hof).elim
  | directive => rfl
  | other => rfl
  | unknown => rfl

theorem body_append (part : Part) (bytes : Bytes) :
    Part.body {part with chunks := part.chunks++[bytes]}=part.body++bytes := by
  unfold Part.body
  rw [flatten_append,flatten_singleton]

theorem onReceiveMimeData_id (sink : Sink) (bytes : Bytes) (writeStatus : WriteStatus) (numWritten : ℕ) :
    (sink.onReceiveMimeData bytes writeStatus numWritten).2.attachmentIdBeingReceived=sink.attachmentIdBeingReceived := by
  unfold onReceiveMimeData
  cases sink.contentType <;> rfl

/-- When the sink refuses to go on it takes the part for an attachment. -/
theorem onReceiveMimeData_abort
    (habort : (sink.onReceiveMimeData bytes writeStatus numWritten).1=.abort) : sink.contentType=.ATTACHMENT := by
  cases hcontentType : sink.contentType with
  | ATTACHMENT => rfl
  | JSON =>
    rw [onReceiveMimeData_json hcontentType] at habort
    cases habort
  | NONE =>
    rw [onReceiveMimeData_none hcontentType] at habort
    cases habort

section

variable (hheld : Held s.sink s.aborted part (kindOf attachmentContextId part.headers))
include hheld

/-- What is written of some data is what the part gets into its attachment, but for a beginning of refused data. -/
theorem writes_eq (hgoing : s.aborted=false) (bytes : Bytes) (writeStatus : WriteStatus) (numWritten : ℕ) :
    ∃ rest,s.sink.writes bytes writeStatus numWritten = attached attachmentContextId
          {part with chunks := accepted (s.sink.onReceiveMimeData bytes writeStatus numWritten).1 bytes}++rest ∧
      (rest=[] ∨ ∃ attachmentId,kindOf attachmentContextId part.headers=.attachment attachmentId ∧
        (s.sink.onReceiveMimeData bytes writeStatus numWritten).1=.abort ∧
        rest=[(attachmentId,bytes.take numWritten)]) := by
  cases hkind : kindOf attachmentContextId part.headers with
  | attachment attachmentId =>
    rw [hkind] at hheld
    obtain ⟨-,hwriter,hcontentType⟩ := hheld
    rw [onReceiveMimeData_attachment (hcontentType hgoing)]
    unfold attached
    rw [hkind]
    rcases hwriter with ⟨hnone,-⟩|hsome
    · -- Without a writer the data is refused, and nothing is written.
      rw [writes_nil (.inr hnone),show s.sink.writeToAttachment bytes writeStatus numWritten=.abort from if_pos hnone]
      exact ⟨[],rfl,.inl rfl⟩
    · obtain ⟨rest,hwrites,hrest⟩ :=
        writes_attachment bytes writeStatus numWritten (hcontentType hgoing) hsome
      exact ⟨rest,hwrites,hrest.imp_right fun h => ⟨attachmentId,rfl,h⟩⟩
  | directive | other =>
    rw [hkind] at hheld
    rw [attached_eq_nil fun attachmentId heq => by cases hkind.symm.trans heq]
    rw [writes_nil (.inr hheld.2.2)]
    exact ⟨[],rfl,.inl rfl⟩
  | unknown =>
    rw [hkind] at hheld
    rw [attached_eq_nil fun attachmentId heq => by cases hkind.symm.trans heq]
    rw [writes_nil (.inr hheld.1)]
    exact ⟨[],rfl,.inl rfl⟩

/-- The sink holds the part with what it has accepted of it. -/
theorem onReceiveMimeData_held (hgoing : s.aborted=false) (bytes : Bytes) (writeStatus : WriteStatus) (numWritten : ℕ) :
    Held (s.sink.onReceiveMimeData bytes writeStatus numWritten).2
      ((s.sink.onReceiveMimeData bytes writeStatus numWritten).1 == .abort)
      {part with chunks := part.chunks++accepted (s.sink.onReceiveMimeData bytes writeStatus numWritten).1 bytes}
      (kindOf attachmentContextId part.headers) := by
  cases hkind : kindOf attachmentContextId part.headers with
  | attachment =>
    rw [hkind] at hheld
    obtain ⟨hdirective,hwriter,hcontentType⟩ := hheld
    have hattachment := hcontentType hgoing
    rw [onReceiveMimeData_attachment hattachment]
    refine ⟨hdirective,?_,fun _ => hattachment⟩
    rcases hwriter with ⟨hnone,hempty⟩|hsome
    · have habort : s.sink.writeToAttachment bytes writeStatus numWritten=.abort := if_pos hnone
      rw [habort,hempty]
      exact .inl ⟨hnone,rfl⟩
    · exact .inr hsome
  | directive =>
    rw [hkind] at hheld
    obtain ⟨hjson,hdirective,hwriter⟩ := hheld
    rw [onReceiveMimeData_json hjson]
    refine ⟨hjson,?_,hwriter⟩
    exact (congrArg (· ++ bytes) hdirective).trans (body_append part bytes).symm
  | other =>
    rw [hkind] at hheld
    rw [onReceiveMimeData_none hheld.1]
    exact hheld
  | unknown =>
    rw [hkind] at hheld
    obtain ⟨hwriter,hdirective⟩ := hheld
    cases hcontentType : s.sink.contentType with
    | JSON =>
      rw [if_pos hcontentType] at hdirective
      rw [onReceiveMimeData_json hcontentType]
      refine ⟨hwriter,?_⟩
      rw [if_pos hcontentType]
      exact (congrArg (· ++ bytes) hdirective).trans (body_append part bytes).symm
    | NONE =>
      have hne : s.sink.contentType≠.JSON := by
        rw [hcontentType]
        decide
      rw [if_neg hne] at hdirective
      rw [onReceiveMimeData_none hcontentType]
      refine ⟨hwriter,?_⟩
      rw [if_neg hne,hdirective]
    | ATTACHMENT =>
      have hne : s.sink.contentType≠.JSON := by
        rw [hcontentType]
        decide
      rw [if_neg hne] at hdirective
      rw [onReceiveMimeData_attachment hcontentType]
      refine ⟨hwriter,?_⟩
      rw [if_neg hne,hdirective]

theorem kind_of_attachment (hcontentType : s.sink.contentType=.ATTACHMENT) :
    (∃ attachmentId,kindOf attachmentContextId part.headers=.attachment attachmentId) ∨
      kindOf attachmentContextId part.headers=.unknown := by
  cases hkind : kindOf attachmentContextId part.headers with
  | attachment attachmentId => exact .inl ⟨attachmentId,rfl⟩
  | unknown => exact .inr rfl
  | directive | other =>
    rw [hkind] at hheld
    exact absurd (hheld.1.symm.trans hcontentType) (by decide)

end

/-- The part that is being received gets the data, if the sink accepts it. -/
theorem next_data (attachmentContextId : Bytes) (bytes : Bytes) (writeStatus : WriteStatus) (numWritten : ℕ)
    (hcurrent : s.current=some part) :
    (s.next attachmentContextId (.data bytes writeStatus numWritten)).current =
      some {part with chunks := part.chunks++accepted (s.sink.onReceiveMimeData bytes writeStatus numWritten).1 bytes} := by
  unfold Response.next
  rw [hcurrent]
  rfl

/-- Data of a part leaves what was passed on faithful, unless the sink takes a part without a content type for an
attachment. -/
theorem inv_data (h : Inv attachmentContextId s) (hpossible : Possible s (.data bytes writeStatus numWritten))
    (hallowed : Allowed attachmentContextId s (.data bytes writeStatus numWritten)) :
    Inv attachmentContextId (s.next attachmentContextId (.data bytes writeStatus numWritten)) := by
  obtain ⟨hgoing,hsome,-⟩ := hpossible
  obtain ⟨part,hcurrent⟩ := ne_none_iff_exists'.mp hsome
  have hheld := h.held part hcurrent
  have hnext := next_data attachmentContextId bytes writeStatus numWritten hcurrent
  refine ⟨⟨h.faithful.consumed,?_,fun haborted => ?_⟩,?_,fun hnone => ?_,fun hmore => ?_,fun other hother => ?_⟩
  · obtain ⟨rest,hwrites,hrest⟩ := writes_eq hheld hgoing bytes writeStatus numWritten
    refine ⟨rest,?_,hrest.imp_right ?_⟩
    · change s.written++s.sink.writes bytes writeStatus numWritten=_
      rw [hnext,toList_some,flatMap_append,flatMap_singleton,attached_append,h.written hgoing,hcurrent,
        toList_some,flatMap_append,flatMap_singleton,hwrites,append_assoc,append_assoc,append_assoc]
      rfl
    · exact fun ⟨attachmentId,hkind,habort,heq⟩ => ⟨_,attachmentId,bytes,numWritten,hnext,hkind,if_pos habort,heq⟩
  · have habort := onReceiveMimeData_abort (eq_of_beq haborted)
    rcases kind_of_attachment hheld habort with ⟨attachmentId,hkind⟩|hunknown
    · exact ⟨_,attachmentId,hnext,hkind⟩
    · exact (hallowed part hcurrent hunknown habort).elim
  · exact (onReceiveMimeData_id s.sink bytes writeStatus numWritten).trans h.id
  · rw [hnext] at hnone
    cases hnone
  · exact if_neg (beq_eq_false_iff_ne.mp hmore)
  · obtain rfl := some.inj (hnext.symm.trans hother)
    exact onReceiveMimeData_held hheld hgoing bytes writeStatus numWritten

section

variable (hheld : Held s.sink s.aborted part (kindOf attachmentContextId part.headers))
include hheld

theorem onEndMimePart_between (hgoing : s.aborted=false) (hid : s.sink.attachmentIdBeingReceived=[]) :
    s.sink.onEndMimePart.2.attachmentIdBeingReceived=[] ∧ s.sink.onEndMimePart.2.directiveBeingReceived=[] ∧
      s.sink.onEndMimePart.2.attachmentWriter=none := by
  have hdirective : s.sink.contentType≠.JSON → s.sink.directiveBeingReceived=[] := by
    intro hne
    cases hkind : kindOf attachmentContextId part.headers with
    | directive =>
      rw [hkind] at hheld
      exact (hne hheld.1).elim
    | attachment =>
      rw [hkind] at hheld
      exact hheld.1
    | other =>
      rw [hkind] at hheld
      exact hheld.2.1
    | unknown =>
      rw [hkind] at hheld
      rw [hheld.2,if_neg hne]
  have hwriter : s.sink.contentType≠.ATTACHMENT → s.sink.attachmentWriter=none := by
    intro hne
    cases hkind : kindOf attachmentContextId part.headers with
    | directive | other =>
      rw [hkind] at hheld
      exact hheld.2.2
    | attachment =>
      rw [hkind] at hheld
      exact (hne (hheld.2.2 hgoing)).elim
    | unknown =>
      rw [hkind] at hheld
      exact hheld.1
  cases hcontentType : s.sink.contentType with
  | JSON =>
    rw [hcontentType] at hwriter
    rw [onEndMimePart_json hcontentType]
    split
    · exact ⟨hid,rfl,hwriter (by decide)⟩
    next hempty => exact ⟨hid,not_not.mp hempty,hwriter (by decide)⟩
  | ATTACHMENT =>
    rw [hcontentType] at hdirective
    rw [onEndMimePart_attachment hcontentType]
    exact ⟨rfl,hdirective (by decide),rfl⟩
  | NONE =>
    rw [hcontentType] at hdirective hwriter
    rw [onEndMimePart_none hcontentType]
    exact ⟨hid,hdirective (by decide),hwriter (by decide)⟩

/-- It gets the message of the part, and nothing else, if allowed. -/
theorem onEndMimePart_message (hgoing : s.aborted=false) : s.sink.onEndMimePart.1=message attachmentContextId part ↔
      (kindOf attachmentContextId part.headers=.unknown → s.sink.contentType=.JSON → part.body=[]) := by
  unfold message
  cases hkind : kindOf attachmentContextId part.headers with
  | directive =>
    rw [hkind] at hheld
    obtain ⟨hjson,hdirective,-⟩ := hheld
    refine ⟨fun _ hunknown => (by cases hunknown),fun _ => ?_⟩
    rw [onEndMimePart_json hjson,hdirective]
    by_cases hbody : part.body=[]
    · rw [if_neg (not_not_intro hbody),if_neg fun hboth => hboth.2 hbody]
    · rw [if_pos hbody,if_pos ⟨rfl,hbody⟩]
  | attachment =>
    rw [hkind] at hheld
    refine ⟨fun _ hunknown => (by cases hunknown),fun _ => ?_⟩
    rw [onEndMimePart_attachment (hheld.2.2 hgoing)]
    exact (if_neg fun hboth => by cases hboth.1).symm
  | other =>
    rw [hkind] at hheld
    refine ⟨fun _ hunknown => (by cases hunknown),fun _ => ?_⟩
    rw [onEndMimePart_none hheld.1]
    exact (if_neg fun hboth => by cases hboth.1).symm
  | unknown =>
    rw [hkind] at hheld
    have hnothing : ¬(Kind.unknown=Kind.directive ∧ part.body≠[]) := fun hboth => by cases hboth.1
    rw [if_neg hnothing]
    cases hcontentType : s.sink.contentType with
    | JSON =>
      have hdirective := hheld.2
      rw [if_pos hcontentType] at hdirective
      rw [onEndMimePart_json hcontentType,hdirective]
      by_cases hbody : part.body=[]
      · rw [if_neg (not_not_intro hbody)]
        exact ⟨fun _ _ _ => hbody,fun _ => rfl⟩
      · rw [if_pos hbody]
        exact ⟨fun hsome => (by cases hsome),fun hempty => (hbody (hempty rfl rfl)).elim⟩
    | ATTACHMENT =>
      rw [onEndMimePart_attachment hcontentType]
      exact ⟨fun _ _ hjson => (by cases hjson),fun _ => rfl⟩
    | NONE =>
      rw [onEndMimePart_none hcontentType]
      exact ⟨fun _ _ hjson => (by cases hjson),fun _ => rfl⟩

end

theorem consumed_finish (h : Faithful attachmentContextId s) (hcurrent : s.current=some part) :
    (s.next attachmentContextId .finish).consumed =
        (s.next attachmentContextId .finish).parts.filterMap (message attachmentContextId) ↔
      s.sink.onEndMimePart.1=message attachmentContextId part := by
  change s.consumed++s.sink.onEndMimePart.1.toList=(s.parts++s.current.toList).filterMap _ ↔ _
  rw [h.consumed,hcurrent,toList_some,filterMap_append,append_cancel_left_eq]
  obtain hnone|⟨body,hsome⟩ := eq_none_or_eq_some (message attachmentContextId part)
  · rw [filterMap_cons_none hnone,filterMap_nil,hnone,toList_eq_nil_iff]
  · rw [filterMap_cons_some hsome,filterMap_nil,hsome,toList_eq_singleton_iff]

section

variable (h : Inv attachmentContextId s)
include h

theorem inv_finish (hpossible : Possible s .finish)
    (hallowed : Allowed attachmentContextId s .finish) : Inv attachmentContextId (s.next attachmentContextId .finish) := by
  obtain ⟨hgoing,hsome,-⟩ := hpossible
  obtain ⟨part,hcurrent⟩ := ne_none_iff_exists'.mp hsome
  have hheld := h.held part hcurrent
  obtain ⟨hid,hdirective,hwriter⟩ := onEndMimePart_between hheld hgoing h.id
  have hmessage := (onEndMimePart_message hheld hgoing).mpr (hallowed part hcurrent)
  refine ⟨⟨(consumed_finish h.faithful hcurrent).mpr hmessage,⟨[],?_,.inl rfl⟩,fun haborted => ?_⟩,hid,
    fun _ => ⟨hdirective,hwriter⟩,fun _ => h.unrefused hgoing,nofun⟩
  · change s.written=((s.parts++s.current.toList)++[]).flatMap _++[]
    rw [append_nil,append_nil]
    exact h.written hgoing
  · rw [show (s.next attachmentContextId .finish).aborted=s.aborted from rfl,hgoing] at haborted
    cases haborted

theorem inv_step {event : Event} (hstep : Step attachmentContextId s event t)
    (hallowed : Allowed attachmentContextId s event) : Inv attachmentContextId t := by
  obtain ⟨hpossible,rfl⟩ := hstep
  cases event with
  | begin headers created => exact inv_begin h headers created hpossible
  | data => exact inv_data h hpossible hallowed
  | finish => exact inv_finish h hpossible hallowed

theorem faithful_iff {event : Event} (hstep : Step attachmentContextId s event t) :
    Faithful attachmentContextId t ↔ Allowed attachmentContextId s event := by
  refine ⟨fun hfaithful => ?_,fun hallowed => (inv_step h hstep hallowed).faithful⟩
  obtain ⟨hpossible,rfl⟩ := hstep
  cases event with
  | begin => trivial
  | data bytes writeStatus numWritten =>
    intro part hcurrent hunknown hattachment
    have hheld := h.held part hcurrent
    rw [hunknown] at hheld
    -- There is no writer, so that the sink refuses the data.
    have habort : (s.sink.onReceiveMimeData bytes writeStatus numWritten).1=.abort := by
      rw [onReceiveMimeData_attachment hattachment]
      exact if_pos hheld.1
    obtain ⟨other,attachmentId,hother,hkind⟩ := hfaithful.aborted (beq_iff_eq.mpr habort)
    obtain rfl := some.inj ((next_data attachmentContextId bytes writeStatus numWritten hcurrent).symm.trans hother)
    exact absurd (hunknown.symm.trans hkind) nofun
  | finish =>
    intro part hcurrent
    have hmessage := (consumed_finish h.faithful hcurrent).mp hfaithful.consumed
    exact (onEndMimePart_message (h.held part hcurrent) hpossible.1).mp hmessage

end

/-- The responses in which each part is treated by its own headers are those in which parts without a content type
are no directives or attachments for the sink. -/
theorem dispatched_iff (attachmentContextId : Bytes) (contentType : ContentType) {trace : List Event} {s : Response} :
    Run (Keeping (Step attachmentContextId) (Faithful attachmentContextId)) (create contentType) trace s ↔
      Run (Guarded (Step attachmentContextId) (Allowed attachmentContextId)) (create contentType) trace s :=
  Run.keeping_iff (Inv attachmentContextId) (inv_create attachmentContextId contentType)
    (fun _ _ _ h hstep hallowed => inv_step h hstep hallowed) fun _ _ _ h hstep => faithful_iff h hstep

/-- A directive, and then a part that has no headers. -/
def bareTrace : List Event :=
  [.begin [(MIME_CONTENT_TYPE_FIELD_NAME,MIME_JSON_CONTENT_TYPE)] false,.data (ascii "\x7b\x7d") .OK 0,.finish,
    .begin [] false,.data (ascii "bare") .OK 0,.finish]

/-- The consumer gets the part that has no headers, too. -/
theorem bare_part_is_consumed : ∃ (trace : List Event) (s : Response),Run (Step (ascii "1")) (create .NONE) trace s ∧
      s.consumed=[ascii "\x7b\x7d",ascii "bare"] ∧ ¬Faithful (ascii "1") s := by
  have hpossible : canFollow (fun s event => decide (Possible s event)) (Response.next (ascii "1"))
      (create .NONE) bareTrace=true := by decide
  have hrun : Run (Step (ascii "1")) (create .NONE) bareTrace
      (bareTrace.foldl (Response.next (ascii "1")) (create .NONE)) :=
    Run.follow (step_next (ascii "1")) Run.refl hpossible
  refine ⟨bareTrace,_,hrun,by decide,fun hfaithful => ?_⟩
  have hconsumed := hfaithful.consumed
  revert hconsumed
  decide +kernel

end AlexaClientSDK.MimeDispatch
