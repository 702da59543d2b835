import AlexaClientSDK.MimeEncoderOutput
import AlexaClientSDK.MimeDelivery

/-!
# Decoding what was encoded

The encoder's body of a message, delivered in one piece to a fresh decoder that
was told the boundary, shows the sink the message's parts.
-/

namespace AlexaClientSDK.MimeRoundTrip

open List
open LabelledRuns MimeEncoder MultipartParser MultipartScan MimeDecoder MimeMessage MimeDelivery

/-- It stands behind the first `boundary=`, to the next semicolon or the end. -/
structure CarriesBoundary (line boundary : Bytes) : Prop where
  place : ∃ before after,line=before++(boundaryPrefix++(boundary++after)) ∧
    (after=[] ∨ ∃ more,after=boundaryDelimiter::more) ∧
    ∀ k<before.length,¬boundaryPrefix <+: line.drop k
  plain : boundaryDelimiter∉boundary

theorem findBoundary_eq {before found : Bytes} (hfound : boundaryPrefix <+: found)
    (hfirst : ∀ k<before.length,¬boundaryPrefix <+: (before++found).drop k) :
    findBoundary (before++found)=some found := by
  induction before with
  | nil =>
    cases found with
    | nil => exact absurd hfound (by decide)
    | cons => rw [nil_append,findBoundary,if_pos hfound]
  | cons c before ih =>
    have hnot : ¬boundaryPrefix <+: c::(before++found) := hfirst 0 (by simp)
    rw [cons_append,findBoundary,if_neg hnot]
    exact ih fun k hk => hfirst (k+1) (by simpa using hk)

theorem boundaryOf_eq {line boundary : Bytes} (h : CarriesBoundary line boundary) : boundaryOf line=some boundary := by
  obtain ⟨before,after,rfl,hafter,hfirst⟩ := h.place
  unfold boundaryOf
  rw [findBoundary_eq (prefix_append _ _) hfirst,Option.map_some]
  have hdrop : (boundaryPrefix++(boundary++after)).drop boundaryPrefix.length =
      boundary++after := drop_left
  rw [hdrop]
  have hall : ∀ c∈boundary,decide (c≠boundaryDelimiter)=true := by
    intro c hc
    rw [decide_eq_true_eq]
    intro heq
    exact h.plain (heq ▸ hc)
  have htail : after.takeWhile (fun c => decide (c≠boundaryDelimiter))=[] := by
    rcases hafter with rfl|⟨more,rfl⟩
    · rfl
    · simp
  rw [takeWhile_append_of_pos hall,htail,append_nil]

theorem receiving_afterHeader (m : Message) {line : Bytes} (hline : CarriesBoundary line m.boundary) :
    ∃ d,Decoder.afterHeader recorder [] line=(d,[]) ∧ Receiving m [] d [] := by
  refine ⟨{Decoder.init with
    responseCode := 200
    reader := {Reader.init with parser := Parser.setBoundary m.boundary}
    boundaryFound := true},?_,?_⟩
  · simp only [Decoder.afterHeader,Decoder.onReceiveResponseCode,Decoder.onReceiveHeaderLine,
      recorder,boundaryOf_eq hline]
    rfl
  · exact ⟨⟨rfl,rfl,rfl,rfl⟩,rfl,rfl,MultipartFeed.synced_setBoundary m.boundary,[],rfl,rfl⟩

theorem seen_of_wrote {m : Message} {core' : Core} {h : HeaderState} {log : List PartCallback}
    (hwrote : Wrote m m.body core' h log) : seen log=m.seen := by
  obtain ⟨out,hrun,hread⟩ := hwrote
  have hbody : m.body.drop 2=m.stem++closing := by
    rw [body_eq,append_assoc]
    rfl
  rw [hbody,run_whole] at hrun
  simp only [Option.some.injEq,Prod.mk.injEq] at hrun
  rw [←hrun.2,readTokens_message] at hread
  exact (congrArg Prod.snd hread).symm

theorem body_ne_nil (m : Message) : m.body≠[] := by
  rw [body_eq]
  simp [crlf]

/-- The body that the encoder produced for a message, in any number of calls, is taken by the decoder in one
piece, and the sink sees one begin, the data and one end for each part. -/
theorem decode_encode (m : Message) (line : Bytes) (hline : CarriesBoundary line m.boundary)
    (answers : List Answer) (calls : List (ℕ × SendResult)) (s : Encoder × PartSource)
    (hrun : Run (Call partSource) (start m.boundary (m.parts.map MessagePart.part) answers) calls s)
    (hdone : s.1.state=.done) : ∃ d log d' log',Decoder.afterHeader recorder [] line=(d,log) ∧
      d.onReceiveData recorder log (producedBytes calls)=(.success,d',log') ∧ seen log'=m.seen := by
  have hbody : producedBytes calls=m.body := by
    have hproduced := run_produced hrun
    have hnil : rest s.1 s.2=[] := by simp only [rest,hdone]
    have hexact := hproduced.exact_
    rwa [hnil,append_nil] at hexact
  obtain ⟨d,hstart,hreceiving⟩ := receiving_afterHeader m hline
  have hpre : []++m.body <+: m.body := prefix_refl _
  obtain ⟨d',log',core',hreceive,hwrote,_⟩ :=
    receive_chunk hreceiving hpre (body_ne_nil m)
  rw [hbody]
  exact ⟨d,[],d',log',hstart,hreceive,seen_of_wrote hwrote⟩

/-- One part with one header line and one byte of data, in one buffer. -/
theorem decode_encode_one_part : ∃ calls d log d' log',Decoder.afterHeader recorder [] (boundaryPrefix++[98])=(d,log) ∧
      d.onReceiveData recorder log (producedBytes calls)=(.success,d',log') ∧
      seen log'=[.begin [([78],[118])],.byte 120,.end_] := by
  have hline : CarriesBoundary (boundaryPrefix++[98]) [98] :=
    ⟨⟨[],[],rfl,.inl rfl,nofun⟩,by decide⟩
  have hrun : ∃ s,Run (Call partSource) (start [98] [⟨[[78,58,32,118]],[120]⟩] [])
      [(64,.continue_ (encode [98] [⟨[[78,58,32,118]],[120]⟩]))] s ∧ s.1.state=.done :=
    ⟨(_,_),Run.single ⟨by decide,12,rfl⟩,rfl⟩
  have hclean : ∀ p∈[(⟨⟨78,[],[118],by decide,nofun,by decide⟩,[],[120]⟩ : MessagePart)],
      ¬delimiter [98] <:+: p.data := by
    intro p hp
    rw [mem_singleton.mp hp]
    decide
  obtain ⟨s,hrun,hdone⟩ := hrun
  exact ⟨_,decode_encode ⟨[98],_,[],by decide,hclean⟩ _ hline [] _ s hrun hdone⟩

/-- What a sink sees of the encoder's body of some parts. -/
def sinkSees (boundary : Bytes) (parts : List Part) : Status × List Seen :=
  let (d,log) := Decoder.afterHeader recorder [] (boundaryPrefix++boundary)
  let (status,_,log) := d.onReceiveData recorder log (encode boundary parts)
  (status,seen log)

/-- A value that starts with a space loses it; a boundary may be missed. -/
theorem decode_encode_loses : sinkSees [98] [⟨[[78]++[58,32]++[32,118]],[]⟩] ≠
      (.success,[.begin [([78],[32,118])],.end_]) ∧ ¬delimiter [13] <:+: [13,10,45,45] ∧
    sinkSees [13] [⟨[[78]++[58,32]++[118]],[13,10,45,45]⟩] ≠
      (.success,[.begin [([78],[118])],.byte 13,.byte 10,.byte 45,.byte 45,.end_]) := by
  decide +kernel

end AlexaClientSDK.MimeRoundTrip
