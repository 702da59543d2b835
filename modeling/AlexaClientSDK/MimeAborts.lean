import AlexaClientSDK.MimeDecoder

/-!
# Giving up

A decoder whose sink or parser failed remembers that and answers every later chunk with `ABORT`. Without a boundary it
does so without remembering. When the bytes in front of the body begin with a carriage return and no line feed follows,
it answers `ABORT` but goes on waiting for the line feed, and decodes a chunk that begins with one.
-/

namespace AlexaClientSDK.MimeDecoder

open List Decoder

open MimeEncoder (Bytes crlf)
open MultipartParser (PartCallback)

section

variable {σ : Type} (K : ResponseSink σ)

/-- After `ABORT` all are, and nothing reaches the sink. -/
def Absorbing (d : Decoder) (sink : σ) (chunks : List Bytes) : Prop :=
  ∀ earlier chunk later,chunks=earlier++chunk::later →
    let before := (d.onReceiveChunks K sink earlier).2
    let answer := before.1.onReceiveData K before.2 chunk
    answer.1=.abort → (∀ status∈(answer.2.1.onReceiveChunks K answer.2.2 later).1,status=.abort) ∧
        (answer.2.1.onReceiveChunks K answer.2.2 later).2.2=answer.2.2

def Refused (d : Decoder) (chunk : Bytes) : Prop :=
  d.lastStatus≠.abort ∧ d.boundaryFound=true ∧ (stripCRLF d.leadingCRLFCharsLeftToRemove chunk).2=none

def NoLineFeed (chunk : Bytes) : Prop := ∃ c bytes,chunk=c::bytes ∧ c≠10

/-- After a chunk refused for its first bytes comes no empty one and no line feed. -/
def NeverResumed (d : Decoder) (sink : σ) (chunks : List Bytes) : Prop :=
  ∀ earlier chunk later,chunks=earlier++chunk::later →
    Refused (d.onReceiveChunks K sink earlier).2.1 chunk → ∀ next∈later,NoLineFeed next

end

section

variable {σ : Type} {K : ResponseSink σ} {d e : Decoder} {sink : σ}

def SameResponse (d e : Decoder) : Prop := e.responseCode=d.responseCode ∧ e.boundaryFound=d.boundaryFound

theorem SameResponse.refl (d : Decoder) : SameResponse d d := ⟨rfl,rfl⟩

theorem SameResponse.trans {f : Decoder} (h : SameResponse d e) (h' : SameResponse e f) : SameResponse d f :=
  ⟨h'.1.trans h.1,h'.2.trans h.2⟩

section

variable (d)

theorem sameResponse_offerData (sink : σ) (bytes : Bytes) : SameResponse d (d.offerData K sink bytes).1 := by
  unfold offerData
  split
  · split
    · exact ⟨rfl,rfl⟩
    · exact ⟨rfl,rfl⟩
  · exact SameResponse.refl d

theorem sameResponse_partCallback (sink : σ) (call : PartCallback) : SameResponse d (d.partCallback K sink call).1 := by
  cases call with
  | begin =>
    unfold partCallback partBeginCallback
    dsimp only
    split
    · split
      · exact SameResponse.refl d
      · exact ⟨rfl,rfl⟩
    · exact SameResponse.refl d
    · exact SameResponse.refl d
  | data bytes =>
    unfold partCallback partDataCallback
    dsimp only
    split
    · exact SameResponse.trans ⟨rfl,rfl⟩ (sameResponse_offerData _ sink bytes)
    · exact SameResponse.trans ⟨rfl,rfl⟩ (sameResponse_offerData _ sink bytes)
  | end_ =>
    unfold partCallback partEndCallback
    dsimp only
    split
    · split
      · exact SameResponse.refl d
      · exact ⟨rfl,rfl⟩
    · exact SameResponse.refl d

theorem sameResponse_partCallbacks (sink : σ) (calls : List PartCallback) :
    SameResponse d (d.partCallbacks K sink calls).1 := by
  induction calls generalizing d sink with
  | nil => exact SameResponse.refl d
  | cons call calls ih =>
    rw [partCallbacks]
    exact (sameResponse_partCallback d sink call).trans (ih _ _)

theorem sameResponse_settle (readerCheckpoint : MultipartParser.Reader) (oldLeading : ℕ) :
    SameResponse d (d.settle readerCheckpoint oldLeading) := by
  unfold settle
  split
  · exact ⟨rfl,rfl⟩
  · exact ⟨rfl,rfl⟩
  · exact SameResponse.refl d

theorem sameResponse_feedReader (sink : σ) (bytes : Bytes) : SameResponse d (d.feedReader K sink bytes).1 := by
  unfold feedReader
  dsimp only
  have hcalls := sameResponse_partCallbacks (K := K) {d with index := 0,reader := (d.reader.feed bytes).1} sink
    (d.reader.feed bytes).2
  split
  · exact SameResponse.trans ⟨rfl,rfl⟩ (hcalls.trans ⟨rfl,rfl⟩)
  · exact SameResponse.trans ⟨rfl,rfl⟩ hcalls

end

theorem onReceiveChunks_of_stuck {chunks : List Bytes}
    (h : ∀ chunk∈chunks,d.onReceiveData K sink chunk=(.abort,d,sink)) :
    (∀ status∈(d.onReceiveChunks K sink chunks).1,status=.abort) ∧ (d.onReceiveChunks K sink chunks).2.2=sink := by
  induction chunks with
  | nil => exact ⟨fun status hstatus => absurd hstatus not_mem_nil,rfl⟩
  | cons chunk chunks ih =>
    obtain ⟨hchunk,hchunks⟩ := forall_mem_cons.mp h
    obtain ⟨hall,hsink⟩ := ih hchunks
    rw [onReceiveChunks,hchunk]
    exact ⟨forall_mem_cons.mpr ⟨rfl,hall⟩,hsink⟩

/-- A chunk is only refused for its first bytes when a line feed is missing. -/
theorem stripCRLF_refused {left : ℕ} {bytes : Bytes} (h : (stripCRLF left bytes).2=none) :
    (stripCRLF left bytes).1=1 := by
  induction left generalizing bytes with
  | zero => cases h
  | succ left ih =>
    cases bytes with
    | nil => cases h
    | cons =>
      rw [stripCRLF] at h ⊢
      split at h
      · next hc =>
        rw [if_pos hc]
        exact ih h
      · next hc =>
        rw [if_neg hc]
        split at h
        · next hone => rw [if_pos hone]
        · cases h

section

variable (hcode : d.responseCode=200)
include hcode

/-- Given up, without boundary, or for the first bytes; else remembered. -/
theorem onReceiveData_cases (sink : σ) (chunk : Bytes) :
    (d.lastStatus=.abort ∨ d.boundaryFound=false) ∧ d.onReceiveData K sink chunk=(.abort,d,sink) ∨
      Refused d chunk ∧ d.onReceiveData K sink chunk =
        (.abort,{d with leadingCRLFCharsLeftToRemove := (stripCRLF d.leadingCRLFCharsLeftToRemove chunk).1},sink) ∨
      d.lastStatus≠.abort ∧ ¬Refused d chunk ∧ SameResponse d (d.onReceiveData K sink chunk).2.1 ∧
        ((d.onReceiveData K sink chunk).1=.abort → (d.onReceiveData K sink chunk).2.1.lastStatus=.abort) := by
  by_cases hstatus : d.lastStatus=.abort
  · refine .inl ⟨.inl hstatus,?_⟩
    unfold onReceiveData
    rw [if_pos hstatus]
  have hok : ¬d.responseCode≠200 := not_not_intro hcode
  by_cases hboundary : d.boundaryFound=false
  · refine .inl ⟨.inr hboundary,?_⟩
    unfold onReceiveData
    rw [if_neg hstatus,if_neg hok,if_pos hboundary]
  refine .inr ?_
  unfold onReceiveData
  rw [if_neg hstatus,if_neg hok,if_neg hboundary]
  cases hstrip : stripCRLF d.leadingCRLFCharsLeftToRemove chunk with
  | mk left body =>
    cases body with
    | none =>
      refine .inl ⟨⟨hstatus,by rw [Bool.not_eq_false] at hboundary; exact hboundary,?_⟩,rfl⟩
      rw [hstrip]
    | some body =>
      have hheeded : ¬Refused d chunk := fun h => by
        have hnone := h.2.2
        rw [hstrip] at hnone
        cases hnone
      refine .inr ⟨hstatus,hheeded,?_⟩
      dsimp only
      split
      · exact ⟨⟨rfl,rfl⟩,nofun⟩
      · have hleading : SameResponse d {d with leadingCRLFCharsLeftToRemove := left} := ⟨rfl,rfl⟩
        have hfed := sameResponse_feedReader (K := K) {d with leadingCRLFCharsLeftToRemove := left} sink body
        exact ⟨(hleading.trans hfed).trans (sameResponse_settle _ _ _),fun h => h⟩

theorem responseCode_onReceiveData (sink : σ) (chunk : Bytes) :
    (d.onReceiveData K sink chunk).2.1.responseCode=200 := by
  rcases onReceiveData_cases (K := K) hcode sink chunk with ⟨_,hanswer⟩|⟨_,hanswer⟩|⟨_,_,hsame,_⟩
  · rw [hanswer]
    exact hcode
  · rw [hanswer]
    exact hcode
  · exact hsame.1.trans hcode

theorem responseCode_onReceiveChunks (sink : σ) (chunks : List Bytes) :
    (d.onReceiveChunks K sink chunks).2.1.responseCode=200 := by
  induction chunks generalizing d sink with
  | nil => exact hcode
  | cons chunk chunks ih =>
    rw [onReceiveChunks]
    exact ih (responseCode_onReceiveData hcode sink chunk) _

/-- Given up, or without a boundary, it stays as it is. -/
theorem onReceiveData_of_stuck (h : d.lastStatus=.abort ∨ d.boundaryFound=false) (sink : σ) (chunk : Bytes) :
    d.onReceiveData K sink chunk=(.abort,d,sink) := by
  rcases onReceiveData_cases (K := K) hcode sink chunk with ⟨_,hanswer⟩|⟨hrefused,_⟩|⟨hstatus,_,_,_⟩
  · exact hanswer
  · rcases h with hstatus|hboundary
    · exact absurd hstatus hrefused.1
    · exact absurd (hboundary.symm.trans hrefused.2.1) Bool.false_ne_true
  · rcases h with habort|hboundary
    · exact absurd habort hstatus
    · unfold onReceiveData
      rw [if_neg hstatus,if_neg (not_not_intro hcode),if_pos hboundary]

theorem onReceiveData_waiting (hstatus : d.lastStatus≠.abort)
    (hboundary : d.boundaryFound=true) (hleft : d.leadingCRLFCharsLeftToRemove=1) (sink : σ) {chunk : Bytes}
    (hchunk : NoLineFeed chunk) : d.onReceiveData K sink chunk=(.abort,d,sink) := by
  obtain ⟨c,bytes,rfl,hc⟩ := hchunk
  have hstrip : stripCRLF d.leadingCRLFCharsLeftToRemove (c::bytes)=(1,none) := by
    rw [hleft,stripCRLF]
    have hfeed : ¬c=crlf.getD (crlf.length-(0+1)) 0 := hc
    rw [if_neg hfeed,if_pos rfl]
  have hsame : {d with leadingCRLFCharsLeftToRemove := 1}=d := by
    rw [←hleft]
  have hfound : ¬d.boundaryFound=false := fun h => Bool.false_ne_true (h.symm.trans hboundary)
  unfold onReceiveData
  rw [if_neg hstatus,if_neg (not_not_intro hcode),if_neg hfound,hstrip]
  exact congrArg (fun e => (Status.abort,e,sink)) hsame

end

/-- Whatever a sink does, `ABORT` is absorbing if after a chunk that is refused for the bytes in front of the body there
is no empty one and none that begins with a line feed. -/
theorem abort_absorbing {σ : Type} (K : ResponseSink σ) {d : Decoder} (hcode : d.responseCode=200) (sink : σ)
    {chunks : List Bytes} (h : NeverResumed K d sink chunks) : Absorbing K d sink chunks := by
  intro earlier chunk later heq before answer habort
  have hcodeBefore : before.1.responseCode=200 := responseCode_onReceiveChunks hcode sink earlier
  have hcodeAfter : answer.2.1.responseCode=200 := responseCode_onReceiveData hcodeBefore before.2 chunk
  rcases onReceiveData_cases (K := K) hcodeBefore before.2 chunk with
    ⟨hstuck,hanswer⟩ | ⟨hrefused,hanswer⟩ | ⟨_,_,_,hremembered⟩
  · have hafter : answer.2.1=before.1 := congrArg (fun r => r.2.1) hanswer
    have hstuckAfter : answer.2.1.lastStatus=.abort ∨ answer.2.1.boundaryFound=false := by
      rw [hafter]
      exact hstuck
    exact onReceiveChunks_of_stuck fun next _ => onReceiveData_of_stuck hcodeAfter hstuckAfter answer.2.2 next
  · -- the decoder goes on waiting for the line feed
    have hafter : answer.2.1={before.1 with
        leadingCRLFCharsLeftToRemove := (stripCRLF before.1.leadingCRLFCharsLeftToRemove chunk).1} :=
      congrArg (fun r => r.2.1) hanswer
    have hleft := stripCRLF_refused hrefused.2.2
    refine onReceiveChunks_of_stuck fun next hnext => ?_
    refine onReceiveData_waiting hcodeAfter ?_ ?_ ?_ answer.2.2 (h earlier chunk later heq hrefused next hnext)
    · rw [hafter]
      exact hrefused.1
    · rw [hafter]
      exact hrefused.2.1
    · rw [hafter]
      exact hleft
  · exact onReceiveChunks_of_stuck fun next _ =>
      onReceiveData_of_stuck hcodeAfter (.inl (hremembered habort)) answer.2.2 next

end

/-- A decoder that was told code 200 and the boundary `b`. -/
def listening : Decoder := (afterHeader recorder [] (boundaryPrefix++[98])).1

/-- A carriage return, another chunk, and one with the line feed. -/
def brokenStart : List Bytes := [[13,88],[10,45,45,98,13,10,65,58,66,13,10,13,10,88]]

/-- It answers `ABORT` while no chunk begins with the line feed it waits for. -/
theorem abort_absorbing_broken : Absorbing recorder listening [] [[13,88],[88,89],[90]] :=
  abort_absorbing recorder rfl [] (by
    intro earlier chunk later heq _ next hnext
    have hmem : next∈[[88,89],[90]] := by
      cases earlier with
      | nil =>
        injection heq with _ hlater
        rw [hlater]
        exact hnext
      | cons =>
        injection heq with _ hrest
        rw [hrest]
        exact mem_append_right _ (mem_cons_of_mem _ hnext)
    rcases mem_pair.mp hmem with rfl|rfl
    · exact ⟨88,[89],rfl,by decide⟩
    · exact ⟨90,[],rfl,by decide⟩)

/-- After `ABORT` a chunk that begins with the line feed is decoded. -/
theorem abort_forgotten : ¬Absorbing recorder listening [] brokenStart ∧
      (listening.onReceiveChunks recorder [] brokenStart).1=[.abort,.success] ∧
      (listening.onReceiveChunks recorder [] brokenStart).2.2≠[] := by
  have hstatuses : (listening.onReceiveChunks recorder [] brokenStart).1=[.abort,.success] := by decide
  refine ⟨fun h => ?_,hstatuses,by decide⟩
  have hsecond := (h [] [13,88] [[10,45,45,98,13,10,65,58,66,13,10,13,10,88]] rfl (by decide)).1 .success
  exact absurd (hsecond (by decide)) (by decide)

end AlexaClientSDK.MimeDecoder
