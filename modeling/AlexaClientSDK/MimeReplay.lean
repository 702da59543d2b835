import AlexaClientSDK.MimeChunking

/-!
# Pauses and replays

When the sink pauses in the middle of a chunk, the decoder rolls its reader back, and the chunk is delivered again. The
data callbacks before the refused one are counted off without the sink noticing. Whatever the pauses, the sink accepts
what it would have accepted without them, and the decoder ends in the same state.
-/

namespace AlexaClientSDK.MimeReplay

open MimeEncoder (Bytes delimiter)
open List
open MultipartParser MultipartScan MultipartFeed MimeDecoder MimeMessage MimeDelivery MimeRoundTrip
open MimeChunking Decoder

variable {d : Decoder}

section

variable {σ : Type} (K : ResponseSink σ)

/-- A chunk delivered until it is not paused, at most `fuel` times. -/
def deliver : ℕ → Decoder → σ → Bytes → Option (Status × Decoder × σ)
  | 0,_,_,_ => none
  | fuel+1,d,sink,chunk =>
    match d.onReceiveData K sink chunk with
    | (.pause,d,sink) => deliver fuel d sink chunk
    | (.success,d,sink) => some (.success,d,sink)
    | (.abort,d,sink) => some (.abort,d,sink)

/-- The chunks of a body, each delivered until it is not paused. -/
def deliverAll (fuel : ℕ) : Decoder → σ → List Bytes → Option (List Status × Decoder × σ)
  | d,sink,[] => some ([],d,sink)
  | d,sink,chunk::chunks =>
    match deliver K fuel d sink chunk with
    | none => none
    | some (status,d,sink) =>
      match deliverAll fuel d sink chunks with
      | none => none
      | some (statuses,d,sink) => some (status::statuses,d,sink)

theorem partCallbacks_paused (calls : List PartCallback) (sink : σ)
    (hs : d.lastStatus=.pause) (hidx : d.lastSuccessIndex<d.index) :
    d.partCallbacks K sink calls=({d with index := d.index+dataCount calls},sink) := by
  induction calls generalizing d with
  | nil => rfl
  | cons call calls ih =>
    cases call with
    | begin headers =>
      have hcall : d.partCallback K sink (.begin headers)=(d,sink) := by
        simp only [partCallback,partBeginCallback,hs]
      rw [partCallbacks,hcall]
      exact ih hs hidx
    | data bytes =>
      have hne : ¬d.index+1=d.lastSuccessIndex+1 := by omega
      have hcall : d.partCallback K sink (.data bytes)=({d with index := d.index+1},sink) := by
        simp [partCallback,partDataCallback,offerData,hs]
        omega
      have hnext : d.lastSuccessIndex<d.index+1 := by omega
      have hsum : d.index+1+dataCount calls=d.index+dataCount (.data bytes::calls) := by
        simp only [dataCount]
        omega
      have hrest := ih (d := {d with index := d.index+1}) hs hnext
      rw [partCallbacks,hcall]
      dsimp only at hrest ⊢
      rw [hrest,hsum]
    | end_ =>
      have hcall : d.partCallback K sink .end_=(d,sink) := by
        simp [partCallback,partEndCallback,hs]
      rw [partCallbacks,hcall]
      exact ih hs hidx

theorem partCallbacks_resumes (before : List PartCallback) (bytes : Bytes)
    (after : List PartCallback) (sink : σ) (hs : d.lastStatus=.pause)
    (hidx : d.index+dataCount before=d.lastSuccessIndex) : d.partCallbacks K sink (before++.data bytes::after) =
      ({d with lastStatus := .success,index := d.lastSuccessIndex} : Decoder).partCallbacks K sink
        (.data bytes::after) := by
  induction before generalizing d with
  | nil =>
    have heq : d.index=d.lastSuccessIndex := by simpa [dataCount] using hidx
    have hcall : d.partCallback K sink (.data bytes) =
        ({d with lastStatus := .success,index := d.lastSuccessIndex} : Decoder).partCallback K sink (.data bytes) := by
      simp [partCallback,partDataCallback,hs,heq]
    rw [nil_append,partCallbacks,hcall,partCallbacks]
  | cons call before ih =>
    cases call with
    | begin headers =>
      have hcall : d.partCallback K sink (.begin headers)=(d,sink) := by
        simp only [partCallback,partBeginCallback,hs]
      rw [cons_append,partCallbacks,hcall]
      exact ih hs hidx
    | data bytes' =>
      simp only [dataCount] at hidx
      have hcall : d.partCallback K sink (.data bytes')=({d with index := d.index+1},sink) := by
        simp [partCallback,partDataCallback,offerData,hs]
        omega
      have hnext : d.index+1+dataCount before=d.lastSuccessIndex := by omega
      rw [cons_append,partCallbacks,hcall]
      exact ih (d := {d with index := d.index+1}) hs hnext
    | end_ =>
      have hcall : d.partCallback K sink .end_=(d,sink) := by
        simp [partCallback,partEndCallback,hs]
      rw [cons_append,partCallbacks,hcall]
      exact ih hs hidx

end

theorem dataCount_append (calls calls' : List PartCallback) :
    dataCount (calls++calls')=dataCount calls+dataCount calls' := by
  induction calls with
  | nil => simp [dataCount]
  | cons call calls ih =>
    cases call with
    | begin => exact ih
    | data =>
      simp only [cons_append,dataCount,ih]
      omega
    | end_ => exact ih

/-- All callbacks are accepted, or those before the first data the sink refuses. -/
def PassedOn (d : Decoder) (log : List PartCallback) (script : List Bool)
    (calls : List PartCallback) (result : Decoder × (List PartCallback × List Bool)) : Prop :=
  (∃ script',script'.length ≤ script.length ∧ result =
    ({d with
      index := d.index+dataCount calls
      lastSuccessIndex := d.index+dataCount calls},(log++calls,script'))) ∨
  (∃ before bytes after script',script'.length<script.length ∧ calls=before++.data bytes::after ∧
    result=({d with
      lastStatus := .pause
      index := d.index+dataCount calls
      lastSuccessIndex := d.index+dataCount before},(log++before,script')))

theorem partCallbacks_pauser (calls : List PartCallback) (log : List PartCallback)
    (script : List Bool) (hs : d.lastStatus=.success) (hidx : d.lastSuccessIndex=d.index) :
    PassedOn d log script calls (d.partCallbacks pauser (log,script) calls) := by
  induction calls generalizing d log script with
  | nil =>
    refine .inl ⟨script,Nat.le_refl _,?_⟩
    have hsame : {d with index := d.index+0,lastSuccessIndex := d.index+0}=d := by
      rcases d with ⟨code,reader,status,index,left,found,last⟩
      dsimp only at hidx ⊢
      rw [hidx,Nat.add_zero]
    rw [partCallbacks,dataCount,hsame,append_nil]
  | cons call calls ih =>
    -- a callback that is accepted joins what is accepted behind it
    have haccept : ∀ (d' : Decoder) (script₁ : List Bool) (n : ℕ), script₁.length ≤ script.length →
        d.partCallback pauser (log,script) call=(d',(log++[call],script₁)) →
        d'={d with index := d.index+n,lastSuccessIndex := d.index+n} →
        (∀ before,dataCount (call::before)=n+dataCount before) →
        PassedOn d log script (call::calls) (d.partCallbacks pauser (log,script) (call::calls)) := by
      intro d' script₁ n hlen hcall hd' hcount
      have hs' : d'.lastStatus=.success := by rw [hd']; exact hs
      have hidx' : d'.lastSuccessIndex=d'.index := by rw [hd']
      have hindex : d'.index=d.index+n := by rw [hd']
      rcases ih (log++[call]) script₁ hs' hidx' with
        ⟨script',hlen',hrest⟩ | ⟨before,bytes,after,script',hlen',heq,hrest⟩
      · refine .inl ⟨script',Nat.le_trans hlen' hlen,?_⟩
        rw [partCallbacks,hcall]
        dsimp only
        rw [hrest,hindex,hcount,hd',append_assoc,Nat.add_assoc]
        rfl
      · refine .inr ⟨call::before,bytes,after,script',Nat.lt_of_lt_of_le hlen' hlen,?_,?_⟩
        · rw [heq]
          rfl
        · rw [partCallbacks,hcall]
          dsimp only
          rw [hrest,hindex,hcount,hcount,hd',append_assoc,Nat.add_assoc,Nat.add_assoc]
          rfl
    cases call with
    | begin =>
      refine haccept d script 0 (Nat.le_refl _) ?_ ?_ ?_
      · simp only [partCallback,partBeginCallback,hs,pauser]
      · rcases d with ⟨code,reader,status,index,left,found,last⟩
        dsimp only at hidx ⊢
        rw [hidx,Nat.add_zero]
      · simp [dataCount]
    | data bytes =>
      rcases script with _|⟨answer,script⟩
      · refine haccept {d with index := d.index+1,lastSuccessIndex := d.index+1} [] 1 (Nat.le_refl _) ?_ rfl ?_
        · simp [partCallback,partDataCallback,offerData,hs,pauser]
        · intro before
          simp only [dataCount]
          omega
      · cases answer with
        | true =>
          have hcall : d.partCallback pauser (log,true::script) (.data bytes) =
              ({d with lastStatus := .pause,index := d.index+1},(log,script)) := by
            simp [partCallback,partDataCallback,offerData,hs,pauser]
          have hlt : d.lastSuccessIndex<d.index+1 := by omega
          have hrest : ({d with lastStatus := .pause,index := d.index+1} : Decoder).partCallbacks
              pauser (log,script) calls =
              ({d with lastStatus := .pause,index := d.index+1+dataCount calls},
                (log,script)) := partCallbacks_paused pauser calls (log,script) rfl hlt
          refine .inr ⟨[],bytes,calls,script,Nat.lt_succ_self _,rfl,?_⟩
          have hsum : d.index+1+dataCount calls=d.index+dataCount (.data bytes::calls) := by
            simp only [dataCount]
            omega
          rw [partCallbacks,hcall]
          dsimp only
          rw [hrest,hsum,hidx,dataCount,Nat.add_zero,append_nil]
        | false =>
          refine haccept {d with index := d.index+1,lastSuccessIndex := d.index+1} script 1 (Nat.le_succ _) ?_ rfl ?_
          · simp [partCallback,partDataCallback,offerData,hs,pauser]
          · intro before
            simp only [dataCount]
            omega
    | end_ =>
      refine haccept d script 0 (Nat.le_refl _) ?_ ?_ ?_
      · simp [partCallback,partEndCallback,hs,pauser]
      · rcases d with ⟨code,reader,status,index,left,found,last⟩
        dsimp only at hidx ⊢
        rw [hidx,Nat.add_zero]
      · simp [dataCount]

section

variable {d : Decoder} {chunk body : Bytes} {left : ℕ} {r : Reader} {calls : List PartCallback}

/-- Behind a chunk whose callbacks were all accepted, before the closing switch. -/
def accepted (d : Decoder) (left : ℕ) (r : Reader) (calls : List PartCallback) : Decoder :=
  {d with
    reader := r
    index := dataCount calls
    leadingCRLFCharsLeftToRemove := left
    lastSuccessIndex := dataCount calls
    lastStatus := if r.parser.hasError then .abort else .success}

/-- In front of a delivery: fresh, or paused behind the callbacks `before`. -/
def waiting (d : Decoder) (status : Status) (index : ℕ) (before : List PartCallback) : Decoder :=
  {d with lastStatus := status,index := index,lastSuccessIndex := dataCount before}

variable {before rest : List PartCallback}

/-- All is accepted, or it waits behind more callbacks than before. -/
theorem feedReader_waiting (left : ℕ) (hfeed : d.reader.feed body=(r,calls))
    (hharm : r.parser.hasError=true → calls=[]) {status : Status} (index : ℕ) (hcalls : calls=before++rest)
    (hstatus : status=.success ∧ before=[] ∨
      status=.pause ∧ ∃ bytes after,rest=.data bytes::after) (log : List PartCallback) (script : List Bool) :
    (∃ script',script'.length ≤ script.length ∧
      ({waiting d status index before with leadingCRLFCharsLeftToRemove := left} : Decoder).feedReader
        pauser (log++before,script) body=(accepted d left r calls,(log++calls,script'))) ∨
    (∃ before' bytes after script',script'.length<script.length ∧ calls=before'++.data bytes::after ∧
      ({waiting d status index before with leadingCRLFCharsLeftToRemove := left} : Decoder).feedReader
        pauser (log++before,script) body =
        ({d with
          reader := r
          leadingCRLFCharsLeftToRemove := left
          lastStatus := .pause
          index := dataCount calls
          lastSuccessIndex := dataCount before'},(log++before',script'))) := by
  have hresume : ({waiting d status index before with
      leadingCRLFCharsLeftToRemove := left,index := 0,reader := r} : Decoder).partCallbacks pauser
      (log++before,script) calls =
      ({d with
        reader := r
        leadingCRLFCharsLeftToRemove := left
        lastStatus := .success
        index := dataCount before
        lastSuccessIndex := dataCount before} : Decoder).partCallbacks pauser
        (log++before,script) rest := by
    rcases hstatus with ⟨rfl,rfl⟩|⟨rfl,bytes,after,rfl⟩
    · rw [hcalls]
      rfl
    · rw [hcalls]
      exact partCallbacks_resumes pauser before bytes after _ rfl (Nat.zero_add _)
  have hcount : dataCount calls=dataCount before+dataCount rest := by
    rw [hcalls,dataCount_append]
  have hpassed := partCallbacks_pauser rest (d := {d with
    reader := r
    leadingCRLFCharsLeftToRemove := left
    lastStatus := .success
    index := dataCount before
    lastSuccessIndex := dataCount before}) (log++before) script rfl rfl
  rw [←hresume] at hpassed
  rcases hpassed with
    ⟨script',hlen,hresult⟩ | ⟨before',bytes,after,script',hlen,heq,hresult⟩
  · refine .inl ⟨script',hlen,?_⟩
    unfold feedReader
    have hread : ({waiting d status index before with
        leadingCRLFCharsLeftToRemove := left} : Decoder).reader.feed body=(r,calls) := hfeed
    rw [hread]
    dsimp only at hresult ⊢
    rw [hresult,←hcount,append_assoc,←hcalls]
    unfold accepted
    cases r.parser.hasError with
    | true => rfl
    | false => rfl
  · refine .inr ⟨before++before',bytes,after,script',hlen,?_,?_⟩
    · rw [hcalls,heq,append_assoc]
    · have hok : r.parser.hasError=false := by
        cases hbad : r.parser.hasError with
        | true =>
          have hnil := hharm hbad
          rw [hcalls,heq] at hnil
          exact absurd hnil (by simp)
        | false => rfl
      unfold feedReader
      have hread : ({waiting d status index before with
          leadingCRLFCharsLeftToRemove := left} : Decoder).reader.feed body=(r,calls) := hfeed
      rw [hread]
      dsimp only at hresult ⊢
      rw [hresult,←hcount,append_assoc]
      rw [hok,if_neg Bool.false_ne_true,dataCount_append]

/-- Delivered until it is not paused: sink and decoder end as without pauses. -/
theorem deliver_waiting (h : Ready d) (hne : ¬(0<d.leadingCRLFCharsLeftToRemove ∧ body=[]))
    (hstrip : stripCRLF d.leadingCRLFCharsLeftToRemove chunk=(left,some body))
    (hfeed : d.reader.feed body=(r,calls)) (hharm : r.parser.hasError=true → calls=[])
    (log : List PartCallback) (fuel : ℕ) {status : Status} (index : ℕ) (hcalls : calls=before++rest)
    (hstatus : status=.success ∧ before=[] ∨ status=.pause ∧ ∃ bytes after,rest=.data bytes::after)
    (script : List Bool) (hfuel : script.length<fuel) : ∃ script',script'.length ≤ script.length ∧
      deliver pauser fuel (waiting d status index before) (log++before,script) chunk =
        some (((accepted d left r calls).settle d.reader d.leadingCRLFCharsLeftToRemove).lastStatus,
          (accepted d left r calls).settle d.reader d.leadingCRLFCharsLeftToRemove, (log++calls,script')) := by
  induction fuel generalizing status index before rest script with
  | zero => exact absurd hfuel (Nat.not_lt_zero _)
  | succ fuel ih =>
    have hs : (waiting d status index before).lastStatus≠.abort := by
      rcases hstatus with ⟨rfl,_⟩|⟨rfl,_⟩ <;> exact nofun
    have hattempt := feedReader_waiting left hfeed hharm index hcalls hstatus log script
    rcases hattempt with
      ⟨script',hlen,hfed⟩ | ⟨before',bytes,after,script',hlen,heq,hfed⟩
    · refine ⟨script',hlen,?_⟩
      have hreceive := onReceiveData_body hs h.code h.found hne hstrip hfed
      have hend : ((accepted d left r calls).settle d.reader d.leadingCRLFCharsLeftToRemove).lastStatus≠.pause := by
        unfold accepted settle
        cases r.parser.hasError with
        | true => exact nofun
        | false => exact nofun
      unfold deliver
      rw [hreceive]
      dsimp only [waiting]
      cases hst : ((accepted d left r calls).settle d.reader
          d.leadingCRLFCharsLeftToRemove).lastStatus with
      | success => rfl
      | pause => exact absurd hst hend
      | abort => rfl
    · have hreceive := onReceiveData_body hs h.code h.found hne hstrip hfed
      have hagain : deliver pauser (fuel+1) (waiting d status index before) (log++before,script)
          chunk=deliver pauser fuel (waiting d .pause (dataCount calls) before') (log++before',script') chunk := by
        conv => lhs; unfold deliver
        rw [hreceive]
        rfl
      obtain ⟨script'',hlen',hresult⟩ := ih (dataCount calls) heq (.inr ⟨rfl,bytes,after,rfl⟩) script' (by omega)
      exact ⟨script'',by omega,hagain.trans hresult⟩

end

/-- The parser fails only on chunks that make no callback. -/
def Harmless (d : Decoder) (chunk : Bytes) : Prop :=
  ∀ left body r calls,stripCRLF d.leadingCRLFCharsLeftToRemove chunk=(left,some body) →
    ¬(0<d.leadingCRLFCharsLeftToRemove ∧ body=[]) → d.reader.feed body=(r,calls) → r.parser.hasError=true → calls=[]

theorem deliver_eq {chunk : Bytes} (h : Ready d) (hharm : Harmless d chunk)
    (log : List PartCallback) (script : List Bool) {fuel : ℕ} (hfuel : script.length<fuel) :
    ∃ script',script'.length ≤ script.length ∧ deliver pauser fuel d (log,script) chunk =
        some ((d.onReceiveData recorder log chunk).1,(d.onReceiveData recorder log chunk).2.1,
          ((d.onReceiveData recorder log chunk).2.2,script')) := by
  have hs : d.lastStatus≠.abort := by
    rw [h.status]
    nofun
  cases fuel with
  | zero => exact absurd hfuel (Nat.not_lt_zero _)
  | succ fuel =>
    cases hstrip : stripCRLF d.leadingCRLFCharsLeftToRemove chunk with
    | mk left stripped =>
      cases stripped with
      | none =>
        have hreceive : ∀ {σ : Type} (K : ResponseSink σ) (sink : σ),d.onReceiveData K sink chunk =
            (.abort,{d with leadingCRLFCharsLeftToRemove := left},sink) := by
          intro σ K sink
          unfold onReceiveData
          rw [if_neg hs,if_neg (not_not.mpr h.code),if_neg (by rw [h.found]; nofun),hstrip]
        refine ⟨script,Nat.le_refl _,?_⟩
        simp only [deliver,hreceive]
      | some body =>
        by_cases hlead : 0<d.leadingCRLFCharsLeftToRemove ∧ body=[]
        · obtain ⟨hpos,rfl⟩ := hlead
          have hreceive : ∀ {σ : Type} (K : ResponseSink σ) (sink : σ), d.onReceiveData K sink chunk =
                (.success,{d with leadingCRLFCharsLeftToRemove := left},sink) :=
            fun K sink => onReceiveData_leading hs h.code h.found hpos hstrip
          refine ⟨script,Nat.le_refl _,?_⟩
          simp only [deliver,hreceive]
        · cases hfeed : d.reader.feed body with
          | mk r calls =>
            have hfresh : waiting d .success d.index []=d := by
              have hzero := h.fresh
              have hstatus := h.status
              rcases d with ⟨code,reader,status,index,left,found,last⟩
              dsimp only at hzero hstatus
              rw [hzero,hstatus]
              rfl
            have hreader : ({d with leadingCRLFCharsLeftToRemove := left} : Decoder).feedReader
                recorder log body=(accepted d left r calls,log++calls) :=
              feedReader_recorder h.status h.fresh hfeed
            have hreceive := onReceiveData_body hs h.code h.found hlead hstrip hreader
            obtain ⟨script',hlen,hresult⟩ := deliver_waiting h hlead hstrip hfeed
              (hharm left body r calls hstrip hlead hfeed) log (fuel+1) d.index
              (nil_append calls).symm (.inl ⟨rfl,rfl⟩) script hfuel
            rw [hfresh,append_nil] at hresult
            refine ⟨script',hlen,?_⟩
            rw [hresult,hreceive]

/-- A chunk that is taken does not fail the parser. -/
theorem harmless_of_success {d d' : Decoder} {chunk : Bytes} {log log' : List PartCallback}
    (h : Ready d) (hreceive : d.onReceiveData recorder log chunk=(.success,d',log')) : Harmless d chunk := by
  intro left body r calls hstrip hlead hfeed hbad
  have hs : d.lastStatus≠.abort := by
    rw [h.status]
    nofun
  have hreader : ({d with leadingCRLFCharsLeftToRemove := left} : Decoder).feedReader
      recorder log body=(accepted d left r calls,log++calls) :=
    feedReader_recorder h.status h.fresh hfeed
  rw [onReceiveData_body hs h.code h.found hlead hstrip hreader] at hreceive
  have habort : ((accepted d left r calls).settle d.reader d.leadingCRLFCharsLeftToRemove).lastStatus=.abort := by
    simp only [accepted,settle,hbad,if_true]
  rw [habort] at hreceive
  exact absurd (congrArg Prod.fst hreceive) nofun

/-- A line feed in an old state fails the parser only without a callback. -/
theorem harmless_stale {m : Message} {core' : Core} {c : UInt8} (h : Stale m core' d)
    (hlive : byteStep (delimiter m.boundary) core' c≠none) (hend : core'.state≠.end_) : Harmless d [LF] := by
  intro left body r calls hstrip _ hfeed hbad
  rw [h.leading] at hstrip
  simp only [stripCRLF,Prod.mk.injEq,Option.some.injEq] at hstrip
  obtain ⟨-,rfl⟩ := hstrip
  obtain ⟨r',calls',hread,⟨_,_,hnil⟩|⟨hgood,_⟩⟩ := reader_feed_stale h hlive hend
  · rw [hread] at hfeed
    have hcalls : calls'=calls := congrArg Prod.snd hfeed
    rw [←hcalls,hnil]
  · rw [hread] at hfeed
    have hr : r'=r := congrArg Prod.fst hfeed
    rw [hr,hbad] at hgood
    cases hgood

/-- Every chunk that a sink without pauses is told of is harmless. -/
def Calm : Decoder → List PartCallback → List Bytes → Prop
  | _,_,[] => True
  | d,log,chunk::chunks =>
    (Ready d ∧ Harmless d chunk) ∧
      Calm (d.onReceiveData recorder log chunk).2.1 (d.onReceiveData recorder log chunk).2.2 chunks

theorem deliverAll_eq (chunks : List Bytes) {log : List PartCallback}
    (h : Calm d log chunks) (script : List Bool) {fuel : ℕ} (hfuel : script.length<fuel) :
    ∃ script',deliverAll pauser fuel d (log,script) chunks =
      some ((d.onReceiveChunks recorder log chunks).1,(d.onReceiveChunks recorder log chunks).2.1,
        ((d.onReceiveChunks recorder log chunks).2.2,script')) := by
  induction chunks generalizing d log script with
  | nil => exact ⟨script,rfl⟩
  | cons chunk chunks ih =>
    obtain ⟨⟨hready,hharm⟩,hrest⟩ := h
    obtain ⟨script₁,hlen,hone⟩ := deliver_eq hready hharm log script hfuel
    obtain ⟨script₂,hall⟩ := ih hrest script₁ (by omega)
    refine ⟨script₂,?_⟩
    simp only [deliverAll,hone,hall,onReceiveChunks]

theorem calm_of_receiving {m : Message} (chunks : List Bytes) {done : Bytes}
    {log : List PartCallback} (h : Receiving m done d log) (hall : done++chunks.flatten=m.body)
    (hne : ∀ c∈chunks,c≠[]) : Calm d log chunks := by
  induction chunks generalizing done d log with
  | nil => trivial
  | cons chunk rest ih =>
    have hpre : done++chunk <+: m.body := by
      rw [←hall,flatten_cons,←append_assoc]
      exact prefix_append _ _
    have hchunk : chunk≠[] := hne chunk mem_cons_self
    have hrest : ∀ c∈rest,c≠[] := fun c hc => hne c (mem_cons_of_mem _ hc)
    by_cases hgo : Passes (delimiter m.boundary) d.reader.parser.core
        (chunk.drop (2-done.length)) → d.reader.parser.core.state=.end_
    · obtain ⟨d',log',hreceive,hnext⟩ := receiving_next h hpre hchunk hgo
      refine ⟨⟨h.ready,harmless_of_success h.ready hreceive⟩,?_⟩
      rw [hreceive]
      refine ih hnext ?_ hrest
      rw [append_assoc]
      exact hall
    · -- the end is passed in this chunk, and at most a line feed is left
      obtain ⟨hp,hend⟩ := Classical.not_imp.mp hgo
      obtain ⟨out,hrun,_⟩ := h.wrote
      obtain ⟨d',log',core',hreceive,hwrote,hpassed,_⟩ := receive_chunk h hpre hchunk
      obtain ⟨-,hstale⟩ := hpassed hp
      refine ⟨⟨h.ready,harmless_of_success h.ready hreceive⟩,?_⟩
      rw [hreceive]
      rcases rest_of_passes hall hrest hrun hp hend with rfl|⟨rfl,_⟩
      · trivial
      · obtain ⟨c,hlive⟩ := live_of_passes hpre hrun hp
        exact ⟨⟨hstale.ready,harmless_stale hstale hlive hend⟩,trivial⟩

/-- A message cut into nonempty chunks, each delivered until the sink does not pause it, is accepted as by a
sink that never pauses, with the same callbacks, statuses and decoder. -/
theorem replay_accepts_same (m : Message) (line : Bytes) (hline : CarriesBoundary line m.boundary)
    (chunks : List Bytes) (hall : chunks.flatten=m.body) (hne : ∀ c∈chunks,c≠[])
    (script : List Bool) (fuel : ℕ) (hfuel : script.length<fuel) : ∃ statuses d log script',
      deliverAll pauser fuel (afterHeader pauser ([],script) line).1 (afterHeader pauser ([],script) line).2 chunks =
          some (statuses,d,(log,script')) ∧ (afterHeader recorder [] line).1.onReceiveChunks recorder
        (afterHeader recorder [] line).2 chunks=(statuses,d,log) := by
  obtain ⟨d,hstart,hreceiving⟩ := receiving_afterHeader m hline
  have hcalm : Calm d [] chunks := calm_of_receiving chunks hreceiving hall hne
  have hpaused : afterHeader pauser ([],script) line=(d,([],script)) := by
    have hd := congrArg Prod.fst hstart
    exact Prod.ext hd rfl
  obtain ⟨script',hdeliver⟩ := deliverAll_eq chunks hcalm script hfuel
  rw [hstart,hpaused]
  exact ⟨_,_,_,script',hdeliver,rfl⟩

/-- A message whose data is paused twice. -/
theorem replay_accepts_same_two_pauses : ∃ statuses d log script',
      deliverAll pauser 3 (afterHeader pauser ([],[true,true]) (boundaryPrefix++[98])).1
        (afterHeader pauser ([],[true,true]) (boundaryPrefix++[98])).2
        [oneByteMessage.body.take 16,oneByteMessage.body.drop 16] = some (statuses,d,(log,script')) ∧
      (afterHeader recorder [] (boundaryPrefix++[98])).1.onReceiveChunks recorder
        (afterHeader recorder [] (boundaryPrefix++[98])).2
        [oneByteMessage.body.take 16,oneByteMessage.body.drop 16]=(statuses,d,log) :=
  replay_accepts_same oneByteMessage _ ⟨⟨[],[],rfl,.inl rfl,nofun⟩,by decide⟩ _
    (by decide) (by decide) [true,true] 3 (by decide)

end AlexaClientSDK.MimeReplay
