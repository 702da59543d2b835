import AlexaClientSDK.MultipartScan

/-!
# A whole chunk

The scanning loop from any position of a chunk, and `feed`, which makes the callbacks the transducer writes. The
transducer's state is stored when the chunk is read to its end. When the end of the body was passed inside, the loop
returns early, and the members keep what they held.
-/

namespace AlexaClientSDK.MultipartFeed

open MimeEncoder (Bytes)
open Option List MultipartParser MultipartScan Transducers

/-- The end of the body is reached before the last byte of the input. -/
def Passes (boundary : Bytes) (core : Core) (input : Bytes) : Prop :=
  ∃ before after core' out,input=before++after ∧ after≠[] ∧
    run (byteStep boundary) core before=some (core',out) ∧ core'.state=.end_

section

variable {boundary : Bytes} {core core' : Core} {out : List Token}

/-- Nothing is written and nothing changes behind the end. -/
theorem run_end (hs : core.state=.end_) (input : Bytes) : run (byteStep boundary) core input=some (core,[]) := by
  induction input with
  | nil => rfl
  | cons c input ih =>
    have hstep : byteStep boundary core c=some (core,[]) := by simp only [byteStep,hs]
    exact run_cons hstep ih

theorem passes_of_end (hs : core.state=.end_) {input : Bytes} (hne : input≠[]) : Passes boundary core input :=
  ⟨[],input,core,[],rfl,hne,rfl,hs⟩

theorem not_passes_nil : ¬Passes boundary core [] := by
  rintro ⟨before,after,_,_,heq,hne,_⟩
  exact hne (append_eq_nil_iff.mp heq.symm).2

theorem passes_cons (hs : core.state≠.end_) {c : UInt8} {input : Bytes}
    (hstep : byteStep boundary core c=some (core',out)) :
    Passes boundary core (c::input) ↔ Passes boundary core' input := by
  constructor
  · rintro ⟨before,after,last,out',heq,hne,hrun,hend⟩
    cases before with
    | nil =>
      simp only [run,some.injEq,Prod.mk.injEq] at hrun
      rw [←hrun.1] at hend
      exact absurd hend hs
    | cons d before =>
      simp only [cons_append,List.cons.injEq] at heq
      obtain ⟨rfl,rfl⟩ := heq
      obtain ⟨mid,out₁,out₂,hstep',hrest,_⟩ := run_cons_inv hrun
      rw [hstep] at hstep'
      simp only [some.injEq,Prod.mk.injEq] at hstep'
      obtain ⟨rfl,rfl⟩ := hstep'
      exact ⟨before,after,last,out₂,rfl,hne,hrest,hend⟩
  · rintro ⟨before,after,last,out',rfl,hne,hrun,hend⟩
    exact ⟨c::before,after,last,out++out',rfl,hne,run_cons hstep hrun,hend⟩

/-- A stretch of input that does not lead to the end. -/
theorem passes_append (hs : core'.state≠.end_) {first second : Bytes}
    (hrun : run (byteStep boundary) core first=some (core',out)) :
    Passes boundary core (first++second) ↔ Passes boundary core' second := by
  induction first generalizing core out with
  | nil =>
    simp only [run,some.injEq,Prod.mk.injEq] at hrun
    rw [nil_append,hrun.1]
  | cons c first ih =>
    obtain ⟨mid,out₁,out₂,hstep,hrest,_⟩ := run_cons_inv hrun
    have hcore : core.state≠.end_ := by
      intro hend
      rw [run_end hend] at hrun
      simp only [some.injEq,Prod.mk.injEq] at hrun
      rw [←hrun.1] at hs
      exact hs hend
    rw [cons_append,passes_cons hcore hstep]
    exact ih hrest

end

/-- Handed out or marked at the beginning of the next chunk. -/
structure Done (boundary : Bytes) (s : Scan) (core : Core) (written : List Token) : Prop where
  core_eq : s.core=core
  marks : MarksOk core s.marks 0
  out : tokens s.out=written
  held : Held boundary core s.lookbehind

/-- How the loop ends on what is left of the chunk. -/
def Ends (boundary : Bytes) (core : Core) (input : Bytes) (core' : Core) (written : List Token)
    (exit : Option Exit) : Prop :=
  (¬Passes boundary core input ∧ ∃ s,exit=some (.finished s) ∧ Done boundary s core' written) ∨
  (Passes boundary core input ∧ ∃ s,exit=some (.stopped s) ∧ tokens s.out=written ∧
    s.marks=.unmarked ∧ s.lookbehind.length=boundary.length+4)

/-- The scan at a point between two turns. -/
def At (boundary : Bytes) (s : Scan) (n : ℕ) (core : Core) (written : List Token) : Prop :=
  (n<s.buffer.length ∧ s.i=n ∧ Tracks boundary s n core written) ∨
  (n=s.buffer.length ∧ s.buffer.length ≤ s.i ∧ Done boundary s core written)

section

variable {boundary : Bytes} {s : Scan} {core core' : Core} {written out : List Token}

theorem tokens_dataCallbackFlush {make : Bytes → Callback} {f : UInt8 → Token}
    (hmake : ∀ bytes,tokensOf (make bytes)=bytes.map f) (mark : Option ℕ) (buffer : Bytes) :
    tokens (dataCallbackFlush make mark buffer).2 = mark.elim [] fun m => (slice buffer m buffer.length).map f := by
  cases mark with
  | none => rfl
  | some m => exact tokens_rangeCallback hmake buffer m buffer.length false

/-- Those of the state at the beginning of a chunk. -/
theorem marksOk_flush {marks : Marks} {buffer : Bytes} {n : ℕ} (h : MarksOk core marks n) :
    MarksOk core ⟨(dataCallbackFlush .headerField marks.headerField buffer).1,
      (dataCallbackFlush .headerValue marks.headerValue buffer).1,
      (dataCallbackFlush .partData marks.partData buffer).1⟩ 0 := by
  unfold MarksOk at h ⊢
  split at h
  · obtain ⟨m,_,rfl⟩ := h
    exact ⟨0,Nat.le_refl _,rfl⟩
  · obtain ⟨m,_,rfl⟩ := h
    exact ⟨0,Nat.le_refl _,rfl⟩
  · split at h
    · rename_i hidx
      obtain ⟨m,_,rfl⟩ := h
      rw [if_pos hidx]
      exact ⟨0,Nat.le_refl _,rfl⟩
    · rename_i hidx
      rw [if_neg hidx,h]
      rfl
  · rw [h]
    rfl

/-- At the end of the chunk everything marked is handed out. -/
theorem done_flush (h : Tracks boundary s s.buffer.length core written) :
    Done boundary s.flush core written ∧ s.flush.buffer=s.buffer ∧ s.flush.i=s.i := by
  have hsaved := h.saved
  have hflush : s.flush={s with
      marks := ⟨(dataCallbackFlush .headerField s.marks.headerField s.buffer).1,
        (dataCallbackFlush .headerValue s.marks.headerValue s.buffer).1,
        (dataCallbackFlush .partData s.marks.partData s.buffer).1⟩
      out := s.out++(dataCallbackFlush .headerField s.marks.headerField s.buffer).2 ++
        (dataCallbackFlush .headerValue s.marks.headerValue s.buffer).2 ++
        (dataCallbackFlush .partData s.marks.partData s.buffer).2} := by
    simp only [Scan.flush,hsaved]
  rw [hflush]
  refine ⟨⟨h.core_eq,marksOk_flush h.marks,?_,h.held⟩,rfl,rfl⟩
  have hout := h.out
  rw [pending,←append_assoc,←append_assoc] at hout
  rw [tokens_append,tokens_append,tokens_append,tokens_dataCallbackFlush (fun _ => rfl),
    tokens_dataCallbackFlush (fun _ => rfl),tokens_dataCallbackFlush (fun _ => rfl)]
  exact hout

/-- The end of a turn that read the byte before `n`, or found no more. -/
theorem at_advance {n : ℕ} (h : Tracks boundary s n core written)
    (hi : s.i+1=n ∨ s.i=n ∧ n=s.buffer.length) (hn : n ≤ s.buffer.length) :
    At boundary s.advance n core written ∧ s.advance.buffer=s.buffer := by
  unfold Scan.advance
  by_cases hend : s.buffer.length ≤ s.i+1
  · have hlen : n=s.buffer.length := by omega
    have hlast : Tracks boundary {s with i := s.i+1} s.buffer.length core written := by
      rw [←hlen]
      exact ⟨h.core_eq,h.saved,h.marks,h.out,h.held⟩
    obtain ⟨hdone,hbuffer,hpos⟩ := done_flush hlast
    rw [if_pos hend]
    refine ⟨.inr ⟨?_,?_,hdone⟩,hbuffer⟩
    · rw [hbuffer]
      exact hlen
    · rw [hbuffer,hpos]
      exact hend
  · rw [if_neg hend]
    have hpos : s.i+1=n := by omega
    refine ⟨.inl ⟨?_,hpos,h.core_eq,h.saved,h.marks,h.out,h.held⟩,rfl⟩
    dsimp only
    omega

/-- One turn reads at least one byte, as the transducer does. -/
def Progress (boundary : Bytes) (s : Scan) (core : Core) (written : List Token) (core' : Core)
    (out : List Token) (outcome : Outcome) : Prop :=
  ∃ s' n core₁ out₁ out₂,outcome=.next s' ∧ s'.buffer=s.buffer ∧ s.i<n ∧
    n ≤ s.buffer.length ∧ (s'.i+1=n ∨ s'.i=n ∧ n=s.buffer.length) ∧
    Tracks boundary s' n core₁ (written++out₁) ∧
    run (byteStep boundary) core₁ (s.buffer.drop n)=some (core',out₂) ∧ out=out₁++out₂ ∧
    (Passes boundary core (s.buffer.drop s.i) ↔ Passes boundary core₁ (s.buffer.drop n))

theorem progress_of_moves {outcome : Outcome} (hn : s.i<s.buffer.length) (hend : core.state≠.end_)
    (hrun : run (byteStep boundary) core (s.buffer.drop s.i)=some (core',out))
    (hmoves : ∀ core₁ out₁,byteStep boundary core (s.buffer.getD s.i 0)=some (core₁,out₁) →
      Moves boundary s s.i core₁ (written++out₁) outcome) : Progress boundary s core written core' out outcome := by
  rw [drop_eq_cons hn] at hrun
  obtain ⟨core₁,out₁,out₂,hstep,hrest,hout⟩ := run_cons_inv hrun
  obtain ⟨s',hnext,hi,hbuffer,htracks⟩ := hmoves core₁ out₁ hstep
  refine ⟨s',s.i+1,core₁,out₁,out₂,hnext,hbuffer,Nat.lt_succ_self _,hn,.inl (by rw [hi]),htracks,hrest,hout,?_⟩
  rw [drop_eq_cons hn]
  exact passes_cons hend hstep

section

variable (hb : boundary≠[]) (h : Tracks boundary s s.i core written) (hn : s.i<s.buffer.length)
include hb h hn

theorem progress_data_zero (hs : core.state=.partData) (hidx : core.index=0)
    (hrun : run (byteStep boundary) core (s.buffer.drop s.i)=some (core',out)) (c : UInt8) :
    Progress boundary s core written core' out (processPartData boundary s c) := by
  have hcore := h.core_eq
  subst hcore
  have hmarks := h.marks
  simp only [MarksOk,hs,hidx,if_true] at hmarks
  obtain ⟨m,hm,hmarks⟩ := hmarks
  have hout := h.out
  rw [hmarks] at hout
  have hwritten : tokens s.out++(slice s.buffer m s.i).map .byte=written := by
    simpa [pending] using hout
  have hend : s.core.state≠.end_ := by rw [hs]; simp
  obtain ⟨hlow,hhigh,hskip⟩ := run_skip hb hs hidx s.buffer.length (Nat.le_of_lt hn)
  unfold processPartData
  rw [if_pos hidx]
  generalize skip boundary s.buffer s.buffer.length s.i=k at hlow hhigh hskip
  have hcut : s.buffer.drop s.i=slice s.buffer s.i k++s.buffer.drop k := by
    have hdrop : s.buffer.drop k=(s.buffer.drop s.i).drop (k-s.i) := by
      rw [drop_drop]
      congr 1
      omega
    rw [slice,hdrop,take_append_drop]
  have hpasses : Passes boundary s.core (s.buffer.drop s.i) ↔ Passes boundary s.core (s.buffer.drop k) := by
    rw [hcut]
    exact passes_append hend hskip
  rw [hcut] at hrun
  obtain ⟨out₂,hrest,rfl⟩ := run_append_left hskip hrun
  have hwritten' : tokens s.out++(slice s.buffer m k).map .byte = written++(slice s.buffer s.i k).map .byte := by
    rw [←slice_append hm hlow,map_append,←append_assoc,hwritten]
  by_cases hk : k=s.buffer.length
  · rw [if_pos hk]
    refine ⟨_,k,s.core,_,out₂,rfl,rfl,by omega,hhigh,.inr ⟨rfl,hk⟩,?_,hrest,rfl,hpasses⟩
    refine ⟨rfl,h.saved,?_,?_,h.held⟩
    · simp only [MarksOk,hs,hidx,if_true]
      exact ⟨m,Nat.le_trans hm hlow,hmarks⟩
    · rw [←hwritten',hmarks]
      simp [pending]
  · rw [if_neg hk]
    have hkn : k<s.buffer.length := by omega
    rw [drop_eq_cons hkn] at hrest hpasses
    obtain ⟨core₁,out₁,out₃,hstep,hlast,rfl⟩ := run_cons_inv hrest
    have hstep' := hstep
    rw [byteStep_data hs] at hstep'
    have hmoves : Moves boundary {s with i := k} k core₁ ((written++(slice s.buffer s.i k).map .byte)++out₁)
        (matchTurn boundary {s with i := k} (s.buffer.getD k 0)) :=
      moves_data_zero hb (Nat.le_trans hm hlow) hkn hs hidx h.saved hmarks h.held.1 hwritten' hstep'
    obtain ⟨s',hnext,hi,hbuffer,htracks⟩ := hmoves
    rw [append_assoc] at htracks
    refine ⟨s',k+1,core₁,_,out₃,hnext,hbuffer,by omega,hkn,.inl (by rw [hi]),htracks,
      hlast,(append_assoc _ _ _).symm,?_⟩
    rw [hpasses]
    exact passes_cons hend hstep

theorem progress_dataStart (hs : core.state=.partDataStart)
    (hrun : run (byteStep boundary) core (s.buffer.drop s.i)=some (core',out)) :
    Progress boundary s core written core' out (turn boundary s) := by
  obtain ⟨hmarks,hout⟩ := h.unmarked (by rw [hs]; simp) (by rw [hs]; simp) (fun hd => by rw [hs] at hd; cases hd)
  have hcore := h.core_eq
  subst hcore
  rw [drop_eq_cons hn] at hrun
  obtain ⟨core₁,out₁,out₂,hstep,hrest,hsum⟩ := run_cons_inv hrun
  have hidx : s.core.index=0 := by
    by_contra hne
    simp only [byteStep,hs,hne,if_false] at hstep
    cases hstep
  have hstep' : byteStep boundary {s.core with state := .partData} (s.buffer.getD s.i 0) = some (core₁,out₁) := by
    simp only [byteStep,hs,hidx,if_true] at hstep ⊢
    exact hstep
  have hrun' : run (byteStep boundary) {s.core with state := .partData} (s.buffer.drop s.i) = some (core',out) := by
    rw [drop_eq_cons hn,hsum]
    exact run_cons hstep' hrest
  have htracks : Tracks boundary {s with
      core := {s.core with state := .partData}
      marks := {s.marks with partData := some s.i}} s.i {s.core with state := .partData}
      written := by
    refine ⟨rfl,h.saved,?_,?_,h.held.1,fun _ _ => by rw [hidx]; rfl⟩
    · simp only [MarksOk,hidx,if_true]
      exact ⟨s.i,Nat.le_refl _,by rw [hmarks]; rfl⟩
    · rw [hmarks]
      simpa [pending,Marks.unmarked,slice_self] using hout
  have hturn : turn boundary s=processPartData boundary {s with
      core := {s.core with state := .partData}
      marks := {s.marks with partData := some s.i}} (s.buffer.getD s.i 0) := by
    simp only [turn,hs]
  obtain ⟨s',n,core₂,out₃,out₄,hnext,hbuffer,hlow,hhigh,hpos,htrack,hlast,hout',hiff⟩ :=
    progress_data_zero hb htracks hn rfl hidx hrun' (s.buffer.getD s.i 0)
  refine ⟨s',n,core₂,out₃,out₄,by rw [hturn,hnext],hbuffer,hlow,hhigh,hpos,htrack,hlast,hout',?_⟩
  have hdata : ({s.core with state := .partData} : Core).state≠.end_ := by simp
  rw [←hiff]
  rw [drop_eq_cons hn,passes_cons (by rw [hs]; simp) hstep,passes_cons hdata hstep']

end

/-- A broken match writes the held bytes, then what the byte gives. -/
theorem run_break {c : UInt8} {input : Bytes} (hs : core.state=.partData) (hlt : core.index<boundary.length)
    (hbreaks : boundary.getD core.index 0≠c) (hrun : run (byteStep boundary) core (c::input)=some (core',out)) :
    (∃ out',run (byteStep boundary) {core with index := 0} (c::input)=some (core',out') ∧
      out=(boundary.take core.index).map .byte++out') ∧
    (Passes boundary core (c::input) ↔ Passes boundary {core with index := 0} (c::input)) := by
  obtain ⟨core₁,out₁,out₂,hstep,hrest,hsum⟩ := run_cons_inv hrun
  have hpos : 0<boundary.length := by omega
  have hend : core.state≠.end_ := by rw [hs]; nofun
  have hs₀ : ({core with index := 0} : Core).state=.partData := hs
  have hend₀ : ({core with index := 0} : Core).state≠.end_ := hend
  have hsplit : ∃ out₃,byteStep boundary {core with index := 0} c=some (core₁,out₃) ∧
      out₁=(boundary.take core.index).map .byte++out₃ := by
    rw [byteStep_data hs,dataStep,if_pos hlt,if_neg hbreaks] at hstep
    rw [byteStep_data hs₀,dataStep,if_pos hpos]
    by_cases hfirst : boundary.getD 0 0=c
    · rw [if_pos hfirst] at hstep ⊢
      cases hstep
      exact ⟨[],rfl,(append_nil _).symm⟩
    · rw [if_neg hfirst] at hstep
      rw [if_neg hfirst,if_neg hfirst]
      cases hstep
      exact ⟨[.byte c],by simp,by simp⟩
  obtain ⟨out₃,hzero,rfl⟩ := hsplit
  refine ⟨⟨out₃++out₂,run_cons hzero hrest,by rw [hsum,append_assoc]⟩,?_⟩
  rw [passes_cons hend hstep,passes_cons hend₀ hzero]

/-- By fuel: bytes left count twice, one looked at again once more. -/
theorem loop_ends (hb : boundary≠[]) (fuel : ℕ) {n : ℕ} (h : At boundary s n core written)
    (hrun : run (byteStep boundary) core (s.buffer.drop n)=some (core',out))
    (hfuel : 2*(s.buffer.length-n)+(if core.index=0 then 0 else 1)<fuel) :
    Ends boundary core (s.buffer.drop n) core' (written++out) (loop boundary fuel s) := by
  induction fuel generalizing s n core written out with
  | zero => exact absurd hfuel (Nat.not_lt_zero _)
  | succ fuel ih =>
    rcases h with ⟨hn,rfl,htracks⟩|⟨rfl,hpast,hdone⟩
    · have hgoes : ∀ outcome,turn boundary s=outcome → Progress boundary s core written core' out outcome →
          Ends boundary core (s.buffer.drop s.i) core' (written++out) (loop boundary (fuel+1) s) := by
        intro outcome hturn hprogress
        obtain ⟨s',n,core₁,out₁,out₂,rfl,hbuffer,hlow,hhigh,hpos,htrack,hrest,rfl,hiff⟩ :=
          hprogress
        rw [←hbuffer] at hhigh hpos hrest
        obtain ⟨hat,hsame⟩ := at_advance htrack hpos hhigh
        have hloop : loop boundary (fuel+1) s=loop boundary fuel s'.advance := by
          simp only [loop,hn,if_true,hturn]
        have hnext := ih hat (by rw [hsame]; exact hrest) (by
          rw [hsame]
          rw [hbuffer] at hhigh ⊢
          split <;> omega)
        rw [hsame,hbuffer,append_assoc] at hnext
        rw [hloop]
        unfold Ends at hnext ⊢
        rw [hiff]
        exact hnext
      by_cases hend : core.state=.end_
      · -- the end was passed: the loop returns at once
        have hturn : turn boundary s=.stop s := by
          simp only [turn,htracks.core_eq,hend]
        have hloop : loop boundary (fuel+1) s=some (.stopped s) := by
          simp only [loop,hn,if_true,hturn]
        rw [run_end hend] at hrun
        simp only [some.injEq,Prod.mk.injEq] at hrun
        obtain ⟨rfl,rfl⟩ := hrun
        obtain ⟨hmarks,hout⟩ := htracks.unmarked (by rw [hend]; nofun) (by rw [hend]; nofun)
          (fun hd => by rw [hend] at hd; exact absurd hd nofun)
        rw [hloop,append_nil]
        refine .inr ⟨passes_of_end hend ?_,s,rfl,hout,hmarks,htracks.held.1⟩
        rw [drop_eq_cons hn]
        exact cons_ne_nil _ _
      · by_cases hdata : core.state=.partData
        · have hturn : turn boundary s=processPartData boundary s (s.buffer.getD s.i 0) := by
            simp only [turn,htracks.core_eq,hdata]
          by_cases hidx : core.index=0
          · exact hgoes _ hturn (progress_data_zero hb htracks hn hdata hidx hrun _)
          · have hmatch : turn boundary s=matchTurn boundary s (s.buffer.getD s.i 0) := by
              rw [hturn,processPartData,htracks.core_eq,if_neg hidx]
            by_cases hbreaks : core.index<boundary.length ∧ boundary.getD core.index 0≠s.buffer.getD s.i 0
            · -- the byte breaks a match and is looked at again
              obtain ⟨s',hretry,hi,hbuffer,htrack⟩ :=
                retry_data htracks hdata hidx hbreaks.1 hbreaks.2
              have hloop : loop boundary (fuel+1) s=loop boundary fuel s' := by
                simp only [loop,hn,if_true,hmatch,hretry]
              rw [drop_eq_cons hn] at hrun
              obtain ⟨⟨out',hrun',rfl⟩,hiff⟩ :=
                run_break hdata hbreaks.1 hbreaks.2 hrun
              rw [←drop_eq_cons hn] at hrun' hiff
              have hat : At boundary s' s.i {core with index := 0} (written++(boundary.take core.index).map .byte) :=
                .inl ⟨by rw [hbuffer]; exact hn,hi,htrack⟩
              have hnext := ih hat (by rw [hbuffer]; exact hrun') (by
                rw [hbuffer]
                rw [if_neg hidx] at hfuel
                rw [if_pos rfl]
                omega)
              rw [hbuffer,append_assoc] at hnext
              rw [hloop]
              unfold Ends at hnext ⊢
              rw [hiff]
              exact hnext
            · have hmatches : core.index<boundary.length → boundary.getD core.index 0=s.buffer.getD s.i 0 := by
                intro hlt
                by_contra hne
                exact hbreaks ⟨hlt,hne⟩
              refine hgoes _ hmatch (progress_of_moves hn hend hrun fun core₁ out₁ hstep => ?_)
              rw [byteStep_data hdata] at hstep
              exact moves_data_match htracks hdata hidx hmatches hstep
        · by_cases hstart : core.state=.partDataStart
          · exact hgoes _ rfl (progress_dataStart hb htracks hn hstart hrun)
          · exact hgoes _ rfl (progress_of_moves hn hend hrun fun core₁ out₁ hstep =>
              moves_headers htracks hn hstart hdata hend hstep)
    · have hloop : loop boundary (fuel+1) s=some (.finished s) := by
        simp only [loop,Nat.not_lt.mpr hpast,if_false]
      rw [drop_length] at hrun ⊢
      simp only [run,some.injEq,Prod.mk.injEq] at hrun
      obtain ⟨rfl,rfl⟩ := hrun
      rw [hloop,append_nil]
      exact .inl ⟨not_passes_nil,s,rfl,hdone⟩

end

/-- Between two chunks, with marks and held bytes as the state says. -/
structure Synced (p : Parser) : Prop where
  /-- The boundary starts with a line end and two hyphens. -/
  boundary : p.boundary≠[]
  marks : MarksOk p.core p.marks 0
  held : Held p.boundary p.core p.lookbehind

theorem synced_setBoundary (boundary : Bytes) : Synced (Parser.setBoundary boundary) := by
  refine ⟨?_,rfl,?_,nofun⟩
  · simp [Parser.setBoundary,MimeEncoder.crlf]
  · simp [Parser.setBoundary,MimeEncoder.crlf,MimeEncoder.twoDashes]

/-- What `feed` leaves behind on a chunk that the transducer reads. -/
structure Fed (p : Parser) (chunk : Bytes) (core' : Core) (out : List Token) (p' : Parser)
    (calls : List Callback) : Prop where
  calls : tokens calls=out
  boundary : p'.boundary=p.boundary
  /-- A chunk read to its end stores the transducer's state. -/
  stored : ¬Passes p.boundary p.core chunk → Synced p' ∧ p'.core=core'
  /-- A chunk that passes the end of the body does not. -/
  stale : Passes p.boundary p.core chunk → p'.core=p.core ∧ p'.marks=.unmarked ∧
    p'.lookbehind.length=p.boundary.length+4

/-- `feed` makes the callbacks that the transducer writes. -/
theorem feed_fed {p : Parser} {chunk : Bytes} {core' : Core} {out : List Token} (h : Synced p)
    (hne : chunk≠[]) (hrun : run (byteStep p.boundary) p.core chunk=some (core',out)) :
    ∃ p' n calls,p.feed chunk=(p',n,calls) ∧ Fed p chunk core' out p' calls := by
  have hpos : 0<chunk.length := length_pos_iff.mpr hne
  have herror : p.core.state≠.error := by
    intro hs
    cases chunk with
    | nil => exact hne rfl
    | cons =>
      obtain ⟨_,_,_,hstep,_⟩ := run_cons_inv hrun
      simp only [byteStep,hs] at hstep
      cases hstep
  have hat : At p.boundary (p.scan chunk) 0 p.core [] := by
    refine .inl ⟨hpos,rfl,rfl,rfl,h.marks,?_,h.held⟩
    have hmarks := h.marks
    unfold MarksOk at hmarks
    have hunmarked : p.marks=.unmarked → pending p.marks chunk 0=[] := by
      intro hm
      rw [hm]
      rfl
    have hfirst : ∀ m,m≤0 → slice chunk m 0=[] := by
      intro m hm
      rw [Nat.le_zero.mp hm,slice_self]
    have hpending : pending p.marks chunk 0=[] := by
      split at hmarks
      · obtain ⟨m,hm,hmarks⟩ := hmarks
        simp [pending,hmarks,hfirst m hm]
      · obtain ⟨m,hm,hmarks⟩ := hmarks
        simp [pending,hmarks,hfirst m hm]
      · split at hmarks
        · obtain ⟨m,hm,hmarks⟩ := hmarks
          simp [pending,hmarks,hfirst m hm]
        · exact hunmarked hmarks
      · exact hunmarked hmarks
    exact hpending
  have hends := loop_ends h.boundary (2*chunk.length+2) hat hrun (by
    dsimp only [Parser.scan]
    split <;> omega)
  have hfeed : p.feed chunk=p.leave (loop p.boundary (2*chunk.length+2) (p.scan chunk)) := by
    rw [Parser.feed,if_neg (by rintro (he | he); exact herror he; exact hne he)]
  rcases hends with ⟨hnot,s,hloop,hdone⟩|⟨hpasses,s,hloop,hout,hmarks,hlook⟩
  · rw [hfeed,hloop]
    refine ⟨_,_,_,rfl,hdone.out,rfl,fun _ => ?_,fun hp => absurd hp hnot⟩
    refine ⟨⟨h.boundary,?_,?_⟩,hdone.core_eq⟩
    · rw [hdone.core_eq]
      exact hdone.marks
    · rw [hdone.core_eq]
      exact hdone.held
  · rw [hfeed,hloop]
    exact ⟨_,_,_,rfl,hout,rfl,fun hp => absurd hpasses hp,fun _ => ⟨rfl,hmarks,hlook⟩⟩

end AlexaClientSDK.MultipartFeed
