import AlexaClientSDK.MultipartTurns

/-!
# Turns in the data of a part

A byte of the data lets the match of the boundary begin, go on or break off, or ends the part. Whatever it does, the bytes
that were read pay for what is reported.
-/

namespace AlexaClientSDK.MultipartTurns

open MimeEncoder (Bytes)
open List MultipartParser

inductive MatchTurn (boundary : Bytes) (s s' : Scan) : Prop
  | closes (hindex : boundary.length+1 ≤ s.core.index)
    (hstate : s'.core.state=.headerStart ∨ s'.core.state=.end_) (call : Callback)
    (hcall : call=.partBegin ∨ call=.end_) (hout : s'.out=s.out++[.partEnd,call])
  | begins (hzero : s.core.index=0) (hstate : s'.core.state=s.core.state) (hindex : s'.core.index=1)
    (hout : s'.out=s.out++dataCallbackClear .partData s.marks.partData s.buffer s.i false)
  | goesOn (hpos : 0<s.core.index) (hstate : s'.core.state=s.core.state) (hpos' : 0<s'.core.index)
    (hindex : s'.core.index ≤ s.core.index+1) (hout : s'.out=s.out)
  | breaksOff (hstate : s'={s with core := {s.core with index := 0}})

section

variable {boundary : Bytes} {s s' : Scan} {c : UInt8}

theorem matchBoundary_cases (hne : boundary≠[]) (s : Scan) (c : UInt8) :
    MatchTurn boundary s (matchBoundary boundary s c).1 ∧
      ((matchBoundary boundary s c).1.buffer=s.buffer ∧ (matchBoundary boundary s c).1.saved=s.saved ∧
        (matchBoundary boundary s c).1.i=s.i) ∧
      ((matchBoundary boundary s c).2=true → (matchBoundary boundary s c).1.core.state=.headerStart ∨
        (matchBoundary boundary s c).1.core.state=.end_) ∧
      ((matchBoundary boundary s c).2=false → (matchBoundary boundary s c).1.core.state=s.core.state ∨
        0<(matchBoundary boundary s c).1.core.index) := by
  have hlen : 0<boundary.length := length_pos_iff.mpr hne
  have hsame : s.buffer=s.buffer ∧ s.saved=s.saved ∧ s.i=s.i := ⟨rfl,rfl,rfl⟩
  have hfalse : ∀ {P Q : Prop},Q → (false=true → P) ∧ (false=false → Q) := fun hq =>
    ⟨fun h => absurd h Bool.false_ne_true,fun _ => hq⟩
  have htrue : ∀ {P Q : Prop},P → (true=true → P) ∧ (true=false → Q) := fun hp =>
    ⟨fun _ => hp,fun h => absurd h.symm Bool.false_ne_true⟩
  unfold matchBoundary
  split
  · split
    · split
      · next hzero => exact ⟨.begins hzero rfl (congrArg (· + 1) hzero) rfl,hsame,hfalse (.inl rfl)⟩
      · next hzero =>
        exact ⟨.goesOn (Nat.pos_of_ne_zero hzero) rfl (Nat.succ_pos _) (Nat.le_refl _) rfl,hsame,hfalse (.inl rfl)⟩
    · exact ⟨.breaksOff rfl,hsame,hfalse (.inl rfl)⟩
  · split
    · next heq =>
      have hpos : 0<s.core.index := heq ▸ hlen
      split
      · exact ⟨.goesOn hpos rfl (Nat.succ_pos _) (Nat.le_refl _) rfl,hsame,hfalse (.inl rfl)⟩
      · split
        · exact ⟨.goesOn hpos rfl (Nat.succ_pos _) (Nat.le_refl _) rfl,hsame,hfalse (.inl rfl)⟩
        · exact ⟨.breaksOff rfl,hsame,hfalse (.inl rfl)⟩
    · split
      · next heq =>
        have hle : boundary.length+1 ≤ s.core.index := Nat.le_of_eq heq.symm
        split
        · split
          · exact ⟨.closes hle (.inl rfl) _ (.inl rfl) rfl,hsame,htrue (.inl rfl)⟩
          · exact ⟨.breaksOff rfl,hsame,hfalse (.inl rfl)⟩
        · split
          · split
            · exact ⟨.closes hle (.inr rfl) _ (.inr rfl) rfl,hsame,hfalse (.inr (Nat.lt_of_lt_of_le (Nat.succ_pos _) hle))⟩
            · exact ⟨.breaksOff rfl,hsame,hfalse (.inl rfl)⟩
          · exact ⟨.breaksOff rfl,hsame,hfalse (.inl rfl)⟩
      · split
        · next heq =>
          have hpos : 0<s.core.index := by omega
          split
          · exact ⟨.goesOn hpos rfl (Nat.succ_pos _) (Nat.le_refl _) rfl,hsame,hfalse (.inl rfl)⟩
          · exact ⟨.breaksOff rfl,hsame,hfalse (.inl rfl)⟩
        · split
          · next heq =>
            have hle : boundary.length+1 ≤ s.core.index := by omega
            split
            · exact ⟨.closes hle (.inr rfl) _ (.inr rfl) rfl,hsame,htrue (.inr rfl)⟩
            · exact ⟨.breaksOff rfl,hsame,hfalse (.inl rfl)⟩
          · have hpos : 0<s.core.index := by omega
            exact ⟨.goesOn hpos rfl hpos (Nat.le_succ _) rfl,hsame,hfalse (.inl rfl)⟩

/-- While the boundary is matched no data is marked. -/
theorem waiting_matching (hpos : 0<s.core.index) : waiting s=0 :=
  if_neg fun h => Nat.ne_of_gt hpos h.2

theorem cost_clear (boundary : Bytes) (mark : Option ℕ) (buffer : Bytes) (i : ℕ) (headed : Bool) :
    cost boundary headed (dataCallbackClear .partData mark buffer i false) ≤ mark.elim 0 (i - ·) ∧
      headedAfter headed (dataCallbackClear .partData mark buffer i false)=headed ∧
      ∀ opened,openAfter opened (dataCallbackClear .partData mark buffer i false)=some opened := by
  cases mark with
  | none => exact ⟨Nat.le_refl 0,rfl,fun opened => rfl⟩
  | some start =>
    unfold dataCallbackClear rangeCallback
    dsimp only
    split
    · exact ⟨Nat.zero_le _,rfl,fun opened => rfl⟩
    · refine ⟨?_,rfl,fun opened => rfl⟩
      change (slice buffer start i).length+0 ≤ i-start
      rw [slice,length_take]
      omega

/-- A scan in a state outside the headers. -/
structure Elsewhere (state : State) : Prop where
  name : state≠.headerField
  repeated : ¬AtRepeat state
  line : ¬(state=.headerFieldStart ∨ state=.headerValueAlmostDone)

theorem elsewhere_data : Elsewhere .partData where
  name := by decide
  repeated := by
    rintro (h|h)
    · cases h
    · cases h
  line := by
    rintro (h|h)
    · cases h
    · cases h

theorem elsewhere_closed {state : State} (hs : state=.headerStart ∨ state=.end_) : Elsewhere state where
  name := by rcases hs with rfl | rfl <;> decide
  repeated := by
    rintro (h|h)
    · rw [h] at hs
      rcases hs with hs|hs <;> cases hs
    · rw [h] at hs
      rcases hs with hs|hs <;> cases hs
  line := by
    rintro (h|h)
    · rw [h] at hs
      rcases hs with hs|hs <;> cases hs
    · rw [h] at hs
      rcases hs with hs|hs <;> cases hs

/-- Where a turn leads outside the headers, the accounts are left to show. -/
theorem Went.elsewhere {calls : List Callback} (hs' : Elsewhere s'.core.state) (hbuffer : s'.buffer=s.buffer)
    (hsaved : s'.saved=none) (hout : s'.out=s.out++calls)
    (hbrackets : openAfter (inPart s.core) calls=some (inPart s'.core))
    (hspent : ∀ headed,cost boundary headed calls+standing s' (headedAfter headed calls)+s.i ≤
      standing s headed+s'.i) : Went boundary s s' calls where
  buffer := hbuffer
  saved := hsaved
  out := hout
  brackets := hbrackets
  spent := hspent
  doubling := fun h => absurd h hs'.repeated
  headed := fun _ _ h => absurd h hs'.line
  names := fun _ h => absurd h hs'.name

theorem inPart_closed {core : Core} (hstate : core.state=.headerStart ∨ core.state=.end_) : inPart core=false := by
  unfold inPart
  rcases hstate with hstate|hstate
  · rw [hstate]
    rfl
  · rw [hstate]
    rfl

theorem standing_closed (hstate : s.core.state=.headerStart ∨ s.core.state=.end_) (headed : Bool) :
    standing s headed=0 := by
  have hnone : s.core.state≠.partData := by
    rcases hstate with hstate|hstate
    · rw [hstate]
      decide
    · rw [hstate]
      decide
  rw [standing,waiting_outside hnone,progress]
  rcases hstate with hstate|hstate
  · rw [hstate]
  · rw [hstate]

section

variable (hs : s.core.state=.partData)
include hs

theorem inPart_data : inPart s.core=true := decide_eq_true (.inr hs)

theorem standing_data (headed : Bool) : standing s headed=s.core.index+waiting s := by
  unfold standing progress
  rw [hs]

theorem waiting_data (hzero : s.core.index=0) :
    waiting s=s.marks.partData.elim 0 (s.i - ·) := if_pos ⟨hs,hzero⟩

/-- Where the data is marked from the next byte on, nothing is to come. -/
theorem standing_fresh (hzero : s.core.index=0) (hmark : s.marks.partData=some s.i)
    (headed : Bool) : standing s headed=0 := by
  rw [standing_data hs,waiting_data hs hzero,hmark,hzero,Nat.zero_add]
  exact Nat.sub_self s.i

/-- A byte that ends the part or lets the match go on. -/
theorem went_match {e : Scan} (hmatch : MatchTurn boundary s e)
    (hgoes : 0<e.core.index ∨ e.core.state=.headerStart ∨ e.core.state=.end_) (hcore : s'.core=e.core)
    (hout : s'.out=e.out) (hbuffer : s'.buffer=s.buffer) (hsaved : s'.saved=none) (hplace : s'.i=s.i+1) :
    ∃ calls,Went boundary s s' calls := by
  have hopen : inPart s.core=true := inPart_data hs
  cases hmatch with
  | closes hindex hstate call hcall hout' =>
    have hstate' : s'.core.state=.headerStart ∨ s'.core.state=.end_ := by
      rw [hcore]
      exact hstate
    refine ⟨_,Went.elsewhere (elsewhere_closed hstate') hbuffer hsaved (hout.trans hout') ?_ ?_⟩
    · rw [hopen,inPart_closed hstate']
      rcases hcall with rfl|rfl
      · rfl
      · rfl
    · intro headed
      have hcost : cost boundary headed [.partEnd,call]=boundary.length+2 := by
        rcases hcall with rfl|rfl
        · rfl
        · rfl
      rw [standing_closed hstate',hcost,standing_data hs]
      omega
  | begins hzero hstate hindex hout' =>
    have hs' : s'.core.state=.partData := by rw [hcore,hstate,hs]
    obtain ⟨_,_,hopenAfter⟩ := cost_clear boundary s.marks.partData s.buffer s.i false
    refine ⟨_,Went.elsewhere (by rw [hs']; exact elsewhere_data) hbuffer hsaved (hout.trans hout') ?_ ?_⟩
    · rw [hopen,inPart_data hs',hopenAfter]
    · intro headed
      have hclear := (cost_clear boundary s.marks.partData s.buffer s.i headed).1
      have hpos : 0<s'.core.index := by
        rw [hcore,hindex]
        exact Nat.one_pos
      rw [standing_data hs',standing_data hs,waiting_matching hpos,waiting_data hs hzero,hcore,hindex,hzero,hplace]
      omega
  | goesOn hpos hstate hpos' hindex hout' =>
    have hs' : s'.core.state=.partData := by rw [hcore,hstate,hs]
    have hnone : s'.out=s.out++[] := by rw [hout,hout',append_nil]
    refine ⟨[],Went.elsewhere (by rw [hs']; exact elsewhere_data) hbuffer hsaved hnone ?_ ?_⟩
    · rw [hopen,inPart_data hs']
      rfl
    · intro headed
      have hindex' : s'.core.index ≤ s.core.index+1 := by
        rw [hcore]
        exact hindex
      have hpos'' : 0<s'.core.index := by
        rw [hcore]
        exact hpos'
      rw [standing_data hs',standing_data hs,waiting_matching hpos'',waiting_matching hpos,hplace]
      change 0+_+s.i≤_
      omega
  | breaksOff he =>
    subst he
    rcases hgoes with hgoes|hgoes|hgoes
    · exact absurd hgoes (Nat.lt_irrefl 0)
    · dsimp only at hgoes
      rw [hs] at hgoes
      cases hgoes
    · dsimp only at hgoes
      rw [hs] at hgoes
      cases hgoes

/-- The match is data, and the byte is looked at again. -/
theorem went_retry (hsaved : s.saved=none) (bytes : Bytes)
    (hbytes : bytes.length ≤ s.core.index) {e : Scan} (he : e={s with
      core := {s.core with index := 0}
      marks := {s.marks with partData := some s.i}
      out := s.out++[.partData bytes]}) : Went boundary s e [.partData bytes] := by
  have hs' : e.core.state=.partData := by
    rw [he]
    exact hs
  refine Went.elsewhere (by rw [hs']; exact elsewhere_data) (by rw [he]) (by rw [he]; exact hsaved) (by rw [he]) ?_ ?_
  · rw [inPart_data hs,inPart_data hs']
    rfl
  · intro headed
    have hcost : cost boundary headed [.partData bytes]=bytes.length := Nat.add_zero _
    have hafter : standing e headed=0 := standing_fresh hs' (by rw [he]) (by rw [he]) headed
    have hplace : e.i=s.i := by rw [he]
    change cost boundary headed [.partData bytes]+standing e headed+s.i≤_
    rw [hafter,hcost,standing_data hs,hplace]
    omega

theorem went_data (hsaved : s.saved=none) (hzero : s.core.index=0) {n : ℕ}
    (hn : s.i≤n) : Went boundary s {s with i := n} [] := by
  refine Went.elsewhere (by dsimp only; rw [hs]; exact elsewhere_data) rfl hsaved (append_nil _).symm rfl ?_
  intro headed
  have hbefore : standing s headed=s.core.index+s.marks.partData.elim 0 (s.i - ·) := by
    rw [standing_data hs,waiting_data hs hzero]
  have hafter : standing {s with i := n} headed=s.core.index+s.marks.partData.elim 0 (n - ·) := by
    rw [standing_data (s := {s with i := n}) hs,waiting_data (s := {s with i := n}) hs hzero]
  change 0+standing {s with i := n} headed+s.i ≤ standing s headed+n
  rw [hbefore,hafter]
  cases s.marks.partData with
  | none | some =>
    dsimp only [Option.elim]
    omega

end

theorem went_matchTurn (hne : boundary≠[]) (hs : s.core.state=.partData) (hsaved : s.saved=none) (c : UInt8)
    (s' : Scan) : (matchTurn boundary s c=.next s' → ∃ calls,Went boundary s {s' with i := s'.i+1} calls ∧ s'.i=s.i) ∧
      (matchTurn boundary s c=.retry s' → ∃ calls,Went boundary s s' calls ∧ s'.i=s.i) := by
  obtain ⟨hmatch,⟨hbuffer,hsaved',hplace⟩,hdone,hon⟩ := matchBoundary_cases hne s c
  unfold matchTurn
  cases hresult : matchBoundary boundary s c with
  | mk e done =>
    rw [hresult] at hmatch hbuffer hsaved' hplace hdone hon
    cases done with
    | true =>
      refine ⟨fun h => ?_,nofun⟩
      cases h
      have hmatched : ∃ calls,Went boundary s {s' with i := s'.i+1} calls :=
        went_match hs hmatch (.inr (hdone rfl)) rfl rfl hbuffer (hsaved'.trans hsaved) (by rw [hplace])
      obtain ⟨calls,hwent⟩ := hmatched
      exact ⟨calls,hwent,hplace⟩
    | false =>
      dsimp only
      unfold holdBack
      by_cases hpos : 0<e.core.index
      · rw [if_pos hpos]
        by_cases hlong : e.lookbehind.length≤e.core.index-1
        · rw [if_pos hlong]
          exact ⟨nofun,nofun⟩
        · rw [if_neg hlong]
          refine ⟨fun h => ?_,nofun⟩
          cases h
          have hmatched : ∃ calls,Went boundary s
              {e with lookbehind := e.lookbehind.set (e.core.index-1) c,i := e.i+1} calls :=
            went_match hs hmatch (.inl hpos) rfl rfl hbuffer (hsaved'.trans hsaved) (by rw [hplace])
          obtain ⟨calls,hwent⟩ := hmatched
          exact ⟨calls,hwent,hplace⟩
      · rw [if_neg hpos]
        have hreset : e={s with core := {s.core with index := 0}} := by
          have hstate := (hon rfl).resolve_right hpos
          cases hmatch with
          | closes _ hclosed =>
            rw [hstate,hs] at hclosed
            rcases hclosed with hclosed|hclosed
            · cases hclosed
            · cases hclosed
          | begins _ _ hindex =>
            rw [hindex] at hpos
            exact absurd Nat.one_pos hpos
          | goesOn _ _ hpos' => exact absurd hpos' hpos
          | breaksOff he => exact he
        subst hreset
        by_cases hprev : 0<s.core.index
        · rw [if_pos hprev]
          refine ⟨nofun,fun h => ?_⟩
          cases h
          refine ⟨_,went_retry hs hsaved (s.lookbehind.take s.core.index) ?_ rfl,rfl⟩
          rw [length_take]
          exact Nat.min_le_left _ _
        · rw [if_neg hprev]
          refine ⟨fun h => ?_,nofun⟩
          cases h
          have hzero : s.core.index=0 := Nat.eq_zero_of_not_pos hprev
          have hsame : ({s with core := {s.core with index := 0},i := s.i+1} : Scan)={s with i := s.i+1} := by
            rw [←hzero]
          refine ⟨[],?_,rfl⟩
          rw [hsame]
          exact went_data hs hsaved hzero (Nat.le_succ _)

/-- The search stays in the buffer and goes forward. -/
theorem skip_le (boundary : Bytes) (fuel : ℕ) {buffer : Bytes} {i : ℕ} (hi : i≤buffer.length) :
    i ≤ skip boundary buffer fuel i ∧ skip boundary buffer fuel i≤buffer.length := by
  induction fuel generalizing i with
  | zero => exact ⟨Nat.le_refl _,hi⟩
  | succ fuel ih =>
    rw [skip]
    split
    · next hfits =>
      split
      · exact ⟨Nat.le_refl _,hi⟩
      · obtain ⟨hfrom,hto⟩ := ih hfits
        exact ⟨by omega,hto⟩
    · exact ⟨Nat.le_refl _,hi⟩

/-- At the next byte, or at the end of the chunk. -/
def Scan.behind (s : Scan) : Scan := {s with i := min (s.i+1) s.buffer.length}

theorem behind_eq (h : s.i<s.buffer.length) : Scan.behind s={s with i := s.i+1} := by
  unfold Scan.behind
  rw [Nat.min_eq_left h]

theorem went_processPartData (hne : boundary≠[]) (hs : s.core.state=.partData) (hsaved : s.saved=none)
    (hi : s.i<s.buffer.length) (c : UInt8) (s' : Scan) :
    (processPartData boundary s c=.next s' → ∃ calls,Went boundary s (Scan.behind s') calls) ∧
      (processPartData boundary s c=.retry s' → ∃ calls,Went boundary s s' calls ∧ s'.i<s'.buffer.length) := by
  unfold processPartData
  by_cases hzero : s.core.index=0
  · rw [if_pos hzero]
    obtain ⟨hfrom,hto⟩ := skip_le boundary s.buffer.length (Nat.le_of_lt hi)
    generalize skip boundary s.buffer s.buffer.length s.i=j at hfrom hto ⊢
    have hskip : Went boundary s {s with i := j} [] := went_data hs hsaved hzero hfrom
    by_cases hend : j=s.buffer.length
    · rw [if_pos hend]
      refine ⟨fun h => ?_,nofun⟩
      cases h
      refine ⟨[],?_⟩
      have hbehind : Scan.behind {s with i := j}={s with i := j} := by
        unfold Scan.behind
        rw [hend,Nat.min_eq_right (Nat.le_succ _)]
      rw [hbehind]
      exact hskip
    · rw [if_neg hend]
      have hlt : j<s.buffer.length := Nat.lt_of_le_of_ne hto hend
      obtain ⟨hnext,hretry⟩ := went_matchTurn (s := {s with i := j}) hne hs hsaved (s.buffer.getD j 0) s'
      refine ⟨fun h => ?_,fun h => ?_⟩
      · obtain ⟨calls,hwent,hplace⟩ := hnext h
        rw [behind_eq (by rw [hplace,hwent.buffer]; exact hlt)]
        exact ⟨_,hskip.trans hwent⟩
      · obtain ⟨calls,hwent,hplace⟩ := hretry h
        exact ⟨_,hskip.trans hwent,by rw [hplace,hwent.buffer]; exact hlt⟩
  · rw [if_neg hzero]
    obtain ⟨hnext,hretry⟩ := went_matchTurn hne hs hsaved c s'
    refine ⟨fun h => ?_,fun h => ?_⟩
    · obtain ⟨calls,hwent,hplace⟩ := hnext h
      rw [behind_eq (by rw [hplace,show s'.buffer=s.buffer from hwent.buffer]; exact hi)]
      exact ⟨_,hwent⟩
    · obtain ⟨calls,hwent,hplace⟩ := hretry h
      exact ⟨_,hwent,by rw [hplace,hwent.buffer]; exact hi⟩

theorem processPartData_ne_stop (s s' : Scan) (c : UInt8) : processPartData boundary s c≠.stop s' := by
  have hmatch : ∀ (e : Scan) (c : UInt8),matchTurn boundary e c≠.stop s' := by
    intro e c h
    unfold matchTurn at h
    cases hresult : matchBoundary boundary e c with
    | mk f done =>
      rw [hresult] at h
      cases done with
      | true => cases h
      | false =>
        dsimp only at h
        unfold holdBack at h
        split at h
        · split at h
          · cases h
          · cases h
        · split at h
          · cases h
          · cases h
  unfold processPartData
  split
  · dsimp only
    split
    · exact nofun
    · exact hmatch _ _
  · exact hmatch _ _

theorem went_partDataStart (hs : s.core.state=.partDataStart) (hsaved : s.saved=none) {e : Scan} (he : e={s with
      core := {s.core with state := .partData}
      marks := {s.marks with partData := some s.i}}) : Went boundary s e [] := by
  have hs' : e.core.state=.partData := by rw [he]
  have hindex : e.core.index=s.core.index := by rw [he]
  have hplace : e.i=s.i := by rw [he]
  have hout : e.out=s.out++[] := by
    rw [he]
    exact (append_nil _).symm
  refine Went.elsewhere (by rw [hs']; exact elsewhere_data) (by rw [he]) (by rw [he]; exact hsaved) hout ?_ ?_
  · have hopen : inPart s.core=true := decide_eq_true (.inl hs)
    rw [hopen,inPart_data hs']
    rfl
  · intro headed
    have hbefore : standing s headed=s.core.index+waiting s := by
      unfold standing progress
      rw [hs]
    change 0+standing e headed+s.i≤_
    by_cases hzero : s.core.index=0
    · have hafter : standing e headed=0 :=
        standing_fresh hs' (hindex.trans hzero) (by rw [he]) headed
      omega
    · have hmatching : waiting e=0 := waiting_matching (by rw [hindex]; exact Nat.pos_of_ne_zero hzero)
      rw [standing_data hs',hmatching,hbefore]
      omega

end

end AlexaClientSDK.MultipartTurns
