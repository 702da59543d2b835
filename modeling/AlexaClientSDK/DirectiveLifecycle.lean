import AlexaClientSDK.DirectiveStages

/-!
# The life of a directive

A directive is in at most one container of the processor, is handed over at most once and cancelled at most once, and is
not handed over after it was queued for cancelling. At the shutdown the processor lets go of every directive: by
cancelling it, or before that because the handler reported a result, refused it, or holds no medium any longer.
-/

namespace AlexaClientSDK.DirectiveLifecycle

open List Option Lifecycles LabelledRuns DirectiveProcessor DirectiveStages Processor

variable {δ : Type} {s : Processor δ}

/-- Nothing is pre-handled, waits or occupies a medium. -/
structure Idle (s : Processor δ) : Prop where
  preHandled : s.directiveBeingPreHandled=none
  queue : s.handlingQueue=[]
  media : ∀ m,s.directivesBeingHandled m=none

/-- At the shutdown a processor is idle, and afterwards has nothing to cancel. -/
structure Closed (s : Processor δ) : Prop where
  idle : s.isShuttingDown=true → Idle s
  exited : s.loop=.exited → s.isShuttingDown=true ∧ s.cancelingQueue=[]

theorem idle_withdraw (h : Idle s) (leaves : δ → Bool) (moved : List δ) : Idle (s.withdraw leaves moved) := by
  refine ⟨?_,?_,fun m => ?_⟩
  all_goals dsimp only [withdraw]
  · rw [h.preHandled]
    rfl
  · rw [h.queue]
    rfl
  · rw [h.media m]
    rfl

theorem closed_serve (h : s.isShuttingDown=true → Idle s) : Closed s.serve := by
  unfold serve
  split
  · rename_i before next after hnext
    refine ⟨fun hshut => ?_,nofun⟩
    have hqueue := (nextUnblocked_spec hnext).1
    rw [(h hshut).queue] at hqueue
    exact absurd hqueue.symm (by simp)
  · split
    · exact ⟨fun hshut => ⟨(h hshut).preHandled,(h hshut).queue,(h hshut).media⟩,nofun⟩
    · rename_i hnil
      split
      · rename_i hshut
        exact ⟨fun hshut => ⟨(h hshut).preHandled,(h hshut).queue,(h hshut).media⟩,fun _ => ⟨hshut,not_not.mp hnil⟩⟩
      · exact ⟨fun hshut => ⟨(h hshut).preHandled,(h hshut).queue,(h hshut).media⟩,nofun⟩

variable [DecidableEq δ] {S : Setting δ}

inductive Place
  | preHandling
  | handlingQueue
  | beingHandled
  | cancelingQueue
  | beingCanceled
  deriving DecidableEq

def Holds (s : Processor δ) (d : δ) : Place → Prop
  | .preHandling => s.directiveBeingPreHandled=some d
  | .handlingQueue => ∃ p,(d,p)∈s.handlingQueue
  | .beingHandled => ∃ m,s.directivesBeingHandled m=some d
  | .cancelingQueue => d∈s.cancelingQueue
  | .beingCanceled => d∈s.loop.batch

def placeOf : Stage → Option Place
  | .fresh => none
  | .preHandling => some .preHandling
  | .waiting _ => some .handlingQueue
  | .handling _ => some .beingHandled
  | .cancelQueued => some .cancelingQueue
  | .cancelling => some .beingCanceled
  | .out => none

theorem placeOf_holds {st : δ → Stage} (h : Agree s st) {d : δ} {place : Place}
    (hholds : Holds s d place) : placeOf (st d)=some place := by
  cases place with
  | preHandling => rw [(h.preHandled d).mp hholds]; rfl
  | handlingQueue =>
    obtain ⟨p,hp⟩ := hholds
    rw [(h.queued d p).mp hp]
    rfl
  | beingHandled =>
    obtain ⟨m,hm⟩ := hholds
    obtain ⟨p,hp,_⟩ := (h.handled d m).mp hm
    rw [hp]
    rfl
  | cancelingQueue => rw [(h.canceling d).mp hholds]; rfl
  | beingCanceled => rw [(h.canceled d).mp hholds]; rfl

variable {events : List (Event δ)}

/-- Containers and histories go together in every run. -/
theorem agree_run (run : Run (Step S) init events s) : ∃ st,Agree s st :=
  run.invariant (fun s => ∃ st,Agree s st) ⟨_,agree_init⟩ fun _ _ _ ⟨_,h⟩ hstep => agree_step h hstep

/-- Refused, with a result, cancelled, or handed over without a medium. -/
def letsGo : Kind → Bool
  | .refused => true
  | .completed => true
  | .failed => true
  | .canceled => true
  | .returned policy succeeded => !succeeded || !policy.isBlocking
  | .handed policy => !policy.usesAny
  | _ => false

theorem letsGo_of_out {stage : Stage} {kind : Kind} (h : stage.next kind=some .out)
    (hstage : stage≠.out) : letsGo kind=true := by
  cases stage <;> cases kind <;>
    simp only [Stage.next,reduceCtorEq,some.injEq] at h
  case waiting.handed p q =>
    split at h
    · rename_i hpolicy
      rw [some.injEq] at h
      split at h
      · cases h
      · rename_i hany
        rw [hpolicy]
        simpa [letsGo] using hany
    · cases h
  case handling.returned p q succeeded =>
    split at h
    · rename_i hpolicy
      rw [some.injEq] at h
      split at h
      · cases h
      · rename_i hkeeps
        rw [hpolicy,letsGo,←Bool.not_and,Bool.not_eq_true',←Bool.not_eq_true]
        exact hkeeps
    · cases h
  case out.completed => exact absurd rfl hstage
  case out.failed => exact absurd rfl hstage
  case out.returned => exact absurd rfl hstage
  all_goals rfl

theorem letsGo_of_walk {word : List Kind} {stage : Stage}
    (h : walk Stage.next stage word=some .out) (hstage : stage≠.out) : ∃ kind∈word,letsGo kind=true := by
  induction word generalizing stage with
  | nil => exact absurd (some.inj h) hstage
  | cons kind word ih =>
    obtain ⟨stage',hnext,hrest⟩ := walk_cons_inv h
    by_cases hout : stage'=.out
    · rw [hout] at hnext
      exact ⟨kind,mem_cons_self,letsGo_of_out hnext hstage⟩
    · obtain ⟨kind',hmem,hgo⟩ := ih hrest hout
      exact ⟨kind',mem_cons_of_mem _ hmem,hgo⟩

theorem usesAny_of_handling {word : List Kind} {p : BlockingPolicy}
    (h : walk Stage.next .fresh word=some (.handling p)) : p.usesAny=true := by
  have hall : ∀ q,Stage.handling p=.handling q → q.usesAny=true := by
    refine walk_invariant (P := fun stage => ∀ q,stage=.handling q → q.usesAny=true) h (by simp) ?_
    intro stage kind stage' _ hstage hnext q hq
    rw [hq] at hnext
    cases stage <;> cases kind <;>
      simp only [Stage.next,reduceCtorEq,some.injEq] at hnext
    case waiting.handed p' q' =>
      split at hnext
      · rw [some.injEq] at hnext
        split at hnext
        · rename_i hany
          cases hnext
          exact hany
        · cases hnext
      · cases hnext
    case handling.returned p' q' succeeded =>
      split at hnext
      · rw [some.injEq] at hnext
        split at hnext
        · cases hnext
          exact hstage _ rfl
        · cases hnext
      · cases hnext
  exact hall p rfl

theorem freed_idle (h : Idle s) (leaves : δ → Bool) : freed S s.directivesBeingHandled leaves=[] := by
  unfold freed
  rw [h.media,h.media]
  rfl

theorem scrub_idle (h : Idle s) (dialogRequestId : String) : Idle (s.scrubDialogRequestId S dialogRequestId) ∧
      (s.scrubDialogRequestId S dialogRequestId).cancelingQueue=s.cancelingQueue := by
  unfold scrubDialogRequestId
  split
  · exact ⟨h,rfl⟩
  · obtain ⟨h1,h2,h3⟩ := idle_withdraw h (fun d => decide (S.dialogRequestId d=dialogRequestId))
      ((s.directiveBeingPreHandled.filter fun d => decide (S.dialogRequestId d=dialogRequestId)).toList ++
        freed S s.directivesBeingHandled (fun d => decide (S.dialogRequestId d=dialogRequestId)) ++
        leaving s.handlingQueue fun d => decide (S.dialogRequestId d=dialogRequestId))
    refine ⟨⟨h1,h2,h3⟩,?_⟩
    dsimp only [withdraw]
    rw [freed_idle h,h.preHandled,h.queue]
    exact append_nil _

theorem idle_queueAll (S : Setting δ) (s : Processor δ) : Idle (s.queueAllDirectivesForCancellation S) := by
  refine ⟨?_,?_,fun m => ?_⟩
  all_goals dsimp only [queueAllDirectivesForCancellation,withdraw]
  · cases s.directiveBeingPreHandled <;> rfl
  · exact filter_eq_nil_iff.mpr fun _ _ => nofun
  · cases s.directivesBeingHandled m <;> rfl

theorem cancelingQueue_queueAll (h : Idle s) :
    (s.queueAllDirectivesForCancellation S).cancelingQueue=s.cancelingQueue := by
  dsimp only [queueAllDirectivesForCancellation,withdraw]
  rw [freed_idle h,h.preHandled,h.queue]
  exact append_nil _

theorem idle_removeDirective (h : Idle s) (d : δ) : Idle (s.removeDirective d) := by
  refine ⟨?_,?_,fun m => ?_⟩
  all_goals dsimp only [removeDirective]
  · rw [h.preHandled]
    rfl
  · rw [h.queue]
    rfl
  · rw [h.media m]
    rfl

theorem idle_handlerReturned (h : Idle s) (d : δ) (p : BlockingPolicy) (succeeded : Bool) :
    Idle (s.handlerReturned S d p succeeded) := by
  unfold handlerReturned
  dsimp only
  have hcleared : Idle (if succeeded=false ∨ p.isBlocking=false then
      ({s with history := s.history++[(d,.returned p succeeded)]} : Processor δ).clearDirectiveBeingHandled p
      else {s with history := s.history++[(d,.returned p succeeded)]}) := by
    split
    · refine ⟨h.preHandled,h.queue,fun m => ?_⟩
      dsimp only [clearDirectiveBeingHandled]
      rw [h.media m,ite_self]
    · exact ⟨h.preHandled,h.queue,h.media⟩
  split
  · exact hcleared
  · exact (scrub_idle hcleared _).1

omit [DecidableEq δ] in
/-- A step that only withdraws and leaves the loop alone. -/
theorem Closed.quietly {t : Processor δ} (h : Closed s) (hloop : t.loop=s.loop)
    (hshut : t.isShuttingDown=s.isShuttingDown)
    (hidle : Idle s → Idle t ∧ (s.cancelingQueue=[] → t.cancelingQueue=[])) : Closed t := by
  refine ⟨fun ht => ?_,fun ht => ?_⟩
  · rw [hshut] at ht
    exact (hidle (h.idle ht)).1
  · rw [hloop] at ht
    obtain ⟨hs,hnil⟩ := h.exited ht
    rw [hshut]
    exact ⟨hs,(hidle (h.idle hs)).2 hnil⟩

omit [DecidableEq δ] in
/-- A processor that shuts down takes no directive. -/
theorem closed_beginDirective (h : Closed s) (d : δ) (p : BlockingPolicy) : Closed (s.beginDirective S d p).2 := by
  unfold beginDirective
  split
  · exact h
  · rename_i hopen
    split
    · exact h
    · have hshut : s.isShuttingDown=false := by
        rw [not_or,Bool.not_eq_true] at hopen
        exact hopen.1
      refine ⟨fun ht => ?_,fun ht => ?_⟩
      · dsimp only at ht
        rw [hshut] at ht
        cases ht
      · obtain ⟨hs,_⟩ := h.exited ht
        rw [hshut] at hs
        cases hs

section

variable (h : Closed s)
include h

omit [DecidableEq δ] in
theorem closed_endDirective (d : δ) (p : BlockingPolicy) (preHandled : Bool) :
    Closed (s.endDirective d p preHandled).2 := by
  cases hpre : s.directiveBeingPreHandled with
  | none =>
    have hend : (s.endDirective d p preHandled).2={s with preHandling := none} := by
      simp only [endDirective,hpre]
    rw [hend]
    exact h.quietly rfl rfl fun hidle => ⟨⟨hidle.preHandled,hidle.queue,hidle.media⟩,id⟩
  | some =>
    have hopen : ¬Idle s := by
      intro hidle
      rw [hidle.preHandled] at hpre
      cases hpre
    have hframe : (s.endDirective d p preHandled).2.loop=s.loop ∧
        (s.endDirective d p preHandled).2.isShuttingDown=s.isShuttingDown := by
      simp only [endDirective,hpre]
      cases preHandled <;> exact ⟨rfl,rfl⟩
    exact h.quietly hframe.1 hframe.2 fun hidle => absurd hidle hopen

theorem closed_setDialogRequestId (dialogRequestId : String) : Closed (s.setDialogRequestId S dialogRequestId) := by
  unfold setDialogRequestId
  split
  · exact h
  · obtain ⟨hloop,_,hshut⟩ := scrubDialogRequestId_frame S s s.dialogRequestId
    refine h.quietly hloop hshut fun hidle => ?_
    obtain ⟨⟨h1,h2,h3⟩,hsame⟩ := scrub_idle (S := S) hidle s.dialogRequestId
    exact ⟨⟨h1,h2,h3⟩,fun hnil => hsame.trans hnil⟩

theorem closed_setCompleted (d : δ) : Closed (s.setCompleted d) := by
  unfold setCompleted
  split
  · refine h.quietly rfl rfl fun hidle => ?_
    obtain ⟨h1,h2,h3⟩ := idle_removeDirective hidle d
    refine ⟨⟨h1,h2,h3⟩,fun hnil => ?_⟩
    dsimp only [removeDirective]
    rw [hnil]
    rfl
  · exact h

theorem closed_setFailed (d : δ) : Closed (s.setFailed S d) := by
  unfold setFailed
  split
  · obtain ⟨hloop,_,hshut⟩ := scrubDialogRequestId_frame S ({s.removeDirective d with
      history := s.history++[(d,.failed)]} : Processor δ) (S.dialogRequestId d)
    refine h.quietly hloop hshut fun hidle => ?_
    obtain ⟨h1,h2,h3⟩ := idle_removeDirective hidle d
    have hremoved : Idle ({s.removeDirective d with
      history := s.history++[(d,.failed)]} : Processor δ) := ⟨h1,h2,h3⟩
    obtain ⟨hscrubbed,hsame⟩ := scrub_idle (S := S) hremoved (S.dialogRequestId d)
    refine ⟨hscrubbed,fun hnil => hsame.trans ?_⟩
    dsimp only [removeDirective]
    rw [hnil]
    rfl
  · exact h

/-- Every step keeps a processor that shuts down idle. -/
theorem closed_step {s' : Processor δ} {e : Event δ} (hstep : Step S s e s') : Closed s' := by
  cases hstep with
  | @beginDirective d p => exact closed_beginDirective h d p
  | @endDirective d p running preHandled => exact closed_endDirective h d p preHandled
  | setDialogRequestId dialogRequestId => exact closed_setDialogRequestId h dialogRequestId
  | @setCompleted d => exact closed_setCompleted h d
  | @setFailed d => exact closed_setFailed h d
  | disable =>
    obtain ⟨h1,h2,h3⟩ := idle_queueAll S s
    refine h.quietly rfl rfl fun hidle => ⟨⟨h1,h2,h3⟩,fun hnil => ?_⟩
    exact (cancelingQueue_queueAll hidle).trans hnil
  | enable | unregister => exact h.quietly rfl rfl fun hidle => ⟨⟨hidle.preHandled,hidle.queue,hidle.media⟩,id⟩
  | shutdown =>
    obtain ⟨h1,h2,h3⟩ := idle_queueAll S s
    refine ⟨fun _ => ⟨h1,h2,h3⟩,fun ht => ?_⟩
    obtain ⟨hs,hnil⟩ := h.exited ht
    exact ⟨rfl,(cancelingQueue_queueAll (h.idle hs)).trans hnil⟩
  | wake =>
    unfold Processor.pass
    split
    · refine ⟨fun hshut => ?_,nofun⟩
      exact ⟨(h.idle hshut).preHandled,(h.idle hshut).queue,(h.idle hshut).media⟩
    · exact closed_serve h.idle
  | cancelDirective =>
    refine ⟨fun hshut => ?_,nofun⟩
    exact ⟨(h.idle hshut).preHandled,(h.idle hshut).queue,(h.idle hshut).media⟩
  | batchDone => exact closed_serve h.idle
  | @handlerReturned d p calling succeeded =>
    refine closed_serve fun hshut => ?_
    rw [(handlerReturned_frame S s d p succeeded).2.2] at hshut
    exact idle_handlerReturned (h.idle hshut) d p succeeded

end

theorem closed_run (run : Run (Step S) init events s) : Closed s :=
  run.invariant Closed ⟨nofun,nofun⟩ fun _ _ _ h hstep => closed_step h hstep

/-- In every run: one container at a time, one hand-over and one cancellation at most, no hand-over behind the
queueing for cancellation, and when the processing thread has ended, the processor has let go of every directive
that it took. -/
theorem directive_lifecycle (S : Setting δ) (events : List (Event δ)) (s : Processor δ)
    (run : Run (Step S) init events s) (d : δ) :
    (∀ place place',Holds s d place → Holds s d place' → place=place') ∧
    (marksOf d s.history).countP isHanded≤1 ∧ (marksOf d s.history).countP (fun kind => kind=.canceled)≤1 ∧
    (∀ before after,marksOf d s.history=before++.canceling::after →
      ∀ kind∈after,isHanded kind=false) ∧ (s.loop=.exited → (d,.begun)∈s.history →
      ∃ kind∈marksOf d s.history,letsGo kind=true) := by
  obtain ⟨st,hagree⟩ := agree_run run
  have hlegal := hagree.legal d
  refine ⟨fun place place' hp hp' => ?_,?_,?_,fun before after hword kind hkind => ?_,fun hexited hbegun => ?_⟩
  · have hplace := placeOf_holds hagree hp
    rw [placeOf_holds hagree hp',some.injEq] at hplace
    exact hplace.symm
  · exact countP_le_one rank_mono 3 rank_handed hlegal
  · refine countP_le_one rank_mono 6 (fun stage kind stage' hkind hnext => ?_) hlegal
    rw [decide_eq_true_eq] at hkind
    rw [hkind] at hnext
    obtain ⟨rfl,rfl⟩ := rank_canceled stage stage' hnext
    decide
  · rw [hword] at hlegal
    rw [←Bool.not_eq_true]
    refine not_mem_behind (A := fun kind => kind=.canceling) (B := fun kind => isHanded kind=true)
      rank_mono 4 (fun stage kind stage' hcanceling hnext => ?_)
      (fun stage kind stage' hhanded hnext => ?_) rfl hlegal kind hkind
    · rw [hcanceling] at hnext
      rw [(rank_canceling stage stage' hnext).2]
      exact Nat.le_refl 4
    · have hlt := (rank_handed stage kind stage' hhanded hnext).1
      omega
  · -- no container holds anything any more
    obtain ⟨hshut,hnil⟩ := (closed_run run).exited hexited
    have hidle := (closed_run run).idle hshut
    have hout : st d=.out := by
      cases hst : st d with
      | fresh => exact absurd hst (not_fresh_of_begun hagree.legal hbegun)
      | preHandling =>
        rw [←hagree.preHandled,hidle.preHandled] at hst
        exact absurd hst nofun
      | waiting =>
        rw [←hagree.queued,hidle.queue] at hst
        exact absurd hst not_mem_nil
      | handling p =>
        rw [hst] at hlegal
        have hany := usesAny_of_handling hlegal
        have hmedium : ∃ m,p.uses m=true := by
          rcases Bool.or_eq_true_iff.mp hany with haudio|hvisual
          · exact ⟨.audio,haudio⟩
          · exact ⟨.visual,hvisual⟩
        obtain ⟨m,hm⟩ := hmedium
        have hheld := (hagree.handled d m).mpr ⟨p,hst,hm⟩
        rw [hidle.media m] at hheld
        exact absurd hheld nofun
      | cancelQueued =>
        rw [←hagree.canceling,hnil] at hst
        exact absurd hst not_mem_nil
      | cancelling =>
        rw [←hagree.canceled,hexited] at hst
        exact absurd hst not_mem_nil
      | out => rfl
    rw [hout] at hlegal
    exact letsGo_of_walk hlegal nofun

def oneDirective : Setting Unit := ⟨fun _ => "",fun _ _ => false⟩

/-- A directive that blocks the audio medium is cancelled at the shutdown. -/
theorem directive_lifecycle_canceled : ∃ (events : List (Event Unit)) (s : Processor Unit),
      Run (Step oneDirective) init events s ∧ s.loop=.exited ∧ ((),Kind.canceled)∈s.history ∧
      (marksOf () s.history).countP isHanded≤1 ∧ ∃ kind∈marksOf () s.history,letsGo kind=true := by
  have hrun : Run (Step oneDirective) init
      [.beginDirective () ⟨true,false,true⟩,.endDirective true,.wake,.unregister,.shutdown,
        .handlerReturned true,.cancelDirective,.batchDone] _ :=
    (((((((Run.refl.snoc (.beginDirective rfl nofun)).snoc (.endDirective rfl true)).snoc
      (.wake rfl rfl)).snoc .unregister).snoc (.shutdown rfl)).snoc (.handlerReturned rfl true)).snoc
        (.cancelDirective rfl)).snoc (.batchDone rfl)
  obtain ⟨_,hhanded,_,_,hout⟩ := directive_lifecycle oneDirective _ _ hrun ()
  exact ⟨_,_,hrun,rfl,by decide,hhanded,hout rfl (by decide)⟩

/-- It is neither completed nor cancelled at the shutdown. -/
theorem shutdown_without_canceling : ∃ (events : List (Event Unit)) (s : Processor Unit),
      Run (Step oneDirective) init events s ∧ s.loop=.exited ∧
      ((),Kind.queued ⟨true,false,false⟩)∈s.history ∧ ((),Kind.completed)∉s.history ∧
      ((),Kind.failed)∉s.history ∧ ((),Kind.canceled)∉s.history := by
  have hrun : Run (Step oneDirective) init
      [.beginDirective () ⟨true,false,false⟩,.endDirective true,.wake,.handlerReturned true,
        .unregister,.shutdown,.wake] _ :=
    ((((((Run.refl.snoc (.beginDirective rfl nofun)).snoc (.endDirective rfl true)).snoc
      (.wake rfl rfl)).snoc (.handlerReturned rfl true)).snoc .unregister).snoc (.shutdown rfl)).snoc (.wake rfl rfl)
  exact ⟨_,_,hrun,rfl,by decide,by decide,by decide,by decide⟩

end AlexaClientSDK.DirectiveLifecycle
