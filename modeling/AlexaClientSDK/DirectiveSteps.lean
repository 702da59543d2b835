import AlexaClientSDK.DirectiveLifecycle

/-!
# What a step does to the queue

Most steps are quiet: they add neither a directive to the handling queue nor a hand-over to the history. The others are
the two halves of `onDirective` and the hand-over, in one place of the processing loop.
-/

namespace AlexaClientSDK.DirectiveSteps

open List Lifecycles LabelledRuns DirectiveProcessor DirectiveStages DirectiveLifecycle Processor

variable {δ : Type} {s s' t : Processor δ}

/-- A directive joins the handling queue. -/
def isQueued : Kind → Bool
  | .queued _ => true
  | _ => false

/-- Neither a directive that joins the queue nor a hand-over. -/
def isQuiet (kind : Kind) : Bool := !isQueued kind && !isHanded kind

/-- Directives only leave, and nothing is queued or handed over. -/
structure Quiet (s s' : Processor δ) : Prop where
  queue : s'.handlingQueue.Sublist s.handlingQueue
  running : s'.preHandling=s.preHandling
  history : ∃ more,s'.history=s.history++more ∧ ∀ mark∈more,isQuiet mark.2=true

theorem quiet_frame (hqueue : s'.handlingQueue=s.handlingQueue)
    (hrunning : s'.preHandling=s.preHandling) (hhistory : s'.history=s.history) : Quiet s s' := by
  refine ⟨?_,hrunning,[],?_,nofun⟩
  · rw [hqueue]
  · rw [hhistory,append_nil]

theorem Quiet.refl (s : Processor δ) : Quiet s s := quiet_frame rfl rfl rfl

theorem Quiet.trans (h : Quiet s t) (h' : Quiet t s') : Quiet s s' := by
  obtain ⟨more,hmore,hquiet⟩ := h.history
  obtain ⟨more',hmore',hquiet'⟩ := h'.history
  refine ⟨h'.queue.trans h.queue,h'.running.trans h.running,more++more',?_,fun mark hmark => ?_⟩
  · rw [hmore',hmore,append_assoc]
  · rcases mem_append.mp hmark with hmark|hmark
    · exact hquiet mark hmark
    · exact hquiet' mark hmark

section

variable (hqueue : s'.handlingQueue.Sublist s.handlingQueue) (hrunning : s'.preHandling=s.preHandling)
include hqueue hrunning

theorem quiet_snoc {d : δ} {kind : Kind}
    (hhistory : s'.history=s.history++[(d,kind)]) (hkind : isQuiet kind=true) : Quiet s s' := by
  refine ⟨hqueue,hrunning,[(d,kind)],hhistory,fun mark hmark => ?_⟩
  rw [mem_singleton.mp hmark]
  exact hkind

theorem quiet_map {moved : List δ} {kind : Kind}
    (hhistory : s'.history=s.history++moved.map fun d => (d,kind)) (hkind : isQuiet kind=true) : Quiet s s' := by
  refine ⟨hqueue,hrunning,_,hhistory,fun mark hmark => ?_⟩
  obtain ⟨d,_,rfl⟩ := mem_map.mp hmark
  exact hkind

end

theorem quiet_takeCancelingQueue (s : Processor δ) : Quiet s s.takeCancelingQueue :=
  quiet_map (List.Sublist.refl _) rfl rfl rfl

theorem serve_cases (s : Processor δ) : (∃ before next after,s.getNextUnblockedDirective=some (before,next,after) ∧
      s.serve=s.handOver before next after) ∨ Quiet s s.serve := by
  unfold serve
  split
  · rename_i before next after hnext
    exact .inl ⟨before,next,after,hnext,rfl⟩
  · refine .inr ?_
    split
    · exact quiet_takeCancelingQueue s
    · split <;> exact quiet_frame rfl rfl rfl

variable [DecidableEq δ] {S : Setting δ}

section

variable (S)

theorem quiet_scrubDialogRequestId (s : Processor δ) (dialogRequestId : String) :
    Quiet s (s.scrubDialogRequestId S dialogRequestId) := by
  unfold scrubDialogRequestId
  split
  · exact Quiet.refl s
  · exact quiet_map filter_sublist rfl rfl rfl

theorem quiet_queueAll (s : Processor δ) : Quiet s (s.queueAllDirectivesForCancellation S) :=
  quiet_map filter_sublist rfl rfl rfl

theorem quiet_handlerReturned (s : Processor δ) (d : δ) (p : BlockingPolicy)
    (succeeded : Bool) : Quiet s (s.handlerReturned S d p succeeded) := by
  unfold handlerReturned
  dsimp only
  have hcleared : Quiet s (if succeeded=false ∨ p.isBlocking=false then
      ({s with history := s.history++[(d,.returned p succeeded)]} : Processor δ).clearDirectiveBeingHandled p
      else {s with history := s.history++[(d,.returned p succeeded)]}) := by
    split <;> exact quiet_snoc (List.Sublist.refl _) rfl rfl rfl
  split
  · exact hcleared
  · exact hcleared.trans (quiet_scrubDialogRequestId S _ _)

end

/-- `onDirective`, when it goes on to `preHandleDirective`. -/
structure Begins (s s' : Processor δ) (d : δ) (p : BlockingPolicy) : Prop where
  free : s.preHandling=none
  once : (d,Kind.begun)∉s.history
  running : s'.preHandling=some (d,p)
  queue : s'.handlingQueue=s.handlingQueue
  history : s'.history=s.history++[(d,.begun)]

/-- The second half of `onDirective`. -/
structure Ends (s s' : Processor δ) (d : δ) (p : BlockingPolicy) : Prop where
  running : s.preHandling=some (d,p)
  free : s'.preHandling=none
  dialog : s'.dialogRequestId=s.dialogRequestId
  /-- The directive joins the queue, or it does not. -/
  outcome : (s'.handlingQueue=s.handlingQueue++[(d,p)] ∧
      s'.history=s.history++[(d,.queued p)]) ∨
    (s'.handlingQueue=s.handlingQueue ∧ (s'.history=s.history ∨ s'.history=s.history++[(d,.refused)]))

/-- The loop hands a directive over, in the state `t` of the loop. -/
structure HandsOver (s t s' : Processor δ) (before : List (δ × BlockingPolicy))
    (next : δ × BlockingPolicy) (after : List (δ × BlockingPolicy)) : Prop where
  quiet : Quiet s t
  agree : ∃ st,Agree t st
  unblocked : t.getNextUnblockedDirective=some (before,next,after)
  result : s'=t.handOver before next after

section

variable (hagree : ∃ st,Agree s st)
include hagree

theorem step_cases {e : Event δ} (hstep : Step S s e s') :
    Quiet s s' ∨ (∃ d p,Begins s s' d p) ∨ (∃ d p,Ends s s' d p) ∨
      ∃ t before next after,HandsOver s t s' before next after := by
  have hserve : ∀ t : Processor δ,Quiet s t → (∃ st,Agree t st) → s'=t.serve →
      Quiet s s' ∨ (∃ d p,Begins s s' d p) ∨ (∃ d p,Ends s s' d p) ∨
        ∃ t before next after,HandsOver s t s' before next after := by
    rintro t hquiet ht rfl
    rcases serve_cases t with ⟨before,next,after,hnext,hresult⟩|hserve
    · exact .inr (.inr (.inr ⟨t,before,next,after,hquiet,ht,hnext,hresult⟩))
    · exact .inl (hquiet.trans hserve)
  cases hstep with
  | @beginDirective d p free once =>
    unfold beginDirective at hserve ⊢
    split
    · exact .inl (Quiet.refl s)
    · split
      · exact .inl (Quiet.refl s)
      · exact .inr (.inl ⟨d,p,free,once,rfl,rfl,rfl⟩)
  | @endDirective d p running preHandled =>
    refine .inr (.inr (.inl ⟨d,p,?_⟩))
    cases hpre : s.directiveBeingPreHandled with
    | none =>
      have hend : (s.endDirective d p preHandled).2={s with preHandling := none} := by
        simp only [endDirective,hpre]
      rw [hend]
      exact ⟨running,rfl,rfl,.inr ⟨rfl,.inl rfl⟩⟩
    | some =>
      cases preHandled with
      | true =>
        simp only [endDirective,hpre,if_true]
        exact ⟨running,rfl,rfl,.inl ⟨rfl,rfl⟩⟩
      | false =>
        simp only [endDirective,hpre,Bool.false_eq_true,if_false]
        exact ⟨running,rfl,rfl,.inr ⟨rfl,.inr rfl⟩⟩
  | setDialogRequestId dialogRequestId =>
    refine .inl ?_
    unfold setDialogRequestId
    split
    · exact Quiet.refl s
    · obtain ⟨h1,h2,h3⟩ := quiet_scrubDialogRequestId S s s.dialogRequestId
      exact ⟨h1,h2,h3⟩
  | setCompleted =>
    refine .inl ?_
    unfold setCompleted
    split
    · exact quiet_snoc filter_sublist rfl rfl rfl
    · exact Quiet.refl s
  | @setFailed d =>
    refine .inl ?_
    unfold setFailed
    split
    · have hremoved : Quiet s {s.removeDirective d with history := s.history++[(d,.failed)]} :=
        quiet_snoc filter_sublist rfl rfl rfl
      exact hremoved.trans (quiet_scrubDialogRequestId S _ _)
    · exact Quiet.refl s
  | disable | shutdown =>
    obtain ⟨h1,h2,h3⟩ := quiet_queueAll S s
    exact .inl ⟨h1,h2,h3⟩
  | enable | unregister => exact .inl (quiet_frame rfl rfl rfl)
  | wake asleep woken =>
    unfold Processor.pass at hserve ⊢
    split
    · exact .inl (quiet_takeCancelingQueue s)
    · rename_i hnil
      rw [if_neg hnil] at hserve
      exact hserve s (Quiet.refl s) hagree rfl
  | cancelDirective => exact .inl (quiet_snoc (List.Sublist.refl _) rfl rfl rfl)
  | batchDone => exact hserve s (Quiet.refl s) hagree rfl
  | @handlerReturned d p calling succeeded =>
    obtain ⟨st,h⟩ := hagree
    exact hserve _ (quiet_handlerReturned S s d p succeeded) (agree_handlerReturned h calling succeeded) rfl

theorem history_step {e : Event δ} (hstep : Step S s e s') : ∃ more,s'.history=s.history++more := by
  rcases step_cases hagree hstep with hquiet|⟨d,p,hbegins⟩|⟨d,p,hends⟩ |
    ⟨t,before,next,after,hhands⟩
  · obtain ⟨more,hmore,_⟩ := hquiet.history
    exact ⟨more,hmore⟩
  · exact ⟨_,hbegins.history⟩
  · rcases hends.outcome with ⟨_,hhistory⟩|⟨_,hhistory|hhistory⟩
    · exact ⟨_,hhistory⟩
    · exact ⟨[],by rw [hhistory,append_nil]⟩
    · exact ⟨_,hhistory⟩
  · obtain ⟨more,hmore,_⟩ := hhands.quiet.history
    refine ⟨more++[(next.1,.handed next.2)],?_⟩
    rw [hhands.result,←append_assoc,←hmore]
    rfl

theorem history_run {events : List (Event δ)} (run : Run (Step S) s events s') :
    (∃ st,Agree s' st) ∧ ∃ more,s'.history=s.history++more := by
  refine run.invariant (fun u => (∃ st,Agree u st) ∧ ∃ more,u.history=s.history++more)
    ⟨hagree,[],(append_nil _).symm⟩ ?_
  rintro u e v ⟨⟨st,hu⟩,more,hmore⟩ hstep
  obtain ⟨more',hmore'⟩ := history_step ⟨st,hu⟩ hstep
  exact ⟨agree_step hu hstep,more++more',by rw [hmore',hmore,append_assoc]⟩

end

end AlexaClientSDK.DirectiveSteps
