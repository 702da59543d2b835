import AlexaClientSDK.DirectiveSteps

/-!
# Directives of an old dialog

A directive that belongs to a dialog waits or is handled only while that is the current one. When the dialog changes
while it is being pre-handled, it is queued for cancelling, and `onDirective` does not queue it for handling. Without a
dialog it is not touched.
-/

namespace AlexaClientSDK.DirectiveDialog

open Option List
open Lifecycles LabelledRuns DirectiveProcessor DirectiveStages DirectiveLifecycle DirectiveSteps Processor

variable {δ : Type} {S : Setting δ} {s s' : Processor δ}

/-- The processor may still hand the directive over, or it holds a medium. -/
def Held (s : Processor δ) (d : δ) : Prop :=
  s.directiveBeingPreHandled=some d ∨ (∃ p,(d,p)∈s.handlingQueue) ∨ ∃ m,s.directivesBeingHandled m=some d

variable {d : δ}

theorem held_withdraw {leaves : δ → Bool} {moved : List δ}
    (h : Held (s.withdraw leaves moved) d) : Held s d ∧ leaves d=false := by
  rcases h with hpre|⟨p,hqueue⟩|⟨m,hmedia⟩
  · obtain ⟨hpre,hleaves⟩ := filter_eq_some_iff.mp hpre
    exact ⟨.inl hpre,by simpa using hleaves⟩
  · obtain ⟨hqueue,hleaves⟩ := mem_filter.mp hqueue
    exact ⟨.inr (.inl ⟨p,hqueue⟩),by simpa using hleaves⟩
  · obtain ⟨hmedia,hleaves⟩ := filter_eq_some_iff.mp hmedia
    exact ⟨.inr (.inr ⟨m,hmedia⟩),by simpa using hleaves⟩

theorem held_serve (h : Held s.serve d) : Held s d := by
  unfold serve at h
  split at h
  · rename_i before next after hnext
    have hqueue := (nextUnblocked_spec hnext).1
    rcases h with hpre|⟨p,hmem⟩|⟨m,hmedia⟩
    · exact .inl hpre
    · refine .inr (.inl ⟨p,?_⟩)
      rw [hqueue]
      rcases mem_append.mp hmem with hmem|hmem
      · exact mem_append_left _ hmem
      · exact mem_append_right _ (mem_cons_of_mem _ hmem)
    · dsimp only [handOver] at hmedia
      split at hmedia
      · refine .inr (.inl ⟨next.2,?_⟩)
        rw [hqueue,←some.inj hmedia]
        exact mem_append_right _ mem_cons_self
      · exact .inr (.inr ⟨m,hmedia⟩)
  · split at h
    · exact h
    · split at h
      · exact h
      · exact h

theorem held_clearDirectiveBeingHandled {p : BlockingPolicy}
    (h : Held (s.clearDirectiveBeingHandled p) d) : Held s d := by
  rcases h with hpre|hqueue|⟨m,hmedia⟩
  · exact .inl hpre
  · exact .inr (.inl hqueue)
  · dsimp only [clearDirectiveBeingHandled] at hmedia
    split at hmedia
    · exact absurd hmedia nofun
    · exact .inr (.inr ⟨m,hmedia⟩)

theorem dialogRequestId_serve (s : Processor δ) : s.serve.dialogRequestId=s.dialogRequestId := by
  unfold serve
  split
  · rfl
  · split
    · rfl
    · split <;> rfl

/-- What the processor holds belongs to the current dialog or to none. -/
def Current (S : Setting δ) (s : Processor δ) : Prop :=
  ∀ d,Held s d → S.dialogRequestId d ≠ "" → S.dialogRequestId d=s.dialogRequestId

theorem current_serve (h : Current S s) : Current S s.serve := by
  intro d hd hne
  rw [dialogRequestId_serve]
  exact h d (held_serve hd) hne

/-- While `onDirective` runs, its directive was begun and is not queued. -/
def Running (s : Processor δ) : Prop :=
  ∀ d p,s.preHandling=some (d,p) → (d,Kind.begun)∈s.history ∧ ∀ q,(d,Kind.queued q)∉s.history

theorem running_append {more : List (δ × Kind)} (h : Running s) (hrunning : s'.preHandling=s.preHandling)
    (hhistory : s'.history=s.history++more) (hmore : ∀ mark∈more,isQueued mark.2=false) : Running s' := by
  intro d p hd
  obtain ⟨hbegun,hnot⟩ := h d p (hrunning ▸ hd)
  rw [hhistory]
  refine ⟨mem_append_left _ hbegun,fun q hmem => ?_⟩
  rcases mem_append.mp hmem with hmem|hmem
  · exact hnot q hmem
  · exact absurd (hmore _ hmem) nofun

variable [DecidableEq δ]

theorem held_removeDirective {e d : δ} (h : Held (s.removeDirective e) d) : Held s d := by
  rcases h with hpre|⟨p,hqueue⟩|⟨m,hmedia⟩
  · exact .inl (filter_eq_some_iff.mp hpre).1
  · exact .inr (.inl ⟨p,(mem_filter.mp hqueue).1⟩)
  · exact .inr (.inr ⟨m,(filter_eq_some_iff.mp hmedia).1⟩)

theorem current_scrubDialogRequestId (h : Current S s) (dialogRequestId : String) :
    Current S (s.scrubDialogRequestId S dialogRequestId) ∧ ∀ d,Held (s.scrubDialogRequestId S dialogRequestId) d →
        Held s d ∧ (dialogRequestId ≠ "" → S.dialogRequestId d≠dialogRequestId) := by
  unfold scrubDialogRequestId
  split
  · rename_i hempty
    exact ⟨h,fun d hd => ⟨hd,fun hne => absurd hempty hne⟩⟩
  · have hleft : ∀ {d : δ}, Held (s.withdraw (fun d => decide (S.dialogRequestId d=dialogRequestId)) []) d →
        Held s d ∧ S.dialogRequestId d≠dialogRequestId := by
      intro d hd
      obtain ⟨hs,hleaves⟩ := held_withdraw hd
      exact ⟨hs,by simpa using hleaves⟩
    refine ⟨fun d hd hne => ?_,fun d hd => ?_⟩
    · obtain ⟨hs,hother⟩ := hleft hd
      have hcurrent := h d hs hne
      rw [if_neg]
      · exact hcurrent
      · intro heq
        exact hother (hcurrent.trans heq.symm)
    · obtain ⟨hs,hother⟩ := hleft hd
      exact ⟨hs,fun _ => hother⟩

theorem not_held_queueAll (S : Setting δ) (s : Processor δ) (d : δ) :
    ¬Held (s.queueAllDirectivesForCancellation S) d := by
  obtain ⟨hpre,hqueue,hmedia⟩ := idle_queueAll S s
  rintro (h|⟨p,h⟩|⟨m,h⟩)
  · rw [hpre] at h
    exact absurd h nofun
  · rw [hqueue] at h
    exact absurd h not_mem_nil
  · rw [hmedia m] at h
    exact absurd h nofun

theorem current_handlerReturned (h : Current S s) (d : δ) (p : BlockingPolicy) (succeeded : Bool) :
    Current S (s.handlerReturned S d p succeeded) := by
  unfold handlerReturned
  dsimp only
  have hcleared : Current S (if succeeded=false ∨ p.isBlocking=false then
      ({s with history := s.history++[(d,.returned p succeeded)]} : Processor δ).clearDirectiveBeingHandled p
      else {s with history := s.history++[(d,.returned p succeeded)]}) := by
    split
    · exact fun e he => h e (held_clearDirectiveBeingHandled he)
    · exact h
  split
  · exact hcleared
  · exact (current_scrubDialogRequestId hcleared _).1

variable {e : Event δ}

theorem current_step (hagree : ∃ st,Agree s st) (h : Current S s) (hstep : Step S s e s') : Current S s' := by
  cases hstep with
  | @beginDirective d p free once =>
    unfold beginDirective
    split
    · exact h
    · split
      · exact h
      · rename_i hdialog
        rintro d' (hpre|hqueue|hmedia) hne
        · have heq : d=d' := some.inj hpre
          subst heq
          rw [not_and,not_not] at hdialog
          exact hdialog hne
        · exact h d' (.inr (.inl hqueue)) hne
        · exact h d' (.inr (.inr hmedia)) hne
  | @endDirective d p running preHandled =>
    obtain ⟨st,hagree⟩ := hagree
    have hdialog : (s.endDirective d p preHandled).2.dialogRequestId=s.dialogRequestId := by
      unfold endDirective
      dsimp only
      split
      · rfl
      · split <;> rfl
    have hheld : ∀ d',Held (s.endDirective d p preHandled).2 d' → Held s d' := by
      intro d' hd'
      cases hpre : s.directiveBeingPreHandled with
      | none =>
        have hend : (s.endDirective d p preHandled).2={s with preHandling := none} := by
          simp only [endDirective,hpre]
        rw [hend] at hd'
        exact hd'
      | some d₀ =>
        have hd₀ : d₀=d := by
          obtain ⟨q,hq⟩ := hagree.running d₀ hpre
          rw [running] at hq
          exact (congrArg Prod.fst (some.inj hq)).symm
        cases preHandled with
        | true =>
          simp only [endDirective,hpre,if_true] at hd'
          rcases hd' with hnone|⟨q,hmem⟩|hmedia
          · cases hnone
          · rcases mem_append.mp hmem with hmem|hmem
            · exact .inr (.inl ⟨q,hmem⟩)
            · have heq : d'=d := congrArg Prod.fst (mem_singleton.mp hmem)
              rw [heq,←hd₀]
              exact .inl hpre
          · exact .inr (.inr hmedia)
        | false =>
          simp only [endDirective,hpre,Bool.false_eq_true,if_false] at hd'
          rcases hd' with hnone|hqueue|hmedia
          · cases hnone
          · exact .inr (.inl hqueue)
          · exact .inr (.inr hmedia)
    intro d' hd' hne
    rw [hdialog]
    exact h d' (hheld d' hd') hne
  | setDialogRequestId dialogRequestId =>
    unfold setDialogRequestId
    split
    · exact h
    · obtain ⟨_,hleft⟩ := current_scrubDialogRequestId h s.dialogRequestId
      intro d hd hne
      obtain ⟨hs,hother⟩ := hleft d hd
      have hcurrent := h d hs hne
      exact absurd hcurrent (hother (hcurrent ▸ hne))
  | setCompleted =>
    unfold setCompleted
    split
    · exact fun d hd => h d (held_removeDirective hd)
    · exact h
  | @setFailed d =>
    unfold setFailed
    split
    · have hremoved : Current S ({s.removeDirective d with
          history := s.history++[(d,.failed)]} : Processor δ) :=
        fun d hd => h d (held_removeDirective hd)
      exact (current_scrubDialogRequestId hremoved _).1
    · exact h
  | disable | shutdown => exact fun d hd => absurd hd (not_held_queueAll S s d)
  | enable => exact h
  | unregister => exact h
  | wake =>
    unfold Processor.pass
    split
    · exact h
    · exact current_serve h
  | cancelDirective => exact h
  | batchDone => exact current_serve h
  | handlerReturned => exact current_serve (current_handlerReturned h _ _ _)

/-- It neither waits nor is or was handled. -/
theorem not_handed_of_not_queued {word : List Kind} {stage : Stage}
    (h : walk Stage.next .fresh word=some stage) (hnot : ∀ kind∈word,isQueued kind=false) :
    (∀ p,stage≠.waiting p ∧ stage≠.handling p) ∧ ∀ kind∈word,isHanded kind=false := by
  have hcut : ∀ (first : List Kind) (stage' : Stage),(∀ kind∈first,isQueued kind=false) →
      walk Stage.next .fresh first=some stage' →
      ∀ p,stage'≠.waiting p ∧ stage'≠.handling p := by
    intro first stage' hfirst hwalk
    refine walk_invariant (P := fun stage => ∀ p,stage≠.waiting p ∧ stage≠.handling p) hwalk
      (fun p => ⟨by simp,by simp⟩) ?_
    intro u kind v hkind hu hnext p
    have hquiet := hfirst kind hkind
    cases u <;> cases kind <;> simp only [Stage.next,reduceCtorEq,some.injEq] at hnext
    case preHandling.queued => cases hquiet
    case waiting.handed q q' => exact absurd rfl (hu q).1
    case handling.returned q q' succeeded => exact absurd rfl (hu q).2
    all_goals
      rw [←hnext]
      exact ⟨by simp,by simp⟩
  refine ⟨hcut word stage hnot h,fun kind hkind => ?_⟩
  rw [←Bool.not_eq_true]
  intro hhanded
  obtain ⟨first,second,rfl⟩ := append_of_mem hkind
  obtain ⟨u,hfirst,hsecond⟩ := walk_append_inv h
  obtain ⟨v,hnext,_⟩ := walk_cons_inv hsecond
  have hu := hcut first u (fun kind hkind => hnot kind (mem_append_left _ hkind)) hfirst
  cases u <;> cases kind <;> simp only [Stage.next,reduceCtorEq] at hnext
  case waiting.handed q q' => exact absurd rfl (hu q).1
  all_goals cases hhanded

/-- Every step keeps the running directive out of the queue. -/
theorem running_step (hagree : ∃ st,Agree s st) (h : Running s) (hstep : Step S s e s') : Running s' := by
  have hquiet : ∀ {kind : Kind},isQuiet kind=true → isQueued kind=false := by
    intro kind hkind
    rw [isQuiet,Bool.and_eq_true,Bool.not_eq_true'] at hkind
    exact hkind.1
  rcases step_cases hagree hstep with hq|⟨d,p,hbegins⟩|⟨d,p,hends⟩ |
    ⟨t,before,next,after,hhands⟩
  · obtain ⟨more,hmore,hmarks⟩ := hq.history
    exact running_append h hq.running hmore fun mark hmark => hquiet (hmarks mark hmark)
  · obtain ⟨st,hagree⟩ := hagree
    intro d' p' hd'
    have heq : (d,p)=(d',p') := some.inj (hbegins.running.symm.trans hd')
    cases heq
    have hnone := marksOf_of_not_begun hagree.legal hbegins.once
    rw [hbegins.history]
    refine ⟨mem_append_right _ mem_cons_self,fun q hmem => ?_⟩
    rcases mem_append.mp hmem with hmem|hmem
    · rw [←mem_marksOf,hnone] at hmem
      exact absurd hmem not_mem_nil
    · exact absurd (mem_singleton.mp hmem) nofun
  · intro d' p' hd'
    rw [hends.free] at hd'
    exact absurd hd' nofun
  · obtain ⟨more,hmore,hmarks⟩ := hhands.quiet.history
    have ht : Running t :=
      running_append h hhands.quiet.running hmore fun mark hmark => hquiet (hmarks mark hmark)
    rw [hhands.result]
    refine running_append ht rfl rfl fun mark hmark => ?_
    rw [mem_singleton.mp hmark]
    rfl

theorem current_run {events : List (Event δ)} (run : Run (Step S) init events s) :
    (∃ st,Agree s st) ∧ Current S s ∧ Running s := by
  refine run.invariant (fun s => (∃ st,Agree s st) ∧ Current S s ∧ Running s) ⟨⟨_,agree_init⟩,?_,nofun⟩ ?_
  · rintro d (h|⟨p,h⟩|⟨m,h⟩)
    · exact absurd h nofun
    · exact absurd h not_mem_nil
    · exact absurd h nofun
  · rintro u e v ⟨⟨st,hagree⟩,hcurrent,hrunning⟩ hstep
    exact ⟨agree_step hagree hstep,current_step ⟨st,hagree⟩ hcurrent hstep,running_step ⟨st,hagree⟩ hrunning hstep⟩

/-- A directive whose dialog ends while it is pre-handled leaves its place then. -/
theorem rank_of_dialog_changed {p : BlockingPolicy} {st st' : δ → Stage}
    (hagree : Agree s st) (hagree' : Agree s' st') (hcurrent : Current S s) (hcurrent' : Current S s')
    (hrunning' : Running s') (hd : s.preHandling=some (d,p)) (hbegun : (d,Kind.begun)∈s.history)
    (hdialog : S.dialogRequestId d ≠ "") (hstep : Step S s e s') (hchanged : s'.dialogRequestId≠s.dialogRequestId) :
    4≤(st' d).rank ∧ ∀ kind∈marksOf d s'.history,isHanded kind=false := by
  have hstill : s'.preHandling=some (d,p) := by
    rcases step_cases ⟨st,hagree⟩ hstep with hq|⟨d',p',hbegins⟩|⟨d',p',hends⟩ |
      ⟨t,before,next,after,hhands⟩
    · rw [hq.running,hd]
    · rw [hbegins.free] at hd
      exact absurd hd nofun
    · exact absurd hends.dialog hchanged
    · rw [hhands.result,←hd,←hhands.quiet.running]
      rfl
  obtain ⟨hbegun',hnot⟩ := hrunning' d p hstill
  have hword : ∀ kind∈marksOf d s'.history,isQueued kind=false := by
    intro kind hkind
    rw [mem_marksOf] at hkind
    cases kind with
    | queued q => exact absurd hkind (hnot q)
    | _ => rfl
  obtain ⟨hstage,hhanded⟩ := not_handed_of_not_queued (hagree'.legal d) hword
  refine ⟨?_,hhanded⟩
  cases hst : st' d with
  | fresh => exact absurd hst (not_fresh_of_begun hagree'.legal hbegun')
  | preHandling =>
    -- it was being pre-handled before the step too, so both dialogs are its own
    obtain ⟨more,hmore⟩ := history_step ⟨st,hagree⟩ hstep
    have hlegal := hagree'.legal d
    rw [hmore,marksOf_append] at hlegal
    obtain ⟨stage,hfirst,hsecond⟩ := walk_append_inv hlegal
    rw [hagree.legal d,some.injEq] at hfirst
    have hle := rank_le rank_mono hsecond
    rw [hst,←hfirst] at hle
    have hpre : st d=.preHandling := by
      have hfresh := not_fresh_of_begun hagree.legal hbegun
      cases hs : st d with
      | fresh => exact absurd hs hfresh
      | preHandling => rfl
      | _ =>
        rw [hs] at hle
        exact absurd hle (Nat.not_le_of_lt (Nat.lt_of_sub_eq_succ rfl))
    have hold := hcurrent d (.inl ((hagree.preHandled d).mpr hpre)) hdialog
    have hnew := hcurrent' d (.inl ((hagree'.preHandled d).mpr hst)) hdialog
    exact absurd (hnew.symm.trans hold) hchanged
  | waiting q => exact absurd hst (hstage q).1
  | handling q => exact absurd hst (hstage q).2
  | cancelQueued | cancelling | out => exact Nat.le_of_ble_eq_true rfl

/-- Every directive of a dialog that waits or is handled belongs to the current one, and one that was being
pre-handled when its dialog changed is not handled, however the run goes on. -/
theorem no_stale_dialog (S : Setting δ) (events : List (Event δ)) (s : Processor δ) (run : Run (Step S) init events s) :
    (∀ d,(∃ p,(d,p)∈s.handlingQueue) ∨ (∃ m,s.directivesBeingHandled m=some d) →
      S.dialogRequestId d ≠ "" → S.dialogRequestId d=s.dialogRequestId) ∧
    ∀ d p e s' later s'',s.preHandling=some (d,p) → S.dialogRequestId d ≠ "" → Step S s e s' →
      s'.dialogRequestId≠s.dialogRequestId → Run (Step S) s' later s'' → ∀ q,(d,Kind.handed q)∉s''.history := by
  obtain ⟨⟨st,hagree⟩,hcurrent,hrunning⟩ := current_run run
  refine ⟨fun d hd => hcurrent d (.inr hd),?_⟩
  intro d p e s' later s'' hd hdialog hstep hchanged hlater q hhanded
  obtain ⟨⟨st',hagree'⟩,hcurrent',hrunning'⟩ := current_run (run.snoc hstep)
  obtain ⟨hrank,hnone⟩ := rank_of_dialog_changed hagree hagree' hcurrent hcurrent' hrunning' hd
    (hrunning d p hd).1 hdialog hstep hchanged
  obtain ⟨⟨st'',hagree''⟩,more,hmore⟩ := history_run ⟨st',hagree'⟩ hlater
  have hlegal := hagree''.legal d
  rw [hmore,marksOf_append] at hlegal
  obtain ⟨stage,hfirst,hsecond⟩ := walk_append_inv hlegal
  rw [hagree'.legal d,some.injEq] at hfirst
  have hlast := not_mem_of_rank (B := fun kind => isHanded kind=true) rank_mono (fun stage kind stage' hkind hnext =>
      Nat.lt_of_lt_of_le (rank_handed stage kind stage' hkind hnext).1 (Nat.le_succ 3))
    hsecond (hfirst ▸ hrank)
  rw [←mem_marksOf,hmore,marksOf_append,mem_append] at hhanded
  rcases hhanded with hhanded|hhanded
  · exact absurd (hnone _ hhanded) nofun
  · exact hlast _ hhanded rfl

def dialogDirective : Setting Unit := ⟨fun _ => "a",fun _ _ => false⟩

/-- The dialog changes during the pre-handling: the directive is cancelled. -/
theorem no_stale_dialog_changed : ∃ (s s' s'' : Processor Unit), Run (Step dialogDirective) init
        [.setDialogRequestId "a",.beginDirective () ⟨true,false,true⟩] s ∧ s.preHandling=some ((),⟨true,false,true⟩) ∧
      Step dialogDirective s (.setDialogRequestId "b") s' ∧
      Run (Step dialogDirective) s' [.endDirective true,.wake,.cancelDirective,.batchDone] s'' ∧
      ((),Kind.canceled)∈s''.history ∧ ∀ q,((),Kind.handed q)∉s''.history := by
  have hrun : Run (Step dialogDirective) init [.setDialogRequestId "a",.beginDirective () ⟨true,false,true⟩] _ :=
    (Run.refl.snoc (.setDialogRequestId "a")).snoc (.beginDirective rfl nofun)
  have hlater : Run (Step dialogDirective) (((init.setDialogRequestId dialogDirective
      "a").beginDirective dialogDirective () ⟨true,false,true⟩).2.setDialogRequestId dialogDirective "b") _ _ :=
    (((Run.refl.snoc (.endDirective rfl true)).snoc (.wake rfl rfl)).snoc (.cancelDirective rfl)).snoc (.batchDone rfl)
  refine ⟨_,_,_,hrun,rfl,.setDialogRequestId "b",hlater,by decide,?_⟩
  exact (no_stale_dialog dialogDirective _ _ hrun).2 () _ _ _ _ _ rfl (by decide)
    (.setDialogRequestId "b") (by decide) hlater

/-- It is handled although the dialog changed meanwhile. -/
theorem handled_after_dialog_changed : ∃ (s s' s'' : Processor Unit),
      Run (Step oneDirective) init [.beginDirective () ⟨true,false,true⟩] s ∧
      s.preHandling=some ((),⟨true,false,true⟩) ∧
      Step oneDirective s (.setDialogRequestId "x") s' ∧ s'.dialogRequestId≠s.dialogRequestId ∧
      Run (Step oneDirective) s' [.endDirective true,.wake] s'' ∧ ((),Kind.handed ⟨true,false,true⟩)∈s''.history := by
  have hrun : Run (Step oneDirective) init [.beginDirective () ⟨true,false,true⟩] _ :=
    Run.refl.snoc (.beginDirective rfl nofun)
  have hlater : Run (Step oneDirective) ((init.beginDirective oneDirective ()
      ⟨true,false,true⟩).2.setDialogRequestId oneDirective "x") _ _ :=
    (Run.refl.snoc (.endDirective rfl true)).snoc (.wake rfl rfl)
  exact ⟨_,_,_,hrun,rfl,.setDialogRequestId "x",by decide,hlater,by decide⟩

end AlexaClientSDK.DirectiveDialog
