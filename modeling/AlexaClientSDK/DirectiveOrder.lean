import Mathlib.Data.List.Induction
import AlexaClientSDK.DirectiveSteps
import AlexaClientSDK.Histories

/-!
# The order of blocking directives

A medium is occupied by one directive at most. When a directive is handed over, every blocking directive queued earlier
that uses one of its media has ended: its handler reported a result or refused it, or it was queued for cancelling. Both
are read off the history, with which the containers agree.
-/

namespace AlexaClientSDK.DirectiveOrder

open List
open Histories Lifecycles LabelledRuns DirectiveProcessor DirectiveStages DirectiveLifecycle DirectiveSteps

section

variable {α : Type*} {l : List α} {x y : α}

/-- An entry is not both in front of another one and behind it. -/
theorem pair_sublist_asymm (hnodup : l.Nodup) (h : [x,y].Sublist l) (h' : [y,x].Sublist l) : False := by
  induction l with
  | nil => exact absurd (sublist_nil.mp h) nofun
  | cons z l ih =>
    obtain ⟨hnot,hrest⟩ := nodup_cons.mp hnodup
    cases h with
    | cons _ h =>
      cases h' with
      | cons _ h' => exact ih hrest h h'
      | cons_cons => exact hnot (h.subset (mem_cons_of_mem _ mem_cons_self))
    | cons_cons _ h =>
      cases h' with
      | cons _ h' => exact hnot (h'.subset (mem_cons_of_mem _ mem_cons_self))
      | cons_cons => exact hnot (singleton_sublist.mp h)

theorem pair_sublist_of_split {first rest : List α} (hy : y∈rest) : [x,y].Sublist (first++x::rest) :=
  List.Sublist.trans ((singleton_sublist.mpr hy).cons_cons x) (sublist_append_right first _)

end

/-- A result, the cancelling queue, or a return if nothing blocks. -/
def ends : Kind → Bool
  | .completed => true
  | .failed => true
  | .canceling => true
  | .returned policy succeeded => !succeeded || !policy.isBlocking
  | _ => false

variable {δ : Type} {history : List (δ × Kind)} {d : δ} {s s' : Processor δ}

section

variable (history)

def Ended (d : δ) : Prop :=
  ∃ kind,(d,kind)∈history ∧ ends kind=true

/-- The directive was queued and waits still. -/
def Waits (d : δ) : Prop :=
  (∃ p,(d,Kind.queued p)∈history) ∧ (∀ p,(d,Kind.handed p)∉history) ∧ ¬Ended history d

/-- The directive was handed over, uses the medium and has not ended. -/
def Occupies (m : Medium) (d : δ) : Prop :=
  ∃ p,(d,Kind.handed p)∈history ∧ p.uses m=true ∧ ¬Ended history d

/-- The directives that joined the queue, in order. -/
def queuedOf : List (δ × BlockingPolicy) :=
  history.filterMap fun mark =>
    match mark.2 with
    | .queued p => some (mark.1,p)
    | _ => none

end

/-- The queue keeps the order in which directives joined it. -/
structure InOrder (s : Processor δ) : Prop where
  queue : s.handlingQueue.Sublist (queuedOf s.history)
  once : (queuedOf s.history).Nodup

theorem mem_queuedOf {p : BlockingPolicy} : (d,p)∈queuedOf history ↔ (d,Kind.queued p)∈history := by
  simp only [queuedOf,mem_filterMap,Prod.exists]
  constructor
  · rintro ⟨e,kind,hmem,heq⟩
    cases kind with
    | queued =>
      cases heq
      exact hmem
    | _ => exact absurd heq nofun
  · intro hmem
    exact ⟨d,.queued p,hmem,rfl⟩

theorem queuedOf_append (first second : List (δ × Kind)) : queuedOf (first++second)=queuedOf first++queuedOf second :=
  filterMap_append

variable {more : List (δ × Kind)}

theorem queuedOf_quiet (h : ∀ mark∈more,isQuiet mark.2=true) : queuedOf more=[] := by
  refine filterMap_eq_nil_iff.mpr ?_
  rintro ⟨e,kind⟩ hmem
  cases kind with
  | queued => exact absurd (h _ hmem) nofun
  | _ => rfl

/-- A queue that only loses directives keeps its order while none joins it. -/
theorem inOrder_lose (h : InOrder s) (hqueue : s'.handlingQueue.Sublist s.handlingQueue)
    (hsame : queuedOf s'.history=queuedOf s.history) : InOrder s' := by
  refine ⟨?_,?_⟩
  · rw [hsame]
    exact hqueue.trans h.queue
  · rw [hsame]
    exact h.once

theorem inOrder_quiet (h : InOrder s) (hquiet : Quiet s s') : InOrder s' := by
  obtain ⟨more,hmore,hmarks⟩ := hquiet.history
  refine inOrder_lose h hquiet.queue ?_
  rw [hmore,queuedOf_append,queuedOf_quiet hmarks,append_nil]

variable {kind : Kind}

theorem inOrder_snoc (h : InOrder s) (hqueue : s'.handlingQueue.Sublist s.handlingQueue)
    (hkind : isQueued kind=false) (hhistory : s'.history=s.history++[(d,kind)]) : InOrder s' := by
  refine inOrder_lose h hqueue ?_
  rw [hhistory,queuedOf_append]
  cases kind with
  | queued => exact absurd hkind nofun
  | _ => exact append_nil _

/-- No earlier blocking directive of a shared medium waits or occupies one. -/
def Clear (before : List (δ × Kind)) (d : δ) (p : BlockingPolicy) : Prop :=
  ∀ first rest e q m,before=first++(e,Kind.queued q)::rest → (d,Kind.queued p)∈rest →
    q.isBlocking=true → q.uses m=true → p.uses m=true →
    ¬Waits before e ∧ ∀ m',¬Occupies before m' e

/-- Every hand-over of the history was clear. -/
def Fair (history : List (δ × Kind)) : Prop :=
  ∀ before after d p,history=before++(d,Kind.handed p)::after → Clear before d p

theorem fair_snoc {mark : δ × Kind} (h : Fair history)
    (hmark : ∀ d p,mark=(d,.handed p) → Clear history d p) : Fair (history++[mark]) := by
  intro before after d p heq
  obtain ⟨-,rfl,hlast⟩|⟨rest,-,hinit⟩ := snoc_eq_append heq
  · exact hmark d p hlast.symm
  · exact h before rest d p hinit

theorem fair_quiet (h : Fair history) (hmore : ∀ mark∈more,isQuiet mark.2=true) : Fair (history++more) := by
  induction more generalizing history with
  | nil =>
    rw [append_nil]
    exact h
  | cons mark more ih =>
    rw [append_cons]
    refine ih (fair_snoc h ?_) fun mark hmark => hmore mark (mem_cons_of_mem _ hmark)
    rintro d p rfl
    exact absurd (hmore _ mem_cons_self) nofun

/-- What the history of a directive tells in each of its stages. -/
def Tells (word : List Kind) : Stage → Prop
  | .fresh | .preHandling => (∀ q,.queued q∉word) ∧ (∀ q,.handed q∉word) ∧ ∀ kind∈word,ends kind=false
  | .waiting p =>
    .queued p∈word ∧ (∀ q,.queued q∈word → q=p) ∧ (∀ q,.handed q∉word) ∧ ∀ kind∈word,ends kind=false
  | .handling p =>
    .handed p∈word ∧ (∀ q,.handed q∈word → q=p) ∧ (∀ q,.queued q∈word → q=p) ∧ ∀ kind∈word,ends kind=false
  | .cancelQueued | .cancelling => ∃ kind∈word,ends kind=true
  | .out =>
    (∃ kind∈word,ends kind=true) ∨ (∀ q,.queued q∉word) ∧ (∀ q,.handed q∉word) ∨
      ∃ p,.handed p∈word ∧ p.usesAny=false ∧ ∀ q,.handed q∈word → q=p

variable {word : List Kind}

theorem ended_snoc (h : ends kind=true) : ∃ kind'∈word++[kind],ends kind'=true :=
  ⟨kind,mem_append_right _ mem_cons_self,h⟩

theorem ended_append (h : ∃ kind∈word,ends kind=true) (kind : Kind) : ∃ kind'∈word++[kind],ends kind'=true := by
  obtain ⟨kind',hmem,hends⟩ := h
  exact ⟨kind',mem_append_left _ hmem,hends⟩

theorem tells_snoc {stage stage' : Stage} (h : Tells word stage)
    (hnext : stage.next kind=some stage') : Tells (word++[kind]) stage' := by
  cases stage <;> cases kind <;> simp only [Stage.next,reduceCtorEq,Option.some.injEq] at hnext
  case waiting.handed p q =>
    split at hnext
    · rename_i hq
      obtain ⟨hp,hsame,hnone,hopen⟩ := h
      rw [Option.some.injEq] at hnext
      rw [←hnext,hq]
      split
      · refine ⟨by simp,?_,?_,?_⟩
        · simp [hnone]
        · simpa using hsame
        · simpa [or_imp,forall_and,ends] using hopen
      · rename_i hany
        refine .inr (.inr ⟨p,by simp,by simpa using hany,?_⟩)
        simp [hnone]
    · cases hnext
  case handling.returned p q succeeded =>
    split at hnext
    · rename_i hq
      rw [Option.some.injEq] at hnext
      rw [←hnext,hq]
      split
      · rename_i hkeeps
        have hopen : ends (.returned p succeeded)=false := by
          rw [ends,←Bool.not_and,hkeeps]
          rfl
        simpa [Tells,or_imp,forall_and,hopen] using h
      · rename_i hnot
        refine .inl (ended_snoc ?_)
        rw [ends,←Bool.not_and,Bool.not_eq_true',←Bool.not_eq_true]
        exact hnot
    · cases hnext
  all_goals
    subst hnext
  all_goals first | exact ended_snoc rfl | exact .inl (ended_snoc rfl) | exact ended_append h _ | skip
  case fresh.begun => simpa [Tells,or_imp,forall_and,ends] using h
  case preHandling.refused =>
    obtain ⟨hqueued,hhanded,_⟩ := h
    refine .inr (.inl ?_)
    simpa using ⟨hqueued,hhanded⟩
  case preHandling.queued p =>
    obtain ⟨hqueued,hhanded,hopen⟩ := h
    refine ⟨by simp,?_,by simpa using hhanded,?_⟩
    · simp [hqueued]
    · simpa [or_imp,forall_and,ends] using hopen
  case out.returned p succeeded =>
    rcases h with hended|hnone|⟨q,hhanded,hany,hsame⟩
    · exact .inl (ended_append hended _)
    · exact .inr (.inl (by simpa using hnone))
    · exact .inr (.inr ⟨q,by simpa using hhanded,hany,by simpa using hsame⟩)
  case cancelling.canceled => exact .inl (ended_append h _)

theorem tells_of_walk {stage : Stage} (h : walk Stage.next .fresh word=some stage) : Tells word stage := by
  induction word using List.reverseRecOn generalizing stage with
  | nil =>
    cases h
    exact ⟨nofun,nofun,nofun⟩
  | append_singleton word kind ih =>
    obtain ⟨stage',hword,hlast⟩ := walk_append_inv h
    obtain ⟨stage'',hnext,hnil⟩ := walk_cons_inv hlast
    cases hnil
    exact tells_snoc (ih hword) hnext

variable [DecidableEq δ] {st : δ → Stage}

theorem not_ended_iff : ¬Ended history d ↔ ∀ kind∈marksOf d history,ends kind=false := by
  simp only [Ended,not_exists,not_and,mem_marksOf,Bool.not_eq_true]

theorem waits_iff (h : Legal history st) : Waits history d ↔ ∃ p,st d=.waiting p := by
  have htells := tells_of_walk (h d)
  simp only [Waits,not_ended_iff,←mem_marksOf]
  constructor
  · rintro ⟨⟨p,hqueued⟩,hhanded,hopen⟩
    cases hst : st d with
    | fresh | preHandling =>
      rw [hst] at htells
      exact absurd hqueued (htells.1 p)
    | waiting q => exact ⟨q,rfl⟩
    | handling q =>
      rw [hst] at htells
      exact absurd htells.1 (hhanded q)
    | cancelQueued | cancelling =>
      rw [hst] at htells
      obtain ⟨kind,hkind,hends⟩ := htells
      rw [hopen kind hkind] at hends
      cases hends
    | out =>
      rw [hst] at htells
      rcases htells with ⟨kind,hkind,hends⟩|hnone|⟨q,hq,_⟩
      · rw [hopen kind hkind] at hends
        cases hends
      · exact absurd hqueued (hnone.1 p)
      · exact absurd hq (hhanded q)
  · rintro ⟨p,hst⟩
    rw [hst] at htells
    obtain ⟨hqueued,_,hhanded,hopen⟩ := htells
    exact ⟨⟨p,hqueued⟩,hhanded,hopen⟩

theorem occupies_iff (h : Legal history st) (m : Medium) :
    Occupies history m d ↔ ∃ p,st d=.handling p ∧ p.uses m=true := by
  have htells := tells_of_walk (h d)
  simp only [Occupies,not_ended_iff,←mem_marksOf]
  constructor
  · rintro ⟨p,hhanded,huses,hopen⟩
    cases hst : st d with
    | fresh | preHandling =>
      rw [hst] at htells
      exact absurd hhanded (htells.2.1 p)
    | waiting q =>
      rw [hst] at htells
      exact absurd hhanded (htells.2.2.1 p)
    | handling q =>
      rw [hst] at htells
      refine ⟨q,rfl,?_⟩
      rw [←htells.2.1 p hhanded]
      exact huses
    | cancelQueued | cancelling =>
      rw [hst] at htells
      obtain ⟨kind,hkind,hends⟩ := htells
      rw [hopen kind hkind] at hends
      cases hends
    | out =>
      rw [hst] at htells
      rcases htells with ⟨kind,hkind,hends⟩|hnone|⟨q,_,hany,hsame⟩
      · rw [hopen kind hkind] at hends
        cases hends
      · exact absurd hhanded (hnone.2 p)
      · rw [←hsame p hhanded,usesAny_of_uses huses] at hany
        cases hany
  · rintro ⟨p,hst,huses⟩
    rw [hst] at htells
    obtain ⟨hhanded,_,_,hopen⟩ := htells
    exact ⟨p,hhanded,huses,hopen⟩

variable {S : Setting δ} {t : Processor δ}

theorem clear_of_unblocked (hagree : Agree t st) (horder : InOrder t)
    {before after : List (δ × BlockingPolicy)} {next : δ × BlockingPolicy}
    (hnext : t.getNextUnblockedDirective=some (before,next,after)) : Clear t.history next.1 next.2 := by
  obtain ⟨hqueue,hfree,hclear⟩ := nextUnblocked_spec hnext
  intro first rest e q m hhistory hlater hblocking huses huses'
  have hqueued : (e,Kind.queued q)∈t.history := by
    rw [hhistory]
    exact mem_append_right _ mem_cons_self
  have htells := tells_of_walk (hagree.legal e)
  refine ⟨fun hwaits => ?_,fun m' hoccupies => ?_⟩
  · -- it waits in front of the directive, and blocks the medium
    obtain ⟨q',hst⟩ := (waits_iff hagree.legal).mp hwaits
    rw [hst] at htells
    have hq : q=q' := htells.2.1 q (mem_marksOf.mpr hqueued)
    rw [←hq,←hagree.queued,hqueue] at hst
    have hearlier : [(e,q),next].Sublist (queuedOf t.history) := by
      rw [hhistory,queuedOf_append]
      exact pair_sublist_of_split (mem_queuedOf.mpr hlater)
    rcases mem_append.mp hst with hmem|hmem
    · rw [hclear _ hmem hblocking m huses] at huses'
      exact absurd huses' nofun
    · rcases mem_cons.mp hmem with hmem|hmem
      · rw [hmem] at hearlier
        exact absurd (hearlier.nodup horder.once) (by simp)
      · have hbehind : [next,(e,q)].Sublist (queuedOf t.history) := by
          refine List.Sublist.trans ?_ horder.queue
          rw [hqueue]
          exact pair_sublist_of_split hmem
        exact pair_sublist_asymm horder.once hearlier hbehind
  · -- it occupies all its media, and those of the directive are free
    obtain ⟨q',hst,_⟩ := (occupies_iff hagree.legal m').mp hoccupies
    rw [hst] at htells
    have hq : q=q' := htells.2.2.1 q (mem_marksOf.mpr hqueued)
    rw [←hq] at hst
    have hheld := (hagree.handled e m).mpr ⟨q,hst,huses⟩
    have hnone := hfree m huses'
    rw [hheld] at hnone
    exact absurd hnone nofun

theorem fair_step {e : Event δ} (hagree : ∃ st,Agree s st) (hagree' : ∃ st,Agree s' st)
    (horder : InOrder s) (hfair : Fair s.history) (hstep : Step S s e s') : InOrder s' ∧ Fair s'.history := by
  rcases step_cases hagree hstep with hquiet|⟨d,p,hbegins⟩|⟨d,p,hends⟩ |
    ⟨t,before,next,after,hhands⟩
  · obtain ⟨more,hmore,hmarks⟩ := hquiet.history
    refine ⟨inOrder_quiet horder hquiet,?_⟩
    rw [hmore]
    exact fair_quiet hfair hmarks
  · refine ⟨inOrder_snoc horder (by rw [hbegins.queue]) rfl hbegins.history,?_⟩
    rw [hbegins.history]
    exact fair_snoc hfair fun _ _ heq => by cases heq
  · rcases hends.outcome with ⟨hqueue,hhistory⟩|⟨hqueue,hhistory|hhistory⟩
    · refine ⟨⟨?_,?_⟩,?_⟩
      · rw [hqueue,hhistory,queuedOf_append]
        exact horder.queue.append (List.Sublist.refl _)
      · -- a directive that joins the queue was not queued before
        obtain ⟨st',hagree'⟩ := hagree'
        have hlegal := hagree'.legal d
        rw [hhistory,marksOf_append] at hlegal
        obtain ⟨stage,hfirst,hsecond⟩ := walk_append_inv hlegal
        have hlast : marksOf d [(d,Kind.queued p)]=[.queued p] := by
          simp [marksOf]
        rw [hlast] at hsecond
        obtain ⟨stage',hnext,_⟩ := walk_cons_inv hsecond
        have hstage : stage=.preHandling := by
          cases stage <;> first | rfl | cases hnext
        have htells := tells_of_walk hfirst
        rw [hstage] at htells
        rw [hhistory,queuedOf_append]
        refine List.Nodup.append horder.once (List.nodup_singleton _) ?_
        intro item hitem hnew
        rw [List.mem_singleton.mp hnew] at hitem
        exact htells.1 p (mem_marksOf.mpr (mem_queuedOf.mp hitem))
      · rw [hhistory]
        exact fair_snoc hfair fun _ _ heq => by cases heq
    · exact ⟨inOrder_lose horder (by rw [hqueue]) (by rw [hhistory]),by rw [hhistory]; exact hfair⟩
    · refine ⟨inOrder_snoc horder (by rw [hqueue]) rfl hhistory,?_⟩
      rw [hhistory]
      exact fair_snoc hfair fun _ _ heq => by cases heq
  · obtain ⟨more,hmore,hmarks⟩ := hhands.quiet.history
    obtain ⟨st',hagree'⟩ := hhands.agree
    have horder' : InOrder t := inOrder_quiet horder hhands.quiet
    have hfair' : Fair t.history := by
      rw [hmore]
      exact fair_quiet hfair hmarks
    have hqueue := (nextUnblocked_spec hhands.unblocked).1
    rw [hhands.result]
    refine ⟨inOrder_snoc horder' ?_ (rfl : isQueued (.handed next.2)=false) rfl,fair_snoc hfair' ?_⟩
    · rw [hqueue]
      exact (List.Sublist.refl before).append (List.sublist_cons_self next after)
    · intro d p heq
      cases heq
      exact clear_of_unblocked hagree' horder' hhands.unblocked

/-- In every run a medium is occupied by one directive at most; before every hand-over no earlier blocking
directive of a shared medium waits or occupies one; and those that do are those in the containers. -/
theorem blocking_order (S : Setting δ) (events : List (Event δ)) (s : Processor δ)
    (run : Run (Step S) Processor.init events s) :
    (∀ m d d',Occupies s.history m d → Occupies s.history m d' → d=d') ∧
    (∀ before after d p,s.history=before++(d,Kind.handed p)::after →
      ∀ first rest e q m,before=first++(e,Kind.queued q)::rest → (d,Kind.queued p)∈rest →
        q.isBlocking=true → q.uses m=true → p.uses m=true → ¬Waits before e ∧ ∀ m',¬Occupies before m' e) ∧
    (∀ d,(∃ p,(d,p)∈s.handlingQueue) ↔ Waits s.history d) ∧
    (∀ m d,s.directivesBeingHandled m=some d ↔ Occupies s.history m d) := by
  have hall : (∃ st,Agree s st) ∧ InOrder s ∧ Fair s.history := by
    refine run.invariant (fun s => (∃ st,Agree s st) ∧ InOrder s ∧ Fair s.history)
      ⟨⟨_,agree_init⟩,⟨List.Sublist.refl _,nodup_nil⟩,?_⟩ ?_
    · intro before after d p heq
      exact absurd heq.symm (by simp [Processor.init])
    · rintro u e v ⟨⟨st,hagree⟩,horder,hfair⟩ hstep
      have hagree' := agree_step hagree hstep
      exact ⟨hagree',fair_step ⟨st,hagree⟩ hagree' horder hfair hstep⟩
  obtain ⟨⟨st,hagree⟩,_,hfair⟩ := hall
  have hmedia : ∀ m d,s.directivesBeingHandled m=some d ↔ Occupies s.history m d :=
    fun m d => (hagree.handled d m).trans (occupies_iff hagree.legal m).symm
  refine ⟨fun m d d' h h' => ?_,hfair,fun d => ?_,hmedia⟩
  · rw [←hmedia] at h h'
    exact Option.some.inj (h.symm.trans h')
  · simp only [waits_iff hagree.legal,hagree.queued]

def twoDirectives : Setting Bool := ⟨fun _ => "",fun d _ => !d⟩

/-- The second is handed over when the first is completed. -/
theorem blocking_order_completed : ∃ (events : List (Event Bool)) (s : Processor Bool) (before : List (Bool × Kind)),
      Run (Step twoDirectives) Processor.init events s ∧ s.history=before++[(true,Kind.handed ⟨true,false,true⟩)] ∧
      (false,Kind.queued ⟨true,false,true⟩)∈before ∧ ¬Waits before false ∧ ∀ m,¬Occupies before m false := by
  have hrun : Run (Step twoDirectives) Processor.init [.beginDirective false ⟨true,false,true⟩,.endDirective true,
        .beginDirective true ⟨true,false,true⟩,.endDirective true,.wake,.handlerReturned true,
        .setCompleted false,.wake] _ :=
    (((((((Run.refl.snoc (.beginDirective rfl nofun)).snoc (.endDirective rfl true)).snoc
      (.beginDirective rfl (by decide))).snoc (.endDirective rfl true)).snoc (.wake rfl rfl)).snoc
        (.handlerReturned rfl true)).snoc (.setCompleted (by decide))).snoc (.wake rfl rfl)
  refine ⟨_,_,[(false,.begun),(false,.queued ⟨true,false,true⟩),(true,.begun),
    (true,.queued ⟨true,false,true⟩),(false,.handed ⟨true,false,true⟩),
    (false,.returned ⟨true,false,true⟩ true),(false,.completed)],hrun,rfl,by decide,?_⟩
  exact (blocking_order twoDirectives _ _ hrun).2.1 _ [] true _ rfl [(false,.begun)] _ false _ .audio rfl
    (by decide) rfl rfl rfl

end AlexaClientSDK.DirectiveOrder
