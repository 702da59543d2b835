import Mathlib.Data.List.Nodup
import AlexaClientSDK.Lifecycles
import AlexaClientSDK.DirectiveProcessor

/-!
# The stages of a directive

For one directive, the processor is a small automaton: fresh, being pre-handled, waiting, being handled, queued for
cancelling, being cancelled and out. The containers and the history of every directive follow it: the stage that the
history leads to says which container holds the directive.
-/

namespace AlexaClientSDK.DirectiveStages

open Nat Function Option List Lifecycles DirectiveProcessor Processor

/-- Where a directive can be. -/
inductive Stage
  | fresh
  | preHandling
  | waiting (policy : BlockingPolicy)
  | handling (policy : BlockingPolicy)
  | cancelQueued
  | cancelling
  /-- The processor holds it no longer. -/
  | out
  deriving DecidableEq

open Stage

/-- What may be done with a directive in which stage. -/
def Stage.next : Stage → Kind → Option Stage
  | .fresh,.begun => some .preHandling
  | .preHandling,.refused => some .out
  | .preHandling,.queued policy => some (.waiting policy)
  | .preHandling,.completed => some .out
  | .preHandling,.failed => some .out
  | .preHandling,.canceling => some .cancelQueued
  | .waiting policy,.handed policy' =>
    if policy'=policy then some (if policy.usesAny then .handling policy else .out) else none
  | .waiting _,.completed => some .out
  | .waiting _,.failed => some .out
  | .waiting _,.canceling => some .cancelQueued
  | .handling policy,.returned policy' succeeded =>
    if policy'=policy then
      some (if succeeded && policy.isBlocking then .handling policy else .out)
    else none
  | .handling _,.completed => some .out
  | .handling _,.failed => some .out
  | .handling _,.canceling => some .cancelQueued
  | .cancelQueued,.taken => some .cancelling
  | .cancelQueued,.completed => some .out
  | .cancelQueued,.failed => some .out
  | .cancelQueued,.returned _ _ => some .cancelQueued
  | .cancelling,.canceled => some .out
  | .cancelling,.completed => some .cancelling
  | .cancelling,.failed => some .cancelling
  | .cancelling,.returned _ _ => some .cancelling
  | .out,.completed => some .out
  | .out,.failed => some .out
  | .out,.returned _ _ => some .out
  | _,_ => none

/-- How far a directive has come. -/
def Stage.rank : Stage → ℕ
  | .fresh => 0
  | .preHandling => 1
  | .waiting _ => 2
  | .handling _ => 3
  | .cancelQueued => 4
  | .cancelling => 5
  | .out => 6

theorem rank_mono (stage : Stage) (kind : Kind) (stage' : Stage)
    (h : stage.next kind=some stage') : stage.rank ≤ stage'.rank := by
  cases stage <;> cases kind <;> simp only [Stage.next,reduceCtorEq,Option.some.injEq] at h
  case waiting.handed policy policy' =>
    split at h
    · cases h
      split <;> exact le_of_ble_eq_true rfl
    · exact absurd h nofun
  case handling.returned policy policy' succeeded =>
    split at h
    · cases h
      split <;> exact le_of_ble_eq_true rfl
    · exact absurd h nofun
  all_goals
    subst h
    exact le_of_ble_eq_true rfl

def isHanded : Kind → Bool
  | .handed _ => true
  | _ => false

/-- A directive is handed over behind the queue and before anything else. -/
theorem rank_handed (stage : Stage) (kind : Kind) (stage' : Stage) (hkind : isHanded kind=true)
    (h : stage.next kind=some stage') : stage.rank<3 ∧ 3 ≤ stage'.rank := by
  cases stage <;> cases kind <;> simp only [Stage.next,reduceCtorEq] at h
  case waiting.handed policy policy' =>
    split at h
    · cases h
      refine ⟨Nat.lt_of_sub_eq_succ rfl,?_⟩
      split <;> exact Nat.le_of_ble_eq_true rfl
    · exact absurd h nofun
  all_goals exact absurd hkind nofun

theorem rank_canceling (stage stage' : Stage) (h : stage.next .canceling=some stage') :
    stage.rank<4 ∧ stage'=.cancelQueued := by
  cases stage <;> simp only [Stage.next,reduceCtorEq,Option.some.injEq] at h
  all_goals exact ⟨Nat.lt_of_sub_eq_succ rfl,h.symm⟩

theorem rank_canceled (stage stage' : Stage) (h : stage.next .canceled=some stage') :
    stage=.cancelling ∧ stage'=.out := by
  cases stage <;> simp only [Stage.next,reduceCtorEq,Option.some.injEq] at h
  exact ⟨rfl,h.symm⟩

variable {δ : Type} {p : BlockingPolicy}

theorem usesAny_of_uses {m : Medium} (h : p.uses m=true) : p.usesAny=true := by
  cases m with
  | audio => exact Bool.or_eq_true_iff.mpr (.inl h)
  | visual => exact Bool.or_eq_true_iff.mpr (.inr h)

variable {d : δ} {queue before after : List (δ × BlockingPolicy)} {leaves : δ → Bool}

theorem mem_leaving : d∈leaving queue leaves ↔ leaves d=true ∧ ∃ p,(d,p)∈queue := by
  simp only [leaving,List.mem_map,mem_filter,Prod.exists,exists_and_right,exists_eq_right]
  exact and_comm

/-- Its media are free, and no blocking directive in front of it uses one. -/
theorem nextUnblocked_spec {blocked : Medium → Bool}
    {next : δ × BlockingPolicy} (h : nextUnblocked blocked queue=some (before,next,after)) :
    queue=before++next::after ∧ (∀ m,next.2.uses m=true → blocked m=false) ∧
      ∀ item∈before,item.2.isBlocking=true → ∀ m,item.2.uses m=true → next.2.uses m=false := by
  induction queue generalizing blocked before with
  | nil => exact absurd h nofun
  | cons item queue ih =>
    unfold nextUnblocked at h
    split at h
    · -- the directive is skipped, and a blocking one blocks its media from here on
      dsimp only at h
      split at h
      · exact absurd h nofun
      · rename_i before' next' after' hrest
        cases h
        obtain ⟨hqueue,hfree,hclear⟩ := ih hrest
        refine ⟨by rw [hqueue]; rfl,fun m huses => ?_,fun item' hitem' hblocking m huses => ?_⟩
        · have hm := hfree m huses
          split at hm
          · exact (Bool.or_eq_false_iff.mp hm).1
          · exact hm
        · rcases mem_cons.mp hitem' with rfl|hitem'
          · by_contra hnext
            have hm := hfree m (by simpa using hnext)
            rw [if_pos hblocking,huses,Bool.or_true] at hm
            exact absurd hm nofun
          · exact hclear item' hitem' hblocking m huses
    · rename_i hfree
      cases h
      refine ⟨rfl,fun m huses => ?_,nofun⟩
      cases m with
      | audio | visual =>
        by_contra hblocked
        exact hfree (by simp [huses,hblocked])

variable [DecidableEq δ]

def marksOf (d : δ) (history : List (δ × Kind)) : List Kind :=
  (history.filter fun mark => mark.1=d).map Prod.snd

theorem marksOf_append (d : δ) (first second : List (δ × Kind)) :
    marksOf d (first++second)=marksOf d first++marksOf d second := by
  simp only [marksOf,filter_append,map_append]

variable {kind : Kind} {history : List (δ × Kind)}

theorem mem_marksOf : kind∈marksOf d history ↔ (d,kind)∈history := by
  simp only [marksOf,List.mem_map,mem_filter,decide_eq_true_eq]
  constructor
  · rintro ⟨⟨e,kind'⟩,⟨hmem,rfl⟩,rfl⟩
    exact hmem
  · intro hmem
    exact ⟨(d,kind),⟨hmem,rfl⟩,rfl⟩

variable {moved : List δ}

theorem marksOf_map (hnodup : moved.Nodup) (d : δ) (kind : Kind) :
    marksOf d (moved.map fun e => (e,kind))=if d∈moved then [kind] else [] := by
  induction moved with
  | nil => rfl
  | cons e moved ih =>
    obtain ⟨hnot,hrest⟩ := nodup_cons.mp hnodup
    have hcons : marksOf d ((e::moved).map fun e => (e,kind)) =
        (if e=d then [kind] else [])++marksOf d (moved.map fun e => (e,kind)) := by
      by_cases heq : e=d
      · simp [marksOf,heq]
      · simp [marksOf,heq]
    rw [hcons,ih hrest]
    by_cases heq : e=d
    · subst heq
      simp [hnot]
    · have hne : ¬d=e := fun h => heq h.symm
      simp [heq,hne]

/-- The history of every directive is legal and leads to its stage. -/
def Legal (history : List (δ × Kind)) (st : δ → Stage) : Prop :=
  ∀ d,walk next .fresh (marksOf d history)=some (st d)

variable {st : δ → Stage}

/-- One mark for each directive of a list keeps histories legal. -/
theorem legal_map {f : δ → Stage} (h : Legal history st) (hnodup : moved.Nodup)
    (hnext : ∀ d∈moved,(st d).next kind=some (f d)) :
    Legal (history++moved.map fun d => (d,kind)) fun d => if d∈moved then f d else st d := by
  intro d
  rw [marksOf_append,marksOf_map hnodup]
  dsimp only
  by_cases hd : d∈moved
  · rw [if_pos hd,if_pos hd]
    exact walk_snoc (h d) (hnext d hd)
  · rw [if_neg hd,if_neg hd,append_nil]
    exact h d

variable {stage : Stage}

theorem legal_snoc (h : Legal history st) (hnext : (st d).next kind=some stage) :
    Legal (history++[(d,kind)]) (Function.update st d stage) := by
  have hone := legal_map (f := fun _ => stage) h (nodup_singleton d)
    (fun e he => by rw [mem_singleton.mp he]; exact hnext)
  intro e
  have he := hone e
  simp only [map_cons,map_nil,mem_singleton] at he
  rw [he,update_apply]

theorem marksOf_of_not_begun (h : Legal history st) (hnot : (d,Kind.begun)∉history) : marksOf d history=[] := by
  rw [←mem_marksOf] at hnot
  have hd := h d
  cases hword : marksOf d history with
  | nil => rfl
  | cons kind =>
    rw [hword] at hd hnot
    obtain ⟨t,hnext,_⟩ := walk_cons_inv hd
    have hkind : kind=.begun := by
      cases kind <;> first | rfl | exact absurd hnext nofun
    exact absurd (hkind ▸ mem_cons_self) hnot

theorem fresh_of_not_begun (h : Legal history st) (hnot : (d,Kind.begun)∉history) : st d=.fresh := by
  have hd := h d
  rw [marksOf_of_not_begun h hnot] at hd
  exact (Option.some.inj hd).symm

theorem not_fresh_of_begun (h : Legal history st) (hbegun : (d,Kind.begun)∈history) : st d≠.fresh := by
  rw [←mem_marksOf] at hbegun
  obtain ⟨first,second,hword⟩ := append_of_mem hbegun
  have hd := h d
  rw [hword] at hd
  obtain ⟨t,_,hsecond⟩ := walk_append_inv hd
  obtain ⟨u,hnext,hrest⟩ := walk_cons_inv hsecond
  have hle := rank_le rank_mono hrest
  have hu : u=.preHandling := by
    cases t <;> simp only [Stage.next,reduceCtorEq,Option.some.injEq] at hnext
    exact hnext.symm
  intro hfresh
  rw [hu,hfresh] at hle
  exact absurd hle (by decide)

/-- The containers hold each directive where its history says. -/
structure Agree (s : Processor δ) (st : δ → Stage) : Prop where
  legal : Legal s.history st
  preHandled : ∀ d,s.directiveBeingPreHandled=some d ↔ st d=.preHandling
  queued : ∀ d p,(d,p)∈s.handlingQueue ↔ st d=.waiting p
  queued_nodup : (s.handlingQueue.map Prod.fst).Nodup
  handled : ∀ d m,s.directivesBeingHandled m=some d ↔ ∃ p,st d=.handling p ∧ p.uses m=true
  canceling : ∀ d,d∈s.cancelingQueue ↔ st d=.cancelQueued
  canceling_nodup : s.cancelingQueue.Nodup
  canceled : ∀ d,d∈s.loop.batch ↔ st d=.cancelling
  canceled_nodup : s.loop.batch.Nodup
  running : ∀ d,s.directiveBeingPreHandled=some d → ∃ p,s.preHandling=some (d,p)
  /-- While `handleDirective` runs, its media are free or hold its directive. -/
  calling : ∀ d p,s.loop=.calling d p → 3≤(st d).rank ∧ (∀ q,st d=.handling q → q=p) ∧
    ∀ m e,p.uses m=true → s.directivesBeingHandled m=some e → e=d

theorem agree_init : Agree (init : Processor δ) fun _ => .fresh := by
  refine ⟨fun _ => rfl,fun d => ?_,fun d p => ?_,nodup_nil,fun d m => ?_,fun d => ?_,
    nodup_nil,fun d => ?_,nodup_nil,nofun,nofun⟩
  · exact ⟨nofun,nofun⟩
  · exact ⟨fun h => absurd h not_mem_nil,nofun⟩
  · exact ⟨nofun,fun ⟨_,h,_⟩ => nomatch h⟩
  · exact ⟨fun h => absurd h not_mem_nil,nofun⟩
  · exact ⟨fun h => absurd h not_mem_nil,nofun⟩

section

variable {S : Setting δ} {s : Processor δ} {st : δ → Stage}

/-- What the stages of the directives are about. -/
def traffic (s : Processor δ) :=
  (s.history,s.directiveBeingPreHandled,s.handlingQueue,s.directivesBeingHandled,s.cancelingQueue,s.loop,s.preHandling)

theorem Agree.congr (h : Agree s st) {s' : Processor δ} (hsame : traffic s'=traffic s) : Agree s' st := by
  simp only [traffic,Prod.mk.injEq] at hsame
  obtain ⟨hhistory,hpre,hqueue,hmedia,hcanceling,hloop,hlocal⟩ := hsame
  obtain ⟨h1,h2,h3,h4,h5,h6,h7,h8,h9,h10,h11⟩ := h
  rw [←hhistory] at h1
  rw [←hpre] at h2 h10
  rw [←hlocal] at h10
  rw [←hqueue] at h3 h4
  rw [←hmedia] at h5 h11
  rw [←hcanceling] at h6 h7
  rw [←hloop] at h8 h9 h11
  exact ⟨h1,h2,h3,h4,h5,h6,h7,h8,h9,h10,h11⟩

/-- A directive that is not handed over yet can be queued for cancelling. -/
theorem next_canceling (h : 1 ≤ stage.rank) (h' : stage.rank≤3) : stage.next .canceling=some .cancelQueued := by
  cases stage with
  | fresh => exact absurd h (by decide)
  | preHandling => rfl
  | waiting => rfl
  | handling => rfl
  | cancelQueued | cancelling | out => exact absurd h' (by decide)

theorem agree_withdraw (h : Agree s st) (hnodup : moved.Nodup)
    (hmoved : ∀ d,d∈moved ↔ leaves d=true ∧ (s.directiveBeingPreHandled=some d ∨
      (∃ m,s.directivesBeingHandled m=some d) ∨ ∃ p,(d,p)∈s.handlingQueue)) :
    Agree (s.withdraw leaves moved) fun d => if d∈moved then .cancelQueued else st d := by
  -- what moves was being pre-handled, waiting or being handled
  have hstage : ∀ d∈moved,1≤(st d).rank ∧ (st d).rank≤3 := by
    intro d hd
    rcases ((hmoved d).mp hd).2 with hpre|⟨m,hmedia⟩|⟨p,hqueue⟩
    · rw [(h.preHandled d).mp hpre]
      decide
    · obtain ⟨p,hp,_⟩ := (h.handled d m).mp hmedia
      rw [hp]
      exact ⟨le_of_ble_eq_true rfl,le_of_ble_eq_true rfl⟩
    · rw [(h.queued d p).mp hqueue]
      exact ⟨le_of_ble_eq_true rfl,le_of_ble_eq_true rfl⟩
  -- what is in one of these containers stays there unless it moves
  have hstay : ∀ d,(s.directiveBeingPreHandled=some d ∨
      (∃ m,s.directivesBeingHandled m=some d) ∨ ∃ p,(d,p)∈s.handlingQueue) →
      (leaves d=false ↔ d∉moved) := by
    intro d hd
    rw [hmoved d,not_and,←Bool.not_eq_true]
    exact ⟨fun hnot hleaves => absurd hleaves hnot,fun hnot hleaves => hnot hleaves hd⟩
  have hstays : ∀ d stage,stage≠.cancelQueued →
      ((if d∈moved then cancelQueued else st d)=stage ↔ d∉moved ∧ st d=stage) := by
    intro d stage hne
    by_cases hd : d∈moved
    · rw [if_pos hd]
      exact ⟨fun heq => absurd heq.symm hne,fun hnot => absurd hd hnot.1⟩
    · rw [if_neg hd]
      exact ⟨fun heq => ⟨hd,heq⟩,fun hboth => hboth.2⟩
  refine ⟨?_,fun d => ?_,fun d p => ?_,?_,fun d m => ?_,fun d => ?_,?_,fun d => ?_,
    h.canceled_nodup,fun d hd => ?_,fun d p hloop => ?_⟩
  · exact legal_map h.legal hnodup fun d hd => next_canceling (hstage d hd).1 (hstage d hd).2
  · dsimp only [withdraw]
    rw [hstays d .preHandling nofun,←h.preHandled,filter_eq_some_iff,Bool.not_eq_true']
    exact ⟨fun ⟨hpre,hleaves⟩ => ⟨(hstay d (.inl hpre)).mp hleaves,hpre⟩,
      fun ⟨hnot,hpre⟩ => ⟨hpre,(hstay d (.inl hpre)).mpr hnot⟩⟩
  · dsimp only [withdraw]
    rw [hstays d (.waiting p) nofun,←h.queued,mem_filter,Bool.not_eq_true']
    exact ⟨fun ⟨hqueue,hleaves⟩ => ⟨(hstay d (.inr (.inr ⟨p,hqueue⟩))).mp hleaves,hqueue⟩,
      fun ⟨hnot,hqueue⟩ => ⟨hqueue,(hstay d (.inr (.inr ⟨p,hqueue⟩))).mpr hnot⟩⟩
  · exact h.queued_nodup.sublist (filter_sublist.map _)
  · dsimp only [withdraw]
    rw [filter_eq_some_iff,Bool.not_eq_true']
    constructor
    · rintro ⟨hmedia,hleaves⟩
      obtain ⟨p,hp,huses⟩ := (h.handled d m).mp hmedia
      exact ⟨p,(hstays d (.handling p) nofun).mpr ⟨(hstay d (.inr (.inl ⟨m,hmedia⟩))).mp hleaves,hp⟩,huses⟩
    · rintro ⟨p,hp,huses⟩
      obtain ⟨hnot,hp⟩ := (hstays d (.handling p) nofun).mp hp
      have hmedia := (h.handled d m).mpr ⟨p,hp,huses⟩
      exact ⟨hmedia,(hstay d (.inr (.inl ⟨m,hmedia⟩))).mpr hnot⟩
  · dsimp only [withdraw]
    rw [mem_append,h.canceling]
    by_cases hd : d∈moved
    · rw [if_pos hd]
      exact ⟨fun _ => rfl,fun _ => .inr hd⟩
    · rw [if_neg hd]
      exact or_iff_left hd
  · refine List.Nodup.append h.canceling_nodup hnodup fun d hcanceling hd => ?_
    have hle := (hstage d hd).2
    rw [(h.canceling d).mp hcanceling] at hle
    exact absurd hle (by decide)
  · rw [hstays d .cancelling nofun]
    refine ⟨fun hbatch => ⟨fun hd => ?_,(h.canceled d).mp hbatch⟩,fun hboth => (h.canceled d).mpr hboth.2⟩
    have hle := (hstage d hd).2
    rw [(h.canceled d).mp hbatch] at hle
    exact absurd hle (by decide)
  · exact h.running d (filter_eq_some_iff.mp hd).1
  · obtain ⟨hrank,hpolicy,hmedia⟩ := h.calling d p hloop
    refine ⟨?_,fun q hq => hpolicy q ((hstays d (.handling q) nofun).mp hq).2,fun m e huses he => ?_⟩
    · split
      · decide
      · exact hrank
    · exact hmedia m e huses (filter_eq_some_iff.mp he).1

section

variable (S)

theorem mem_freed (beingHandled : Medium → Option δ) (leaves : δ → Bool) (d : δ) :
    d∈freed S beingHandled leaves ↔ leaves d=true ∧ ∃ m,beingHandled m=some d := by
  have hmedia : (∃ m,beingHandled m=some d) ↔ beingHandled .audio=some d ∨ beingHandled .visual=some d := by
    constructor
    · rintro ⟨m,hm⟩
      cases m with
      | audio => exact .inl hm
      | visual => exact .inr hm
    · rintro (hm|hm)
      · exact ⟨_,hm⟩
      · exact ⟨_,hm⟩
  have hmem : d∈freed S beingHandled leaves ↔
      (beingHandled .audio).filter leaves=some d ∨ (beingHandled .visual).filter leaves=some d := by
    unfold freed
    cases (beingHandled .audio).filter leaves with
    | none =>
      cases (beingHandled .visual).filter leaves with
      | none => simp
      | some => simp [eq_comm]
    | some a =>
      cases (beingHandled .visual).filter leaves with
      | none => simp [eq_comm]
      | some e =>
        dsimp only
        split
        · rename_i heq
          simp [heq,eq_comm]
        · split
          · simp [eq_comm]
          · simp [eq_comm,or_comm]
  rw [hmem,hmedia,filter_eq_some_iff,filter_eq_some_iff]
  tauto

theorem nodup_freed (beingHandled : Medium → Option δ) (leaves : δ → Bool) : (freed S beingHandled leaves).Nodup := by
  unfold freed
  split
  · exact nodup_nil
  · exact nodup_singleton _
  · exact nodup_singleton _
  · split
    · exact nodup_singleton _
    · rename_i hne
      split
      · simpa using hne
      · simpa using fun h => hne h.symm

theorem nodup_moved (h : Agree s st) (leaves : δ → Bool) :
    ((s.directiveBeingPreHandled.filter leaves).toList++freed S s.directivesBeingHandled leaves ++
      leaving s.handlingQueue leaves).Nodup := by
  have hpre : ∀ d,d∈(s.directiveBeingPreHandled.filter leaves).toList → st d=.preHandling := by
    intro d hd
    rw [mem_toList,filter_eq_some_iff] at hd
    exact (h.preHandled d).mp hd.1
  have hmedia : ∀ d,d∈freed S s.directivesBeingHandled leaves → ∃ p,st d=.handling p := by
    intro d hd
    obtain ⟨_,m,hm⟩ := (mem_freed S _ _ _).mp hd
    obtain ⟨p,hp,_⟩ := (h.handled d m).mp hm
    exact ⟨p,hp⟩
  have hqueue : ∀ d,d∈leaving s.handlingQueue leaves → ∃ p,st d=.waiting p := by
    intro d hd
    obtain ⟨_,p,hp⟩ := mem_leaving.mp hd
    exact ⟨p,(h.queued d p).mp hp⟩
  refine List.Nodup.append (List.Nodup.append ?_ (nodup_freed S _ _) ?_) ?_ ?_
  · cases (s.directiveBeingPreHandled.filter leaves) with
    | none => exact nodup_nil
    | some d => exact nodup_singleton d
  · intro d hd hd'
    obtain ⟨p,hp⟩ := hmedia d hd'
    rw [hpre d hd] at hp
    exact absurd hp nofun
  · exact h.queued_nodup.sublist (filter_sublist.map _)
  · intro d hd hd'
    obtain ⟨p,hp⟩ := hqueue d hd'
    rcases mem_append.mp hd with hd|hd
    · rw [hpre d hd] at hp
      exact absurd hp nofun
    · obtain ⟨q,hq⟩ := hmedia d hd
      rw [hq] at hp
      exact absurd hp nofun

end

/-- `scrubDialogRequestIdLocked` keeps containers and histories together. -/
theorem agree_scrubDialogRequestId (h : Agree s st) (dialogRequestId : String) :
    ∃ st',Agree (s.scrubDialogRequestId S dialogRequestId) st' := by
  unfold scrubDialogRequestId
  split
  · exact ⟨st,h⟩
  · have hmoved := agree_withdraw h (nodup_moved S h fun d => decide (S.dialogRequestId d=dialogRequestId)) fun d => by
        rw [mem_append,mem_append,mem_toList,filter_eq_some_iff,mem_freed,mem_leaving]
        tauto
    exact ⟨_,hmoved.congr rfl⟩

theorem agree_queueAllDirectivesForCancellation (h : Agree s st) :
    ∃ st',Agree (s.queueAllDirectivesForCancellation S) st' := by
  have hsame : s.directiveBeingPreHandled.filter (fun _ => true)=s.directiveBeingPreHandled := by
    cases s.directiveBeingPreHandled <;> rfl
  have hnodup := nodup_moved S h fun _ => true
  rw [hsame,append_assoc] at hnodup
  have hmoved := agree_withdraw h (nodup_append_comm.mp hnodup) fun d => by
    rw [mem_append,mem_append,mem_toList,mem_freed,mem_leaving]
    tauto
  exact ⟨_,hmoved.congr rfl⟩

/-- The stage behind `setCompleted` or `setFailed`. -/
def Stage.removed : Stage → Stage
  | .cancelling => .cancelling
  | _ => .out

/-- A result can be reported for every directive that was begun. -/
theorem next_removed (hkind : kind=.completed ∨ kind=.failed)
    (hfresh : stage≠.fresh) : stage.next kind=some stage.removed := by
  rcases hkind with rfl|rfl
  all_goals
    cases stage with
    | fresh => exact absurd rfl hfresh
    | _ => rfl

theorem removed_stage (stage : Stage) : stage.removed≠.preHandling ∧ (∀ p,stage.removed≠.waiting p) ∧
      (∀ p,stage.removed≠.handling p) ∧ stage.removed≠.cancelQueued ∧
      (stage.removed=.cancelling ↔ stage=.cancelling) ∧ 5 ≤ stage.removed.rank := by
  cases stage <;> simp [removed,rank]

variable {directive : δ}

/-- With its mark it keeps containers and histories together. -/
theorem agree_removeDirective (h : Agree s st)
    (hkind : kind=.completed ∨ kind=.failed) (hbegun : (directive,Kind.begun)∈s.history) :
    Agree {s.removeDirective directive with history := s.history++[(directive,kind)]}
      (Function.update st directive (st directive).removed) := by
  obtain ⟨hpre,hqueue,hmedia,hcanceling,hbatch,hrank⟩ := removed_stage (st directive)
  -- the stage of the directive, and of the others
  have hself : Function.update st directive (st directive).removed directive =
      (st directive).removed := update_self ..
  have hother : ∀ d,d≠directive → Function.update st directive (st directive).removed d=st d :=
    fun d hne => update_of_ne hne ..
  refine ⟨legal_snoc h.legal (next_removed hkind (not_fresh_of_begun h.legal hbegun)),fun d => ?_,
    fun d p => ?_,?_,fun d m => ?_,fun d => ?_,h.canceling_nodup.filter _,fun d => ?_,
    h.canceled_nodup,fun d hd => ?_,fun d p hloop => ?_⟩
  · dsimp only [removeDirective]
    rw [filter_eq_some_iff,decide_eq_true_eq]
    by_cases hd : d=directive
    · rw [hd,hself]
      exact ⟨fun hboth => absurd rfl hboth.2,fun hstage => absurd hstage hpre⟩
    · rw [hother d hd,←h.preHandled]
      exact and_iff_left hd
  · dsimp only [removeDirective]
    rw [mem_filter,decide_eq_true_eq]
    by_cases hd : d=directive
    · rw [hd,hself]
      exact ⟨fun hboth => absurd rfl hboth.2,fun hstage => absurd hstage (hqueue p)⟩
    · rw [hother d hd,←h.queued]
      exact and_iff_left hd
  · exact h.queued_nodup.sublist (filter_sublist.map _)
  · dsimp only [removeDirective]
    rw [filter_eq_some_iff,decide_eq_true_eq]
    by_cases hd : d=directive
    · rw [hd,hself]
      exact ⟨fun hboth => absurd rfl hboth.2,fun ⟨p,hp,_⟩ => absurd hp (hmedia p)⟩
    · rw [hother d hd,←h.handled]
      exact and_iff_left hd
  · dsimp only [removeDirective]
    rw [mem_filter,decide_eq_true_eq]
    by_cases hd : d=directive
    · rw [hd,hself]
      exact ⟨fun hboth => absurd rfl hboth.2,fun hstage => absurd hstage hcanceling⟩
    · rw [hother d hd,←h.canceling]
      exact and_iff_left hd
  · by_cases hd : d=directive
    · rw [hd,hself,hbatch]
      exact h.canceled directive
    · rw [hother d hd]
      exact h.canceled d
  · exact h.running d (filter_eq_some_iff.mp hd).1
  · obtain ⟨hrank',hpolicy,hfree⟩ := h.calling d p hloop
    refine ⟨?_,fun q hq => ?_,fun m e huses he => hfree m e huses (filter_eq_some_iff.mp he).1⟩
    · by_cases hd : d=directive
      · rw [hd,hself]
        omega
      · rw [hother d hd]
        exact hrank'
    · by_cases hd : d=directive
      · rw [hd,hself] at hq
        exact absurd hq (hmedia q)
      · rw [hother d hd] at hq
        exact hpolicy q hq

variable {new : Stage}

/-- A stage that one directive neither leaves nor enters. -/
theorem keeps_stage {e : δ} {P : Prop} (h : P ↔ st e=stage)
    (hold : st d≠stage) (hnew : new≠stage) : P ↔ Function.update st d new e=stage := by
  by_cases he : e=d
  · subst he
    rw [update_self,h]
    exact ⟨fun hstage => absurd hstage hold,fun hstage => absurd hstage hnew⟩
  · rw [update_of_ne he]
    exact h

/-- The media, when one directive neither leaves nor enters them. -/
theorem keeps_media {e : δ} {P : Prop} {m : Medium}
    (h : P ↔ ∃ p,st e=.handling p ∧ p.uses m=true) (hold : ∀ p,st d≠.handling p)
    (hnew : ∀ p,new≠.handling p) : P ↔ ∃ p,Function.update st d new e=.handling p ∧ p.uses m=true := by
  rw [h]
  refine exists_congr fun p => and_congr_left fun _ => ?_
  exact keeps_stage Iff.rfl (hold p) (hnew p)

section

variable (h : Agree s st)
include h

/-- A stage does not matter to the loop while another directive is handled. -/
theorem keeps_calling (hnew : (st d).rank≤new.rank)
    (hmedia : ∀ q,new≠.handling q) (e : δ) (p : BlockingPolicy) (hloop : s.loop=.calling e p) :
    3≤(Function.update st d new e).rank ∧ (∀ q,Function.update st d new e=.handling q → q=p) ∧
      ∀ m e',p.uses m=true → s.directivesBeingHandled m=some e' → e'=e := by
  obtain ⟨hrank,hpolicy,hfree⟩ := h.calling e p hloop
  by_cases he : e=d
  · subst he
    rw [update_self]
    exact ⟨Nat.le_trans hrank hnew,fun q hq => absurd hq (hmedia q),hfree⟩
  · rw [update_of_ne he]
    exact ⟨hrank,hpolicy,hfree⟩

variable {policy : BlockingPolicy}

theorem agree_beginDirective (hfree : s.preHandling=none) (honce : (directive,Kind.begun)∉s.history) :
    ∃ st',Agree (s.beginDirective S directive policy).2 st' := by
  unfold beginDirective
  split
  · exact ⟨st,h⟩
  · split
    · exact ⟨st,h⟩
    · have hfresh := fresh_of_not_begun h.legal honce
      have hnone : ∀ d,s.directiveBeingPreHandled≠some d := by
        intro d hd
        obtain ⟨p,hp⟩ := h.running d hd
        rw [hfree] at hp
        exact absurd hp nofun
      have hne : ∀ stage,stage≠.fresh → st directive≠stage := fun stage hstage => by
        rw [hfresh]
        exact hstage.symm
      refine ⟨Function.update st directive .preHandling,legal_snoc h.legal (by rw [hfresh]; rfl),
        fun d => ?_,fun d p => keeps_stage (h.queued d p) (hne _ nofun) nofun,h.queued_nodup,
        fun d m => keeps_media (h.handled d m) (fun p => hne _ nofun) nofun,
        fun d => keeps_stage (h.canceling d) (hne _ nofun) nofun,h.canceling_nodup,
        fun d => keeps_stage (h.canceled d) (hne _ nofun) nofun,h.canceled_nodup,
        fun d hd => ⟨policy,by rw [Option.some.inj hd]⟩,
        keeps_calling (s := s) h (by rw [hfresh]; exact zero_le _) nofun⟩
      by_cases hd : d=directive
      · rw [hd,update_self]
        exact ⟨fun _ => rfl,fun _ => rfl⟩
      · rw [update_of_ne hd,←h.preHandled]
        exact ⟨fun heq => absurd (Option.some.inj heq).symm hd,fun heq => absurd heq (hnone d)⟩

theorem agree_endDirective (hrunning : s.preHandling=some (directive,policy)) (preHandled : Bool) :
    ∃ st',Agree (s.endDirective directive policy preHandled).2 st' := by
  cases hpre : s.directiveBeingPreHandled with
  | none =>
    have hend : (s.endDirective directive policy preHandled).2={s with preHandling := none} := by
      simp only [endDirective,hpre]
    rw [hend]
    refine ⟨st,h.legal,fun d => ?_,h.queued,h.queued_nodup,h.handled,h.canceling,
      h.canceling_nodup,h.canceled,h.canceled_nodup,fun d hd => ?_,h.calling⟩
    · exact h.preHandled d
    · dsimp only at hd
      rw [hpre] at hd
      exact absurd hd nofun
  | some d' =>
    have hd' : d'=directive := by
      obtain ⟨p,hp⟩ := h.running d' hpre
      rw [hrunning] at hp
      exact (congrArg Prod.fst (Option.some.inj hp)).symm
    rw [hd'] at hpre
    have hstage : st directive=.preHandling := (h.preHandled directive).mp hpre
    have hne : ∀ stage,stage≠.preHandling → st directive≠stage := fun stage hs => by
      rw [hstage]
      exact hs.symm
    have hothers : ∀ (new : Stage),new≠.preHandling → ∀ d,
        (none : Option δ)=some d ↔ Function.update st directive new d=.preHandling := by
      intro new hnew d
      by_cases hd : d=directive
      · rw [hd,update_self]
        exact ⟨nofun,fun heq => absurd heq hnew⟩
      · rw [update_of_ne hd,←h.preHandled,hpre]
        exact ⟨nofun,fun heq => absurd (Option.some.inj heq).symm hd⟩
    have hrank : (st directive).rank=1 := by rw [hstage]; rfl
    cases preHandled with
    | true =>
      have hend : (s.endDirective directive policy true).2={s with
          preHandling := none
          directiveBeingPreHandled := none
          handlingQueue := s.handlingQueue++[(directive,policy)]
          history := s.history++[(directive,.queued policy)]} := by
        simp only [endDirective,hpre,if_true]
      rw [hend]
      refine ⟨Function.update st directive (.waiting policy),legal_snoc h.legal (by rw [hstage]; rfl),
        hothers _ nofun,fun d p => ?_,?_,
        fun d m => keeps_media (h.handled d m) (fun p => hne _ nofun) nofun,
        fun d => keeps_stage (h.canceling d) (hne _ nofun) nofun,h.canceling_nodup,
        fun d => keeps_stage (h.canceled d) (hne _ nofun) nofun,h.canceled_nodup,nofun,
        keeps_calling (s := s) h (by rw [hrank]; exact le_of_ble_eq_true rfl) nofun⟩
      · rw [mem_append,mem_singleton,Prod.mk.injEq]
        by_cases hd : d=directive
        · subst hd
          rw [update_self,h.queued,hstage]
          simp [eq_comm]
        · rw [update_of_ne hd,←h.queued]
          simp [hd]
      · rw [map_append,map_singleton]
        refine List.Nodup.append h.queued_nodup (nodup_singleton _) fun d hd hd'' => ?_
        rw [mem_singleton] at hd''
        obtain ⟨⟨e,p⟩,hmem,heq⟩ := List.mem_map.mp hd
        have he : e=directive := heq.trans hd''
        have hwait := (h.queued e p).mp hmem
        rw [he,hstage] at hwait
        exact absurd hwait nofun
    | false =>
      have hend : (s.endDirective directive policy false).2={s with
          preHandling := none
          directiveBeingPreHandled := none
          history := s.history++[(directive,.refused)]} := by
        simp only [endDirective,hpre,Bool.false_eq_true,if_false]
      rw [hend]
      refine ⟨Function.update st directive .out,legal_snoc h.legal (by rw [hstage]; rfl),
        hothers _ nofun,fun d p => keeps_stage (h.queued d p) (hne _ nofun) nofun,h.queued_nodup,
        fun d m => keeps_media (h.handled d m) (fun p => hne _ nofun) nofun,
        fun d => keeps_stage (h.canceling d) (hne _ nofun) nofun,h.canceling_nodup,
        fun d => keeps_stage (h.canceled d) (hne _ nofun) nofun,h.canceled_nodup,nofun,
        keeps_calling (s := s) h (by rw [hrank]; exact le_of_ble_eq_true rfl) nofun⟩

theorem agree_takeCancelingQueue (hbatch : s.loop.batch=[]) : ∃ st',Agree s.takeCancelingQueue st' := by
  have hstage : ∀ d∈s.cancelingQueue,st d=.cancelQueued := fun d hd => (h.canceling d).mp hd
  have hstays : ∀ d stage,stage≠.cancelling → stage≠.cancelQueued →
      ((if d∈s.cancelingQueue then cancelling else st d)=stage ↔ st d=stage) := by
    intro d stage hne hne'
    by_cases hd : d∈s.cancelingQueue
    · rw [if_pos hd,hstage d hd]
      exact ⟨fun heq => absurd heq.symm hne,fun heq => absurd heq.symm hne'⟩
    · rw [if_neg hd]
  refine ⟨fun d => if d∈s.cancelingQueue then .cancelling else st d,
    legal_map h.legal h.canceling_nodup fun d hd => by rw [hstage d hd]; rfl,
    fun d => (h.preHandled d).trans (hstays d .preHandling nofun nofun).symm,
    fun d p => (h.queued d p).trans (hstays d (.waiting p) nofun nofun).symm,h.queued_nodup,
    fun d m => ?_,fun d => ?_,nodup_nil,fun d => ?_,h.canceling_nodup,h.running,nofun⟩
  · rw [show (s.takeCancelingQueue).directivesBeingHandled=s.directivesBeingHandled from rfl, h.handled]
    exact exists_congr fun p => and_congr_left fun _ => (hstays d (.handling p) nofun nofun).symm
  · by_cases hd : d∈s.cancelingQueue
    · rw [if_pos hd]
      exact ⟨fun hnil => absurd hnil not_mem_nil,nofun⟩
    · rw [if_neg hd,←h.canceling]
      exact ⟨fun hnil => absurd hnil not_mem_nil,fun hmem => absurd hmem hd⟩
  · have hnone : st d≠.cancelling := by
      rw [Ne,←h.canceled,hbatch]
      exact not_mem_nil
    by_cases hd : d∈s.cancelingQueue
    · rw [if_pos hd]
      exact ⟨fun _ => rfl,fun _ => hd⟩
    · rw [if_neg hd]
      exact ⟨fun hmem => absurd hmem hd,fun hstage => absurd hstage hnone⟩

theorem agree_handOver (hbatch : s.loop.batch=[])
    (hqueue : s.handlingQueue=before++(d,p)::after) (hfree : ∀ m,p.uses m=true → s.directivesBeingHandled m=none) :
    ∃ st',Agree (s.handOver before (d,p) after) st' := by
  have hstage : st d=.waiting p := by
    rw [←h.queued,hqueue]
    exact mem_append_right _ mem_cons_self
  have hne : ∀ stage,stage≠.waiting p → st d≠stage := fun stage hs => by
    rw [hstage]
    exact hs.symm
  have hnodup := h.queued_nodup
  rw [hqueue,map_append,map_cons] at hnodup
  have hgone : ∀ q,(d,q)∉before++after := by
    intro q hmem
    have hmem' : d∈before.map Prod.fst++after.map Prod.fst := by
      rw [←map_append]
      exact mem_map_of_mem hmem
    exact (nodup_middle.mp hnodup).notMem hmem'
  have hafter : ∀ stage : Stage,stage.rank≠3 → stage.rank≠6 → (if p.usesAny then handling p else .out)≠stage := by
    intro stage h3 h6 heq
    rw [←heq] at h3 h6
    split at h3
    · exact h3 rfl
    · rename_i hany
      rw [if_neg hany] at h6
      exact h6 rfl
  have hmedia : ∀ q,(if p.usesAny then handling p else .out)=.handling q → q=p := by
    intro q hq
    split at hq
    · cases hq
      rfl
    · exact absurd hq nofun
  refine ⟨Function.update st d (if p.usesAny then .handling p else .out),
    legal_snoc h.legal (by rw [hstage,Stage.next,if_pos rfl]),
    fun e => keeps_stage (h.preHandled e) (hne _ nofun) (hafter _ (by decide) (by decide)),
    fun e q => ?_,?_,fun e m => ?_,
    fun e => keeps_stage (h.canceling e) (hne _ nofun) (hafter _ (by decide) (by decide)),
    h.canceling_nodup,
    fun e => keeps_stage (P := e∈([] : List δ)) (by rw [←hbatch]; exact h.canceled e) (hne _ nofun)
      (hafter _ (by decide) (by decide)),nodup_nil,h.running,fun e q hloop => ?_⟩
  · -- the queue
    dsimp only [handOver]
    by_cases he : e=d
    · rw [he,update_self]
      refine ⟨fun hmem => absurd hmem (hgone q),fun heq => absurd heq (hafter _ nofun nofun)⟩
    · rw [update_of_ne he,←h.queued,hqueue,mem_append,mem_append,mem_cons,Prod.mk.injEq]
      simp [he]
  · dsimp only [handOver]
    rw [map_append]
    exact (nodup_middle.mp hnodup).of_cons
  · -- the media
    dsimp only [handOver]
    by_cases huses : p.uses m=true
    · rw [if_pos huses]
      by_cases he : e=d
      · rw [he,update_self,if_pos (usesAny_of_uses huses)]
        exact ⟨fun _ => ⟨p,rfl,huses⟩,fun _ => rfl⟩
      · rw [update_of_ne he,←h.handled,hfree m huses]
        exact ⟨fun heq => absurd (Option.some.inj heq).symm he,nofun⟩
    · rw [if_neg huses,h.handled]
      by_cases he : e=d
      · rw [he,update_self,hstage]
        refine ⟨fun ⟨_,heq,_⟩ => absurd heq nofun,fun ⟨q,hq,huses'⟩ => ?_⟩
        rw [hmedia q hq] at huses'
        exact absurd huses' huses
      · rw [update_of_ne he]
  · dsimp only [handOver] at hloop
    cases hloop
    rw [update_self]
    refine ⟨?_,hmedia,fun m e huses he => ?_⟩
    · split <;> exact le_of_ble_eq_true rfl
    · dsimp only [handOver] at he
      rw [if_pos huses] at he
      exact (Option.some.inj he).symm

theorem agree_serve (hbatch : s.loop.batch=[]) : ∃ st',Agree s.serve st' := by
  unfold serve
  split
  · rename_i before next after hnext
    obtain ⟨hqueue,hfree,_⟩ := nextUnblocked_spec hnext
    refine agree_handOver h hbatch hqueue fun m huses => ?_
    exact not_isSome_iff_eq_none.mp (by rw [hfree m huses]; nofun)
  · have hloop : ∀ loop : Loop δ,loop.batch=[] → (∀ d p,loop≠.calling d p) → Agree {s with loop := loop} st := by
      intro loop hloop hnot
      refine ⟨h.legal,h.preHandled,h.queued,h.queued_nodup,h.handled,h.canceling,
        h.canceling_nodup,fun d => ?_,?_,h.running,fun d p heq => absurd heq (hnot d p)⟩
      · rw [hloop,←hbatch]
        exact h.canceled d
      · rw [hloop]
        exact nodup_nil
    split
    · exact agree_takeCancelingQueue h hbatch
    · split
      · exact ⟨st,hloop .exited rfl nofun⟩
      · exact ⟨st,hloop .asleep rfl nofun⟩

end

/-- The stage when the media of a directive are given up. -/
def Stage.released : Stage → Stage
  | .handling _ => .out
  | stage => stage

section

variable (hrank : 3 ≤ stage.rank) (hpolicy : ∀ q,stage=.handling q → q=p)
include hrank hpolicy

/-- The return of `handleDirective`, when the directive gives its media up. -/
theorem next_released {succeeded : Bool}
    (hrelease : succeeded=false ∨ p.isBlocking=false) : stage.next (.returned p succeeded)=some stage.released := by
  cases stage with
  | fresh | preHandling => exact absurd hrank (by decide)
  | waiting => exact absurd hrank (Nat.not_le_of_lt (Nat.lt_of_sub_eq_succ rfl))
  | handling q =>
    have hnot : (succeeded && p.isBlocking)=false := Bool.and_eq_false_iff.mpr hrelease
    rw [hpolicy q rfl,Stage.next,if_pos rfl,hnot]
    rfl
  | cancelQueued => rfl
  | cancelling => rfl
  | out => rfl

/-- The return of `handleDirective`, when the directive keeps its media. -/
theorem next_kept (hblocking : p.isBlocking=true) : stage.next (.returned p true)=some stage := by
  cases stage with
  | fresh | preHandling => exact absurd hrank (by decide)
  | waiting => exact absurd hrank (Nat.not_le_of_lt (Nat.lt_of_sub_eq_succ rfl))
  | handling q =>
    rw [hpolicy q rfl,Stage.next,if_pos rfl,hblocking]
    rfl
  | cancelQueued => rfl
  | cancelling => rfl
  | out => rfl

end

theorem released_stage (stage : Stage) : (∀ q,stage.released≠.handling q) ∧ stage.rank ≤ stage.released.rank ∧
      ∀ other : Stage,(∀ q,other≠.handling q) → other≠.out → (stage.released=other ↔ stage=other) := by
  cases stage with
  | handling q =>
    refine ⟨nofun,Nat.le_of_ble_eq_true rfl,fun other hmedia hout => ?_⟩
    exact ⟨fun heq => absurd heq.symm hout,fun heq => absurd heq.symm (hmedia q)⟩
  | _ => exact ⟨nofun,Nat.le_refl _,fun _ _ _ => Iff.rfl⟩

/-- What follows the return of `handleDirective`, up to the scrubbing. -/
theorem agree_released (h : Agree s st) {succeeded : Bool}
    (hloop : s.loop=.calling d p) (hrelease : succeeded=false ∨ p.isBlocking=false) :
    Agree (({s with history := s.history++[(d,.returned p succeeded)]} :
      Processor δ).clearDirectiveBeingHandled p) (Function.update st d (st d).released) := by
  obtain ⟨hrank,hpolicy,hfree⟩ := h.calling d p hloop
  obtain ⟨hmedia,hmono,hsame⟩ := released_stage (st d)
  have hkeeps : ∀ (e : δ) (stage : Stage),(∀ q,stage≠.handling q) → stage≠.out →
      (Function.update st d (st d).released e=stage ↔ st e=stage) := by
    intro e stage hnot hout
    by_cases he : e=d
    · rw [he,update_self]
      exact hsame stage hnot hout
    · rw [update_of_ne he]
  refine ⟨legal_snoc h.legal (next_released hrank hpolicy hrelease),
    fun e => (h.preHandled e).trans (hkeeps e .preHandling nofun nofun).symm,
    fun e q => (h.queued e q).trans (hkeeps e (.waiting q) nofun nofun).symm,h.queued_nodup,
    fun e m => ?_,fun e => (h.canceling e).trans (hkeeps e .cancelQueued nofun nofun).symm,
    h.canceling_nodup,fun e => (h.canceled e).trans (hkeeps e .cancelling nofun nofun).symm,
    h.canceled_nodup,h.running,fun e q hloop' => ?_⟩
  · dsimp only [clearDirectiveBeingHandled]
    by_cases huses : p.uses m=true
    · -- such a medium held nothing but the directive
      rw [if_pos huses]
      refine ⟨nofun,fun ⟨q,hq,huses'⟩ => ?_⟩
      by_cases he : e=d
      · rw [he,update_self] at hq
        exact absurd hq (hmedia q)
      · rw [update_of_ne he] at hq
        exact absurd (hfree m e huses ((h.handled e m).mpr ⟨q,hq,huses'⟩)) he
    · rw [if_neg huses,h.handled]
      by_cases he : e=d
      · rw [he,update_self]
        refine ⟨fun ⟨q,hq,huses'⟩ => ?_,fun ⟨q,hq,_⟩ => absurd hq (hmedia q)⟩
        rw [hpolicy q hq] at huses'
        exact absurd huses' huses
      · rw [update_of_ne he]
  · obtain ⟨hrank',hpolicy',hfree'⟩ := keeps_calling (s := s) h hmono hmedia e q hloop'
    refine ⟨hrank',hpolicy',fun m e' huses he' => hfree' m e' huses ?_⟩
    dsimp only [clearDirectiveBeingHandled] at he'
    split at he'
    · exact absurd he' nofun
    · exact he'

theorem agree_handlerReturned (h : Agree s st) (hloop : s.loop=.calling d p) (succeeded : Bool) :
    ∃ st',Agree (s.handlerReturned S d p succeeded) st' := by
  obtain ⟨hrank,hpolicy,_⟩ := h.calling d p hloop
  unfold handlerReturned
  dsimp only
  by_cases hrelease : succeeded=false ∨ p.isBlocking=false
  · rw [if_pos hrelease]
    have hreleased := agree_released h hloop hrelease
    split
    · exact ⟨_,hreleased⟩
    · exact agree_scrubDialogRequestId hreleased _
  · rw [if_neg hrelease]
    rw [not_or,Bool.not_eq_false,Bool.not_eq_false] at hrelease
    obtain ⟨hsucceeded,hblocking⟩ := hrelease
    rw [hsucceeded,if_pos rfl]
    have hlegal := legal_snoc h.legal (next_kept hrank hpolicy hblocking)
    rw [update_eq_self] at hlegal
    exact ⟨st,hlegal,h.preHandled,h.queued,h.queued_nodup,h.handled,h.canceling,
      h.canceling_nodup,h.canceled,h.canceled_nodup,h.running,h.calling⟩

theorem agree_cancelDirective (h : Agree s st) {batch : List δ} (hloop : s.loop=.canceling (d::batch)) :
    ∃ st',Agree {s with
      loop := .canceling batch,history := s.history++[(d,.canceled)]} st' := by
  have hbatch : s.loop.batch=d::batch := by rw [hloop]; rfl
  have hnodup := h.canceled_nodup
  rw [hbatch] at hnodup
  obtain ⟨hnot,hrest⟩ := nodup_cons.mp hnodup
  have hstage : st d=.cancelling := by
    rw [←h.canceled,hbatch]
    exact mem_cons_self
  have hne : ∀ stage,stage≠.cancelling → st d≠stage := fun stage hs => by
    rw [hstage]
    exact hs.symm
  refine ⟨Function.update st d .out,legal_snoc h.legal (by rw [hstage]; rfl),
    fun e => keeps_stage (h.preHandled e) (hne _ nofun) nofun,
    fun e q => keeps_stage (h.queued e q) (hne _ nofun) nofun,h.queued_nodup,
    fun e m => keeps_media (h.handled e m) (fun q => hne _ nofun) nofun,
    fun e => keeps_stage (h.canceling e) (hne _ nofun) nofun,h.canceling_nodup,fun e => ?_,hrest,
    h.running,nofun⟩
  dsimp only [Loop.batch]
  by_cases he : e=d
  · rw [he,update_self]
    exact ⟨fun hmem => absurd hmem hnot,nofun⟩
  · rw [update_of_ne he,←h.canceled,hbatch,mem_cons]
    exact (or_iff_right he).symm

theorem scrubDialogRequestId_frame (S : Setting δ) (s : Processor δ) (dialogRequestId : String) :
    (s.scrubDialogRequestId S dialogRequestId).loop=s.loop ∧
    (s.scrubDialogRequestId S dialogRequestId).preHandling=s.preHandling ∧
    (s.scrubDialogRequestId S dialogRequestId).isShuttingDown=s.isShuttingDown := by
  unfold scrubDialogRequestId
  split <;> exact ⟨rfl,rfl,rfl⟩

/-- The members that the return of `handleDirective` leaves alone. -/
theorem handlerReturned_frame (S : Setting δ) (s : Processor δ) (d : δ) (p : BlockingPolicy)
    (succeeded : Bool) : (s.handlerReturned S d p succeeded).loop=s.loop ∧
    (s.handlerReturned S d p succeeded).preHandling=s.preHandling ∧
    (s.handlerReturned S d p succeeded).isShuttingDown=s.isShuttingDown := by
  unfold handlerReturned
  dsimp only
  split
  · split <;> exact ⟨rfl,rfl,rfl⟩
  · obtain ⟨h1,h2,h3⟩ := scrubDialogRequestId_frame S (if succeeded=false ∨ p.isBlocking=false then
      ({s with history := s.history++[(d,.returned p succeeded)]} : Processor δ).clearDirectiveBeingHandled p
      else {s with history := s.history++[(d,.returned p succeeded)]}) (S.dialogRequestId d)
    rw [h1,h2,h3]
    split <;> exact ⟨rfl,rfl,rfl⟩

/-- Every step keeps containers and histories together. -/
theorem agree_step {s' : Processor δ} {e : Event δ} (h : Agree s st) (hstep : Step S s e s') : ∃ st',Agree s' st' := by
  cases hstep with
  | beginDirective free once => exact agree_beginDirective h free once
  | endDirective running preHandled => exact agree_endDirective h running preHandled
  | setDialogRequestId dialogRequestId =>
    unfold setDialogRequestId
    split
    · exact ⟨st,h⟩
    · obtain ⟨st',h'⟩ := agree_scrubDialogRequestId (S := S) h s.dialogRequestId
      exact ⟨st',h'.congr rfl⟩
  | setCompleted begun =>
    unfold setCompleted
    split
    · exact ⟨_,agree_removeDirective h (.inl rfl) begun⟩
    · exact ⟨st,h⟩
  | setFailed begun =>
    unfold setFailed
    split
    · exact agree_scrubDialogRequestId (agree_removeDirective h (.inr rfl) begun) _
    · exact ⟨st,h⟩
  | disable | shutdown =>
    obtain ⟨st',h'⟩ := agree_queueAllDirectivesForCancellation (S := S) h
    exact ⟨st',h'.congr rfl⟩
  | enable | unregister => exact ⟨st,h.congr rfl⟩
  | wake asleep =>
    have hbatch : s.loop.batch=[] := by rw [asleep]; rfl
    unfold Processor.pass
    split
    · exact agree_takeCancelingQueue h hbatch
    · exact agree_serve h hbatch
  | cancelDirective canceling => exact agree_cancelDirective h canceling
  | batchDone canceling => exact agree_serve h (by rw [canceling]; rfl)
  | @handlerReturned d p calling succeeded =>
    obtain ⟨st',h'⟩ := agree_handlerReturned (S := S) h calling succeeded
    refine agree_serve h' ?_
    rw [(handlerReturned_frame S s d p succeeded).1,calling]
    rfl

end

end AlexaClientSDK.DirectiveStages
