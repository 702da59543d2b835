import AlexaClientSDK.InterruptModel
import AlexaClientSDK.MixingNotices

/-!
# Mixing behaviours follow the interrupt model

The primary activity of a background channel is meant to mix with the foreground as the interrupt model says for both
channels and content types. Every task that changes the foreground channel tells the background channels anew. To
acquire it once more, with another content type, does not.
-/

namespace AlexaClientSDK.MixingBehaviors

open Option List
open KeyedLists LabelledRuns FocusChannel FocusManager FocusInvariant PatienceQueue MixingNotices Manager

variable {α : Type} {S : Setting α}

/-- For a lower channel against a content type on a higher one. -/
def expectedBehavior (s : Manager S) (r : S.table.Ref) (low : α) (foreground : S.table.Ref)
    (contentType : ContentType) : MixingBehavior :=
  match S.interruptModel with
  | none => .undefined
  | some model =>
    model (S.table.config r).name (s.objects.contentType low) (S.table.config foreground).name contentType

variable {r foreground : S.table.Ref} {low : α}

theorem expectedBehavior_congr {s s' : Manager S}
    (htype : s'.objects.contentType=s.objects.contentType) (contentType : ContentType) :
    expectedBehavior s' r low foreground contentType = expectedBehavior s r low foreground contentType := by
  unfold expectedBehavior
  rw [htype]

variable {high : α}

/-- Above a lower channel the manager asks the interrupt model. -/
theorem getMixingBehavior_eq {s : Manager S} (hlower : S.table.priority foreground<S.table.priority r)
    (hlow : (s.channels r).getPrimaryActivity=some low)
    (hhigh : (s.channels foreground).getPrimaryActivity=some high) : s.getMixingBehavior r foreground =
      expectedBehavior s r low foreground (s.objects.contentType high) := by
  unfold getMixingBehavior expectedBehavior
  cases S.interruptModel with
  | none => rfl
  | some =>
    dsimp only
    rw [if_neg (not_lt_of_gt hlower),hlow,hhigh]

/-- The activities that wait in the queue of the executor. -/
def queued (s : Manager S) : List α :=
  s.executor.filterMap fun task =>
    match task with
    | .acquireChannel _ activity => some activity
    | _ => none

/-- An activity that is on no channel and in no task. -/
def New (s : Manager S) (activity : α) : Prop :=
  activity∉queued s ∧ ∀ r,activity∉(s.channels r).activities

def NewActivity (s : Manager S) : Event S → Prop
  | .acquireChannel _ activity => New s activity
  | _ => True

variable [DecidableEq α]

/-- They were last given what the interrupt model says. -/
def Matched (s : Manager S) (foreground : S.table.Ref) (contentType : ContentType) : Prop :=
  ∀ r∈s.activeChannels,r≠foreground → ∀ low,(s.channels r).getPrimaryActivity=some low →
    Agrees (lastGiven s.objects low) (expectedBehavior s r low foreground contentType)

/-- Channels in the background mix as the interrupt model says. -/
def MixingLaw (s : Manager S) : Prop :=
  ∀ foreground high,s.getHighestPriorityActiveChannel=some foreground →
    (s.channels foreground).getPrimaryActivity=some high →
    Matched s foreground (s.objects.contentType high)

/-- The background channels need no other behaviour at a second acquisition. -/
def Unaffected (s : Manager S) : Event S → Prop
  | .runTask => ∀ r activity rest,s.executor=.acquireChannel r activity::rest →
      s.getHighestPriorityActiveChannel=some r → Matched s r (s.objects.contentType activity)
  | _ => True

variable {s s' s'' : Manager S} {activity : α}

/-- Every activity is on one channel or in one task. -/
structure Apart (s : Manager S) : Prop where
  inStep : ∀ r,InStep (queue (s.channels r))
  apart : ∀ r r' activity,activity∈(s.channels r).activities →
    activity∈(s.channels r').activities → r=r'
  /-- An activity of a task is not on a channel yet. -/
  waiting : ∀ activity∈queued s,∀ r,activity∉(s.channels r).activities
  distinct : (queued s).Nodup

/-- No activity moves, and those of the channels are told. -/
structure Refocused (l : List S.table.Ref) (s s' : Manager S) : Prop where
  active : s'.activeChannels=s.activeChannels
  executor : s'.executor=s.executor
  queue : ∀ r,queue (s'.channels r)=queue (s.channels r)
  told : Told (l.flatMap fun r => (s.channels r).activities) s.objects s'.objects

variable {l l' : List S.table.Ref}

theorem Refocused.refl (s : Manager S) : Refocused [] s s :=
  ⟨rfl,rfl,fun _ => rfl,.refl⟩

section

variable (h : Refocused l s s')
include h

namespace Refocused

theorem activities (r : S.table.Ref) : (s'.channels r).activities=(s.channels r).activities :=
  congrArg Queue.activities (h.queue r)

theorem primary (r : S.table.Ref) : (s'.channels r).getPrimaryActivity=(s.channels r).getPrimaryActivity :=
  congrArg List.head? (h.activities r)

theorem trans (h' : Refocused l' s' s'') : Refocused (l++l') s s'' := by
  refine ⟨h'.active.trans h.active,h'.executor.trans h.executor,fun r => (h'.queue r).trans (h.queue r),?_⟩
  have hsame : (l'.flatMap fun r => (s'.channels r).activities) = l'.flatMap fun r => (s.channels r).activities := by
    simp only [h.activities]
  have hlater := h'.told
  rw [hsame] at hlater
  rw [flatMap_append]
  exact (h.told.mono fun _ hmem => mem_append_left _ hmem).trans (hlater.mono fun _ hmem => mem_append_right _ hmem)

theorem apart (ha : Apart s) : Apart s' := by
  have hqueued : queued s'=queued s := by
    unfold queued
    rw [h.executor]
  refine ⟨fun r => ?_,fun r r' activity => ?_,fun activity => ?_,?_⟩
  · rw [h.queue]
    exact ha.inStep r
  · rw [h.activities,h.activities]
    exact ha.apart r r' activity
  · rw [hqueued]
    intro hmem r
    rw [h.activities]
    exact ha.waiting activity hmem r
  · rw [hqueued]
    exact ha.distinct

theorem untold (ha : Apart s) (hmem : activity∈(s.channels r).activities) (hr : r∉l) :
    lastGiven s'.objects activity=lastGiven s.objects activity := by
  refine h.told.lastGiven_other fun htold => ?_
  obtain ⟨r',hr',hmem'⟩ := mem_flatMap.mp htold
  exact hr (ha.apart r r' activity hmem hmem' ▸ hr')

end Refocused

end

theorem refocused_setChannelFocus (s : Manager S) (r : S.table.Ref) (focus : FocusState)
    (behavior : MixingBehavior) (forceUpdate : Bool) :
    Refocused [r] s (s.setChannelFocus r focus behavior forceUpdate) ∧
      (s.setChannelFocus r focus behavior forceUpdate).objects =
        ((s.channels r).setFocus (S.table.config r) s.objects focus behavior forceUpdate).2.2 := by
  have hqueue := queue_setFocus (S.table.config r) (s.channels r) s.objects focus behavior forceUpdate
  have htold := told_setFocus (S.table.config r) (s.channels r) s.objects focus behavior forceUpdate
  cases hset : (s.channels r).setFocus (S.table.config r) s.objects focus behavior forceUpdate with
  | mk changed result =>
    obtain ⟨c,o⟩ := result
    rw [hset] at hqueue htold
    have hmembers : Told ([r].flatMap fun r => (s.channels r).activities) s.objects o := by
      rw [flatMap_singleton]
      exact htold
    unfold setChannelFocus
    rw [hset]
    cases changed with
    | false =>
      have hsame : o=s.objects := by
        unfold Channel.setFocus at hset
        dsimp only at hset
        split at hset
        · exact (Prod.mk.inj (Prod.mk.inj hset).2).2.symm
        · exact Bool.noConfusion (congrArg Prod.fst hset)
      exact ⟨⟨rfl,rfl,fun _ => rfl,.refl⟩,hsame.symm⟩
    | true =>
      refine ⟨⟨rfl,rfl,fun r' => ?_,hmembers⟩,rfl⟩
      by_cases hne : r'=r
      · subst hne
        rw [setChannel_self]
        exact hqueue
      · rw [setChannel_of_ne s c o hne]

theorem setChannelFocus_agrees (ha : Apart s) (hr : Remembered s.objects)
    {primary : α} (hprimary : (s.channels r).getPrimaryActivity=some primary) (focus : FocusState)
    (behavior : MixingBehavior) (forceUpdate : Bool) :
    Agrees (lastGiven (s.setChannelFocus r focus behavior forceUpdate).objects primary) behavior := by
  obtain ⟨hfocused,hobjects⟩ := refocused_setChannelFocus s r focus behavior forceUpdate
  have hagrees := setFocus_agrees (S.table.config r) (s.channels r) s.objects (ha.inStep r).nodup hprimary
    focus behavior forceUpdate
  rw [←hfocused.told.remembered hr primary,hobjects]
  exact hagrees

theorem setBackground_agrees (l : List S.table.Ref) (s : Manager S) (ha : Apart s) (hr : Remembered s.objects)
    (hhigh : (s.channels foreground).getPrimaryActivity=some high)
    (hlower : ∀ r∈l,S.table.priority foreground<S.table.priority r) :
    Refocused l s (setBackground foreground s l) ∧ ∀ r∈l,∀ low,(s.channels r).getPrimaryActivity=some low →
        Agrees (lastGiven (setBackground foreground s l).objects low)
          (expectedBehavior s r low foreground (s.objects.contentType high)) := by
  induction l generalizing s with
  | nil => exact ⟨.refl s,fun r hr => absurd hr not_mem_nil⟩
  | cons r rest ih =>
    obtain ⟨hfirst,_⟩ := refocused_setChannelFocus s r .background (s.getMixingBehavior r foreground) false
    obtain ⟨hrest,hlater⟩ := ih (s.setChannelFocus r .background (s.getMixingBehavior r foreground) false)
      (hfirst.apart ha) (hfirst.told.remembered hr) ((hfirst.primary foreground).trans hhigh)
      fun r' hr' => hlower r' (mem_cons_of_mem _ hr')
    refine ⟨hfirst.trans hrest,fun r' hr' low hlow => ?_⟩
    by_cases hmem : r'∈rest
    · have hagain := hlater r' hmem low ((hfirst.primary r').trans hlow)
      rw [expectedBehavior_congr hfirst.told.contentType,hfirst.told.contentType] at hagain
      exact hagain
    · -- the later channels are told nothing that concerns this one
      obtain rfl : r'=r := (mem_cons.mp hr').resolve_right hmem
      have hlow' : low∈(s.channels r').activities := mem_of_mem_head? hlow
      have hkept := hrest.untold (hfirst.apart ha) (hfirst.activities r' ▸ hlow') hmem
      have hnow := setChannelFocus_agrees ha hr hlow .background (s.getMixingBehavior r' foreground) false
      rw [getMixingBehavior_eq (hlower r' mem_cons_self) hlow hhigh] at hnow hkept
      rw [setBackground,getMixingBehavior_eq (hlower r' mem_cons_self) hlow hhigh,hkept]
      exact hnow

/-- Before it gets the foreground, others are given what is expected. -/
theorem matched_foreground (ha : Apart s) (hr : Remembered s.objects)
    (hsorted : KeySorted S.table.priority s.activeChannels) (hmem : foreground∈s.activeChannels)
    (hfirst : ∀ r∈s.activeChannels,r=foreground ∨ S.table.priority foreground<S.table.priority r)
    (hhigh : (s.channels foreground).getPrimaryActivity=some high) :
    Matched ((s.setBackgroundChannelMixingBehavior foreground).setChannelFocus foreground .foreground
      .primary false) foreground (s.objects.contentType high) := by
  unfold setBackgroundChannelMixingBehavior
  have hlower : ∀ r∈behind S.table.priority foreground s.activeChannels,
      S.table.priority foreground<S.table.priority r :=
    fun r hbehind => ((mem_behind hsorted hmem).mp hbehind).2
  obtain ⟨hback,hagrees⟩ := setBackground_agrees _ s ha hr hhigh hlower
  obtain ⟨hfore,_⟩ := refocused_setChannelFocus
    (setBackground foreground s (behind S.table.priority foreground s.activeChannels)) foreground
      .foreground .primary false
  have hall := hback.trans hfore
  intro r hactive hne low hlow
  have hprimary : (s.channels r).getPrimaryActivity=some low := (hall.primary r).symm.trans hlow
  have hactive' : r∈s.activeChannels := by
    rw [←hall.active]
    exact hactive
  have hbehind : r∈behind S.table.priority foreground s.activeChannels :=
    (mem_behind hsorted hmem).mpr ⟨hactive',(hfirst r hactive').resolve_left hne⟩
  have hlow' : low∈(s.channels r).activities := mem_of_mem_head? hprimary
  have hkept := hfore.untold (hback.apart ha) (hback.activities r ▸ hlow') (by simpa using hne)
  rw [expectedBehavior_congr hall.told.contentType,hkept]
  exact hagrees r hbehind low hprimary

theorem refocused_foreground (s : Manager S) (r : S.table.Ref) :
    Refocused (behind S.table.priority r s.activeChannels++[r]) s
      ((s.setBackgroundChannelMixingBehavior r).setChannelFocus r .foreground .primary false) := by
  have hback : ∀ (l : List S.table.Ref) (s : Manager S),Refocused l s (setBackground r s l) := by
    intro l
    induction l with
    | nil => exact fun s => .refl s
    | cons r' rest ih =>
      intro s
      exact (refocused_setChannelFocus s r' .background (s.getMixingBehavior r' r) false).1.trans (ih _)
  exact (hback _ s).trans (refocused_setChannelFocus _ r .foreground .primary false).1

structure Kept (s : Manager S) : Prop where
  /-- Every activity is on one channel or in one task. -/
  apart : Apart s
  /-- Activities remember what they were last given. -/
  remembered : Remembered s.objects

theorem refocused_notifyActivityTracker (s : Manager S) : Refocused [] s s.notifyActivityTracker :=
  ⟨rfl,rfl,fun _ => rfl,.refl⟩

section

variable (h : Kept s)
include h

theorem Kept.refocused (hs : Refocused l s s') : Kept s' :=
  ⟨hs.apart h.apart,hs.told.remembered h.remembered⟩

theorem Kept.setChannel {c : Channel α} {o : Objects α} {told : List α} (hstep : InStep (queue c))
    (hsub : ∀ activity∈c.activities,activity∈(s.channels r).activities ∨ New s activity)
    (ho : Told told s.objects o) : Kept (s.setChannel r c o) := by
  have hself : (s.setChannel r c o).channels r=c := s.setChannel_self r c o
  have hother : ∀ r',r'≠r → (s.setChannel r c o).channels r'=s.channels r' :=
    fun r' hne => s.setChannel_of_ne c o hne
  -- an activity of the channel is on no other one
  have halone : ∀ activity∈c.activities,∀ r',r'≠r → activity∉(s.channels r').activities := by
    intro activity hmem r' hne hmem'
    rcases hsub activity hmem with hold|hnew
    · exact hne (h.apart.apart r' r activity hmem' hold)
    · exact hnew.2 r' hmem'
  refine ⟨⟨fun r' => ?_,fun r' r'' activity hmem hmem' => ?_,fun activity hwait r' hmem => ?_,
    h.apart.distinct⟩,ho.remembered h.remembered⟩
  · by_cases hne : r'=r
    · rw [hne,hself]
      exact hstep
    · rw [hother r' hne]
      exact h.apart.inStep r'
  · by_cases hne : r'=r
    · by_cases hne' : r''=r
      · rw [hne,hne']
      · rw [hne,hself] at hmem
        rw [hother r'' hne'] at hmem'
        exact absurd hmem' (halone activity hmem r'' hne')
    · rw [hother r' hne] at hmem
      by_cases hne' : r''=r
      · rw [hne',hself] at hmem'
        exact absurd hmem (halone activity hmem' r' hne)
      · rw [hother r'' hne'] at hmem'
        exact h.apart.apart r' r'' activity hmem hmem'
  · by_cases hne : r'=r
    · rw [hne,hself] at hmem
      rcases hsub activity hmem with hold|hnew
      · exact h.apart.waiting activity hwait r hold
      · exact hnew.1 hwait
    · rw [hother r' hne] at hmem
      exact h.apart.waiting activity hwait r' hmem

theorem Kept.congr (hchannels : s'.channels=s.channels) (hobjects : s'.objects=s.objects)
    (hqueued : queued s'=queued s) : Kept s' := by
  obtain ⟨⟨hstep,hapart,hwaiting,hdistinct⟩,hremembered⟩ := h
  rw [←hchannels] at hstep hapart hwaiting
  rw [←hqueued] at hwaiting hdistinct
  rw [←hobjects] at hremembered
  exact ⟨⟨hstep,hapart,hwaiting,hdistinct⟩,hremembered⟩

theorem Kept.release (fits : α → Bool) : Kept (s.setChannel r
      ((s.channels r).releaseFirst S.activity (S.table.config r) s.objects fits).2.1
      ((s.channels r).releaseFirst S.activity (S.table.config r) s.objects fits).2.2) := by
  refine h.setChannel ?_ (fun activity hmem => .inl ?_)
    (told_releaseFirst S.activity (S.table.config r) (s.channels r) s.objects fits)
  · rw [queue_releaseFirst]
    exact (h.apart.inStep r).release _
  · exact (released_releaseFirst S.activity (S.table.config r) (s.channels r) s.objects fits).fewer activity hmem

theorem Kept.clearChannel (r : S.table.Ref) : Kept (s.clearChannel r) := by
  unfold Manager.clearChannel
  split
  · exact h
  · have herased : Kept {s with activeChannels := eraseKey S.table.priority r s.activeChannels} :=
      h.congr rfl rfl rfl
    exact herased.refocused (refocused_setChannelFocus _ r .none .mustStop false).1

/-- What ends the tasks that release keeps them and brings the law about. -/
theorem closing (hsorted : KeySorted S.table.priority s.activeChannels) :
    Kept s.foregroundHighestPriorityActiveChannel.notifyActivityTracker ∧
      MixingLaw s.foregroundHighestPriorityActiveChannel.notifyActivityTracker := by
  suffices hforeground : Kept s.foregroundHighestPriorityActiveChannel ∧
      MixingLaw s.foregroundHighestPriorityActiveChannel from
    ⟨hforeground.1.refocused (refocused_notifyActivityTracker _),hforeground.2⟩
  unfold foregroundHighestPriorityActiveChannel
  cases hhead : s.getHighestPriorityActiveChannel with
  | none =>
    refine ⟨h,fun foreground high hsome => ?_⟩
    rw [hhead] at hsome
    cases hsome
  | some r =>
    have hall := refocused_foreground s r
    refine ⟨h.refocused hall,fun foreground high hsome hhigh => ?_⟩
    have hsame : some foreground=some r :=
      hsome.symm.trans ((congrArg List.head? hall.active).trans hhead)
    obtain rfl := some.inj hsame
    rw [hall.told.contentType]
    exact matched_foreground h.apart h.remembered hsorted (mem_of_mem_head? hhead)
      (fun r' hr' => head_least hsorted hhead hr') ((hall.primary foreground).symm.trans hhigh)

end

section

variable (s)

/-- The channel has its new activity and is among the active ones. -/
def joined (r : S.table.Ref) (activity : α) : Manager S :=
  {s.setChannel r ((s.channels r).setPrimaryActivity S.activity (S.table.config r) s.objects activity).1
      ((s.channels r).setPrimaryActivity S.activity (S.table.config r) s.objects activity).2 with
    activeChannels := insertKey S.table.priority r s.activeChannels}

/-- The second half: the focus. -/
def focused (r : S.table.Ref) : Option S.table.Ref → Manager S
  | none => s.setChannelFocus r .foreground .primary false
  | some foreground =>
    if foreground=r then s.setChannelFocus r .foreground .primary true
    else if S.table.priority r<S.table.priority foreground then
      (s.setBackgroundChannelMixingBehavior r).setChannelFocus r .foreground .primary false
    else s.setChannelFocus r .background (s.getMixingBehavior r foreground) false

theorem acquireChannelHelper_eq (r : S.table.Ref) (activity : α) : s.acquireChannelHelper r activity =
      (focused (joined s r activity) r s.getHighestPriorityActiveChannel).notifyActivityTracker := by
  unfold acquireChannelHelper focused joined
  cases s.getHighestPriorityActiveChannel <;> rfl

end

theorem joined_spec (h : Kept s) (hnew : New s activity) : Kept (joined s r activity) ∧
      ((joined s r activity).channels r).getPrimaryActivity=some activity ∧
      (∀ r',r'≠r → (joined s r activity).channels r'=s.channels r') ∧
      Told (s.channels r).activities s.objects (joined s r activity).objects := by
  have hqueue := queue_setPrimaryActivity S.activity (S.table.config r) (s.channels r) s.objects activity
  have hacts := congrArg Queue.activities hqueue
  obtain ⟨hfront,hsub⟩ := setPrimary_activities (A := S.activity) (h.apart.inStep r) activity
  have htold := told_setPrimaryActivity S.activity (S.table.config r) (s.channels r) s.objects activity
  have hfew : ∀ other∈((s.channels r).setPrimaryActivity S.activity (S.table.config r) s.objects
      activity).1.activities,other∈(s.channels r).activities ∨ New s other := by
    intro other hmem
    have hmem' : other∈((queue (s.channels r)).setPrimary S.activity activity).activities := by
      rw [←hacts]
      exact hmem
    rcases hsub other hmem' with rfl|hold
    · exact .inr hnew
    · exact .inl hold
  have hstep := (h.apart.inStep r).setPrimary (A := S.activity) (hnew.2 r)
  rw [←hqueue] at hstep
  have hkept := h.setChannel hstep hfew htold
  refine ⟨hkept.congr rfl rfl rfl,?_,fun r' hne => ?_,htold⟩
  · have hself : (joined s r activity).channels r =
        ((s.channels r).setPrimaryActivity S.activity (S.table.config r) s.objects activity).1 :=
      setChannel_self s r _ s.objects
    rw [hself]
    exact (congrArg List.head? hacts).trans hfront
  · exact setChannel_of_ne s _ s.objects hne

theorem refocused_focused (s : Manager S) (r : S.table.Ref) (foreground : Option S.table.Ref) :
    ∃ l,Refocused l s (focused s r foreground) := by
  cases foreground with
  | none => exact ⟨_,(refocused_setChannelFocus s r _ _ _).1⟩
  | some =>
    unfold focused
    dsimp only
    split
    · exact ⟨_,(refocused_setChannelFocus s r _ _ _).1⟩
    · split
      · exact ⟨_,refocused_foreground s r⟩
      · exact ⟨_,(refocused_setChannelFocus s r _ _ _).1⟩

theorem Kept.acquireChannelHelper (h : Kept s) (r : S.table.Ref) (hnew : New s activity) :
    Kept (s.acquireChannelHelper r activity) := by
  obtain ⟨l,hfocused⟩ := refocused_focused (joined s r activity) r s.getHighestPriorityActiveChannel
  rw [acquireChannelHelper_eq]
  exact ((joined_spec h hnew).1.refocused hfocused).refocused (refocused_notifyActivityTracker _)

theorem joined_active (hs : Settled s) (r : S.table.Ref) (activity : α) :
    KeySorted S.table.priority (joined s r activity).activeChannels ∧
      ∀ r',r'∈(joined s r activity).activeChannels ↔ r'=r ∨ r'∈s.activeChannels :=
  ⟨keySorted_insertKey S.table.priority_injective hs.law.sorted, fun _ => mem_insertKey S.table.priority_injective⟩

section

variable {r' f : S.table.Ref}

theorem primary_joined (h : Kept s) (hnew : New s activity)
    (hfocused : Refocused l (joined s r activity) s') (hne : r'≠r) :
    (s'.channels r').getPrimaryActivity=(s.channels r').getPrimaryActivity := by
  obtain ⟨_,_,hothers,_⟩ := joined_spec h (r := r) hnew
  rw [hfocused.primary,hothers r' hne]

/-- It stays if only the channel that was acquired gets a focus. -/
theorem agrees_joined (h : Kept s) (hnew : New s activity)
    (hfocused : Refocused [r] (joined s r activity) s') (foreground : S.table.Ref)
    (contentType : ContentType) (hne : r'≠r) (hlow : (s.channels r').getPrimaryActivity=some low) :
    Agrees (lastGiven s'.objects low) (expectedBehavior s' r' low foreground contentType) ↔
      Agrees (lastGiven s.objects low) (expectedBehavior s r' low foreground contentType) := by
  obtain ⟨hkept,_,hothers,htold⟩ := joined_spec h (r := r) hnew
  have hmem : low∈(s.channels r').activities := mem_of_mem_head? hlow
  have hmem' : low∈((joined s r activity).channels r').activities := by
    rw [hothers r' hne]
    exact hmem
  have hnotr : low∉(s.channels r).activities := fun hr => hne (h.apart.apart r' r low hmem hr)
  rw [hfocused.untold hkept.apart hmem' (by simpa using hne),htold.lastGiven_other hnotr,
    expectedBehavior_congr (hfocused.told.contentType.trans htold.contentType)]

section

variable (hs : Settled s)
include hs

theorem law_focused_first (hnone : s.getHighestPriorityActiveChannel=none) :
    MixingLaw ((joined s r activity).setChannelFocus r .foreground .primary false) := by
  intro foreground high hfirst _ r' hr' hne
  have hnil : s.activeChannels=[] := List.head?_eq_none_iff.mp hnone
  have hactive := (refocused_setChannelFocus (joined s r activity) r .foreground .primary false).1.active
  have honly : ∀ r'∈(joined s r activity).activeChannels,r'=r := by
    intro r' hr'
    rw [(joined_active hs r activity).2,hnil] at hr'
    exact hr'.resolve_right not_mem_nil
  have hforeground := honly foreground (hactive ▸ mem_of_mem_head? hfirst)
  exact absurd ((honly r' (hactive ▸ hr')).trans hforeground.symm) hne

/-- The others stay as they were told. -/
theorem law_focused_again (h : Kept s) (hnew : New s activity) (hhead : s.getHighestPriorityActiveChannel=some r) :
    MixingLaw ((joined s r activity).setChannelFocus r .foreground .primary true) ↔
      Matched s r (s.objects.contentType activity) := by
  obtain ⟨_,hprimary,_,htold⟩ := joined_spec h (r := r) hnew
  obtain ⟨hsorted,hmem⟩ := joined_active hs r activity
  have hfocused := (refocused_setChannelFocus (joined s r activity) r .foreground .primary true).1
  have hfirst : ((joined s r activity).setChannelFocus r .foreground .primary
      true).getHighestPriorityActiveChannel=some r := by
    have hleast : ∀ r'∈(joined s r activity).activeChannels, r'=r ∨ S.table.priority r<S.table.priority r' := by
      intro r' hr'
      rcases (hmem r').mp hr' with heq|hold
      · exact .inl heq
      · exact head_least hs.law.sorted hhead hold
    exact (congrArg List.head? hfocused.active).trans (head_eq_of_least hsorted ((hmem r).mpr (.inl rfl)) hleast)
  have hprimary' := (hfocused.primary r).trans hprimary
  have htype := congrFun (hfocused.told.contentType.trans htold.contentType) activity
  constructor
  · intro hlaw r' hr' hne low hlow
    have hnow := hlaw r activity hfirst hprimary' r' (by rw [hfocused.active]; exact (hmem r').mpr (.inr hr'))
      hne low ((primary_joined h hnew hfocused hne).trans hlow)
    rw [htype] at hnow
    exact (agrees_joined h hnew hfocused r _ hne hlow).mp hnow
  · intro hmatched foreground high hfirst' hhigh r' hr' hne low hlow
    obtain rfl := some.inj (hfirst.symm.trans hfirst')
    obtain rfl := some.inj (hprimary'.symm.trans hhigh)
    rw [primary_joined h hnew hfocused hne] at hlow
    rw [hfocused.active,hmem] at hr'
    rw [htype]
    exact (agrees_joined h hnew hfocused r _ hne hlow).mpr (hmatched r' (hr'.resolve_left hne) hne low hlow)

/-- Where the channel takes over the foreground, the others are told anew. -/
theorem law_focused_higher (h : Kept s) (hnew : New s activity)
    (hhead : s.getHighestPriorityActiveChannel=some f) (hhigher : S.table.priority r<S.table.priority f) :
    MixingLaw (((joined s r activity).setBackgroundChannelMixingBehavior r).setChannelFocus r .foreground
      .primary false) := by
  obtain ⟨hkept,_⟩ := joined_spec h (r := r) hnew
  obtain ⟨hsorted,hmem⟩ := joined_active hs r activity
  have hleast : ∀ r'∈(joined s r activity).activeChannels, r'=r ∨ S.table.priority r<S.table.priority r' := by
    intro r' hr'
    rcases (hmem r').mp hr' with heq|hold
    · exact .inl heq
    · rcases head_least hs.law.sorted hhead hold with rfl|hlt
      · exact .inr hhigher
      · exact .inr (hhigher.trans hlt)
  have hfocused := refocused_foreground (joined s r activity) r
  have hfirst := (congrArg List.head? hfocused.active).trans (head_eq_of_least hsorted ((hmem r).mpr (.inl rfl)) hleast)
  intro foreground high hfirst' hhigh
  obtain rfl := some.inj (hfirst.symm.trans hfirst')
  rw [hfocused.told.contentType]
  exact matched_foreground hkept.apart hkept.remembered hsorted ((hmem r).mpr (.inl rfl)) hleast
    ((hfocused.primary r).symm.trans hhigh)

/-- Where the channel stays behind the foreground, it is told itself. -/
theorem law_focused_lower (h : Kept s) (hlaw : MixingLaw s) (hnew : New s activity) (hhead : s.getHighestPriorityActiveChannel=some f)
    (hlower : S.table.priority f<S.table.priority r) : MixingLaw ((joined s r activity).setChannelFocus r .background
      ((joined s r activity).getMixingBehavior r f) false) := by
  obtain ⟨hkept,hprimary,_,htold⟩ := joined_spec h (r := r) hnew
  obtain ⟨hsorted,hmem⟩ := joined_active hs r activity
  have hne : f≠r := by
    rintro rfl
    exact lt_irrefl _ hlower
  have hleast : ∀ r'∈(joined s r activity).activeChannels, r'=f ∨ S.table.priority f<S.table.priority r' := by
    intro r' hr'
    rcases (hmem r').mp hr' with rfl|hold
    · exact .inr hlower
    · exact head_least hs.law.sorted hhead hold
  have hf : f∈(joined s r activity).activeChannels := (hmem f).mpr (.inr (mem_of_mem_head? hhead))
  have hfocused := (refocused_setChannelFocus (joined s r activity) r .background
    ((joined s r activity).getMixingBehavior r f) false).1
  have hfirst := (congrArg List.head? hfocused.active).trans (head_eq_of_least hsorted hf hleast)
  intro foreground high hfirst' hhigh r' hr' hne' low hlow
  obtain rfl := some.inj (hfirst.symm.trans hfirst')
  have htype := hfocused.told.contentType.trans htold.contentType
  rw [htype]
  by_cases hsame : r'=r
  · subst hsame
    rw [hfocused.primary] at hlow hhigh
    have hagrees := setChannelFocus_agrees hkept.apart hkept.remembered hlow .background
      ((joined s r' activity).getMixingBehavior r' f) false
    have hexpected := getMixingBehavior_eq hlower hlow hhigh
    rw [expectedBehavior_congr hfocused.told.contentType,←htold.contentType,←hexpected]
    exact hagrees
  · rw [primary_joined h hnew hfocused hsame] at hlow
    rw [primary_joined h hnew hfocused hne] at hhigh
    rw [hfocused.active,hmem] at hr'
    exact (agrees_joined h hnew hfocused f _ hsame hlow).mpr
      (hlaw f high hhead hhigh r' (hr'.resolve_left hsame) hne' low hlow)

/-- Unless it was the foreground one and others needed a new behaviour. -/
theorem law_acquireChannelHelper (h : Kept s) (hlaw : MixingLaw s) (hnew : New s activity) :
    MixingLaw (s.acquireChannelHelper r activity) ↔
      (s.getHighestPriorityActiveChannel=some r → Matched s r (s.objects.contentType activity)) := by
  -- the activity tracker changes nothing
  suffices hfocus : MixingLaw (focused (joined s r activity) r s.getHighestPriorityActiveChannel) ↔
      (s.getHighestPriorityActiveChannel=some r → Matched s r (s.objects.contentType activity)) by
    rw [acquireChannelHelper_eq]
    exact hfocus
  unfold focused
  cases hhead : s.getHighestPriorityActiveChannel with
  | none => exact ⟨fun _ hsome => (by cases hsome),fun _ => law_focused_first hs hhead⟩
  | some f =>
    dsimp only
    by_cases hsame : f=r
    · subst hsame
      rw [if_pos rfl,law_focused_again hs h hnew hhead]
      exact ⟨fun hmatched _ => hmatched,fun hmatched => hmatched rfl⟩
    · rw [if_neg hsame]
      refine ⟨fun _ hsome => absurd (some.inj hsome) hsame,fun _ => ?_⟩
      by_cases hhigher : S.table.priority r<S.table.priority f
      · rw [if_pos hhigher]
        exact law_focused_higher hs h hnew hhead hhigher
      · rw [if_neg hhigher]
        have hlower : S.table.priority f<S.table.priority r :=
          lt_of_le_of_ne (not_lt.mp hhigher) fun heq => hsame (S.table.priority_injective heq)
        exact law_focused_lower hs h hlaw hnew hhead hlower

end

end

theorem MixingLaw.congr (hlaw : MixingLaw s) (hactive : s'.activeChannels=s.activeChannels)
    (hprimary : ∀ r,(s'.channels r).getPrimaryActivity=(s.channels r).getPrimaryActivity)
    (htype : s'.objects.contentType=s.objects.contentType)
    (hgiven : ∀ r low,(s.channels r).getPrimaryActivity=some low →
      lastGiven s'.objects low=lastGiven s.objects low) : MixingLaw s' := by
  intro foreground high hfirst hhigh r hr hne low hlow
  rw [hprimary] at hhigh hlow
  rw [hactive] at hr
  rw [hgiven r low hlow,expectedBehavior_congr htype,htype]
  exact hlaw foreground high ((congrArg List.head? hactive).symm.trans hfirst) hhigh r hr hne low hlow

section

variable (hs : Settled s) (h : Kept s) (hlaw : MixingLaw s)
include hs h hlaw

theorem mixing_releaseChannelHelper (r : S.table.Ref) (observer : Option ℕ) :
    Kept (s.releaseChannelHelper r observer) ∧ MixingLaw (s.releaseChannelHelper r observer) := by
  unfold releaseChannelHelper Channel.releaseActivityOf
  cases observer with
  | none =>
    have hchannels : (s.setChannel r (s.channels r) s.objects).channels=s.channels :=
      Function.update_eq_self r s.channels
    exact ⟨h.congr hchannels rfl rfl,
      hlaw.congr rfl (fun r' => congrArg (fun c => (c r').getPrimaryActivity) hchannels) rfl fun _ _ _ => rfl⟩
  | some observer =>
    dsimp only
    have hkept := h.release (r := r) fun activity => (S.activity activity).channelObserver=observer
    have hfewer := released_releaseFirst S.activity (S.table.config r) (s.channels r) s.objects
      fun activity => (S.activity activity).channelObserver=observer
    cases hrelease : (s.channels r).releaseFirst S.activity (S.table.config r) s.objects
        fun activity => (S.activity activity).channelObserver=observer with
    | mk success result =>
      obtain ⟨c,o⟩ := result
      rw [hrelease] at hkept hfewer
      cases success with
      | false =>
        obtain ⟨hc,ho⟩ := releaseFirst_failed hrelease
        have hchannels : (s.setChannel r c o).channels=s.channels := by
          rw [hc]
          exact Function.update_eq_self r s.channels
        exact ⟨h.congr hchannels ho rfl,
          hlaw.congr rfl (fun r' => congrArg (fun c => (c r').getPrimaryActivity) hchannels)
            (congrArg Objects.contentType ho) fun _ low _ => congrArg (fun o => lastGiven o low) ho⟩
      | true =>
        have hloose := loose_setChannel (hs.law.loose hs.patient) hfewer o
        have hpromised : Loose [r] {s.setChannel r c o with promises := s.promises++[true]} :=
          ⟨hloose.sorted,hloose.held,hloose.active,hloose.idle,hloose.patient⟩
        have hkept' : Kept {s.setChannel r c o with promises := s.promises++[true]} :=
          hkept.congr rfl rfl rfl
        exact closing (hkept'.clearChannel r) (loose_clearChannel hpromised).sorted

theorem mixing_stopForegroundActivityHelper (r : S.table.Ref) (interfaceName : String) :
    Kept (s.stopForegroundActivityHelper r interfaceName) ∧
      MixingLaw (s.stopForegroundActivityHelper r interfaceName) := by
  unfold stopForegroundActivityHelper
  split
  · exact ⟨h,hlaw⟩
  · have hfewer := released_releaseFirst S.activity (S.table.config r) (s.channels r) s.objects
      fun activity => (S.activity activity).interface=(s.channels r).interfaceName
    have hkept := h.release (r := r) fun activity =>
      (S.activity activity).interface=(s.channels r).interfaceName
    exact closing (hkept.clearChannel r)
      (loose_clearChannel (loose_setChannel (hs.law.loose hs.patient) hfewer _)).sorted

end

theorem mixing_stopAllActivitiesHelper (hs : Settled s) (h : Kept s) (owners : List (S.table.Ref × String)) :
    Kept (s.stopAllActivitiesHelper owners) ∧ MixingLaw (s.stopAllActivitiesHelper owners) := by
  have hreleased : Kept (s.releaseOwners owners) :=
    releaseOwners_induct (fun _ r interfaceName h =>
      h.release (r := r) fun activity => (S.activity activity).interface=interfaceName) owners h
  have hcleared : Kept ((s.releaseOwners owners).clearChannels (owners.map Prod.fst)) :=
    clearChannels_induct (fun _ r h => h.clearChannel r) _ hreleased
  exact closing hcleared (loose_clearChannels _ (loose_releaseOwners owners (hs.law.loose hs.patient))).sorted

theorem mixing_patienceExpiry (h : Kept s) (hlaw : MixingLaw s) {receiver : α}
    (hrun : (s.channels r).patienceTimer=some receiver) : Kept (s.setChannel r
      ((s.channels r).patienceTimerCallback S.activity (S.table.config r) s.objects receiver).1
      ((s.channels r).patienceTimerCallback S.activity (S.table.config r) s.objects receiver).2) ∧
    MixingLaw (s.setChannel r ((s.channels r).patienceTimerCallback S.activity (S.table.config r) s.objects receiver).1
      ((s.channels r).patienceTimerCallback S.activity (S.table.config r) s.objects receiver).2) := by
  have hqueue := queue_patienceTimerCallback S.activity (S.table.config r) (s.channels r) s.objects receiver
  have htold := told_patienceTimerCallback S.activity (S.table.config r) (s.channels r) s.objects receiver
  obtain ⟨hstep,hfront,hbehind⟩ := (h.apart.inStep r).expire hrun
  have hacts := congrArg Queue.activities hqueue
  rw [←hqueue] at hstep
  refine ⟨h.setChannel hstep (fun other hmem => .inl ?_) htold,
    hlaw.congr rfl (fun r' => ?_) htold.contentType fun r' low hlow => htold.lastGiven_other ?_⟩
  · exact (release_sublist (queue (s.channels r)) (some receiver)).subset (hacts ▸ hmem)
  · by_cases hne : r'=r
    · rw [hne,setChannel_self]
      exact (congrArg List.head? hacts).trans hfront
    · rw [setChannel_of_ne s _ _ hne]
  · -- the receiver is behind the primary activity of its channel, and on no other one
    intro hmem
    obtain ⟨hmem,hsame⟩ := mem_filter.mp hmem
    have heq : low=receiver := some.inj (of_decide_eq_true hsame)
    obtain rfl : r'=r := h.apart.apart r' r low (mem_of_mem_head? hlow) hmem
    rw [heq] at hlow
    exact hbehind hlow

/-- What holds in every state of the runs below. -/
structure Sound (s : Manager S) : Prop where
  settled : Settled s
  /-- Activities remember, and stay on their channels. -/
  kept : Kept s
  law : MixingLaw s

theorem sound_init (contentType : α → ContentType) : Sound (init contentType : Manager S) := by
  refine ⟨settled_init contentType,⟨⟨fun _ => ⟨nodup_nil,fun _ hrun => (by cases hrun)⟩,?_,?_,
    nodup_nil⟩,fun _ => rfl⟩,fun _ _ hfirst => (by cases hfirst)⟩
  · intro _ _ _ hmem
    exact absurd hmem not_mem_nil
  · intro _ hmem
    exact absurd hmem not_mem_nil

theorem Sound.request (h : Sound s) (executor : List (Task S)) (promises : List Bool)
    (hnew : ∀ activity∈queued {s with executor := executor},activity∈queued s ∨
      ∀ r,activity∉(s.channels r).activities) (hdistinct : (queued {s with executor := executor}).Nodup) :
    Sound {s with executor := executor,promises := promises} := by
  refine ⟨h.settled.congr rfl rfl,⟨⟨h.kept.apart.inStep,h.kept.apart.apart,fun activity hmem r => ?_,
    hdistinct⟩,h.kept.remembered⟩,h.law⟩
  rcases hnew activity hmem with hold|hnew
  · exact h.kept.apart.waiting activity hold r
  · exact hnew r

/-- A task that is taken from the queue leaves its activity new. -/
theorem Sound.next (h : Sound s) {task : Task S} {rest : List (Task S)} (hnext : s.executor=task::rest) :
    Sound {s with executor := rest} ∧
      ∀ r activity,task=.acquireChannel r activity → New {s with executor := rest} activity := by
  have hsub : (queued {s with executor := rest}).Sublist (queued s) := by
    unfold queued
    rw [hnext]
    exact (sublist_cons_self task rest).filterMap _
  refine ⟨h.request rest s.promises (fun activity hmem => .inl (hsub.subset hmem))
    (h.kept.apart.distinct.sublist hsub),?_⟩
  rintro r activity rfl
  have hqueued : queued s=activity::queued {s with executor := rest} := by
    unfold queued
    rw [hnext]
    rfl
  have hdistinct := h.kept.apart.distinct
  have hwaiting := h.kept.apart.waiting activity
  rw [hqueued] at hdistinct hwaiting
  exact ⟨(nodup_cons.mp hdistinct).1,hwaiting mem_cons_self⟩

/-- It keeps the rest, and the law unless the foreground channel is acquired and others need a new behaviour. -/
theorem mixing_runTask (h : Sound s) (task : Task S)
    (hnew : ∀ r activity,task=.acquireChannel r activity → New s activity) : Kept (s.runTask task) ∧
      (MixingLaw (s.runTask task) ↔ ∀ r activity,task=.acquireChannel r activity →
        s.getHighestPriorityActiveChannel=some r → Matched s r (s.objects.contentType activity)) := by
  cases task with
  | acquireChannel r activity =>
    have hact := hnew r activity rfl
    refine ⟨h.kept.acquireChannelHelper r hact,?_⟩
    refine (law_acquireChannelHelper h.settled h.kept h.law hact).trans
      ⟨fun hmatched r' activity' heq => ?_,fun hall => hall r activity rfl⟩
    obtain ⟨rfl,rfl⟩ := Task.acquireChannel.inj heq
    exact hmatched
  | releaseChannel r observer =>
    obtain ⟨hkept,hlaw⟩ := mixing_releaseChannelHelper h.settled h.kept h.law r observer
    exact ⟨hkept,fun _ _ _ heq => (by cases heq),fun _ => hlaw⟩
  | stopForegroundActivity r interfaceName =>
    obtain ⟨hkept,hlaw⟩ := mixing_stopForegroundActivityHelper h.settled h.kept h.law r interfaceName
    exact ⟨hkept,fun _ _ _ heq => (by cases heq),fun _ => hlaw⟩
  | stopAllActivities owners =>
    obtain ⟨hkept,hlaw⟩ := mixing_stopAllActivitiesHelper h.settled h.kept owners
    exact ⟨hkept,fun _ _ _ heq => (by cases heq),fun _ => hlaw⟩

/-- Exactly if an acquired foreground channel concerns no other. -/
theorem mixing_step {e : Event S} (h : Sound s) (hstep : Step s e s') (hnew : NewActivity s e) :
    Kept s' ∧ (MixingLaw s' ↔ Unaffected s e) := by
  cases hstep with
  | acquireChannel channelName activity =>
    unfold acquireChannel
    cases S.table.getChannel channelName with
    | none => exact ⟨h.kept,fun _ => trivial,fun _ => h.law⟩
    | some r =>
      have hqueued : queued {s with executor := s.executor++[.acquireChannel r activity]} =
          queued s++[activity] := filterMap_append
      have hsound := h.request (s.executor++[.acquireChannel r activity]) s.promises (fun other hmem => ?_) ?_
      · exact ⟨hsound.kept,fun _ => trivial,fun _ => hsound.law⟩
      · rw [hqueued,mem_append,mem_singleton] at hmem
        rcases hmem with hold|rfl
        · exact .inl hold
        · exact .inr hnew.2
      · rw [hqueued]
        exact nodup_append.mpr ⟨h.kept.apart.distinct,nodup_singleton _,fun a ha b hb => by
          rintro rfl
          exact hnew.1 (mem_singleton.mp hb ▸ ha)⟩
  | releaseChannel channelName observer =>
    unfold releaseChannel
    cases S.table.getChannel channelName with
    | none =>
      have hsound := h.request s.executor (s.promises++[false]) (fun _ hmem => .inl hmem) h.kept.apart.distinct
      exact ⟨hsound.kept,fun _ => trivial,fun _ => hsound.law⟩
    | some r =>
      have hqueued : queued {s with executor := s.executor++[.releaseChannel r observer]}=queued s := by
        unfold queued
        rw [filterMap_append]
        exact append_nil _
      have hsound := h.request (s.executor++[.releaseChannel r observer]) s.promises
        (fun _ hmem => .inl (hqueued ▸ hmem)) (hqueued ▸ h.kept.apart.distinct)
      exact ⟨hsound.kept,fun _ => trivial,fun _ => hsound.law⟩
  | @stopForegroundActivity _ r interfaceName =>
    have hsound := h.request (.stopForegroundActivity r interfaceName::s.executor) s.promises
      (fun _ hmem => .inl hmem) h.kept.apart.distinct
    exact ⟨hsound.kept,fun _ => trivial,fun _ => hsound.law⟩
  | noForegroundActivity | noActiveChannels => exact ⟨h.kept,fun _ => trivial,fun _ => h.law⟩
  | @stopAllActivities _ owners =>
    have hsound := h.request (.stopAllActivities owners::s.executor) s.promises
      (fun _ hmem => .inl hmem) h.kept.apart.distinct
    exact ⟨hsound.kept,fun _ => trivial,fun _ => hsound.law⟩
  | @runTask task rest next =>
    obtain ⟨hsound,hfresh⟩ := h.next next
    obtain ⟨hkept,hiff⟩ := mixing_runTask hsound task hfresh
    refine ⟨hkept,hiff.trans ⟨fun hall r activity rest' hexecutor => ?_,fun hunaffected r activity heq => ?_⟩⟩
    · exact hall r activity (List.cons.inj (next.symm.trans hexecutor)).1
    · exact hunaffected r activity rest (heq ▸ next)
  | patienceExpiry active =>
    obtain ⟨hkept,hlaw⟩ := mixing_patienceExpiry h.kept h.law active
    exact ⟨hkept,fun _ => trivial,fun _ => hlaw⟩

/-- The background mixes as the interrupt model says in every state exactly of the runs in which the foreground
channel is acquired again only when the others were given what it says. -/
theorem mixing_kept_iff (contentType : α → ContentType) (events : List (Event S)) (s : Manager S) :
    Run (Keeping (Guarded Step NewActivity) MixingLaw) (init contentType) events s ↔
      Run (Guarded (Guarded Step NewActivity) Unaffected) (init contentType) events s :=
  Run.keeping_iff Sound (sound_init contentType) (fun _ _ _ h hstep hunaffected =>
      have hmixing := mixing_step h hstep.2 hstep.1
      ⟨settled_step h.settled hstep.2,hmixing.1,hmixing.2.mpr hunaffected⟩)
    fun _ _ _ h hstep => (mixing_step h hstep.2 hstep.1).2

/-- Duck, or pause if the communications are not mixable. -/
def contentDuringCommunications : InterruptModel.ConfigurationNode :=
  some [("Content",.object [("contentType",.object [("MIXABLE",.object [("incomingChannel",.object
    [("Communications",.object [("incomingContentType",.object
      [("MIXABLE",.string "MAY_DUCK"),("NONMIXABLE",.string "MUST_PAUSE")])])])])])])]

def calls : Setting (Fin 3) where
  table := .ofConfigurations [("Communications",150),("Content",300)] []
  interruptModel := InterruptModel.create contentDuringCommunications
  activityTracker := false
  activity
    | 0 => ⟨"Content",0,1,by decide⟩
    | 1 => ⟨"Communications",0,2,by decide⟩
    | 2 => ⟨"Communications",0,2,by decide⟩

/-- Only the second call is not mixable. -/
def callTypes : Fin 3 → ContentType
  | 2 => .nonmixable
  | _ => .mixable

/-- The content that is to pause ducks for the second call. -/
theorem content_ducks_during_call : ∃ s : Manager calls,Run (Guarded Step NewActivity) (init callTypes)
        [.acquireChannel "Content" 0,.runTask,.acquireChannel "Communications" 1,.runTask,
          .acquireChannel "Communications" 2,.runTask] s ∧ s.executor=[] ∧ lastGiven s.objects 0=.mayDuck ∧
      InterruptModel.getMixingBehavior contentDuringCommunications "Content" (callTypes 0)
        "Communications" (callTypes 2)=.mustPause ∧ ¬MixingLaw s := by
  have hcontent : Run (Guarded Step NewActivity) (init callTypes : Manager calls) _ _ :=
    (Run.refl.allow (.acquireChannel "Content" 0) ⟨by decide,by decide⟩).allow (.runTask rfl)
      trivial
  have hfirst : Run (Guarded Step NewActivity) (init callTypes : Manager calls) _ _ :=
    (hcontent.allow (.acquireChannel "Communications" 1) ⟨by decide,by decide⟩).allow (.runTask rfl)
      trivial
  have hsecond : Run (Guarded Step NewActivity) (init callTypes : Manager calls) _ _ :=
    (hfirst.allow (.acquireChannel "Communications" 2) ⟨by decide,by decide⟩).allow (.runTask rfl)
      trivial
  refine ⟨_,hsecond,by decide,by decide,by decide,fun hlaw => ?_⟩
  have hagrees := hlaw ⟨0,by decide⟩ 2 (by decide) (by decide) ⟨1,by decide⟩ (by decide) (by decide) 0 (by decide)
  revert hagrees
  decide +kernel

end AlexaClientSDK.MixingBehaviors
