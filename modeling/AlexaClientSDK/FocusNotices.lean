import AlexaClientSDK.FocusLeavings

/-!
# Whether an activity learns its focus

An activity that acquires a channel is meant to be told its focus. `setFocus` tells nobody if the focus of the channel
and the behaviour that its primary activity remembers are the same as before: on a channel that is in the background
already, a new activity that happens to remember the behaviour is told nothing.
-/

namespace AlexaClientSDK.FocusNotices

open Option List
open KeyedLists LabelledRuns FocusChannel FocusManager FocusInvariant PatienceQueue MixingNotices
open MixingBehaviors Manager Channel
  FocusLeavings

variable {α : Type} {S : Setting α} {s s' : Manager S}

/-- No timer runs or is left, or it is of the activity in front. -/
inductive Steady (A : α → Activity) : Queue α → Prop
  | quiet (activities : List α) : Steady A ⟨activities,none,none,none⟩
  | waiting {first receiver : α} {others : List α} (mem : receiver∈others)
      (different : (A receiver).interface≠(A first).interface) :
      Steady A ⟨first::others,some receiver,some first,some receiver⟩

variable {A : α → Activity} {q : Queue α} {receiver current : α}

theorem Steady.timer (h : Steady A q) (hrun : q.patienceTimer=some receiver) :
    ∃ first others,q.activities=first::others ∧ receiver∈others ∧
      (A receiver).interface≠(A first).interface ∧ q.patienceReceiver=some receiver := by
  cases h with
  | quiet => cases hrun
  | @waiting first receiver' others mem different =>
    obtain rfl : receiver'=receiver := some.inj hrun
    exact ⟨first,others,rfl,mem,different,rfl⟩

variable [DecidableEq α] {others : List α}

theorem endPatience_waiting {first receiver : α} (mem : receiver∈others)
    (different : (A receiver).interface≠(A first).interface) :
    Queue.endPatience ⟨first::others,some receiver,some first,some receiver⟩ =
      ⟨first::others.erase receiver,none,some first,none⟩ := by
  have hne : first≠receiver := (ne_of_interface different).symm
  simp [Queue.endPatience,Queue.release,Queue.remove,mem,hne,erase_cons_tail]

section

variable (h : Steady A q)
include h

theorem Steady.release (activity : Option α) : Steady A (q.release activity) := by
  cases activity with
  | none => exact h
  | some activity =>
    unfold Queue.release
    dsimp only
    by_cases hmem : activity∈q.activities
    · rw [if_pos hmem]
      unfold Queue.remove
      cases h with
      | quiet activities => exact .quiet (activities.erase activity)
      | @waiting first receiver others mem different =>
        by_cases hfirst : first=activity
        · rw [if_pos ⟨rfl,.inl (congrArg some hfirst)⟩]
          exact .quiet _
        · by_cases hreceiver : receiver=activity
          · rw [if_pos ⟨rfl,.inr (congrArg some hreceiver)⟩]
            exact .quiet _
          · rw [if_neg (by simp [hfirst,hreceiver])]
            rw [erase_cons_tail (by simpa using hfirst)]
            exact .waiting ((mem_erase_of_ne hreceiver).mpr mem) different
    · rw [if_neg hmem]
      exact h

theorem Steady.release_front (hacts : q.activities=current::others) :
    q.release (some current)=⟨others,none,none,none⟩ := by
  cases h with
  | quiet =>
    subst hacts
    simp [Queue.release,Queue.remove]
  | waiting =>
    obtain ⟨rfl,rfl⟩ := List.cons.inj hacts
    simp [Queue.release,Queue.remove]

/-- A new activity in front keeps the queue steady. -/
theorem Steady.setPrimary (activity : α) : Steady A (q.setPrimary A activity) := by
  unfold Queue.setPrimary
  cases hacts : q.activities with
  | nil =>
    cases h with
    | quiet => exact .quiet [activity]
    | waiting => cases hacts
  | cons current =>
    unfold Queue.processPolicy
    dsimp only
    by_cases hsame : (A activity).interface=(A current).interface
    · rw [if_pos hsame,h.release_front hacts]
      exact .quiet _
    rw [if_neg hsame]
    by_cases hpatience : 0<(A activity).patienceDuration
    · -- the activity in front waits from now on
      rw [if_pos hpatience]
      have hstays : current∈q.endPatience.activities := by
        cases h with
        | quiet =>
          subst hacts
          exact mem_cons_self
        | @waiting first receiver behind mem different =>
          obtain ⟨rfl,rfl⟩ := List.cons.inj hacts
          rw [endPatience_waiting mem different]
          exact mem_cons_self
      exact .waiting hstays (Ne.symm hsame)
    · rw [if_neg hpatience]
      have hquiet : ∃ activities,q.endPatience.replace current=⟨activities,none,none,none⟩ := by
        cases h with
        | quiet activities => exact ⟨_,(Steady.quiet (A := A) activities).release_front hacts⟩
        | @waiting first receiver behind mem different =>
          obtain ⟨rfl,rfl⟩ := List.cons.inj hacts
          rw [endPatience_waiting mem different]
          unfold Queue.replace
          have hgone : Queue.release ⟨first::behind.erase receiver,none,some first,none⟩ (some first) =
              ⟨behind.erase receiver,none,some first,none⟩ := by
            simp [Queue.release,Queue.remove]
          dsimp only
          rw [hgone]
          unfold Queue.release Queue.remove
          dsimp only
          split
          · exact ⟨_,rfl⟩
          · exact ⟨_,rfl⟩
      obtain ⟨activities,hreplaced⟩ := hquiet
      rw [hreplaced]
      exact .quiet _

theorem Steady.expire (hrun : q.patienceTimer=some receiver) :
    Steady A {q.release (some receiver) with patienceTimer := none} := by
  cases h with
  | quiet => cases hrun
  | @waiting first receiver' others mem =>
    obtain rfl : receiver'=receiver := some.inj hrun
    have hmem : receiver'∈first::others := mem_cons_of_mem _ mem
    have hgone : Queue.release ⟨first::others,some receiver',some first,some receiver'⟩ (some receiver') =
        ⟨(first::others).erase receiver',none,none,none⟩ := by
      unfold Queue.release Queue.remove
      dsimp only
      rw [if_pos hmem,if_pos ⟨rfl,.inr rfl⟩]
    rw [hgone]
    exact .quiet _

theorem Steady.initiator {initiator : α} (hrecorded : q.endPatience.patienceInitiator=some initiator) :
    q.activities.head?=some initiator := by
  cases h with
  | quiet => cases hrecorded
  | waiting mem different =>
    rw [endPatience_waiting mem different] at hrecorded
    exact hrecorded

end

/-- After an acquisition, maybe dismissed before. -/
def remembered (c : Channel α) (o : Objects α) (activity : α) : MixingBehavior :=
  if c.getPrimaryActivity=some activity ∨ c.patienceTimer=some activity then .mustStop
  else o.mixingBehavior activity

section

variable {config : ChannelConfiguration} {c : Channel α} {o : Objects α} {activity other : α}

theorem mixingBehavior_release_of_ne (hne : activity≠other) :
    (c.releaseActivityLocked A config o (some other)).2.2.mixingBehavior activity=o.mixingBehavior activity := by
  refine (told_releaseActivityLocked A config c o (some other)).other fun hmem => ?_
  exact hne (some.inj (of_decide_eq_true (mem_filter.mp hmem).2))

theorem mixingBehavior_release_self (hmem : activity∈c.activities) :
    (c.releaseActivityLocked A config o (some activity)).2.2.mixingBehavior activity=.mustStop := by
  unfold releaseActivityLocked
  simp only [if_pos hmem]
  unfold removeActivityHelper Objects.notifyObserver
  dsimp only
  rw [Function.update_self,if_neg fun h => by cases h.2]

theorem mixingBehavior_endPatience (h : Steady A (queue c)) (hfront : c.getPrimaryActivity=some current)
    (hne : current≠activity) : (c.endPatience A config o).2.mixingBehavior activity=remembered c o activity := by
  have hother : c.getPrimaryActivity≠some activity := by
    rw [hfront]
    exact fun heq => hne (some.inj heq)
  unfold endPatience remembered
  cases hrun : c.patienceTimer with
  | none => rw [if_neg (by simp),if_neg (by simpa using hother)]
  | some receiver =>
    obtain ⟨first,others,hacts,hmem,_,hreceiver⟩ := h.timer hrun
    have hacts' : c.activities=first::others := hacts
    have hreceiver' : c.patienceReceiver=some receiver := hreceiver
    rw [if_pos (isSome_some),hreceiver']
    by_cases hself : receiver=activity
    · subst hself
      rw [if_pos (.inr rfl)]
      refine mixingBehavior_release_self ?_
      rw [hacts']
      exact mem_cons_of_mem _ hmem
    · rw [if_neg (by simp [hother,hself])]
      exact mixingBehavior_release_of_ne (Ne.symm hself)

/-- It remembers what it did, unless it is dismissed to join again. -/
theorem mixingBehavior_setPrimaryActivity (h : Steady A (queue c)) :
    (c.setPrimaryActivity A config o activity).2.mixingBehavior activity=remembered c o activity := by
  unfold setPrimaryActivity
  cases hacts : c.activities with
  | nil =>
    have hidle : c.patienceTimer≠some activity := by
      intro hrun
      obtain ⟨first,others,hsome,_⟩ := h.timer hrun
      cases hacts.symm.trans hsome
    unfold remembered getPrimaryActivity
    rw [if_neg (by simp [hacts,hidle])]
  | cons current =>
    have hfront : c.getPrimaryActivity=some current := by
      unfold getPrimaryActivity
      rw [hacts,List.head?_cons]
    dsimp only
    unfold processPolicy
    by_cases hsame : (A activity).interface=(A current).interface
    · rw [if_pos hsame]
      unfold remembered
      by_cases hself : current=activity
      · subst hself
        rw [if_pos (.inl hfront)]
        exact mixingBehavior_release_self (hacts ▸ mem_cons_self)
      · -- a timer runs for another interface
        have hother : c.patienceTimer≠some activity := by
          intro hrun
          obtain ⟨first,behind,hacts',_,different,_⟩ := h.timer hrun
          obtain ⟨rfl,_⟩ := List.cons.inj (hacts.symm.trans hacts')
          exact different hsame
        rw [if_neg (by simp [hfront,hself,hother])]
        exact mixingBehavior_release_of_ne (Ne.symm hself)
    rw [if_neg hsame]
    have hne : current≠activity := fun heq => hsame (heq ▸ rfl)
    have hended : (c.endPatience A config o).2.mixingBehavior activity=remembered c o activity :=
      mixingBehavior_endPatience h hfront hne
    have hinitiator : ∀ initiator,(c.endPatience A config o).1.patienceInitiator=some initiator →
        initiator=current := by
      intro initiator hrecorded
      have hqueue := congrArg Queue.patienceInitiator (queue_endPatience A config c o)
      exact some.inj ((h.initiator (hqueue.symm.trans hrecorded)).symm.trans hfront)
    generalize c.endPatience A config o=ended at hended hinitiator
    obtain ⟨d,o'⟩ := ended
    dsimp only at hended hinitiator ⊢
    by_cases hpatience : 0<(A activity).patienceDuration
    · rw [if_pos hpatience]
      exact hended
    rw [if_neg hpatience]
    cases hrecorded : d.patienceInitiator with
    | none => exact (mixingBehavior_release_of_ne hne.symm).trans hended
    | some initiator =>
      obtain rfl := hinitiator initiator hrecorded
      exact (mixingBehavior_release_of_ne hne.symm).trans ((mixingBehavior_release_of_ne hne.symm).trans hended)

end

def AllSteady (s : Manager S) : Prop := ∀ r,Steady S.activity (queue (s.channels r))

theorem AllSteady.refocused (h : AllSteady s) {l : List S.table.Ref} (hs : Refocused l s s') : AllSteady s' := by
  intro r
  rw [hs.queue]
  exact h r

omit [DecidableEq α] in
theorem AllSteady.setChannel (h : AllSteady s) {r : S.table.Ref} {c : Channel α} (hc : Steady S.activity (queue c))
    (o : Objects α) : AllSteady (s.setChannel r c o) := by
  intro r'
  by_cases hne : r'=r
  · rw [hne,setChannel_self]
    exact hc
  · rw [s.setChannel_of_ne c o hne]
    exact h r'

section

variable (h : AllSteady s)
include h

theorem AllSteady.releaseFirst (r : S.table.Ref) (fits : α → Bool) :
    AllSteady (s.setChannel r ((s.channels r).releaseFirst S.activity (S.table.config r) s.objects fits).2.1
      ((s.channels r).releaseFirst S.activity (S.table.config r) s.objects fits).2.2) := by
  refine h.setChannel ?_ _
  rw [queue_releaseFirst]
  exact (h r).release _

theorem AllSteady.clearChannel (r : S.table.Ref) : AllSteady (s.clearChannel r) := by
  unfold Manager.clearChannel
  split
  · exact h
  · have herased : AllSteady {s with activeChannels := eraseKey S.table.priority r s.activeChannels} := h
    exact herased.refocused (refocused_setChannelFocus _ r .none .mustStop false).1

theorem AllSteady.closing : AllSteady s.foregroundHighestPriorityActiveChannel.notifyActivityTracker := by
  refine AllSteady.refocused ?_ (refocused_notifyActivityTracker _)
  unfold foregroundHighestPriorityActiveChannel
  cases s.getHighestPriorityActiveChannel with
  | none => exact h
  | some r => exact h.refocused (refocused_foreground s r)

theorem AllSteady.runTask (task : Task S) : AllSteady (s.runTask task) := by
  cases task with
  | acquireChannel r activity =>
    have hjoined : AllSteady (joined s r activity) := by
      have hset : AllSteady (s.setChannel r
          ((s.channels r).setPrimaryActivity S.activity (S.table.config r) s.objects activity).1
          ((s.channels r).setPrimaryActivity S.activity (S.table.config r) s.objects activity).2) := by
        refine h.setChannel ?_ _
        rw [queue_setPrimaryActivity]
        exact (h r).setPrimary activity
      exact hset
    obtain ⟨l,hfocused⟩ := refocused_focused (joined s r activity) r s.getHighestPriorityActiveChannel
    unfold Manager.runTask
    dsimp only
    rw [acquireChannelHelper_eq]
    exact (hjoined.refocused hfocused).refocused (refocused_notifyActivityTracker _)
  | releaseChannel r observer =>
    have hreleased : AllSteady (s.setChannel r
        ((s.channels r).releaseActivityOf S.activity (S.table.config r) s.objects observer).2.1
        ((s.channels r).releaseActivityOf S.activity (S.table.config r) s.objects observer).2.2) := by
      cases observer with
      | none => exact h.setChannel (h r) s.objects
      | some => exact h.releaseFirst r _
    unfold Manager.runTask Manager.releaseChannelHelper
    dsimp only
    generalize (s.channels r).releaseActivityOf S.activity (S.table.config r) s.objects observer=result at hreleased
    obtain ⟨success,c,o⟩ := result
    cases success with
    | false => exact hreleased
    | true =>
      have hpromised : AllSteady {s.setChannel r c o with promises := s.promises++[true]} := hreleased
      exact (hpromised.clearChannel r).closing
  | stopForegroundActivity r =>
    unfold Manager.runTask Manager.stopForegroundActivityHelper
    dsimp only
    split
    · exact h
    · exact ((h.releaseFirst r _).clearChannel r).closing
  | stopAllActivities owners =>
    have hreleased : AllSteady (s.releaseOwners owners) :=
      releaseOwners_induct (fun _ r _ h => h.releaseFirst r _) owners h
    have hcleared : AllSteady ((s.releaseOwners owners).clearChannels (owners.map Prod.fst)) :=
      clearChannels_induct (fun _ r h => h.clearChannel r) _ hreleased
    exact hcleared.closing

theorem allSteady_step {e : Event S} (hstep : Step s e s') : AllSteady s' := by
  cases hstep with
  | acquireChannel channelName =>
    unfold acquireChannel
    cases S.table.getChannel channelName with
    | none => exact h
    | some => exact h
  | releaseChannel channelName =>
    unfold releaseChannel
    cases S.table.getChannel channelName with
    | none => exact h
    | some => exact h
  | stopForegroundActivity => exact h
  | noForegroundActivity => exact h
  | stopAllActivities => exact h
  | noActiveChannels => exact h
  | @runTask task rest =>
    have hnext : AllSteady {s with executor := rest} := h
    exact hnext.runTask task
  | patienceExpiry active =>
    refine h.setChannel ?_ _
    rw [queue_patienceTimerCallback]
    exact (h _).expire active

end

/-- In a step the activity was told the focus that a channel has afterwards. -/
def ToldFocus (s s' : Manager S) (r : S.table.Ref) (activity : α) : Prop :=
  ∃ told,s'.objects.notified=s.objects.notified++told ∧ ∃ behavior,⟨activity,(s'.channels r).focusState,behavior⟩∈told

/-- It is in the background and the activity remembers what the interrupt model says. -/
def Unheard (s : Manager S) (r : S.table.Ref) (activity : α) : Prop :=
  r∈s.activeChannels ∧ ∃ foreground high,s.getHighestPriorityActiveChannel=some foreground ∧ foreground≠r ∧
    (s.channels foreground).getPrimaryActivity=some high ∧
    remembered (s.channels r) s.objects activity = expectedBehavior s r activity foreground (s.objects.contentType high)

section

variable {r : S.table.Ref} {activity : α}

theorem joined_notices (s : Manager S) (r : S.table.Ref) (activity : α) :
    ∃ others,((joined s r activity).channels r).activities=activity::others ∧
      ∃ told,(joined s r activity).objects.notified=s.objects.notified++told ∧ ∀ notice∈told,notice.focus=.none := by
  obtain ⟨gone,others,hfront,hleft⟩ :=
    left_setPrimaryActivity S.activity (S.table.config r) (s.channels r) s.objects activity
  refine ⟨others,(congrArg activities (setChannel_self s r _ s.objects)).trans hfront,
    gone.map farewell,hleft.told,fun notice hnotice => ?_⟩
  obtain ⟨other,_,rfl⟩ := mem_map.mp hnotice
  rfl

omit [DecidableEq α] in
theorem not_toldFocus (h : ∀ notice∈s'.objects.notified,notice.activity≠activity) : ¬ToldFocus s s' r activity := by
  rintro ⟨told,htold,behavior,hmem⟩
  have hnotice := mem_append_right s.objects.notified hmem
  rw [←htold] at hnotice
  exact h _ hnotice rfl

theorem toldFocus_setChannelFocus {before : Manager S} {told : List (Notification α)}
    (hacts : (s.channels r).activities=activity::others)
    (htold : s.objects.notified=before.objects.notified++told) (focus : FocusState) (behavior : MixingBehavior)
    (forceUpdate : Bool) (hdiffers : ¬(forceUpdate=false ∧ (s.channels r).focusState=focus ∧
      s.objects.mixingBehavior activity=behavior)) :
    ToldFocus before (s.setChannelFocus r focus behavior forceUpdate) r activity := by
  obtain ⟨_,hfocus,_⟩ := setChannelFocus_spec s r focus behavior forceUpdate
  rcases notified_setChannelFocus hacts focus behavior forceUpdate with ⟨hsame,_⟩|⟨_,given,hgiven⟩
  · exact absurd hsame hdiffers
  · refine ⟨told++_,by rw [hgiven,htold,append_assoc],given,?_⟩
    rw [hfocus]
    exact mem_append_right _ mem_cons_self

theorem toldFocus_lower (hs : Settled s) (hsteady : AllSteady s) {foreground : S.table.Ref} {high : α}
    (hlower : S.table.priority foreground<S.table.priority r) (hfirst : foreground∈s.activeChannels)
    (hmem : r∈s.activeChannels) (hhigh : (s.channels foreground).getPrimaryActivity=some high) :
    ToldFocus s ((joined s r activity).setChannelFocus r .background
        ((joined s r activity).getMixingBehavior r foreground) false) r activity ↔
      remembered (s.channels r) s.objects activity ≠
        expectedBehavior s r activity foreground (s.objects.contentType high) := by
  obtain ⟨others,hacts,told,htold,hnone⟩ := joined_notices s r activity
  have hne : foreground≠r := fun heq => lt_irrefl _ (heq ▸ hlower)
  have hfocus : ((joined s r activity).channels r).focusState=.background :=
    ((joined_acquire hs rfl).focus r).trans (hs.law.background r hmem foreground hfirst hlower)
  have htype : (joined s r activity).objects.contentType=s.objects.contentType :=
    (told_setPrimaryActivity S.activity (S.table.config r) (s.channels r) s.objects activity).contentType
  have hremembered : (joined s r activity).objects.mixingBehavior activity =
      remembered (s.channels r) s.objects activity := mixingBehavior_setPrimaryActivity (hsteady r)
  have hprimary : ((joined s r activity).channels r).getPrimaryActivity=some activity := by
    unfold getPrimaryActivity
    rw [hacts,List.head?_cons]
  have hhigh' : ((joined s r activity).channels foreground).getPrimaryActivity=some high := by
    have hother : (joined s r activity).channels foreground=s.channels foreground :=
      setChannel_of_ne s _ s.objects hne
    rw [hother]
    exact hhigh
  have hexpected : (joined s r activity).getMixingBehavior r foreground =
      expectedBehavior s r activity foreground (s.objects.contentType high) := by
    rw [getMixingBehavior_eq hlower hprimary hhigh',expectedBehavior_congr htype,htype]
  rw [hexpected,←hremembered]
  constructor
  · rintro ⟨told',htold',behavior,hbehavior⟩ hsame
    obtain ⟨_,hnow,_⟩ := setChannelFocus_spec (joined s r activity) r .background
      (expectedBehavior s r activity foreground (s.objects.contentType high)) false
    rw [hnow] at hbehavior
    rcases notified_setChannelFocus hacts .background
      (expectedBehavior s r activity foreground (s.objects.contentType high)) false with ⟨_,hsilent⟩ | ⟨hnot,_⟩
    · -- all that the activity was told is that it was dismissed before
      rw [hsilent,htold,append_cancel_left_eq] at htold'
      cases hnone _ (htold' ▸ hbehavior)
    · exact hnot ⟨rfl,hfocus,hsame⟩
  · intro hdiffers
    exact toldFocus_setChannelFocus hacts htold .background _ false fun hsame => hdiffers hsame.2.2

theorem toldFocus_acquireChannelHelper (hs : Settled s) (hsteady : AllSteady s) (r : S.table.Ref) (activity : α) :
    ToldFocus s (s.acquireChannelHelper r activity) r activity ↔ ¬Unheard s r activity := by
  obtain ⟨others,hacts,told,htold,_⟩ := joined_notices s r activity
  have hfocus : ((joined s r activity).channels r).focusState=(s.channels r).focusState :=
    (joined_acquire hs rfl).focus r
  have hidle : r∉s.activeChannels → ((joined s r activity).channels r).focusState=.none :=
    fun hnot => hfocus.trans (hs.law.idle r hnot)
  have htracker : ToldFocus s (s.acquireChannelHelper r activity) r activity ↔
      ToldFocus s (focused (joined s r activity) r s.getHighestPriorityActiveChannel) r activity := by
    rw [acquireChannelHelper_eq]
    exact Iff.rfl
  rw [htracker]
  unfold focused Unheard
  cases hhead : s.getHighestPriorityActiveChannel with
  | none =>
    -- the first active channel had no focus
    have hnil : s.activeChannels=[] := List.head?_eq_none_iff.mp hhead
    have hnot : r∉s.activeChannels := hnil ▸ not_mem_nil
    refine iff_of_true (toldFocus_setChannelFocus hacts htold .foreground .primary false ?_) fun h => hnot h.1
    intro hsame
    cases hsame.2.1.symm.trans (hidle hnot)
  | some foreground =>
    have hfirst : foreground∈s.activeChannels := mem_of_mem_head? hhead
    dsimp only
    by_cases hself : foreground=r
    · -- the foreground channel is told by force
      rw [if_pos hself]
      refine iff_of_true (toldFocus_setChannelFocus hacts htold .foreground .primary true fun hsame => ?_) ?_
      · cases hsame.1
      · rintro ⟨_,foreground',_,hhead',hne,_⟩
        obtain rfl := some.inj hhead'
        exact hne hself
    rw [if_neg hself]
    by_cases hhigher : S.table.priority r<S.table.priority foreground
    · -- a channel in front of all active ones was not active
      rw [if_pos hhigher]
      have hnot : r∉s.activeChannels := by
        intro hmem
        rcases head_least hs.law.sorted hhead hmem with heq|hlt
        · exact hself heq.symm
        · exact lt_asymm hlt hhigher
      have hback := refreshed_setBackgroundChannelMixingBehavior (joined s r activity) r
      obtain ⟨told',htold',_⟩ := hback.told
      obtain ⟨_,_,hothers⟩ := setBackground_spec r
        (behind S.table.priority r (joined s r activity).activeChannels) (joined s r activity)
      refine iff_of_true (toldFocus_setChannelFocus ((hback.activities r).trans hacts)
        (htold'.trans (by rw [htold,append_assoc])) .foreground .primary false fun hsame => ?_) fun h => hnot h.1
      obtain ⟨hsorted,hmem⟩ := joined_active hs r activity
      have hkept := hothers r fun hbehind => lt_irrefl _ ((mem_behind hsorted ((hmem r).mpr (.inl rfl))).mp hbehind).2
      cases hsame.2.1.symm.trans (hkept.trans (hidle hnot))
    · rw [if_neg hhigher]
      have hlower : S.table.priority foreground<S.table.priority r :=
        lt_of_le_of_ne (not_lt.mp hhigher) fun heq => hself (S.table.priority_injective heq)
      by_cases hmem : r∈s.activeChannels
      · cases hacting : (s.channels foreground).activities with
        | nil => exact absurd hacting ((hs.law.active foreground).mp hfirst)
        | cons high =>
          have hhigh : (s.channels foreground).getPrimaryActivity=some high := by
            unfold getPrimaryActivity
            rw [hacting,List.head?_cons]
          rw [toldFocus_lower hs hsteady hlower hfirst hmem hhigh]
          constructor
          · rintro hdiffers ⟨_,foreground',high',hhead',_,hhigh',hsame⟩
            obtain rfl := some.inj hhead'
            obtain rfl := some.inj (hhigh.symm.trans hhigh')
            exact hdiffers hsame
          · exact fun hheard hsame => hheard ⟨hmem,foreground,high,rfl,hself,hhigh,hsame⟩
      · -- the channel gets the background for the first time
        refine iff_of_true (toldFocus_setChannelFocus hacts htold .background _ false fun hsame => ?_) fun h => hmem h.1
        cases hsame.2.1.symm.trans (hidle hmem)

end

/-- In every run an activity that left was dismissed once for each request, with nothing after it; and the next
one that acquires a channel is told its focus unless it cannot be heard. -/
theorem acquirer_told_iff (contentType : α → ContentType) {events : List (Event S)}
    (run : Run Step (init contentType) events s) : Accounted (requested events) s ∧
      ∀ r activity rest s',s.executor=.acquireChannel r activity::rest → Step s .runTask s' →
        (ToldFocus s s' r activity ↔ ¬Unheard s r activity) := by
  have hsettled : Settled s := run.invariant Settled (settled_init contentType) fun _ _ _ h hstep => settled_step h hstep
  have hsteady : AllSteady s :=
    run.invariant AllSteady (fun _ => .quiet []) fun _ _ _ h hstep => allSteady_step h hstep
  refine ⟨accounted_run contentType run,fun r activity rest s' hhead hstep => ?_⟩
  cases hstep with
  | @runTask task others next =>
    obtain ⟨rfl,rfl⟩ := List.cons.inj (hhead.symm.trans next)
    have hnext : Settled {s with executor := rest} := hsettled.congr rfl rfl
    exact toldFocus_acquireChannelHelper hnext hsteady r activity

theorem speechSynthesizer_ne : "SpeechSynthesizer" ≠ "" := by decide

/-- Speech, and two players that share a channel behind it. -/
def speechOverPlayers : Setting (Fin 3) where
  table := .ofConfigurations [("Dialog",100),("Content",300)] []
  interruptModel := none
  activityTracker := false
  activity
    | 0 => ⟨"SpeechSynthesizer",0,1,speechSynthesizer_ne⟩
    | 1 => ⟨"AudioPlayer",0,2,audioPlayer_ne⟩
    | 2 => ⟨"Bluetooth",0,3,bluetooth_ne⟩

/-- The first player during speech is heard. -/
theorem acquirer_told_player : ∃ s s' : Manager speechOverPlayers,Run Step (init fun _ => .mixable)
        [.acquireChannel "Dialog" 0,.runTask,.acquireChannel "Content" 1] s ∧ Accounted [0,1] s ∧ Step s .runTask s' ∧
      (ToldFocus s s' ⟨1,by decide⟩ 1 ↔ ¬Unheard s ⟨1,by decide⟩ 1) := by
  have hrun : Run Step (init fun _ => .mixable : Manager speechOverPlayers) _ _ :=
    ((Run.refl.snoc (.acquireChannel "Dialog" 0)).snoc (.runTask rfl)).snoc (.acquireChannel "Content" 1)
  exact ⟨_,_,hrun,(acquirer_told_iff _ hrun).1,.runTask rfl,(acquirer_told_iff _ hrun).2 _ _ _ _ rfl (.runTask rfl)⟩

/-- During speech the second player replaces the first, and is told nothing. -/
theorem second_player_untold : ∃ s s' : Manager speechOverPlayers,Run Step (init fun _ => .mixable)
        [.acquireChannel "Dialog" 0,.runTask,.acquireChannel "Content" 1,.runTask,.acquireChannel "Content" 2] s ∧
      s.executor=[.acquireChannel ⟨1,by decide⟩ 2] ∧ Step s .runTask s' ∧
      (s'.channels ⟨1,by decide⟩).activities=[2] ∧ ¬ToldFocus s s' ⟨1,by decide⟩ 2 := by
  have hrun : Run Step (init fun _ => .mixable : Manager speechOverPlayers) _ _ :=
    ((((Run.refl.snoc (.acquireChannel "Dialog" 0)).snoc (.runTask rfl)).snoc (.acquireChannel "Content" 1)).snoc
      (.runTask rfl)).snoc (.acquireChannel "Content" 2)
  exact ⟨_,_,hrun,rfl,.runTask rfl,by decide,not_toldFocus (by decide)⟩

end AlexaClientSDK.FocusNotices
