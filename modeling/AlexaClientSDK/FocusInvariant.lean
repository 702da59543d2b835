import AlexaClientSDK.FocusManager

/-!
# Who has the focus

After every task the active channels are those with activities, the first of them has the foreground, the others the
background and all remaining ones no focus. A timer cannot break this: when it expires, the activity that started it
still holds the channel.
-/

namespace AlexaClientSDK.FocusInvariant

open Function List KeyedLists LabelledRuns FocusChannel FocusManager Manager

variable {α : Type}

/-- A timer's activity is in the channel and not to be released. -/
def Patient (c : Channel α) : Prop :=
  ∀ receiver,c.patienceTimer=some receiver →
    ∃ initiator,c.patienceInitiator=some initiator ∧ initiator∈c.activities ∧ initiator≠receiver

section

/-- The focus stays, activities only go, and patience is kept. -/
structure Released (c c' : Channel α) : Prop where
  focus : c'.focusState=c.focusState
  fewer : ∀ activity∈c'.activities,activity∈c.activities
  stopped : c.patienceTimer=none → c'.patienceTimer=none
  patient : Patient c → Patient c'

theorem Released.refl (c : Channel α) : Released c c :=
  ⟨rfl,fun _ h => h,fun h => h,fun h => h⟩

theorem updateChannelInterface_frame (A : α → Activity) (c : Channel α) :
    (c.updateChannelInterface A).focusState=c.focusState ∧ (c.updateChannelInterface A).activities=c.activities ∧
    (c.updateChannelInterface A).patienceTimer=c.patienceTimer ∧
    (c.updateChannelInterface A).patienceInitiator=c.patienceInitiator := by
  unfold Channel.updateChannelInterface
  split <;> exact ⟨rfl,rfl,rfl,rfl⟩

theorem addToChannelUpdates_frame (config : ChannelConfiguration) (c : Channel α)
    (interfaceName : String) (focus : FocusState) :
    (c.addToChannelUpdates config interfaceName focus).focusState=c.focusState ∧
    (c.addToChannelUpdates config interfaceName focus).activities=c.activities ∧
    (c.addToChannelUpdates config interfaceName focus).patienceTimer=c.patienceTimer ∧
    (c.addToChannelUpdates config interfaceName focus).patienceInitiator=c.patienceInitiator := by
  unfold Channel.addToChannelUpdates
  split
  · exact ⟨rfl,rfl,rfl,rfl⟩
  · split <;> exact ⟨rfl,rfl,rfl,rfl⟩

variable [DecidableEq α]

/-- Setting the focus sets the focus and nothing else that matters here. -/
theorem setFocus_spec (config : ChannelConfiguration) (c : Channel α) (o : Objects α)
    (focus : FocusState) (behavior : MixingBehavior) (forceUpdate : Bool) :
    (c.setFocus config o focus behavior forceUpdate).2.1.focusState=focus ∧
    (c.setFocus config o focus behavior forceUpdate).2.1.activities=c.activities ∧
    (c.setFocus config o focus behavior forceUpdate).2.1.patienceTimer=c.patienceTimer ∧
    (c.setFocus config o focus behavior forceUpdate).2.1.patienceInitiator=c.patienceInitiator := by
  unfold Channel.setFocus
  dsimp only
  split
  · rename_i hkeep
    simp only [Bool.and_eq_true,Bool.not_eq_true',decide_eq_false_iff_not,ne_eq,not_not] at hkeep
    exact ⟨hkeep.1.2,rfl,rfl,rfl⟩
  · exact addToChannelUpdates_frame config _ _ _

variable {c : Channel α}

/-- A timer stopped for a removal, when the activity is gone. -/
theorem patient_stopPatienceFor (h : Patient c) (activity : α) :
    Patient {c.stopPatienceFor activity with activities := c.activities.erase activity} := by
  intro receiver htimer
  unfold Channel.stopPatienceFor at htimer ⊢
  by_cases hstop : c.patienceTimer.isSome ∧
      (c.patienceInitiator=some activity ∨ c.patienceReceiver=some activity)
  · rw [if_pos hstop] at htimer
    exact absurd htimer nofun
  · rw [if_neg hstop] at htimer ⊢
    obtain ⟨initiator,hinit,hmem,hne⟩ := h receiver htimer
    have hother : initiator≠activity := by
      rintro rfl
      exact hstop ⟨by rw [htimer]; rfl,.inl hinit⟩
    exact ⟨initiator,hinit,(mem_erase_of_ne hother).mpr hmem,hne⟩

theorem stopPatienceFor_timer {activity : α} (h : c.patienceTimer=none) :
    (c.stopPatienceFor activity).patienceTimer=none := by
  unfold Channel.stopPatienceFor
  split
  · rfl
  · exact h

variable {A : α → Activity} {config : ChannelConfiguration}

/-- A request that releases nothing changes nothing. -/
theorem releaseFirst_failed {c' : Channel α}
    {o o' : Objects α} {fits : α → Bool} (h : c.releaseFirst A config o fits=(false,c',o')) : c'=c ∧ o'=o := by
  unfold Channel.releaseFirst at h
  split at h
  · obtain ⟨hc,ho⟩ := Prod.mk.inj (Prod.mk.inj h).2
    exact ⟨hc.symm,ho.symm⟩
  · exact absurd (congrArg Prod.fst h) nofun

section

variable (A : α → Activity)

section

variable (config : ChannelConfiguration)

theorem removeActivityHelper_spec (c : Channel α) (o : Objects α) (activity : α) :
    (c.removeActivityHelper A config o activity).1.focusState=c.focusState ∧
    (c.removeActivityHelper A config o activity).1.activities=c.activities.erase activity ∧
    (c.patienceTimer=none → (c.removeActivityHelper A config o activity).1.patienceTimer=none) ∧
    (Patient c → Patient (c.removeActivityHelper A config o activity).1) := by
  have hstop : (c.stopPatienceFor activity).focusState=c.focusState ∧
      (c.stopPatienceFor activity).activities=c.activities := by
    unfold Channel.stopPatienceFor
    split <;> exact ⟨rfl,rfl⟩
  -- the update in between changes none of the members
  have hupdate : ∃ d : Channel α,(c.removeActivityHelper A config o activity).1 =
        {d with activities := d.activities.erase activity}.updateChannelInterface A ∧
      d.focusState=c.focusState ∧ d.activities=c.activities ∧
      d.patienceTimer=(c.stopPatienceFor activity).patienceTimer ∧
      d.patienceInitiator=(c.stopPatienceFor activity).patienceInitiator := by
    by_cases hreceiver : c.patienceReceiver=some activity
    · refine ⟨_,rfl,?_⟩
      rw [decide_eq_true hreceiver,if_pos rfl]
      exact ⟨hstop.1,hstop.2,rfl,rfl⟩
    · refine ⟨_,rfl,?_⟩
      rw [decide_eq_false hreceiver,if_neg Bool.false_ne_true]
      obtain ⟨hf,ha,ht,hi⟩ := addToChannelUpdates_frame config (c.stopPatienceFor activity) (A activity).interface .none
      exact ⟨hf.trans hstop.1,ha.trans hstop.2,ht,hi⟩
  obtain ⟨d,heq,hfocus,hacts,htimer,hinit⟩ := hupdate
  obtain ⟨hf,ha,ht,hi⟩ := updateChannelInterface_frame A
    {d with activities := d.activities.erase activity}
  rw [heq]
  refine ⟨hf.trans hfocus,?_,fun hnone => ?_,fun hpatient receiver hrun => ?_⟩
  · rw [ha]
    rw [hacts]
  · rw [ht]
    exact htimer.trans (stopPatienceFor_timer hnone)
  · rw [ht] at hrun
    rw [htimer] at hrun
    obtain ⟨initiator,hinit',hmem,hne⟩ := patient_stopPatienceFor hpatient activity receiver hrun
    refine ⟨initiator,?_,?_,hne⟩
    · rw [hi]
      rw [hinit]
      exact hinit'
    · rw [ha]
      rw [hacts]
      exact hmem

theorem released_removeActivityHelper (c : Channel α) (o : Objects α) (activity : α) :
    Released c (c.removeActivityHelper A config o activity).1 := by
  obtain ⟨hfocus,hacts,hstopped,hpatient⟩ := removeActivityHelper_spec A config c o activity
  refine ⟨hfocus,fun other hother => ?_,hstopped,hpatient⟩
  rw [hacts] at hother
  exact mem_of_mem_erase hother

theorem released_releaseActivityLocked (c : Channel α) (o : Objects α) (activity : Option α) :
    Released c (c.releaseActivityLocked A config o activity).2.1 := by
  cases activity with
  | none => exact .refl c
  | some activity =>
    unfold Channel.releaseActivityLocked
    dsimp only
    split
    · exact released_removeActivityHelper A config c o activity
    · exact .refl c

theorem released_releaseFirst (c : Channel α)
    (o : Objects α) (fits : α → Bool) : Released c (c.releaseFirst A config o fits).2.1 := by
  unfold Channel.releaseFirst
  split
  · exact .refl c
  · rename_i activity _
    have hremoved := released_removeActivityHelper A config c o activity
    obtain ⟨hf,ha,ht,hi⟩ := addToChannelUpdates_frame config (c.removeActivityHelper A config o activity).1
      (c.removeActivityHelper A config o activity).1.interfaceName
      (c.removeActivityHelper A config o activity).1.focusState
    refine ⟨hf.trans hremoved.focus,?_,fun hnone => ht.trans (hremoved.stopped hnone),?_⟩
    · rw [ha]
      exact hremoved.fewer
    · intro hpatient receiver hrun
      rw [ht] at hrun
      rw [ha,hi]
      exact hremoved.patient hpatient receiver hrun

theorem processPolicy_focusState (c : Channel α) (o : Objects α) (incoming current : α) :
    (c.processPolicy A config o incoming current).1.focusState=c.focusState := by
  have hlocked : ∀ (d : Channel α) (o : Objects α) (activity : Option α),
      (d.releaseActivityLocked A config o activity).2.1.focusState=d.focusState :=
    fun d o activity => (released_releaseActivityLocked A config d o activity).focus
  have hend : (c.endPatience A config o).1.focusState=c.focusState := by
    unfold Channel.endPatience
    split
    · exact hlocked _ _ _
    · rfl
  unfold Channel.processPolicy
  dsimp only
  split
  · exact hlocked _ _ _
  · split
    · exact (addToChannelUpdates_frame config _ _ _).1.trans hend
    · refine (hlocked _ _ _).trans ?_
      split
      · exact hend
      · exact (hlocked _ _ _).trans hend

/-- Behind the branch that ends an earlier patience, no timer runs. -/
theorem endPatience_timer (c : Channel α) (o : Objects α) : (c.endPatience A config o).1.patienceTimer=none := by
  unfold Channel.endPatience
  split
  · exact (released_releaseActivityLocked A config {c with patienceTimer := none} o c.patienceReceiver).stopped rfl
  · rename_i hnone
    exact Option.not_isSome_iff_eq_none.mp hnone

end

end

theorem processPolicy_patient {o : Objects α} {incoming current : α} (h : Patient c) :
    Patient {(c.processPolicy A config o incoming current).1 with
      activities := incoming::(c.processPolicy A config o incoming current).1.activities} := by
  unfold Channel.processPolicy
  intro receiver hrun
  dsimp only at hrun ⊢
  split at hrun
  · -- the same interface: the current activity is replaced
    rename_i hsame
    rw [if_pos hsame]
    obtain ⟨initiator,hinit,hmem,hne⟩ :=
      (released_releaseActivityLocked A config c o (some current)).patient h receiver hrun
    exact ⟨initiator,hinit,mem_cons_of_mem _ hmem,hne⟩
  · rename_i hother
    rw [if_neg hother]
    split at hrun
    · -- the current activity waits behind the incoming one
      rename_i hwaits
      rw [if_pos hwaits]
      refine ⟨incoming,rfl,mem_cons_self,?_⟩
      rintro rfl
      have heq : current=incoming := Option.some.inj hrun
      exact hother (by rw [heq])
    · -- no patience: what is released leaves no timer running
      refine absurd hrun ?_
      have hidle := endPatience_timer A config c o
      have hstopped := fun (d : Channel α) o activity =>
        (released_releaseActivityLocked A config d o activity).stopped
      rw [hstopped _ _ _ ?_]
      · nofun
      · split
        · exact hidle
        · exact hstopped _ _ _ hidle

theorem setPrimaryActivity_spec (A : α → Activity) (config : ChannelConfiguration) (c : Channel α)
    (o : Objects α) (activity : α) : (c.setPrimaryActivity A config o activity).1.focusState=c.focusState ∧
    activity∈(c.setPrimaryActivity A config o activity).1.activities ∧
    (Patient c → Patient (c.setPrimaryActivity A config o activity).1) := by
  -- the channel when the activity has joined, before its name is updated
  have hjoined : ∃ d : Channel α,(c.setPrimaryActivity A config o activity).1 = d.updateChannelInterface A ∧
      d.focusState=c.focusState ∧ activity∈d.activities ∧ (Patient c → Patient d) := by
    unfold Channel.setPrimaryActivity
    cases hacts : c.activities with
    | nil =>
      refine ⟨{c with activities := activity::c.activities},rfl,rfl,mem_cons_self,fun hpatient receiver hrun => ?_⟩
      obtain ⟨initiator,hinit,hmem,hne⟩ := hpatient receiver hrun
      exact ⟨initiator,hinit,mem_cons_of_mem _ hmem,hne⟩
    | cons current =>
      exact ⟨{(c.processPolicy A config o activity current).1 with
          activities := activity::(c.processPolicy A config o activity current).1.activities},rfl,
        processPolicy_focusState A config c o activity current,mem_cons_self,
        processPolicy_patient⟩
  obtain ⟨d,heq,hfocus,hmem,hpatient⟩ := hjoined
  obtain ⟨hf,ha,ht,hi⟩ := updateChannelInterface_frame A d
  rw [heq]
  refine ⟨hf.trans hfocus,by rw [ha]; exact hmem,fun hc receiver hrun => ?_⟩
  rw [ht] at hrun
  rw [hi,ha]
  exact hpatient hc receiver hrun

theorem patienceTimerCallback_spec (A : α → Activity) (config : ChannelConfiguration) (o : Objects α)
    {receiver : α} (h : Patient c)
    (hrun : c.patienceTimer=some receiver) : (c.patienceTimerCallback A config o receiver).1.focusState=c.focusState ∧
    c.activities≠[] ∧ (c.patienceTimerCallback A config o receiver).1.activities≠[] ∧
    Patient (c.patienceTimerCallback A config o receiver).1 := by
  obtain ⟨initiator,_,hmem,hne⟩ := h receiver hrun
  unfold Channel.patienceTimerCallback
  refine ⟨(released_releaseActivityLocked A config c o (some receiver)).focus,
    ne_nil_of_mem hmem,?_,fun _ hnone => nomatch hnone⟩
  refine ne_nil_of_mem (a := initiator) ?_
  unfold Channel.releaseActivityLocked
  dsimp only
  split
  · rw [(removeActivityHelper_spec A config c o receiver).2.1]
    exact (mem_erase_of_ne hne).mpr hmem
  · exact hmem

end

section

variable {S : Setting α} {s s' s'' : Manager S}

structure FocusLaw (s : Manager S) : Prop where
  sorted : KeySorted S.table.priority s.activeChannels
  active : ∀ r,r∈s.activeChannels ↔ (s.channels r).activities≠[]
  foreground : ∀ r∈s.activeChannels,
    (∀ r'∈s.activeChannels,S.table.priority r≤S.table.priority r') → (s.channels r).focusState=.foreground
  background : ∀ r∈s.activeChannels,∀ r'∈s.activeChannels,
    S.table.priority r'<S.table.priority r → (s.channels r).focusState=.background
  idle : ∀ r,r∉s.activeChannels → (s.channels r).focusState=.none

/-- The law in a task: the channels of a list may have lost their activities, and the focus of active ones is
open. -/
structure Loose (l : List S.table.Ref) (s : Manager S) : Prop where
  sorted : KeySorted S.table.priority s.activeChannels
  held : ∀ r,(s.channels r).activities≠[] → r∈s.activeChannels
  active : ∀ r,r∉l → r∈s.activeChannels → (s.channels r).activities≠[]
  idle : ∀ r,r∉s.activeChannels → (s.channels r).focusState=.none
  patient : ∀ r,Patient (s.channels r)

/-- What steps that only change the focus leave alone. -/
structure Frame (s s' : Manager S) : Prop where
  active : s'.activeChannels=s.activeChannels
  activities : ∀ r,(s'.channels r).activities=(s.channels r).activities
  timer : ∀ r,(s'.channels r).patienceTimer=(s.channels r).patienceTimer
  initiator : ∀ r,(s'.channels r).patienceInitiator=(s.channels r).patienceInitiator

theorem Frame.refl (s : Manager S) : Frame s s :=
  ⟨rfl,fun _ => rfl,fun _ => rfl,fun _ => rfl⟩

theorem Frame.trans (h : Frame s s') (h' : Frame s' s'') : Frame s s'' :=
  ⟨h'.active.trans h.active,fun r => (h'.activities r).trans (h.activities r),
    fun r => (h'.timer r).trans (h.timer r),fun r => (h'.initiator r).trans (h.initiator r)⟩

variable {r : S.table.Ref}

theorem Frame.patient (h : Frame s s') (hp : Patient (s.channels r)) : Patient (s'.channels r) := by
  intro receiver hrun
  rw [h.timer] at hrun
  rw [h.initiator,h.activities]
  exact hp receiver hrun

variable {l : List S.table.Ref}

theorem Loose.frame (h : Loose l s) (hframe : Frame s s')
    (hidle : ∀ r,r∉s.activeChannels → (s'.channels r).focusState=.none) : Loose l s' := by
  refine ⟨?_,fun r => ?_,fun r => ?_,fun r => ?_,fun r => hframe.patient (h.patient r)⟩
  · rw [hframe.active]
    exact h.sorted
  · rw [hframe.active,hframe.activities]
    exact h.held r
  · rw [hframe.active,hframe.activities]
    exact h.active r
  · rw [hframe.active]
    exact hidle r

theorem FocusLaw.loose (h : FocusLaw s) (hpatient : ∀ r,Patient (s.channels r)) : Loose [] s :=
  ⟨h.sorted,fun r => (h.active r).mpr,fun r _ => (h.active r).mp,h.idle,hpatient⟩

theorem Loose.mono {l' : List S.table.Ref} (h : Loose l s) (hsub : ∀ r∈l,r∈l') : Loose l' s :=
  ⟨h.sorted,h.held,fun r hr => h.active r fun hmem => hr (hsub r hmem),h.idle,h.patient⟩

variable {c : Channel α}

theorem loose_setChannel (h : Loose l s)
    (hc : Released (s.channels r) c) (o : Objects α) : Loose (r::l) (s.setChannel r c o) := by
  have hself : (s.setChannel r c o).channels r=c := s.setChannel_self r c o
  have hother : ∀ r',r'≠r → (s.setChannel r c o).channels r'=s.channels r' :=
    fun r' hne => s.setChannel_of_ne c o hne
  refine ⟨h.sorted,fun r' hacts => ?_,fun r' hr' hmem => ?_,fun r' hr' => ?_,fun r' => ?_⟩
  · by_cases hne : r'=r
    · subst hne
      rw [hself] at hacts
      obtain ⟨activity,hactivity⟩ := exists_mem_of_ne_nil _ hacts
      exact h.held r' (ne_nil_of_mem (hc.fewer activity hactivity))
    · rw [hother r' hne] at hacts
      exact h.held r' hacts
  · rw [mem_cons,not_or] at hr'
    rw [hother r' hr'.1]
    exact h.active r' hr'.2 hmem
  · by_cases hne : r'=r
    · subst hne
      rw [hself,hc.focus]
      exact h.idle r' hr'
    · rw [hother r' hne]
      exact h.idle r' hr'
  · by_cases hne : r'=r
    · subst hne
      rw [hself]
      exact hc.patient (h.patient r')
    · rw [hother r' hne]
      exact h.patient r'

/-- The law with patience, which tasks and timers keep. -/
structure Settled (s : Manager S) : Prop where
  law : FocusLaw s
  patient : ∀ r,Patient (s.channels r)

theorem Settled.congr (h : Settled s) (hchannels : s'.channels=s.channels)
    (hactive : s'.activeChannels=s.activeChannels) : Settled s' := by
  obtain ⟨⟨hsorted,hmem,hfore,hback,hidle⟩,hpatient⟩ := h
  rw [←hactive] at hsorted hmem hfore hback hidle
  rw [←hchannels] at hmem hfore hback hidle hpatient
  exact ⟨⟨hsorted,hmem,hfore,hback,hidle⟩,hpatient⟩

theorem settled_init (contentType : α → ContentType) : Settled (init contentType : Manager S) :=
  ⟨⟨List.Pairwise.nil,fun _ => by simp [init,Channel.init],fun _ hr => absurd hr not_mem_nil,
    fun _ hr => absurd hr not_mem_nil,fun _ _ => rfl⟩,fun _ _ hrun => nomatch hrun⟩

/-- A channel that keeps its focus and stays empty or not keeps the law. -/
theorem settled_setChannel (h : Settled s) (hfocus : c.focusState=(s.channels r).focusState)
    (hacts : c.activities≠[] ↔ (s.channels r).activities≠[]) (hpatient : Patient c)
    (o : Objects α) : Settled (s.setChannel r c o) := by
  have hkeep : ∀ r',((s.setChannel r c o).channels r').focusState=(s.channels r').focusState := by
    intro r'
    by_cases hne : r'=r
    · rw [hne,setChannel_self]
      exact hfocus
    · rw [setChannel_of_ne _ _ _ hne]
  refine ⟨⟨h.law.sorted,fun r' => ?_,fun r' => ?_,fun r' => ?_,fun r' => ?_⟩,fun r' => ?_⟩
  · by_cases hne : r'=r
    · rw [hne,setChannel_self,hacts]
      exact h.law.active r
    · rw [setChannel_of_ne _ _ _ hne]
      exact h.law.active r'
  · rw [hkeep]
    exact h.law.foreground r'
  · rw [hkeep]
    exact h.law.background r'
  · rw [hkeep]
    exact h.law.idle r'
  · by_cases hne : r'=r
    · rw [hne,setChannel_self]
      exact hpatient
    · rw [setChannel_of_ne _ _ _ hne]
      exact h.patient r'

theorem settled_notifyActivityTracker (h : Settled s) : Settled s.notifyActivityTracker :=
  ⟨⟨h.law.sorted,h.law.active,h.law.foreground,h.law.background,h.law.idle⟩,h.patient⟩

variable [DecidableEq α]

/-- One channel gets a focus, and nothing else that matters here changes. -/
theorem setChannelFocus_spec (s : Manager S) (r : S.table.Ref) (focus : FocusState)
    (behavior : MixingBehavior) (forceUpdate : Bool) : Frame s (s.setChannelFocus r focus behavior forceUpdate) ∧
    ((s.setChannelFocus r focus behavior forceUpdate).channels r).focusState=focus ∧
    ∀ r',r'≠r → (s.setChannelFocus r focus behavior forceUpdate).channels r'=s.channels r' := by
  obtain ⟨hf,ha,ht,hi⟩ :=
    setFocus_spec (S.table.config r) (s.channels r) s.objects focus behavior forceUpdate
  cases hset : (s.channels r).setFocus (S.table.config r) s.objects focus behavior forceUpdate with
  | mk changed result =>
    obtain ⟨c,o⟩ := result
    rw [hset] at hf ha ht hi
    cases changed with
    | false =>
      have hsame : s.setChannelFocus r focus behavior forceUpdate=s := by
        simp only [setChannelFocus,hset]
      have hc : c=s.channels r := by
        have heq := hset
        unfold Channel.setFocus at heq
        dsimp only at heq
        split at heq
        · exact ((Prod.mk.inj (Prod.mk.inj heq).2).1).symm
        · exact absurd (congrArg Prod.fst heq) nofun
      rw [hsame]
      rw [hc] at hf
      exact ⟨.refl s,hf,fun _ _ => rfl⟩
    | true =>
      have hnew : s.setChannelFocus r focus behavior forceUpdate =
          {s.setChannel r c o with focusChanges := s.focusChanges++[(r,focus)]} := by
        simp only [setChannelFocus,hset]
      rw [hnew]
      refine ⟨⟨rfl,fun r' => ?_,fun r' => ?_,fun r' => ?_⟩,?_,fun r' hne => ?_⟩
      all_goals dsimp only [setChannel]
      · by_cases hr : r'=r
        · subst hr
          rw [update_self]
          exact ha
        · rw [update_of_ne hr]
      · by_cases hr : r'=r
        · subst hr
          rw [update_self]
          exact ht
        · rw [update_of_ne hr]
      · by_cases hr : r'=r
        · subst hr
          rw [update_self]
          exact hi
        · rw [update_of_ne hr]
      · rw [update_self]
        exact hf
      · rw [update_of_ne hne]

theorem setBackground_spec (foreground : S.table.Ref) (l : List S.table.Ref) (s : Manager S) :
    Frame s (setBackground foreground s l) ∧
    (∀ r∈l,((setBackground foreground s l).channels r).focusState=.background) ∧
    ∀ r,r∉l → ((setBackground foreground s l).channels r).focusState=(s.channels r).focusState := by
  induction l generalizing s with
  | nil => exact ⟨.refl s,nofun,fun _ _ => rfl⟩
  | cons r rest ih =>
    obtain ⟨hframe,hfocus,hothers⟩ :=
      setChannelFocus_spec s r .background (s.getMixingBehavior r foreground) false
    obtain ⟨hframe',hfocus',hothers'⟩ :=
      ih (s.setChannelFocus r .background (s.getMixingBehavior r foreground) false)
    refine ⟨hframe.trans hframe',fun r' hr' => ?_,fun r' hr' => ?_⟩
    · by_cases hmem : r'∈rest
      · exact hfocus' r' hmem
      · have heq : r'=r := (mem_cons.mp hr').resolve_right hmem
        have hkeep := hothers' r' hmem
        rw [heq] at hkeep ⊢
        exact hkeep.trans hfocus
    · rw [mem_cons,not_or] at hr'
      have hkeep := hothers' r' hr'.2
      rw [hothers r' hr'.1] at hkeep
      exact hkeep

theorem setBackgroundChannelMixingBehavior_spec (hsorted : KeySorted S.table.priority s.activeChannels)
    {foreground : S.table.Ref} (hmem : foreground∈s.activeChannels) :
    Frame s (s.setBackgroundChannelMixingBehavior foreground) ∧
    (∀ r∈s.activeChannels,S.table.priority foreground<S.table.priority r →
      ((s.setBackgroundChannelMixingBehavior foreground).channels r).focusState=.background) ∧
    ∀ r,r∉s.activeChannels → ((s.setBackgroundChannelMixingBehavior foreground).channels r).focusState =
        (s.channels r).focusState := by
  obtain ⟨hframe,hfocus,hothers⟩ :=
    setBackground_spec foreground (behind S.table.priority foreground s.activeChannels) s
  refine ⟨hframe,fun r hr hlt => hfocus r ((mem_behind hsorted hmem).mpr ⟨hr,hlt⟩),
    fun r hr => hothers r fun hbehind => hr ((mem_behind hsorted hmem).mp hbehind).1⟩

theorem settled_foreground (h : Loose [] s) (hr : r∈s.activeChannels)
    (hfirst : ∀ r'∈s.activeChannels,r'=r ∨ S.table.priority r<S.table.priority r') :
    Settled ((s.setBackgroundChannelMixingBehavior r).setChannelFocus r .foreground .primary false) := by
  obtain ⟨hframe,hback,hkeep⟩ := setBackgroundChannelMixingBehavior_spec h.sorted hr
  obtain ⟨hframe',hfore,hothers⟩ :=
    setChannelFocus_spec (s.setBackgroundChannelMixingBehavior r) r .foreground .primary false
  have hall := hframe.trans hframe'
  have hidle : ∀ r',r'∉s.activeChannels →
      (((s.setBackgroundChannelMixingBehavior r).setChannelFocus r .foreground .primary
        false).channels r').focusState=.none := by
    intro r' hr'
    have hne : r'≠r := fun heq => hr' (heq ▸ hr)
    rw [hothers r' hne,hkeep r' hr']
    exact h.idle r' hr'
  have hloose := h.frame hall hidle
  refine ⟨⟨hloose.sorted,fun r' => ⟨hloose.active r' not_mem_nil,hloose.held r'⟩,?_,?_,hloose.idle⟩,hloose.patient⟩
  · intro r' hr' hleast
    rw [hall.active] at hr' hleast
    rcases hfirst r' hr' with rfl|hlt
    · exact hfore
    · exact absurd (hleast r hr) (not_le_of_gt hlt)
  · intro r' hr' r'' hr'' hlt
    rw [hall.active] at hr' hr''
    have hbehind : S.table.priority r<S.table.priority r' := by
      rcases hfirst r'' hr'' with rfl|hlt'
      · exact hlt
      · exact hlt'.trans hlt
    have hne : r'≠r := by
      rintro rfl
      exact lt_irrefl _ hbehind
    rw [hothers r' hne]
    exact hback r' hr' hbehind

theorem settled_foregroundHighest (h : Loose [] s) : Settled s.foregroundHighestPriorityActiveChannel := by
  unfold foregroundHighestPriorityActiveChannel getHighestPriorityActiveChannel
  cases hhead : s.activeChannels.head? with
  | none =>
    have hnil : s.activeChannels=[] := List.head?_eq_none_iff.mp hhead
    have hno : ∀ r,r∉s.activeChannels := by
      rw [hnil]
      exact fun _ => not_mem_nil
    exact ⟨⟨h.sorted,fun r => ⟨h.active r not_mem_nil,h.held r⟩,
      fun r hr => absurd hr (hno r),fun r hr => absurd hr (hno r),h.idle⟩,h.patient⟩
  | some r =>
    have hr : r∈s.activeChannels := mem_of_mem_head? hhead
    exact settled_foreground h hr fun r' hr' => head_least h.sorted hhead hr'

theorem loose_clearChannel (h : Loose (r::l) s) : Loose l (s.clearChannel r) := by
  unfold clearChannel
  by_cases hactive : (s.channels r).isActive=true
  · rw [if_pos hactive]
    refine ⟨h.sorted,h.held,fun r' hr' hmem => ?_,h.idle,h.patient⟩
    by_cases hne : r'=r
    · intro hnil
      rw [hne] at hnil
      simp [Channel.isActive,hnil] at hactive
    · exact h.active r' (fun hmem' => (mem_cons.mp hmem').elim hne hr') hmem
  · rw [if_neg hactive]
    have hempty : (s.channels r).activities=[] := by
      simpa [Channel.isActive] using hactive
    have herase : ∀ r',r'∈eraseKey S.table.priority r s.activeChannels ↔
        r'∈s.activeChannels ∧ r'≠r := fun r' => mem_eraseKey S.table.priority_injective
    obtain ⟨hframe,hfocus,hothers⟩ := setChannelFocus_spec
      {s with activeChannels := eraseKey S.table.priority r s.activeChannels} r .none .mustStop false
    refine ⟨?_,fun r' => ?_,fun r' hr' => ?_,fun r' => ?_,fun r' => hframe.patient (h.patient r')⟩
    · rw [hframe.active]
      exact keySorted_eraseKey h.sorted
    · rw [hframe.active,hframe.activities,herase]
      intro hacts
      exact ⟨h.held r' hacts,fun hne => hacts (hne ▸ hempty)⟩
    · rw [hframe.active,hframe.activities,herase]
      rintro ⟨hmem,hne⟩
      exact h.active r' (fun hmem' => (mem_cons.mp hmem').elim hne hr') hmem
    · rw [hframe.active,herase]
      intro hnot
      by_cases hne : r'=r
      · rw [hne]
        exact hfocus
      · rw [hothers r' hne]
        exact h.idle r' fun hmem => hnot ⟨hmem,hne⟩

theorem settled_closing (h : Loose [] s) : Settled s.foregroundHighestPriorityActiveChannel.notifyActivityTracker :=
  settled_notifyActivityTracker (settled_foregroundHighest h)

/-- It joins the active ones, with its focus left open. -/
structure Joined (r : S.table.Ref) (s s' : Manager S) : Prop where
  sorted : KeySorted S.table.priority s'.activeChannels
  mem : ∀ r',r'∈s'.activeChannels ↔ r'=r ∨ r'∈s.activeChannels
  active : ∀ r',r'∈s'.activeChannels ↔ (s'.channels r').activities≠[]
  focus : ∀ r',(s'.channels r').focusState=(s.channels r').focusState
  patient : ∀ r',Patient (s'.channels r')

variable {P : Manager S → Prop}

/-- What every release keeps, the first loop of `stopAllActivitiesHelper` keeps. -/
theorem releaseOwners_induct
    (hrelease : ∀ (s : Manager S) (r : S.table.Ref) (interfaceName : String),P s → P (s.setChannel r
        ((s.channels r).releaseActivity S.activity (S.table.config r) s.objects interfaceName).2.1
        ((s.channels r).releaseActivity S.activity (S.table.config r) s.objects interfaceName).2.2))
    (owners : List (S.table.Ref × String)) (h : P s) : P (s.releaseOwners owners) := by
  induction owners generalizing s with
  | nil => exact h
  | cons owner owners ih => exact ih (hrelease s owner.1 owner.2 h)

/-- What every clearing keeps, the second loop keeps. -/
theorem clearChannels_induct
    (hclear : ∀ (s : Manager S) (r : S.table.Ref),P s → P (s.clearChannel r)) (cleared : List S.table.Ref)
    (h : P s) : P (s.clearChannels cleared) := by
  induction cleared generalizing s with
  | nil => exact h
  | cons r cleared ih => exact ih (hclear s r h)

/-- The first loop of `stopAllActivitiesHelper` opens the law at its channels. -/
theorem loose_releaseOwners (owners : List (S.table.Ref × String))
    (h : Loose l s) : Loose (owners.map Prod.fst++l) (s.releaseOwners owners) := by
  induction owners generalizing l s with
  | nil => exact h
  | cons owner owners ih =>
    obtain ⟨r,interfaceName⟩ := owner
    have hreleased : Released (s.channels r) ((s.channels r).releaseActivity S.activity
        (S.table.config r) s.objects interfaceName).2.1 := released_releaseFirst _ _ _ _ _
    refine (ih (loose_setChannel h hreleased _)).mono fun r' hr' => ?_
    simp only [map_cons,cons_append,mem_append,mem_cons] at hr' ⊢
    rcases hr' with hmem|heq|hmem
    · exact .inr (.inl hmem)
    · exact .inl heq
    · exact .inr (.inr hmem)

theorem loose_clearChannels (cleared : List S.table.Ref)
    (h : Loose (cleared++l) s) : Loose l (s.clearChannels cleared) := by
  induction cleared generalizing s with
  | nil => exact h
  | cons r cleared ih => exact ih (loose_clearChannel h)

section

variable (h : Settled s)
include h

theorem joined_acquire {activity : α} {o : Objects α}
    (hset : (s.channels r).setPrimaryActivity S.activity (S.table.config r) s.objects activity = (c,o)) :
    Joined r s {s.setChannel r c o with
      activeChannels := insertKey S.table.priority r s.activeChannels} := by
  have hinj := S.table.priority_injective
  obtain ⟨hfocus,hmem,hpatient⟩ :=
    setPrimaryActivity_spec S.activity (S.table.config r) (s.channels r) s.objects activity
  rw [hset] at hfocus hmem hpatient
  have hself : (s.setChannel r c o).channels r=c := s.setChannel_self r c o
  have hother : ∀ r',r'≠r → (s.setChannel r c o).channels r'=s.channels r' :=
    fun r' hne => s.setChannel_of_ne c o hne
  refine ⟨keySorted_insertKey hinj h.law.sorted,fun r' => mem_insertKey hinj,fun r' => ?_,fun r' => ?_,fun r' => ?_⟩
  · rw [mem_insertKey hinj]
    by_cases hne : r'=r
    · subst hne
      rw [hself]
      exact ⟨fun _ => ne_nil_of_mem hmem,fun _ => .inl rfl⟩
    · rw [hother r' hne,←h.law.active r']
      exact or_iff_right hne
  · by_cases hne : r'=r
    · subst hne
      rw [hself]
      exact hfocus
    · rw [hother r' hne]
  · by_cases hne : r'=r
    · subst hne
      rw [hself]
      exact hpatient (h.patient r')
    · rw [hother r' hne]
      exact h.patient r'

/-- The law when the channel got its focus, and no other needs another one. -/
theorem settled_joined (hj : Joined r s s') (focus : FocusState) (behavior : MixingBehavior) (forceUpdate : Bool)
    (hfore : (∀ r'∈s'.activeChannels,S.table.priority r≤S.table.priority r') →
      focus=.foreground) (hback : ∀ r'∈s'.activeChannels,S.table.priority r'<S.table.priority r →
      focus=.background) (hcover : ∀ r'∈s.activeChannels,S.table.priority r<S.table.priority r' →
      ∃ r''∈s.activeChannels,S.table.priority r''<S.table.priority r') :
    Settled (s'.setChannelFocus r focus behavior forceUpdate) := by
  obtain ⟨hframe,hself,hothers⟩ := setChannelFocus_spec s' r focus behavior forceUpdate
  have hkeep : ∀ r',r'≠r → ((s'.setChannelFocus r focus behavior forceUpdate).channels
      r').focusState=(s.channels r').focusState := by
    intro r' hne
    rw [hothers r' hne]
    exact hj.focus r'
  have hold : ∀ r'∈s'.activeChannels,r'≠r → r'∈s.activeChannels :=
    fun r' hr' hne => ((hj.mem r').mp hr').resolve_left hne
  refine ⟨⟨?_,fun r' => ?_,fun r' hr' hleast => ?_,fun r' hr' r'' hr'' hlt => ?_,
    fun r' hr' => ?_⟩,fun r' => hframe.patient (hj.patient r')⟩
  · rw [hframe.active]
    exact hj.sorted
  · rw [hframe.active,hframe.activities]
    exact hj.active r'
  · rw [hframe.active] at hr' hleast
    by_cases hne : r'=r
    · subst hne
      rw [hself]
      exact hfore hleast
    · rw [hkeep r' hne]
      exact h.law.foreground r' (hold r' hr' hne) fun r'' hr'' => hleast r'' ((hj.mem r'').mpr (.inr hr''))
  · rw [hframe.active] at hr' hr''
    by_cases hne : r'=r
    · subst hne
      rw [hself]
      exact hback r'' hr'' hlt
    · rw [hkeep r' hne]
      have hr := hold r' hr' hne
      by_cases hne' : r''=r
      · subst hne'
        obtain ⟨r₀,hr₀,hlt₀⟩ := hcover r' hr hlt
        exact h.law.background r' hr r₀ hr₀ hlt₀
      · exact h.law.background r' hr r'' (hold r'' hr'' hne') hlt
  · rw [hframe.active,hj.mem,not_or] at hr'
    rw [hkeep r' hr'.1]
    exact h.law.idle r' hr'.2

theorem settled_acquireChannelHelper (r : S.table.Ref) (activity : α) :
    Settled (s.acquireChannelHelper r activity) := by
  cases hset : (s.channels r).setPrimaryActivity S.activity (S.table.config r) s.objects activity with
  | mk c o =>
    have hj := joined_acquire h hset
    unfold acquireChannelHelper getHighestPriorityActiveChannel
    rw [hset]
    refine settled_notifyActivityTracker ?_
    cases hhead : s.activeChannels.head? with
    | none =>
      have hnil : s.activeChannels=[] := List.head?_eq_none_iff.mp hhead
      have hno : ∀ r',r'∉s.activeChannels := by
        rw [hnil]
        exact fun _ => not_mem_nil
      refine settled_joined h hj _ _ _ (fun _ => rfl) (fun r' hr' hlt => ?_) fun r' hr' => absurd hr' (hno r')
      have heq : r'=r := ((hj.mem r').mp hr').resolve_right (hno r')
      exact absurd hlt (by rw [heq]; exact lt_irrefl _)
    | some foreground =>
      have hmem : foreground∈s.activeChannels := mem_of_mem_head? hhead
      have hfirst : ∀ r'∈s.activeChannels, r'=foreground ∨ S.table.priority foreground<S.table.priority r' :=
        fun r' hr' => head_least h.law.sorted hhead hr'
      dsimp only
      by_cases hsame : foreground=r
      · -- the foreground channel is acquired again
        rw [if_pos hsame]
        subst hsame
        refine settled_joined h hj _ _ _ (fun _ => rfl) (fun r' hr' hlt => ?_) fun r' hr' hlt => ⟨foreground,hmem,hlt⟩
        rcases (hj.mem r').mp hr' with rfl|hr'
        · exact absurd hlt (lt_irrefl _)
        · rcases hfirst r' hr' with rfl|hlt'
          · exact absurd hlt (lt_irrefl _)
          · exact absurd hlt (not_lt_of_gt hlt')
      · rw [if_neg hsame]
        by_cases hhigher : S.table.priority r<S.table.priority foreground
        · -- the channel takes over the foreground
          rw [if_pos hhigher]
          refine settled_foreground ⟨hj.sorted,fun r' => (hj.active r').mpr,
            fun r' _ => (hj.active r').mp,fun r' hr' => ?_,hj.patient⟩ ((hj.mem r).mpr (.inl rfl)) ?_
          · rw [hj.mem,not_or] at hr'
            rw [hj.focus]
            exact h.law.idle r' hr'.2
          · intro r' hr'
            rcases (hj.mem r').mp hr' with heq|hr'
            · exact .inl heq
            · rcases hfirst r' hr' with rfl|hlt
              · exact .inr hhigher
              · exact .inr (hhigher.trans hlt)
        · -- the channel stays behind the foreground
          rw [if_neg hhigher]
          have hlower : S.table.priority foreground<S.table.priority r := by
            refine lt_of_le_of_ne (not_lt.mp hhigher) fun heq => hsame ?_
            exact S.table.priority_injective heq
          refine settled_joined h hj _ _ _ (fun hleast => ?_) (fun _ _ _ => rfl)
            fun r' hr' hlt => ⟨foreground,hmem,hlower.trans hlt⟩
          exact absurd (hleast foreground ((hj.mem foreground).mpr (.inr hmem))) (not_le_of_gt hlower)

theorem settled_releaseChannelHelper (r : S.table.Ref) (observer : Option ℕ) :
    Settled (s.releaseChannelHelper r observer) := by
  have hreleased : Released (s.channels r)
      ((s.channels r).releaseActivityOf S.activity (S.table.config r) s.objects observer).2.1 := by
    cases observer with
    | none => exact .refl _
    | some => exact released_releaseFirst _ _ _ _ _
  cases hrelease : (s.channels r).releaseActivityOf S.activity (S.table.config r) s.objects observer with
  | mk success result =>
    obtain ⟨c,o⟩ := result
    rw [hrelease] at hreleased
    unfold releaseChannelHelper
    rw [hrelease]
    cases success with
    | false =>
      have hsame : c=s.channels r := by
        cases observer with
        | none => exact ((Prod.mk.inj (Prod.mk.inj hrelease).2).1).symm
        | some => exact (releaseFirst_failed hrelease).1
      have hchannels : (s.setChannel r c o).channels=s.channels := by
        rw [hsame]
        exact update_eq_self r s.channels
      exact h.congr hchannels rfl
    | true =>
      have hloose : Loose [r] (s.setChannel r c o) := loose_setChannel (h.law.loose h.patient) hreleased o
      have hpromised : Loose [r] {s.setChannel r c o with promises := s.promises++[true]} :=
        ⟨hloose.sorted,hloose.held,hloose.active,hloose.idle,hloose.patient⟩
      exact settled_closing (loose_clearChannel hpromised)

theorem settled_stopForegroundActivityHelper (r : S.table.Ref)
    (interfaceName : String) : Settled (s.stopForegroundActivityHelper r interfaceName) := by
  unfold stopForegroundActivityHelper
  split
  · exact h
  · have hreleased : Released (s.channels r) ((s.channels r).releaseActivity S.activity
        (S.table.config r) s.objects (s.channels r).interfaceName).2.1 :=
      released_releaseFirst _ _ _ _ _
    exact settled_closing (loose_clearChannel (loose_setChannel (h.law.loose h.patient) hreleased _))

/-- `stopAllActivitiesHelper` keeps the law, whatever was captured. -/
theorem settled_stopAllActivitiesHelper (owners : List (S.table.Ref × String)) :
    Settled (s.stopAllActivitiesHelper owners) :=
  settled_closing (loose_clearChannels _ (loose_releaseOwners owners (h.law.loose h.patient)))

theorem settled_runTask (task : Task S) : Settled (s.runTask task) := by
  cases task with
  | acquireChannel r activity => exact settled_acquireChannelHelper h r activity
  | releaseChannel r observer => exact settled_releaseChannelHelper h r observer
  | stopForegroundActivity r interfaceName => exact settled_stopForegroundActivityHelper h r interfaceName
  | stopAllActivities owners => exact settled_stopAllActivitiesHelper h owners

/-- The expiry of a timer keeps the law: no channel becomes empty by it. -/
theorem settled_patienceExpiry {activity : α} (hrun : (s.channels r).patienceTimer=some activity) :
    Settled (s.setChannel r ((s.channels r).patienceTimerCallback S.activity (S.table.config r) s.objects activity).1
      ((s.channels r).patienceTimerCallback S.activity (S.table.config r) s.objects activity).2) := by
  obtain ⟨hfocus,hbefore,hafter,hpatient⟩ :=
    patienceTimerCallback_spec S.activity (S.table.config r) s.objects (h.patient r) hrun
  exact settled_setChannel h hfocus ⟨fun _ => hbefore,fun _ => hafter⟩ hpatient _

theorem settled_step {e : Event S} (hstep : Step s e s') : Settled s' := by
  cases hstep with
  | acquireChannel =>
    unfold acquireChannel
    split <;> exact h.congr rfl rfl
  | releaseChannel =>
    unfold releaseChannel
    split <;> exact h.congr rfl rfl
  | stopForegroundActivity | stopAllActivities => exact h.congr rfl rfl
  | noForegroundActivity => exact h
  | noActiveChannels => exact h
  | @runTask task rest =>
    have hnext : Settled {s with executor := rest} := h.congr rfl rfl
    exact settled_runTask hnext task
  | patienceExpiry active => exact settled_patienceExpiry h active

end

/-- After every task the active channels are those with activities, the one with the highest priority has the
foreground, the other active ones have the background and the rest no focus. -/
theorem focus_after_every_run (contentType : α → ContentType) (events : List (Event S))
    (s : Manager S) (run : Run Step (init contentType) events s) : FocusLaw s :=
  (run.invariant Settled (settled_init contentType) fun _ _ _ h hstep => settled_step h hstep).law

end

def speechOverMusic : Setting Bool where
  table := .ofConfigurations [("Dialog",100),("Content",300)] []
  interruptModel := none
  activityTracker := false
  activity
    | true => ⟨"SpeechSynthesizer",0,1,by decide⟩
    | false => ⟨"AudioPlayer",0,2,by decide⟩

/-- Two channels are acquired, the one with the higher priority last. -/
theorem focus_after_two_acquires : ∃ (events : List (Event speechOverMusic)) (s : Manager speechOverMusic),
      Run Step (init fun _ => .nonmixable) events s ∧ s.activeChannels.length=2 ∧ FocusLaw s := by
  have hrun : Run Step (init fun _ => .nonmixable : Manager speechOverMusic) _ _ :=
    (((Run.refl.snoc (.acquireChannel "Content" false)).snoc (.acquireChannel "Dialog" true)).snoc
      (.runTask rfl)).snoc (.runTask rfl)
  exact ⟨_,_,hrun,by decide,focus_after_every_run _ _ _ hrun⟩

end AlexaClientSDK.FocusInvariant
