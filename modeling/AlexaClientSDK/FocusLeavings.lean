import Mathlib.Data.List.Perm.Lattice
import AlexaClientSDK.Histories
import AlexaClientSDK.MixingBehaviors

/-!
# Activities that leave their channel

An activity leaves a channel because another one replaces it, because it is released or stopped, or because a timer
expires. Each time it is told once that it has lost the focus, and nothing else until it is acquired again. What was
requested, is on a channel and was told to have lost the focus balance in every run.
-/

namespace AlexaClientSDK.FocusLeavings

open List
open KeyedLists LabelledRuns Histories FocusChannel FocusManager FocusInvariant PatienceQueue MixingBehaviors Channel Manager

variable {α : Type} {S : Setting α} {s s' s'' : Manager S} {o o' o'' : Objects α}

/-- What an activity is told when it leaves a channel. -/
def farewell (activity : α) : Notification α := ⟨activity,.none,.mustStop⟩

/-- Some activities leave a list; each is told so, and nobody else anything. -/
structure Left (gone before after : List α) (o o' : Objects α) : Prop where
  members : before.Perm (gone++after)
  told : o'.notified=o.notified++gone.map farewell

theorem Left.refl (l : List α) (o : Objects α) : Left [] l l o o := ⟨List.Perm.refl _,(append_nil _).symm⟩

theorem Left.trans {gone gone' l l' l'' : List α} (h : Left gone l l' o o') (h' : Left gone' l' l'' o' o'') :
    Left (gone++gone') l l'' o o'' := by
  constructor
  · rw [append_assoc]
    exact h.members.trans (h'.members.append_left gone)
  · rw [h'.told,h.told,map_append,append_assoc]

section

variable [DecidableEq α] (A : α → Activity) (config : ChannelConfiguration) (c : Channel α) (o : Objects α)

/-- The activity that is removed is told. -/
theorem left_removeActivityHelper {activity : α} (hmem : activity∈c.activities) :
    Left [activity] c.activities (c.removeActivityHelper A config o activity).1.activities o
      (c.removeActivityHelper A config o activity).2 := by
  obtain ⟨_,herased,_,_⟩ := FocusInvariant.removeActivityHelper_spec A config c o activity
  constructor
  · rw [herased]
    exact perm_cons_erase hmem
  · have hbehavior : (if o.mixingBehavior activity=.mustPause ∧ MixingBehavior.mustStop=.mayDuck then
        MixingBehavior.mustPause else .mustStop)=.mustStop := if_neg fun h => by cases h.2
    unfold removeActivityHelper Objects.notifyObserver
    rw [hbehavior]
    rfl

/-- An activity that is released is told. -/
theorem left_releaseActivityLocked (activity : Option α) :
    ∃ gone,Left gone c.activities (c.releaseActivityLocked A config o activity).2.1.activities o
      (c.releaseActivityLocked A config o activity).2.2 := by
  cases activity with
  | none => exact ⟨[],.refl _ _⟩
  | some activity =>
    unfold releaseActivityLocked
    by_cases hmem : activity∈c.activities
    · simp only [if_pos hmem]
      exact ⟨[activity],left_removeActivityHelper A config c o hmem⟩
    · simp only [if_neg hmem]
      exact ⟨[],.refl _ _⟩

theorem left_releaseFirst (fits : α → Bool) :
    ∃ gone,Left gone c.activities (c.releaseFirst A config o fits).2.1.activities o
      (c.releaseFirst A config o fits).2.2 := by
  unfold releaseFirst
  cases hfind : c.activities.find? fits with
  | none => exact ⟨[],.refl _ _⟩
  | some activity =>
    have hleft := left_removeActivityHelper A config c o (mem_of_find?_eq_some hfind)
    obtain ⟨_,hkept,_,_⟩ := FocusInvariant.addToChannelUpdates_frame config
      (c.removeActivityHelper A config o activity).1 (c.removeActivityHelper A config o activity).1.interfaceName
      (c.removeActivityHelper A config o activity).1.focusState
    refine ⟨[activity],?_,hleft.told⟩
    rw [hkept]
    exact hleft.members

theorem left_endPatience :
    ∃ gone,Left gone c.activities (c.endPatience A config o).1.activities o (c.endPatience A config o).2 := by
  unfold endPatience
  by_cases hrun : c.patienceTimer.isSome=true
  · rw [if_pos hrun]
    exact left_releaseActivityLocked A config {c with patienceTimer := none} o c.patienceReceiver
  · rw [if_neg hrun]
    exact ⟨[],.refl _ _⟩

theorem left_processPolicy (incoming current : α) :
    ∃ gone,Left gone c.activities (c.processPolicy A config o incoming current).1.activities o
      (c.processPolicy A config o incoming current).2 := by
  unfold processPolicy
  by_cases hsame : (A incoming).interface=(A current).interface
  · rw [if_pos hsame]
    exact left_releaseActivityLocked A config c o (some current)
  rw [if_neg hsame]
  obtain ⟨gone,hended⟩ := left_endPatience A config c o
  generalize c.endPatience A config o=ended at hended
  obtain ⟨d,o'⟩ := ended
  dsimp only at hended ⊢
  by_cases hpatience : 0<(A incoming).patienceDuration
  · rw [if_pos hpatience]
    obtain ⟨_,hkept,_,_⟩ := FocusInvariant.addToChannelUpdates_frame config d (A current).interface .none
    refine ⟨gone,?_,hended.told⟩
    rw [hkept]
    exact hended.members
  rw [if_neg hpatience]
  cases d.patienceInitiator with
  | none =>
    obtain ⟨last,hlast⟩ := left_releaseActivityLocked A config d o' (some current)
    exact ⟨gone++last,hended.trans hlast⟩
  | some initiator =>
    obtain ⟨first,hfirst⟩ := left_releaseActivityLocked A config d o' (some initiator)
    obtain ⟨last,hlast⟩ := left_releaseActivityLocked A config
      {(d.releaseActivityLocked A config o' (some initiator)).2.1 with patienceInitiator := none}
      (d.releaseActivityLocked A config o' (some initiator)).2.2 (some current)
    exact ⟨gone++first++last,(hended.trans hfirst).trans hlast⟩

/-- The activities that make way are told. -/
theorem left_setPrimaryActivity (activity : α) :
    ∃ gone others,(c.setPrimaryActivity A config o activity).1.activities=activity::others ∧
      Left gone c.activities others o (c.setPrimaryActivity A config o activity).2 := by
  have hfront : ∀ d : Channel α,({d with activities := activity::d.activities}.updateChannelInterface
      A).activities=activity::d.activities :=
    fun d => (FocusInvariant.updateChannelInterface_frame A {d with activities := activity::d.activities}).2.1
  unfold setPrimaryActivity
  cases hacts : c.activities with
  | nil =>
    have hself := hfront c
    rw [hacts] at hself
    refine ⟨[],[],?_,.refl _ _⟩
    dsimp only
    rw [hacts]
    exact hself
  | cons current =>
    obtain ⟨gone,hpolicy⟩ := left_processPolicy A config c o activity current
    rw [hacts] at hpolicy
    exact ⟨gone,_,hfront _,hpolicy⟩

/-- None, or the focus for the one in front and a pause for others. -/
theorem notified_notifyActivities (activity : α) (others : List α) (behavior : MixingBehavior) (focus : FocusState) :
    ∃ given,(notifyActivities o (activity::others) behavior focus).notified =
      o.notified++⟨activity,focus,given⟩::others.map fun other => ⟨other,.background,.mustPause⟩ := by
  have hothers : ∀ (others : List α) (o : Objects α),(others.foldl (fun o other =>
      o.notifyObserver other .background .mustPause) o).notified =
        o.notified++others.map fun other => ⟨other,.background,.mustPause⟩ := by
    intro others
    induction others with
    | nil => exact fun o => (append_nil _).symm
    | cons other others ih =>
      intro o
      have hpause : (o.notifyObserver other .background .mustPause).notified =
          o.notified++[⟨other,.background,.mustPause⟩] := by
        unfold Objects.notifyObserver
        rw [if_neg fun h => by cases h.2]
      rw [foldl_cons,ih,hpause,append_assoc]
      rfl
  refine ⟨if o.mixingBehavior activity=.mustPause ∧ behavior=.mayDuck then .mustPause else behavior,?_⟩
  unfold notifyActivities
  rw [hothers]
  unfold Objects.notifyObserver
  rw [append_assoc]
  rfl

end

/-- No activity moves, and only those on a channel are told, no loss. -/
structure Refreshed (s s' : Manager S) : Prop where
  activities : ∀ r,(s'.channels r).activities=(s.channels r).activities
  executor : s'.executor=s.executor
  told : ∃ told,s'.objects.notified=s.objects.notified++told ∧
    ∀ notice∈told,notice.focus≠.none ∧ ∃ r,notice.activity∈(s.channels r).activities

theorem Refreshed.refl (s : Manager S) : Refreshed s s :=
  ⟨fun _ => rfl,rfl,[],(append_nil _).symm,fun _ hnotice => absurd hnotice not_mem_nil⟩

theorem Refreshed.trans (h : Refreshed s s') (h' : Refreshed s' s'') : Refreshed s s'' := by
  obtain ⟨told,htold,hwho⟩ := h.told
  obtain ⟨told',htold',hwho'⟩ := h'.told
  refine ⟨fun r => (h'.activities r).trans (h.activities r),h'.executor.trans h.executor,told++told',?_,?_⟩
  · rw [htold',htold,append_assoc]
  · intro notice hnotice
    rcases mem_append.mp hnotice with hfirst|hlater
    · exact hwho notice hfirst
    · obtain ⟨hfocus,r,hmem⟩ := hwho' notice hlater
      rw [h.activities] at hmem
      exact ⟨hfocus,r,hmem⟩

theorem refreshed_notifyActivityTracker (s : Manager S) : Refreshed s s.notifyActivityTracker :=
  ⟨fun _ => rfl,rfl,[],(append_nil _).symm,fun _ hnotice => absurd hnotice not_mem_nil⟩

/-- The activities that focus was requested for. -/
def requested : List (Event S) → List α :=
  List.filterMap fun e =>
    match e with
    | .acquireChannel channelName activity => if (S.table.getChannel channelName).isSome then some activity else none
    | _ => none

/-- The activities of all channels. -/
def held (s : Manager S) : List α := (List.finRange S.table.entries.length).flatMap fun r => (s.channels r).activities

/-- The activities that were told that they lost the focus, once for each time. -/
def dismissed (o : Objects α) : List α :=
  (o.notified.filter fun notice => notice.focus=.none ∧ notice.behavior=.mustStop).map Notification.activity

variable {activity : α}

theorem mem_held : activity∈held s ↔ ∃ r,activity∈(s.channels r).activities := by
  unfold held
  rw [mem_flatMap]
  exact ⟨fun ⟨r,_,hmem⟩ => ⟨r,hmem⟩,fun ⟨r,hmem⟩ => ⟨r,mem_finRange r,hmem⟩⟩

variable {r : S.table.Ref} {gone joining : List α}

/-- One channel changes what is held. -/
theorem held_perm (hother : ∀ r',r'≠r → (s'.channels r').activities=(s.channels r').activities)
    (hself : (joining++(s.channels r).activities).Perm (gone++(s'.channels r).activities)) :
    (joining++held s).Perm (gone++held s') := by
  have hsplit : (List.finRange S.table.entries.length).Perm (r::(List.finRange S.table.entries.length).erase r) :=
    perm_cons_erase (mem_finRange r)
  have hrest : (((List.finRange S.table.entries.length).erase r).flatMap fun r => (s'.channels r).activities) =
      ((List.finRange S.table.entries.length).erase r).flatMap fun r => (s.channels r).activities := by
    refine flatMap_congr fun r' hr' => hother r' ?_
    exact ((nodup_finRange S.table.entries.length).mem_erase_iff.mp hr').1
  have hbefore := hsplit.flatMap_right fun r => (s.channels r).activities
  have hafter := hsplit.flatMap_right fun r => (s'.channels r).activities
  rw [flatMap_cons] at hbefore hafter
  rw [hrest] at hafter
  have hmiddle := hself.append_right
    (((List.finRange S.table.entries.length).erase r).flatMap fun r => (s.channels r).activities)
  rw [append_assoc,append_assoc] at hmiddle
  exact ((hbefore.append_left joining).trans hmiddle).trans (hafter.symm.append_left gone)

theorem dismissed_farewell (htold : o'.notified=o.notified++gone.map farewell) : dismissed o'=dismissed o++gone := by
  have hall : (gone.map farewell).filter
      (fun notice => decide (notice.focus=.none ∧ notice.behavior=.mustStop))=gone.map farewell := by
    refine filter_eq_self.mpr fun notice hnotice => ?_
    obtain ⟨activity,_,rfl⟩ := mem_map.mp hnotice
    exact decide_eq_true ⟨rfl,rfl⟩
  have hsame : (gone.map farewell).map Notification.activity=gone := by
    rw [map_map]
    exact map_id gone
  unfold dismissed
  rw [htold,filter_append,hall,map_append,hsame]

theorem Refreshed.dismissed (h : Refreshed s s') : dismissed s'.objects=dismissed s.objects := by
  obtain ⟨told,htold,hwho⟩ := h.told
  have hnone : told.filter (fun notice => decide (notice.focus=.none ∧ notice.behavior=.mustStop))=[] :=
    filter_eq_nil_iff.mpr fun notice hnotice hlost => (hwho notice hnotice).1 (of_decide_eq_true hlost).1
  unfold FocusLeavings.dismissed
  rw [htold,filter_append,hnone,append_nil]

variable [DecidableEq α]

theorem notified_setChannelFocus {others : List α}
    (hacts : (s.channels r).activities=activity::others) (focus : FocusState) (behavior : MixingBehavior)
    (forceUpdate : Bool) :
    ((forceUpdate=false ∧ (s.channels r).focusState=focus ∧ s.objects.mixingBehavior activity=behavior) ∧
      (s.setChannelFocus r focus behavior forceUpdate).objects.notified=s.objects.notified) ∨
    (¬(forceUpdate=false ∧ (s.channels r).focusState=focus ∧ s.objects.mixingBehavior activity=behavior) ∧
      ∃ given,(s.setChannelFocus r focus behavior forceUpdate).objects.notified=s.objects.notified ++
        ⟨activity,focus,given⟩::others.map fun other => ⟨other,.background,.mustPause⟩) := by
  obtain ⟨_,hobjects⟩ := refocused_setChannelFocus s r focus behavior forceUpdate
  have hprimary : (s.channels r).getPrimaryActivity=some activity := by
    unfold getPrimaryActivity
    rw [hacts,List.head?_cons]
  rw [hobjects]
  unfold setFocus mixingBehaviorChanged
  rw [hprimary]
  by_cases hsame : forceUpdate=false ∧ (s.channels r).focusState=focus ∧
      s.objects.mixingBehavior activity=behavior
  · left
    refine ⟨hsame,?_⟩
    obtain ⟨rfl,rfl,rfl⟩ := hsame
    rw [if_pos (by simp)]
  · right
    refine ⟨hsame,?_⟩
    rw [if_neg (by simpa using hsame)]
    obtain ⟨_,hkept,_,_⟩ := FocusInvariant.addToChannelUpdates_frame (S.table.config r)
      {s.channels r with focusState := focus} (s.channels r).interfaceName focus
    dsimp only
    rw [hkept]
    rw [hacts]
    exact notified_notifyActivities s.objects activity others behavior focus

theorem notified_setChannelFocus_nil (hacts : (s.channels r).activities=[]) (focus : FocusState)
    (behavior : MixingBehavior) (forceUpdate : Bool) :
    (s.setChannelFocus r focus behavior forceUpdate).objects.notified=s.objects.notified := by
  have hnobody : ∀ {o o' : Objects α},MixingNotices.Told [] o o' → o'.notified=o.notified := by
    intro o o' htold
    cases htold with
    | refl => rfl
    | snoc _ hmem => exact absurd hmem not_mem_nil
  have htold := (refocused_setChannelFocus s r focus behavior forceUpdate).1.told
  rw [flatMap_singleton,hacts] at htold
  exact hnobody htold

section

variable (s)

section

variable (r)

theorem refreshed_setChannelFocus {focus : FocusState}
    (hfocus : focus≠.none ∨ (s.channels r).activities=[]) (behavior : MixingBehavior) (forceUpdate : Bool) :
    Refreshed s (s.setChannelFocus r focus behavior forceUpdate) := by
  obtain ⟨hfocused,_⟩ := refocused_setChannelFocus s r focus behavior forceUpdate
  refine ⟨hfocused.activities,hfocused.executor,?_⟩
  cases hacts : (s.channels r).activities with
  | nil =>
    refine ⟨[],?_,fun _ hnotice => absurd hnotice not_mem_nil⟩
    rw [notified_setChannelFocus_nil hacts,append_nil]
  | cons activity others =>
    have hgiven : focus≠.none := hfocus.resolve_right (hacts ▸ cons_ne_nil activity others)
    rcases notified_setChannelFocus hacts focus behavior forceUpdate with ⟨_,hsame⟩|⟨_,given,htold⟩
    · exact ⟨[],by rw [hsame,append_nil],fun _ hnotice => absurd hnotice not_mem_nil⟩
    · refine ⟨_,htold,fun notice hnotice => ?_⟩
      rcases mem_cons.mp hnotice with rfl|hother
      · exact ⟨hgiven,r,by rw [hacts]; exact mem_cons_self⟩
      · obtain ⟨other,hbehind,rfl⟩ := mem_map.mp hother
        exact ⟨nofun,r,by rw [hacts]; exact mem_cons_of_mem _ hbehind⟩

theorem refreshed_setBackgroundChannelMixingBehavior : Refreshed s (s.setBackgroundChannelMixingBehavior r) := by
  unfold setBackgroundChannelMixingBehavior
  generalize behind S.table.priority r s.activeChannels=l
  induction l generalizing s with
  | nil => exact .refl s
  | cons r' rest ih =>
    have hfirst : Refreshed s (s.setChannelFocus r' .background (s.getMixingBehavior r' r) false) :=
      refreshed_setChannelFocus s r' (.inl fun h => by cases h) _ false
    exact hfirst.trans (ih _)

theorem refreshed_foreground (forceUpdate : Bool) :
    Refreshed s (s.setChannelFocus r .foreground .primary forceUpdate) :=
  refreshed_setChannelFocus s r (.inl fun h => by cases h) .primary forceUpdate

/-- A channel without activities loses its focus, and nobody is told. -/
theorem refreshed_clearChannel : Refreshed s (s.clearChannel r) := by
  unfold clearChannel
  by_cases hactive : (s.channels r).isActive=true
  · rw [if_pos hactive]
    exact .refl s
  · rw [if_neg hactive]
    have hempty : (s.channels r).activities=[] := by simpa [isActive] using hactive
    have herased : Refreshed s {s with activeChannels := eraseKey S.table.priority r s.activeChannels} :=
      ⟨fun _ => rfl,rfl,[],(append_nil _).symm,fun _ hnotice => absurd hnotice not_mem_nil⟩
    exact herased.trans (refreshed_setChannelFocus
      {s with activeChannels := eraseKey S.table.priority r s.activeChannels} r (.inr hempty) .mustStop false)

end

theorem refreshed_clearChannels (cleared : List S.table.Ref) (s : Manager S) : Refreshed s (s.clearChannels cleared) :=
   clearChannels_induct (fun t r h => h.trans (refreshed_clearChannel t r)) cleared (.refl s)

theorem refreshed_closing : Refreshed s s.foregroundHighestPriorityActiveChannel.notifyActivityTracker := by
  refine Refreshed.trans ?_ (refreshed_notifyActivityTracker _)
  unfold foregroundHighestPriorityActiveChannel
  cases s.getHighestPriorityActiveChannel with
  | none => exact .refl s
  | some r => exact (refreshed_setBackgroundChannelMixingBehavior s r).trans (refreshed_foreground _ r false)

theorem refreshed_focused (r : S.table.Ref) (foreground : Option S.table.Ref) :
    Refreshed s (focused s r foreground) := by
  unfold focused
  cases foreground with
  | none => exact refreshed_foreground s r false
  | some =>
    dsimp only
    split
    · exact refreshed_foreground s r true
    · split
      · exact (refreshed_setBackgroundChannelMixingBehavior s r).trans (refreshed_foreground _ r false)
      · exact refreshed_setChannelFocus s r (.inl fun h => by cases h) _ false

end

/-- The last thing that an activity was told. -/
def lastTold (o : Objects α) (activity : α) : Option (Notification α) :=
  o.notified.findRev? fun notice => notice.activity=activity

/-- Each accepted request waits, is on a channel, or was dismissed, once; an activity on no channel was last
told so. -/
structure Accounted (requests : List α) (s : Manager S) : Prop where
  balance : requests.Perm (dismissed s.objects++held s++queued s)
  last : ∀ activity∉held s,∀ notice∈lastTold s.objects activity,notice=farewell activity

variable {requests : List α}

section

variable (h : Accounted requests s)
include h

/-- The balance stays when activities are told a focus. -/
theorem Accounted.refresh (hs : Refreshed s s') : Accounted requests s' := by
  have hheld : held s'=held s := flatMap_congr fun r _ => hs.activities r
  have hqueued : queued s'=queued s := by
    unfold queued
    rw [hs.executor]
  obtain ⟨told,htold,hwho⟩ := hs.told
  refine ⟨by rw [hs.dismissed,hheld,hqueued]; exact h.balance,fun activity hnot notice hlast => ?_⟩
  rw [hheld] at hnot
  have hnobody : (told.findRev? fun notice => decide (notice.activity=activity))=none := by
    refine findRev?_eq_none_iff.mpr fun notice hnotice => decide_eq_false ?_
    rintro rfl
    exact hnot (mem_held.mpr (hwho notice hnotice).2)
  unfold lastTold at hlast
  rw [htold,findRev?_append,hnobody,Option.none_or] at hlast
  exact h.last activity hnot notice hlast

/-- The balance stays when activities leave and others come from the queue. -/
theorem Accounted.part (hqueued : (queued s).Perm (joining++queued s')) (hheld : (joining++held s).Perm (gone++held s'))
    (htold : s'.objects.notified=s.objects.notified++gone.map farewell) : Accounted requests s' := by
  constructor
  · rw [dismissed_farewell htold]
    have hmoved : (held s++queued s).Perm (gone++held s'++queued s') := by
      have hjoined : (held s++queued s).Perm (joining++held s++queued s') := by
        have hfront : (held s++joining).Perm (joining++held s) := perm_append_comm
        have hmoved := hqueued.append_left (held s)
        rw [←append_assoc] at hmoved
        exact hmoved.trans (hfront.append_right (queued s'))
      exact hjoined.trans (hheld.append_right (queued s'))
    have hbalance := h.balance
    rw [append_assoc] at hbalance
    rw [append_assoc,append_assoc,←append_assoc gone]
    exact hbalance.trans (hmoved.append_left (dismissed s.objects))
  · intro activity hnot notice hlast
    unfold lastTold at hlast
    rw [htold,findRev?_append] at hlast
    cases hparting : (gone.map farewell).findRev? fun notice => decide (notice.activity=activity) with
    | some parting =>
      rw [hparting,Option.some_or] at hlast
      obtain rfl : parting=notice := Option.some.inj hlast
      obtain ⟨hself,before,after,hsplit,_⟩ := findRev?_eq_some_iff.mp hparting
      have hmem : parting∈gone.map farewell := hsplit ▸ mem_append_right _ mem_cons_self
      obtain ⟨other,_,rfl⟩ := mem_map.mp hmem
      exact congrArg farewell (of_decide_eq_true hself)
    | none =>
      rw [hparting,Option.none_or] at hlast
      refine h.last activity (fun hmem => ?_) notice hlast
      -- who was there is there still, or was told
      rcases mem_append.mp (hheld.mem_iff.mp (mem_append_right joining hmem)) with hgone|hstill
      · have huntold := findRev?_eq_none_iff.mp hparting (farewell activity) (mem_map_of_mem hgone)
        exact of_decide_eq_false huntold rfl
      · exact hnot hstill

theorem Accounted.congr
    (hchannels : ∀ r,(s'.channels r).activities=(s.channels r).activities) (hobjects : s'.objects=s.objects)
    (hqueued : queued s'=queued s) : Accounted requests s' := by
  have hheld : held s'=held s := flatMap_congr fun r _ => hchannels r
  refine ⟨?_,?_⟩
  · rw [hobjects,hheld,hqueued]
    exact h.balance
  · rw [hobjects,hheld]
    exact h.last

/-- What leaves a channel has been told. -/
theorem Accounted.leave {c : Channel α} {o : Objects α}
    (hleft : ∃ gone,Left gone (s.channels r).activities c.activities s.objects o) :
    Accounted requests (s.setChannel r c o) := by
  obtain ⟨gone,hleft⟩ := hleft
  have hheld : ([]++held s).Perm (gone++held (s.setChannel r c o)) := by
    refine held_perm (fun r' hne => congrArg activities (s.setChannel_of_ne c o hne)) ?_
    rw [s.setChannel_self r c o]
    exact hleft.members
  exact h.part (List.Perm.refl _) hheld hleft.told

variable {rest : List (Task S)}

theorem accounted_acquireChannelHelper (next : s.executor=.acquireChannel r activity::rest) :
    Accounted requests ({s with executor := rest}.acquireChannelHelper r activity) := by
  rw [acquireChannelHelper_eq]
  refine Accounted.refresh ?_ ((refreshed_focused _ r _).trans (refreshed_notifyActivityTracker _))
  obtain ⟨gone,others,hfront,hleft⟩ :=
    left_setPrimaryActivity S.activity (S.table.config r) (s.channels r) s.objects activity
  have hqueued : queued s=[activity]++queued (joined {s with executor := rest} r activity) := by
    unfold queued
    rw [next]
    rfl
  refine h.part (List.Perm.of_eq hqueued) (held_perm (r := r) (fun r' hne => ?_) ?_) hleft.told
  · exact congrArg activities (setChannel_of_ne s _ s.objects hne)
  · have hself : ((joined {s with executor := rest} r activity).channels r).activities=activity::others :=
      (congrArg activities (setChannel_self s r _ s.objects)).trans hfront
    have hmembers : ([activity]++(s.channels r).activities).Perm ([activity]++(gone++others)) :=
      hleft.members.append_left [activity]
    have hmiddle : (activity::(gone++others)).Perm (gone++activity::others) := perm_middle.symm
    rw [hself]
    exact hmembers.trans hmiddle

theorem accounted_releaseChannelHelper (r : S.table.Ref) (observer : Option ℕ) :
    Accounted requests (s.releaseChannelHelper r observer) := by
  have hleft : ∃ gone,Left gone (s.channels r).activities
      ((s.channels r).releaseActivityOf S.activity (S.table.config r) s.objects observer).2.1.activities s.objects
      ((s.channels r).releaseActivityOf S.activity (S.table.config r) s.objects observer).2.2 := by
    cases observer with
    | none => exact ⟨[],.refl _ _⟩
    | some => exact left_releaseFirst S.activity (S.table.config r) (s.channels r) s.objects _
  have hleave := h.leave hleft
  unfold releaseChannelHelper
  generalize (s.channels r).releaseActivityOf S.activity (S.table.config r) s.objects observer=result at hleave
  obtain ⟨success,c,o⟩ := result
  cases success with
  | false => exact hleave.congr (fun _ => rfl) rfl rfl
  | true =>
    have hpromised : Accounted requests {s.setChannel r c o with promises := s.promises++[true]} :=
      hleave.congr (fun _ => rfl) rfl rfl
    exact hpromised.refresh ((refreshed_clearChannel _ r).trans (refreshed_closing _))

theorem accounted_stopForegroundActivityHelper (r : S.table.Ref) (interfaceName : String) :
    Accounted requests (s.stopForegroundActivityHelper r interfaceName) := by
  unfold stopForegroundActivityHelper
  split
  · exact h
  · have hleave := h.leave (left_releaseFirst S.activity (S.table.config r) (s.channels r) s.objects
      fun activity => (S.activity activity).interface=(s.channels r).interfaceName)
    exact hleave.refresh ((refreshed_clearChannel _ r).trans (refreshed_closing _))

theorem accounted_stopAllActivitiesHelper (owners : List (S.table.Ref × String)) :
    Accounted requests (s.stopAllActivitiesHelper owners) := by
  have hreleased : Accounted requests (s.releaseOwners owners) :=
    releaseOwners_induct (fun s r interfaceName h =>
      h.leave (left_releaseFirst S.activity (S.table.config r) (s.channels r) s.objects
        fun activity => (S.activity activity).interface=interfaceName)) owners h
  exact hreleased.refresh ((refreshed_clearChannels _ _).trans (refreshed_closing _))

/-- Every task keeps the account. -/
theorem accounted_runTask {task : Task S}
    (next : s.executor=task::rest) : Accounted requests ({s with executor := rest}.runTask task) := by
  have hnext : queued {s with executor := rest}=queued s → Accounted requests {s with executor := rest} :=
    fun hqueued => h.congr (fun _ => rfl) rfl hqueued
  cases task with
  | acquireChannel => exact accounted_acquireChannelHelper h next
  | releaseChannel r observer =>
    exact accounted_releaseChannelHelper (hnext (by unfold queued; rw [next]; rfl)) r observer
  | stopForegroundActivity r interfaceName =>
    exact accounted_stopForegroundActivityHelper (hnext (by unfold queued; rw [next]; rfl)) r interfaceName
  | stopAllActivities owners =>
    exact accounted_stopAllActivitiesHelper (hnext (by unfold queued; rw [next]; rfl)) owners

/-- Every step keeps the account. -/
theorem accounted_step {e : Event S} (hstep : Step s e s') : Accounted (requests++requested [e]) s' := by
  have hquiet : requested [e]=[] → Accounted requests s' → Accounted (requests++requested [e]) s' := by
    intro hnone h
    rw [hnone,append_nil]
    exact h
  cases hstep with
  | acquireChannel channelName activity =>
    unfold acquireChannel
    cases hchannel : S.table.getChannel channelName with
    | none =>
      have hnone : requested [Event.acquireChannel (S := S) channelName activity]=[] := by
        simp [requested,hchannel]
      rw [hnone,append_nil]
      exact h
    | some r =>
      have hone : requested [Event.acquireChannel (S := S) channelName activity]=[activity] := by
        simp [requested,hchannel]
      have hqueued : queued {s with executor := s.executor++[.acquireChannel r activity]} =
          queued s++[activity] := filterMap_append
      refine ⟨?_,h.last⟩
      rw [hone,hqueued,←append_assoc]
      exact h.balance.append_right [activity]
  | releaseChannel channelName =>
    refine hquiet rfl ?_
    unfold releaseChannel
    cases S.table.getChannel channelName with
    | none => exact h.congr (fun _ => rfl) rfl rfl
    | some =>
      refine h.congr (fun _ => rfl) rfl ?_
      unfold queued
      rw [filterMap_append]
      exact append_nil _
  | stopForegroundActivity | stopAllActivities => exact hquiet rfl (h.congr (fun _ => rfl) rfl rfl)
  | noForegroundActivity | noActiveChannels => exact hquiet rfl h
  | runTask next => exact hquiet rfl (accounted_runTask h next)
  | patienceExpiry =>
    exact hquiet rfl (h.leave (left_releaseActivityLocked S.activity (S.table.config _) _ s.objects (some _)))

end

/-- They balance with those that wait, are on a channel or were dismissed. -/
theorem accounted_run (contentType : α → ContentType) {events : List (Event S)}
    (run : Run Step (init contentType) events s) : Accounted (requested events) s := by
  refine run.induct (fun events s => Accounted (requested events) s) ?_ ?_
  · refine ⟨?_,nofun⟩
    have hheld : held (init contentType : Manager S)=[] := flatMap_eq_nil_iff.mpr fun _ _ => rfl
    rw [hheld]
    exact List.Perm.refl _
  · intro past s e t h hstep
    have hsplit : requested (past++[e])=requested past++requested [e] := filterMap_append
    rw [hsplit]
    exact accounted_step h hstep

end AlexaClientSDK.FocusLeavings
