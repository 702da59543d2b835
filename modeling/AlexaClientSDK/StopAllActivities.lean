import AlexaClientSDK.MixingBehaviors

/-!
# Stopping all activities

A request to stop everything captures the owners of the channels in a map, with one entry for each channel: where an
activity waits with patience, the one in front is captured, and the one behind it is foregrounded instead of stopped.
-/

namespace AlexaClientSDK.StopAllActivities

open List
open KeyedLists LabelledRuns FocusChannel FocusManager FocusInvariant PatienceQueue MixingNotices MixingBehaviors

variable {α : Type} {S : Setting α} {s s' s'' : Manager S}

/-- No channel is active, and all were told. -/
structure StoppedAll (s s' : Manager S) : Prop where
  inactive : s'.activeChannels=[]
  removed : ∀ r,(s'.channels r).activities=[]
  told : ∃ told,s'.objects.notified=s.objects.notified++told ∧
    ∀ r,∀ activity∈(s.channels r).activities,⟨activity,.none,.mustStop⟩∈told

/-- A step that tells activities something and moves none. -/
structure Quiet (s s' : Manager S) : Prop where
  activities : ∀ r,(s'.channels r).activities=(s.channels r).activities
  told : ∃ told,s'.objects.notified=s.objects.notified++told

theorem Quiet.refl (s : Manager S) : Quiet s s := ⟨fun _ => rfl,[],(append_nil _).symm⟩

theorem Quiet.trans (h : Quiet s s') (h' : Quiet s' s'') : Quiet s s'' := by
  obtain ⟨told,htold⟩ := h.told
  obtain ⟨told',htold'⟩ := h'.told
  refine ⟨fun r => (h'.activities r).trans (h.activities r),told++told',?_⟩
  rw [htold',htold,append_assoc]

/-- An entry of the capture: the activity in front of a channel, by its interface. -/
def Fronts (s : Manager S) (owner : S.table.Ref × String) : Prop :=
  ∃ activity others,(s.channels owner.1).activities=activity::others ∧ owner.2=(S.activity activity).interface

variable {owners : List (S.table.Ref × String)}

theorem captured_spec (hlaw : FocusLaw s) (hcapture : owners.Perm s.captureOwners) :
    (owners.map Prod.fst).Perm s.activeChannels ∧ ∀ owner∈owners,Fronts s owner := by
  have hfronts : ∀ owner∈s.captureOwners,Fronts s owner := by
    intro owner howner
    obtain ⟨r,_,hr⟩ := mem_filterMap.mp howner
    obtain ⟨activity,hhead,rfl⟩ := Option.map_eq_some_iff.mp hr
    obtain ⟨others,hacts⟩ := List.head?_eq_some_iff.mp hhead
    exact ⟨activity,others,hacts,rfl⟩
  have hall : ∀ l : List S.table.Ref,(∀ r∈l,(s.channels r).activities≠[]) →
      (l.filterMap fun r => (s.channels r).activities.head?.map fun activity =>
        (r,(S.activity activity).interface)).map Prod.fst=l := by
    intro l
    induction l with
    | nil => exact fun _ => rfl
    | cons r l ih =>
      intro hne
      cases hacts : (s.channels r).activities with
      | nil => exact absurd hacts (hne r mem_cons_self)
      | cons =>
        rw [filterMap_cons,hacts]
        dsimp only [List.head?_cons,Option.map_some]
        rw [map_cons,ih fun r' hr' => hne r' (mem_cons_of_mem _ hr')]
  have hchannels : s.captureOwners.map Prod.fst=s.activeChannels :=
    hall s.activeChannels fun r hr => (hlaw.active r).mp hr
  exact ⟨hchannels ▸ hcapture.map Prod.fst,fun owner howner => hfronts owner (hcapture.mem_iff.mp howner)⟩

variable [DecidableEq α]

theorem Told.appended {l : List α} {o o' : Objects α} (h : Told l o o') : ∃ told,o'.notified=o.notified++told := by
  induction h with
  | refl => exact ⟨[],(append_nil _).symm⟩
  | snoc _ _ focus behavior ih =>
    obtain ⟨told,htold⟩ := ih
    unfold Objects.notifyObserver
    dsimp only
    rw [htold,append_assoc]
    exact ⟨_,rfl⟩

theorem quiet_refocused {l : List S.table.Ref} (h : Refocused l s s') : Quiet s s' :=
  ⟨h.activities,Told.appended h.told⟩

theorem quiet_clearChannel (s : Manager S) (r : S.table.Ref) : Quiet s (s.clearChannel r) := by
  unfold Manager.clearChannel
  split
  · exact .refl s
  · have herased : Quiet s {s with activeChannels := eraseKey S.table.priority r s.activeChannels} :=
      ⟨fun _ => rfl,[],(append_nil _).symm⟩
    exact herased.trans (quiet_refocused (refocused_setChannelFocus _ r .none .mustStop false).1)

theorem quiet_clearChannels (cleared : List S.table.Ref) (s : Manager S) : Quiet s (s.clearChannels cleared) :=
  clearChannels_induct (fun t r h => h.trans (quiet_clearChannel t r)) cleared (.refl s)

theorem quiet_foregroundHighest (s : Manager S) : Quiet s s.foregroundHighestPriorityActiveChannel := by
  unfold Manager.foregroundHighestPriorityActiveChannel
  cases s.getHighestPriorityActiveChannel with
  | none => exact .refl s
  | some r => exact quiet_refocused (refocused_foreground s r)

theorem releaseActivity_front (A : α → Activity) (config : ChannelConfiguration) (c : Channel α) (o : Objects α)
    {activity : α} {others : List α} (hacts : c.activities=activity::others) :
    (c.releaseActivity A config o (A activity).interface).2.1.activities=others ∧
      (c.releaseActivity A config o (A activity).interface).2.2.notified =
        o.notified++[⟨activity,.none,.mustStop⟩] := by
  have hfind : c.activities.find? (fun other => decide ((A other).interface=(A activity).interface)) =
      some activity := by
    rw [hacts]
    exact List.find?_cons_of_pos (decide_eq_true rfl)
  unfold Channel.releaseActivity Channel.releaseFirst
  rw [hfind]
  obtain ⟨_,herased,_,_⟩ := removeActivityHelper_spec A config c o activity
  obtain ⟨_,hkept,_,_⟩ := addToChannelUpdates_frame config (c.removeActivityHelper A config o activity).1
    (c.removeActivityHelper A config o activity).1.interfaceName
    (c.removeActivityHelper A config o activity).1.focusState
  constructor
  · rw [hkept,herased,hacts,erase_cons_head]
  · have hbehavior : (if o.mixingBehavior activity=.mustPause ∧ MixingBehavior.mustStop=.mayDuck then
        MixingBehavior.mustPause else .mustStop)=.mustStop := if_neg fun h => by cases h.2
    unfold Channel.removeActivityHelper Objects.notifyObserver
    dsimp only
    rw [hbehavior]

theorem releaseOwners_spec (hnodup : (owners.map Prod.fst).Nodup)
    (hfronts : ∀ owner∈owners,Fronts s owner) : (∀ r,((s.releaseOwners owners).channels r).activities =
      if r∈owners.map Prod.fst then (s.channels r).activities.tail else (s.channels r).activities) ∧
    ∃ told,(s.releaseOwners owners).objects.notified=s.objects.notified++told ∧
      ∀ r∈owners.map Prod.fst,∀ activity∈(s.channels r).activities.head?, ⟨activity,.none,.mustStop⟩∈told := by
  induction owners generalizing s with
  | nil =>
    refine ⟨fun r => (if_neg not_mem_nil).symm,[],(append_nil _).symm,fun r hr => ?_⟩
    exact absurd hr not_mem_nil
  | cons owner owners ih =>
    obtain ⟨r,interfaceName⟩ := owner
    obtain ⟨activity,others,hacts,rfl⟩ := hfronts _ mem_cons_self
    rw [map_cons,nodup_cons] at hnodup
    obtain ⟨hnot,hrest⟩ := hnodup
    obtain ⟨hothers,htold⟩ := releaseActivity_front S.activity (S.table.config r) (s.channels r) s.objects hacts
    rw [Manager.releaseOwners]
    generalize (s.channels r).releaseActivity S.activity (S.table.config r) s.objects (S.activity activity).interface =
      result at hothers htold
    obtain ⟨success,c,o⟩ := result
    have hkept : ∀ r',r'≠r → (s.setChannel r c o).channels r'=s.channels r' :=
      fun r' hne => s.setChannel_of_ne c o hne
    have hself : (s.setChannel r c o).channels r=c := s.setChannel_self r c o
    have hlater : ∀ owner∈owners,Fronts (s.setChannel r c o) owner := by
      intro owner howner
      obtain ⟨front,behind,hfront,hname⟩ := hfronts owner (mem_cons_of_mem _ howner)
      have hmem : owner.1∈owners.map Prod.fst := mem_map_of_mem howner
      have hne : owner.1≠r := fun heq => hnot (heq ▸ hmem)
      exact ⟨front,behind,by rw [hkept _ hne]; exact hfront,hname⟩
    obtain ⟨hchannels,told,hnotified,htelling⟩ := ih hrest hlater
    constructor
    · intro r'
      rw [hchannels,map_cons]
      by_cases hne : r'=r
      · subst hne
        rw [if_neg hnot,if_pos mem_cons_self,hself,hothers,hacts]
        rfl
      · rw [hkept r' hne]
        by_cases hmem : r'∈owners.map Prod.fst
        · rw [if_pos hmem,if_pos (mem_cons_of_mem _ hmem)]
        · rw [if_neg hmem,if_neg fun h => (mem_cons.mp h).elim hne hmem]
    · have hobjects : (s.setChannel r c o).objects.notified=s.objects.notified++[⟨activity,.none,.mustStop⟩] := htold
      rw [hobjects,append_assoc] at hnotified
      refine ⟨_,hnotified,fun r' hr' front hfront => ?_⟩
      by_cases hne : r'=r
      · subst hne
        rw [hacts] at hfront
        cases hfront
        exact mem_append_left _ mem_cons_self
      · have hmem : r'∈owners.map Prod.fst := (mem_cons.mp hr').resolve_left hne
        refine mem_append_right _ (htelling r' hmem front ?_)
        rw [hkept r' hne]
        exact hfront

/-- Whatever happened before, stopping all activities stops them all exactly if no channel holds two activities. -/
theorem stopAllActivities_iff (contentType : α → ContentType) {events : List (Event S)}
    (run : Run Step (Manager.init contentType) events s) {owners : List (S.table.Ref × String)}
    (hcapture : owners.Perm s.captureOwners) :
    StoppedAll s (s.stopAllActivitiesHelper owners) ↔ ∀ r,(s.channels r).activities.length≤1 := by
  have hsettled : Settled s := run.invariant Settled (settled_init contentType) fun _ _ _ h hstep => settled_step h hstep
  have hlaw := hsettled.law
  have hlaw' := (settled_stopAllActivitiesHelper hsettled owners).law
  obtain ⟨hperm,hfronts⟩ := captured_spec hlaw hcapture
  have hdistinct : s.activeChannels.Nodup := List.Pairwise.imp
    (fun {_ _} hlt heq => ne_of_lt hlt (congrArg S.table.priority heq)) hlaw.sorted
  have hnodup : (owners.map Prod.fst).Nodup := hperm.nodup_iff.mpr hdistinct
  have hmem : ∀ r,r∈owners.map Prod.fst ↔ (s.channels r).activities≠[] := fun r =>
    hperm.mem_iff.trans (hlaw.active r)
  obtain ⟨hchannels,told,hnotified,htelling⟩ := releaseOwners_spec hnodup hfronts
  -- the rest of the task moves no activity
  have hquiet : Quiet (s.releaseOwners owners) (s.stopAllActivitiesHelper owners) :=
    ((quiet_clearChannels _ _).trans (quiet_foregroundHighest _)).trans
      (quiet_refocused (refocused_notifyActivityTracker _))
  have htails : ∀ r,((s.stopAllActivitiesHelper owners).channels r).activities=(s.channels r).activities.tail := by
    intro r
    rw [hquiet.activities,hchannels]
    by_cases hr : r∈owners.map Prod.fst
    · rw [if_pos hr]
    · have hnil : (s.channels r).activities=[] := not_not.mp fun hne => hr ((hmem r).mpr hne)
      rw [if_neg hr,hnil]
      rfl
  constructor
  · intro h r
    have hempty := h.removed r
    rw [htails] at hempty
    have hlength := congrArg List.length hempty
    rw [length_tail] at hlength
    exact Nat.sub_eq_zero_iff_le.mp hlength
  · intro hsingle
    have hempty : ∀ r,((s.stopAllActivitiesHelper owners).channels r).activities=[] := by
      intro r
      rw [htails,←length_eq_zero_iff,length_tail]
      exact Nat.sub_eq_zero_iff_le.mpr (hsingle r)
    refine ⟨?_,hempty,?_⟩
    · cases hactive : (s.stopAllActivitiesHelper owners).activeChannels with
      | nil => rfl
      | cons r => exact absurd (hempty r) ((hlaw'.active r).mp (hactive ▸ mem_cons_self))
    · obtain ⟨later,hlater⟩ := hquiet.told
      refine ⟨told++later,by rw [hlater,hnotified,append_assoc],fun r activity hactivity => ?_⟩
      have hne : (s.channels r).activities≠[] := ne_nil_of_mem hactivity
      refine mem_append_left _ (htelling r ((hmem r).mpr hne) activity ?_)
      have hlength := hsingle r
      cases hacts : (s.channels r).activities with
      | nil => exact absurd hacts hne
      | cons front others =>
        rw [hacts] at hactivity hlength
        have hnone : others=[] := by
          rw [length_cons] at hlength
          exact length_eq_zero_iff.mp (Nat.le_zero.mp (Nat.le_of_succ_le_succ hlength))
        rw [hnone] at hactivity
        exact congrArg some (mem_singleton.mp hactivity).symm

/-- The player and Bluetooth on the content channel. -/
def contentOnly : Setting (Fin 4) where
  table := .ofConfigurations [("Content",300)] []
  interruptModel := none
  activityTracker := false
  activity := turns

/-- The player alone is stopped. -/
theorem stopAllActivities_player : ∃ s : Manager contentOnly,Run Step (Manager.init fun _ => .mixable)
        [.acquireChannel "Content" 0,.runTask] s ∧
      (StoppedAll s (s.stopAllActivitiesHelper s.captureOwners) ↔ ∀ r,(s.channels r).activities.length≤1) ∧
      s.captureOwners.length=1 := by
  have hrun : Run Step (Manager.init fun _ => .mixable : Manager contentOnly) _ _ :=
    (Run.refl.snoc (.acquireChannel "Content" 0)).snoc (.runTask rfl)
  exact ⟨_,hrun,stopAllActivities_iff _ hrun (List.Perm.refl _),by decide⟩

/-- A patient player gets the foreground when all are stopped. -/
theorem stopAllActivities_foregrounds_waiting : ∃ s : Manager contentOnly,Run Step (Manager.init fun _ => .mixable)
        [.acquireChannel "Content" 0,.runTask,.acquireChannel "Content" 1,.runTask] s ∧
      (s.stopAllActivitiesHelper s.captureOwners).activeChannels≠[] ∧
      (s.stopAllActivitiesHelper s.captureOwners).objects.notified.getLast?=some ⟨0,.foreground,.primary⟩ ∧
      ¬StoppedAll s (s.stopAllActivitiesHelper s.captureOwners) := by
  have hrun : Run Step (Manager.init fun _ => .mixable : Manager contentOnly) _ _ :=
    (((Run.refl.snoc (.acquireChannel "Content" 0)).snoc (.runTask rfl)).snoc (.acquireChannel "Content" 1)).snoc
      (.runTask rfl)
  refine ⟨_,hrun,by decide,by decide,fun h => ?_⟩
  have hinactive := h.inactive
  revert hinactive
  decide +kernel

end AlexaClientSDK.StopAllActivities
