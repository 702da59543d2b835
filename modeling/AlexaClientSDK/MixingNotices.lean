import AlexaClientSDK.FocusInvariant
import AlexaClientSDK.PatienceQueue

/-!
# What activities are told

A channel tells its own activities a focus and a mixing behaviour, and nobody else. The behaviour an activity was last
told is the one it remembers, which for the primary activity is the one meant for it, up to the override.
-/

namespace AlexaClientSDK.MixingNotices

open Function Option List FocusChannel PatienceQueue Queue

variable {α : Type} [DecidableEq α]

/-- What its observer was last given; `UNDEFINED` before that. -/
def lastGiven (o : Objects α) (activity : α) : MixingBehavior :=
  match o.notified.reverse.find? fun notification => notification.activity=activity with
  | none => .undefined
  | some notification => notification.behavior

/-- The expected behaviour, or a pause that `notifyObserver` keeps up. -/
def Agrees (given expected : MixingBehavior) : Prop :=
  given=expected ∨ (given=.mustPause ∧ expected=.mayDuck)

instance (given expected : MixingBehavior) : Decidable (Agrees given expected) :=
  inferInstanceAs (Decidable (given=expected ∨ (given=.mustPause ∧ expected=.mayDuck)))

def Remembered (o : Objects α) : Prop := ∀ activity,o.mixingBehavior activity=lastGiven o activity

theorem lastGiven_notifyObserver (o : Objects α) (told : α) (focus : FocusState)
    (behavior : MixingBehavior) (activity : α) : lastGiven (o.notifyObserver told focus behavior) activity =
      if told=activity then (o.notifyObserver told focus behavior).mixingBehavior told else lastGiven o activity := by
  unfold lastGiven Objects.notifyObserver
  dsimp only
  rw [reverse_append,reverse_singleton,singleton_append,List.find?_cons,update_self]
  by_cases heq : told=activity
  · rw [if_pos heq,decide_eq_true heq]
  · rw [if_neg heq,decide_eq_false heq]

inductive Told (l : List α) (o : Objects α) : Objects α → Prop
  | refl : Told l o o
  | snoc {o' : Objects α} (told : Told l o o') {activity : α} (mem : activity∈l)
      (focus : FocusState) (behavior : MixingBehavior) :
      Told l o (o'.notifyObserver activity focus behavior)

variable {l l' : List α} {o o' o'' : Objects α} {activity : α}

theorem Told.single (mem : activity∈l) (focus : FocusState)
    (behavior : MixingBehavior) : Told l o (o.notifyObserver activity focus behavior) :=
  Told.refl.snoc mem focus behavior

section

variable (h : Told l o o')
include h

theorem Told.trans (h' : Told l o' o'') : Told l o o'' := by
  induction h' with
  | refl => exact h
  | snoc _ mem focus behavior ih => exact ih.snoc mem focus behavior

theorem Told.mono (hsub : ∀ activity∈l,activity∈l') : Told l' o o' := by
  induction h with
  | refl => exact .refl
  | snoc _ mem focus behavior ih => exact ih.snoc (hsub _ mem) focus behavior

theorem Told.contentType : o'.contentType=o.contentType := by
  induction h with
  | refl => rfl
  | snoc _ _ _ _ ih => exact ih

theorem Told.other (hnot : activity∉l) : o'.mixingBehavior activity=o.mixingBehavior activity := by
  induction h with
  | refl => rfl
  | snoc _ mem focus behavior ih =>
    have hne : activity≠_ := fun heq => hnot (heq ▸ mem)
    exact (update_of_ne hne _ _).trans ih

theorem Told.lastGiven_other (hnot : activity∉l) : lastGiven o' activity=lastGiven o activity := by
  induction h with
  | refl => rfl
  | @snoc o' _ told mem focus behavior ih =>
    have hne : told≠activity := fun heq => hnot (heq ▸ mem)
    rw [lastGiven_notifyObserver,if_neg hne,ih]

theorem Told.remembered (hr : Remembered o) : Remembered o' := by
  induction h with
  | refl => exact hr
  | @snoc o' _ told _ focus behavior ih =>
    intro activity
    rw [lastGiven_notifyObserver]
    by_cases heq : told=activity
    · rw [if_pos heq,heq]
    · rw [if_neg heq,←ih activity]
      exact update_of_ne (Ne.symm heq) _ _

end

theorem told_notifyActivities (o : Objects α) (activities : List α) (behavior : MixingBehavior)
    (focus : FocusState) : Told activities o (notifyActivities o activities behavior focus) := by
  have hothers : ∀ (others : List α) (o : Objects α),(∀ other∈others,other∈activities) → Told activities o
        (others.foldl (fun o other => o.notifyObserver other .background .mustPause) o) := by
    intro others
    induction others with
    | nil => exact fun _ _ => .refl
    | cons other others ih =>
      intro o hsub
      have hfirst : Told activities o (o.notifyObserver other .background .mustPause) :=
        .single (hsub other mem_cons_self) _ _
      exact hfirst.trans (ih _ fun x hx => hsub x (mem_cons_of_mem _ hx))
  cases activities with
  | nil => exact .refl
  | cons activity others =>
    have hfirst : Told (activity::others) o (o.notifyObserver activity focus behavior) :=
      .single mem_cons_self _ _
    exact hfirst.trans (hothers others _ fun x hx => mem_cons_of_mem _ hx)

/-- The activity in front gets its behaviour, if it is told once. -/
theorem notifyActivities_agrees (o : Objects α) {others : List α}
    (hnot : activity∉others) (behavior : MixingBehavior) (focus : FocusState) :
    Agrees ((notifyActivities o (activity::others) behavior focus).mixingBehavior activity) behavior := by
  have hothers : ∀ (o : Objects α),(others.foldl (fun o other =>
      o.notifyObserver other .background .mustPause) o).mixingBehavior activity = o.mixingBehavior activity := by
    induction others with
    | nil => exact fun _ => rfl
    | cons other others ih =>
      intro o
      rw [mem_cons,not_or] at hnot
      rw [foldl_cons,ih hnot.2]
      exact update_of_ne hnot.1 _ _
  unfold notifyActivities
  rw [hothers]
  unfold Objects.notifyObserver
  dsimp only
  rw [update_self]
  by_cases hkeep : o.mixingBehavior activity=.mustPause ∧ behavior=.mayDuck
  · rw [if_pos hkeep]
    exact .inr ⟨rfl,hkeep.2⟩
  · rw [if_neg hkeep]
    exact .inl rfl

variable (A : α → Activity) (config : ChannelConfiguration) (c : Channel α) (o : Objects α)

theorem told_setFocus (focus : FocusState) (behavior : MixingBehavior) (forceUpdate : Bool) :
    Told c.activities o (c.setFocus config o focus behavior forceUpdate).2.2 := by
  unfold Channel.setFocus
  dsimp only
  split
  · exact .refl
  · have hacts : (({c with focusState := focus} : Channel α).addToChannelUpdates config
        c.interfaceName focus).activities=c.activities :=
      congrArg activities (queue_addToChannelUpdates config {c with focusState := focus} _ _)
    rw [hacts]
    exact told_notifyActivities o c.activities behavior focus

theorem setFocus_agrees (hnodup : c.activities.Nodup) {primary : α}
    (hprimary : c.getPrimaryActivity=some primary) (focus : FocusState)
    (behavior : MixingBehavior) (forceUpdate : Bool) :
    Agrees ((c.setFocus config o focus behavior forceUpdate).2.2.mixingBehavior primary) behavior := by
  unfold Channel.setFocus
  dsimp only
  split
  · next hskip =>
    have hsame : c.mixingBehaviorChanged o behavior=false := by
      simp only [Bool.and_eq_true,Bool.not_eq_true'] at hskip
      exact hskip.2
    unfold Channel.mixingBehaviorChanged at hsame
    rw [hprimary] at hsame
    exact .inl (by simpa using hsame)
  · have hacts : (({c with focusState := focus} : Channel α).addToChannelUpdates config
        c.interfaceName focus).activities=c.activities :=
      congrArg activities (queue_addToChannelUpdates config {c with focusState := focus} _ _)
    rw [hacts]
    obtain ⟨others,hcons⟩ := List.head?_eq_some_iff.mp hprimary
    rw [hcons] at hnodup ⊢
    exact notifyActivities_agrees o (nodup_cons.mp hnodup).1 behavior focus

section

variable (activity : Option α)

/-- Who is told when an activity is released: that activity, if it is there. -/
def released : List α := c.activities.filter fun other => some other=activity

theorem told_releaseActivityLocked :
    Told (released c activity) o (c.releaseActivityLocked A config o activity).2.2 := by
  cases activity with
  | none => exact .refl
  | some activity =>
    unfold Channel.releaseActivityLocked
    by_cases hmem : activity∈c.activities
    · simp only [if_pos hmem]
      exact .single (mem_filter.mpr ⟨hmem,decide_eq_true rfl⟩) _ _
    · simp only [if_neg hmem]
      exact .refl

theorem told_releaseActivityLocked' : Told c.activities o (c.releaseActivityLocked A config o activity).2.2 :=
  (told_releaseActivityLocked A config c o activity).mono fun _ hmem => (mem_filter.mp hmem).1

end

theorem told_releaseFirst (fits : α → Bool) : Told c.activities o (c.releaseFirst A config o fits).2.2 := by
  unfold Channel.releaseFirst
  cases hfind : c.activities.find? fits with
  | none => exact .refl
  | some => exact .single (mem_of_find?_eq_some hfind) _ _

theorem mem_of_mem_released {activity : Option α} {other : α}
    (hmem : other∈(c.releaseActivityLocked A config o activity).2.1.activities) : other∈c.activities :=
  (FocusInvariant.released_releaseActivityLocked A config c o activity).fewer other hmem

theorem told_endPatience : Told c.activities o (c.endPatience A config o).2 ∧
      ∀ other∈(c.endPatience A config o).1.activities,other∈c.activities := by
  unfold Channel.endPatience
  by_cases hrun : c.patienceTimer.isSome=true
  · rw [if_pos hrun]
    exact ⟨told_releaseActivityLocked' A config {c with patienceTimer := none} o _,
      fun _ hmem => mem_of_mem_released A config {c with patienceTimer := none} o hmem⟩
  · rw [if_neg hrun]
    exact ⟨.refl,fun _ hmem => hmem⟩

theorem told_processPolicy (incoming current : α) :
    Told c.activities o (c.processPolicy A config o incoming current).2 := by
  unfold Channel.processPolicy
  by_cases hsame : (A incoming).interface=(A current).interface
  · rw [if_pos hsame]
    exact told_releaseActivityLocked' A config c o (some current)
  rw [if_neg hsame]
  obtain ⟨hended,hfewer⟩ := told_endPatience A config c o
  generalize c.endPatience A config o=ended at hended hfewer
  obtain ⟨d,o'⟩ := ended
  dsimp only at hended hfewer ⊢
  by_cases hpatience : 0<(A incoming).patienceDuration
  · rw [if_pos hpatience]
    exact hended
  rw [if_neg hpatience]
  cases d.patienceInitiator with
  | none => exact hended.trans ((told_releaseActivityLocked' A config d o' (some current)).mono hfewer)
  | some initiator =>
    have hinitiator := told_releaseActivityLocked' A config d o' (some initiator)
    have hcurrent := told_releaseActivityLocked' A config
      {(d.releaseActivityLocked A config o' (some initiator)).2.1 with patienceInitiator := none}
      (d.releaseActivityLocked A config o' (some initiator)).2.2 (some current)
    exact (hended.trans (hinitiator.mono hfewer)).trans
      (hcurrent.mono fun _ hmem => hfewer _ (mem_of_mem_released A config d o' hmem))

/-- It is told nothing yet; those that were there may be released. -/
theorem told_setPrimaryActivity (activity : α) : Told c.activities o (c.setPrimaryActivity A config o activity).2 := by
  unfold Channel.setPrimaryActivity
  cases hacts : c.activities with
  | nil => exact .refl
  | cons current =>
    have hpolicy := told_processPolicy A config c o activity current
    rw [hacts] at hpolicy
    exact hpolicy

theorem told_patienceTimerCallback (activity : α) :
    Told (released c (some activity)) o (c.patienceTimerCallback A config o activity).2 :=
  told_releaseActivityLocked A config c o (some activity)

/-- No activity stands twice, and a timer is of the activity in front. -/
structure InStep (q : Queue α) : Prop where
  nodup : q.activities.Nodup
  front : ∀ receiver,q.patienceTimer=some receiver → ∃ initiator,
    q.activities.head?=some initiator ∧ initiator≠receiver ∧
      q.patienceInitiator=some initiator ∧ q.patienceReceiver=some receiver

variable {A config c o} {q : Queue α}

/-- The activity in front stays there when another one leaves. -/
theorem head_erase {l : List α} {first activity : α} (hfirst : l.head?=some first)
    (hne : first≠activity) : (l.erase activity).head?=some first := by
  obtain ⟨others,hcons⟩ := List.head?_eq_some_iff.mp hfirst
  rw [hcons,erase_cons_tail (by simpa using hne),List.head?_cons]

theorem release_sublist (q : Queue α) (activity : Option α) : (q.release activity).activities.Sublist q.activities := by
  cases activity with
  | none => exact List.Sublist.refl _
  | some =>
    unfold release remove
    dsimp only
    split
    · split <;> exact erase_sublist
    · exact List.Sublist.refl _

theorem release_timer {activity : Option α} (hnone : q.patienceTimer=none) :
    (q.release activity).patienceTimer=none := by
  cases activity with
  | none => exact hnone
  | some =>
    unfold release remove
    dsimp only
    split
    · split
      · rfl
      · exact hnone
    · exact hnone

theorem InStep.release (h : InStep q) (activity : Option α) : InStep (q.release activity) := by
  refine ⟨h.nodup.sublist (release_sublist q activity),?_⟩
  cases activity with
  | none => exact h.front
  | some activity =>
    unfold Queue.release Queue.remove
    dsimp only
    intro receiver
    split
    · split
      · exact nofun
      · next hother =>
        -- the timer runs on for others
        intro hrun
        obtain ⟨initiator,hfirst,hne,hinitiator,hreceiver⟩ := h.front receiver hrun
        have hstay : initiator≠activity := by
          rintro rfl
          exact hother ⟨isSome_of_mem hrun,.inl hinitiator⟩
        exact ⟨initiator,head_erase hfirst hstay,hne,hinitiator,hreceiver⟩
    · exact h.front receiver

theorem endPatience_timer (q : Queue α) : q.endPatience.patienceTimer=none := by
  unfold endPatience
  split
  · exact release_timer (q := {q with patienceTimer := none}) rfl
  · next hnone => exact not_isSome_iff_eq_none.mp hnone

theorem endPatience_sublist (q : Queue α) : q.endPatience.activities.Sublist q.activities := by
  unfold endPatience
  split
  · exact release_sublist {q with patienceTimer := none} q.patienceReceiver
  · exact List.Sublist.refl _

/-- A replacement leaves no timer and adds nothing. -/
theorem replace_quiet (hnone : q.patienceTimer=none) (current : α) : (q.replace current).patienceTimer=none ∧
      (q.replace current).activities.Sublist q.activities := by
  unfold Queue.replace
  cases q.patienceInitiator with
  | none => exact ⟨release_timer hnone,release_sublist q (some current)⟩
  | some initiator =>
    have hinitiator := release_sublist q (some initiator)
    have hcurrent := release_sublist
      {q.release (some initiator) with patienceInitiator := none} (some current)
    exact ⟨release_timer (q := {q.release (some initiator) with patienceInitiator := none})
      (release_timer hnone),hcurrent.trans hinitiator⟩

theorem processPolicy_quiet (h : InStep q) (incoming : α) {current : α} (hfirst : q.activities.head?=some current) :
    (q.processPolicy A incoming current).activities.Sublist q.activities ∧
      ∀ receiver,(q.processPolicy A incoming current).patienceTimer=some receiver →
        incoming≠receiver ∧ (q.processPolicy A incoming current).patienceInitiator=some incoming ∧
          (q.processPolicy A incoming current).patienceReceiver=some receiver := by
  unfold processPolicy
  by_cases hsame : (A incoming).interface=(A current).interface
  · rw [if_pos hsame]
    refine ⟨release_sublist q (some current),fun receiver hrun => ?_⟩
    -- the current activity is the initiator: the timer stops with it
    have hmem : current∈q.activities := mem_of_mem_head? hfirst
    unfold release remove at hrun
    dsimp only at hrun
    rw [if_pos hmem] at hrun
    by_cases hstop : q.patienceTimer.isSome ∧ (q.patienceInitiator=some current ∨ q.patienceReceiver=some current)
    · rw [if_pos hstop] at hrun
      cases hrun
    · rw [if_neg hstop] at hrun
      obtain ⟨initiator,hhead,_,hinitiator,_⟩ := h.front receiver hrun
      have heq : initiator=current := some.inj (hhead.symm.trans hfirst)
      exact absurd ⟨isSome_of_mem hrun,.inl (heq ▸ hinitiator)⟩ hstop
  rw [if_neg hsame]
  by_cases hpatience : 0<(A incoming).patienceDuration
  · rw [if_pos hpatience]
    refine ⟨endPatience_sublist q,fun receiver hrun => ?_⟩
    obtain rfl : current=receiver := some.inj hrun
    exact ⟨ne_of_interface hsame,rfl,rfl⟩
  · rw [if_neg hpatience]
    obtain ⟨htimer,hfewer⟩ := replace_quiet (endPatience_timer q) current
    refine ⟨hfewer.trans (endPatience_sublist q),fun receiver hrun => ?_⟩
    rw [htimer] at hrun
    cases hrun

/-- A new activity in front keeps the queue in step. -/
theorem InStep.setPrimary (h : InStep q) (hnew : activity∉q.activities) : InStep (q.setPrimary A activity) := by
  unfold Queue.setPrimary
  cases hacts : q.activities with
  | nil =>
    refine ⟨nodup_singleton _,fun receiver hrun => ?_⟩
    obtain ⟨initiator,hhead,_⟩ := h.front receiver hrun
    rw [hacts] at hhead
    cases hhead
  | cons current =>
    have hfirst : q.activities.head?=some current := by rw [hacts,List.head?_cons]
    obtain ⟨hfewer,hfront⟩ := processPolicy_quiet (A := A) h activity hfirst
    refine ⟨nodup_cons.mpr ⟨fun hmem => hnew (hfewer.subset hmem),h.nodup.sublist hfewer⟩,fun receiver hrun => ?_⟩
    obtain ⟨hne,hinitiator,hreceiver⟩ := hfront receiver hrun
    exact ⟨activity,List.head?_cons,hne,hinitiator,hreceiver⟩

theorem setPrimary_activities (h : InStep q) (activity : α) : (q.setPrimary A activity).activities.head?=some activity ∧
      ∀ other∈(q.setPrimary A activity).activities,other=activity ∨ other∈q.activities := by
  unfold setPrimary
  cases hacts : q.activities with
  | nil => exact ⟨rfl,fun other hmem => .inl (mem_singleton.mp hmem)⟩
  | cons current =>
    have hfirst : q.activities.head?=some current := by rw [hacts,List.head?_cons]
    obtain ⟨hfewer,_⟩ := processPolicy_quiet (A := A) h activity hfirst
    refine ⟨List.head?_cons,fun other hmem => ?_⟩
    rcases mem_cons.mp hmem with heq|hmem
    · exact .inl heq
    · exact .inr (hacts ▸ hfewer.subset hmem)

theorem InStep.expire (h : InStep q) {receiver : α} (hrun : q.patienceTimer=some receiver) :
    InStep {q.release (some receiver) with patienceTimer := none} ∧
      (q.release (some receiver)).activities.head?=q.activities.head? ∧ q.activities.head?≠some receiver := by
  obtain ⟨initiator,hfirst,hne,_⟩ := h.front receiver hrun
  refine ⟨⟨(h.release (some receiver)).nodup,nofun⟩,?_,?_⟩
  · unfold Queue.release Queue.remove
    dsimp only
    split
    · split <;> rw [head_erase hfirst hne,hfirst]
    · rfl
  · rw [hfirst]
    exact fun heq => hne (some.inj heq)

end AlexaClientSDK.MixingNotices
