import Mathlib.Data.List.Nodup
import AlexaClientSDK.LabelledRuns
import AlexaClientSDK.FocusChannel

/-!
# Patience

An activity with patience lets the one before it linger on the channel while a timer runs. At most two activities are
there then, the initiator of the timer and its receiver, until one replaces another of its own interface while the timer
runs: the timer stops with the initiator, and nothing is left to release the receiver.
-/

namespace AlexaClientSDK.PatienceQueue

open List LabelledRuns FocusChannel

variable {α : Type}

/-- The members of a channel that patience is about. -/
structure Queue (α : Type) where
  activities : List α
  patienceTimer : Option α
  patienceInitiator : Option α
  patienceReceiver : Option α

open Queue

def queue (c : Channel α) : Queue α :=
  ⟨c.activities,c.patienceTimer,c.patienceInitiator,c.patienceReceiver⟩

@[simp]
theorem queue_updateChannelInterface (A : α → Activity) (c : Channel α) :
    queue (c.updateChannelInterface A)=queue c := by
  unfold Channel.updateChannelInterface
  split <;> rfl

@[simp]
theorem queue_addToChannelUpdates (config : ChannelConfiguration) (c : Channel α)
    (interfaceName : String) (focus : FocusState) :
    queue (c.addToChannelUpdates config interfaceName focus)=queue c := by
  unfold Channel.addToChannelUpdates
  split
  · rfl
  · split <;> rfl

/-- At most two, of different interfaces, and two while a timer runs. -/
structure PatienceLaw (A : α → Activity) (q : Queue α) : Prop where
  atMostTwo : q.activities.length≤2
  names : (q.activities.map fun activity => (A activity).interface).Nodup
  waiting : ∀ first second,q.activities=[first,second] →
    q.patienceTimer=some second ∧ q.patienceInitiator=some first ∧ q.patienceReceiver=some second

/-- The queues that a channel goes through as long as the law holds. -/
inductive Shape (A : α → Activity) : Queue α → Prop
  | empty : Shape A ⟨[],none,none,none⟩
  | single (activity : α) : Shape A ⟨[activity],none,none,none⟩
  | waiting {first second : α} (different : (A first).interface≠(A second).interface) :
      Shape A ⟨[first,second],some second,some first,some second⟩

variable {A : α → Activity}

theorem Shape.law {q : Queue α} (h : Shape A q) : PatienceLaw A q := by
  cases h with
  | empty | single => exact ⟨by simp,by simp,by simp⟩
  | waiting different =>
    refine ⟨by simp,by simpa using different,fun first second heq => ?_⟩
    obtain ⟨rfl,rfl⟩ : _=first ∧ _=second := by simpa using heq
    exact ⟨rfl,rfl,rfl⟩

variable {first second activity : α}

theorem ne_of_interface (h : (A first).interface≠(A second).interface) :
    first≠second :=
  fun heq => h (congrArg (fun activity => (A activity).interface) heq)

variable [DecidableEq α]

section

variable (q : Queue α)

/-- An activity leaves, and takes a timer with it that runs on its behalf. -/
def Queue.remove (activity : α) : Queue α :=
  if q.patienceTimer.isSome ∧ (q.patienceInitiator=some activity ∨ q.patienceReceiver=some activity) then
    ⟨q.activities.erase activity,none,none,none⟩
  else {q with activities := q.activities.erase activity}

/-- The same for an activity that may be absent. -/
def Queue.release : Option α → Queue α
  | none => q
  | some activity => if activity∈q.activities then q.remove activity else q

/-- A timer stops before the next one starts, and its receiver is released. -/
def Queue.endPatience : Queue α :=
  if q.patienceTimer.isSome then
    {{q with patienceTimer := none}.release q.patienceReceiver with patienceReceiver := none}
  else q

/-- Without patience for the next one both go. -/
def Queue.replace (current : α) : Queue α :=
  match q.patienceInitiator with
  | none => q.release (some current)
  | some initiator => release {q.release (some initiator) with patienceInitiator := none} (some current)

end

/-- The policy of a channel, as it moves the queue. -/
def Queue.processPolicy (A : α → Activity) (q : Queue α) (incoming current : α) : Queue α :=
  if (A incoming).interface=(A current).interface then q.release (some current)
  else if 0<(A incoming).patienceDuration then
    ⟨q.endPatience.activities,some current,some incoming,some current⟩
  else q.endPatience.replace current

/-- A new activity in front. -/
def Queue.setPrimary (A : α → Activity) (q : Queue α) (activity : α) : Queue α :=
  match q.activities with
  | [] => {q with activities := [activity]}
  | current::_ =>
    {q.processPolicy A activity current with
      activities := activity::(q.processPolicy A activity current).activities}

section

variable (A : α → Activity) (config : ChannelConfiguration) (c : Channel α) (o : Objects α)

theorem queue_setFocus (focus : FocusState) (behavior : MixingBehavior) (forceUpdate : Bool) :
    queue (c.setFocus config o focus behavior forceUpdate).2.1=queue c := by
  unfold Channel.setFocus
  dsimp only
  split
  · rfl
  · rw [queue_addToChannelUpdates]
    rfl

theorem queue_removeActivityHelper (activity : α) :
    queue (c.removeActivityHelper A config o activity).1=(queue c).remove activity := by
  have herase : ∀ d : Channel α,queue {d with activities := d.activities.erase activity} =
      {queue d with activities := (queue d).activities.erase activity} := fun _ => rfl
  have hstop : queue {c.stopPatienceFor activity with
      activities := (c.stopPatienceFor activity).activities.erase activity} =
      (queue c).remove activity := by
    unfold Channel.stopPatienceFor remove
    by_cases hstop : c.patienceTimer.isSome ∧ (c.patienceInitiator=some activity ∨ c.patienceReceiver=some activity)
    · have hstop' : (queue c).patienceTimer.isSome ∧ ((queue c).patienceInitiator=some activity ∨
          (queue c).patienceReceiver=some activity) := hstop
      rw [if_pos hstop,if_pos hstop']
      rfl
    · have hstop' : ¬((queue c).patienceTimer.isSome ∧ ((queue c).patienceInitiator=some activity ∨
          (queue c).patienceReceiver=some activity)) := hstop
      rw [if_neg hstop,if_neg hstop']
      rfl
  unfold Channel.removeActivityHelper
  rw [queue_updateChannelInterface,←hstop,herase,herase]
  split
  · rfl
  · rw [queue_addToChannelUpdates]

theorem queue_releaseActivityLocked (activity : Option α) :
    queue (c.releaseActivityLocked A config o activity).2.1=(queue c).release activity := by
  cases activity with
  | none => rfl
  | some activity =>
    unfold Channel.releaseActivityLocked release
    by_cases hmem : activity∈c.activities
    · have hmem' : activity∈(queue c).activities := hmem
      simp only [if_pos hmem,if_pos hmem']
      exact queue_removeActivityHelper A config c o activity
    · have hmem' : activity∉(queue c).activities := hmem
      simp only [if_neg hmem,if_neg hmem']

theorem queue_releaseFirst (fits : α → Bool) :
    queue (c.releaseFirst A config o fits).2.1=(queue c).release (c.activities.find? fits) := by
  unfold Channel.releaseFirst
  cases hfind : c.activities.find? fits with
  | none => rfl
  | some activity =>
    have hmem : activity∈(queue c).activities := mem_of_find?_eq_some hfind
    dsimp only [release]
    rw [queue_addToChannelUpdates,queue_removeActivityHelper,if_pos hmem]

theorem queue_endPatience : queue (c.endPatience A config o).1=(queue c).endPatience := by
  unfold Channel.endPatience endPatience
  by_cases hrun : c.patienceTimer.isSome=true
  · have hrun' : (queue c).patienceTimer.isSome=true := hrun
    have hrelease := queue_releaseActivityLocked A config {c with patienceTimer := none} o c.patienceReceiver
    rw [if_pos hrun,if_pos hrun']
    have hreceiver : ∀ d : Channel α,queue {d with patienceReceiver := none} =
        {queue d with patienceReceiver := none} := fun _ => rfl
    rw [hreceiver,hrelease]
    rfl
  · have hrun' : ¬(queue c).patienceTimer.isSome=true := hrun
    rw [if_neg hrun,if_neg hrun']

theorem queue_processPolicy (incoming current : α) : queue (c.processPolicy A config o incoming current).1 =
      (queue c).processPolicy A incoming current := by
  unfold Channel.processPolicy Queue.processPolicy
  by_cases hsame : (A incoming).interface=(A current).interface
  · rw [if_pos hsame,if_pos hsame]
    exact queue_releaseActivityLocked A config c o (some current)
  rw [if_neg hsame,if_neg hsame]
  have hend := queue_endPatience A config c o
  generalize c.endPatience A config o=ended at hend
  obtain ⟨d,o'⟩ := ended
  dsimp only at hend ⊢
  rw [←hend]
  by_cases hpatience : 0<(A incoming).patienceDuration
  · rw [if_pos hpatience,if_pos hpatience]
    have hupdates := queue_addToChannelUpdates config d (A current).interface .none
    have hacts : (d.addToChannelUpdates config (A current).interface .none).activities =
        d.activities := congrArg Queue.activities hupdates
    dsimp only [queue]
    rw [hacts]
  rw [if_neg hpatience,if_neg hpatience]
  have hinitiator : ∀ d : Channel α,queue {d with patienceInitiator := none} =
      {queue d with patienceInitiator := none} := fun _ => rfl
  have hcurrent : (queue d).patienceInitiator=d.patienceInitiator := rfl
  unfold Queue.replace
  rw [hcurrent]
  cases d.patienceInitiator with
  | none => exact queue_releaseActivityLocked A config d o' (some current)
  | some =>
    rw [queue_releaseActivityLocked,hinitiator,queue_releaseActivityLocked]

theorem queue_setPrimaryActivity (activity : α) :
    queue (c.setPrimaryActivity A config o activity).1=(queue c).setPrimary A activity := by
  have hfront : ∀ d : Channel α,queue {d with activities := activity::d.activities} =
      {queue d with activities := activity::(queue d).activities} := fun _ => rfl
  unfold Channel.setPrimaryActivity setPrimary
  rw [queue_updateChannelInterface,hfront]
  dsimp only [queue]
  cases hacts : c.activities with
  | nil =>
    rw [hacts]
  | cons current =>
    dsimp only
    have hpolicy := queue_processPolicy A config c o activity current
    unfold queue at hpolicy
    rw [hacts] at hpolicy
    rw [←hpolicy]

theorem queue_patienceTimerCallback (activity : α) : queue (c.patienceTimerCallback A config o activity).1 =
      {(queue c).release (some activity) with patienceTimer := none} := by
  have htimer : ∀ d : Channel α,queue {d with patienceTimer := none} =
      {queue d with patienceTimer := none} := fun _ => rfl
  unfold Channel.patienceTimerCallback
  rw [htimer,queue_releaseActivityLocked]

end

/-- The calls of a channel and the expiry of its timer. -/
inductive Event (α : Type)
  | setPrimaryActivity (activity : α)
  | setFocus (focus : FocusState) (behavior : MixingBehavior) (forceUpdate : Bool)
  | releaseActivityOf (observer : Option ℕ)
  | releaseActivity (interfaceName : String)
  | patienceExpiry

/-- The steps of a channel; a timer expires while it is active. -/
inductive Step (A : α → Activity) (config : ChannelConfiguration) :
    Channel α × Objects α → Event α → Channel α × Objects α → Prop
  | setPrimaryActivity {c : Channel α} {o : Objects α} (activity : α) :
      Step A config (c,o) (.setPrimaryActivity activity) (c.setPrimaryActivity A config o activity)
  | setFocus {c : Channel α} {o : Objects α} (focus : FocusState) (behavior : MixingBehavior) (forceUpdate : Bool) :
      Step A config (c,o) (.setFocus focus behavior forceUpdate) (c.setFocus config o focus behavior forceUpdate).2
  | releaseActivityOf {c : Channel α} {o : Objects α} (observer : Option ℕ) :
      Step A config (c,o) (.releaseActivityOf observer) (c.releaseActivityOf A config o observer).2
  | releaseActivity {c : Channel α} {o : Objects α} (interfaceName : String) :
      Step A config (c,o) (.releaseActivity interfaceName) (c.releaseActivity A config o interfaceName).2
  | patienceExpiry {c : Channel α} {o : Objects α} {receiver : α} (active : c.patienceTimer=some receiver) :
      Step A config (c,o) .patienceExpiry (c.patienceTimerCallback A config o receiver)

/-- No activity replaces one of its own interface while the timer runs. -/
def PatientCall (A : α → Activity) (s : Channel α × Objects α) : Event α → Prop
  | .setPrimaryActivity activity => s.1.patienceTimer.isSome → ∀ current,
      s.1.getPrimaryActivity=some current → (A activity).interface≠(A current).interface
  | _ => True

variable {A : α → Activity} {q : Queue α}

theorem Shape.release (h : Shape A q) (activity : Option α) : Shape A (q.release activity) := by
  cases activity with
  | none => exact h
  | some activity =>
    unfold Queue.release
    by_cases hmem : activity∈q.activities
    · simp only [if_pos hmem]
      unfold Queue.remove
      cases h with
      | empty => exact absurd hmem not_mem_nil
      | single current =>
        obtain rfl : activity=current := mem_singleton.mp hmem
        simpa using Shape.empty
      | @waiting first second different =>
        have hne := ne_of_interface different
        rcases mem_pair.mp hmem with rfl|rfl
        · simpa using Shape.single second
        · simpa [hne,erase_cons_tail] using Shape.single first
    · simp only [if_neg hmem]
      exact h

theorem Shape.setPrimary (h : Shape A q) (hcall : q.patienceTimer.isSome → ∀ current,q.activities.head?=some current →
      (A activity).interface≠(A current).interface) : Shape A (q.setPrimary A activity) := by
  cases h with
  | empty => exact .single activity
  | single current =>
    unfold Queue.setPrimary Queue.processPolicy
    by_cases hsame : (A activity).interface=(A current).interface
    · simpa [hsame,Queue.release,Queue.remove] using Shape.single activity
    by_cases hpatience : 0<(A activity).patienceDuration
    · simpa [hsame,hpatience,Queue.endPatience] using Shape.waiting hsame
    · simpa [hsame,hpatience,Queue.endPatience,Queue.replace,Queue.release,Queue.remove] using Shape.single activity
  | @waiting first second different =>
    have hdiff : (A activity).interface≠(A first).interface := hcall rfl first rfl
    have hne : first≠second := ne_of_interface different
    -- the activity that waited goes, the one that started the timer is left
    have hend : (Queue.endPatience ⟨[first,second],some second,some first,some second⟩) =
        ⟨[first],none,some first,none⟩ := by
      simp [Queue.endPatience,Queue.release,Queue.remove,hne,erase_cons_tail]
    unfold Queue.setPrimary Queue.processPolicy
    simp only [if_neg hdiff,hend]
    by_cases hpatience : 0<(A activity).patienceDuration
    · simpa [hpatience] using Shape.waiting hdiff
    · simpa [hpatience,Queue.replace,Queue.release,Queue.remove] using Shape.single activity

theorem setPrimary_leaves (hsame : (A activity).interface=(A first).interface) :
    setPrimary A ⟨[first,second],some second,some first,some second⟩ activity = ⟨[activity,second],none,none,none⟩ := by
  simp [setPrimary,processPolicy,hsame,release,remove]

theorem Shape.expire (h : Shape A q) {receiver : α} (hrun : q.patienceTimer=some receiver) :
    Shape A {q.release (some receiver) with patienceTimer := none} := by
  cases h with
  | empty => cases hrun
  | single => cases hrun
  | @waiting first second different =>
    obtain rfl : second=receiver := Option.some.inj hrun
    have hne : first≠second := ne_of_interface different
    simpa [Queue.release,Queue.remove,hne,erase_cons_tail] using Shape.single first

variable {config : ChannelConfiguration} {s t : Channel α × Objects α} {e : Event α}

theorem shape_step (h : Shape A (queue s.1)) (hstep : Step A config s e t)
    (hcall : PatientCall A s e) : Shape A (queue t.1) := by
  cases hstep with
  | setPrimaryActivity =>
    rw [queue_setPrimaryActivity]
    exact h.setPrimary hcall
  | setFocus =>
    rw [queue_setFocus]
    exact h
  | @releaseActivityOf c o observer =>
    cases observer with
    | none => exact h
    | some observer =>
      have hqueue := queue_releaseFirst A config c o fun activity =>
        (A activity).channelObserver=observer
      unfold Channel.releaseActivityOf
      rw [hqueue]
      exact h.release _
  | releaseActivity =>
    unfold Channel.releaseActivity
    rw [queue_releaseFirst]
    exact h.release _
  | patienceExpiry active =>
    rw [queue_patienceTimerCallback]
    exact h.expire active

theorem law_step_iff (h : Shape A (queue s.1)) (hstep : Step A config s e t) :
    PatienceLaw A (queue t.1) ↔ PatientCall A s e := by
  refine ⟨fun hlaw => ?_,fun hcall => (shape_step h hstep hcall).law⟩
  cases hstep with
  | @setPrimaryActivity c o activity =>
    intro hrun current hfirst hsame
    rw [queue_setPrimaryActivity] at hlaw
    have hrun' : (queue c).patienceTimer.isSome := hrun
    have hfirst' : (queue c).activities.head?=some current := hfirst
    generalize queue c=q at h hlaw hrun' hfirst'
    cases h with
    | empty => cases hrun'
    | single => cases hrun'
    | waiting =>
      obtain rfl := Option.some.inj hfirst'
      rw [setPrimary_leaves hsame] at hlaw
      have htimer := (hlaw.waiting _ _ rfl).1
      cases htimer
  | setFocus => trivial
  | releaseActivityOf => trivial
  | releaseActivity => trivial
  | patienceExpiry => trivial

/-- The runs of a new channel in which the law holds in every state are the runs
in which no activity replaces one of its own interface while the timer runs. -/
theorem patience_kept_iff (A : α → Activity) (config : ChannelConfiguration) (o : Objects α)
    (calls : List (Event α)) (s : Channel α × Objects α) :
    Run (Keeping (Step A config) fun t => PatienceLaw A (queue t.1)) (.init,o) calls s ↔
      Run (Guarded (Step A config) (PatientCall A)) (.init,o) calls s :=
  Run.keeping_iff (fun s => Shape A (queue s.1)) .empty
    (fun _ _ _ h hstep hcall => shape_step h hstep hcall) fun _ _ _ h hstep => law_step_iff h hstep

theorem audioPlayer_ne : "AudioPlayer" ≠ "" := by decide

theorem bluetooth_ne : "Bluetooth" ≠ "" := by decide

/-- The player and Bluetooth take turns, one activity of each with patience. -/
def turns : Fin 4 → Activity
  | 0 => ⟨"AudioPlayer",0,1,audioPlayer_ne⟩
  | 1 => ⟨"Bluetooth",5000,2,bluetooth_ne⟩
  | 2 => ⟨"Bluetooth",0,2,bluetooth_ne⟩
  | 3 => ⟨"AudioPlayer",5000,1,audioPlayer_ne⟩

def content : ChannelConfiguration := ⟨"Content",300,false⟩

/-- Bluetooth leaves the player without a timer, to join as a third. -/
theorem receiver_outlives_its_timer : ∃ s t : Channel (Fin 4) × Objects (Fin 4),
      Run (Step turns content) (.init,⟨fun _ => .mixable,fun _ => .undefined,[]⟩)
        [.setPrimaryActivity 0,.setPrimaryActivity 1,.setPrimaryActivity 2] s ∧
      s.1.activities=[2,0] ∧ s.1.patienceTimer=none ∧ ¬PatienceLaw turns (queue s.1) ∧
      Run (Step turns content) (.init,⟨fun _ => .mixable,fun _ => .undefined,[]⟩)
        [.setPrimaryActivity 0,.setPrimaryActivity 1,.setPrimaryActivity 2,.setPrimaryActivity 3] t ∧
      t.1.activities=[3,2,0] ∧ (turns 3).interface=(turns 0).interface := by
  have hrun : Run (Step turns content) (.init,⟨fun _ => .mixable,fun _ => .undefined,[]⟩) _ _ :=
    ((Run.refl.snoc (.setPrimaryActivity 0)).snoc (.setPrimaryActivity 1)).snoc (.setPrimaryActivity 2)
  refine ⟨_,_,hrun,by decide,by decide,fun hlaw => ?_,hrun.snoc (.setPrimaryActivity 3),by decide,rfl⟩
  have htimer := (hlaw.waiting 2 0 (by decide)).1
  revert htimer
  decide +kernel

end AlexaClientSDK.PatienceQueue
