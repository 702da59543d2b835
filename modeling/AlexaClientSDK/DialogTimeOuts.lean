import AlexaClientSDK.DialogUXStateAggregator
import AlexaClientSDK.Histories

/-!
# The time-outs of the dialog

A time-out is stale when an activity was processed after its timer was started. An activity stops the timers of the
listening and of the thinking, but does not take back the task of one that has expired: the activity came between the
two.
-/

namespace AlexaClientSDK.DialogUXStateAggregator.TimeOuts

open Function List LabelledRuns Histories Aggregator

variable {ω : Type}

/-- No activity was processed after the mark. -/
def QuietSince (history : List (Mark ω)) (mark : Mark ω) : Prop :=
  ∀ past future,history=past++mark::future → .activity∉future

/-- No activity was processed after its timer was started. -/
def NotStale (before : List (Mark ω)) (mark : Mark ω) : Prop :=
  ∀ timer number,mark=.timedOut timer number → QuietSince before (.started timer number)

def TimesOut (state : DialogUXState) : TimerName → Prop
  | .thinkingTimeout => state=.THINKING
  | .multiturnSpeakingToListening => False
  | .listeningTimeout => state=.LISTENING

/-- At its state, no activity was processed after the timer expired. -/
def Timely (s : Aggregator ω) (event : Event ω) : Prop :=
  event=.execute → ∀ timer number queue,s.queue=.expired timer number::queue → TimesOut s.currentState timer →
    QuietSince s.history (.expired timer number)

variable {history marks : List (Mark ω)} {mark : Mark ω}

theorem QuietSince.snoc (h : QuietSince history mark) {last : Mark ω} (hlast : last≠.activity) :
    QuietSince (history++[last]) mark := by
  intro past future heq hmem
  obtain ⟨rfl,-,-⟩|⟨rest,rfl,hinit⟩ := snoc_eq_append heq
  · cases hmem
  · obtain hmem|hmem := mem_append.mp hmem
    · exact h past rest hinit hmem
    · exact hlast (mem_singleton.mp hmem).symm

theorem quietSince_snoc_self (hnew : mark∉history) : QuietSince (history++[mark]) mark := by
  intro past future heq hmem
  obtain ⟨rfl,-,-⟩|⟨rest,-,hinit⟩ := snoc_eq_append heq
  · cases hmem
  · refine hnew ?_
    rw [hinit]
    exact mem_append_right _ mem_cons_self

def Stopped (timer : TimerName) : Prop := timer=.listeningTimeout ∨ timer=.thinkingTimeout

/-- It was started before, and no activity that stops it came between. -/
def ExpiredLaw (before : List (Mark ω)) (mark : Mark ω) : Prop :=
  ∀ timer number,mark=.expired timer number →
    .started timer number∈before ∧ (Stopped timer → QuietSince before (.started timer number))

/-- No start has the number of another. -/
def StartedLaw (before : List (Mark ω)) (mark : Mark ω) : Prop :=
  ∀ timer number,mark=.started timer number → .started timer number∉before

variable {timer : TimerName}

theorem quietSince_started_iff (hexpired : AtEvery ExpiredLaw history) (hstarted : AtEvery StartedLaw history)
    (htimer : Stopped timer) {number : ℕ} (hmem : .expired timer number∈history) :
    QuietSince history (.started timer number) ↔ QuietSince history (.expired timer number) := by
  constructor
  · intro hquiet past future heq hactivity
    obtain ⟨earlier,between,hpast⟩ := append_of_mem (hexpired past _ future heq timer number rfl).1
    refine hquiet earlier (between++.expired timer number::future) ?_ ?_
    · rw [heq,hpast,append_assoc,cons_append]
    · exact mem_append_right _ (mem_cons_of_mem _ hactivity)
  · intro hquiet past future heq hactivity
    rw [heq] at hmem
    obtain hbefore|hafter := mem_append.mp hmem
    · -- It would have been started twice.
      obtain ⟨earlier,between,hpast⟩ := append_of_mem hbefore
      have hfirst := (hexpired earlier (.expired timer number) (between++.started timer number::future) (by
        rw [heq,hpast,append_assoc,cons_append]) timer number rfl).1
      refine hstarted past _ future heq timer number rfl ?_
      rw [hpast]
      exact mem_append_left _ hfirst
    · obtain heq'|hafter := mem_cons.mp hafter
      · cases heq'
      obtain ⟨between,later,hfuture⟩ := append_of_mem hafter
      have hsplit : history=(past++.started timer number::between)++.expired timer number::later := by
        rw [heq,hfuture,append_assoc,cons_append]
      rw [hfuture] at hactivity
      obtain hactivity|hactivity := mem_append.mp hactivity
      · exact (hexpired _ _ later hsplit timer number rfl).2 htimer past between rfl hactivity
      · obtain heq'|hactivity := mem_cons.mp hactivity
        · cases heq'
        · exact hquiet _ later hsplit hactivity

variable {s t u : Aggregator ω}

/-- What a task does, other than to note a time-out. -/
inductive Moves (s : Aggregator ω) : Aggregator ω → Prop
  | refl : Moves s s
  | stop {t : Aggregator ω} (h : Moves s t) (timer : TimerName) : Moves s (t.stop timer)
  | start {t : Aggregator ω} (h : Moves s t) {timer : TimerName} (hidle : t.timers timer=.idle) :
    Moves s (t.start timer)
  | activity {t : Aggregator ω} (h : Moves s t) (hidle : ∀ timer,Stopped timer → t.timers timer=.idle) :
    Moves s t.noteActivity
  | dialog {t : Aggregator ω} (h : Moves s t) (state : DialogUXState) : Moves s {t with currentState := state}
  | told {t : Aggregator ω} (h : Moves s t) (observers : List ω) (state : DialogUXState) :
    Moves s {t with history := t.history++observers.map fun observer => .told observer state}
  | observers {t : Aggregator ω} (h : Moves s t) (observers : List ω) : Moves s {t with observers := observers}

open Moves

theorem stopped_idle (s : Aggregator ω) (timer : TimerName) (htimer : Stopped timer) :
    ((s.stop .listeningTimeout).stop .thinkingTimeout).timers timer=.idle := by
  obtain rfl|rfl := htimer
  · rfl
  · rfl

section

variable (h : Moves s t)
include h

theorem Moves.setState (newState : DialogUXState) : Moves s (t.setState newState) := by
  unfold Aggregator.setState
  split
  · exact h
  · exact ((((h.stop _).stop _).stop _).dialog newState).told _ _

theorem Moves.onActivityStarted : Moves s t.onActivityStarted :=
  ((h.stop _).stop _).activity (stopped_idle t)

theorem Moves.tryEnterIdleState : Moves s t.tryEnterIdleState :=
  ((h.stop _).stop _).start (stop_timers_self _ _)

theorem Moves.tryStart (timer : TimerName) : Moves s (t.start timer) := by
  by_cases hidle : t.timers timer=.idle
  · exact h.start hidle
  · have hfailed : t.start timer=t := if_neg hidle
    rw [hfailed]
    exact h

theorem Moves.onRequestProcessing : Moves s t.onRequestProcessing := by
  unfold Aggregator.onRequestProcessing
  dsimp only
  split
  next hstate =>
    have hidle : ∀ timer,((t.stop .listeningTimeout).setState .THINKING).timers timer=.idle := by
      refine fun timer => setState_timers timer fun heq => ?_
      rw [←heq] at hstate
      obtain hstate|hstate := hstate <;> cases hstate
    exact (((h.stop _).setState _).activity fun timer _ => hidle timer).start (hidle .thinkingTimeout)
  · exact h.stop _

end

section

variable (s)

def FindsState (task : Task ω) : Prop :=
  ∃ timer number,task=.expired timer number ∧ TimesOut s.currentState timer

theorem moves_perform [DecidableEq ω] {task : Task ω} (htask : ¬FindsState s task) : Moves s (s.perform task) := by
  cases task with
  | addObserver observer => exact (refl.told [observer] s.currentState).observers _
  | removeObserver => exact refl.observers _
  | audioInput state =>
    cases state with
    | IDLE => exact refl.tryEnterIdleState
    | EXPECTING_SPEECH | RECOGNIZING => exact refl.onActivityStarted.setState _
    | BUSY => exact (refl.setState _).tryStart _
  | speech state =>
    cases state with
    | PLAYING => exact refl.onActivityStarted.setState _
    | FINISHED | INTERRUPTED => exact refl.tryEnterIdleState
    | GAINING_FOCUS => exact refl.onActivityStarted
    | LOSING_FOCUS => exact refl
  | receive =>
    change Moves s s.onMessage
    unfold onMessage
    split
    · exact (refl.stop _).start (stop_timers_self _ _)
    · exact refl
  | connection status =>
    change Moves s (s.onConnectionStatus status)
    unfold onConnectionStatus
    split
    · exact refl.setState _
    · exact refl
  | requestProcessingStarted => exact refl.onRequestProcessing
  | expired timer number =>
    cases timer with
    | thinkingTimeout =>
      have hother : s.onTimeOut .THINKING .thinkingTimeout number=s :=
        if_neg fun hstate => htask ⟨_,_,rfl,hstate⟩
      change Moves s (s.onTimeOut .THINKING .thinkingTimeout number)
      rw [hother]
      exact refl
    | multiturnSpeakingToListening =>
      change Moves s s.onIdleTimer
      unfold onIdleTimer
      split
      · exact refl.setState _
      · exact refl
    | listeningTimeout =>
      have hother : s.onTimeOut .LISTENING .listeningTimeout number=s :=
        if_neg fun hstate => htask ⟨_,_,rfl,hstate⟩
      change Moves s (s.onTimeOut .LISTENING .listeningTimeout number)
      rw [hother]
      exact refl

theorem perform_timeOut [DecidableEq ω] (hstate : TimesOut s.currentState timer)
    (number : ℕ) : s.perform (.expired timer number) =
      {s with history := s.history++[Mark.timedOut timer number]}.setState .IDLE := by
  cases timer with
  | thinkingTimeout | listeningTimeout => exact if_pos hstate
  | multiturnSpeakingToListening => exact hstate.elim

end

structure Timed (s : Aggregator ω) : Prop where
  numbered : ∀ timer number,.started timer number∈s.history → number<s.starts
  /-- It was started, and no activity that stops it was processed since. -/
  waiting : ∀ timer number,s.timers timer=.waiting number →
    .started timer number∈s.history ∧ (Stopped timer → QuietSince s.history (.started timer number))
  queued : ∀ timer number,.expired timer number∈s.queue → .expired timer number∈s.history
  expired : AtEvery ExpiredLaw s.history
  started : AtEvery StartedLaw s.history

theorem timed_create : Timed (create : Aggregator ω) where
  numbered _ _ hmem := by cases hmem
  waiting _ _ hwaiting := by cases hwaiting
  queued _ _ hmem := by cases hmem
  expired := atEvery_nil
  started := atEvery_nil

section

variable (h : Timed s)
include h

/-- Nothing is started, expires or begins, and no task of a timer is added. -/
theorem Timed.mono (hhistory : t.history=s.history) (hstarts : t.starts=s.starts)
    (htimers : ∀ timer number,t.timers timer=.waiting number → s.timers timer=.waiting number)
    (hqueue : ∀ timer number,.expired timer number∈t.queue → .expired timer number∈s.queue) : Timed t := by
  obtain ⟨hnumbered,hwaiting,hqueued,hexpired,hstarted⟩ := h
  refine ⟨?_,?_,?_,?_,?_⟩
  · rw [hhistory,hstarts]
    exact hnumbered
  · rw [hhistory]
    exact fun timer number htimer => hwaiting timer number (htimers timer number htimer)
  · rw [hhistory]
    exact fun timer number hmem => hqueued timer number (hqueue timer number hmem)
  · rw [hhistory]
    exact hexpired
  · rw [hhistory]
    exact hstarted

/-- The marks of which the laws say nothing. -/
def Neutral : Mark ω → Prop
  | .told _ _ | .timedOut _ _ => True
  | .started _ _ | .expired _ _ | .activity => False

namespace Timed

theorem note (hneutral : Neutral mark) : Timed {s with history := s.history++[mark]} := by
  have hactivity : mark≠.activity := by
    rintro rfl
    exact hneutral
  have hstarted : ∀ timer number,mark≠.started timer number := by
    rintro timer number rfl
    exact hneutral
  have hexpired : ∀ timer number,mark≠.expired timer number := by
    rintro timer number rfl
    exact hneutral
  refine ⟨fun timer number hmem => ?_,fun timer number htimer => ?_,fun timer number hmem => ?_,?_,?_⟩
  · obtain hmem|hmem := mem_append.mp hmem
    · exact h.numbered timer number hmem
    · exact (hstarted timer number (mem_singleton.mp hmem).symm).elim
  · obtain ⟨hmem,hquiet⟩ := h.waiting timer number htimer
    exact ⟨mem_append_left _ hmem,fun hstopped => (hquiet hstopped).snoc hactivity⟩
  · exact mem_append_left _ (h.queued timer number hmem)
  · exact atEvery_snoc h.expired fun timer number heq => (hexpired timer number heq).elim
  · exact atEvery_snoc h.started fun timer number heq => (hstarted timer number heq).elim

theorem told (observers : List ω) (state : DialogUXState) :
    Timed {s with history := s.history++observers.map fun observer => .told observer state} := by
  induction observers generalizing s with
  | nil =>
    rw [map_nil,append_nil]
    exact h
  | cons observer observers ih =>
    rw [map_cons,append_cons]
    have htold : Timed {s with history := s.history++[Mark.told observer state]} := h.note trivial
    exact ih htold

theorem stop (timer : TimerName) : Timed (s.stop timer) := by
  refine h.mono rfl rfl (fun other number hwaiting => ?_) fun _ _ hmem => hmem
  by_cases heq : other=timer
  · subst heq
    rw [stop_timers_self] at hwaiting
    cases hwaiting
  · exact (stop_timers_ne s timer heq).symm.trans hwaiting

theorem start (hidle : s.timers timer=.idle) : Timed (s.start timer) := by
  have hnew : ∀ other,.started other s.starts∉s.history :=
    fun other hmem => Nat.lt_irrefl _ (h.numbered other s.starts hmem)
  rw [start_idle s hidle]
  refine ⟨fun other number hmem => ?_,fun other number hwaiting => ?_,fun other number hmem => ?_,?_,?_⟩
  · obtain hmem|hmem := mem_append.mp hmem
    · exact Nat.lt_succ_of_lt (h.numbered other number hmem)
    · cases mem_singleton.mp hmem
      exact Nat.lt_succ_self _
  · by_cases heq : other=timer
    · subst heq
      cases (update_self other _ s.timers).symm.trans hwaiting
      exact ⟨mem_concat_self,fun _ => quietSince_snoc_self (hnew other)⟩
    · obtain ⟨hmem,hquiet⟩ := h.waiting other number ((update_of_ne heq _ _).symm.trans hwaiting)
      exact ⟨mem_append_left _ hmem,fun hstopped => (hquiet hstopped).snoc nofun⟩
  · exact mem_append_left _ (h.queued other number hmem)
  · exact atEvery_snoc h.expired nofun
  · refine atEvery_snoc h.started fun other number heq => ?_
    cases heq
    exact hnew timer

theorem activity (hidle : ∀ timer,Stopped timer → s.timers timer=.idle) : Timed s.noteActivity := by
  refine ⟨fun timer number hmem => ?_,fun timer number hwaiting => ?_,fun timer number hmem => ?_,?_,?_⟩
  · obtain hmem|hmem := mem_append.mp hmem
    · exact h.numbered timer number hmem
    · cases mem_singleton.mp hmem
  · refine ⟨mem_append_left _ (h.waiting timer number hwaiting).1,fun hstopped => ?_⟩
    cases (hidle timer hstopped).symm.trans hwaiting
  · exact mem_append_left _ (h.queued timer number hmem)
  · exact atEvery_snoc h.expired nofun
  · exact atEvery_snoc h.started nofun

theorem moves (hmoves : Moves s t) : Timed t := by
  induction hmoves with
  | refl => exact h
  | stop _ timer ih => exact ih.stop timer
  | start _ hidle ih => exact ih.start hidle
  | activity _ hidle ih => exact ih.activity hidle
  | dialog _ state ih | observers _ observers ih => exact ih.mono rfl rfl (fun _ _ hwaiting => hwaiting) fun _ _ hmem => hmem
  | told _ observers state ih => exact ih.told observers state

theorem expire (timer : TimerName) : Timed (s.expire timer) := by
  obtain hexpire|⟨number,htimer,hexpire⟩ := s.expire_cases timer
  · rw [hexpire]
    exact h
  · rw [hexpire]
    refine ⟨fun other number' hmem => ?_,fun other number' hwaiting => ?_,fun other number' hmem => ?_,?_,?_⟩
    · obtain hmem|hmem := mem_append.mp hmem
      · exact h.numbered other number' hmem
      · cases mem_singleton.mp hmem
    · by_cases heq : other=timer
      · subst heq
        cases (update_self other _ s.timers).symm.trans hwaiting
      · obtain ⟨hmem,hquiet⟩ := h.waiting other number' ((update_of_ne heq _ _).symm.trans hwaiting)
        exact ⟨mem_append_left _ hmem,fun hstopped => (hquiet hstopped).snoc nofun⟩
    · obtain hmem|hmem := mem_append.mp hmem
      · exact mem_append_left _ (h.queued other number' hmem)
      · cases mem_singleton.mp hmem
        exact mem_concat_self
    · refine atEvery_snoc h.expired fun other number' heq => ?_
      cases heq
      exact h.waiting timer number htimer
    · exact atEvery_snoc h.started nofun

theorem submit {task : Task ω} (htask : ∀ timer number,task≠.expired timer number) : Timed (s.submit task) := by
  refine h.mono rfl rfl (fun _ _ hwaiting => hwaiting) fun timer number hmem => ?_
  obtain hmem|hmem := mem_append.mp hmem
  · exact hmem
  · exact (htask timer number (mem_singleton.mp hmem).symm).elim

end Timed

end

/-- No time-out was stale. -/
def NoneStale (s : Aggregator ω) : Prop := AtEvery NotStale s.history

/-- What a task does other than to note a time-out makes none of them stale. -/
theorem noneStale_moves (hmoves : Moves s t) : NoneStale t ↔ NoneStale s := by
  have hnote : ∀ {history : List (Mark ω)} {mark : Mark ω},(∀ timer number,mark≠.timedOut timer number) →
      (AtEvery NotStale (history++[mark]) ↔ AtEvery NotStale history) := by
    intro history mark hmark
    refine ⟨AtEvery.init,fun h => atEvery_snoc h fun timer number heq => (hmark timer number heq).elim⟩
  induction hmoves with
  | refl => exact Iff.rfl
  | stop _ timer ih => exact ih
  | @start t _ timer hidle ih =>
    refine Iff.trans ?_ ih
    rw [start_idle t hidle]
    exact hnote nofun
  | activity _ hidle ih => exact (hnote fun _ _ heq => by cases heq).trans ih
  | dialog _ state ih => exact ih
  | told _ observers state ih =>
    refine Iff.trans ⟨AtEvery.init,fun h => atEvery_append h fun mark hmem before timer number heq => ?_⟩ ih
    obtain ⟨observer,-,hmark⟩ := mem_map.mp hmem
    cases hmark.trans heq
  | observers _ observers ih => exact ih

theorem noneStale_note (h : NoneStale s) (timer : TimerName) (number : ℕ) :
    NoneStale {s with history := s.history++[Mark.timedOut timer number]} ↔
      QuietSince s.history (.started timer number) := by
  constructor
  · exact fun hnone => hnone s.history _ [] rfl timer number rfl
  · refine fun hquiet => atEvery_snoc h fun other number' heq => ?_
    cases heq
    exact hquiet

theorem stopped_of_timesOut {state : DialogUXState} (h : TimesOut state timer) : Stopped timer := by
  cases timer with
  | thinkingTimeout => exact .inr rfl
  | multiturnSpeakingToListening => exact h.elim
  | listeningTimeout => exact .inl rfl

variable [DecidableEq ω]

theorem timed_perform (h : Timed s) {task : Task ω} {queue : List (Task ω)} (hqueue : s.queue=task::queue) :
    Timed ({s with queue := queue}.perform task) ∧
      (NoneStale s → (NoneStale ({s with queue := queue}.perform task) ↔ Timely s .execute)) := by
  have hrest : Timed {s with queue := queue} := by
    refine h.mono rfl rfl (fun _ _ hwaiting => hwaiting) fun timer number hmem => ?_
    rw [hqueue]
    exact mem_cons_of_mem _ hmem
  by_cases hfinds : FindsState s task
  · obtain ⟨timer,number,rfl,hstate⟩ := hfinds
    rw [perform_timeOut {s with queue := queue} hstate number]
    have hmoves := refl.setState (s := {s with
      queue := queue
      history := s.history++[Mark.timedOut timer number]}) .IDLE
    have hnoted : Timed {s with queue := queue,history := s.history++[Mark.timedOut timer number]} :=
      hrest.note trivial
    refine ⟨hnoted.moves hmoves,fun hnone => ?_⟩
    have hexpired : .expired timer number∈s.history := by
      refine h.queued timer number ?_
      rw [hqueue]
      exact mem_cons_self
    have hnoted := noneStale_note (s := {s with queue := queue}) hnone timer number
    refine ((noneStale_moves hmoves).trans hnoted).trans ?_
    refine (quietSince_started_iff h.expired h.started (stopped_of_timesOut hstate) hexpired).trans ?_
    constructor
    · intro hquiet _ other number' queue' heq _
      cases hqueue.symm.trans heq
      exact hquiet
    · exact fun htimely => htimely rfl timer number queue hqueue hstate
  · have hmoves := moves_perform {s with queue := queue} hfinds
    refine ⟨hrest.moves hmoves,fun hnone => iff_of_true ((noneStale_moves hmoves).mpr hnone) ?_⟩
    intro _ timer number queue' heq hstate
    cases hqueue.symm.trans heq
    exact (hfinds ⟨timer,number,rfl,hstate⟩).elim

/-- A time-out gets stale exactly when it is not timely. -/
theorem timed_step {event : Event ω} (h : Timed s) (hstep : Step s event t) :
    Timed t ∧ (NoneStale s → (NoneStale t ↔ Timely s event)) := by
  obtain ⟨hpossible,rfl⟩ := hstep
  have hother : ∀ {u : Aggregator ω} {other : Event ω},other≠.execute → (NoneStale s → NoneStale u) →
      NoneStale s → (NoneStale u ↔ Timely s other) :=
    fun hother hkeeps hnone => iff_of_true (hkeeps hnone) fun heq => (hother heq).elim
  have hcall : ∀ {task : Task ω},(∀ timer number,task≠.expired timer number) → Timed (s.submit task) :=
    fun htask => h.submit htask
  cases event with
  | addObserver observer | removeObserver observer =>
    cases observer with
    | none => exact ⟨h,hother nofun id⟩
    | some => exact ⟨hcall nofun,hother nofun id⟩
  | audioInput | speech =>
    refine ⟨Timed.submit ?_ nofun,hother nofun id⟩
    exact h.mono rfl rfl (fun _ _ hwaiting => hwaiting) fun _ _ hmem => hmem
  | receive | connection | requestProcessingStarted => exact ⟨hcall nofun,hother nofun id⟩
  | expire timer =>
    refine ⟨h.expire timer,hother nofun fun hnone => ?_⟩
    change NoneStale (s.expire timer)
    unfold Aggregator.expire
    split
    · exact atEvery_snoc hnone nofun
    · exact hnone
  | finish timer => exact ⟨h.stop timer,hother nofun id⟩
  | execute =>
    change Timed s.execute ∧ (NoneStale s → (NoneStale s.execute ↔ _))
    unfold execute
    cases hqueue : s.queue with
    | nil => exact (hpossible hqueue).elim
    | cons => exact timed_perform h hqueue

/-- No time-out is stale if and only if each is timely. -/
theorem time_outs_not_stale_iff {trace : List (Event ω)} :
    Run (Keeping Step NoneStale) create trace s ↔ Run (Guarded Step Timely) create trace s := by
  refine Run.keeping_iff (fun s => Timed s ∧ NoneStale s) ⟨timed_create,atEvery_nil⟩ ?_ ?_
  · intro s event t h hstep htimely
    obtain ⟨htimed,hiff⟩ := timed_step h.1 hstep
    exact ⟨htimed,(hiff h.2).mpr htimely⟩
  · intro s event t h hstep
    exact (timed_step h.1 hstep).2 h.2

/-- In the thinking, the speech asks for the focus and the time-out expires. -/
def overtaken : List (Event Unit) :=
  [.requestProcessingStarted,.execute,.speech .GAINING_FOCUS,.expire .thinkingTimeout,.execute,.execute]

/-- The time-out makes the dialog idle although the speech has begun. -/
theorem gaining_focus_times_out : ∃ s : Aggregator Unit,Run Step create overtaken s ∧
      s.history=[.activity,.started .thinkingTimeout 0,.expired .thinkingTimeout 0,.activity,
        .timedOut .thinkingTimeout 0] ∧ s.currentState=.IDLE ∧ ¬NoneStale s := by
  have hpossible : canFollow (fun (s : Aggregator Unit) event => decide (Possible s event)) Aggregator.next create
      overtaken=true := by decide
  have hrun := Run.follow step_next Run.refl hpossible
  have hhistory : (overtaken.foldl Aggregator.next (create : Aggregator Unit)).history=[.activity,
      .started .thinkingTimeout 0,.expired .thinkingTimeout 0,.activity,.timedOut .thinkingTimeout 0] := by
    decide +kernel
  refine ⟨_,hrun,hhistory,by decide,fun hnone => ?_⟩
  refine hnone _ _ [] hhistory .thinkingTimeout 0 rfl [.activity] [.expired .thinkingTimeout 0,.activity] rfl ?_
  exact mem_cons_of_mem _ mem_cons_self

end AlexaClientSDK.DialogUXStateAggregator.TimeOuts
