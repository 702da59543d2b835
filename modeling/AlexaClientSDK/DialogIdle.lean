import AlexaClientSDK.DialogUXStateAggregator
import AlexaClientSDK.Histories

/-!
# The dialog becomes idle

While the audio input is idle and the speech is over, something leads back to the idle state unless the dialog is there:
a task that tries to enter it, a timer whose task will, or the time-out of the thinking. The tasks of the components are
behind, but the last of each is the one for the recorded state.
-/

namespace AlexaClientSDK.DialogUXStateAggregator

open List LabelledRuns Histories Aggregator

variable {α : Type} {begins ends : α → Prop} {queue : List α} {item : α}

/-- Behind each that begins stands one that ends. -/
def Followed (begins ends : α → Prop) (queue : List α) : Prop :=
  ∀ before item after,queue=before++item::after → begins item → ∃ other∈after,ends other

theorem followed_nil : Followed begins ends [] := by
  intro before item after heq
  cases before with
  | nil => cases heq
  | cons => cases heq

theorem Followed.head (h : Followed begins ends (item::queue)) (hbegins : begins item) :
    ∃ other∈queue,ends other := h [] item queue rfl hbegins

theorem Followed.tail (h : Followed begins ends (item::queue)) : Followed begins ends queue := by
  intro before other after heq
  refine h (item::before) other after ?_
  rw [heq,cons_append]

theorem Followed.snoc (h : Followed begins ends queue) (hother : ¬begins item) :
    Followed begins ends (queue++[item]) := by
  intro before first after heq hbegins
  obtain ⟨-,-,rfl⟩|⟨rest,hafter,hinit⟩ := snoc_eq_append heq
  · exact (hother hbegins).elim
  · obtain ⟨other,hmem,hends⟩ := h before first rest hinit hbegins
    rw [hafter]
    exact ⟨other,mem_append_left _ hmem,hends⟩

theorem followed_snoc_of_ends (hends : ends item) (hother : ¬begins item) : Followed begins ends (queue++[item]) := by
  intro before first after heq hbegins
  obtain ⟨-,-,rfl⟩|⟨rest,hafter,-⟩ := snoc_eq_append heq
  · exact (hother hbegins).elim
  · rw [hafter]
    exact ⟨item,mem_concat_self,hends⟩

variable {ω : Type}

section

variable (task : Task ω)

def AudioIdle : Prop := task=.audioInput .IDLE

/-- It is to become something else. -/
def AudioBusy : Prop := ∃ state,task=.audioInput state ∧ state≠.IDLE

def SpeechOver : Prop := task=.speech .FINISHED ∨ task=.speech .INTERRUPTED

def SpeechBusy : Prop := ∃ state,task=.speech state ∧ state≠.FINISHED ∧ state≠.INTERRUPTED

end

def TimerLeads (state : DialogUXState) : TimerName → Prop
  | .thinkingTimeout => state=.THINKING
  | .multiturnSpeakingToListening => True
  | .listeningTimeout => False

def TaskLeads (state : DialogUXState) : Task ω → Prop
  | .audioInput component => component=.IDLE
  | .speech component => component=.FINISHED ∨ component=.INTERRUPTED
  | .expired timer _ => TimerLeads state timer
  | .addObserver _ | .removeObserver _ | .receive | .connection _ | .requestProcessingStarted => False

def Leading (s : Aggregator ω) : Prop :=
  (∃ task∈s.queue,TaskLeads s.currentState task) ∨
    ∃ timer number,s.timers timer=.waiting number ∧ TimerLeads s.currentState timer

/-- What holds in every run. -/
structure Inv (s : Aggregator ω) : Prop where
  audio : s.audioInputProcessorState=.IDLE → Followed AudioBusy AudioIdle s.queue
  speech : s.isSpeechOver → Followed SpeechBusy SpeechOver s.queue
  leading : s.audioInputProcessorState=.IDLE → s.isSpeechOver → s.currentState=.IDLE ∨ Leading s

theorem inv_create : Inv (create : Aggregator ω) where
  audio _ := followed_nil
  speech _ := followed_nil
  leading _ _ := .inl rfl

variable {s t : Aggregator ω} {task : Task ω}

theorem Leading.submit (h : Leading s) (task : Task ω) : Leading (s.submit task) := by
  obtain ⟨other,hmem,hleads⟩|htimer := h
  · exact .inl ⟨other,mem_append_left _ hmem,hleads⟩
  · exact .inr htimer

theorem Inv.submit (h : Inv s) (haudio : ¬AudioBusy task) (hspeech : ¬SpeechBusy task) : Inv (s.submit task) where
  audio hidle := (h.audio hidle).snoc haudio
  speech hover := (h.speech hover).snoc hspeech
  leading hidle hover := by
    obtain hstate|hleading := h.leading hidle hover
    · exact .inl hstate
    · exact .inr (hleading.submit task)

theorem Inv.audioInput (h : Inv s) (state : AudioInputProcessorState) :
    Inv ({s with audioInputProcessorState := state}.submit (.audioInput state)) where
  audio hidle := by
    obtain rfl : state=.IDLE := hidle
    refine followed_snoc_of_ends rfl ?_
    rintro ⟨_,heq,hne⟩
    cases heq
    exact hne rfl
  speech hover := by
    refine (h.speech hover).snoc ?_
    rintro ⟨_,heq,_⟩
    cases heq
  leading hidle _ := by
    obtain rfl : state=.IDLE := hidle
    exact .inr (.inl ⟨_,mem_concat_self,rfl⟩)

theorem Inv.speechSynthesizer (h : Inv s) (state : SpeechSynthesizerState) :
    Inv ({s with speechSynthesizerState := state}.submit (.speech state)) := by
  have hends : state=.FINISHED ∨ state=.INTERRUPTED → SpeechOver (.speech state : Task ω) := by
    rintro (rfl|rfl)
    · exact .inl rfl
    · exact .inr rfl
  refine ⟨fun hidle => (h.audio hidle).snoc ?_,fun hover => ?_,fun _ hover => ?_⟩
  · rintro ⟨_,heq,_⟩
    cases heq
  · refine followed_snoc_of_ends (hends hover) ?_
    rintro ⟨_,heq,hfinished,hinterrupted⟩
    cases heq
    exact hover.elim hfinished hinterrupted
  · exact .inr (.inl ⟨_,mem_concat_self,hover⟩)

theorem Inv.expire (h : Inv s) (timer : TimerName) : Inv (s.expire timer) := by
  obtain hexpire|⟨number,-,hexpire⟩ := s.expire_cases timer
  · rw [hexpire]
    exact h
  · rw [hexpire]
    refine ⟨fun hidle => (h.audio hidle).snoc ?_,fun hover => (h.speech hover).snoc ?_,fun hidle hover => ?_⟩
    · rintro ⟨_,heq,_⟩
      cases heq
    · rintro ⟨_,heq,_⟩
      cases heq
    · obtain hstate|⟨other,hmem,hleads⟩|⟨other,number',hwaiting,hleads⟩ := h.leading hidle hover
      · exact .inl hstate
      · exact .inr (.inl ⟨other,mem_append_left _ hmem,hleads⟩)
      · right
        by_cases heq : other=timer
        · subst heq
          exact .inl ⟨.expired other number,mem_concat_self,hleads⟩
        · exact .inr ⟨other,number',(Function.update_of_ne heq _ _).trans hwaiting,hleads⟩

theorem Inv.finish (h : Inv s) {timer : TimerName} (hending : s.timers timer=.ending) : Inv (s.stop timer) where
  audio := h.audio
  speech := h.speech
  leading hidle hover := by
    obtain hstate|hqueue|⟨other,number,hwaiting,hleads⟩ := h.leading hidle hover
    · exact .inl hstate
    · exact .inr (.inl hqueue)
    · have hne : other≠timer := by
        rintro rfl
        cases hending.symm.trans hwaiting
      exact .inr (.inr ⟨other,number,(stop_timers_ne s timer hne).trans hwaiting,hleads⟩)

variable {queue : List (Task ω)}

theorem Leading.skip (h : s.currentState=.IDLE ∨ Leading s) (hqueue : s.queue=task::queue)
    (htask : ¬TaskLeads s.currentState task) (hrest : t.queue=queue) (hstate : t.currentState=s.currentState)
    (htimers : ∀ timer,TimerLeads s.currentState timer → t.timers timer=s.timers timer) :
    t.currentState=.IDLE ∨ Leading t := by
  obtain hidle|⟨other,hmem,hleads⟩|⟨timer,number,hwaiting,hleads⟩ := h
  · exact .inl (hstate.trans hidle)
  · rw [hqueue] at hmem
    obtain rfl|hmem := mem_cons.mp hmem
    · exact (htask hleads).elim
    · refine .inr (.inl ⟨other,?_,?_⟩)
      · rw [hrest]
        exact hmem
      · rw [hstate]
        exact hleads
  · refine .inr (.inr ⟨timer,number,(htimers timer hleads).trans hwaiting,?_⟩)
    rw [hstate]
    exact hleads

theorem leading_of_mem {ends : Task ω → Prop} (hends : ∃ other∈queue,ends other)
    (hrest : t.queue=queue) (hleads : ∀ other,ends other → TaskLeads t.currentState other) : Leading t := by
  obtain ⟨other,hmem,hother⟩ := hends
  refine .inl ⟨other,?_,hleads other hother⟩
  rw [hrest]
  exact hmem

theorem leading_tryEnterIdleState (s : Aggregator ω) : Leading s.tryEnterIdleState :=
  .inr ⟨.multiturnSpeakingToListening,_,start_timers_self _ (stop_timers_self _ _),trivial⟩

theorem leading_thinking (hstate : s.currentState=.THINKING) (hidle : s.timers .thinkingTimeout=.idle) :
    Leading (s.start .thinkingTimeout) := by
  refine .inr ⟨.thinkingTimeout,_,start_timers_self s hidle,?_⟩
  rw [start_idle s hidle]
  exact hstate

section

variable (s)

/-- A message starts that timer again, or does nothing. -/
theorem onMessage_cases : Leading s.onMessage ∨ s.onMessage=s := by
  unfold onMessage
  split
  next hthinking => exact .inl (leading_thinking hthinking.1 (stop_timers_self _ _))
  · exact .inr rfl

theorem onConnectionStatus_cases (status : ConnectionStatus) :
    (s.onConnectionStatus status).currentState=.IDLE ∨ s.onConnectionStatus status=s := by
  unfold onConnectionStatus
  split
  · exact .inl (setState_currentState _)
  · exact .inr rfl

theorem onRequestProcessing_cases : Leading s.onRequestProcessing ∨ s.onRequestProcessing=s.stop .listeningTimeout := by
  unfold onRequestProcessing
  dsimp only
  split
  next hstate =>
    refine .inl (leading_thinking (setState_currentState _) (setState_timers _ fun heq => ?_))
    rw [←heq] at hstate
    obtain hstate|hstate := hstate <;> cases hstate
  · exact .inr rfl

theorem onTimeOut_cases (state : DialogUXState) (timer : TimerName) (number : ℕ) :
    (s.onTimeOut state timer number).currentState=.IDLE ∨ s.currentState≠state ∧ s.onTimeOut state timer number=s := by
  unfold onTimeOut
  split
  · exact .inl (setState_currentState _)
  next hne => exact .inr ⟨hne,rfl⟩

end

section

variable (haudio : s.audioInputProcessorState=.IDLE) (hover : s.isSpeechOver)
include haudio hover

/-- It makes the dialog idle when the components allow it. -/
theorem onIdleTimer_currentState : s.onIdleTimer.currentState=.IDLE := by
  unfold onIdleTimer
  split
  · exact setState_currentState _
  next hother =>
    by_contra hstate
    exact hother ⟨hstate,haudio,hover⟩

/-- A timer that expired makes the dialog idle, or it did not lead there. -/
theorem onExpired_cases (timer : TimerName) (number : ℕ) : (s.onExpired timer number).currentState=.IDLE ∨
      ¬TimerLeads s.currentState timer ∧ s.onExpired timer number=s := by
  cases timer with
  | thinkingTimeout => exact onTimeOut_cases s .THINKING .thinkingTimeout number
  | multiturnSpeakingToListening => exact .inl (onIdleTimer_currentState haudio hover)
  | listeningTimeout =>
    obtain hidle|⟨-,hsame⟩ := onTimeOut_cases s .LISTENING .listeningTimeout number
    · exact .inl hidle
    · exact .inr ⟨id,hsame⟩

end

variable [DecidableEq ω]

/-- A task, when the components are idle: the dialog is idle or something leads there, or what does is as
before. -/
theorem perform_cases (haudio : s.audioInputProcessorState=.IDLE) (hover : s.isSpeechOver) (hidle : ¬AudioBusy task)
    (hdone : ¬SpeechBusy task) : ((s.perform task).currentState=.IDLE ∨ Leading (s.perform task)) ∨
      ¬TaskLeads s.currentState task ∧ (s.perform task).currentState=s.currentState ∧
        ∀ timer,TimerLeads s.currentState timer → (s.perform task).timers timer=s.timers timer := by
  cases task with
  | addObserver | removeObserver => exact .inr ⟨id,rfl,fun _ _ => rfl⟩
  | audioInput state =>
    by_cases heq : state=.IDLE
    · subst heq
      exact .inl (.inr (leading_tryEnterIdleState s))
    · exact (hidle ⟨state,rfl,heq⟩).elim
  | speech state =>
    cases state with
    | FINISHED | INTERRUPTED => exact .inl (.inr (leading_tryEnterIdleState s))
    | PLAYING | GAINING_FOCUS | LOSING_FOCUS => exact (hdone ⟨_,rfl,nofun,nofun⟩).elim
  | receive =>
    obtain hleading|hsame := onMessage_cases s
    · exact .inl (.inr hleading)
    · exact .inr ⟨id,congrArg currentState hsame,fun timer _ => congrFun (congrArg timers hsame) timer⟩
  | connection status =>
    obtain hstate|hsame := onConnectionStatus_cases s status
    · exact .inl (.inl hstate)
    · exact .inr ⟨id,congrArg currentState hsame,fun timer _ => congrFun (congrArg timers hsame) timer⟩
  | requestProcessingStarted =>
    obtain hleading|hsame := onRequestProcessing_cases s
    · exact .inl (.inr hleading)
    · have hstop : (s.stop .listeningTimeout).currentState=s.currentState := rfl
      have hstate : s.onRequestProcessing.currentState=s.currentState := (congrArg currentState hsame).trans hstop
      refine .inr ⟨id,hstate,fun timer hleads => ?_⟩
      have hne : timer≠.listeningTimeout := by
        rintro rfl
        exact hleads
      exact (congrFun (congrArg timers hsame) timer).trans (stop_timers_ne s _ hne)
  | expired timer number =>
    obtain hstate|⟨hleads,hsame⟩ := onExpired_cases haudio hover timer number
    · exact .inl (.inl hstate)
    · exact .inr ⟨hleads,congrArg currentState hsame,fun timer _ => congrFun (congrArg timers hsame) timer⟩

theorem Inv.perform (h : Inv s) (hqueue : s.queue=task::queue) : Inv ({s with queue := queue}.perform task) := by
  have hsame := same_perform (s := {s with queue := queue}) task
  have haudio := h.audio
  have hspeech := h.speech
  rw [hqueue] at haudio hspeech
  have hover : ({s with queue := queue}.perform task).isSpeechOver → s.isSpeechOver := by
    unfold isSpeechOver
    rw [hsame.speech]
    exact id
  refine ⟨fun hidle => ?_,fun hdone => ?_,fun hidle hdone => ?_⟩
  · rw [hsame.queue]
    exact (haudio (hsame.audio.symm.trans hidle)).tail
  · rw [hsame.queue]
    exact (hspeech (hover hdone)).tail
  · replace hidle : s.audioInputProcessorState=.IDLE := hsame.audio.symm.trans hidle
    replace hdone := hover hdone
    -- The task of a busy component stands before the one for the state that was recorded.
    by_cases haudioBusy : AudioBusy task
    · refine .inr (leading_of_mem ((haudio hidle).head haudioBusy) hsame.queue ?_)
      rintro other rfl
      rfl
    by_cases hspeechBusy : SpeechBusy task
    · refine .inr (leading_of_mem ((hspeech hdone).head hspeechBusy) hsame.queue ?_)
      rintro other (rfl|rfl)
      · exact .inl rfl
      · exact .inr rfl
    obtain hleading|⟨hleads,hstate,htimers⟩ :=
      perform_cases (s := {s with queue := queue}) hidle hdone haudioBusy hspeechBusy
    · exact hleading
    · exact Leading.skip (h.leading hidle hdone) hqueue hleads hsame.queue hstate htimers

theorem inv_step {event : Event ω} (h : Inv s) (hstep : Step s event t) : Inv t := by
  obtain ⟨hpossible,rfl⟩ := hstep
  have hother : ∀ {task : Task ω},(∀ state,task≠.audioInput state) → (∀ state,task≠.speech state) →
      Inv (s.submit task) := by
    intro task haudio hspeech
    exact h.submit (fun ⟨state,heq,_⟩ => haudio state heq) fun ⟨state,heq,_⟩ => hspeech state heq
  cases event with
  | addObserver observer | removeObserver observer =>
    cases observer with
    | none => exact h
    | some => exact hother nofun nofun
  | audioInput state => exact h.audioInput state
  | speech state => exact h.speechSynthesizer state
  | receive | connection | requestProcessingStarted => exact hother nofun nofun
  | expire timer => exact h.expire timer
  | finish => exact h.finish hpossible
  | execute =>
    change Inv s.execute
    unfold execute
    cases hqueue : s.queue with
    | nil => exact h
    | cons => exact h.perform hqueue

/-- In every run, when no task waits and no timer is running, an idle audio input and a speech that is over leave the
dialog idle. -/
theorem idle_when_quiet {trace : List (Event ω)} (hrun : Run Step create trace s) (hqueue : s.queue=[])
    (htimers : ∀ timer,s.timers timer=.idle) (haudio : s.audioInputProcessorState=.IDLE)
    (hover : s.isSpeechOver) : s.currentState=.IDLE := by
  have h : Inv s := hrun.invariant Inv inv_create fun _ _ _ h hstep => inv_step h hstep
  obtain hidle|⟨task,hmem,-⟩|⟨timer,number,hwaiting,-⟩ := h.leading haudio hover
  · exact hidle
  · rw [hqueue] at hmem
    cases hmem
  · cases (htimers timer).symm.trans hwaiting

def Mark.toldState : Mark ω → Option DialogUXState
  | .told _ state => some state
  | .started _ _ | .expired _ _ | .timedOut _ _ | .activity => none

/-- The user speaks, the request is processed, and the answer is read out. -/
def answeredRequest : List (Event Unit) :=
  [.addObserver (some ()),.audioInput .RECOGNIZING,.audioInput .BUSY,.execute,.execute,.execute,.requestProcessingStarted,
    .audioInput .IDLE,.execute,.execute,.speech .GAINING_FOCUS,.speech .PLAYING,.expire .multiturnSpeakingToListening,
    .execute,.execute,.execute,.speech .FINISHED,.execute,.expire .multiturnSpeakingToListening,.execute]

/-- The dialog is idle in the end. -/
theorem idle_when_quiet_answered : ∃ s : Aggregator Unit,Run Step create answeredRequest s ∧
      s.history.filterMap Mark.toldState=[.IDLE,.LISTENING,.THINKING,.SPEAKING,.IDLE] ∧ s.currentState=.IDLE := by
  have hpossible : canFollow (fun (s : Aggregator Unit) event => decide (Possible s event)) Aggregator.next create
      answeredRequest=true := by decide
  have hrun := Run.follow step_next Run.refl hpossible
  refine ⟨_,hrun,by decide,idle_when_quiet hrun (by decide) ?_ (by decide) (by decide)⟩
  intro timer
  cases timer with
  | thinkingTimeout | multiturnSpeakingToListening | listeningTimeout => decide +kernel

end AlexaClientSDK.DialogUXStateAggregator
