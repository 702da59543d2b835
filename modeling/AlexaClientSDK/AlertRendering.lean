import AlexaClientSDK.AlertRenderer

/-!
# An alert that was activated comes to an end

When the renderer has nothing left to do and the media player plays nothing, an activated alert should have ended, and
its observer been told so once. A source that cannot be set, a stop when nothing is playing, an error that is not
retried and a stop that the alert does not expect are lost. Otherwise the alert ends, once for each activation.
-/

namespace AlexaClientSDK.AlertRendering

open Nat Option List LabelledRuns Alerts AlertRenderer System
open AlertScheduler (ObserverState)

def isWaiting : State → Bool
  | .activating | .active | .stopping | .snoozing => true
  | _ => false

/-- The observer is told that the alert has ended. -/
def isEnd : ObserverState → Bool
  | .stopped | .snoozed | .completed | .error => true
  | _ => false

section

variable (s : System)

/-- How often the observer was told that an activation has ended. -/
def ends (activation : ℕ) : ℕ :=
  s.told.countP fun told => decide (told.1=activation) && isEnd told.2

/-- The alert was activated and the observer was not told of an end since. -/
def Open : Prop := 0<s.activations ∧ ends s s.activations=0

/-- The executor and the media player have nothing to do. -/
def Quiescent : Prop := s.running=none ∧ s.tasks=[] ∧ s.playing=[]

def startQueued (tasks : List Task) : Bool :=
  tasks.any fun task =>
    match task with
    | .start _ => true
    | _ => false

/-- No start is waiting or pending. -/
def NothingToStart : Prop := startQueued s.tasks=false ∧ s.isStartPending=false

def endsWhenStopped : Bool :=
  s.hasTimerExpired || decide (s.data.state=.stopping) || decide (s.data.state=.snoozing)

/-- A stop ends the alert, or the renderer starts again after it. A start that is pending counts when the
source was stopped. -/
def ExpectsStop (pendingCounts : Bool) : Prop :=
  if endsWhenStopped s then NothingToStart s
  else s.startRendererAgainAfterFullStop=true ∨ startQueued s.tasks=true ∨ pendingCounts=true ∧ s.isStartPending=true

/-- An error is answered by another try. -/
def Retries : Prop :=
  s.data.state≠.stopping ∧ s.data.state≠.stopped ∧
    s.data.assetConfiguration.assetPlayOrderItems≠[] ∧ s.data.hasRenderingFailed=false

/-- The alert completes while there is nothing to start. -/
def SmoothNext : Prop := s.shouldRenderNext=true ∨ NothingToStart s

/-- The condition on `renderNextAudioAsset`. -/
def SmoothNextAsset (answers : Answers) : Prop :=
  if s.urls.length ≤ s.numberOfStreamsRenderedThisLoop then
    (s.prepareLoop.shouldPause=true ∧ answers.pauseLeft=true) ∨ SmoothNext s.prepareLoop
  else SmoothNext s

/-- A stop finds a source, is not waited for, or has a start behind it. -/
def SmoothTask (answers : Answers) : Task → Prop
  | .start _ => True
  | .stop => s.currentSourceId=none → isWaiting s.data.state=false ∨ startQueued s.tasks=true
  | .playbackStarted _ => True
  | .playbackStopped sourceId => s.currentSourceId=some sourceId → ExpectsStop s true
  | .playbackFinished sourceId => s.currentSourceId=some sourceId →
    if s.isStopping=false ∧ s.countSource.shouldRenderNext then SmoothNextAsset s.countSource answers
    else ExpectsStop s false
  | .playbackError sourceId => s.currentSourceId=some sourceId → Retries s

/-- Every source is set, and played unless the alert tries again. -/
def Supported (answers : Answers) : Prop :=
  answers.setSource=true ∧ (answers.play=true ∨ Retries s)

/-- An alert is activated when its last activation has ended. -/
def Smooth : Event → Prop
  | .activate => s.data.state=.activating ∨ s.data.state=.active ∨ ¬Open s
  | .runTask answers => Supported s answers ∧ ∀ task tasks,s.tasks=task::tasks →
      SmoothTask {s with tasks := tasks} answers task
  | .goOn answers => Supported s answers ∧ (s.running=some .pausedBetweenLoops →
        if s.isStopping then ExpectsStop s false else SmoothNext s)
  | _ => True

/-- A callback that ends a source waits in the executor. -/
def DoneQueued (tasks : List Task) (sourceId : ℕ) : Prop :=
  Task.playbackStopped sourceId∈tasks ∨ Task.playbackFinished sourceId∈tasks ∨ Task.playbackError sourceId∈tasks

/-- The current source is playing or has its end before it. -/
def Live : Prop :=
  ∃ sourceId,s.currentSourceId=some sourceId ∧ (sourceId∈s.playing ∨ DoneQueued s.tasks sourceId)

/-- Something is still to happen. -/
def Alive : Prop :=
  s.running≠none ∨ startQueued s.tasks=true ∨ Live s ∨ s.currentSourceId=none ∧ Task.stop∈s.tasks

def Holds : Running → Prop
  | .pausedBeforePlay | .pausedBetweenLoops | .retrying .afterStopped => s.currentSourceId≠none
  | .retrying .nothing => ∀ sourceId,s.currentSourceId=some sourceId → sourceId∈s.playing ∨ DoneQueued s.tasks sourceId
  | .retrying .forget => s.currentSourceId=none

end

/-- The activations before have ended once, and there are no others. -/
structure Counted (s : System) : Prop where
  once : ∀ activation,ends s activation≤1
  past : ∀ activation,0<activation → activation<s.activations → ends s activation=1
  future : ∀ activation,s.activations<activation → ends s activation=0

structure Inv (s : System) : Prop where
  counted : Counted s
  alive : isWaiting s.data.state=true → Alive s
  waits : Open s → isWaiting s.data.state=true
  begun : s.data.state=.activating ∨ s.data.state=.active → Open s
  /-- The current source is playing or has its end before it. -/
  source : s.running=none → ∀ sourceId,s.currentSourceId=some sourceId →
    sourceId∈s.playing ∨ DoneQueued s.tasks sourceId
  quiet : ¬Open s → s.running=none ∧ s.currentSourceId=none ∧ NothingToStart s
  stopping : s.isStopping=true → s.running≠none ∨ s.currentSourceId=none → Task.stop∈s.tasks
  held : ∀ running,s.running=some running → Holds s running
  observer : s.currentSourceId≠none → s.observer=true

variable {s s' : System} {answers : Answers}

/-- In the middle of a task, for an alert that has not ended. -/
structure Busy (s : System) : Prop where
  isOpen : Open s
  waits : isWaiting s.data.state=true
  counted : Counted s
  stop : s.isStopping=true → Task.stop∈s.tasks

theorem ends_congr (htold : s'.told=s.told) (activation : ℕ) : ends s' activation=ends s activation := by
  unfold ends
  rw [htold]

theorem open_congr (hactivations : s'.activations=s.activations) (htold : s'.told=s.told) : Open s' ↔ Open s := by
  unfold Open
  rw [hactivations,ends_congr htold]

theorem counted_congr (h : Counted s) (hactivations : s'.activations=s.activations)
    (htold : s'.told=s.told) : Counted s' := by
  refine ⟨?_,?_,?_⟩
  · intro activation
    rw [ends_congr htold]
    exact h.once activation
  · intro activation hpos hlt
    rw [hactivations] at hlt
    rw [ends_congr htold]
    exact h.past activation hpos hlt
  · intro activation hlt
    rw [hactivations] at hlt
    rw [ends_congr htold]
    exact h.future activation hlt

theorem Busy.congr (h : Busy s) (hactivations : s'.activations=s.activations)
    (htold : s'.told=s.told) (hwaits : isWaiting s'.data.state=true)
    (hstop : s'.isStopping=true → Task.stop∈s'.tasks) : Busy s' :=
  ⟨(open_congr hactivations htold).mpr h.isOpen,hwaits,counted_congr h.counted hactivations htold,hstop⟩

variable {running : Running}

theorem Busy.inv_waiting (h : Busy s) (hrunning : s.running=some running) (hheld : Holds s running)
    (hobserver : s.currentSourceId≠none → s.observer=true) : Inv s := by
  refine ⟨h.counted,?_,fun _ => h.waits,fun _ => h.isOpen,?_,fun hclosed => absurd h.isOpen hclosed,
    fun hstopping _ => h.stop hstopping,?_,hobserver⟩
  · intro _
    left
    rw [hrunning]
    exact some_ne_none _
  · intro hnone
    rw [hrunning] at hnone
    cases hnone
  · intro running' hrunning'
    rw [hrunning] at hrunning'
    cases hrunning'
    exact hheld

/-- A task of an alert that has not ended, with something to happen. -/
theorem Busy.inv_done (h : Busy s) (hrunning : s.running=none) (halive : Alive s)
    (hsource : ∀ sourceId,s.currentSourceId=some sourceId → sourceId∈s.playing ∨ DoneQueued s.tasks sourceId)
    (hobserver : s.currentSourceId≠none → s.observer=true) : Inv s := by
  refine ⟨h.counted,fun _ => halive,fun _ => h.waits,fun _ => h.isOpen,fun _ => hsource,
    fun hclosed => absurd h.isOpen hclosed,fun hstopping _ => h.stop hstopping,?_,hobserver⟩
  intro running hsome
  rw [hrunning] at hsome
  cases hsome

theorem Busy.inv_startQueued (h : Busy s) (hrunning : s.running=none)
    (hsource : s.currentSourceId=none) (hqueued : startQueued s.tasks=true) : Inv s := by
  refine h.inv_done hrunning (.inr (.inl hqueued)) ?_ ?_
  · intro sourceId hsome
    rw [hsource] at hsome
    cases hsome
  · intro hsome
    exact absurd hsource hsome

variable {state : ObserverState}

theorem ends_tell_other (hstate : isEnd state=false) (activation : ℕ) :
    ends (s.tell state) activation=ends s activation := by
  unfold ends System.tell
  rw [countP_append,countP_singleton,hstate]
  simp

theorem ends_tell_end (hstate : isEnd state=true) (activation : ℕ) : ends (s.tell state) activation =
      ends s activation+if activation=s.activations then 1 else 0 := by
  unfold ends System.tell
  rw [countP_append,countP_singleton,hstate,Bool.and_true]
  congr 1
  by_cases heq : activation=s.activations
  · simp [heq]
  · rw [if_neg heq,decide_eq_false fun h => heq h.symm]
    rfl

theorem counted_tell_end (h : Counted s) (hopen : Open s)
    (hstate : isEnd state=true) : Counted (s.tell state) ∧ ¬Open (s.tell state) := by
  refine ⟨⟨?_,?_,?_⟩,?_⟩
  · intro activation
    rw [ends_tell_end hstate]
    by_cases heq : activation=s.activations
    · rw [heq,hopen.2,if_pos rfl]
    · rw [if_neg heq]
      exact h.once activation
  · intro activation hpos hlt
    have hlt' : activation<s.activations := hlt
    rw [ends_tell_end hstate,if_neg (Nat.ne_of_lt hlt')]
    exact h.past activation hpos hlt
  · intro activation hlt
    have hlt' : s.activations<activation := hlt
    rw [ends_tell_end hstate,if_neg (Nat.ne_of_gt hlt')]
    exact h.future activation hlt
  · rintro ⟨_,hends⟩
    have hone : ends (s.tell state) s.activations=0 := hends
    rw [ends_tell_end hstate,if_pos rfl] at hone
    exact Nat.succ_ne_zero _ hone

theorem onRendererStateChange_stopped_end (hends : endsWhenStopped s=true) :
    ∃ state told,isWaiting state=false ∧ isEnd told=true ∧
      s.onRendererStateChange .stopped=((s.withState state).tell told,false) := by
  unfold onRendererStateChange
  unfold endsWhenStopped at hends
  by_cases hexpired : s.hasTimerExpired=true
  · rw [if_pos hexpired]
    exact ⟨.completed,.completed,rfl,rfl,rfl⟩
  · rw [if_neg hexpired]
    by_cases hstopping : s.data.state=.stopping
    · rw [if_pos hstopping]
      exact ⟨.stopped,.stopped,rfl,rfl,rfl⟩
    · rw [if_neg hstopping]
      by_cases hsnoozing : s.data.state=.snoozing
      · rw [if_pos hsnoozing]
        exact ⟨.snoozed,.snoozed,rfl,rfl,rfl⟩
      · simp [hexpired,hstopping,hsnoozing] at hends

theorem onRendererStateChange_stopped_other (hends : endsWhenStopped s=false) :
    s.onRendererStateChange .stopped=if s.startRendererAgainAfterFullStop then
      ({s with startRendererAgainAfterFullStop := false},true) else (s,false) := by
  unfold endsWhenStopped at hends
  simp only [Bool.or_eq_false_iff,decide_eq_false_iff_not] at hends
  obtain ⟨⟨hexpired,hstopping⟩,hsnoozing⟩ := hends
  unfold onRendererStateChange
  dsimp only
  rw [if_neg (by simp [hexpired]),if_neg hstopping,if_neg hsnoozing]

section

variable (h : Busy s)
include h

section

variable (hobserver : s.observer=true)
include hobserver

theorem inv_handlePlaybackError (hretries : Retries s) : Inv s.handlePlaybackError := by
  obtain ⟨hstopping,hstopped,hitems,hfailed⟩ := hretries
  have hresult : s.handlePlaybackError={s with
      isStopping := false
      isStartPending := false
      currentSourceId := none
      data := {s.data with hasRenderingFailed := true}
      running := some (.retrying .forget)} := by
    unfold handlePlaybackError notifyAndForget onRendererStateChange
    simp [hobserver,hstopping,hstopped,hitems,hfailed]
  rw [hresult]
  refine Busy.inv_waiting ?_ rfl rfl (fun hsource => absurd rfl hsource)
  refine h.congr rfl rfl h.waits ?_
  exact nofun

theorem inv_playSource (hsource : s.currentSourceId≠none)
    (hplay : answers.play=true ∨ Retries s) : Inv (s.playSource answers) := by
  obtain ⟨sourceId,hsourceId⟩ := ne_none_iff_exists'.mp hsource
  unfold playSource
  split
  · have hplays : sourceId∈s.playing++s.currentSourceId.toList := by
      rw [hsourceId]
      exact mem_concat_self
    refine Busy.inv_done ?_ rfl ?_ ?_ ?_
    · exact h.congr rfl rfl h.waits h.stop
    · exact .inr (.inr (.inl ⟨sourceId,hsourceId,.inl hplays⟩))
    · intro sourceId' hsourceId'
      have heq : s.currentSourceId=some sourceId' := hsourceId'
      rw [hsourceId] at heq
      cases heq
      exact .inl hplays
    · intro _
      exact hobserver
  · rename_i hrefused
    rcases hplay with hplay|hretries
    · exact absurd hplay hrefused
    · exact inv_handlePlaybackError h hobserver hretries

theorem inv_play (hsupported : Supported s answers) : Inv (s.play answers) := by
  obtain ⟨hset,hplay⟩ := hsupported
  unfold play
  dsimp only
  rw [if_pos hset]
  split
  · split
    · refine Busy.inv_waiting ?_ rfl (some_ne_none _) fun _ => hobserver
      exact h.congr rfl rfl h.waits h.stop
    · refine inv_playSource ?_ hobserver ?_ hplay
      · exact h.congr rfl rfl h.waits h.stop
      · exact nofun
  · refine inv_playSource ?_ hobserver ?_ hplay
    · exact h.congr rfl rfl h.waits h.stop
    · exact nofun

end

theorem inv_end {state : State} {told : ObserverState} (hstate : isWaiting state=false)
    (htold : isEnd told=true) (hnothing : NothingToStart s) :
    Inv {(s.withState state).tell told with
      observer := false,currentSourceId := none,running := none} := by
  have hcounted : Counted (s.withState state) := counted_congr h.counted rfl rfl
  have hopen : Open (s.withState state) := (open_congr rfl rfl).mpr h.isOpen
  obtain ⟨hcounted',hclosed⟩ := counted_tell_end hcounted hopen htold
  have hclosed' : ¬Open {(s.withState state).tell told with
      observer := false,currentSourceId := none,running := none} :=
    fun hopen' => hclosed ((open_congr rfl rfl).mp hopen')
  refine ⟨counted_congr hcounted' rfl rfl,?_,?_,?_,?_,?_,?_,?_,?_⟩
  · intro hwaits
    have hwaits' : isWaiting state=true := hwaits
    rw [hstate] at hwaits'
    cases hwaits'
  · intro hopen'
    exact absurd hopen' hclosed'
  · intro hbegun
    have hbegun' : state=.activating ∨ state=.active := hbegun
    rcases hbegun' with rfl|rfl
    · cases hstate
    · cases hstate
  · exact nofun
  · intro _
    exact ⟨rfl,rfl,hnothing⟩
  · intro hstopping _
    exact h.stop hstopping
  · exact nofun
  · intro hsource
    exact absurd rfl hsource

section

variable (hobserver : s.observer=true)
include hobserver

/-- The alert ends, tries again, or has a start before it. -/
theorem inv_finish_stopped (hexpects : ExpectsStop s false) : Inv (s.finish .stopped) := by
  unfold finish notifyAndForget
  rw [if_pos hobserver]
  have hdropped : Busy {s with currentSourceId := none} := h.congr rfl rfl h.waits h.stop
  unfold ExpectsStop at hexpects
  split at hexpects
  · rename_i hends
    obtain ⟨state,told,hstate,htold,hresult⟩ :=
      onRendererStateChange_stopped_end (s := {s with currentSourceId := none}) hends
    rw [hresult]
    exact inv_end hdropped hstate htold hexpects
  · rename_i hends
    rw [onRendererStateChange_stopped_other (s := {s with currentSourceId := none}) (Bool.eq_false_iff.mpr hends)]
    by_cases hagain : s.startRendererAgainAfterFullStop=true
    · rw [if_pos hagain]
      refine Busy.inv_waiting ?_ rfl rfl (fun hsource => absurd rfl hsource)
      exact h.congr rfl rfl h.waits h.stop
    · rw [if_neg hagain]
      have hqueued : startQueued s.tasks=true := by
        rcases hexpects with hagain'|hqueued|⟨hfalse,_⟩
        · exact absurd hagain' hagain
        · exact hqueued
        · cases hfalse
      refine Busy.inv_startQueued ?_ rfl rfl hqueued
      exact h.congr rfl rfl h.waits h.stop

theorem inv_finish_completed (hnothing : NothingToStart s) : Inv (s.finish .completed) := by
  unfold finish notifyAndForget
  rw [if_pos hobserver]
  have hdropped : Busy {s with currentSourceId := none} := h.congr rfl rfl h.waits h.stop
  have hwaits : isWaiting .completed=false := rfl
  have hend : isEnd .completed=true := rfl
  exact inv_end hdropped hwaits hend hnothing

theorem inv_renderNext (hsupported : Supported s answers) (hsmooth : SmoothNext s) : Inv (s.renderNext answers) := by
  unfold renderNext
  split
  · exact inv_play h hobserver hsupported
  · rename_i hnext
    rcases hsmooth with hnext'|hnothing
    · exact absurd hnext' hnext
    · exact inv_finish_completed h hobserver hnothing

/-- With a start that is pending or in front. -/
theorem inv_afterStopped (hsupported : Supported s answers)
    (hstart : s.isStartPending=true ∨ startQueued s.tasks=true) : Inv (s.afterStopped answers) := by
  unfold afterStopped
  split
  · exact inv_play h hobserver hsupported
  · rename_i hpending
    have hqueued : startQueued s.tasks=true := by
      rcases hstart with hpending'|hqueued
      · exact absurd hpending' hpending
      · exact hqueued
    refine Busy.inv_startQueued ?_ rfl rfl hqueued
    exact h.congr rfl rfl h.waits h.stop

end

end

variable {sourceId : ℕ}

theorem Inv.open_of_source (h : Inv s) (hsource : s.currentSourceId=some sourceId) : Open s := by
  by_contra hclosed
  rw [(h.quiet hclosed).2.1] at hsource
  cases hsource

/-- A task that waits is for an alert that has not ended. -/
theorem Inv.open_of_running (h : Inv s) (hrunning : s.running=some running) : Open s := by
  by_contra hclosed
  rw [(h.quiet hclosed).1] at hrunning
  cases hrunning

theorem Inv.busy (h : Inv s) (hopen : Open s) (hactivations : s'.activations=s.activations)
    (htold : s'.told=s.told) (hstate : s'.data.state=s.data.state)
    (hstop : s'.isStopping=true → Task.stop∈s'.tasks) : Busy s' := by
  refine ⟨(open_congr hactivations htold).mpr hopen,?_,counted_congr h.counted hactivations htold,hstop⟩
  rw [hstate]
  exact h.waits hopen

theorem doneQueued_append {tasks : List Task} (more : List Task)
    (h : DoneQueued tasks sourceId) : DoneQueued (tasks++more) sourceId := by
  rcases h with h|h|h
  · exact .inl (mem_append_left _ h)
  · exact .inr (.inl (mem_append_left _ h))
  · exact .inr (.inr (mem_append_left _ h))

/-- The end of a source stays before it, also when it is not playing any more. -/
theorem plays_or_done_append {more : List Task} (h : sourceId∈s.playing ∨ DoneQueued s.tasks sourceId)
    (hplaying : ∀ sourceId,sourceId∈s.playing → sourceId∈s'.playing ∨ DoneQueued more sourceId) :
    sourceId∈s'.playing ∨ DoneQueued (s.tasks++more) sourceId := by
  rcases h with hplays|hdone
  · rcases hplaying sourceId hplays with hplays'|hdone|hdone|hdone
    · exact .inl hplays'
    · exact .inr (.inl (mem_append_right _ hdone))
    · exact .inr (.inr (.inl (mem_append_right _ hdone)))
    · exact .inr (.inr (.inr (mem_append_right _ hdone)))
  · exact .inr (doneQueued_append more hdone)

theorem alive_append (h : Alive s) (more : List Task) (hrunning : s'.running=s.running)
    (hsource : s'.currentSourceId=s.currentSourceId)
    (hplaying : ∀ sourceId,sourceId∈s.playing → sourceId∈s'.playing ∨ DoneQueued more sourceId)
    (htasks : s'.tasks=s.tasks++more) : Alive s' := by
  unfold Alive Live
  rw [hrunning,hsource,htasks]
  rcases h with h|h|⟨sourceId,hsome,h⟩|⟨hnone,h⟩
  · exact .inl h
  · refine .inr (.inl ?_)
    unfold startQueued at h ⊢
    rw [any_append,h]
    rfl
  · exact .inr (.inr (.inl ⟨sourceId,hsome,plays_or_done_append h hplaying⟩))
  · exact .inr (.inr (.inr ⟨hnone,mem_append_left _ h⟩))

theorem held_of_idle (idle : s'.running=none) : ∀ running,s'.running=some running → Holds s' running := by
  intro running hrunning
  rw [idle] at hrunning
  cases hrunning

variable {task : Task}

/-- It neither starts nor stops nor ends the current source. -/
theorem inv_drop (h : Inv s) {tasks : List Task} (idle : s.running=none) (next : s.tasks=task::tasks)
    (hstart : startQueued [task]=false) (hstop : task≠.stop)
    (hdone : ∀ sourceId,s.currentSourceId=some sourceId → ¬DoneQueued [task] sourceId) :
    Inv {s with tasks := tasks} := by
  have hqueued : startQueued tasks=startQueued s.tasks := by
    rw [next]
    unfold startQueued at hstart ⊢
    rw [any_cons,any_nil,Bool.or_false] at hstart
    rw [any_cons,hstart,Bool.false_or]
  have hstops : Task.stop∈s.tasks → Task.stop∈tasks := by
    intro hmem
    rw [next] at hmem
    rcases mem_cons.mp hmem with heq|hmem
    · exact absurd heq.symm hstop
    · exact hmem
  have hdones : ∀ sourceId,s.currentSourceId=some sourceId → DoneQueued s.tasks sourceId →
      DoneQueued tasks sourceId := by
    intro sourceId hsource hmem
    have hnot := hdone sourceId hsource
    unfold DoneQueued at hmem hnot ⊢
    rw [next] at hmem
    simp only [mem_cons,not_mem_nil,or_false,not_or] at hmem hnot
    rcases hmem with (heq|hmem)|(heq|hmem)|(heq|hmem)
    · exact absurd heq hnot.1
    · exact .inl hmem
    · exact absurd heq hnot.2.1
    · exact .inr (.inl hmem)
    · exact absurd heq hnot.2.2
    · exact .inr (.inr hmem)
  refine ⟨counted_congr h.counted rfl rfl,?_,?_,?_,?_,?_,?_,held_of_idle idle,h.observer⟩
  · intro hwaits
    rcases h.alive hwaits with halive|halive|⟨sourceId,hsource,halive|halive⟩|⟨hnone,halive⟩
    · exact .inl halive
    · refine .inr (.inl ?_)
      rw [←halive]
      exact hqueued
    · exact .inr (.inr (.inl ⟨sourceId,hsource,.inl halive⟩))
    · exact .inr (.inr (.inl ⟨sourceId,hsource,.inr (hdones sourceId hsource halive)⟩))
    · exact .inr (.inr (.inr ⟨hnone,hstops halive⟩))
  · intro hopen
    exact h.waits ((open_congr rfl rfl).mp hopen)
  · intro hbegun
    exact (open_congr rfl rfl).mpr (h.begun hbegun)
  · intro hrunning sourceId hsource
    rcases h.source hrunning sourceId hsource with hplays|hdone'
    · exact .inl hplays
    · exact .inr (hdones sourceId hsource hdone')
  · intro hclosed
    obtain ⟨hrunning,hsource,hnothing⟩ := h.quiet fun hopen => hclosed ((open_congr rfl rfl).mpr hopen)
    exact ⟨hrunning,hsource,hqueued.trans hnothing.1,hnothing.2⟩
  · intro hstopping hwhere
    exact hstops (h.stopping hstopping hwhere)

/-- Tasks that start nothing are added; what matters stays. -/
theorem inv_append (h : Inv s) (more : List Task) (hmore : startQueued more=false)
    (htasks : s'.tasks=s.tasks++more) (hactivations : s'.activations=s.activations)
    (htold : s'.told=s.told) (hrunning : s'.running=s.running) (hsource : s'.currentSourceId=s.currentSourceId)
    (hplaying : ∀ sourceId,sourceId∈s.playing → sourceId∈s'.playing ∨ DoneQueued more sourceId)
    (hpending : s'.isStartPending=s.isStartPending) (hobserver : s'.observer=s.observer)
    (hstop : s'.isStopping=true → s.isStopping=true ∨ Task.stop∈more)
    (hwaits : isWaiting s'.data.state=true → isWaiting s.data.state=true ∨
      Task.stop∈more ∧ ¬Open s) (hopen : Open s → isWaiting s'.data.state=true)
    (hbegun : s'.data.state=.activating ∨ s'.data.state=.active → Open s) : Inv s' := by
  refine ⟨counted_congr h.counted hactivations htold,?_,?_,?_,?_,?_,?_,?_,?_⟩
  · intro hwaiting
    rcases hwaits hwaiting with hbefore|⟨hmem,hclosed⟩
    · exact alive_append (h.alive hbefore) more hrunning hsource hplaying htasks
    · right; right; right
      rw [hsource,htasks]
      exact ⟨(h.quiet hclosed).2.1,mem_append_right _ hmem⟩
  · intro hopen'
    exact hopen ((open_congr hactivations htold).mp hopen')
  · intro hbegun'
    exact (open_congr hactivations htold).mpr (hbegun hbegun')
  · intro hidle sourceId hsome
    rw [hrunning] at hidle
    rw [hsource] at hsome
    rw [htasks]
    exact plays_or_done_append (h.source hidle sourceId hsome) hplaying
  · intro hclosed
    obtain ⟨hidle,hnone,hnothing⟩ :=
      h.quiet fun hopen' => hclosed ((open_congr hactivations htold).mpr hopen')
    rw [hrunning,hsource]
    refine ⟨hidle,hnone,?_,?_⟩
    · have hqueued := hnothing.1
      unfold startQueued at hqueued hmore ⊢
      rw [htasks,any_append,hqueued,hmore]
      rfl
    · rw [hpending]
      exact hnothing.2
  · intro hstopping hwhere
    rw [hrunning,hsource] at hwhere
    rw [htasks]
    rcases hstop hstopping with hbefore|hmem
    · exact mem_append_left _ (h.stopping hbefore hwhere)
    · exact mem_append_right _ hmem
  · intro running hsome
    rw [hrunning] at hsome
    have hheld := h.held running hsome
    cases running with
    | pausedBeforePlay | pausedBetweenLoops => exact fun hnone => hheld (hsource.symm.trans hnone)
    | retrying rest =>
      cases rest with
      | nothing =>
        intro sourceId hcurrent
        rw [hsource] at hcurrent
        rw [htasks]
        exact plays_or_done_append (hheld sourceId hcurrent) hplaying
      | afterStopped => exact fun hnone => hheld (hsource.symm.trans hnone)
      | forget => exact hsource.trans hheld
  · rw [hsource,hobserver]
    exact h.observer

variable {tasks : List Task}

theorem inv_notifyStopped (h : Busy s) (hsource : s.currentSourceId≠none) (hobserver : s.observer=true)
    (hsupported : Supported s answers) (hexpects : ExpectsStop s true) : Inv (s.notifyStopped answers) := by
  unfold notifyStopped
  rw [if_pos hobserver]
  unfold ExpectsStop at hexpects
  split at hexpects
  · rename_i hends
    obtain ⟨state,told,hstate,htold,hresult⟩ := onRendererStateChange_stopped_end hends
    rw [hresult,if_neg Bool.false_ne_true]
    have hlast : ((s.withState state).tell told).afterStopped answers =
        {(s.withState state).tell told with
          observer := false,currentSourceId := none,running := none} := by
      have hpending : ((s.withState state).tell told).isStartPending=false := hexpects.2
      unfold afterStopped
      rw [if_neg (by rw [hpending]; exact Bool.false_ne_true)]
    rw [hlast]
    exact inv_end h hstate htold hexpects
  · rename_i hends
    rw [onRendererStateChange_stopped_other (Bool.eq_false_iff.mpr hends)]
    by_cases hagain : s.startRendererAgainAfterFullStop=true
    · rw [if_pos hagain,if_pos rfl]
      refine Busy.inv_waiting ?_ rfl hsource fun _ => hobserver
      exact h.congr rfl rfl h.waits h.stop
    · rw [if_neg hagain,if_neg Bool.false_ne_true]
      refine inv_afterStopped h hobserver hsupported ?_
      rcases hexpects with hagain'|hqueued|⟨_,hpending⟩
      · exact absurd hagain' hagain
      · exact .inr hqueued
      · exact .inl hpending

theorem startQueued_startRenderer (s : System) : startQueued s.startRenderer.tasks=true := by
  unfold startRenderer start startQueued
  rw [any_append]
  exact Bool.or_true _

theorem busy_startRenderer (h : Busy s) : Busy s.startRenderer := by
  refine h.congr rfl rfl h.waits ?_
  intro hstopping
  exact mem_append_left _ (h.stop hstopping)

theorem inv_init (data : DynamicData) : Inv (init data) := by
  have hclosed : ¬Open (init data) := fun hopen => lt_irrefl _ hopen.1
  refine ⟨⟨fun _ => zero_le _,?_,fun _ _ => rfl⟩,?_,fun hopen => absurd hopen hclosed,?_,?_,
    fun _ => ⟨rfl,rfl,rfl,rfl⟩,?_,held_of_idle rfl,fun hsource => absurd rfl hsource⟩
  · intro activation _ hlt
    exact absurd hlt (not_lt_zero _)
  · exact nofun
  · rintro (hbegun|hbegun)
    · cases hbegun
    · cases hbegun
  · exact nofun
  · exact nofun

section

variable (h : Inv s)
include h

theorem inv_executeStart {request : StartRequest} (idle : s.running=none)
    (next : s.tasks=.start request::tasks) (hsupported : Supported s answers) :
    Inv (({s with tasks := tasks} : System).executeStart request answers) := by
  have hopen : Open s := by
    by_contra hclosed
    have hqueued := (h.quiet hclosed).2.2.1
    rw [next] at hqueued
    cases hqueued
  have hstops : s.isStopping=true → s.currentSourceId=none → Task.stop∈tasks := by
    intro hstopping hnone
    have hmem := h.stopping hstopping (.inr hnone)
    rw [next] at hmem
    rcases mem_cons.mp hmem with heq|hmem
    · cases heq
    · exact hmem
  have hdones : ∀ sourceId,s.currentSourceId=some sourceId → sourceId∈s.playing ∨ DoneQueued tasks sourceId := by
    intro sourceId hsource
    have hdone := h.source idle sourceId hsource
    rw [next] at hdone
    simpa [DoneQueued] using hdone
  unfold executeStart
  dsimp only
  split
  · rename_i hstopping
    have hopen' : Open {s with
        tasks := tasks,observer := true,urls := request.urls,remainingLoopCount := request.loopCount,
        directiveLoopCount := request.loopCount,loopPause := request.loopPause,
        shouldPauseBeforeRender := request.startWithPause,numberOfStreamsRenderedThisLoop := 0,
        isStartPending := true} := (open_congr rfl rfl).mpr hopen
    refine ⟨counted_congr h.counted rfl rfl,?_,fun _ => h.waits hopen,fun _ => hopen',fun _ => hdones,
      fun hclosed => absurd hopen' hclosed,?_,held_of_idle idle,fun _ => rfl⟩
    · intro _
      right; right
      cases hsource : s.currentSourceId with
      | none => exact .inr ⟨rfl,hstops hstopping hsource⟩
      | some sourceId => exact .inl ⟨sourceId,rfl,hdones sourceId hsource⟩
    · rintro _ (hrunning|hnone)
      · exact absurd idle hrunning
      · exact hstops hstopping hnone
  · rename_i hstopping
    refine inv_play ?_ rfl hsupported
    exact h.busy hopen rfl rfl rfl fun hstopping' => absurd hstopping' hstopping

theorem inv_executeStop (idle : s.running=none) (next : s.tasks=.stop::tasks)
    (hsmooth : s.currentSourceId=none → isWaiting s.data.state=false ∨ startQueued tasks=true) :
    Inv (executeStop {s with tasks := tasks}) := by
  have hqueued : startQueued tasks=startQueued s.tasks := by
    rw [next]
    rfl
  unfold executeStop
  dsimp only
  split
  · rename_i hnone
    refine ⟨counted_congr h.counted rfl rfl,?_,fun hopen => h.waits ((open_congr rfl rfl).mp hopen),
      fun hbegun => (open_congr rfl rfl).mpr (h.begun hbegun),?_,?_,?_,held_of_idle idle,?_⟩
    · intro hwaits
      rcases hsmooth hnone with hnot|hstart
      · have hwaits' : isWaiting s.data.state=true := hwaits
        rw [hnot] at hwaits'
        cases hwaits'
      · exact .inr (.inl hstart)
    · intro _ sourceId hsource
      have hsource' : s.currentSourceId=some sourceId := hsource
      rw [hnone] at hsource'
      cases hsource'
    · intro hclosed
      obtain ⟨_,_,hnothing⟩ := h.quiet fun hopen => hclosed ((open_congr rfl rfl).mpr hopen)
      exact ⟨idle,hnone,hqueued.trans hnothing.1,rfl⟩
    · exact nofun
    · intro hsource
      exact absurd hnone hsource
  · rename_i hsome
    obtain ⟨sourceId,hsource⟩ := ne_none_iff_exists'.mp hsome
    have hopen := h.open_of_source hsource
    have hdones : ∀ sourceId,s.currentSourceId=some sourceId → sourceId∈s.playing ∨ DoneQueued tasks sourceId := by
      intro sourceId' hsource'
      have hdone := h.source idle sourceId' hsource'
      rw [next] at hdone
      simpa [DoneQueued] using hdone
    have hopen' : Open {s with tasks := tasks,isStartPending := false} :=
      (open_congr rfl rfl).mpr hopen
    refine ⟨counted_congr h.counted rfl rfl,?_,fun _ => h.waits hopen,fun _ => hopen',fun _ => hdones,
      fun hclosed => absurd hopen' hclosed,?_,held_of_idle idle,h.observer⟩
    · intro _
      exact .inr (.inr (.inl ⟨sourceId,hsource,hdones sourceId hsource⟩))
    · rintro _ (hrunning|hnone)
      · exact absurd idle hrunning
      · exact absurd hnone hsome

theorem inv_tell_started (hopen : Open s) : Inv (s.tell .started) := by
  have hends : ∀ activation,ends (s.tell .started) activation=ends s activation :=
    ends_tell_other rfl
  have hopen' : Open (s.tell .started) := ⟨hopen.1,(hends _).trans hopen.2⟩
  refine ⟨⟨?_,?_,?_⟩,fun hwaits => h.alive hwaits,fun _ => h.waits hopen,fun _ => hopen',h.source,
    fun hclosed => absurd hopen' hclosed,h.stopping,h.held,h.observer⟩
  · intro activation
    rw [hends]
    exact h.counted.once activation
  · intro activation hpos hlt
    rw [hends]
    exact h.counted.past activation hpos hlt
  · intro activation hlt
    rw [hends]
    exact h.counted.future activation hlt

theorem inv_executeOnPlaybackStarted (idle : s.running=none)
    (hsource : s.currentSourceId=some sourceId) : Inv s.executeOnPlaybackStarted := by
  have hopen := h.open_of_source hsource
  have hobserver : s.observer=true := h.observer (by rw [hsource]; exact some_ne_none _)
  have hnotStopped : s.data.state≠.stopped := by
    intro hstopped
    have hwaits := h.waits hopen
    rw [hstopped] at hwaits
    cases hwaits
  unfold executeOnPlaybackStarted
  rw [if_pos hobserver]
  unfold onRendererStateChange
  dsimp only
  rw [if_neg hnotStopped]
  split
  · split
    · refine Busy.inv_waiting ?_ rfl ?_ fun _ => hobserver
      · refine h.busy hopen rfl rfl rfl fun _ => ?_
        exact mem_concat_self
      · intro current hcurrent
        rcases h.source idle current hcurrent with hplays|hdone
        · exact .inl hplays
        · exact .inr (doneQueued_append _ hdone)
    · exact inv_tell_started h hopen
  · exact h

section

variable (hsource : s.currentSourceId=some sourceId)
include hsource

theorem inv_executeOnPlaybackStopped (hsupported : Supported s answers)
    (hexpects : ExpectsStop {s with tasks := tasks} true) :
    Inv (({s with tasks := tasks} : System).executeOnPlaybackStopped answers) := by
  have hsome : s.currentSourceId≠none := by
    rw [hsource]
    exact some_ne_none _
  refine inv_notifyStopped ?_ hsome (h.observer hsome) hsupported hexpects
  refine h.busy (h.open_of_source hsource) rfl rfl rfl ?_
  exact nofun

theorem inv_executeOnPlaybackFinished (hsupported : Supported s answers)
    (hsmooth : if s.isStopping=false ∧ shouldRenderNext (countSource {s with tasks := tasks}) then
      SmoothNextAsset (countSource {s with tasks := tasks}) answers
      else ExpectsStop {s with tasks := tasks} false) :
    Inv (({s with tasks := tasks} : System).executeOnPlaybackFinished answers) := by
  have hopen := h.open_of_source hsource
  have hsome : s.currentSourceId≠none := by
    rw [hsource]
    exact some_ne_none _
  have hobserver : s.observer=true := h.observer hsome
  set counted : System := countSource {s with tasks := tasks} with hcounted
  have hbusy : Busy counted := by
    refine h.busy hopen rfl rfl rfl ?_
    exact nofun
  unfold executeOnPlaybackFinished
  rw [←hcounted]
  by_cases hnext : s.isStopping=false ∧ counted.shouldRenderNext=true
  · rw [if_pos hnext] at hsmooth
    rw [if_pos hnext]
    unfold renderNextAudioAsset
    unfold SmoothNextAsset at hsmooth
    have hprepared : Busy counted.prepareLoop := hbusy.congr rfl rfl hbusy.waits hbusy.stop
    split
    · rename_i hlast
      rw [if_pos hlast] at hsmooth
      split
      · refine Busy.inv_waiting ?_ rfl hsome fun _ => hobserver
        exact hbusy.congr rfl rfl hbusy.waits hbusy.stop
      · rename_i hnoPause
        rcases hsmooth with hpause|hsmooth
        · exact absurd hpause hnoPause
        · exact inv_renderNext hprepared hobserver hsupported hsmooth
    · rename_i hlast
      rw [if_neg hlast] at hsmooth
      exact inv_renderNext hbusy hobserver hsupported hsmooth
  · rw [if_neg hnext] at hsmooth
    rw [if_neg hnext]
    exact inv_finish_stopped hbusy hobserver hsmooth

theorem inv_executeOnPlaybackError (hretries : Retries s) : Inv (handlePlaybackError {s with tasks := tasks}) := by
  have hsome : s.currentSourceId≠none := by
    rw [hsource]
    exact some_ne_none _
  -- the renderer is not stopping any more, whatever it was before
  have hbusy : Busy {s with tasks := tasks,isStopping := false} := by
    refine h.busy (h.open_of_source hsource) rfl rfl rfl ?_
    exact nofun
  have hsame : handlePlaybackError {s with tasks := tasks} =
      handlePlaybackError {s with tasks := tasks,isStopping := false} := rfl
  rw [hsame]
  exact inv_handlePlaybackError hbusy (h.observer hsome) hretries

end

theorem inv_runTask (idle : s.running=none) (next : s.tasks=task::tasks) (hsupported : Supported s answers)
    (hsmooth : SmoothTask {s with tasks := tasks} answers task) :
    Inv (({s with tasks := tasks} : System).runTask answers task) := by
  have hignored : ∀ sourceId,s.currentSourceId≠some sourceId →
      (∀ other,DoneQueued [task] other → other=sourceId) → startQueued [task]=false →
      task≠.stop → Inv {s with tasks := tasks} := by
    intro sourceId hother hdone hstart hstop
    refine inv_drop h idle next hstart hstop ?_
    intro current hcurrent hqueued
    rw [hdone current hqueued] at hcurrent
    exact hother hcurrent
  cases task with
  | start => exact inv_executeStart h idle next hsupported
  | stop => exact inv_executeStop h idle next hsmooth
  | playbackStarted sourceId =>
    have hdropped : Inv {s with tasks := tasks} := by
      refine inv_drop h idle next rfl nofun ?_
      intro current _ hqueued
      simp [DoneQueued] at hqueued
    unfold runTask
    dsimp only
    split
    · rename_i hsource
      exact inv_executeOnPlaybackStarted hdropped idle hsource
    · exact hdropped
  | playbackStopped sourceId =>
    unfold runTask
    dsimp only
    split
    · rename_i hsource
      exact inv_executeOnPlaybackStopped h hsource hsupported (hsmooth hsource)
    · rename_i hother
      exact hignored sourceId hother (fun other hqueued => by simpa [DoneQueued] using hqueued) rfl
        nofun
  | playbackFinished sourceId =>
    unfold runTask
    dsimp only
    split
    · rename_i hsource
      exact inv_executeOnPlaybackFinished h hsource hsupported (hsmooth hsource)
    · rename_i hother
      exact hignored sourceId hother (fun other hqueued => by simpa [DoneQueued] using hqueued) rfl
        (fun heq => by cases heq)
  | playbackError sourceId =>
    unfold runTask
    dsimp only
    split
    · rename_i hsource
      exact inv_executeOnPlaybackError h hsource (hsmooth hsource)
    · rename_i hother
      exact hignored sourceId hother (fun other hqueued => by simpa [DoneQueued] using hqueued) rfl
        (fun heq => by cases heq)

/-- Every task that goes on and meets the condition. -/
theorem inv_goOn (waits : s.running=some running) (hsupported : Supported s answers)
    (hsmooth : s.running=some .pausedBetweenLoops →
      if s.isStopping then ExpectsStop s false else SmoothNext s) : Inv (s.goOn answers running) := by
  have hopen := h.open_of_running waits
  have hrunning : s.running≠none := by
    rw [waits]
    exact some_ne_none _
  have hbusy : Busy s := by
    refine h.busy hopen rfl rfl rfl ?_
    intro hstopping
    exact h.stopping hstopping (.inl hrunning)
  have hstarted := busy_startRenderer hbusy
  have hqueued := startQueued_startRenderer s
  cases running with
  | pausedBeforePlay =>
    have hsource := h.held _ waits
    exact inv_playSource hbusy (h.observer hsource) hsource hsupported.2
  | pausedBetweenLoops =>
    have hobserver := h.observer (h.held _ waits)
    have hsmooth' := hsmooth waits
    unfold goOn
    dsimp only
    split
    · rename_i hstopping
      rw [if_pos hstopping] at hsmooth'
      exact inv_finish_stopped hbusy hobserver hsmooth'
    · rename_i hstopping
      rw [if_neg hstopping] at hsmooth'
      exact inv_renderNext hbusy hobserver hsupported hsmooth'
  | retrying rest =>
    cases rest with
    | nothing =>
      refine Busy.inv_done ?_ rfl (.inr (.inl hqueued)) ?_ h.observer
      · exact hstarted.congr rfl rfl hstarted.waits hstarted.stop
      · intro sourceId hsource
        rcases h.held _ waits sourceId hsource with hplays|hdone
        · exact .inl hplays
        · exact .inr (doneQueued_append _ hdone)
    | afterStopped =>
      have hobserver := h.observer (h.held _ waits)
      exact inv_afterStopped hstarted hobserver hsupported (.inr hqueued)
    | forget =>
      have hnone : s.currentSourceId=none := h.held _ waits
      refine Busy.inv_startQueued ?_ rfl hnone hqueued
      exact hstarted.congr rfl rfl hstarted.waits hstarted.stop

theorem inv_sourceDone (hstart : startQueued [task]=false)
    (hdone : DoneQueued [task] sourceId) : Inv (s.sourceDone sourceId task) := by
  have hplaying : ∀ other,other∈s.playing → other∈s.playing.erase sourceId ∨ DoneQueued [task] other := by
    intro other hplays
    by_cases heq : other=sourceId
    · rw [heq]
      exact .inr hdone
    · exact .inl ((mem_erase_of_ne heq).mpr hplays)
  exact inv_append h [task] hstart rfl rfl rfl rfl rfl hplaying rfl rfl (fun hstopping => .inl hstopping)
    (fun hwaits => .inl hwaits) h.waits h.begun

theorem inv_stop (htasks : s'.tasks=s.tasks++[.stop])
    (hactivations : s'.activations=s.activations) (htold : s'.told=s.told)
    (hrunning : s'.running=s.running) (hsource : s'.currentSourceId=s.currentSourceId)
    (hplaying : s'.playing=s.playing) (hpending : s'.isStartPending=s.isStartPending)
    (hobserver : s'.observer=s.observer) (hstate : s'.data.state=.stopping ∨ s'.data.state=.snoozing) : Inv s' := by
  have hmem : Task.stop∈[Task.stop] := mem_singleton_self _
  refine inv_append h [.stop] rfl htasks hactivations htold hrunning hsource ?_ hpending hobserver
    (fun _ => .inr hmem) ?_ ?_ ?_
  · intro sourceId hplays
    rw [hplaying]
    exact .inl hplays
  · intro _
    by_cases hopen : Open s
    · exact .inl (h.waits hopen)
    · exact .inr ⟨hmem,hopen⟩
  · intro _
    rcases hstate with hstate|hstate
    · rw [hstate]
      rfl
    · rw [hstate]
      rfl
  · intro hbegun
    rcases hstate with hstate|hstate
    · rw [hstate] at hbegun
      rcases hbegun with hbegun|hbegun
      · cases hbegun
      · cases hbegun
    · rw [hstate] at hbegun
      rcases hbegun with hbegun|hbegun
      · cases hbegun
      · cases hbegun

theorem inv_setFocusState (focusState : FocusChannel.FocusState) : Inv (s.setFocusState focusState) := by
  unfold setFocusState
  dsimp only
  have hplaying : ∀ (more : List Task) (sourceId : ℕ),sourceId∈s.playing →
      sourceId∈s.playing ∨ DoneQueued more sourceId := fun _ _ hplays => .inl hplays
  split
  · exact h
  · split
    · exact inv_append h [] rfl (append_nil _).symm rfl rfl rfl rfl (hplaying []) rfl rfl
        (fun hstopping => .inl hstopping) (fun hwaits => .inl hwaits) h.waits h.begun
    · split
      · exact inv_append h [.stop] rfl rfl rfl rfl rfl rfl (hplaying [.stop]) rfl rfl
          (fun _ => .inr (mem_singleton_self _)) (fun hwaits => .inl hwaits) h.waits h.begun
      · exact inv_append h [] rfl (append_nil _).symm rfl rfl rfl rfl (hplaying []) rfl rfl
          (fun hstopping => .inl hstopping) (fun hwaits => .inl hwaits) h.waits h.begun

theorem inv_setStateActive : Inv s.setStateActive := by
  unfold setStateActive
  split
  · rename_i hactivating
    have hopen : Open s := h.begun (.inl hactivating)
    exact inv_append h [] rfl (append_nil _).symm rfl rfl rfl rfl (fun _ hplays => .inl hplays) rfl
      rfl (fun hstopping => .inl hstopping) (fun _ => .inl (h.waits hopen)) (fun _ => rfl) fun _ => hopen
  · exact h

theorem inv_activate (hended : s.data.state=.activating ∨ s.data.state=.active ∨ ¬Open s) : Inv s.activate := by
  unfold activate
  split
  · exact h
  · rename_i hbegun
    have hclosed : ¬Open s := by
      rcases hended with hstate|hstate|hclosed
      · exact absurd (.inl hstate) hbegun
      · exact absurd (.inr hstate) hbegun
      · exact hclosed
    obtain ⟨hrunning,hsource,_⟩ := h.quiet hclosed
    set activated : System := {s.withState .activating with
      maxLengthTimer := true
      activations := s.activations+1} with hactivated
    have hends : ∀ activation,ends activated activation=ends s activation := ends_congr rfl
    have hbusy : Busy activated := by
      refine ⟨⟨Nat.succ_pos _,?_⟩,rfl,⟨?_,?_,?_⟩,?_⟩
      · rw [hends]
        exact h.counted.future _ (Nat.lt_succ_self _)
      · intro activation
        rw [hends]
        exact h.counted.once activation
      · intro activation hpos hlt
        rw [hends]
        rcases Nat.lt_succ_iff_lt_or_eq.mp hlt with hlt|heq
        · exact h.counted.past activation hpos hlt
        · -- the last activation has ended, since the alert is not open
          rw [heq] at hpos ⊢
          have hone := h.counted.once s.activations
          have hnot : ends s s.activations≠0 := fun hzero => hclosed ⟨hpos,hzero⟩
          omega
      · intro activation hlt
        rw [hends]
        exact h.counted.future activation (Nat.lt_of_succ_lt hlt)
      · intro hstopping
        exact h.stopping hstopping (.inr hsource)
    exact (busy_startRenderer hbusy).inv_startQueued hrunning hsource (startQueued_startRenderer activated)

/-- Every step that meets the condition keeps the invariant. -/
theorem inv_step {event : Event} (hsmooth : Smooth s event) (hstep : Step s event s') : Inv s' := by
  cases hstep with
  | activate => exact inv_activate h hsmooth
  | deactivate | maxTimerExpires => exact inv_stop h rfl rfl rfl rfl rfl rfl rfl rfl (.inl rfl)
  | snooze => exact inv_stop h rfl rfl rfl rfl rfl rfl rfl rfl (.inr rfl)
  | setFocusState focusState => exact inv_setFocusState h focusState
  | setStateActive => exact inv_setStateActive h
  | playbackStarted =>
    exact inv_append h _ rfl rfl rfl rfl rfl rfl (fun _ hplays => .inl hplays) rfl rfl
      (fun hstopping => .inl hstopping) (fun hwaits => .inl hwaits) h.waits h.begun
  | playbackStopped => exact inv_sourceDone h rfl (.inl (mem_singleton_self _))
  | playbackFinished => exact inv_sourceDone h rfl (.inr (.inl (mem_singleton_self _)))
  | playbackError => exact inv_sourceDone h rfl (.inr (.inr (mem_singleton_self _)))
  | runTask answers idle next => exact inv_runTask h idle next hsmooth.1 (hsmooth.2 _ _ next)
  | goOn answers waits => exact inv_goOn h waits hsmooth.1 hsmooth.2

end

theorem not_alive_of_quiescent (hquiescent : Quiescent s) : ¬Alive s := by
  obtain ⟨hrunning,htasks,hplaying⟩ := hquiescent
  unfold Alive Live DoneQueued
  rw [hrunning,htasks,hplaying]
  rintro (h|h|⟨sourceId,_,h|h|h|h⟩|⟨_,h⟩)
  · exact h rfl
  · cases h
  · cases h
  · cases h
  · cases h
  · cases h
  · cases h

/-- In every run whose steps meet the condition the observer is told of one end at most for each activation, and
of all when the executor has nothing to do and no source is playing. -/
theorem activation_ends_once (data : DynamicData) (events : List Event) (s : System)
    (run : Run (Guarded Step Smooth) (init data) events s) : (∀ activation,ends s activation≤1) ∧
      (Quiescent s → isWaiting s.data.state=false ∧
        ∀ activation,0<activation → activation ≤ s.activations → ends s activation=1) := by
  have hinv : Inv s :=
    run.invariant Inv (inv_init data) fun s event t h hstep => inv_step h hstep.1 hstep.2
  refine ⟨hinv.counted.once,?_⟩
  intro hquiescent
  have hwaits : isWaiting s.data.state=false := by
    by_contra hwaits
    exact not_alive_of_quiescent hquiescent (hinv.alive (Bool.not_eq_false _ ▸ hwaits))
  refine ⟨hwaits,?_⟩
  intro activation hpos hle
  rcases lt_or_eq_of_le hle with hlt|heq
  · exact hinv.counted.past activation hpos hlt
  · have hopen : ¬Open s := by
      intro hopen
      rw [hinv.waits hopen] at hwaits
      cases hwaits
    rw [heq] at hpos ⊢
    have hone := hinv.counted.once s.activations
    have hnot : ends s s.activations≠0 := fun hzero => hopen ⟨hpos,hzero⟩
    omega

/-- A media player that does what it is asked for. -/
def willing : Answers := ⟨true,true,false⟩

/-- An alert starts, is deactivated and stops. -/
theorem activation_ends_once_deactivated : ∃ (events : List Event) (s : System),
      Run (Guarded Step Smooth) (init (Alert.new .alarm).dynamicData) events s ∧
      Quiescent s ∧ isWaiting s.data.state=false ∧ s.activations=1 ∧ ends s 1=1 := by
  have hrun : Run (Guarded Step Smooth) (init (Alert.new .alarm).dynamicData)
      [.activate,.runTask willing,.playbackStarted 1,.runTask willing,.setStateActive,.deactivate,
        .runTask willing,.playbackStopped 1,.runTask willing] _ :=
    ((((((((Run.refl.snoc ⟨.inr (.inr fun hopen => lt_irrefl _ hopen.1),.activate⟩).snoc
      ⟨⟨⟨rfl,.inl rfl⟩,fun task tasks next => by cases next; trivial⟩,.runTask willing rfl rfl⟩).snoc
      ⟨trivial,.playbackStarted (mem_singleton_self 1)⟩).snoc
      ⟨⟨⟨rfl,.inl rfl⟩,fun task tasks next => by cases next; trivial⟩,.runTask willing rfl rfl⟩).snoc
      ⟨trivial,.setStateActive⟩).snoc ⟨trivial,.deactivate⟩).snoc
      ⟨⟨⟨rfl,.inl rfl⟩,fun task tasks next => by cases next; exact nofun⟩,.runTask willing rfl rfl⟩).snoc
      ⟨trivial,.playbackStopped (mem_singleton_self 1)⟩).snoc
      ⟨⟨⟨rfl,.inl rfl⟩,fun task tasks next => by cases next; exact fun _ => ⟨rfl,rfl⟩⟩,.runTask willing rfl rfl⟩
  have hquiescent := (activation_ends_once _ _ _ hrun).2 ⟨rfl,rfl,rfl⟩
  exact ⟨_,_,hrun,⟨rfl,rfl,rfl⟩,hquiescent.1,rfl,hquiescent.2 1 (by decide) (by decide)⟩

/-- An alert is deactivated before its renderer has run: the stop drops the pending start, finds nothing to
stop, and never ends. -/
theorem deactivated_before_start_wedges : ¬∀ (data : DynamicData) (events : List Event) (s : System),
      Run Step (init data) events s → Quiescent s → 0<s.activations →
      isWaiting s.data.state=false ∧ ∀ activation,0<activation → activation ≤ s.activations →
        ends s activation=1 := by
  intro hall
  have hrun : Run Step (init (Alert.new .alarm).dynamicData) _ _ :=
    (((Run.refl.snoc .activate).snoc .deactivate).snoc (.runTask willing rfl rfl)).snoc (.runTask willing rfl rfl)
  have hwrong := (hall _ _ _ hrun ⟨rfl,rfl,rfl⟩ (by decide)).1
  cases hwrong

end AlexaClientSDK.AlertRendering
