import Mathlib.Data.List.Range
import AlexaClientSDK.LabelledRuns
import AlexaClientSDK.NotificationsCapabilityAgent

/-!
# The order in which notifications are rendered

While the agent is playing, the renderer has the head of the stored queue, and an idle agent has nothing stored.
Notifications are rendered in order, and leave the queue then or are cleared. A renderer that refuses and a `clearData`
during a rendering break this. Otherwise only a notification that a restart has cut off is rendered again.
-/

namespace AlexaClientSDK.NotificationQueue

open Nat List LabelledRuns NotificationsCapabilityAgent System Task

structure Discipline (s : System) : Prop where
  /-- Its head is being rendered, or that end waits. -/
  playing : s.currentState=.playing → ∃ row rows,s.queue=row::rows ∧
    s.rendered.getLast?=some (s.restarts,row.number) ∧
    (s.rendering=some row.number ∨ s.rendering=none ∧ playFinished∈s.tasks)
  /-- An agent that has been initialised and is idle has nothing stored. -/
  idle : s.currentState=.idle → init∉s.tasks → s.queue=[]
  /-- Rendered as they were stored, none twice without a restart. -/
  ordered : s.rendered.Pairwise fun earlier later =>
    earlier.2<later.2 ∨ earlier.2=later.2 ∧ earlier.1<later.1
  /-- It was rendered before, and is not rendered again. -/
  dequeued : ∀ entry∈s.dequeued,entry∈s.rendered ∧
    ∀ other∈s.rendered,other.2=entry.2 → other.1≤entry.1
  /-- Nothing is taken from the queue while the renderer has it. -/
  ended : ∀ number,s.rendering=some number → number∉s.dequeued.map Prod.snd
  /-- It was taken from the queue or cleared, or is there. -/
  kept : (s.dequeued.map Prod.snd++s.cleared++s.queue.map Row.number).Perm (List.range s.stored)

/-- A notification with sound is among them. -/
def hasSound (rows : List Row) : Bool := rows.any fun row => row.indicator.playAudioIndicator

/-- A task asks the renderer to render a notification. -/
def asks (s : System) : Task → Bool
  | .init => hasSound s.queue
  | .setIndicator indicator => decide (s.currentState=.idle) && indicator.playAudioIndicator
  | .playFinished =>
    match s.currentState with
    | .playing => hasSound s.queue.tail
    | .cancelingPlay => hasSound s.queue
    | _ => false
  | _ => false

/-- Accepted, ends in time, and none is rendered at a clearing. -/
def Undisturbed (s : System) : Event → Prop
  | .clearData => s.currentState=.playing ∨ s.currentState=.cancelingPlay → s.queue=[]
  | .runTask accepts => ∀ task tasks,s.tasks=task::tasks → (asks s task=true → accepts=true ∧ s.rendering=none) ∧
      (task=.playFinished → s.currentState=.playing → s.rendering=none) ∧
      (task=.clearData → s.currentState≠.playing)
  | _ => True

variable {s s' : System}

/-- What holds of the numbers at every point of a task. -/
structure Numbered (s : System) : Prop where
  sorted : s.queue.Pairwise fun earlier later => earlier.number<later.number
  known : ∀ entry∈s.rendered,entry.2<s.stored ∧ entry.1 ≤ s.restarts
  behind : ∀ entry∈s.rendered,∀ row∈s.queue,entry.2≤row.number
  gone : ∀ entry∈s.dequeued,∀ row∈s.queue,entry.2<row.number
  ordered : s.rendered.Pairwise fun earlier later =>
    earlier.2<later.2 ∨ earlier.2=later.2 ∧ earlier.1<later.1
  dequeued : ∀ entry∈s.dequeued,entry∈s.rendered ∧
    ∀ other∈s.rendered,other.2=entry.2 → other.1≤entry.1
  /-- Rendered since the agent was started and not done. -/
  current : ∀ number,s.rendering=some number →
    (s.restarts,number)∈s.rendered ∧ number∉s.dequeued.map Prod.snd
  kept : (s.dequeued.map Prod.snd++s.cleared++s.queue.map Row.number).Perm (List.range s.stored)

open Numbered

/-- The data that the numbers are in. -/
def account (s : System) :=
  (s.queue,s.stored,s.restarts,s.rendered,s.dequeued,s.cleared,s.rendering)

/-- Nothing in the queue was rendered since the agent was started. -/
def Fresh (s : System) : Prop :=
  ∀ entry∈s.rendered,∀ row∈s.queue,entry.2=row.number → entry.1<s.restarts

variable {row : Row}

section

variable (h : Numbered s)
include h

theorem Numbered.stored (hrow : row∈s.queue) : row.number<s.stored := by
  have hmem : row.number∈s.dequeued.map Prod.snd++s.cleared++s.queue.map Row.number :=
    mem_append_right _ (mem_map_of_mem hrow)
  exact mem_range.mp (h.kept.mem_iff.mp hmem)

theorem Numbered.congr (hsame : account s'=account s) : Numbered s' := by
  simp only [account,Prod.mk.injEq] at hsame
  obtain ⟨hqueue,hstored,hrestarts,hrendered,hdequeued,hcleared,hrendering⟩ := hsame
  obtain ⟨hsorted,hknown,hbehind,hgone,hordered,htaken,hcurrent,hkept⟩ := h
  refine ⟨?_,?_,?_,?_,?_,?_,?_,?_⟩
  · rwa [hqueue]
  · rwa [hrendered,hstored,hrestarts]
  · rwa [hrendered,hqueue]
  · rwa [hdequeued,hqueue]
  · rwa [hrendered]
  · rwa [hdequeued,hrendered]
  · rwa [hrendering,hrestarts,hrendered,hdequeued]
  · rwa [hdequeued,hcleared,hqueue,hstored]

theorem Numbered.not_rendering (hfresh : Fresh s) (hrow : row∈s.queue) : s.rendering≠some row.number := by
  intro hrendering
  have hentry := (h.current row.number hrendering).1
  exact absurd (hfresh _ hentry row hrow rfl) (lt_irrefl _)

theorem numbered_enqueue (indicator : NotificationIndicator) : Numbered (s.enqueue indicator) := by
  have hmem : ∀ row∈s.queue++[⟨s.stored,indicator⟩],row∈s.queue ∨ row.number=s.stored := by
    intro row hrow
    rcases mem_append.mp hrow with hrow|hrow
    · exact .inl hrow
    · rw [mem_singleton.mp hrow]
      exact .inr rfl
  refine ⟨?_,?_,?_,?_,h.ordered,h.dequeued,h.current,?_⟩
  · refine pairwise_append.mpr ⟨h.sorted,pairwise_singleton _ _,?_⟩
    intro row hrow last hlast
    rw [mem_singleton.mp hlast]
    exact h.stored hrow
  · intro entry hentry
    obtain ⟨hlt,hle⟩ := h.known entry hentry
    exact ⟨lt_succ_of_lt hlt,hle⟩
  · intro entry hentry row hrow
    rcases hmem row hrow with hrow|hlast
    · exact h.behind entry hentry row hrow
    · rw [hlast]
      exact le_of_lt (h.known entry hentry).1
  · intro entry hentry row hrow
    rcases hmem row hrow with hrow|hlast
    · exact h.gone entry hentry row hrow
    · rw [hlast]
      exact (h.known entry (h.dequeued entry hentry).1).1
  · unfold enqueue
    rw [map_append,←append_assoc,range_succ]
    exact h.kept.append_right _

end

variable {rows : List Row}

/-- What holds between tasks. -/
structure Inv (s : System) : Prop where
  numbered : Numbered s
  playing : s.currentState=.playing → ∃ row rows,s.queue=row::rows ∧
    s.rendered.getLast?=some (s.restarts,row.number) ∧
    (s.rendering=some row.number ∨ s.rendering=none ∧ playFinished∈s.tasks)
  idle : s.currentState=.idle → init∉s.tasks → s.queue=[]
  /-- The queue is new after a cancellation and after a start. -/
  fresh : s.currentState=.cancelingPlay ∨ init∈s.tasks → Fresh s
  init : init∈s.tasks → s.currentState=.idle ∧
    ∃ tasks,s.tasks=.init::tasks ∧ init∉tasks

theorem Inv.discipline (h : Inv s) : Discipline s :=
  ⟨h.playing,h.idle,h.numbered.ordered,h.numbered.dequeued,
    fun number hrendering => (h.numbered.current number hrendering).2,h.numbered.kept⟩

/-- The invariant does not depend on the other fields. -/
theorem Inv.congr (h : Inv s) (hsame : account s'=account s) (hstate : s'.currentState=s.currentState)
    (htasks : s'.tasks=s.tasks) : Inv s' := by
  have hnumbered := h.numbered.congr hsame
  simp only [account,Prod.mk.injEq] at hsame
  obtain ⟨hqueue,_,hrestarts,hrendered,_,_,hrendering⟩ := hsame
  refine ⟨hnumbered,?_,?_,?_,?_⟩
  · rw [hstate,hqueue,hrendered,hrestarts,hrendering,htasks]
    exact h.playing
  · rw [hstate,htasks,hqueue]
    exact h.idle
  · unfold Fresh
    rw [hstate,htasks,hqueue,hrendered,hrestarts]
    exact h.fresh
  · rw [hstate,htasks]
    exact h.init

section

variable (h : Numbered s)
include h

theorem numbered_dequeue (hqueue : s.queue=row::rows)
    (hrendered : (s.restarts,row.number)∈s.rendered) (hdone : s.rendering≠some row.number) : Numbered s.dequeue := by
  have hresult : s.dequeue={s with
      queue := rows,dequeued := s.dequeued++[(s.restarts,row.number)]} := by
    unfold dequeue
    rw [hqueue]
  have hsorted := h.sorted
  rw [hqueue,pairwise_cons] at hsorted
  have hmem : ∀ later∈rows,later∈s.queue := by
    intro later hlater
    rw [hqueue]
    exact mem_cons_of_mem _ hlater
  rw [hresult]
  refine ⟨hsorted.2,h.known,?_,?_,h.ordered,?_,?_,?_⟩
  · intro entry hentry later hlater
    exact h.behind entry hentry later (hmem later hlater)
  · intro entry hentry later hlater
    rcases mem_append.mp hentry with hentry|hentry
    · exact h.gone entry hentry later (hmem later hlater)
    · rw [mem_singleton.mp hentry]
      exact hsorted.1 later hlater
  · intro entry hentry
    rcases mem_append.mp hentry with hentry|hentry
    · exact h.dequeued entry hentry
    · rw [mem_singleton.mp hentry]
      exact ⟨hrendered,fun other hother _ => (h.known other hother).2⟩
  · intro number hrendering
    obtain ⟨hentry,hnot⟩ := h.current number hrendering
    refine ⟨hentry,?_⟩
    intro hmem
    rw [map_append,mem_append] at hmem
    rcases hmem with hmem|hmem
    · exact hnot hmem
    · rw [mem_singleton.mp hmem] at hrendering
      exact hdone hrendering
  · have hkept := h.kept
    rw [hqueue] at hkept
    refine List.Perm.trans ?_ hkept
    simp only [map_append,map_cons,map_nil,append_assoc,singleton_append]
    refine List.Perm.append_left _ ?_
    exact perm_middle.symm

theorem numbered_clear : Numbered s.clearNotificationIndicators := by
  refine ⟨List.Pairwise.nil,h.known,?_,?_,h.ordered,h.dequeued,h.current,?_⟩
  · exact nofun
  · exact nofun
  · unfold clearNotificationIndicators
    rw [map_nil,append_nil,←append_assoc]
    exact h.kept

theorem numbered_logRendered (hfresh : Fresh s) (hqueue : s.queue=row::rows) : Numbered (s.logRendered row) := by
  have hhead : row∈s.queue := by
    rw [hqueue]
    exact mem_cons_self
  have hsorted := h.sorted
  rw [hqueue,pairwise_cons] at hsorted
  refine ⟨h.sorted,?_,?_,h.gone,?_,?_,?_,h.kept⟩
  · intro entry hentry
    rcases mem_append.mp hentry with hentry|hentry
    · exact h.known entry hentry
    · rw [mem_singleton.mp hentry]
      exact ⟨h.stored hhead,le_refl _⟩
  · intro entry hentry later hlater
    rcases mem_append.mp hentry with hentry|hentry
    · exact h.behind entry hentry later hlater
    · rw [mem_singleton.mp hentry]
      have hlater' : later∈s.queue := hlater
      rw [hqueue] at hlater'
      rcases mem_cons.mp hlater' with heq|hbehind
      · rw [heq]
      · exact le_of_lt (hsorted.1 later hbehind)
  · refine pairwise_append.mpr ⟨h.ordered,pairwise_singleton _ _,?_⟩
    intro entry hentry last hlast
    rw [mem_singleton.mp hlast]
    rcases lt_or_eq_of_le (h.behind entry hentry row hhead) with hlt|heq
    · exact .inl hlt
    · exact .inr ⟨heq,hfresh entry hentry row hhead heq⟩
  · intro entry hentry
    obtain ⟨hrendered,hlast⟩ := h.dequeued entry hentry
    refine ⟨mem_append_left _ hrendered,?_⟩
    intro other hother hsame
    rcases mem_append.mp hother with hother|hother
    · exact hlast other hother hsame
    · rw [mem_singleton.mp hother] at hsame
      exact absurd hsame (ne_of_gt (h.gone entry hentry row hhead))
  · intro number hrendering
    obtain ⟨hentry,hnot⟩ := h.current number hrendering
    exact ⟨mem_append_left _ hentry,hnot⟩

theorem Numbered.inv_other (hinit : init∉s.tasks) (hplaying : s.currentState≠.playing) (hidle : s.currentState≠.idle)
    (hcanceling : s.currentState≠.cancelingPlay) : Inv s := by
  refine ⟨h,fun hstate => absurd hstate hplaying,fun hstate => absurd hstate hidle,?_,fun hmem => absurd hmem hinit⟩
  rintro (hstate|hmem)
  · exact absurd hstate hcanceling
  · exact absurd hmem hinit

theorem Numbered.inv_empty (hinit : init∉s.tasks) (hqueue : s.queue=[])
    (hplaying : s.currentState≠.playing) : Inv s := by
  refine ⟨h,fun hstate => absurd hstate hplaying,fun _ _ => hqueue,?_,fun hmem => absurd hmem hinit⟩
  intro _ entry _ row hrow
  rw [hqueue] at hrow
  cases hrow

/-- The queue is new behind the head when the head was rendered. -/
theorem fresh_dequeue (hqueue : s.queue=row::rows) : Fresh s.dequeue := by
  have hresult : s.dequeue={s with
      queue := rows,dequeued := s.dequeued++[(s.restarts,row.number)]} := by
    unfold dequeue
    rw [hqueue]
  rw [hresult]
  intro entry hentry later hlater heq
  have hhead : row∈s.queue := by
    rw [hqueue]
    exact mem_cons_self
  have hsorted := h.sorted
  rw [hqueue,pairwise_cons] at hsorted
  have hle := h.behind entry hentry row hhead
  have hlt := hsorted.1 later hlater
  omega

end

variable {accepts : Bool}

theorem inv_renderNotification (h : Numbered s) (hfresh : Fresh s)
    (hqueue : s.queue=row::rows) (hinit : init∉s.tasks) (haccepts : accepts=true ∧ s.rendering=none) :
    Inv ((s.beginRendering row).renderNotification row accepts) := by
  have hnumbered := numbered_logRendered h hfresh hqueue
  have haccepts' : accepts=true ∧ (s.beginRendering row).rendering=none := haccepts
  unfold renderNotification
  rw [if_pos haccepts']
  refine ⟨⟨hnumbered.sorted,hnumbered.known,hnumbered.behind,hnumbered.gone,hnumbered.ordered,
    hnumbered.dequeued,?_,hnumbered.kept⟩,?_,?_,?_,fun hmem => absurd hmem hinit⟩
  · intro number hsome
    cases hsome
    refine ⟨mem_concat_self,?_⟩
    intro hmem
    obtain ⟨entry,hentry,heq⟩ := mem_map.mp hmem
    have hlt : entry.2<row.number := h.gone entry hentry row (by rw [hqueue]; exact mem_cons_self)
    exact absurd heq (Nat.ne_of_lt hlt)
  · intro _
    exact ⟨row,rows,hqueue,List.getLast?_concat,.inl rfl⟩
  · exact nofun
  · rintro (hstate|hmem)
    · cases hstate
    · exact absurd hmem hinit

theorem inv_finishLast (h : Numbered s) (hqueue : s.queue=[row])
    (hrendered : (s.restarts,row.number)∈s.rendered) (hdone : s.rendering≠some row.number)
    (hinit : init∉s.tasks) : Inv s.finishLast := by
  have hresult : s.dequeue={s with
      queue := [],dequeued := s.dequeued++[(s.restarts,row.number)]} := by
    unfold dequeue
    rw [hqueue]
  have hnumbered := numbered_dequeue h hqueue hrendered hdone
  rw [hresult] at hnumbered
  unfold finishLast
  rw [hresult]
  refine inv_empty (hnumbered.congr rfl) hinit rfl ?_
  exact nofun

theorem executePossibleIndicatorStateChange_eq (s : System) (state : IndicatorState) :
    s.executePossibleIndicatorStateChange state={s with indicatorState := state} := by
  unfold executePossibleIndicatorStateChange
  split
  · rfl
  · rename_i hsame
    rw [not_not.mp hsame]

theorem inv_renderQueue (accepts : Bool) (rows : List Row) : ∀ (row : Row) (s : System),
    s.queue=row::rows → Numbered s → Fresh s → init∉s.tasks →
    (hasSound (row::rows)=true → accepts=true ∧ s.rendering=none) → Inv (renderQueue accepts (row::rows) row s) := by
  induction rows with
  | nil =>
    intro row s hqueue h hfresh hinit haccepts
    rw [renderQueue.eq_def]
    split
    · rename_i hsound
      refine inv_renderNotification h hfresh hqueue hinit (haccepts ?_)
      unfold hasSound
      rw [any_cons,hsound]
      rfl
    · have hnumbered : Numbered (s.renderSilently row) :=
        (numbered_logRendered h hfresh hqueue).congr rfl
      have hhead : row∈s.queue := by
        rw [hqueue]
        exact mem_cons_self
      refine inv_finishLast hnumbered hqueue ?_ (h.not_rendering hfresh hhead) hinit
      exact mem_concat_self
  | cons next rows ih =>
    intro row s hqueue h hfresh hinit haccepts
    rw [renderQueue.eq_def]
    dsimp only
    split
    · rename_i hsound
      refine inv_renderNotification h hfresh hqueue hinit (haccepts ?_)
      unfold hasSound
      rw [any_cons,hsound]
      rfl
    · have hnumbered : Numbered (s.renderSilently row) :=
        (numbered_logRendered h hfresh hqueue).congr rfl
      have hlogged : (s.restarts,row.number)∈(s.renderSilently row).rendered :=
        mem_concat_self
      have hhead : row∈s.queue := by
        rw [hqueue]
        exact mem_cons_self
      have hdequeued := numbered_dequeue hnumbered hqueue hlogged (h.not_rendering hfresh hhead)
      have hfresh' := fresh_dequeue hnumbered hqueue
      have hresult : (s.renderSilently row).dequeue={s.renderSilently row with
          queue := next::rows
          dequeued := s.dequeued++[(s.restarts,row.number)]} := by
        have hqueue' : (s.renderSilently row).queue=row::next::rows := hqueue
        unfold dequeue
        rw [hqueue']
        rfl
      rw [hresult] at hdequeued hfresh' ⊢
      rw [executePossibleIndicatorStateChange_eq]
      refine ih next _ rfl (hdequeued.congr rfl) hfresh' hinit ?_
      intro hsound
      refine haccepts ?_
      unfold hasSound at hsound ⊢
      rw [any_cons,hsound]
      exact Bool.or_true _

section

variable (h : Numbered s)
  (hfresh : Fresh s)
  (hinit : init∉s.tasks)
  (hqueue : s.queue=row::rows)
  (haccepts : hasSound s.queue=true → accepts=true ∧ s.rendering=none)
include h hfresh hinit hqueue haccepts

theorem inv_executeRenderNotification : Inv (s.executeRenderNotification row accepts) := by
  unfold executeRenderNotification
  rw [hqueue] at haccepts ⊢
  exact inv_renderQueue accepts rows row s hqueue h hfresh hinit haccepts

theorem inv_renderNext : Inv (s.renderNext accepts) := by
  unfold renderNext
  split
  · rename_i hempty
    rw [hempty] at hqueue
    cases hqueue
  · rename_i first others hfirst
    rw [executePossibleIndicatorStateChange_eq]
    have hnumbered : Numbered {s with
        indicatorState := intToIndicatorState first.indicator.persistVisualIndicator} :=
      h.congr rfl
    exact inv_executeRenderNotification hnumbered hfresh hinit hfirst haccepts

end

theorem fresh_enqueue (h : Numbered s) (hfresh : Fresh s) (indicator : NotificationIndicator) :
    Fresh (s.enqueue indicator) := by
  intro entry hentry row hrow heq
  rcases mem_append.mp hrow with hrow|hrow
  · exact hfresh entry hentry row hrow heq
  · rw [mem_singleton.mp hrow] at heq
    exact absurd heq (Nat.ne_of_lt (h.known entry hentry).1)

section

variable (h : Inv s)
include h

section

variable (hinit : init∉s.tasks)
include hinit

theorem inv_enqueue (hidle : s.currentState≠.idle) (indicator : NotificationIndicator) : Inv (s.enqueue indicator) := by
  refine ⟨numbered_enqueue h.numbered indicator,?_,fun hstate => absurd hstate hidle,?_,fun hmem => absurd hmem hinit⟩
  · intro hplaying
    obtain ⟨row,rows,hqueue,hlast,hrendering⟩ := h.playing hplaying
    refine ⟨row,rows++[⟨s.stored,indicator⟩],?_,hlast,hrendering⟩
    unfold enqueue
    rw [hqueue,cons_append]
  · intro hwhere
    exact fresh_enqueue h.numbered (h.fresh hwhere) indicator

variable {indicator : NotificationIndicator}

/-- A notification is stored while something else is going on, or rendered. -/
theorem inv_storeAndRender (haccepts : s.currentState=.idle → indicator.playAudioIndicator=true →
      accepts=true ∧ s.rendering=none) : Inv (s.storeAndRender indicator accepts) := by
  unfold storeAndRender
  dsimp only
  rw [executePossibleIndicatorStateChange_eq]
  by_cases hidle : s.currentState=.idle
  · have hidle' : (s.enqueue indicator).currentState=.idle := hidle
    rw [if_pos hidle']
    have hempty := h.idle hidle hinit
    have hqueue : (s.enqueue indicator).queue=[⟨s.stored,indicator⟩] := by
      unfold enqueue
      rw [hempty]
      rfl
    have hfresh : Fresh s := by
      intro entry _ row hrow
      rw [hempty] at hrow
      cases hrow
    have hnumbered : Numbered {s.enqueue indicator with
        indicatorState := intToIndicatorState indicator.persistVisualIndicator} :=
      (numbered_enqueue h.numbered indicator).congr rfl
    have hwilling : hasSound (s.enqueue indicator).queue=true → accepts=true ∧ s.rendering=none := by
      intro hsound
      rw [hqueue] at hsound
      refine haccepts hidle ?_
      simpa [hasSound] using hsound
    have hrendered := inv_executeRenderNotification hnumbered
      (fresh_enqueue h.numbered hfresh indicator) hinit hqueue hwilling
    exact hrendered.congr rfl rfl rfl
  · have hidle' : (s.enqueue indicator).currentState≠.idle := hidle
    rw [if_neg hidle']
    exact (inv_enqueue h hinit hidle indicator).congr rfl rfl rfl

theorem inv_executeSetIndicator (haccepts : s.currentState=.idle → indicator.playAudioIndicator=true →
      accepts=true ∧ s.rendering=none) : Inv (s.executeSetIndicator indicator accepts) := by
  unfold executeSetIndicator
  split
  · split
    · exact h
    · exact inv_storeAndRender h hinit haccepts
  · exact inv_storeAndRender h hinit haccepts
  · exact inv_storeAndRender h hinit haccepts
  · rename_i hstate
    have hidle : s.currentState≠.idle := by
      rw [hstate]
      exact nofun
    exact (inv_enqueue h hinit hidle indicator).congr rfl rfl rfl
  · exact h

theorem inv_executeClearIndicator : Inv s.executeClearIndicator := by
  have hcleared := numbered_clear h.numbered
  unfold executeClearIndicator
  split
  · exact h
  · rw [executePossibleIndicatorStateChange_eq]
    refine inv_empty (hcleared.congr rfl) hinit rfl ?_
    exact nofun
  all_goals
    rename_i hstate
    rw [executePossibleIndicatorStateChange_eq]
    refine inv_empty (hcleared.congr rfl) hinit rfl ?_
    intro hplaying
    have hplaying' : s.currentState=.playing := hplaying
    rw [hstate] at hplaying'
    cases hplaying'

theorem inv_executeShutdown : Inv s.executeShutdown := by
  have hother : ∀ state : AgentState,state=.shuttingDown ∨ state=.shutdown → Inv (s.executeSetState state) := by
    intro state hstate
    refine inv_other (h.numbered.congr rfl) hinit ?_ ?_ ?_
    all_goals
      rcases hstate with rfl|rfl
      · exact nofun
      · exact nofun
  unfold executeShutdown
  split
  · exact hother .shutdown (.inr rfl)
  · exact hother .shuttingDown (.inl rfl)
  · exact hother .shuttingDown (.inl rfl)
  · exact h
  · exact h

theorem inv_executeClearData (hplaying : s.currentState≠.playing) : Inv s.executeClearData :=
  inv_empty ((numbered_clear h.numbered).congr rfl) hinit rfl hplaying

end

end

theorem inv_executePlayFinishedZeroQueued (h : Numbered s) (hinit : init∉s.tasks)
    (hqueue : s.queue=[]) : Inv s.executePlayFinishedZeroQueued := by
  unfold executePlayFinishedZeroQueued
  split
  case h_4 =>
    refine inv_empty (h.congr rfl) hinit hqueue ?_
    exact nofun
  case h_5 hstate =>
    refine inv_empty (h.congr rfl) hinit hqueue ?_
    rw [hstate]
    exact nofun
  all_goals
    refine inv_empty (h.congr rfl) hinit hqueue ?_
    exact nofun

/-- The end of a rendering while the agent shuts down. -/
theorem inv_executeSetState_shutdown (h : Numbered s) (hinit : init∉s.tasks) : Inv (s.executeSetState .shutdown) := by
  refine inv_other (h.congr rfl) hinit ?_ ?_ ?_
  all_goals
    exact nofun

/-- A rendering that is over, in a state before its end is handled. -/
structure Over (s : System) (accepts : Bool) : Prop where
  numbered : Numbered s
  init : init∉s.tasks
  playing : s.currentState=.playing → s.rendering=none ∧ ∃ row rows,s.queue=row::rows ∧
    (s.restarts,row.number)∈s.rendered
  idle : s.currentState=.idle → s.queue=[]
  canceling : s.currentState=.cancelingPlay → Fresh s
  accepts : asks s .playFinished=true → accepts=true ∧ s.rendering=none

section

variable (h : Over s accepts)
include h

theorem Over.inv_canceling (hstate : s.currentState=.cancelingPlay) (hqueue : s.queue=row::rows) :
    Inv (s.renderNext accepts) := by
  have haccepts := h.accepts
  unfold asks at haccepts
  rw [hstate] at haccepts
  exact inv_renderNext h.numbered (h.canceling hstate) h.init hqueue haccepts

theorem inv_executePlayFinishedOneQueued (hqueue : s.queue=[row]) : Inv (s.executePlayFinishedOneQueued accepts) := by
  unfold executePlayFinishedOneQueued
  split
  · rename_i hstate
    rw [h.idle hstate] at hqueue
    cases hqueue
  · rename_i hstate
    obtain ⟨hnone,head,rows,hhead,hrendered⟩ := h.playing hstate
    rw [hqueue] at hhead
    cases hhead
    refine inv_finishLast h.numbered hqueue hrendered ?_ h.init
    rw [hnone]
    exact (Option.some_ne_none _).symm
  · rename_i hstate
    exact h.inv_canceling hstate hqueue
  · exact inv_executeSetState_shutdown h.numbered h.init
  · rename_i hstate
    refine inv_other h.numbered h.init ?_ ?_ ?_
    all_goals
      rw [hstate]
      exact nofun

/-- The end of a rendering with more than one notification stored. -/
theorem inv_executePlayFinishedMultipleQueued {next : Row} (hqueue : s.queue=row::next::rows) :
    Inv (s.executePlayFinishedMultipleQueued accepts) := by
  unfold executePlayFinishedMultipleQueued
  split
  · rename_i hstate
    rw [h.idle hstate] at hqueue
    cases hqueue
  · rename_i hstate
    obtain ⟨hnone,head,others,hhead,hrendered⟩ := h.playing hstate
    rw [hqueue] at hhead
    cases hhead
    have hdone : s.rendering≠some row.number := by
      rw [hnone]
      exact (Option.some_ne_none _).symm
    have hnumbered := numbered_dequeue h.numbered hqueue hrendered hdone
    have hfresh := fresh_dequeue h.numbered hqueue
    have hresult : s.dequeue={s with
        queue := next::rows,dequeued := s.dequeued++[(s.restarts,row.number)]} := by
      unfold dequeue
      rw [hqueue]
    have haccepts := h.accepts
    unfold asks at haccepts
    rw [hstate,hqueue] at haccepts
    rw [hresult] at hnumbered hfresh ⊢
    exact inv_renderNext hnumbered hfresh h.init rfl haccepts
  · rename_i hstate
    exact h.inv_canceling hstate hqueue
  · exact inv_executeSetState_shutdown h.numbered h.init
  · rename_i hstate
    refine inv_other h.numbered h.init ?_ ?_ ?_
    all_goals
      rw [hstate]
      exact nofun

theorem inv_executeOnPlayFinished : Inv (s.executeOnPlayFinished accepts) := by
  have hover : Over {s with currentAssetId := ""} accepts :=
    ⟨h.numbered.congr rfl,h.init,h.playing,h.idle,h.canceling,h.accepts⟩
  unfold executeOnPlayFinished
  dsimp only
  split
  · rename_i hqueue
    exact inv_executePlayFinishedZeroQueued hover.numbered hover.init hqueue
  · rename_i row hqueue
    exact inv_executePlayFinishedOneQueued hover hqueue
  · rename_i row next rows hqueue
    exact inv_executePlayFinishedMultipleQueued hover hqueue

end

theorem inv_executeInit (h : Numbered s) (hinit : init∉s.tasks) (hidle : s.currentState=.idle)
    (hfresh : Fresh s) (haccepts : hasSound s.queue=true → accepts=true ∧ s.rendering=none) :
    Inv (s.executeInit accepts) := by
  have hnumbered : Numbered {s with
      isEnabled := decide (s.queue≠[] ∨ s.indicatorState=.on)} := h.congr rfl
  unfold executeInit
  dsimp only
  split
  · rename_i hstored
    obtain ⟨row,rows,hqueue⟩ := exists_cons_of_ne_nil hstored.1
    exact inv_renderNext hnumbered hfresh hinit hqueue haccepts
  · rename_i hstored
    have hempty : s.queue=[] := by
      by_contra hne
      exact hstored ⟨hne,hidle⟩
    refine hnumbered.inv_empty hinit hempty ?_
    rw [hidle]
    exact nofun

variable {task : Task} {tasks : List Task}

theorem inv_new : Inv new := by
  refine ⟨⟨List.Pairwise.nil,?_,?_,?_,List.Pairwise.nil,?_,?_,List.Perm.refl _⟩,?_,fun _ _ => rfl,?_,?_⟩
  · exact nofun
  · exact nofun
  · exact nofun
  · exact nofun
  · exact nofun
  · exact nofun
  · exact nofun
  · intro _
    refine ⟨rfl,[],rfl,?_⟩
    exact nofun

section

variable (h : Inv s)
include h

theorem Inv.not_init (next : s.tasks=task::tasks) (htask : task≠.init) : Task.init∉s.tasks := by
  intro hmem
  obtain ⟨_,others,hfirst,_⟩ := h.init hmem
  rw [next] at hfirst
  cases hfirst
  exact htask rfl

theorem inv_pop (next : s.tasks=task::tasks) (htask : task≠.init) (hfinished : task≠.playFinished) :
    Inv {s with tasks := tasks} ∧ Task.init∉tasks := by
  have hinit := h.not_init next htask
  have hinit' : Task.init∉tasks := by
    intro hmem
    rw [next] at hinit
    exact hinit (mem_cons_of_mem _ hmem)
  refine ⟨⟨h.numbered.congr rfl,?_,?_,?_,fun hmem => absurd hmem hinit'⟩,hinit'⟩
  · intro hplaying
    obtain ⟨row,rows,hqueue,hlast,hrendering⟩ := h.playing hplaying
    refine ⟨row,rows,hqueue,hlast,?_⟩
    rcases hrendering with hrendering|⟨hnone,hmem⟩
    · exact .inl hrendering
    · rw [next] at hmem
      rcases mem_cons.mp hmem with heq|hmem
      · exact absurd heq.symm hfinished
      · exact .inr ⟨hnone,hmem⟩
  · intro hidle _
    exact h.idle hidle hinit
  · rintro (hstate|hmem)
    · exact h.fresh (.inl hstate)
    · exact absurd hmem hinit'

theorem inv_runTask (next : s.tasks=task::tasks) (haccepts : asks s task=true → accepts=true ∧ s.rendering=none)
    (hover : task=.playFinished → s.currentState=.playing → s.rendering=none)
    (hclear : task=.clearData → s.currentState≠.playing) :
    Inv (({s with tasks := tasks} : System).runTask accepts task) := by
  cases task with
  | init =>
    obtain ⟨hidle,others,hothers,hinit⟩ := h.init (by rw [next]; exact mem_cons_self)
    have hsame : tasks=others := by
      rw [next] at hothers
      exact (List.cons.inj hothers).2
    rw [←hsame] at hinit
    have hfresh := h.fresh (.inr (by rw [next]; exact mem_cons_self))
    have hnumbered : Numbered {s with tasks := tasks} := h.numbered.congr rfl
    exact inv_executeInit hnumbered hinit hidle hfresh haccepts
  | setIndicator =>
    obtain ⟨hpopped,hinit⟩ := inv_pop h next nofun nofun
    refine inv_executeSetIndicator hpopped hinit ?_
    intro hidle hsound
    have hidle' : s.currentState=.idle := hidle
    refine haccepts ?_
    unfold asks
    dsimp only
    rw [hidle',hsound]
    rfl
  | clearIndicator =>
    obtain ⟨hpopped,hinit⟩ := inv_pop h next nofun nofun
    exact inv_executeClearIndicator hpopped hinit
  | playFinished =>
    have hinit := h.not_init next nofun
    refine inv_executeOnPlayFinished ⟨h.numbered.congr rfl,?_,?_,?_,?_,haccepts⟩
    · intro hmem
      rw [next] at hinit
      exact hinit (mem_cons_of_mem _ hmem)
    · intro hplaying
      obtain ⟨row,rows,hqueue,hlast,_⟩ := h.playing hplaying
      exact ⟨hover rfl hplaying,row,rows,hqueue,mem_of_getLast? hlast⟩
    · intro hidle
      exact h.idle hidle hinit
    · intro hcanceling
      exact h.fresh (.inl hcanceling)
  | clearData =>
    obtain ⟨hpopped,hinit⟩ := inv_pop h next nofun nofun
    exact inv_executeClearData hpopped hinit (hclear rfl)
  | shutdown =>
    obtain ⟨hpopped,hinit⟩ := inv_pop h next nofun nofun
    exact inv_executeShutdown hpopped hinit

theorem inv_submit (htask : task≠.init) : Inv (s.submit task) := by
  have hinit : init∈s.tasks++[task] → init∈s.tasks := by
    intro hmem
    rcases mem_append.mp hmem with hmem|hmem
    · exact hmem
    · exact absurd (mem_singleton.mp hmem).symm htask
  refine ⟨h.numbered.congr rfl,?_,?_,?_,?_⟩
  · intro hplaying
    obtain ⟨row,rows,hqueue,hlast,hrendering⟩ := h.playing hplaying
    refine ⟨row,rows,hqueue,hlast,?_⟩
    rcases hrendering with hrendering|⟨hnone,hmem⟩
    · exact .inl hrendering
    · exact .inr ⟨hnone,mem_append_left _ hmem⟩
  · intro hidle hnot
    exact h.idle hidle fun hmem => hnot (mem_append_left _ hmem)
  · rintro (hstate|hmem)
    · exact h.fresh (.inl hstate)
    · exact h.fresh (.inr (hinit hmem))
  · intro hmem
    obtain ⟨hidle,tasks,hfirst,hnot⟩ := h.init (hinit hmem)
    refine ⟨hidle,tasks++[task],?_,?_⟩
    · unfold submit
      rw [hfirst,cons_append]
    · intro hmem'
      rcases mem_append.mp hmem' with hmem'|hmem'
      · exact hnot hmem'
      · exact htask (mem_singleton.mp hmem').symm

theorem inv_renderingFinished : Inv (({s with rendering := none} : System).submit .playFinished) := by
  have hsubmitted : Inv (s.submit .playFinished) := inv_submit h nofun
  obtain ⟨hsorted,hknown,hbehind,hgone,hordered,hdequeued,_,hkept⟩ := h.numbered
  refine ⟨⟨hsorted,hknown,hbehind,hgone,hordered,hdequeued,?_,hkept⟩,?_,hsubmitted.idle,
    hsubmitted.fresh,hsubmitted.init⟩
  · exact nofun
  · intro hplaying
    obtain ⟨row,rows,hqueue,hlast,_⟩ := h.playing hplaying
    exact ⟨row,rows,hqueue,hlast,.inr ⟨rfl,mem_concat_self⟩⟩

/-- `clearData`, when nothing that is stored is being rendered or cancelled. -/
theorem inv_clearData (hqueue : s.currentState=.playing ∨ s.currentState=.cancelingPlay → s.queue=[]) :
    Inv s.clearData := by
  refine inv_submit ?_ nofun
  split
  · exact h
  · rename_i hrunning
    have hidle : s.currentState=.playing ∨ s.currentState=.cancelingPlay ∨ s.currentState=.idle := by
      cases hstate : s.currentState with
      | idle => exact .inr (.inr rfl)
      | playing => exact .inl rfl
      | cancelingPlay => exact .inr (.inl rfl)
      | shuttingDown => exact absurd (.inr hstate) hrunning
      | shutdown => exact absurd (.inl hstate) hrunning
    refine ⟨h.numbered.congr rfl,?_,?_,?_,?_⟩
    · exact nofun
    · intro _ hinit
      rcases hidle with hstate|hstate|hstate
      · exact hqueue (.inl hstate)
      · exact hqueue (.inr hstate)
      · exact h.idle hstate hinit
    · rintro (hstate|hmem)
      · cases hstate
      · exact h.fresh (.inr hmem)
    · intro hmem
      exact ⟨rfl,(h.init hmem).2⟩

theorem inv_restart : Inv s.restart := by
  obtain ⟨hsorted,hknown,hbehind,hgone,hordered,hdequeued,_,hkept⟩ := h.numbered
  have hknown' : ∀ entry∈s.rendered,entry.2<s.stored ∧ entry.1 ≤ s.restarts+1 := by
    intro entry hentry
    exact ⟨(hknown entry hentry).1,le_succ_of_le (hknown entry hentry).2⟩
  refine ⟨⟨hsorted,hknown',hbehind,hgone,hordered,hdequeued,?_,hkept⟩,?_,?_,?_,?_⟩
  · exact nofun
  · exact nofun
  · intro _ hinit
    exact absurd mem_cons_self hinit
  · intro _ entry hentry row _ _
    exact lt_succ_of_le (hknown entry hentry).2
  · intro _
    refine ⟨rfl,[],rfl,?_⟩
    exact nofun

/-- Every step that meets the condition keeps the invariant. -/
theorem inv_step {event : Event} (hundisturbed : Undisturbed s event) (hstep : Step s event s') : Inv s' := by
  cases hstep with
  | setIndicator | clearIndicator | shutdown => exact inv_submit h nofun
  | renderingFinished => exact inv_renderingFinished h
  | clearData => exact inv_clearData h hundisturbed
  | restart => exact inv_restart h
  | runTask accepts next =>
    obtain ⟨haccepts,hover,hclear⟩ := hundisturbed _ _ next
    exact inv_runTask h next haccepts hover hclear

end

/-- In every run whose steps meet the condition, the discipline is kept. -/
theorem queue_discipline (events : List Event) (s : System)
    (run : Run (Guarded Step Undisturbed) new events s) : Discipline s := by
  have hinv : Inv s :=
    run.invariant Inv inv_new fun s event t h hstep => inv_step h hstep.1 hstep.2
  exact hinv.discipline

theorem undisturbed_runTask (next : s.tasks=task::tasks) (hcondition : (asks s task=true → accepts=true ∧ s.rendering=none) ∧
      (task=.playFinished → s.currentState=.playing → s.rendering=none) ∧
      (task=.clearData → s.currentState≠.playing)) : Undisturbed s (.runTask accepts) := by
  intro task' tasks' next'
  rw [next] at next'
  cases next'
  exact hcondition

/-- A notification with sound, or without. -/
def sampleIndicator (sound : Bool) (assetId : String) : NotificationIndicator :=
  ⟨true,sound,assetId,assetId⟩

/-- Two are stored while the first is rendered, one without sound. -/
theorem queue_discipline_three : ∃ (events : List Event) (s : System),
      Run (Guarded Step Undisturbed) new events s ∧ Discipline s ∧
      s.currentState=.playing ∧ s.rendered=[(0,0),(0,1),(0,2)] ∧ s.dequeued=[(0,0),(0,1)] := by
  have hrun : Run (Guarded Step Undisturbed) new [.runTask true,.setIndicator (sampleIndicator true "a"),.runTask true,
        .setIndicator (sampleIndicator false ""),.runTask true,
        .setIndicator (sampleIndicator true "c"),.runTask true,.renderingFinished,.runTask true] _ :=
    ((((((((Run.refl.snoc ⟨undisturbed_runTask rfl (by decide),.runTask true rfl⟩).snoc
      ⟨trivial,.setIndicator (sampleIndicator true "a")⟩).snoc
      ⟨undisturbed_runTask rfl (by decide),.runTask true rfl⟩).snoc
      ⟨trivial,.setIndicator (sampleIndicator false "")⟩).snoc
      ⟨undisturbed_runTask rfl (by decide),.runTask true rfl⟩).snoc
      ⟨trivial,.setIndicator (sampleIndicator true "c")⟩).snoc
      ⟨undisturbed_runTask rfl (by decide),.runTask true rfl⟩).snoc
      ⟨trivial,.renderingFinished (by decide)⟩).snoc
      ⟨undisturbed_runTask rfl (by decide),.runTask true rfl⟩
  exact ⟨_,_,hrun,queue_discipline _ _ hrun,by decide +kernel,by decide +kernel,by decide +kernel⟩

/-- A renderer that refuses a notification leaves the agent idle with it. -/
theorem refused_stays_queued : ¬∀ (events : List Event) (s : System),Run Step new events s → Discipline s := by
  intro hall
  have hrun : Run Step new _ _ :=
    ((Run.refl.snoc (.runTask true rfl)).snoc (.setIndicator (sampleIndicator true "a"))).snoc (.runTask false rfl)
  have hqueue := (hall _ _ hrun).idle (by decide) (by decide)
  revert hqueue
  decide

end AlexaClientSDK.NotificationQueue
