import AlexaClientSDK.ExecutorProgress

/-!
# The executor delivers every task once and in order

What was accepted is in the queue, is running, has run or was removed by `shutdown`. The tasks given to `submit` start
in the order in which they came. `waitForSubmittedTasks` puts a function behind everything that was queued, and
`shutdown` waits in the same way, so nothing runs after it.
-/

namespace AlexaClientSDK.ExecutorDelivery

open Function List LabelledRuns Executor ExecutorLocks ExecutorProgress System

structure Delivers (s : System) : Prop where
  single : ∀ i j job job',s.stage i=.runs job → s.stage j=.runs job' → i=j
  /-- Started, in the queue or removed, and only once. -/
  once : ((s.started++tasksOf s.queue++s.removed).map Task.number).Perm (List.range s.submitted)
  ran : ∀ task∈s.started,task∈s.finished ∨ ∃ id,s.stage id=.runs (.task task)
  removed : s.removed≠[] → s.isShutdown=true
  /-- The tasks given to `submit` are started in the order in which they came. -/
  ordered : (s.started.filter fun task => !task.front).Pairwise fun earlier later =>
    earlier.number<later.number
  /-- Somebody looks at it, or a thread is being started. -/
  served : s.queue≠[] → s.pushing≠none ∨ ∃ id,serves (s.stage id)=true
  /-- It has returned after everything that was queued before. -/
  waited : ∀ waiter∈s.returned,∀ task∈waiter.before,task∈s.finished
  quiet : ∀ waiter∈s.returned,waiter.shutdown=true →
    tasksOf s.queue=[] ∧ ∀ id task,s.stage id≠.runs (.task task)
  /-- When no thread can go on, every accepted task has run or was removed. -/
  complete : Stuck s → ((s.finished++s.removed).map Task.number).Perm (List.range s.submitted)
  /-- Left to themselves the threads of the executor come to that point. -/
  settles : ∃ bound,∀ events s',Run Internal s events s' → events.length≤bound

def current (s : System) : List Task :=
  match s.taskMutex with
  | some (.worker id) =>
    match s.stage id with
    | .runs job => job.toTask.toList
    | _ => []
  | _ => []

variable {s s' : System} {id : ℕ} {job : Job}

/-- The worker that runs something holds the mutex. -/
theorem current_of_runs (h : Locked s) (hruns : s.stage id=.runs job) : current s=job.toTask.toList := by
  have hmutex := (h.holder id).mp (by rw [hruns]; rfl)
  unfold current
  rw [hmutex]
  dsimp only
  rw [hruns]

theorem current_of_idle (hidle : ∀ id job,s.stage id≠.runs job) : current s=[] := by
  unfold current
  split
  · split
    · rename_i hruns
      exact absurd hruns (hidle _ _)
    · rfl
  · rfl

theorem Locked.idle_of_holder (h : Locked s) (hinside : inside (s.stage id)=true)
    (hnot : ∀ job,s.stage id≠.runs job) : ∀ j job,s.stage j≠.runs job := by
  intro j job hj
  have hmutex := (h.holder id).mp hinside
  rw [(h.holder j).mp (by rw [hj]; rfl)] at hmutex
  cases hmutex
  exact hnot job hj

/-- When no thread is running, nobody runs anything. -/
theorem Locked.idle_of_not_running (h : Locked s) (hrunning : s.threadRunning≠true) :
    ∀ id job,s.stage id≠.runs job := by
  intro id job hruns
  exact hrunning (h.running.mpr ⟨id,by rw [hruns]; rfl⟩)

/-- A step in which nobody begins or ends anything. -/
theorem current_congr (h : Locked s) (h' : Locked s')
    (hruns : ∀ id job,s'.stage id=.runs job ↔ s.stage id=.runs job) : current s'=current s := by
  by_cases hany : ∃ id job,s.stage id=.runs job
  · obtain ⟨id,job,hstage⟩ := hany
    rw [current_of_runs h hstage,current_of_runs h' ((hruns id job).mpr hstage)]
  · have hidle : ∀ id job,s.stage id≠.runs job := fun id job hstage => hany ⟨id,job,hstage⟩
    rw [current_of_idle hidle,current_of_idle fun id job hstage => hidle id job ((hruns id job).mp hstage)]

/-- Behind the tasks that it waits for. -/
def Flushed (done : List Task) : List Job → Prop
  | [] => True
  | .task task::queue => Flushed (done++[task]) queue
  | .flush waiter::queue => (∀ task∈waiter.before,task∈done) ∧ Flushed done queue

variable {queue : List Job}

theorem Flushed.mono : ∀ {done done' : List Task},done ⊆ done' → Flushed done queue → Flushed done' queue := by
  induction queue with
  | nil =>
    intro done done' _ _
    exact trivial
  | cons job queue ih =>
    intro done done' hsub h
    cases job with
    | task => exact ih (append_subset.mpr ⟨fun x hx => mem_append_left _ (hsub hx),subset_append_right _ _⟩) h
    | flush => exact ⟨fun task htask => hsub (h.1 task htask),ih hsub h.2⟩

theorem Flushed.append_task (task : Task) : ∀ {done : List Task},Flushed done queue →
    Flushed done (queue++[.task task]) := by
  induction queue with
  | nil =>
    intro done _
    exact trivial
  | cons job queue ih =>
    intro done h
    cases job with
    | task => exact ih h
    | flush => exact ⟨h.1,ih h.2⟩

theorem Flushed.append_flush (waiter : Waiter) : ∀ {done : List Task},
    (∀ task∈waiter.before,task∈done++tasksOf queue) → Flushed done queue → Flushed done (queue++[.flush waiter]) := by
  induction queue with
  | nil =>
    intro done hbefore _
    refine ⟨?_,trivial⟩
    intro task htask
    have hmem := hbefore task htask
    rwa [tasksOf,filterMap_nil,append_nil] at hmem
  | cons job queue ih =>
    intro done hbefore h
    cases job with
    | task =>
      refine ih ?_ h
      intro task htask
      have hmem := hbefore task htask
      rw [append_assoc,singleton_append]
      exact hmem
    | flush => exact ⟨h.1,ih hbefore h.2⟩

theorem tasksOf_append (queue queue' : List Job) : tasksOf (queue++queue')=tasksOf queue++tasksOf queue' :=
  filterMap_append

structure Delivered (s : System) : Prop where
  /-- What was started has run, but for the task that is running. -/
  ran : s.started=s.finished++current s
  kept : ((s.started++tasksOf s.queue++s.removed).map Task.number).Perm (List.range s.submitted)
  ordered : ((s.started++tasksOf s.queue).filter fun task => !task.front).Pairwise fun earlier later =>
    earlier.number<later.number
  /-- Functions that set a promise are behind what they wait for. -/
  flushed : Flushed s.started s.queue
  flushing : ∀ id waiter,s.stage id=.runs (.flush waiter) → ∀ task∈waiter.before,task∈s.finished
  returned : ∀ waiter∈s.returned,∀ task∈waiter.before,task∈s.finished
  shut : s.isShutdown=true → tasksOf s.queue=[]
  removed : s.removed≠[] → s.isShutdown=true
  closing : 0<s.closing → s.isShutdown=true
  queued : ∀ waiter,Job.flush waiter∈s.queue → waiter.shutdown=true → s.isShutdown=true
  running : ∀ id waiter,s.stage id=.runs (.flush waiter) → waiter.shutdown=true → s.isShutdown=true
  quiet : ∀ waiter∈s.returned,waiter.shutdown=true → s.isShutdown=true ∧ current s=[]

/-- What a step leaves alone in which nobody begins or ends anything. -/
def account (s : System) :=
  (s.started,s.finished,s.removed,s.returned,s.submitted,s.closing,s.isShutdown,s.queue)

/-- Nobody begins or ends anything, and the queue stays. -/
theorem Delivered.congr (h : Delivered s) (hlocked : Locked s) (hlocked' : Locked s')
    (hruns : ∀ id job,s'.stage id=.runs job ↔ s.stage id=.runs job) (hsame : account s'=account s) :
    Delivered s' := by
  simp only [account,Prod.mk.injEq] at hsame
  obtain ⟨hstarted,hfinished,hremoved,hreturned,hsubmitted,hclosing,hshutdown,hqueue⟩ := hsame
  have hcurrent := current_congr hlocked hlocked' hruns
  refine ⟨?_,?_,?_,?_,?_,?_,?_,?_,?_,?_,?_,?_⟩
  · rw [hstarted,hfinished,hcurrent]
    exact h.ran
  · rw [hstarted,hqueue,hremoved,hsubmitted]
    exact h.kept
  · rw [hstarted,hqueue]
    exact h.ordered
  · rw [hstarted,hqueue]
    exact h.flushed
  · intro id waiter hstage
    rw [hfinished]
    exact h.flushing id waiter ((hruns id _).mp hstage)
  · rw [hreturned,hfinished]
    exact h.returned
  · rw [hshutdown,hqueue]
    exact h.shut
  · rw [hremoved,hshutdown]
    exact h.removed
  · rw [hclosing,hshutdown]
    exact h.closing
  · rw [hqueue,hshutdown]
    exact h.queued
  · intro id waiter hstage
    rw [hshutdown]
    exact h.running id waiter ((hruns id _).mp hstage)
  · rw [hreturned,hshutdown,hcurrent]
    exact h.quiet

/-- A worker goes on that neither begins nor ends anything. -/
theorem runs_update {stage : Stage} (hfrom : ∀ job,s.stage id≠.runs job)
    (hto : ∀ job,stage≠.runs job) (hstage : s'.stage=update s.stage id stage) :
    ∀ j job,s'.stage j=.runs job ↔ s.stage j=.runs job := by
  intro j job
  rw [hstage]
  by_cases hj : j=id
  · rw [hj,update_self]
    exact iff_of_false (hto job) (hfrom job)
  · rw [update_of_ne hj]

theorem tasksOf_push (queue : List Job) (task : Task) (front : Bool) :
    (tasksOf (if front then .task task::queue else queue++[.task task])).Perm (task::tasksOf queue) := by
  cases front with
  | true => exact List.Perm.refl _
  | false =>
    change (tasksOf (queue++[.task task])).Perm _
    rw [tasksOf_append]
    exact perm_append_singleton _ _

variable {task : Task}

section

variable (h : Delivered s)
include h

theorem Delivered.number_lt (hmem : task∈s.started++tasksOf s.queue) : task.number<s.submitted := by
  refine mem_range.mp (h.kept.mem_iff.mp ?_)
  exact mem_map_of_mem (mem_append_left _ hmem)

theorem Delivered.ordered_push (front : Bool) : ((s.started++tasksOf (if front then .task ⟨s.submitted,front⟩::s.queue
      else s.queue++[.task ⟨s.submitted,front⟩])).filter fun task => !task.front).Pairwise
        fun earlier later => earlier.number<later.number := by
  cases front with
  | true =>
    -- a task at the front was not given to `submit`
    have hfilter : ((s.started++tasksOf (.task ⟨s.submitted,true⟩::s.queue)).filter fun task => !task.front) =
        (s.started++tasksOf s.queue).filter fun task => !task.front := by
      rw [filter_append,filter_append]
      rfl
    change ((s.started++tasksOf (.task ⟨s.submitted,true⟩::s.queue)).filter fun task => !task.front).Pairwise _
    rw [hfilter]
    exact h.ordered
  | false =>
    change ((s.started++tasksOf (s.queue++[.task ⟨s.submitted,false⟩])).filter fun task => !task.front).Pairwise _
    rw [tasksOf_append,←append_assoc,filter_append]
    refine pairwise_append.mpr ⟨h.ordered,pairwise_singleton _ _,?_⟩
    intro earlier hearlier later hlater
    rw [mem_singleton.mp hlater]
    exact h.number_lt (mem_of_mem_filter hearlier)

theorem Delivered.push (hopen : s.isShutdown≠true) (front : Bool)
    (hcurrent : current s'=current s) (hstage : s'.stage=s.stage)
    (hsame : account s'=account {s with
      submitted := s.submitted+1
      queue := if front then .task ⟨s.submitted,front⟩::s.queue else s.queue++[.task ⟨s.submitted,front⟩]}) :
    Delivered s' := by
  simp only [account,Prod.mk.injEq] at hsame
  obtain ⟨hstarted,hfinished,hremoved,hreturned,hsubmitted,hclosing,hshutdown,hqueue⟩ := hsame
  refine ⟨?_,?_,?_,?_,?_,?_,?_,?_,?_,?_,?_,?_⟩
  · rw [hstarted,hfinished,hcurrent]
    exact h.ran
  · rw [hstarted,hqueue,hremoved,hsubmitted,range_succ]
    have hpush := ((tasksOf_push s.queue ⟨s.submitted,front⟩ front).append_left s.started).append_right s.removed
    have hmiddle : (s.started++(⟨s.submitted,front⟩::tasksOf s.queue)++s.removed).Perm
        (⟨s.submitted,front⟩::(s.started++tasksOf s.queue++s.removed)) :=
      perm_middle.append_right _
    refine ((hpush.trans hmiddle).map Task.number).trans ?_
    rw [map_cons]
    exact (h.kept.cons _).trans (perm_append_singleton _ _).symm
  · rw [hstarted,hqueue]
    exact h.ordered_push front
  · rw [hstarted,hqueue]
    cases front with
    | true =>
      change Flushed (s.started++[⟨s.submitted,true⟩]) s.queue
      exact h.flushed.mono (subset_append_left _ _)
    | false => exact h.flushed.append_task _
  · rw [hstage,hfinished]
    exact h.flushing
  · rw [hreturned,hfinished]
    exact h.returned
  · intro hshut
    rw [hshutdown] at hshut
    exact absurd hshut hopen
  · rw [hremoved,hshutdown]
    exact h.removed
  · rw [hclosing,hshutdown]
    exact h.closing
  · intro waiter hmem
    rw [hshutdown]
    refine h.queued waiter ?_
    rw [hqueue] at hmem
    cases front with
    | true =>
      rcases mem_cons.mp hmem with heq|hmem
      · cases heq
      · exact hmem
    | false =>
      rcases mem_append.mp hmem with hmem|hmem
      · exact hmem
      · cases mem_singleton.mp hmem
  · rw [hstage,hshutdown]
    exact h.running
  · rw [hreturned,hshutdown,hcurrent]
    exact h.quiet

theorem delivered_pushTo (front : Bool) : Delivered (s.pushTo front) := by
  unfold pushTo
  split
  · exact h
  · rename_i hopen
    dsimp only
    split
    · exact h.push hopen front rfl rfl rfl
    · split
      · exact h.push hopen front rfl rfl rfl
      · exact h.push hopen front rfl rfl rfl

theorem delivered_waitForSubmittedTasks (hlocked : Locked s) (free : s.pushing=none)
    {shutdown : Bool} (hshut : shutdown=true → s.isShutdown=true) : Delivered (s.waitForSubmittedTasks shutdown) := by
  unfold waitForSubmittedTasks
  split
  · have htasks : tasksOf (s.queue++[.flush ⟨shutdown,s.started++tasksOf s.queue⟩])=tasksOf s.queue := by
      rw [tasksOf_append]
      exact append_nil _
    refine {h with kept := ?_,ordered := ?_,flushed := ?_,shut := ?_,queued := ?_}
    · rw [htasks]
      exact h.kept
    · rw [htasks]
      exact h.ordered
    · exact h.flushed.append_flush _ (fun task htask => htask)
    · intro hshut'
      rw [htasks]
      exact h.shut hshut'
    · intro waiter hmem hwaiter
      rcases mem_append.mp hmem with hmem|hmem
      · exact h.queued waiter hmem hwaiter
      · cases mem_singleton.mp hmem
        exact hshut hwaiter
  · rename_i hrunning
    -- nothing is queued and nothing is running, so everything has run
    have hqueue := hlocked.queued ((Bool.not_eq_true _).mp hrunning) free
    have hcurrent := current_of_idle (Locked.idle_of_not_running hlocked hrunning)
    have hran : s.started=s.finished := by
      rw [h.ran,hcurrent,append_nil]
    refine {h with returned := ?_,quiet := ?_}
    · intro waiter hmem task htask
      rcases mem_append.mp hmem with hmem|hmem
      · exact h.returned waiter hmem task htask
      · rw [mem_singleton.mp hmem,hqueue,tasksOf,filterMap_nil,append_nil,hran] at htask
        exact htask
    · intro waiter hmem hwaiter
      rcases mem_append.mp hmem with hmem|hmem
      · exact h.quiet waiter hmem hwaiter
      · rw [mem_singleton.mp hmem] at hwaiter
        exact ⟨hshut hwaiter,hcurrent⟩

theorem delivered_shutdown : Delivered s.shutdown := by
  unfold shutdown
  refine {h with
    kept := ?_
    ordered := ?_
    flushed := trivial
    shut := fun _ => rfl
    removed := fun _ => rfl
    closing := fun _ => rfl
    queued := nofun
    running := fun _ _ _ _ => rfl
    quiet := fun waiter hmem hwaiter => ⟨rfl,(h.quiet waiter hmem hwaiter).2⟩}
  · have hperm : (s.started++tasksOf []++(s.removed++tasksOf s.queue)).Perm
        (s.started++tasksOf s.queue++s.removed) := by
      rw [tasksOf,filterMap_nil,append_nil,append_assoc]
      exact perm_append_comm.append_left _
    exact (hperm.map _).trans h.kept
  · dsimp only
    rw [tasksOf,filterMap_nil,append_nil]
    have hordered := h.ordered
    rw [filter_append] at hordered
    exact (pairwise_append.mp hordered).1

section

variable (hlocked : Locked s) (pops : s.stage id=.ready)
include hlocked pops

theorem delivered_pop_task (hqueue : s.queue=.task task::queue)
    (hlocked' : Locked {s.move id (.runs (.task task)) with queue := queue,started := s.started++[task]}) :
    Delivered {s.move id (.runs (.task task)) with queue := queue,started := s.started++[task]} := by
  have hidle : ∀ j job,s.stage j≠.runs job :=
    Locked.idle_of_holder hlocked (by rw [pops]; rfl) (fun job heq => by rw [pops] at heq; cases heq)
  have hself := stage_move_self s id (.runs (.task task))
  have hcurrent : current {s.move id (.runs (.task task)) with
      queue := queue,started := s.started++[task]}=[task] := current_of_runs hlocked' hself
  have hran : s.started=s.finished := by
    rw [h.ran,current_of_idle hidle,append_nil]
  have htasks : s.started++tasksOf s.queue=s.started++[task]++tasksOf queue := by
    rw [hqueue,append_assoc]
    rfl
  have hopen : s.isShutdown≠true := by
    intro hshut
    have hnone := h.shut hshut
    rw [hqueue] at hnone
    cases hnone
  have hflush : ∀ j waiter,(s.move id (.runs (.task task))).stage j≠.runs (.flush waiter) := by
    intro j waiter hj
    by_cases heq : j=id
    · rw [heq,hself] at hj
      cases hj
    · exact hidle j _ ((update_of_ne heq _ _).symm.trans hj)
  refine {h with
    ran := ?_
    kept := ?_
    ordered := ?_
    flushed := ?_
    flushing := fun j waiter hj => absurd hj (hflush j waiter)
    shut := fun hshut => absurd hshut hopen
    queued := ?_
    running := fun j waiter hj => absurd hj (hflush j waiter)
    quiet := fun waiter hmem hwaiter => absurd (h.quiet waiter hmem hwaiter).1 hopen}
  · rw [hcurrent]
    exact congrArg (· ++ [task]) hran
  · have hkept := h.kept
    rw [htasks] at hkept
    exact hkept
  · have hordered := h.ordered
    rw [htasks] at hordered
    exact hordered
  · have hflushed := h.flushed
    rw [hqueue] at hflushed
    exact hflushed
  · intro waiter hmem
    refine h.queued waiter ?_
    rw [hqueue]
    exact mem_cons_of_mem _ hmem

theorem delivered_pop_flush {waiter : Waiter} (hqueue : s.queue=.flush waiter::queue)
    (hlocked' : Locked {s.move id (.runs (.flush waiter)) with queue := queue,started := s.started++[]}) :
    Delivered {s.move id (.runs (.flush waiter)) with queue := queue,started := s.started++[]} := by
  have hidle : ∀ j job,s.stage j≠.runs job :=
    Locked.idle_of_holder hlocked (by rw [pops]; rfl) (fun job heq => by rw [pops] at heq; cases heq)
  have hself := stage_move_self s id (.runs (.flush waiter))
  have hcurrent : current {s.move id (.runs (.flush waiter)) with
      queue := queue,started := s.started++[]}=[] := current_of_runs hlocked' hself
  have hran : s.started=s.finished := by
    rw [h.ran,current_of_idle hidle,append_nil]
  have htasks : tasksOf s.queue=tasksOf queue := by
    rw [hqueue]
    rfl
  have hflushed := h.flushed
  rw [hqueue] at hflushed
  have honly : ∀ j other,(s.move id (.runs (.flush waiter))).stage j=.runs (.flush other) → other=waiter := by
    intro j other hj
    by_cases heq : j=id
    · rw [heq,hself] at hj
      cases hj
      rfl
    · exact absurd ((update_of_ne heq _ _).symm.trans hj) (hidle j _)
  refine {h with
    ran := ?_
    kept := ?_
    ordered := ?_
    flushed := ?_
    flushing := ?_
    shut := ?_
    queued := ?_
    running := ?_
    quiet := ?_}
  · rw [hcurrent]
    exact congrArg (· ++ []) hran
  · rw [append_nil,←htasks]
    exact h.kept
  · rw [append_nil,←htasks]
    exact h.ordered
  · rw [append_nil]
    exact hflushed.2
  · intro j other hj task htask
    rw [honly j other hj] at htask
    have hmem := hflushed.1 task htask
    rw [hran] at hmem
    exact hmem
  · rw [←htasks]
    exact h.shut
  · intro other hmem
    refine h.queued other ?_
    rw [hqueue]
    exact mem_cons_of_mem _ hmem
  · intro j other hj
    rw [honly j other hj]
    refine h.queued waiter ?_
    rw [hqueue]
    exact mem_cons_self
  · intro other hmem hother
    exact ⟨(h.quiet other hmem hother).1,hcurrent⟩

theorem delivered_pop : Delivered (s.pop id) := by
  have hlocked' := locked_pop hlocked pops
  unfold pop at hlocked' ⊢
  cases hqueue : s.queue with
  | nil =>
    rw [hqueue] at hlocked'
    refine h.congr hlocked hlocked' (runs_update ?_ ?_ rfl) rfl
    · intro job heq
      rw [pops] at heq
      cases heq
    · exact nofun
  | cons job =>
    rw [hqueue] at hlocked'
    cases job with
    | task => exact delivered_pop_task h hlocked pops hqueue hlocked'
    | flush => exact delivered_pop_flush h hlocked pops hqueue hlocked'

end

end

/-- Nobody runs anything when the one who did is done. -/
theorem Locked.idle_of_done (h : Locked s) (runs : s.stage id=.runs job) :
    ∀ j other,(s.move id .next).stage j≠.runs other := by
  intro j other hj
  by_cases heq : j=id
  · rw [heq] at hj
    exact absurd ((update_self _ _ _).symm.trans hj) nofun
  · have hruns : s.stage j=.runs other := (update_of_ne heq _ _).symm.trans hj
    have hmutex := (h.holder j).mp (by rw [hruns]; rfl)
    rw [(h.holder id).mp (by rw [runs]; rfl)] at hmutex
    cases hmutex
    exact heq rfl

theorem delivered_new : Delivered new := by
  refine ⟨rfl,List.Perm.refl _,List.Pairwise.nil,trivial,?_,?_,fun _ => rfl,?_,?_,?_,?_,?_⟩
  · exact nofun
  · exact nofun
  · intro hremoved
    exact absurd rfl hremoved
  · intro hclosing
    exact absurd hclosing (Nat.lt_irrefl 0)
  · exact nofun
  · exact nofun
  · exact nofun

theorem runs_of_mem_current (hmem : task∈current s) : ∃ id,s.stage id=.runs (.task task) := by
  unfold current at hmem
  split at hmem
  · rename_i id hmutex
    split at hmem
    · rename_i job hruns
      refine ⟨id,?_⟩
      cases job with
      | task =>
        rw [mem_singleton.mp hmem]
        exact hruns
      | flush => cases hmem
    · cases hmem
  · cases hmem

section

variable (h : Delivered s)
include h

section

variable (hlocked : Locked s)
include hlocked

/-- The end of a task, or of a function that sets a promise. -/
theorem delivered_finishJob (runs : s.stage id=.runs job) : Delivered (s.finishJob id job) := by
  have hidle := Locked.idle_of_done hlocked runs
  have hran := h.ran
  rw [current_of_runs hlocked runs] at hran
  cases job with
  | task task =>
    refine {h with ran := ?_,flushing := ?_,returned := ?_,running := ?_,quiet := ?_}
    · rw [current_of_idle (s := s.finishJob id (.task task)) hidle,append_nil]
      exact hran
    · intro j waiter hj
      exact absurd hj (hidle j _)
    · intro waiter hmem other hother
      exact mem_append_left _ (h.returned waiter hmem other hother)
    · intro j waiter hj
      exact absurd hj (hidle j _)
    · intro waiter hmem hwaiter
      exact ⟨(h.quiet waiter hmem hwaiter).1,current_of_idle hidle⟩
  | flush waiter =>
    refine {h with ran := ?_,flushing := ?_,returned := ?_,running := ?_,quiet := ?_}
    · rw [current_of_idle (s := s.finishJob id (.flush waiter)) hidle]
      exact hran
    · intro j other hj
      exact absurd hj (hidle j _)
    · intro other hmem task htask
      rcases mem_append.mp hmem with hmem|hmem
      · exact h.returned other hmem task htask
      · rw [mem_singleton.mp hmem] at htask
        exact h.flushing id waiter runs task htask
    · intro j other hj
      exact absurd hj (hidle j _)
    · intro other hmem hother
      refine ⟨?_,current_of_idle hidle⟩
      rcases mem_append.mp hmem with hmem|hmem
      · exact (h.quiet other hmem hother).1
      · rw [mem_singleton.mp hmem] at hother
        exact h.running id waiter runs hother

/-- It begins and ends nothing; the queue and the history stay. -/
theorem Delivered.move (hlocked' : Locked s') {stage stage' : Stage} (hstage : s.stage id=stage)
    (hstage' : s'.stage=update s.stage id stage') (hsame : account s'=account s)
    (hfrom : ∀ job,stage≠.runs job) (hto : ∀ job,stage'≠.runs job) : Delivered s' := by
  refine h.congr hlocked hlocked' (runs_update ?_ hto hstage') hsame
  rw [hstage]
  exact hfrom

theorem Delivered.obtain (hlocked' : Locked s') (hstage : s'.stage=s.obtainWorker.1.stage)
    (hsame : account s'=account s.obtainWorker.1) : Delivered s' := by
  rcases obtainWorker_cases s with ⟨_,hobtained⟩|⟨id,pool,_,hobtained⟩
  all_goals
    rw [hobtained] at hstage hsame
    refine h.congr hlocked hlocked' ?_ hsame
    intro id job
    rw [hstage]

theorem delivered_step {event : Event} (hstep : Step s event s') : Delivered s' := by
  have hlocked' := locked_step hlocked hstep
  cases hstep with
  | submit => exact delivered_pushTo h false
  | submitToFront => exact delivered_pushTo h true
  | waitForSubmittedTasks free => exact delivered_waitForSubmittedTasks h hlocked free nofun
  | shutdown => exact delivered_shutdown h
  | shutdownWaits free called =>
    have hwaits := delivered_waitForSubmittedTasks h hlocked free (fun _ : true=true => h.closing called)
    refine {hwaits with closing := ?_}
    intro _
    have hshut := h.closing called
    unfold shutdownWaits waitForSubmittedTasks
    split
    · exact hshut
    · exact hshut
  | startThread | otherObtains => exact h.obtain hlocked hlocked' rfl rfl
  | giveWork obtained free | otherRuns obtained free =>
    refine h.congr hlocked hlocked' (runs_update ?_ (fun job heq => by cases heq) rfl) rfl
    intro job heq
    rw [heq] at free
    cases free
  | beginRun given | otherBegins given => exact h.move hlocked hlocked' given rfl rfl nofun nofun
  | checkStop loops =>
    refine h.move hlocked hlocked' loops rfl rfl nofun ?_
    intro job heq
    split at heq
    · cases heq
    · cases heq
  | pop pops => exact delivered_pop h hlocked pops
  | finishJob runs => exact delivered_finishJob h hlocked runs
  | hasNext looks =>
    refine h.move hlocked hlocked' looks rfl rfl nofun ?_
    intro job heq
    split at heq
    · cases heq
    · cases heq
  | leaveRun leaves => exact h.move hlocked hlocked' leaves rfl rfl nofun nofun
  | unlock left => exact h.move hlocked hlocked' left rfl rfl nofun nofun
  | workerReturns returns => exact h.move hlocked hlocked' returns rfl rfl nofun nofun
  | otherReleases obtained runs => exact h.move hlocked hlocked' runs rfl rfl nofun nofun

theorem Delivered.delivers : Delivers s := by
  refine ⟨?_,h.kept,?_,h.removed,?_,?_,h.returned,?_,?_,⟨work s,?_⟩⟩
  · intro i j job job' hi hj
    have hmutex := (hlocked.holder i).mp (by rw [hi]; rfl)
    rw [(hlocked.holder j).mp (by rw [hj]; rfl)] at hmutex
    cases hmutex
    rfl
  · intro task hmem
    rw [h.ran] at hmem
    rcases mem_append.mp hmem with hmem|hmem
    · exact .inl hmem
    · exact .inr (runs_of_mem_current hmem)
  · have hordered := h.ordered
    rw [filter_append] at hordered
    exact (pairwise_append.mp hordered).1
  · intro hqueue
    by_cases hrunning : s.threadRunning=true
    · exact .inr (hlocked.running.mp hrunning)
    · exact .inl fun hpushing => hqueue (hlocked.queued ((Bool.not_eq_true _).mp hrunning) hpushing)
  · intro waiter hmem hwaiter
    obtain ⟨hshut,hcurrent⟩ := h.quiet waiter hmem hwaiter
    refine ⟨h.shut hshut,?_⟩
    intro id task hruns
    rw [current_of_runs hlocked hruns] at hcurrent
    cases hcurrent
  · intro hstuck
    have hidle : ∀ id job,s.stage id≠.runs job := by
      intro id job hruns
      have hnot := (hlocked.not_stuck_of_worker hstuck id).2
      rw [hruns] at hnot
      cases hnot
    have hran : s.started=s.finished := by
      rw [h.ran,current_of_idle hidle,append_nil]
    have hkept := h.kept
    rw [hlocked.queue_empty_of_stuck hstuck,hran,tasksOf,filterMap_nil,append_nil] at hkept
    exact hkept
  · intro events s' run
    exact length_le_work hlocked run

end

end

/-- The executor delivers every task once and in order, whatever its callers, its
worker and the other users of the pool do. -/
theorem executor_delivers (events : List Event) (s : System) (run : Run Step new events s) : Delivers s := by
  have hinv : Locked s ∧ Delivered s := by
    refine run.invariant (fun s => Locked s ∧ Delivered s) ⟨locked_new,delivered_new⟩ ?_
    intro s event s' h hstep
    exact ⟨locked_step h.1 hstep,delivered_step h.2 h.1 hstep⟩
  exact hinv.2.delivers hinv.1

/-- One comes while another runs, a third while the worker is leaving. -/
theorem executor_restarts : ∃ (events : List Event) (s : System),Run Step new events s ∧ Delivers s ∧
      s.finished.map Task.number=[0,1,2] ∧ s.returned.length=2 ∧ s.isShutdown=true := by
  have hfirst : Run Step new _ _ :=
    (((((((((((((((((Run.refl.snoc (.submit (by decide))).snoc (.startThread (by decide) (by decide))).snoc
      (@Step.giveWork _ 0 (by decide) (by decide))).snoc
      (@Step.beginRun _ 0 (by decide) (by decide))).snoc
      (@Step.checkStop _ 0 (by decide))).snoc
      (@Step.pop _ 0 (by decide) (by decide))).snoc
      (.submit (by decide))).snoc
      (.waitForSubmittedTasks (by decide))).snoc
      (@Step.finishJob _ 0 (.task ⟨0,false⟩) (by decide))).snoc
      (@Step.hasNext _ 0 false (by decide) (by decide) (.inl (by decide)))).snoc
      (@Step.checkStop _ 0 (by decide))).snoc
      (@Step.pop _ 0 (by decide) (by decide))).snoc
      (@Step.finishJob _ 0 (.task ⟨1,false⟩) (by decide))).snoc
      (@Step.hasNext _ 0 false (by decide) (by decide) (.inl (by decide)))).snoc
      (@Step.checkStop _ 0 (by decide))).snoc
      (@Step.pop _ 0 (by decide) (by decide))).snoc
      (@Step.finishJob _ 0 (.flush ⟨false,[⟨0,false⟩,⟨1,false⟩]⟩) (by decide))).snoc
      (@Step.hasNext _ 0 true (by decide) (by decide) (.inr (.inr rfl)))
  have hsecond : Run Step new _ _ :=
    ((((((((((((hfirst.snoc (.submit (by decide))).snoc
      (@Step.leaveRun _ 0 (by decide) (fun hfull => absurd hfull (by decide)))).snoc
      (@Step.unlock _ 0 (by decide))).snoc
      (.startThread (by decide) (by decide))).snoc
      (@Step.workerReturns _ 0 (by decide))).snoc
      (@Step.giveWork _ 0 (by decide) (by decide))).snoc
      (@Step.beginRun _ 0 (by decide) (by decide))).snoc
      (@Step.checkStop _ 0 (by decide))).snoc
      (@Step.pop _ 0 (by decide) (by decide))).snoc
      (@Step.finishJob _ 0 (.task ⟨2,false⟩) (by decide))).snoc
      (@Step.hasNext _ 0 true (by decide) (by decide) (.inr (.inr rfl)))).snoc
      (.shutdown (by decide))).snoc
      (.shutdownWaits (by decide) (by decide))
  exact ⟨_,_,hsecond,executor_delivers _ _ hsecond,by decide,by decide,by decide⟩

end AlexaClientSDK.ExecutorDelivery
