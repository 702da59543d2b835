import AlexaClientSDK.LabelledRuns
import AlexaClientSDK.Executor

/-!
# The threads of the executor

At most one worker is in `TaskThread::run`, `m_threadRunning` says whether one is going to look at the queue, and the
worker that the `TaskThread` has is in no other hands. While a task is in the queue some thread can go on.
-/

namespace AlexaClientSDK.ExecutorLocks

open Option Function List LabelledRuns Executor

/-- The worker is going to look at the queue. -/
def serves : Stage → Bool
  | .given .executor | .loop | .ready | .runs _ | .next => true
  | _ => false

/-- The worker is in `TaskThread::run`. -/
def inside : Stage → Bool
  | .loop | .ready | .runs _ | .next | .leave | .left => true
  | _ => false

/-- The worker belongs to the `TaskThread`. -/
def belongs : Stage → Bool
  | .given .executor | .loop | .ready | .runs _ | .next | .leave => true
  | _ => false

structure Locked (s : System) : Prop where
  holder : ∀ id,inside (s.stage id)=true ↔ s.taskMutex=some (.worker id)
  /-- A `pushTo` that has obtained a worker holds it too. -/
  pusher : s.taskMutex=some .pusher ↔ ∃ id,s.pushing=some (.obtained id)
  /-- A worker begins when no other is in `TaskThread::run`. -/
  given : ∀ id,s.stage id=.given .executor → s.taskMutex=none
  owner : ∀ id,belongs (s.stage id)=true → s.workerThread=some id
  /-- A worker that was obtained waits, or is about to. -/
  obtained : ∀ id,s.pushing=some (.obtained id) → s.workerThread=some id ∧ (s.stage id=.waiting ∨ s.stage id=.returning)
  /-- `m_threadRunning` says whether the queue is looked at. -/
  running : s.threadRunning=true ↔ ∃ id,serves (s.stage id)=true
  pushing : s.pushing≠none → s.threadRunning=false
  /-- `m_alreadyStarting` is set while a thread is started. -/
  starting : s.alreadyStarting=true → s.pushing≠none ∨ ∃ id,s.stage id=.given .executor
  stopping : s.stop=true → s.pushing≠none ∨ ∃ id,s.stage id=.given .executor
  queued : s.threadRunning=false → s.pushing=none → s.queue=[]
  /-- The worker of the `TaskThread` is in no other hands. -/
  owned : ∀ id,s.workerThread=some id → id∉s.pool ∧ id∉s.others ∧ id<s.created
  distinct : (s.pool++s.others).Nodup
  known : ∀ id∈s.pool++s.others,id<s.created
  /-- A worker in the pool has nothing to do any more. -/
  pooled : ∀ id∈s.pool,s.stage id=.waiting ∨ s.stage id=.returning ∨ s.stage id=.left
  fresh : ∀ id,s.created ≤ id → s.stage id=.waiting

/-- The `TaskThread` and who is in the way of its worker. -/
def service (s : System) :=
  (s.threadRunning,s.pushing,s.taskMutex,s.stop,s.alreadyStarting,s.workerThread)

/-- The workers of the pool and their users. -/
def roster (s : System) := (s.pool,s.created,s.others)

variable {s s' : System}

theorem stage_move_self (s : System) (id : ℕ) (stage : Stage) : (s.move id stage).stage id=stage :=
  update_self _ _ _

variable {id : ℕ}

theorem stage_move_of_ne (s : System) {j : ℕ} (hj : j≠id) (stage : Stage) : (s.move id stage).stage j=s.stage j :=
  update_of_ne hj _ _

variable {stage : Stage}

/-- Who looks at the queue belongs to the `TaskThread`. -/
theorem belongs_of_serves (hserves : serves stage=true) : belongs stage=true := by
  cases stage with
  | given user =>
    cases user with
    | executor => rfl
    | other => cases hserves
  | loop => rfl
  | ready => rfl
  | runs => rfl
  | next => rfl
  | _ => cases hserves

section

variable (h : Locked s)
include h

section

variable (hmutex : s.taskMutex=some (.worker id))
include hmutex

theorem Locked.not_obtained_of_holder (j : ℕ) : s.pushing≠some (.obtained j) := by
  intro hj
  rw [h.pusher.mpr ⟨j,hj⟩] at hmutex
  cases hmutex

theorem Locked.not_given_of_holder (j : ℕ) : s.stage j≠.given .executor := by
  intro hj
  rw [h.given j hj] at hmutex
  cases hmutex

/-- Who starts a thread then is a `pushTo` that has not obtained a worker yet. -/
theorem Locked.pushing_of_starting (hstarting : s.alreadyStarting=true) : s.pushing≠none := by
  rcases h.starting hstarting with hpushing|⟨j,hj⟩
  · exact hpushing
  · exact absurd hj (h.not_given_of_holder hmutex j)

theorem Locked.pushing_of_stopping (hstop : s.stop=true) : s.pushing≠none := by
  rcases h.stopping hstop with hpushing|⟨j,hj⟩
  · exact hpushing
  · exact absurd hj (h.not_given_of_holder hmutex j)

end

theorem Locked.in_service {old : Stage} (hold : s.stage id=old) (hinside : inside old=true)
    (hserves : serves old=true) :
    s.threadRunning=true ∧ s.taskMutex=some (.worker id) ∧ s.pushing=none ∧
      (∀ j,s.stage j≠.given .executor) ∧ s.stop=false := by
  subst hold
  have hrunning : s.threadRunning=true := h.running.mpr ⟨id,hserves⟩
  have hmutex := (h.holder id).mp hinside
  have hpushing : s.pushing=none := by
    by_contra hpushing
    rw [h.pushing hpushing] at hrunning
    cases hrunning
  refine ⟨hrunning,hmutex,hpushing,h.not_given_of_holder hmutex,?_⟩
  by_contra hstop
  exact h.pushing_of_stopping hmutex ((Bool.not_eq_false _).mp hstop) hpushing

theorem Locked.pooled_update (hpool : id∉s.pool) (stage : Stage) :
    ∀ j∈s.pool,Function.update s.stage id stage j=.waiting ∨
      Function.update s.stage id stage j=.returning ∨ Function.update s.stage id stage j=.left := by
  intro j hj
  have hne : j≠id := by
    intro heq
    rw [heq] at hj
    exact hpool hj
  rw [update_of_ne hne]
  exact h.pooled j hj

theorem Locked.fresh_update (hcreated : id<s.created) (stage : Stage) :
    ∀ j,s.created≤j → Function.update s.stage id stage j=.waiting := by
  intro j hj
  have hne : j≠id := by
    intro heq
    rw [heq] at hj
    exact absurd hcreated (Nat.not_lt.mpr hj)
  rw [update_of_ne hne]
  exact h.fresh j hj

theorem Locked.move {old : Stage} (hold : s.stage id=old) (hinside : inside old=true)
    (hserves : serves old=true) (hinside' : inside stage=true) (hserves' : serves stage=true)
    (hstage : s'.stage=Function.update s.stage id stage) (hservice : service s'=service s)
    (hroster : roster s'=roster s) : Locked s' := by
  simp only [service,roster,Prod.mk.injEq] at hservice hroster
  obtain ⟨hrunning,hpushing,hmutex,hstop,hstarting,hworker⟩ := hservice
  obtain ⟨hpool,hcreated,hothers⟩ := hroster
  obtain ⟨htrue,hholds,hnone,hgiven,hgo⟩ := h.in_service hold hinside hserves
  subst hold
  have hother : ∀ j,j≠id → s'.stage j=s.stage j := by
    intro j hj
    rw [hstage,update_of_ne hj]
  have hself : s'.stage id=stage := by
    rw [hstage,update_self]
  have hworks := h.owner id (belongs_of_serves hserves)
  refine ⟨?_,?_,?_,?_,?_,?_,?_,?_,?_,?_,?_,?_,?_,?_,?_⟩
  · intro j
    rw [hmutex]
    by_cases hj : j=id
    · rw [hj,hself,hinside']
      exact iff_of_true rfl hholds
    · rw [hother j hj]
      exact h.holder j
  · rw [hmutex,hpushing]
    exact h.pusher
  · intro j hj
    by_cases heq : j=id
    · rw [heq,hself] at hj
      rw [hj] at hinside'
      cases hinside'
    · rw [hother j heq] at hj
      exact absurd hj (hgiven j)
  · intro j hj
    rw [hworker]
    by_cases heq : j=id
    · rw [heq]
      exact hworks
    · rw [hother j heq] at hj
      exact h.owner j hj
  · intro j hj
    rw [hpushing,hnone] at hj
    cases hj
  · rw [hrunning,htrue]
    exact iff_of_true rfl ⟨id,by rw [hself,hserves']⟩
  · rw [hpushing,hrunning]
    exact h.pushing
  · intro htrue'
    rw [hstarting] at htrue'
    rcases h.starting htrue' with hpushing'|⟨j,hj⟩
    · exact absurd hnone hpushing'
    · exact absurd hj (hgiven j)
  · intro htrue'
    rw [hstop,hgo] at htrue'
    cases htrue'
  · intro hfalse
    rw [hrunning,htrue] at hfalse
    cases hfalse
  · rw [hworker,hpool,hothers,hcreated]
    exact h.owned
  · rw [hpool,hothers]
    exact h.distinct
  · rw [hpool,hothers,hcreated]
    exact h.known
  · rw [hpool,hstage]
    exact h.pooled_update (h.owned id hworks).1 stage
  · rw [hcreated,hstage]
    exact h.fresh_update (h.owned id hworks).2.2 stage

/-- Nobody looks at the queue, and nobody is in `TaskThread::run`. -/
theorem Locked.not_belongs (hrunning : s.threadRunning=false)
    (hmutex : ∀ id,s.taskMutex≠some (.worker id)) (id : ℕ) : belongs (s.stage id)=false := by
  have hserves : serves (s.stage id)=false := by
    by_contra hserves
    rw [h.running.mpr ⟨id,(Bool.not_eq_false _).mp hserves⟩] at hrunning
    cases hrunning
  have hinside : inside (s.stage id)=false := by
    by_contra hinside
    exact hmutex id ((h.holder id).mp ((Bool.not_eq_false _).mp hinside))
  cases hstage : s.stage id with
  | given user =>
    rw [hstage] at hserves
    cases user with
    | executor => cases hserves
    | other => rfl
  | leave =>
    rw [hstage] at hinside
    cases hinside
  | waiting => rfl
  | left => rfl
  | busy => rfl
  | returning => rfl
  | _ =>
    rw [hstage] at hserves
    cases hserves

theorem locked_pushTo (free : s.pushing=none) (front : Bool) : Locked (s.pushTo front) := by
  unfold System.pushTo
  split
  · exact h
  · dsimp only
    split
    · rename_i hrunning
      exact {h with queued := fun hfalse => by rw [hrunning] at hfalse; cases hfalse}
    · rename_i hrunning
      have hfalse : s.threadRunning=false := (Bool.not_eq_true _).mp hrunning
      split
      · -- a thread that is being started has set `m_threadRunning`
        rename_i hstarting
        rcases h.starting hstarting with hpushing|⟨id,hgiven⟩
        · exact absurd free hpushing
        · exact absurd (h.running.mpr ⟨id,by rw [hgiven]; rfl⟩) hrunning
      · have hmutex : s.taskMutex≠some .pusher := by
          intro hpusher
          obtain ⟨id,hid⟩ := h.pusher.mp hpusher
          rw [free] at hid
          cases hid
        have hpushing : some Pushing.starting≠none := some_ne_none _
        refine {h with
          pusher := iff_of_false hmutex ?_
          obtained := ?_
          pushing := fun _ => hfalse
          starting := fun _ => .inl hpushing
          stopping := fun _ => .inl hpushing
          queued := fun _ hnone => absurd hnone hpushing}
        · rintro ⟨id,hid⟩
          cases hid
        · exact nofun

theorem locked_waitForSubmittedTasks (shutdown : Bool) : Locked (s.waitForSubmittedTasks shutdown) := by
  unfold System.waitForSubmittedTasks
  split
  · rename_i hrunning
    exact {h with queued := fun hfalse => by rw [hrunning] at hfalse; cases hfalse}
  · exact {h with}

end

theorem obtainWorker_cases (s : System) : (s.pool=[] ∧ s.obtainWorker=({s with created := s.created+1},s.created)) ∨
    ∃ id pool,s.pool=id::pool ∧ s.obtainWorker=({s with pool := pool},id) := by
  unfold System.obtainWorker
  cases hpool : s.pool with
  | nil => exact .inl ⟨rfl,rfl⟩
  | cons id pool => exact .inr ⟨id,pool,rfl,rfl⟩

/-- New or from the pool, and in no other hands. -/
structure Obtained (s : System) (id : ℕ) (pool : List ℕ) (created : ℕ) : Prop where
  origin : id∈s.pool ∨ s.created ≤ id
  pooled : ∀ other∈pool,other∈s.pool
  grows : s.created≤created
  known : id<created
  distinct : (id::pool++s.others).Nodup

theorem Obtained.lt_created {created : ℕ} {pool : List ℕ} (h : Obtained s id pool created) (hlocked : Locked s)
    {other : ℕ} (hmem : other∈id::pool++s.others) : other<created := by
  rw [cons_append,mem_cons,mem_append] at hmem
  rcases hmem with rfl|hmem|hmem
  · exact h.known
  · exact Nat.lt_of_lt_of_le (hlocked.known _ (mem_append_left _ (h.pooled _ hmem))) h.grows
  · exact Nat.lt_of_lt_of_le (hlocked.known _ (mem_append_right _ hmem)) h.grows

section

variable (h : Locked s)
include h

theorem obtainWorker_spec : ∃ id pool created,s.obtainWorker=({s with pool := pool,created := created},id) ∧
      Obtained s id pool created := by
  rcases obtainWorker_cases s with ⟨hpool,hobtained⟩|⟨id,pool,hpool,hobtained⟩
  · refine ⟨s.created,s.pool,s.created+1,hobtained,.inr (Nat.le_refl _),fun _ => id,Nat.le_succ _,
      Nat.lt_succ_self _,nodup_cons.mpr ⟨?_,h.distinct⟩⟩
    intro hmem
    exact Nat.lt_irrefl _ (h.known _ hmem)
  · have hdistinct := h.distinct
    have hmem : id∈s.pool := by
      rw [hpool]
      exact mem_cons_self
    rw [hpool] at hdistinct
    refine ⟨id,pool,s.created,hobtained,.inl hmem,fun other hother => ?_,Nat.le_refl _,
      h.known id (mem_append_left _ hmem),hdistinct⟩
    rw [hpool]
    exact mem_cons_of_mem _ hother

theorem locked_startThread (starts : s.pushing=some .starting) (free : s.taskMutex=none) : Locked s.startThread := by
  have hfalse : s.threadRunning=false := h.pushing (by rw [starts]; exact some_ne_none _)
  have hbelongs := h.not_belongs hfalse (fun id => by rw [free]; exact (some_ne_none _).symm)
  have hinside : ∀ id,inside (s.stage id)=false := by
    intro id
    by_contra hinside
    have hmutex := (h.holder id).mp ((Bool.not_eq_false _).mp hinside)
    rw [free] at hmutex
    cases hmutex
  have hgiven : ∀ id,s.stage id≠.given .executor := by
    intro id hid
    have hnot := hbelongs id
    rw [hid] at hnot
    cases hnot
  have hpushing : ∀ id,some (Pushing.obtained id)≠none := fun id => some_ne_none _
  have hholder : ∀ id,inside (s.stage id)=true ↔ some Holder.pusher=some (.worker id) := by
    intro id
    rw [hinside id]
    exact iff_of_false Bool.false_ne_true nofun
  obtain ⟨id,pool,created,hobtained,ho⟩ := obtainWorker_spec h
  have hdistinct := ho.distinct
  rw [cons_append,nodup_cons,mem_append,not_or] at hdistinct
  unfold System.startThread
  rw [hobtained]
  refine {h with
    holder := hholder
    pusher := iff_of_true rfl ⟨_,rfl⟩
    given := fun id hid => absurd hid (hgiven id)
    owner := fun id hid => by rw [hbelongs id] at hid; cases hid
    obtained := ?_
    pushing := fun _ => hfalse
    starting := fun _ => .inl (hpushing _)
    stopping := fun _ => .inl (hpushing _)
    queued := fun _ hnone => absurd hnone (hpushing _)
    owned := ?_
    distinct := hdistinct.2
    known := fun j hj => ho.lt_created h (mem_cons_of_mem _ hj)
    pooled := fun j hj => h.pooled j (ho.pooled j hj)
    fresh := fun j hj => h.fresh j (Nat.le_trans ho.grows hj)}
  · intro j hj
    cases hj
    refine ⟨rfl,?_⟩
    rcases ho.origin with hmem|hnew
    · rcases h.pooled id hmem with hstage|hstage|hstage
      · exact .inl hstage
      · exact .inr hstage
      · have hnot := hinside id
        rw [hstage] at hnot
        cases hnot
    · exact .inl (h.fresh id hnew)
  · intro j hj
    cases hj
    exact ⟨hdistinct.1.1,hdistinct.1.2,ho.lt_created h mem_cons_self⟩

theorem locked_giveWork (obtained : s.pushing=some (.obtained id)) : Locked (s.giveWork id) := by
  have hfalse : s.threadRunning=false := h.pushing (by rw [obtained]; exact some_ne_none _)
  have hmutex : s.taskMutex=some .pusher := h.pusher.mpr ⟨id,obtained⟩
  have hworker := (h.obtained id obtained).1
  obtain ⟨hpool,_,hcreated⟩ := h.owned id hworker
  have hbelongs := h.not_belongs hfalse (fun j => by rw [hmutex]; intro heq; cases heq)
  have hother : ∀ j,j≠id → (s.giveWork id).stage j=s.stage j := fun j hj => update_of_ne hj _ _
  have hself : (s.giveWork id).stage id=.given .executor := update_self _ _ _
  refine {h with
    holder := ?_
    pusher := iff_of_false nofun ?_
    given := fun _ _ => rfl
    owner := ?_
    obtained := fun j hj => by cases hj
    running := iff_of_true rfl ⟨id,by rw [hself]; rfl⟩
    pushing := fun hnone => absurd rfl hnone
    starting := fun _ => .inr ⟨id,hself⟩
    stopping := fun _ => .inr ⟨id,hself⟩
    queued := nofun
    pooled := h.pooled_update hpool _
    fresh := h.fresh_update hcreated _}
  · intro j
    refine iff_of_false ?_ nofun
    intro hinside
    by_cases hj : j=id
    · rw [hj,hself] at hinside
      cases hinside
    · rw [hother j hj] at hinside
      have hholds := (h.holder j).mp hinside
      rw [hmutex] at hholds
      cases hholds
  · rintro ⟨j,hj⟩
    cases hj
  · intro j hj
    by_cases heq : j=id
    · rw [heq]
      exact hworker
    · rw [hother j heq,hbelongs j] at hj
      cases hj

theorem locked_beginRun (given : s.stage id=.given .executor) : Locked (s.beginRun id) := by
  have hworker := h.owner id (by rw [given]; rfl)
  obtain ⟨hpool,_,hcreated⟩ := h.owned id hworker
  have hfree := h.given id given
  have htrue : s.threadRunning=true := h.running.mpr ⟨id,by rw [given]; rfl⟩
  have hnone : s.pushing=none := by
    by_contra hpushing
    rw [h.pushing hpushing] at htrue
    cases htrue
  have hother : ∀ j,j≠id → (s.beginRun id).stage j=s.stage j := fun j hj => update_of_ne hj _ _
  have hself : (s.beginRun id).stage id=.loop := update_self _ _ _
  have hnoOther : ∀ j,j≠id → belongs (s.stage j)=false := by
    intro j hj
    by_contra hbelongs
    have hworker' := h.owner j ((Bool.not_eq_false _).mp hbelongs)
    rw [hworker] at hworker'
    cases hworker'
    exact hj rfl
  refine {h with
    holder := ?_
    pusher := iff_of_false nofun ?_
    given := ?_
    owner := ?_
    obtained := ?_
    running := ?_
    starting := nofun
    stopping := nofun
    pooled := h.pooled_update hpool _
    fresh := h.fresh_update hcreated _}
  · intro j
    by_cases hj : j=id
    · rw [hj,hself]
      exact iff_of_true rfl rfl
    · rw [hother j hj]
      refine iff_of_false ?_ ?_
      · intro hinside
        have hholds := (h.holder j).mp hinside
        rw [hfree] at hholds
        cases hholds
      · intro heq
        cases heq
        exact hj rfl
  · rintro ⟨j,hj⟩
    have hj' : s.pushing=some (.obtained j) := hj
    rw [hnone] at hj'
    cases hj'
  · intro j hj
    by_cases heq : j=id
    · rw [heq,hself] at hj
      cases hj
    · rw [hother j heq] at hj
      have hnot := hnoOther j heq
      rw [hj] at hnot
      cases hnot
  · intro j hj
    by_cases heq : j=id
    · rw [heq]
      exact hworker
    · rw [hother j heq,hnoOther j heq] at hj
      cases hj
  · intro j hj
    have hj' : s.pushing=some (.obtained j) := hj
    rw [hnone] at hj'
    cases hj'
  · exact iff_of_true htrue ⟨id,by rw [hself]; rfl⟩

theorem locked_checkStop (loops : s.stage id=.loop) : s.stop=false ∧ Locked (s.move id .ready) :=
  ⟨(h.in_service loops rfl rfl).2.2.2.2,h.move loops rfl rfl rfl rfl rfl rfl rfl⟩

theorem locked_pop (pops : s.stage id=.ready) : Locked (s.pop id) := by
  unfold System.pop
  split
  · exact h.move pops rfl rfl rfl rfl rfl rfl rfl
  · rename_i job queue _
    have hinside' : inside (.runs job)=true := rfl
    have hserves' : serves (.runs job)=true := rfl
    exact h.move pops rfl rfl hinside' hserves' rfl rfl rfl

theorem locked_finishJob {job : Job} (runs : s.stage id=.runs job) : Locked (s.finishJob id job) := by
  have hinside' : inside .next=true := rfl
  have hserves' : serves .next=true := rfl
  cases job with
  | task | flush => exact h.move runs rfl rfl hinside' hserves' rfl rfl rfl

theorem locked_hasNext (looks : s.stage id=.next) : Locked (s.hasNext id) := by
  obtain ⟨htrue,hmutex,hnone,hgiven,hgo⟩ := h.in_service looks rfl rfl
  have hworker := h.owner id (by rw [looks]; rfl)
  obtain ⟨hpool,_,hcreated⟩ := h.owned id hworker
  unfold System.hasNext
  by_cases hqueue : s.queue=[]
  · rw [if_pos hqueue]
    have hfalse : decide (s.queue≠[])=false := decide_eq_false fun hne => hne hqueue
    refine {h with
      holder := ?_
      given := ?_
      owner := ?_
      obtained := ?_
      running := iff_of_false (by rw [hfalse]; exact Bool.false_ne_true) ?_
      pushing := fun _ => hfalse
      starting := ?_
      stopping := fun hstop => by
        have hstop' : s.stop=true := hstop
        rw [hgo] at hstop'
        cases hstop'
      queued := fun _ _ => hqueue
      pooled := h.pooled_update hpool _
      fresh := h.fresh_update hcreated _}
    · intro j
      by_cases hj : j=id
      · rw [hj]
        exact iff_of_true (by rw [stage_move_self]; rfl) hmutex
      · rw [stage_move_of_ne s hj]
        exact h.holder j
    · intro j hj
      by_cases heq : j=id
      · rw [heq,stage_move_self] at hj
        cases hj
      · rw [stage_move_of_ne s heq] at hj
        exact h.given j hj
    · intro j hj
      by_cases heq : j=id
      · rw [heq]
        exact hworker
      · rw [stage_move_of_ne s heq] at hj
        exact h.owner j hj
    · intro j hj
      have hj' : s.pushing=some (.obtained j) := hj
      rw [hnone] at hj'
      cases hj'
    · rintro ⟨j,hj⟩
      by_cases heq : j=id
      · rw [heq,stage_move_self] at hj
        cases hj
      · rw [stage_move_of_ne s heq] at hj
        have hworker' := h.owner j (belongs_of_serves hj)
        rw [hworker] at hworker'
        cases hworker'
        exact heq rfl
    · intro hstarting
      rcases h.starting hstarting with hpushing|⟨j,hj⟩
      · exact absurd hnone hpushing
      · exact absurd hj (hgiven j)
  · rw [if_neg hqueue]
    refine h.move looks rfl rfl rfl rfl rfl (Prod.ext ?_ rfl) rfl
    exact (decide_eq_true hqueue).trans htrue.symm

theorem Locked.foreign (hbelongs : belongs (s.stage id)=false)
    (hinside : inside (s.stage id)=false) (hbelongs' : belongs stage=false)
    (hinside' : inside stage=false) (hstage : s'.stage=Function.update s.stage id stage)
    (hobtained : s.pushing=some (.obtained id) → stage=.waiting ∨ stage=.returning)
    (hservice : service s'=service s) (hqueue : s'.queue=s.queue)
    (howned : ∀ j,s.workerThread=some j → j∉s'.pool ∧ j∉s'.others ∧ j<s'.created)
    (hdistinct : (s'.pool++s'.others).Nodup) (hknown : ∀ j∈s'.pool++s'.others,j<s'.created)
    (hpooled : ∀ j∈s'.pool,s'.stage j=.waiting ∨ s'.stage j=.returning ∨ s'.stage j=.left)
    (hfresh : ∀ j,s'.created≤j → s'.stage j=.waiting) : Locked s' := by
  simp only [service,Prod.mk.injEq] at hservice
  obtain ⟨hrunning,hpushing,hmutex,hstop,hstarting,hworker⟩ := hservice
  have hother : ∀ j,j≠id → s'.stage j=s.stage j := by
    intro j hj
    rw [hstage,update_of_ne hj]
  have hself : s'.stage id=stage := by
    rw [hstage,update_self]
  -- what only a worker of the `TaskThread` can be, the same workers are
  have hsame : ∀ p : Stage → Prop,(∀ stage,p stage → belongs stage=true) → ∀ j,p (s'.stage j) ↔ p (s.stage j) := by
    intro p hp j
    by_cases hj : j=id
    · rw [hj,hself]
      exact iff_of_false (fun h' => absurd (hp _ h') (by rw [hbelongs']; exact Bool.false_ne_true))
        fun h' => absurd (hp _ h') (by rw [hbelongs]; exact Bool.false_ne_true)
    · rw [hother j hj]
  have hserves := hsame (fun stage => serves stage=true) fun _ => belongs_of_serves
  have hgiven := hsame (fun stage => stage=.given .executor) fun _ hstage => by rw [hstage]; rfl
  refine ⟨?_,?_,?_,?_,?_,?_,?_,?_,?_,?_,?_,hdistinct,hknown,hpooled,hfresh⟩
  · intro j
    rw [hmutex]
    by_cases hj : j=id
    · rw [hj,hself,hinside',←h.holder id,hinside]
    · rw [hother j hj]
      exact h.holder j
  · rw [hmutex,hpushing]
    exact h.pusher
  · intro j hj
    rw [hmutex]
    exact h.given j ((hgiven j).mp hj)
  · intro j hj
    rw [hworker]
    by_cases heq : j=id
    · rw [heq,hself,hbelongs'] at hj
      cases hj
    · rw [hother j heq] at hj
      exact h.owner j hj
  · intro j hj
    rw [hpushing] at hj
    rw [hworker]
    refine ⟨(h.obtained j hj).1,?_⟩
    by_cases heq : j=id
    · rw [heq] at hj ⊢
      rw [hself]
      exact hobtained hj
    · rw [hother j heq]
      exact (h.obtained j hj).2
  · rw [hrunning,h.running]
    exact exists_congr fun j => (hserves j).symm
  · rw [hpushing,hrunning]
    exact h.pushing
  · rw [hstarting,hpushing,exists_congr hgiven]
    exact h.starting
  · rw [hstop,hpushing,exists_congr hgiven]
    exact h.stopping
  · rw [hrunning,hpushing,hqueue]
    exact h.queued
  · rw [hworker]
    exact howned

theorem Locked.created (hstage : s.stage id≠.waiting) : id<s.created := by
  by_contra hcreated
  exact hstage (h.fresh id (Nat.not_lt.mp hcreated))

theorem locked_workerReturns (returns : s.stage id=.returning) : Locked (s.move id .waiting) := by
  have hcreated : id<s.created := by
    refine h.created ?_
    rw [returns]
    exact nofun
  refine h.foreign (by rw [returns]; rfl) (by rw [returns]; rfl) rfl rfl rfl (fun _ => .inl rfl) rfl rfl
    h.owned h.distinct h.known ?_ (h.fresh_update hcreated _)
  intro j hj
  by_cases heq : j=id
  · rw [heq]
    exact .inl (update_self _ _ _)
  · rw [stage_move_of_ne s heq]
    exact h.pooled j hj

end

theorem releaseWorker_sublist (s : System) :
    (if DEFAULT_MAX_THREAD_POOL_THREADS ≤ s.pool.length then s.pool.tail else s.pool).Sublist s.pool := by
  split
  · exact tail_sublist _
  · exact List.Sublist.refl _

variable {rest : List ℕ}

section

variable (h : Locked s)
include h

section

variable (hrest : rest.Sublist s.pool)
include hrest

/-- A worker that comes into the pool is in one pair of hands. -/
theorem Locked.distinct_release {others : List ℕ}
    (hothers : others.Sublist s.others) (hpool : id∉s.pool) (hnot : id∉others) : (rest++[id]++others).Nodup := by
  rw [append_assoc,singleton_append,perm_middle.nodup_iff,nodup_cons,mem_append,not_or]
  refine ⟨⟨fun hmem => hpool (hrest.subset hmem),hnot⟩,?_⟩
  exact (hrest.append hothers).nodup h.distinct

theorem Locked.known_release {others : List ℕ} (hothers : others.Sublist s.others) (hcreated : id<s.created) :
    ∀ j∈rest++[id]++others,j<s.created := by
  intro j hj
  rcases mem_append.mp hj with hj|hj
  · rcases mem_append.mp hj with hj|hj
    · exact h.known j (mem_append_left _ (hrest.subset hj))
    · rw [mem_singleton.mp hj]
      exact hcreated
  · exact h.known j (mem_append_right _ (hothers.subset hj))

theorem Locked.pooled_release (hpool : id∉s.pool) (hstage : stage=.returning ∨ stage=.left) :
    ∀ j∈rest++[id],Function.update s.stage id stage j=.waiting ∨
      Function.update s.stage id stage j=.returning ∨ Function.update s.stage id stage j=.left := by
  intro j hj
  rcases mem_append.mp hj with hj|hj
  · exact h.pooled_update hpool stage j (hrest.subset hj)
  · rw [mem_singleton.mp hj,update_self]
    exact .inr hstage

end

theorem locked_leaveRun (leaves : s.stage id=.leave) : Locked (s.leaveRun id) := by
  have hworker := h.owner id (by rw [leaves]; rfl)
  obtain ⟨hpool,hothers,hcreated⟩ := h.owned id hworker
  have hmutex := (h.holder id).mp (by rw [leaves]; rfl)
  have hsublist := releaseWorker_sublist s
  set rest := if DEFAULT_MAX_THREAD_POOL_THREADS ≤ s.pool.length then s.pool.tail else s.pool with hrest
  have hresult : s.leaveRun id={s.move id .left with pool := rest++[id],workerThread := none} := by
    unfold System.leaveRun System.releaseWorker
    rw [hworker]
    rfl
  have hbelongs : ∀ j,belongs ((s.move id .left).stage j)=false := by
    intro j
    by_cases hj : j=id
    · rw [hj,stage_move_self]
      rfl
    · rw [stage_move_of_ne s hj]
      by_contra hbelongs
      have hworker' := h.owner j ((Bool.not_eq_false _).mp hbelongs)
      rw [hworker] at hworker'
      cases hworker'
      exact hj rfl
  have hrunning : s.threadRunning≠true := by
    intro htrue
    obtain ⟨j,hj⟩ := h.running.mp htrue
    have hworker' := h.owner j (belongs_of_serves hj)
    rw [hworker] at hworker'
    cases hworker'
    rw [leaves] at hj
    cases hj
  rw [hresult]
  refine {h with
    holder := ?_
    given := ?_
    owner := fun j hj => by
      have hnot := hbelongs j
      rw [hnot] at hj
      cases hj
    obtained := fun j hj => absurd hj (h.not_obtained_of_holder hmutex j)
    running := iff_of_false hrunning ?_
    starting := fun hstarting => .inl (h.pushing_of_starting hmutex hstarting)
    stopping := fun hstop => .inl (h.pushing_of_stopping hmutex hstop)
    owned := fun j hj => by cases hj
    distinct := h.distinct_release hsublist (List.Sublist.refl _) hpool hothers
    known := h.known_release hsublist (List.Sublist.refl _) hcreated
    pooled := h.pooled_release hsublist hpool (.inr rfl)
    fresh := h.fresh_update hcreated _}
  · intro j
    by_cases hj : j=id
    · rw [hj]
      exact iff_of_true (by rw [stage_move_self]; rfl) hmutex
    · rw [stage_move_of_ne s hj]
      exact h.holder j
  · intro j hj
    have hnot := hbelongs j
    rw [hj] at hnot
    cases hnot
  · rintro ⟨j,hj⟩
    have hnot := hbelongs j
    rw [belongs_of_serves hj] at hnot
    cases hnot

theorem locked_unlock (left : s.stage id=.left) : Locked {s.move id .returning with taskMutex := none} := by
  have hcreated : id<s.created := by
    refine h.created ?_
    rw [left]
    exact nofun
  have hmutex := (h.holder id).mp (by rw [left]; rfl)
  have hsame : ∀ j,belongs ((s.move id .returning).stage j)=true → belongs (s.stage j)=true := by
    intro j hj
    by_cases heq : j=id
    · rw [heq,stage_move_self] at hj
      cases hj
    · rwa [stage_move_of_ne s heq] at hj
  refine {h with
    holder := ?_
    pusher := iff_of_false nofun (fun ⟨j,hj⟩ => h.not_obtained_of_holder hmutex j hj)
    given := fun _ _ => rfl
    owner := fun j hj => h.owner j (hsame j hj)
    obtained := fun j hj => absurd hj (h.not_obtained_of_holder hmutex j)
    running := ?_
    starting := fun hstarting => .inl (h.pushing_of_starting hmutex hstarting)
    stopping := fun hstop => .inl (h.pushing_of_stopping hmutex hstop)
    pooled := ?_
    fresh := h.fresh_update hcreated _}
  · intro j
    refine iff_of_false ?_ nofun
    intro hinside
    by_cases heq : j=id
    · rw [heq,stage_move_self] at hinside
      cases hinside
    · rw [stage_move_of_ne s heq] at hinside
      have hholds := (h.holder j).mp hinside
      rw [hmutex] at hholds
      cases hholds
      exact heq rfl
  · refine h.running.trans (exists_congr fun j => ?_)
    by_cases heq : j=id
    · rw [heq,stage_move_self,left]
      exact Iff.rfl
    · rw [stage_move_of_ne s heq]
  · intro j hj
    by_cases heq : j=id
    · rw [heq]
      exact .inr (.inl (stage_move_self s id .returning))
    · rw [stage_move_of_ne s heq]
      exact h.pooled j hj

theorem locked_otherObtains : Locked {s.obtainWorker.1 with others := s.others++[s.obtainWorker.2]} := by
  obtain ⟨id,pool,created,hobtained,ho⟩ := obtainWorker_spec h
  have hperm : (pool++(s.others++[id])).Perm (id::pool++s.others) := by
    rw [←append_assoc]
    exact perm_append_singleton _ _
  rw [hobtained]
  refine {h with
    owned := ?_
    distinct := hperm.nodup_iff.mpr ho.distinct
    known := fun j hj => ho.lt_created h (hperm.mem_iff.mp hj)
    pooled := fun j hj => h.pooled j (ho.pooled j hj)
    fresh := fun j hj => h.fresh j (Nat.le_trans ho.grows hj)}
  intro j hj
  obtain ⟨hnot,hothers,hcreated⟩ := h.owned j hj
  refine ⟨fun hmem => hnot (ho.pooled j hmem),?_,Nat.lt_of_lt_of_le hcreated ho.grows⟩
  intro hmem
  rcases mem_append.mp hmem with hmem|hmem
  · exact hothers hmem
  · have hself := mem_singleton.mp hmem
    rcases ho.origin with hmem|hnew
    · exact hnot (hself ▸ hmem)
    · omega

/-- The worker of another user does not work for the `TaskThread`. -/
theorem Locked.not_belongs_of_others (hmem : id∈s.others) : belongs (s.stage id)=false := by
  by_contra hbelongs
  exact (h.owned id (h.owner id ((Bool.not_eq_false _).mp hbelongs))).2.1 hmem

theorem Locked.not_pooled_of_others (hmem : id∈s.others) : id∉s.pool := by
  intro hpool
  exact (nodup_append.mp h.distinct).2.2 id hpool id hmem rfl

theorem Locked.not_obtained_of_others (hmem : id∈s.others) : s.pushing≠some (.obtained id) := by
  intro hobtained
  exact (h.owned id (h.obtained id hobtained).1).2.1 hmem

theorem locked_otherRuns (obtained : id∈s.others)
    (free : (s.stage id).isFree=true) : Locked (s.move id (.given .other)) := by
  have hinside : inside (s.stage id)=false := by
    cases hstage : s.stage id with
    | waiting => rfl
    | given => rfl
    | _ =>
      rw [hstage] at free
      cases free
  have hcreated := h.known id (mem_append_right _ obtained)
  have hnew : belongs (.given .other)=false := rfl
  have hnew' : inside (.given .other)=false := rfl
  exact h.foreign (h.not_belongs_of_others obtained) hinside hnew hnew' rfl
    (fun hobtained => absurd hobtained (h.not_obtained_of_others obtained)) rfl rfl
    h.owned h.distinct h.known (h.pooled_update (h.not_pooled_of_others obtained) _)
    (h.fresh_update hcreated _)

theorem locked_otherBegins (given : s.stage id=.given .other) : Locked (s.move id .busy) := by
  have hcreated : id<s.created := by
    refine h.created ?_
    rw [given]
    exact nofun
  have hpool : id∉s.pool := by
    intro hmem
    rcases h.pooled id hmem with hstage|hstage|hstage
    all_goals
      rw [given] at hstage
      cases hstage
  refine h.foreign (by rw [given]; rfl) (by rw [given]; rfl) rfl rfl rfl ?_ rfl rfl
    h.owned h.distinct h.known (h.pooled_update hpool _) (h.fresh_update hcreated _)
  intro hobtained
  rcases (h.obtained id hobtained).2 with hstage|hstage
  all_goals
    rw [given] at hstage
    cases hstage

theorem locked_otherReleases (obtained : id∈s.others) (runs : s.stage id=.busy) :
    Locked {(s.releaseWorker (some id)).move id .returning with others := s.others.erase id} := by
  have hcreated := h.known id (mem_append_right _ obtained)
  have hpool := h.not_pooled_of_others obtained
  have hsublist := releaseWorker_sublist s
  have hothers : (s.others.erase id).Sublist s.others := erase_sublist
  have hnot : id∉s.others.erase id := by
    have hnodup := (nodup_append.mp h.distinct).2.1
    exact hnodup.not_mem_erase
  refine h.foreign (by rw [runs]; rfl) (by rw [runs]; rfl) rfl rfl rfl
    (fun hobtained => absurd hobtained (h.not_obtained_of_others obtained)) rfl rfl ?_
    (h.distinct_release hsublist hothers hpool hnot) (h.known_release hsublist hothers hcreated)
    (h.pooled_release hsublist hpool (.inl rfl)) (h.fresh_update hcreated _)
  intro j hj
  obtain ⟨hnot',hothers',hcreated'⟩ := h.owned j hj
  refine ⟨?_,fun hmem => hothers' (hothers.subset hmem),hcreated'⟩
  intro hmem
  rcases mem_append.mp hmem with hmem|hmem
  · exact hnot' (hsublist.subset hmem)
  · rw [mem_singleton.mp hmem] at hothers'
    exact hothers' obtained

end

theorem locked_new : Locked System.new := by
  refine ⟨?_,?_,?_,?_,?_,?_,?_,?_,?_,fun _ _ => rfl,?_,nodup_nil,?_,?_,fun _ _ => rfl⟩
  · intro id
    exact iff_of_false Bool.false_ne_true nofun
  · refine iff_of_false nofun ?_
    rintro ⟨id,hid⟩
    cases hid
  · exact nofun
  · exact nofun
  · exact nofun
  · refine iff_of_false Bool.false_ne_true ?_
    rintro ⟨id,hid⟩
    cases hid
  · intro hnone
    exact absurd rfl hnone
  · exact nofun
  · exact nofun
  · exact nofun
  · exact nofun
  · exact nofun

theorem locked_step (h : Locked s) {event : Event} (hstep : Step s event s') : Locked s' := by
  cases hstep with
  | submit free => exact locked_pushTo h free false
  | submitToFront free => exact locked_pushTo h free true
  | waitForSubmittedTasks => exact locked_waitForSubmittedTasks h false
  | shutdown => exact {h with queued := fun _ _ => rfl}
  | shutdownWaits => exact {locked_waitForSubmittedTasks h true with}
  | startThread starts free => exact locked_startThread h starts free
  | giveWork obtained => exact locked_giveWork h obtained
  | beginRun given => exact locked_beginRun h given
  | checkStop loops =>
    obtain ⟨hstop,hready⟩ := locked_checkStop h loops
    rw [hstop]
    exact hready
  | pop pops => exact locked_pop h pops
  | finishJob runs => exact locked_finishJob h runs
  | hasNext looks => exact locked_hasNext h looks
  | leaveRun leaves => exact locked_leaveRun h leaves
  | unlock left => exact locked_unlock h left
  | workerReturns returns => exact locked_workerReturns h returns
  | otherObtains => exact locked_otherObtains h
  | otherRuns obtained free => exact locked_otherRuns h obtained free
  | otherBegins given => exact locked_otherBegins h given
  | otherReleases obtained runs => exact locked_otherReleases h obtained runs

/-- Nothing but a caller or another user can make a step. -/
def Stuck (s : System) : Prop := ∀ event s',event.isInternal=true → ¬Step s event s'

section

variable (h : Locked s) (hstuck : Stuck s)
include h hstuck

/-- A worker that is left in the pool can be joined, or is about to return. -/
theorem Locked.canRelease_of_stuck (hleft : ∀ id∈s.pool,s.stage id≠.left) : s.canRelease := by
  intro _ id hid
  have hmem : id∈s.pool := mem_of_mem_head? hid
  rcases h.pooled id hmem with hstage|hstage|hstage
  · exact hstage
  · exact absurd (.workerReturns hstage) (hstuck (.workerReturns id) _ rfl)
  · exact absurd hstage (hleft id hmem)

/-- A worker in `TaskThread::run` or with the function of the executor can make a step. -/
theorem Locked.not_stuck_of_worker (id : ℕ) : belongs (s.stage id)=false ∧ inside (s.stage id)=false := by
  have hpushing : inside (s.stage id)=true → serves (s.stage id)=true → s.pushing=none :=
    fun hinside hserves => (h.in_service rfl hinside hserves).2.2.1
  cases hstage : s.stage id with
  | given user =>
    cases user with
    | executor => exact absurd (.beginRun hstage (h.given id hstage)) (hstuck (.beginRun id) _ rfl)
    | other => exact ⟨rfl,rfl⟩
  | loop => exact absurd (.checkStop hstage) (hstuck (.checkStop id) _ rfl)
  | ready =>
    rw [hstage] at hpushing
    exact absurd (.pop hstage (hpushing rfl rfl)) (hstuck (.pop id) _ rfl)
  | runs => exact absurd (.finishJob hstage) (hstuck (.finishJob id) _ rfl)
  | next =>
    rw [hstage] at hpushing
    exact absurd (.hasNext hstage (hpushing rfl rfl) (.inr (.inr rfl))) (hstuck (.hasNext id true) _ rfl)
  | leave =>
    have hmutex := (h.holder id).mp (by rw [hstage]; rfl)
    have hreleases : s.canRelease := by
      refine h.canRelease_of_stuck hstuck ?_
      intro j hmem hleft
      have hmutex' := (h.holder j).mp (by rw [hleft]; rfl)
      rw [hmutex] at hmutex'
      cases hmutex'
      rw [hstage] at hleft
      cases hleft
    exact absurd (.leaveRun hstage hreleases) (hstuck (.leaveRun id) _ rfl)
  | left => exact absurd (.unlock hstage) (hstuck (.unlock id) _ rfl)
  | waiting | busy | returning => exact ⟨rfl,rfl⟩

theorem Locked.queue_empty_of_stuck : s.queue=[] := by
  have hrunning : s.threadRunning=false := by
    by_contra htrue
    obtain ⟨id,hserves⟩ := h.running.mp ((Bool.not_eq_false _).mp htrue)
    have hnot := (h.not_stuck_of_worker hstuck id).1
    rw [belongs_of_serves hserves] at hnot
    cases hnot
  refine h.queued hrunning ?_
  cases hpushing : s.pushing with
  | none => rfl
  | some pushing =>
    cases pushing with
    | starting =>
      -- the mutex of the `TaskThread` is free, since nobody is in `TaskThread::run`
      have hfree : s.taskMutex=none := by
        cases hmutex : s.taskMutex with
        | none => rfl
        | some holder =>
          cases holder with
          | pusher =>
            obtain ⟨id,hid⟩ := h.pusher.mp hmutex
            rw [hpushing] at hid
            cases hid
          | worker id =>
            have hinside := (h.holder id).mpr hmutex
            rw [(h.not_stuck_of_worker hstuck id).2] at hinside
            cases hinside
      exact absurd (.startThread hpushing hfree) (hstuck .startThread _ rfl)
    | obtained id =>
      have hwaiting : s.stage id=.waiting := by
        rcases (h.obtained id hpushing).2 with hstage|hstage
        · exact hstage
        · exact absurd (.workerReturns hstage) (hstuck (.workerReturns id) _ rfl)
      exact absurd (.giveWork hpushing (by rw [hwaiting]; rfl)) (hstuck .giveWork _ rfl)

end

end AlexaClientSDK.ExecutorLocks
