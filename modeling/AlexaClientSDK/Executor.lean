import Mathlib.Data.List.Basic

/-!
# The executor

`Executor` runs the tasks of its queue on a thread that it borrows from a pool; the worker leaves when the queue has
been empty for a while. Three mutexes are held across steps: `pushTo` keeps that of the queue while it starts a thread,
`TaskThread::run` that of its `TaskThread`, and a worker its own until its function has returned. Other users of the
pool come and go.
-/

namespace AlexaClientSDK.Executor

structure Task where
  /-- How many tasks were accepted before. -/
  number : ℕ
  front : Bool
  deriving DecidableEq

/-- A thread in `waitForSubmittedTasks`. -/
structure Waiter where
  shutdown : Bool
  /-- The tasks that were started or in the queue when it was called. -/
  before : List Task
  deriving DecidableEq

/-- An entry of `m_queue`. -/
inductive Job
  | task (task : Task)
  /-- The function with which `waitForSubmittedTasks` sets its promise. -/
  | flush (waiter : Waiter)
  deriving DecidableEq

def Job.toTask : Job → Option Task
  | .task submitted => some submitted
  | .flush _ => none

def tasksOf (queue : List Job) : List Task := queue.filterMap Job.toTask

inductive User
  | executor
  | other
  deriving DecidableEq

/-- Where a `WorkerThread` is. -/
inductive Stage
  | waiting
  | given (user : User)
  /-- At the head of the loop of `TaskThread::run`. -/
  | loop
  /-- In `runNext`, before `pop`. -/
  | ready
  /-- In `runNext`, with what it has popped. -/
  | runs (job : Job)
  | next
  /-- Behind the loop of `TaskThread::run`. -/
  | leave
  /-- Behind `releaseWorker`. -/
  | left
  /-- It runs the function of another user. -/
  | busy
  | returning
  deriving DecidableEq

/-- Who holds the mutex of the `TaskThread`. -/
inductive Holder
  | pusher
  | worker (id : ℕ)

/-- A `pushTo` that starts a thread. It holds the mutex of the queue. -/
inductive Pushing
  /-- Before it has the mutex of the `TaskThread`. -/
  | starting
  /-- With a worker, before it has given it the function. -/
  | obtained (id : ℕ)
  deriving DecidableEq

/-- The executor, its `TaskThread`, the pool and the history. -/
structure System where
  queue : List Job
  threadRunning : Bool
  isShutdown : Bool
  pushing : Option Pushing
  taskMutex : Option Holder
  stop : Bool
  alreadyStarting : Bool
  workerThread : Option ℕ
  stage : ℕ → Stage
  pool : List ℕ
  created : ℕ
  others : List ℕ
  /-- The calls of `shutdown` that have not come to `waitForSubmittedTasks`. -/
  closing : ℕ
  /-- How many tasks were accepted. -/
  submitted : ℕ
  started : List Task
  finished : List Task
  removed : List Task
  /-- The calls of `waitForSubmittedTasks` that have returned. -/
  returned : List Waiter

def System.new : System where
  queue := []
  threadRunning := false
  isShutdown := false
  pushing := none
  taskMutex := none
  stop := false
  alreadyStarting := false
  workerThread := none
  stage := fun _ => .waiting
  pool := []
  created := 0
  others := []
  closing := 0
  submitted := 0
  started := []
  finished := []
  removed := []
  returned := []

section

variable (s : System)

def System.move (id : ℕ) (stage : Stage) : System :=
  {s with stage := Function.update s.stage id stage}

def DEFAULT_MAX_THREAD_POOL_THREADS : ℕ := 20

def System.obtainWorker : System × ℕ :=
  match s.pool with
  | [] => ({s with created := s.created+1},s.created)
  | id::pool => ({s with pool := pool},id)

/-- `releaseWorker`. The first worker of a full pool is destroyed. -/
def System.releaseWorker (worker : Option ℕ) : System :=
  {s with pool := (if DEFAULT_MAX_THREAD_POOL_THREADS ≤ s.pool.length then s.pool.tail else s.pool) ++ worker.toList}

/-- The worker is joined, which takes until its function has returned. -/
def System.canRelease : Prop :=
  DEFAULT_MAX_THREAD_POOL_THREADS ≤ s.pool.length → ∀ id,s.pool.head?=some id → s.stage id=.waiting

/-- The mutex of a `WorkerThread` is free. -/
def Stage.isFree : Stage → Bool
  | .waiting | .given _ => true
  | _ => false

/-- `pushTo`, up to the mutex of the `TaskThread`. -/
def System.pushTo (front : Bool) : System :=
  if s.isShutdown then s
  else
    let job := Job.task ⟨s.submitted,front⟩
    let pushed := {s with
      queue := if front then job::s.queue else s.queue++[job]
      submitted := s.submitted+1}
    if s.threadRunning then pushed
    else if s.alreadyStarting then {pushed with threadRunning := true}
    else {pushed with alreadyStarting := true,stop := true,pushing := some .starting}

/-- `TaskThread::start`, with the mutex, up to `WorkerThread::run`. -/
def System.startThread : System :=
  let obtained := s.obtainWorker
  {obtained.1 with
    taskMutex := some .pusher
    workerThread := some obtained.2
    pushing := some (.obtained obtained.2)}

section

variable (id : ℕ)

namespace System

/-- The rest of `TaskThread::start` and of `pushTo`. -/
def giveWork : System :=
  {s.move id (.given .executor) with threadRunning := true,pushing := none,taskMutex := none}

/-- `waitForSubmittedTasks`, up to the future. -/
def waitForSubmittedTasks (shutdown : Bool) : System :=
  let waiter : Waiter := ⟨shutdown,s.started++tasksOf s.queue⟩
  if s.threadRunning then {s with queue := s.queue++[.flush waiter]}
  else {s with returned := s.returned++[waiter]}

/-- `shutdown`, up to `waitForSubmittedTasks`. -/
def shutdown : System :=
  {s with
    queue := []
    removed := s.removed++tasksOf s.queue
    isShutdown := true
    closing := s.closing+1}

def shutdownWaits : System :=
  {s.waitForSubmittedTasks true with closing := s.closing-1}

/-- The beginning of `TaskThread::run`. -/
def beginRun : System :=
  {s.move id .loop with taskMutex := some (.worker id),stop := false,alreadyStarting := false}

def pop : System :=
  match s.queue with
  | [] => s.move id .next
  | job::queue => {s.move id (.runs job) with queue := queue,started := s.started++job.toTask.toList}

/-- The end of a task, or of a function that sets a promise. -/
def finishJob : Job → System
  | .task task => {s.move id .next with finished := s.finished++[task]}
  | .flush waiter => {s.move id .next with returned := s.returned++[waiter]}

/-- `hasNext`, when the wait is over. -/
def hasNext : System :=
  {s.move id (if s.queue=[] then .leave else .loop) with threadRunning := decide (s.queue≠[])}

/-- The end of `TaskThread::run`. -/
def leaveRun : System :=
  {(s.releaseWorker s.workerThread).move id .left with workerThread := none}

end System

end

end

inductive Event
  | submit
  | submitToFront
  | waitForSubmittedTasks
  | shutdown
  | shutdownWaits
  | startThread
  | giveWork
  | beginRun (id : ℕ)
  | checkStop (id : ℕ)
  | pop (id : ℕ)
  | finishJob (id : ℕ)
  | hasNext (id : ℕ) (timeout : Bool)
  | leaveRun (id : ℕ)
  | unlock (id : ℕ)
  | workerReturns (id : ℕ)
  | otherObtains
  | otherRuns (id : ℕ)
  | otherBegins (id : ℕ)
  | otherReleases (id : ℕ)

/-- The steps that no caller and no other user has to make. -/
def Event.isInternal : Event → Bool
  | .startThread | .giveWork | .beginRun _ | .checkStop _ | .pop _ | .finishJob _ | .hasNext _ _
  | .leaveRun _ | .unlock _ | .workerReturns _ => true
  | _ => false

/-- What needs the mutex of the queue waits for a `pushTo`. -/
inductive Step : System → Event → System → Prop
  | submit {s : System} (free : s.pushing=none) : Step s .submit (s.pushTo false)
  | submitToFront {s : System} (free : s.pushing=none) : Step s .submitToFront (s.pushTo true)
  | waitForSubmittedTasks {s : System} (free : s.pushing=none) :
      Step s .waitForSubmittedTasks (s.waitForSubmittedTasks false)
  | shutdown {s : System} (free : s.pushing=none) : Step s .shutdown s.shutdown
  | shutdownWaits {s : System} (free : s.pushing=none) (called : 0<s.closing) : Step s .shutdownWaits s.shutdownWaits
  | startThread {s : System} (starts : s.pushing=some .starting) (free : s.taskMutex=none) :
      Step s .startThread s.startThread
  | giveWork {s : System} {id : ℕ} (obtained : s.pushing=some (.obtained id))
      (free : (s.stage id).isFree=true) : Step s .giveWork (s.giveWork id)
  | beginRun {s : System} {id : ℕ} (given : s.stage id=.given .executor) (free : s.taskMutex=none) :
      Step s (.beginRun id) (s.beginRun id)
  | checkStop {s : System} {id : ℕ} (loops : s.stage id=.loop) :
      Step s (.checkStop id) (s.move id (if s.stop then .leave else .ready))
  | pop {s : System} {id : ℕ} (pops : s.stage id=.ready) (free : s.pushing=none) : Step s (.pop id) (s.pop id)
  | finishJob {s : System} {id : ℕ} {job : Job} (runs : s.stage id=.runs job) :
      Step s (.finishJob id) (s.finishJob id job)
  | hasNext {s : System} {id : ℕ} {timeout : Bool} (looks : s.stage id=.next) (free : s.pushing=none)
      (ended : s.queue≠[] ∨ s.isShutdown=true ∨ timeout=true) :
      Step s (.hasNext id timeout) (s.hasNext id)
  | leaveRun {s : System} {id : ℕ} (leaves : s.stage id=.leave) (joined : s.canRelease) :
      Step s (.leaveRun id) (s.leaveRun id)
  | unlock {s : System} {id : ℕ} (left : s.stage id=.left) :
      Step s (.unlock id) {s.move id .returning with taskMutex := none}
  | workerReturns {s : System} {id : ℕ} (returns : s.stage id=.returning) :
      Step s (.workerReturns id) (s.move id .waiting)
  | otherObtains {s : System} :
      Step s .otherObtains {s.obtainWorker.1 with others := s.others++[s.obtainWorker.2]}
  | otherRuns {s : System} {id : ℕ} (obtained : id∈s.others) (free : (s.stage id).isFree=true) :
      Step s (.otherRuns id) (s.move id (.given .other))
  | otherBegins {s : System} {id : ℕ} (given : s.stage id=.given .other) : Step s (.otherBegins id) (s.move id .busy)
  | otherReleases {s : System} {id : ℕ} (obtained : id∈s.others) (runs : s.stage id=.busy) (joined : s.canRelease) :
      Step s (.otherReleases id)
        {(s.releaseWorker (some id)).move id .returning with others := s.others.erase id}

end AlexaClientSDK.Executor
