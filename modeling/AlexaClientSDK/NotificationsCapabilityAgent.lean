import Mathlib.Data.List.Basic

/-!
# The notifications capability agent

The notifications that are to be shown are in a table of `SQLiteNotificationsStorage` and are given to a renderer one
after the other. Directives and the renderer's callbacks put tasks into the executor. Only `clearData` writes the state
on the thread that calls it. What is reported to observers and the context manager is left out, and statements of the
storage do not fail.
-/

namespace AlexaClientSDK.NotificationsCapabilityAgent

/-- `NotificationsCapabilityAgentState`. -/
inductive AgentState
  | idle
  | playing
  | cancelingPlay
  | shuttingDown
  | shutdown
  deriving DecidableEq

/-- `IndicatorState`, as the storage keeps it. -/
inductive IndicatorState
  | off
  | on
  deriving DecidableEq

def intToIndicatorState : Bool → IndicatorState
  | false => .off
  | true => .on

structure NotificationIndicator where
  persistVisualIndicator : Bool
  playAudioIndicator : Bool
  assetId : String
  url : String
  deriving DecidableEq

/-- A row of the table, with the number of the notification. -/
structure Row where
  /-- How many notifications were stored before. -/
  number : ℕ
  indicator : NotificationIndicator

inductive Task
  | init
  | setIndicator (indicator : NotificationIndicator)
  | clearIndicator
  | playFinished
  | clearData
  | shutdown
  deriving DecidableEq

/-- The agent, the storage, the renderer and the history. -/
structure System where
  currentState : AgentState
  currentAssetId : String
  isEnabled : Bool
  /-- The executor's queue. -/
  tasks : List Task
  /-- The rows of the table, in the order of their row ids. -/
  queue : List Row
  indicatorState : IndicatorState
  /-- The notification that the renderer has accepted and not finished. -/
  rendering : Option ℕ
  /-- How many notifications were stored. -/
  stored : ℕ
  /-- How often the agent was started again. -/
  restarts : ℕ
  /-- With the number of restarts before. -/
  rendered : List (ℕ × ℕ)
  /-- What left the queue, with the number of restarts before. -/
  dequeued : List (ℕ × ℕ)
  cleared : List ℕ

/-- A new agent with an empty table. -/
def System.new : System where
  currentState := .idle
  currentAssetId := ""
  isEnabled := false
  tasks := [.init]
  queue := []
  indicatorState := .off
  rendering := none
  stored := 0
  restarts := 0
  rendered := []
  dequeued := []
  cleared := []

section

variable (s : System)

section

variable (indicator : NotificationIndicator)

namespace System

def enqueue : System :=
  {s with queue := s.queue++[⟨s.stored,indicator⟩],stored := s.stored+1}

/-- `dequeue`, which fails when no row is left. -/
def dequeue : System :=
  match s.queue with
  | [] => s
  | row::rows => {s with queue := rows,dequeued := s.dequeued++[(s.restarts,row.number)]}

def clearNotificationIndicators : System :=
  {s with queue := [],cleared := s.cleared++s.queue.map Row.number}

def executeSetState (state : AgentState) : System :=
  {s with
    currentState := state
    currentAssetId := if state=.idle ∨ state=.shuttingDown then "" else s.currentAssetId}

def executePossibleIndicatorStateChange (state : IndicatorState) : System :=
  if state≠s.indicatorState then {s with indicatorState := state} else s

/-- The notification counts as rendered. -/
def logRendered (row : Row) : System :=
  {s with rendered := s.rendered++[(s.restarts,row.number)]}

/-- It refuses while it renders another. -/
def renderNotification (row : Row) (accepts : Bool) : System :=
  if accepts=true ∧ s.rendering=none then {s.logRendered row with rendering := some row.number}
  else s.executeSetState .idle

def executePlayFinishedZeroQueued : System :=
  {(match s.currentState with
      | .idle | .playing | .cancelingPlay => s.executeSetState .idle
      | .shuttingDown => s.executeSetState .shutdown
      | .shutdown => s) with
    isEnabled := false}

/-- What `executePlayFinishedOneQueued` does in `PLAYING`. -/
def finishLast : System :=
  {s.dequeue.executeSetState .idle with isEnabled := false}

/-- The beginning of `executeRenderNotification`. -/
def beginRendering (row : Row) : System :=
  {s with currentAssetId := row.indicator.assetId,currentState := .playing}

/-- A notification without sound counts as rendered. -/
def renderSilently (row : Row) : System :=
  {(s.beginRendering row).logRendered row with currentAssetId := ""}

end System

/-- For a given queue. One without sound is finished at once. -/
def renderQueue (accepts : Bool) (queue : List Row) (row : Row) (s : System) : System :=
  if row.indicator.playAudioIndicator then (s.beginRendering row).renderNotification row accepts
  else
    match queue with
    | [] => (s.renderSilently row).executePlayFinishedZeroQueued
    | [_] => (s.renderSilently row).finishLast
    | _::next::rows => renderQueue accepts (next::rows) next
        ((s.renderSilently row).dequeue.executePossibleIndicatorStateChange
          (intToIndicatorState next.indicator.persistVisualIndicator))

namespace System

def executeRenderNotification (row : Row) (accepts : Bool) : System :=
  renderQueue accepts s.queue row s

/-- `peek`, and what is done with the notification that it finds. -/
def renderNext (accepts : Bool) : System :=
  match s.queue with
  | [] => s
  | row::_ =>
    (s.executePossibleIndicatorStateChange
      (intToIndicatorState row.indicator.persistVisualIndicator)).executeRenderNotification row accepts

def executePlayFinishedOneQueued (accepts : Bool) : System :=
  match s.currentState with
  | .idle => s
  | .playing => s.finishLast
  | .cancelingPlay => s.renderNext accepts
  | .shuttingDown => s.executeSetState .shutdown
  | .shutdown => s

def executePlayFinishedMultipleQueued (accepts : Bool) : System :=
  match s.currentState with
  | .idle => s
  | .playing => s.dequeue.renderNext accepts
  | .cancelingPlay => s.renderNext accepts
  | .shuttingDown => s.executeSetState .shutdown
  | .shutdown => s

def executeOnPlayFinished (accepts : Bool) : System :=
  let s := {s with currentAssetId := ""}
  match s.queue with
  | [] => s.executePlayFinishedZeroQueued
  | [_] => s.executePlayFinishedOneQueued accepts
  | _::_::_ => s.executePlayFinishedMultipleQueued accepts

/-- `executeInit`, and `executeStartQueueNotEmpty`. -/
def executeInit (accepts : Bool) : System :=
  let s := {s with isEnabled := decide (s.queue≠[] ∨ s.indicatorState=.on)}
  if s.queue≠[] ∧ s.currentState=.idle then s.renderNext accepts else s

/-- It stores a notification, and renders it if it is the only one. -/
def storeAndRender (accepts : Bool) : System :=
  let stored := (s.enqueue indicator).executePossibleIndicatorStateChange
    (intToIndicatorState indicator.persistVisualIndicator)
  {(if stored.currentState=.idle then
      stored.executeRenderNotification ⟨s.stored,indicator⟩ accepts else stored) with
    isEnabled := true}

def executeSetIndicator (accepts : Bool) : System :=
  match s.currentState with
  | .playing =>
    if indicator.assetId=s.currentAssetId then s else s.storeAndRender indicator accepts
  | .idle | .cancelingPlay => s.storeAndRender indicator accepts
  | .shuttingDown => {s.enqueue indicator with isEnabled := true}
  | .shutdown => s

end System

end

namespace System

/-- Whether it can be cancelled only decides what is logged. -/
def executeClearIndicator : System :=
  match s.currentState with
  | .shutdown => s
  | .playing => {((s.executeSetState .cancelingPlay).clearNotificationIndicators).executePossibleIndicatorStateChange
      .off with isEnabled := false}
  | .idle | .cancelingPlay | .shuttingDown =>
    {s.clearNotificationIndicators.executePossibleIndicatorStateChange .off with isEnabled := false}

def executeShutdown : System :=
  match s.currentState with
  | .idle => s.executeSetState .shutdown
  | .playing | .cancelingPlay => s.executeSetState .shuttingDown
  | .shuttingDown | .shutdown => s

def executeClearData : System :=
  {s.clearNotificationIndicators with indicatorState := .off}

def runTask (accepts : Bool) : Task → System
  | .init => s.executeInit accepts
  | .setIndicator indicator => s.executeSetIndicator indicator accepts
  | .clearIndicator => s.executeClearIndicator
  | .playFinished => s.executeOnPlayFinished accepts
  | .clearData => s.executeClearData
  | .shutdown => s.executeShutdown

/-- A task is put into the executor. -/
def submit (task : Task) : System := {s with tasks := s.tasks++[task]}

/-- The part of `clearData` on the thread that calls it. -/
def clearData (s : System) : System :=
  (if s.currentState=.shutdown ∨ s.currentState=.shuttingDown then s
    else s.executeSetState .idle).submit .clearData

/-- Only the database is left of the last one. -/
def restart : System :=
  {s with
    currentState := .idle
    currentAssetId := ""
    isEnabled := false
    tasks := [.init]
    rendering := none
    restarts := s.restarts+1}

end System

end

inductive Event
  | setIndicator (indicator : NotificationIndicator)
  | clearIndicator
  | renderingFinished
  | clearData
  | shutdown
  | restart
  | runTask (accepts : Bool)

inductive Step : System → Event → System → Prop
  | setIndicator {s : System} (indicator : NotificationIndicator) :
      Step s (.setIndicator indicator) (s.submit (.setIndicator indicator))
  | clearIndicator {s : System} : Step s .clearIndicator (s.submit .clearIndicator)
  | renderingFinished {s : System} (renders : s.rendering≠none) :
      Step s .renderingFinished (({s with rendering := none} : System).submit .playFinished)
  | clearData {s : System} : Step s .clearData s.clearData
  | shutdown {s : System} : Step s .shutdown (s.submit .shutdown)
  | restart {s : System} : Step s .restart s.restart
  | runTask {s : System} {task : Task} {tasks : List Task} (accepts : Bool) (next : s.tasks=task::tasks) :
      Step s (.runTask accepts) (({s with tasks := tasks} : System).runTask accepts task)

end AlexaClientSDK.NotificationsCapabilityAgent
