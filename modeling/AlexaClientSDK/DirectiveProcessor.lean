import AlexaClientSDK.LabelledRuns

/-!
# The directive processor

`DirectiveProcessor` takes directives one at a time, lets their handlers pre-handle them, queues them and hands them
over on a thread of its own, at most one for each medium. One lock is dropped around the calls of the handlers. A step
is what happens between two points where the lock is free.
-/

namespace AlexaClientSDK.DirectiveProcessor

inductive Medium
  | audio
  | visual
  deriving DecidableEq

/-- `BlockingPolicy`: a set of media and a flag. -/
structure BlockingPolicy where
  audio : Bool
  visual : Bool
  isBlocking : Bool
  deriving DecidableEq

def BlockingPolicy.uses (policy : BlockingPolicy) : Medium → Bool
  | .audio => policy.audio
  | .visual => policy.visual

/-- Some medium is used. -/
def BlockingPolicy.usesAny (policy : BlockingPolicy) : Bool := policy.audio || policy.visual

/-- What is written down about one directive. -/
inductive Kind
  /-- `onDirective` calls `preHandleDirective`. -/
  | begun
  /-- No handler took it for pre-handling. -/
  | refused
  | queued (policy : BlockingPolicy)
  /-- `handleDirective` is called. -/
  | handed (policy : BlockingPolicy)
  | returned (policy : BlockingPolicy) (succeeded : Bool)
  /-- The handler calls `setCompleted`. -/
  | completed
  /-- The handler calls `setFailed`. -/
  | failed
  | canceling
  /-- The loop takes it out of the cancelling queue. -/
  | taken
  | canceled
  deriving DecidableEq

/-- The dialogs of the directives, and the order of their addresses. -/
structure Setting (δ : Type) where
  dialogRequestId : δ → String
  /-- One address is less than another. -/
  precedes : δ → δ → Bool

variable {δ : Type}

/-- Where the processing loop is when it does not hold the lock. -/
inductive Loop (δ : Type)
  | asleep
  | canceling (batch : List δ)
  | calling (directive : δ) (policy : BlockingPolicy)
  | exited

def Loop.batch : Loop δ → List δ
  | .canceling batch => batch
  | _ => []

/-- The members, the locals of a running `onDirective`, and the history. -/
structure Processor (δ : Type) where
  isShuttingDown : Bool
  isEnabled : Bool
  /-- The handle is in `m_handleMap`. -/
  registered : Bool
  dialogRequestId : String
  cancelingQueue : List δ
  directiveBeingPreHandled : Option δ
  handlingQueue : List (δ × BlockingPolicy)
  directivesBeingHandled : Medium → Option δ
  /-- What the `onDirective` that waits for `preHandleDirective` was given. -/
  preHandling : Option (δ × BlockingPolicy)
  loop : Loop δ
  history : List (δ × Kind)

def Processor.init : Processor δ where
  isShuttingDown := false
  isEnabled := true
  registered := true
  dialogRequestId := ""
  cancelingQueue := []
  directiveBeingPreHandled := none
  handlingQueue := []
  directivesBeingHandled _ := none
  preHandling := none
  loop := .asleep
  history := []

/-- The scan up to the first directive that is not blocked. -/
def nextUnblocked (blocked : Medium → Bool) : List (δ × BlockingPolicy) →
      Option (List (δ × BlockingPolicy) × (δ × BlockingPolicy) × List (δ × BlockingPolicy))
  | [] => none
  | item::queue =>
    if (item.2.uses .audio && blocked .audio) || (item.2.uses .visual && blocked .visual) then
      let blocked := if item.2.isBlocking then fun m => blocked m || item.2.uses m else blocked
      match nextUnblocked blocked queue with
      | none => none
      | some (before,next,after) => some (item::before,next,after)
    else some ([],item,queue)

def Processor.getNextUnblockedDirective (s : Processor δ) :
    Option (List (δ × BlockingPolicy) × (δ × BlockingPolicy) × List (δ × BlockingPolicy)) :=
  nextUnblocked (fun m => (s.directivesBeingHandled m).isSome) s.handlingQueue

section

variable [DecidableEq δ] (S : Setting δ)

/-- The set that is returned, in the order of the addresses. -/
def freed (S : Setting δ) (beingHandled : Medium → Option δ) (shouldClear : δ → Bool) : List δ :=
  match (beingHandled .audio).filter shouldClear,(beingHandled .visual).filter shouldClear with
  | none,none => []
  | some d,none => [d]
  | none,some e => [e]
  | some d,some e => if d=e then [d] else if S.precedes d e then [d,e] else [e,d]

def leaving (queue : List (δ × BlockingPolicy)) (leaves : δ → Bool) : List δ :=
  (queue.filter fun item => leaves item.1).map Prod.fst

section

variable (s : Processor δ)

/-- `scrubDialogRequestIdLocked` and `queueAllDirectivesForCancellationLocked`. -/
def Processor.withdraw (leaves : δ → Bool) (moved : List δ) : Processor δ :=
  {s with
    directiveBeingPreHandled := s.directiveBeingPreHandled.filter fun d => !leaves d
    directivesBeingHandled := fun m => (s.directivesBeingHandled m).filter fun d => !leaves d
    handlingQueue := s.handlingQueue.filter fun item => !leaves item.1
    cancelingQueue := s.cancelingQueue++moved
    history := s.history++moved.map fun d => (d,.canceling)}

def Processor.scrubDialogRequestId (dialogRequestId : String) : Processor δ :=
  if dialogRequestId = "" then s
  else
    let leaves := fun d => decide (S.dialogRequestId d=dialogRequestId)
    {s.withdraw leaves ((s.directiveBeingPreHandled.filter leaves).toList ++
        freed S s.directivesBeingHandled leaves++leaving s.handlingQueue leaves) with
      dialogRequestId := if dialogRequestId=s.dialogRequestId then "" else s.dialogRequestId}

def Processor.queueAllDirectivesForCancellation : Processor δ :=
  {s.withdraw (fun _ => true) (freed S s.directivesBeingHandled (fun _ => true) ++
      leaving s.handlingQueue (fun _ => true)++s.directiveBeingPreHandled.toList) with
    dialogRequestId := ""}

section

variable (directive : δ)

namespace Processor

def removeDirective : Processor δ :=
  {s with
    cancelingQueue := s.cancelingQueue.filter fun d => d≠directive
    directiveBeingPreHandled := s.directiveBeingPreHandled.filter fun d => d≠directive
    handlingQueue := s.handlingQueue.filter fun item => item.1≠directive
    directivesBeingHandled := fun m => (s.directivesBeingHandled m).filter fun d => d≠directive}

/-- `onDirective` up to the call of `preHandleDirective`, if it gets there. -/
def beginDirective (policy : BlockingPolicy) : Option Bool × Processor δ :=
  if s.isShuttingDown ∨ s.isEnabled=false then (some false,s)
  else if S.dialogRequestId directive ≠ "" ∧ S.dialogRequestId directive≠s.dialogRequestId then
    (some true,s)
  else
    (none,{s with
      directiveBeingPreHandled := some directive
      preHandling := some (directive,policy)
      history := s.history++[(directive,.begun)]})

/-- The second half of `onDirective`. -/
def endDirective (policy : BlockingPolicy) (preHandled : Bool) : Bool × Processor δ :=
  let s := {s with preHandling := none}
  match s.directiveBeingPreHandled with
  | none => (preHandled,s)
  | some _ =>
    if preHandled then
      (true,{s with
        directiveBeingPreHandled := none
        handlingQueue := s.handlingQueue++[(directive,policy)]
        history := s.history++[(directive,.queued policy)]})
    else
      (false,{s with
        directiveBeingPreHandled := none
        history := s.history++[(directive,.refused)]})

def setDialogRequestId (dialogRequestId : String) : Processor δ :=
  if dialogRequestId=s.dialogRequestId then s
  else {s.scrubDialogRequestId S s.dialogRequestId with dialogRequestId := dialogRequestId}

def setCompleted : Processor δ :=
  if s.registered then
    {s.removeDirective directive with history := s.history++[(directive,.completed)]}
  else s

def setFailed : Processor δ :=
  if s.registered then
    ({s.removeDirective directive with
      history := s.history++[(directive,.failed)]} : Processor δ).scrubDialogRequestId S (S.dialogRequestId directive)
  else s

def disable : Processor δ :=
  {s.queueAllDirectivesForCancellation S with isEnabled := false}

/-- The two locked parts of `shutdown`: the handle is forgotten first. -/
def unregister : Processor δ := {s with registered := false}

/-- The second part, up to the join. -/
def shutdown : Processor δ :=
  {s.queueAllDirectivesForCancellation S with isShuttingDown := true}

/-- The swap of `processCancelingQueueLocked`. -/
def takeCancelingQueue : Processor δ :=
  {s with
    cancelingQueue := []
    loop := .canceling s.cancelingQueue
    history := s.history++s.cancelingQueue.map fun d => (d,.taken)}

/-- `setDirectiveBeingHandledLocked`, and the directive leaves the queue. -/
def handOver (before : List (δ × BlockingPolicy))
    (next : δ × BlockingPolicy) (after : List (δ × BlockingPolicy)) : Processor δ :=
  {s with
    directivesBeingHandled := fun m =>
      if next.2.uses m then some next.1 else s.directivesBeingHandled m
    handlingQueue := before++after
    loop := .calling next.1 next.2
    history := s.history++[(next.1,.handed next.2)]}

/-- The loop within `handleQueuedDirectivesLocked`: hand over, start again with what is to be cancelled, end or
wait. -/
def serve : Processor δ :=
  match s.getNextUnblockedDirective with
  | some (before,next,after) => s.handOver before next after
  | none =>
    if s.cancelingQueue≠[] then s.takeCancelingQueue
    else if s.isShuttingDown then {s with loop := .exited}
    else {s with loop := .asleep}

/-- The condition on which the loop is woken. -/
def wake : Bool :=
  !s.cancelingQueue.isEmpty || s.getNextUnblockedDirective.isSome || s.isShuttingDown

/-- The loop from its top on. -/
def pass : Processor δ :=
  if s.cancelingQueue≠[] then s.takeCancelingQueue else s.serve

def clearDirectiveBeingHandled (policy : BlockingPolicy) : Processor δ :=
  {s with directivesBeingHandled := fun m =>
      if policy.uses m then none else s.directivesBeingHandled m}

/-- What follows the return of `handleDirective`, before the loop goes on. -/
def handlerReturned (policy : BlockingPolicy) (succeeded : Bool) : Processor δ :=
  let s := {s with history := s.history++[(directive,.returned policy succeeded)]}
  let s :=
    if succeeded=false ∨ policy.isBlocking=false then s.clearDirectiveBeingHandled policy else s
  if succeeded then s else s.scrubDialogRequestId S (S.dialogRequestId directive)

end Processor

end

end

inductive Event (δ : Type)
  | beginDirective (directive : δ) (policy : BlockingPolicy)
  | endDirective (preHandled : Bool)
  | setDialogRequestId (dialogRequestId : String)
  | setCompleted (directive : δ)
  | setFailed (directive : δ)
  | disable
  | enable
  | unregister
  | shutdown
  | wake
  | cancelDirective
  | batchDone
  | handlerReturned (succeeded : Bool)

/-- One `onDirective` runs at a time; a handler may report results at any time. -/
inductive Step : Processor δ → Event δ → Processor δ → Prop
  | beginDirective {s : Processor δ} {directive : δ} {policy : BlockingPolicy}
      (free : s.preHandling=none) (once : (directive,Kind.begun)∉s.history) :
      Step s (.beginDirective directive policy) (s.beginDirective S directive policy).2
  | endDirective {s : Processor δ} {directive : δ} {policy : BlockingPolicy}
      (running : s.preHandling=some (directive,policy)) (preHandled : Bool) :
      Step s (.endDirective preHandled) (s.endDirective directive policy preHandled).2
  | setDialogRequestId {s : Processor δ} (dialogRequestId : String) :
      Step s (.setDialogRequestId dialogRequestId) (s.setDialogRequestId S dialogRequestId)
  | setCompleted {s : Processor δ} {directive : δ} (begun : (directive,Kind.begun)∈s.history) :
      Step s (.setCompleted directive) (s.setCompleted directive)
  | setFailed {s : Processor δ} {directive : δ} (begun : (directive,Kind.begun)∈s.history) :
      Step s (.setFailed directive) (s.setFailed S directive)
  | disable {s : Processor δ} : Step s .disable (s.disable S)
  | enable {s : Processor δ} : Step s .enable {s with isEnabled := true}
  | unregister {s : Processor δ} : Step s .unregister s.unregister
  | shutdown {s : Processor δ} (unregistered : s.registered=false) : Step s .shutdown (s.shutdown S)
  | wake {s : Processor δ} (asleep : s.loop=.asleep) (woken : s.wake=true) : Step s .wake s.pass
  | cancelDirective {s : Processor δ} {directive : δ} {batch : List δ}
      (canceling : s.loop=.canceling (directive::batch)) :
      Step s .cancelDirective {s with
        loop := .canceling batch,history := s.history++[(directive,.canceled)]}
  | batchDone {s : Processor δ} (canceling : s.loop=.canceling []) : Step s .batchDone s.serve
  | handlerReturned {s : Processor δ} {directive : δ} {policy : BlockingPolicy}
      (calling : s.loop=.calling directive policy) (succeeded : Bool) :
      Step s (.handlerReturned succeeded) (s.handlerReturned S directive policy succeeded).serve

end

end AlexaClientSDK.DirectiveProcessor
