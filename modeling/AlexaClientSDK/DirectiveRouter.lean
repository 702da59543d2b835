import AlexaClientSDK.Tallies
import AlexaClientSDK.DirectiveProcessor

/-!
# The directive router

The router keeps the handler of each routing rule, and a reference count for each handler. A call of a handler is made
outside of the lock and counts as a reference, as does `onDeregistered`. A step is what a thread does under the lock, or
a call of `onDeregistered`. The calls that run are kept, and so are the handlers that a thread is about to tell. What
handlers do, the metrics and the log are left out.
-/

namespace AlexaClientSDK.DirectiveRouter

open DirectiveProcessor (BlockingPolicy)
open Tallies

/-- `CapabilityTag`, and `DirectiveRoutingRule`. -/
structure CapabilityTag where
  nameSpace : String
  name : String
  endpointId : String
  instanceId : Option String
deriving DecidableEq

def WILDCARD : String := "*"

section

variable (endpointId : String)

section

variable (instanceId : Option String)

def routingRulePerDirective (nameSpace name : String) :
    CapabilityTag := ⟨nameSpace,name,endpointId,instanceId⟩

def routingRulePerNamespace (nameSpace : String) : CapabilityTag :=
  ⟨nameSpace,WILDCARD,endpointId,instanceId⟩

def routingRulePerInstance : CapabilityTag :=
  ⟨WILDCARD,WILDCARD,endpointId,instanceId⟩

end

def routingRulePerNamespaceAnyInstance (endpointId nameSpace : String) : CapabilityTag :=
  ⟨nameSpace,WILDCARD,endpointId,some WILDCARD⟩

def routingRulePerEndpoint : CapabilityTag := ⟨WILDCARD,WILDCARD,endpointId,some WILDCARD⟩

end

def isDirectiveRoutingRuleValid (rule : CapabilityTag) : Bool :=
  if rule.endpointId=WILDCARD then false
  else !((rule.instanceId.getD "" == WILDCARD || rule.nameSpace == WILDCARD) && rule.name != WILDCARD)

def isValid (policy : BlockingPolicy) : Bool := !(!policy.usesAny && policy.isBlocking)

structure Directive where
  nameSpace : String
  name : String
  /-- The id of `getEndpoint`, if it has a value. -/
  endpointId : Option String
  instanceId : String

variable {η : Type} [DecidableEq η]

structure HandlerAndPolicy (η : Type) where
  handler : η
  policy : BlockingPolicy
deriving DecidableEq

/-- The state of a `DirectiveRouter`. -/
structure Router (η : Type) where
  configuration : AList fun _ : CapabilityTag => HandlerAndPolicy η
  handlerReferenceCounts : AList fun _ : η => ℕ
  running : List η
  /-- The handlers whose `onDeregistered` a thread is about to call. -/
  owed : List η
  shuttingDown : Bool
  releasedHandlers : List η
  isShutdown : Bool
  added : List η
  ended : List η
  /-- With the number of calls of the handler that ran then. -/
  deregistered : List (η × ℕ)

def create : Router η where
  configuration := ∅
  handlerReferenceCounts := ∅
  running := []
  owed := []
  shuttingDown := false
  releasedHandlers := []
  isShutdown := false
  added := []
  ended := []
  deregistered := []

namespace Router

section

variable (s : Router η)

section

variable (directive : Directive)

/-- `getHandlerAndPolicyLocked`, for a pair that `operator bool` takes. -/
def getHandlerAndPolicyLocked : Option (HandlerAndPolicy η) :=
  let endpointId := directive.endpointId.getD ""
  let instanceId := if directive.instanceId.isEmpty then none else some directive.instanceId
  let matchers := [ routingRulePerDirective endpointId instanceId directive.nameSpace directive.name,
    routingRulePerNamespace endpointId instanceId directive.nameSpace,
    routingRulePerInstance endpointId instanceId,
    routingRulePerNamespaceAnyInstance endpointId directive.nameSpace,
    routingRulePerEndpoint endpointId]
  (matchers.findSome? fun rule => s.configuration.lookup rule).filter fun found => isValid found.policy

def getHandlerLocked : Option η :=
  (s.getHandlerAndPolicyLocked directive).map HandlerAndPolicy.handler

def getPolicy : Option BlockingPolicy :=
  (s.getHandlerAndPolicyLocked directive).map HandlerAndPolicy.policy

end

def incrementHandlerReferenceCountLocked (handler : η) : Router η :=
  {s with handlerReferenceCounts := increment s.handlerReferenceCounts handler}

/-- Up to the call of `onDeregistered`. -/
def decrementHandlerReferenceCountLocked (handler : η) : Router η :=
  match s.handlerReferenceCounts.lookup handler with
  | none => s
  | some count =>
    let s := {s with handlerReferenceCounts := decrement s.handlerReferenceCounts handler}
    if count-1=0 then {s with owed := s.owed++[handler]} else s

end

variable (getConfiguration : η → AList fun _ : CapabilityTag => BlockingPolicy)

section

variable (s : Router η)

section

variable (handler : η)

/-- The rules of the handler may be registered. -/
def canAdd : Bool :=
  (getConfiguration handler).entries.all fun item =>
    isValid item.2 && isDirectiveRoutingRuleValid item.1 && (s.configuration.lookup item.1).isNone

def addRule (s : Router η) (item : Σ _ : CapabilityTag,BlockingPolicy) : Router η :=
  {s with
    configuration := s.configuration.insert item.1 ⟨handler,item.2⟩}.incrementHandlerReferenceCountLocked handler

def addDirectiveHandler (handler : Option η) : Router η × Bool :=
  match handler with
  | none => (s,false)
  | some handler =>
    if s.isShutdown then (s,false)
    else if s.canAdd getConfiguration handler then
      let s := (getConfiguration handler).entries.foldl (addRule handler) s
      ({s with added := s.added++[handler]},true)
    else (s,false)

def canRemove : Bool :=
  (getConfiguration handler).entries.all fun item => s.configuration.lookup item.1=some ⟨handler,item.2⟩

def removeRule (s : Router η) (item : Σ _ : CapabilityTag,BlockingPolicy) : Router η :=
  {s with
    configuration := s.configuration.erase item.1
    handlerReferenceCounts := decrement s.handlerReferenceCounts handler}

def Active : Prop := s.ended.count handler<s.added.count handler

/-- A handler without rules need not have been added. -/
def removeDirectiveHandlerLocked : Router η × Bool :=
  if s.canRemove getConfiguration handler then
    let ended := if s.ended.count handler<s.added.count handler then s.ended++[handler] else s.ended
    ({(getConfiguration handler).entries.foldl (removeRule handler) s with ended := ended},true)
  else (s,false)

end

/-- `removeDirectiveHandler`, up to the call of `onDeregistered`. -/
def removeDirectiveHandler (handler : Option η) : Router η × Bool :=
  match handler with
  | none => (s,false)
  | some handler =>
    let removal := s.removeDirectiveHandlerLocked getConfiguration handler
    if removal.2 then ({removal.1 with owed := removal.1.owed++[handler]},true) else (s,false)

end

/-- The loop of `doShutdown`. -/
def releaseHandlers : ℕ → Router η → Router η
  | 0,s => s
  | n+1,s =>
    match s.configuration.entries with
    | [] => s
    | entry::_ =>
      let handler := entry.2.handler
      let removal := s.removeDirectiveHandlerLocked getConfiguration handler
      releaseHandlers n
        (if removal.2 then {removal.1 with releasedHandlers := removal.1.releasedHandlers++[handler]} else removal.1)

section

variable (s : Router η)

/-- `doShutdown`, up to the calls of `onDeregistered`. -/
def doShutdown : Router η :=
  {releaseHandlers getConfiguration s.configuration.entries.length s with configuration := ∅}

/-- A call of the handler, up to its beginning. -/
def beginCall (directive : Directive) : Router η :=
  match s.getHandlerLocked directive with
  | none => s
  | some handler => {s.incrementHandlerReferenceCountLocked handler with running := s.running++[handler]}

/-- The handler returns from such a call. -/
def endCall (handler : η) : Router η :=
  {s with running := s.running.erase handler}.decrementHandlerReferenceCountLocked handler

def onDeregistered (handler : η) : Router η :=
  {s with deregistered := s.deregistered++[(handler,s.running.count handler)]}

end

end Router

inductive Event (η : Type)
  | addDirectiveHandler (handler : Option η)
  | removeDirectiveHandler (handler : Option η)
  | beginCall (directive : Directive)
  | endCall (handler : η)
  /-- A thread gets to call `onDeregistered`. -/
  | onDeregistered (handler : η)
  | shutdown
  | releaseHandler
  | shutdownDone

/-- `addDirectiveHandler` waits while `shutdown` is in progress. -/
def Possible (s : Router η) : Event η → Prop
  | .addDirectiveHandler _ | .shutdown => s.shuttingDown=false
  | .removeDirectiveHandler _ | .beginCall _ => True
  | .endCall handler => handler∈s.running
  | .onDeregistered handler => handler∈s.owed
  | .releaseHandler => s.releasedHandlers≠[]
  | .shutdownDone => s.shuttingDown=true ∧ s.releasedHandlers=[]

instance (s : Router η) : (event : Event η) → Decidable (Possible s event)
  | .addDirectiveHandler _ | .shutdown => inferInstanceAs (Decidable (s.shuttingDown=false))
  | .removeDirectiveHandler _ | .beginCall _ => inferInstanceAs (Decidable True)
  | .endCall handler => inferInstanceAs (Decidable (handler∈s.running))
  | .onDeregistered handler => inferInstanceAs (Decidable (handler∈s.owed))
  | .releaseHandler => inferInstanceAs (Decidable (s.releasedHandlers≠[]))
  | .shutdownDone => inferInstanceAs (Decidable (s.shuttingDown=true ∧ s.releasedHandlers=[]))

variable (getConfiguration : η → AList fun _ : CapabilityTag => BlockingPolicy)

def Router.next (s : Router η) : Event η → Router η
  | .addDirectiveHandler handler => (s.addDirectiveHandler getConfiguration handler).1
  | .removeDirectiveHandler handler => (s.removeDirectiveHandler getConfiguration handler).1
  | .beginCall directive => s.beginCall directive
  | .endCall handler => s.endCall handler
  | .onDeregistered handler => {s with owed := s.owed.erase handler}.onDeregistered handler
  | .shutdown => if s.isShutdown then s else {s.doShutdown getConfiguration with shuttingDown := true}
  | .releaseHandler =>
    match s.releasedHandlers with
    | [] => s
    | handler::rest => {s with releasedHandlers := rest}.onDeregistered handler
  | .shutdownDone =>
    {s with
      shuttingDown := false
      isShutdown := true}

def Step (s : Router η) (event : Event η) (t : Router η) : Prop := Possible s event ∧ t=s.next getConfiguration event

theorem step_next {s : Router η} (event : Event η) (hpossible : Possible s event) :
    Step getConfiguration s event (s.next getConfiguration event) :=
  ⟨hpossible,rfl⟩

end AlexaClientSDK.DirectiveRouter
