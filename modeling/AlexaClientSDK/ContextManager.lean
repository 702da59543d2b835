import Mathlib.Algebra.Group.Nat.Defs
import Mathlib.Data.List.AList
import AlexaClientSDK.LabelledRuns

/-!
# The context manager

`ContextManager` asks the state providers of an endpoint for their states. A request is answered when all of them have
replied, when one cannot, or when its timer expires. All but adding and removing providers, and the first check of
`setState`, are tasks of one executor. The empty string is the default endpoint.
-/

namespace AlexaClientSDK.ContextManager

open Function

structure CapabilityTag where
  nameSpace : String
  name : String
  endpointId : String
  instanceId : Option String
  deriving DecidableEq

inductive StateRefreshPolicy
  | never
  | always
  | sometimes
  deriving DecidableEq

/-- `CapabilityState`, without the time of the sample. -/
structure CapabilityState where
  valuePayload : String
  deriving DecidableEq

/-- What a state provider says about itself. -/
structure StateProvider where
  canStateBeRetrieved : Bool
  hasReportableStateProperties : Bool
  deriving DecidableEq

inductive ContextRequestError
  | stateProviderTimedout
  | buildContextError
  | endpointUnreachable
  deriving DecidableEq

structure StateInfo where
  stateProvider : Option StateProvider
  capabilityState : Option CapabilityState
  legacyCapability : Bool
  refreshPolicy : StateRefreshPolicy

/-- The constructor from a JSON text. -/
def StateInfo.ofJson (stateProvider : Option StateProvider) (jsonState : String)
    (refreshPolicy : StateRefreshPolicy) : StateInfo where
  stateProvider := stateProvider
  capabilityState := if jsonState = "" then none else some ⟨jsonState⟩
  legacyCapability := true
  refreshPolicy := refreshPolicy

def StateInfo.ofState (stateProvider : Option StateProvider)
    (capabilityState : Option CapabilityState) : StateInfo where
  stateProvider := stateProvider
  capabilityState := capabilityState
  legacyCapability := false
  refreshPolicy := .always

/-- A provider answers a request unless its properties are to be skipped. -/
def StateProvider.retrievable (provider : StateProvider) (skipReportableStateProperties : Bool) : Bool :=
  provider.canStateBeRetrieved &&
    if provider.hasReportableStateProperties then !skipReportableStateProperties else true

/-- `getContextInternal` asks the provider of the capability. -/
def StateInfo.requestState (info : StateInfo) (skipReportableStateProperties : Bool) : Bool :=
  match info.stateProvider with
  | none => false
  | some provider =>
    if info.legacyCapability && info.refreshPolicy≠.never then true
    else !info.legacyCapability && provider.retrievable skipReportableStateProperties

/-- `getContextAvailableCallbackIfReadyLocked` adds the state of the capability. -/
def StateInfo.addState (info : StateInfo) (skipReportableStateProperties : Bool) : Bool :=
  if info.legacyCapability then
    !(info.refreshPolicy=.sometimes && info.capabilityState.isNone)
  else
    match info.stateProvider with
    | none => false
    | some provider => provider.retrievable skipReportableStateProperties

/-- Its token is what of the number fits an `unsigned int`. -/
structure Call where
  number : ℕ
  endpointId : String
  /-- `getContextWithoutReportableStateProperties`. -/
  skipReportableStateProperties : Bool
  deriving DecidableEq

def Call.token (call : Call) : ℕ := call.number%2^32

/-- `ContextManager::RequestTracker`. The requester is named by its call. -/
structure RequestTracker where
  timerToken : ℕ
  contextRequester : Option Call
  skipReportableStateProperties : Bool

def RequestTracker.empty : RequestTracker := ⟨0,none,false⟩

inductive Mark
  /-- `provideState` is called for a request. -/
  | queried (call : ℕ) (tag : CapabilityTag)
  /-- The reply for a capability is taken for the pending request. -/
  | answered (call : ℕ) (tag : CapabilityTag)
  | stored (endpointId : String) (tag : CapabilityTag) (state : CapabilityState)
  /-- `onContextAvailable`, with the optional states that were dereferenced. -/
  | available (call : Call) (endpointId : String) (context : List (CapabilityTag × Option CapabilityState))
  | failure (call : Call) (error : ContextRequestError)
  deriving DecidableEq

inductive Task
  | setState (tag : CapabilityTag) (jsonState : String) (refreshPolicy : StateRefreshPolicy) (stateRequestToken : ℕ)
  | reportStateChange (tag : CapabilityTag) (state : CapabilityState)
  | provideStateResponse (tag : CapabilityTag) (state : CapabilityState) (stateRequestToken : ℕ)
  | provideStateUnavailableResponse (tag : CapabilityTag) (stateRequestToken : ℕ) (isEndpointUnreachable : Bool)
  | getContext (call : Call) (hasRequester : Bool)
  | timeout (token : ℕ)

abbrev CapabilitiesState := AList fun _ : CapabilityTag => StateInfo

/-- The members, the executor and timer, and the history. -/
structure Manager where
  endpointsState : String → CapabilitiesState
  /-- `m_requestCounter`, which does not wrap here. -/
  requestCounter : ℕ
  pendingStateRequest : ℕ → Option (List CapabilityTag)
  pendingRequests : ℕ → Option RequestTracker
  /-- With their own tokens and those of the requests. -/
  timers : List (ℕ × ℕ)
  nextTimerToken : ℕ
  tasks : List Task
  history : List Mark

def Manager.init : Manager where
  endpointsState _ := ∅
  requestCounter := 0
  pendingStateRequest _ := none
  pendingRequests _ := none
  timers := []
  nextTimerToken := 0
  tasks := []
  history := []

def EMPTY_TOKEN : ℕ := 0

def resolve (defaultEndpointId endpointId : String) : String :=
  if endpointId = "" then defaultEndpointId else endpointId

section

variable (defaultEndpointId : String)

section

variable (s : Manager)

section

variable (tag : CapabilityTag)

namespace Manager

def addStateProvider (provider : StateProvider) : Manager :=
  let endpointId := resolve defaultEndpointId tag.endpointId
  let capabilitiesState := (s.endpointsState endpointId).insert tag (.ofState (some provider) none)
  {s with endpointsState := update s.endpointsState endpointId capabilitiesState}

def removeStateProvider : Manager :=
  let endpointId := resolve defaultEndpointId tag.endpointId
  let capabilitiesState := (s.endpointsState endpointId).erase tag
  {s with endpointsState := update s.endpointsState endpointId capabilitiesState}

def providerOf : Option StateProvider :=
  ((s.endpointsState (resolve defaultEndpointId tag.endpointId)).lookup tag).bind StateInfo.stateProvider

/-- Both `updateCapabilityState`s, with the provider that is there. -/
def updateCapabilityState (info : StateInfo) : Manager :=
  let endpointId := resolve defaultEndpointId tag.endpointId
  let capabilitiesState := (s.endpointsState endpointId).insert tag info
  {s with
    endpointsState := update s.endpointsState endpointId capabilitiesState
    history := s.history++(info.capabilityState.map fun state => .stored endpointId tag state).toList}

def requestAt (requestToken : ℕ) : RequestTracker :=
  (s.pendingRequests requestToken).getD .empty

def pendingStates (requestToken : ℕ) : List CapabilityTag :=
  (s.pendingStateRequest requestToken).getD []

/-- The `FinallyGuard`: the timer is cancelled and the request is forgotten. -/
def clearRequest (requestToken : ℕ) : Manager :=
  {s with
    timers := s.timers.filter fun timer => decide (timer.1≠(s.requestAt requestToken).timerToken)
    pendingRequests := update s.pendingRequests requestToken none
    pendingStateRequest := update s.pendingStateRequest requestToken none}

/-- `getContextFailureCallbackLocked` and the call of its result. -/
def contextFailure (requestToken : ℕ) (error : ContextRequestError) : Manager :=
  match (s.requestAt requestToken).contextRequester with
  | none => s.clearRequest requestToken
  | some call => {s.clearRequest requestToken with history := s.history++[.failure call error]}

end Manager

/-- The states that go into the context. -/
def contextOf (capabilities : CapabilitiesState) (skipReportableStateProperties : Bool) :
    List (CapabilityTag × Option CapabilityState) :=
  (capabilities.entries.filter fun entry => entry.2.addState skipReportableStateProperties).map
    fun entry => (entry.1,entry.2.capabilityState)

/-- `getContextAvailableCallbackIfReadyLocked` and the call of its result. -/
def Manager.contextAvailableIfReady (requestToken : ℕ) (endpointId : String) : Manager :=
  if s.pendingStates requestToken≠[] then s
  else
    let request := s.requestAt requestToken
    match request.contextRequester with
    | none => s.clearRequest requestToken
    | some call =>
      {s.clearRequest requestToken with
        history := s.history++[.available call endpointId
          (contextOf (s.endpointsState (resolve defaultEndpointId endpointId)) request.skipReportableStateProperties)]}

/-- It is taken out of the pending ones, if there is such a request. -/
def Manager.takeReply (requestToken : ℕ) : Manager :=
  match s.pendingStateRequest requestToken with
  | none => s
  | some tags =>
    {s with
      pendingStateRequest := update s.pendingStateRequest requestToken
        (some (tags.filter fun other => decide (other≠tag)))
      history := s.history ++
        ((s.requestAt requestToken).contextRequester.map fun call => .answered call.number tag).toList}

def Manager.runSetState (jsonState : String) (refreshPolicy : StateRefreshPolicy) (stateRequestToken : ℕ) : Manager :=
  let s := s.updateCapabilityState defaultEndpointId tag
    (.ofJson (s.providerOf defaultEndpointId tag) jsonState refreshPolicy)
  if stateRequestToken=EMPTY_TOKEN then s
  else if jsonState = "" ∧ refreshPolicy=.always then
    s.contextFailure stateRequestToken .buildContextError
  else
    (s.takeReply tag stateRequestToken).contextAvailableIfReady defaultEndpointId stateRequestToken ""

def Manager.runProvideStateResponse (state : CapabilityState) (stateRequestToken : ℕ) : Manager :=
  if tag∈s.pendingStates stateRequestToken then
    let s := s.updateCapabilityState defaultEndpointId tag (.ofState (s.providerOf defaultEndpointId tag) (some state))
    (s.takeReply tag stateRequestToken).contextAvailableIfReady defaultEndpointId stateRequestToken tag.endpointId
  else s

/-- The task of `provideStateUnavailableResponse`. The cached state is that of the endpoint as the capability
has it. -/
def Manager.runProvideStateUnavailableResponse (stateRequestToken : ℕ) (isEndpointUnreachable : Bool) : Manager :=
  if tag∈s.pendingStates stateRequestToken then
    if isEndpointUnreachable then s.contextFailure stateRequestToken .endpointUnreachable
    else
      match ((s.endpointsState tag.endpointId).lookup tag).bind StateInfo.capabilityState with
      | none => s.contextFailure stateRequestToken .buildContextError
      | some _ =>
        (s.takeReply tag stateRequestToken).contextAvailableIfReady defaultEndpointId stateRequestToken tag.endpointId
  else s

end

/-- The capabilities whose providers `getContextInternal` asks. -/
def queriedTags (capabilities : CapabilitiesState) (skipReportableStateProperties : Bool) : List CapabilityTag :=
  (capabilities.entries.filter fun entry => entry.2.requestState skipReportableStateProperties).map Sigma.fst

/-- The providers are asked: their capabilities become pending. -/
def Manager.query (call : Call) (tags : List CapabilityTag) : Manager :=
  {s with
    pendingStateRequest :=
      if tags=[] then s.pendingStateRequest
      else update s.pendingStateRequest call.token (some (s.pendingStates call.token++tags))
    history := s.history++tags.map fun tag => .queried call.number tag}

/-- A request that has the token already stays. -/
def Manager.runGetContext (call : Call) (hasRequester : Bool) : Manager :=
  let endpointId := resolve defaultEndpointId call.endpointId
  let tracker : RequestTracker :=
    ⟨s.nextTimerToken,if hasRequester then some call else none,call.skipReportableStateProperties⟩
  let s := {s with
    timers := s.timers++[(s.nextTimerToken,call.token)]
    nextTimerToken := s.nextTimerToken+1
    pendingRequests := update s.pendingRequests call.token (some ((s.pendingRequests call.token).getD tracker))}
  let s := s.query call (queriedTags (s.endpointsState endpointId) call.skipReportableStateProperties)
  s.contextAvailableIfReady defaultEndpointId call.token endpointId

def Manager.runTask : Task → Manager
  | .setState tag jsonState refreshPolicy token =>
    s.runSetState defaultEndpointId tag jsonState refreshPolicy token
  | .reportStateChange tag state =>
    s.updateCapabilityState defaultEndpointId tag (.ofState (s.providerOf defaultEndpointId tag) (some state))
  | .provideStateResponse tag state token => s.runProvideStateResponse defaultEndpointId tag state token
  | .provideStateUnavailableResponse tag token isEndpointUnreachable =>
    s.runProvideStateUnavailableResponse defaultEndpointId tag token isEndpointUnreachable
  | .getContext call hasRequester => s.runGetContext defaultEndpointId call hasRequester
  | .timeout token => s.contextFailure token .stateProviderTimedout

end

end

/-- A task joins the executor's queue. -/
def Manager.submit (s : Manager) (task : Task) : Manager := {s with tasks := s.tasks++[task]}

/-- `setState`: a reply to a request that does not wait for it is refused. -/
def Manager.setState (s : Manager) (tag : CapabilityTag) (jsonState : String)
    (refreshPolicy : StateRefreshPolicy) (stateRequestToken : ℕ) : Manager :=
  if stateRequestToken=EMPTY_TOKEN ∨ tag∈s.pendingStates stateRequestToken then
    s.submit (.setState tag jsonState refreshPolicy stateRequestToken)
  else s

/-- `getContextInternal`, up to the task. -/
def Manager.getContext (s : Manager) (endpointId : String) (skipReportableStateProperties : Bool)
    (hasRequester : Bool) : Manager :=
  {s with
    requestCounter := s.requestCounter+1
    tasks := s.tasks ++ [.getContext ⟨s.requestCounter+1,endpointId,skipReportableStateProperties⟩ hasRequester]}

inductive Event
  | addStateProvider (tag : CapabilityTag) (provider : StateProvider)
  | removeStateProvider (tag : CapabilityTag)
  | setState (tag : CapabilityTag) (jsonState : String) (refreshPolicy : StateRefreshPolicy) (stateRequestToken : ℕ)
  | reportStateChange (tag : CapabilityTag) (state : CapabilityState)
  | provideStateResponse (tag : CapabilityTag) (state : CapabilityState) (stateRequestToken : ℕ)
  | provideStateUnavailableResponse (tag : CapabilityTag) (stateRequestToken : ℕ) (isEndpointUnreachable : Bool)
  | getContext (endpointId : String) (skipReportableStateProperties hasRequester : Bool)
  | timerExpires (timerToken : ℕ)
  | runTask

/-- Calls of other threads, a timer that expires, and a task that runs. Replies come at any time, with any
token. -/
inductive Step (defaultEndpointId : String) : Manager → Event → Manager → Prop
  | addStateProvider {s : Manager} (tag : CapabilityTag) (provider : StateProvider) :
      Step defaultEndpointId s (.addStateProvider tag provider) (s.addStateProvider defaultEndpointId tag provider)
  | removeStateProvider {s : Manager} (tag : CapabilityTag) :
      Step defaultEndpointId s (.removeStateProvider tag) (s.removeStateProvider defaultEndpointId tag)
  | setState {s : Manager} (tag : CapabilityTag) (jsonState : String)
      (refreshPolicy : StateRefreshPolicy) (stateRequestToken : ℕ) :
      Step defaultEndpointId s (.setState tag jsonState refreshPolicy stateRequestToken)
        (s.setState tag jsonState refreshPolicy stateRequestToken)
  | reportStateChange {s : Manager} (tag : CapabilityTag) (state : CapabilityState) :
      Step defaultEndpointId s (.reportStateChange tag state) (s.submit (.reportStateChange tag state))
  | provideStateResponse {s : Manager} (tag : CapabilityTag) (state : CapabilityState) (stateRequestToken : ℕ) :
      Step defaultEndpointId s (.provideStateResponse tag state stateRequestToken)
        (s.submit (.provideStateResponse tag state stateRequestToken))
  | provideStateUnavailableResponse {s : Manager} (tag : CapabilityTag) (stateRequestToken : ℕ)
      (isEndpointUnreachable : Bool) :
      Step defaultEndpointId s (.provideStateUnavailableResponse tag stateRequestToken isEndpointUnreachable)
        (s.submit (.provideStateUnavailableResponse tag stateRequestToken isEndpointUnreachable))
  | getContext {s : Manager} (endpointId : String) (skipReportableStateProperties hasRequester : Bool) :
      Step defaultEndpointId s (.getContext endpointId skipReportableStateProperties hasRequester)
        (s.getContext endpointId skipReportableStateProperties hasRequester)
  | timerExpires {s : Manager} {timerToken token : ℕ} (runs : (timerToken,token)∈s.timers) :
      Step defaultEndpointId s (.timerExpires timerToken) {s with
        timers := s.timers.filter fun timer => decide (timer.1≠timerToken)
        tasks := s.tasks++[.timeout token]}
  | runTask {s : Manager} {task : Task} {tasks : List Task} (next : s.tasks=task::tasks) :
      Step defaultEndpointId s .runTask
        (({s with tasks := tasks} : Manager).runTask defaultEndpointId task)

end AlexaClientSDK.ContextManager
