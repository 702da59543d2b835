import AlexaClientSDK.ContextManager
import AlexaClientSDK.Renamings

/-!
# Two spellings of the default endpoint

The default endpoint has the empty string for a second name. The states of a capability are looked for under the default
endpoint in both cases, but the tag is kept as it was given. A manager that was given one spelling throughout is the one
given the other, with the spellings exchanged in all tags. A reply that a state is not available, of the default endpoint
while it is reachable, looks under the given spelling and is left out.
-/

namespace AlexaClientSDK.ContextSpellings

open Function List LabelledRuns ContextManager Renamings Manager

variable (defaultEndpointId : String)

/-- The other spelling of an endpoint, for the default one. -/
def exchange (endpointId : String) : String :=
  if endpointId = "" then defaultEndpointId else if endpointId=defaultEndpointId then "" else endpointId

def exchangeTag (tag : CapabilityTag) : CapabilityTag :=
  {tag with endpointId := exchange defaultEndpointId tag.endpointId}

/-- A state of a context with the other spelling. -/
def exchangeEntry (entry : CapabilityTag × Option CapabilityState) : CapabilityTag × Option CapabilityState :=
  (exchangeTag defaultEndpointId entry.1,entry.2)

def exchangeTask : Task → Task
  | .setState tag jsonState refreshPolicy token =>
    .setState (exchangeTag defaultEndpointId tag) jsonState refreshPolicy token
  | .reportStateChange tag state => .reportStateChange (exchangeTag defaultEndpointId tag) state
  | .provideStateResponse tag state token => .provideStateResponse (exchangeTag defaultEndpointId tag) state token
  | .provideStateUnavailableResponse tag token isEndpointUnreachable =>
    .provideStateUnavailableResponse (exchangeTag defaultEndpointId tag) token isEndpointUnreachable
  | .getContext call hasRequester => .getContext call hasRequester
  | .timeout token => .timeout token

def exchangeEvent : Event → Event
  | .addStateProvider tag provider => .addStateProvider (exchangeTag defaultEndpointId tag) provider
  | .removeStateProvider tag => .removeStateProvider (exchangeTag defaultEndpointId tag)
  | .setState tag jsonState refreshPolicy token =>
    .setState (exchangeTag defaultEndpointId tag) jsonState refreshPolicy token
  | .reportStateChange tag state => .reportStateChange (exchangeTag defaultEndpointId tag) state
  | .provideStateResponse tag state token => .provideStateResponse (exchangeTag defaultEndpointId tag) state token
  | .provideStateUnavailableResponse tag token isEndpointUnreachable =>
    .provideStateUnavailableResponse (exchangeTag defaultEndpointId tag) token isEndpointUnreachable
  | .getContext endpointId skipReportableStateProperties hasRequester =>
    .getContext endpointId skipReportableStateProperties hasRequester
  | .timerExpires timerToken => .timerExpires timerToken
  | .runTask => .runTask

/-- The default endpoint may be reported under either spelling. -/
inductive MarkExchanged : Mark → Mark → Prop
  | queried (call : ℕ) (tag : CapabilityTag) :
      MarkExchanged (.queried call tag) (.queried call (exchangeTag defaultEndpointId tag))
  | answered (call : ℕ) (tag : CapabilityTag) :
      MarkExchanged (.answered call tag) (.answered call (exchangeTag defaultEndpointId tag))
  | stored (endpointId : String) (tag : CapabilityTag) (state : CapabilityState) :
      MarkExchanged (.stored endpointId tag state) (.stored endpointId (exchangeTag defaultEndpointId tag) state)
  | available (call : Call) {endpointId endpointId' : String}
      (same : resolve defaultEndpointId endpointId'=resolve defaultEndpointId endpointId)
      (context : List (CapabilityTag × Option CapabilityState)) :
      MarkExchanged (.available call endpointId context)
        (.available call endpointId' (context.map (exchangeEntry defaultEndpointId)))
  | failure (call : Call) (error : ContextRequestError) : MarkExchanged (.failure call error) (.failure call error)

/-- What each of `m_observers` is told by `onStateChanged` in a step. -/
def stateChanges (s : Manager) : Event → List (CapabilityTag × CapabilityState)
  | .runTask =>
    match s.tasks with
    | .reportStateChange tag state::_ => [(tag,state)]
    | _ => []
  | _ => []

/-- The next reply is waited for, of the default endpoint, which is reachable and does not have the state. -/
def ReadsCache (s : Manager) : Event → Prop
  | .runTask => ∃ tag token tasks,s.tasks=.provideStateUnavailableResponse tag token false::tasks ∧
      tag∈s.pendingStates token ∧ resolve defaultEndpointId tag.endpointId=defaultEndpointId
  | _ => False

theorem exchange_exchange (endpointId : String) :
    exchange defaultEndpointId (exchange defaultEndpointId endpointId)=endpointId := by
  unfold exchange
  by_cases hempty : endpointId = ""
  · rw [if_pos hempty]
    by_cases hdefault : defaultEndpointId = ""
    · rw [if_pos hdefault,hempty,hdefault]
    · rw [if_neg hdefault,if_pos rfl,hempty]
  · rw [if_neg hempty]
    by_cases hdefault : endpointId=defaultEndpointId
    · rw [if_pos hdefault,if_pos rfl,hdefault]
    · rw [if_neg hdefault,if_neg hempty,if_neg hdefault]

theorem resolve_exchange (endpointId : String) :
    resolve defaultEndpointId (exchange defaultEndpointId endpointId)=resolve defaultEndpointId endpointId := by
  unfold exchange resolve
  by_cases hempty : endpointId = ""
  · rw [if_pos hempty,if_pos hempty,ite_self]
  · rw [if_neg hempty,if_neg hempty]
    by_cases hdefault : endpointId=defaultEndpointId
    · rw [if_pos hdefault,if_pos rfl,hdefault]
    · rw [if_neg hdefault,if_neg hempty]

theorem resolve_exchangeTag (tag : CapabilityTag) :
    resolve defaultEndpointId (exchangeTag defaultEndpointId tag).endpointId=resolve defaultEndpointId tag.endpointId :=
  resolve_exchange defaultEndpointId tag.endpointId

/-- The tags of other endpoints have one spelling. -/
theorem exchangeTag_of_ne {tag : CapabilityTag} (hother : resolve defaultEndpointId tag.endpointId≠defaultEndpointId) :
    exchangeTag defaultEndpointId tag=tag := by
  have hempty : tag.endpointId≠"" := fun hempty => hother (if_pos hempty)
  have hdefault : tag.endpointId≠defaultEndpointId := fun hdefault => by
    unfold resolve at hother
    rw [if_neg hempty] at hother
    exact hother hdefault
  unfold exchangeTag exchange
  rw [if_neg hempty,if_neg hdefault]

theorem exchangeTag_injective : Function.Injective (exchangeTag defaultEndpointId) := by
  have htwice : Function.LeftInverse (exchangeTag defaultEndpointId) (exchangeTag defaultEndpointId) := by
    intro tag
    unfold exchangeTag
    rw [exchange_exchange]
  exact htwice.injective

/-- The states of an endpoint with the other spelling in the tags. -/
def exchangeStates (capabilities : CapabilitiesState) : CapabilitiesState :=
  rename (exchangeTag_injective defaultEndpointId) capabilities

/-- They differ in the spelling of the default endpoint in all tags. -/
structure Exchanged (s s' : Manager) : Prop where
  endpointsState : ∀ endpointId,s'.endpointsState endpointId=exchangeStates defaultEndpointId (s.endpointsState endpointId)
  requestCounter : s'.requestCounter=s.requestCounter
  pendingStateRequest : ∀ token,
    s'.pendingStateRequest token=(s.pendingStateRequest token).map (List.map (exchangeTag defaultEndpointId))
  pendingRequests : s'.pendingRequests=s.pendingRequests
  timers : s'.timers=s.timers
  nextTimerToken : s'.nextTimerToken=s.nextTimerToken
  tasks : s'.tasks=s.tasks.map (exchangeTask defaultEndpointId)
  history : List.Forall₂ (MarkExchanged defaultEndpointId) s.history s'.history

def exchangeMark : Mark → Mark
  | .queried call tag => .queried call (exchangeTag defaultEndpointId tag)
  | .answered call tag => .answered call (exchangeTag defaultEndpointId tag)
  | .stored endpointId tag state => .stored endpointId (exchangeTag defaultEndpointId tag) state
  | .available call endpointId context =>
    .available call endpointId (context.map (exchangeEntry defaultEndpointId))
  | .failure call error => .failure call error

/-- The manager with the other spelling in all tags. -/
def exchangeManager (s : Manager) : Manager where
  endpointsState endpointId := exchangeStates defaultEndpointId (s.endpointsState endpointId)
  requestCounter := s.requestCounter
  pendingStateRequest token := (s.pendingStateRequest token).map (List.map (exchangeTag defaultEndpointId))
  pendingRequests := s.pendingRequests
  timers := s.timers
  nextTimerToken := s.nextTimerToken
  tasks := s.tasks.map (exchangeTask defaultEndpointId)
  history := s.history.map (exchangeMark defaultEndpointId)

theorem exchanged_exchangeManager (s : Manager) :
    Exchanged defaultEndpointId s (exchangeManager defaultEndpointId s) := by
  refine ⟨fun _ => rfl,rfl,fun _ => rfl,rfl,rfl,rfl,rfl,?_⟩
  unfold exchangeManager
  rw [forall₂_map_right_iff,forall₂_same]
  intro mark _
  cases mark with
  | queried call tag => exact .queried call tag
  | answered call tag => exact .answered call tag
  | stored endpointId tag state => exact .stored endpointId tag state
  | available call endpointId context => exact .available call rfl context
  | failure call error => exact .failure call error

variable {defaultEndpointId} {s s' : Manager}

section

variable (h : Exchanged defaultEndpointId s s')
include h

theorem Exchanged.pendingStates (token : ℕ) :
    s'.pendingStates token=(s.pendingStates token).map (exchangeTag defaultEndpointId) := by
  unfold Manager.pendingStates
  rw [h.pendingStateRequest]
  cases s.pendingStateRequest token with
  | none => rfl
  | some => rfl

theorem Exchanged.mem_pendingStates (tag : CapabilityTag) (token : ℕ) :
    exchangeTag defaultEndpointId tag∈s'.pendingStates token ↔ tag∈s.pendingStates token := by
  rw [h.pendingStates]
  exact mem_map_of_injective (exchangeTag_injective defaultEndpointId)

theorem Exchanged.requestAt (token : ℕ) : s'.requestAt token=s.requestAt token := by
  unfold Manager.requestAt
  rw [h.pendingRequests]

theorem Exchanged.providerOf (tag : CapabilityTag) :
    s'.providerOf defaultEndpointId (exchangeTag defaultEndpointId tag)=s.providerOf defaultEndpointId tag := by
  unfold Manager.providerOf
  rw [resolve_exchangeTag,h.endpointsState]
  unfold exchangeStates
  rw [lookup_rename]

end

theorem contextOf_exchangeStates (capabilities : CapabilitiesState) (skipReportableStateProperties : Bool) :
    contextOf (exchangeStates defaultEndpointId capabilities) skipReportableStateProperties =
      (contextOf capabilities skipReportableStateProperties).map (exchangeEntry defaultEndpointId) := by
  unfold contextOf
  rw [map_map]
  exact map_filter_rename (exchangeTag_injective defaultEndpointId) capabilities
    (fun info => info.addState skipReportableStateProperties)
    (fun tag info => exchangeEntry defaultEndpointId (tag,info.capabilityState))
    (fun tag info => (tag,info.capabilityState)) fun _ _ => rfl

theorem queriedTags_exchangeStates (capabilities : CapabilitiesState) (skipReportableStateProperties : Bool) :
    queriedTags (exchangeStates defaultEndpointId capabilities) skipReportableStateProperties =
      (queriedTags capabilities skipReportableStateProperties).map (exchangeTag defaultEndpointId) := by
  unfold queriedTags
  rw [map_map]
  exact map_filter_rename (exchangeTag_injective defaultEndpointId) capabilities
    (fun info => info.requestState skipReportableStateProperties)
    (fun tag _ => exchangeTag defaultEndpointId tag) (fun tag _ => tag) fun _ _ => rfl

section

variable (h : Exchanged defaultEndpointId s s')
include h

namespace Exchanged

theorem log {more more' : List Mark} (hmore : List.Forall₂ (MarkExchanged defaultEndpointId) more more') :
    Exchanged defaultEndpointId {s with history := s.history++more} {s' with history := s'.history++more'} :=
  {h with history := rel_append h.history hmore}

theorem update (endpointId : String) {capabilities capabilities' : CapabilitiesState}
    (hstates : capabilities'=exchangeStates defaultEndpointId capabilities) :
    Exchanged defaultEndpointId {s with endpointsState := update s.endpointsState endpointId capabilities}
      {s' with endpointsState := update s'.endpointsState endpointId capabilities'} := by
  refine {h with endpointsState := fun other => ?_}
  dsimp only
  by_cases hother : other=endpointId
  · subst hother
    rw [update_self,update_self]
    exact hstates
  · rw [update_of_ne hother,update_of_ne hother]
    exact h.endpointsState other

theorem wait (token : ℕ) (tags : Option (List CapabilityTag)) : Exchanged defaultEndpointId
      {s with pendingStateRequest := Function.update s.pendingStateRequest token tags}
      {s' with pendingStateRequest :=
          Function.update s'.pendingStateRequest token (tags.map (List.map (exchangeTag defaultEndpointId)))} := by
  refine {h with pendingStateRequest := fun other => ?_}
  dsimp only
  by_cases hother : other=token
  · rw [hother,Function.update_self,Function.update_self]
  · rw [Function.update_of_ne hother,Function.update_of_ne hother]
    exact h.pendingStateRequest other

theorem clearRequest (token : ℕ) : Exchanged defaultEndpointId (s.clearRequest token) (s'.clearRequest token) := by
  have hforgotten := h.wait token none
  unfold Manager.clearRequest
  rw [h.requestAt,h.timers,h.pendingRequests]
  exact {hforgotten with timers := rfl,pendingRequests := rfl}

theorem contextFailure (token : ℕ) (error : ContextRequestError) :
    Exchanged defaultEndpointId (s.contextFailure token error) (s'.contextFailure token error) := by
  unfold Manager.contextFailure
  rw [h.requestAt]
  cases (s.requestAt token).contextRequester with
  | none => exact h.clearRequest token
  | some call => exact (h.clearRequest token).log (.cons (.failure call error) .nil)

/-- A request is answered if nothing is waited for any more. -/
theorem contextAvailableIfReady (token : ℕ)
    {endpointId endpointId' : String} (hsame : resolve defaultEndpointId endpointId'=resolve defaultEndpointId endpointId) :
    Exchanged defaultEndpointId (s.contextAvailableIfReady defaultEndpointId token endpointId)
      (s'.contextAvailableIfReady defaultEndpointId token endpointId') := by
  have hready : s'.pendingStates token≠[] ↔ s.pendingStates token≠[] := by
    rw [h.pendingStates,ne_eq,ne_eq,map_eq_nil_iff]
  unfold Manager.contextAvailableIfReady
  by_cases hwaits : s.pendingStates token≠[]
  · rw [if_pos hwaits,if_pos (hready.mpr hwaits)]
    exact h
  · rw [if_neg hwaits,if_neg (hready.not.mpr hwaits)]
    dsimp only
    rw [h.requestAt,hsame,h.endpointsState,contextOf_exchangeStates]
    cases (s.requestAt token).contextRequester with
    | none => exact h.clearRequest token
    | some call => exact (h.clearRequest token).log (.cons (.available call hsame _) .nil)

theorem query (call : Call) (tags : List CapabilityTag) :
    Exchanged defaultEndpointId (s.query call tags) (s'.query call (tags.map (exchangeTag defaultEndpointId))) := by
  unfold Manager.query
  rw [h.pendingStates,←map_append]
  have hmarks : List.Forall₂ (MarkExchanged defaultEndpointId) (tags.map fun tag => .queried call.number tag)
      ((tags.map (exchangeTag defaultEndpointId)).map fun tag => .queried call.number tag) := by
    rw [map_map,forall₂_map_left_iff,forall₂_map_right_iff,forall₂_same]
    exact fun tag _ => .queried call.number tag
  by_cases hnone : tags=[]
  · rw [if_pos hnone,if_pos (map_eq_nil_iff.mpr hnone)]
    exact h.log hmarks
  · rw [if_neg hnone,if_neg (mt map_eq_nil_iff.mp hnone)]
    exact (h.wait call.token _).log hmarks

section

variable (tag : CapabilityTag)

theorem addStateProvider (provider : StateProvider) :
    Exchanged defaultEndpointId (s.addStateProvider defaultEndpointId tag provider)
      (s'.addStateProvider defaultEndpointId (exchangeTag defaultEndpointId tag) provider) := by
  unfold Manager.addStateProvider
  rw [resolve_exchangeTag]
  refine h.update _ ?_
  rw [h.endpointsState]
  exact (rename_insert (exchangeTag_injective defaultEndpointId) _ tag _).symm

theorem removeStateProvider : Exchanged defaultEndpointId (s.removeStateProvider defaultEndpointId tag)
      (s'.removeStateProvider defaultEndpointId (exchangeTag defaultEndpointId tag)) := by
  unfold Manager.removeStateProvider
  rw [resolve_exchangeTag]
  refine h.update _ ?_
  rw [h.endpointsState]
  exact (rename_erase (exchangeTag_injective defaultEndpointId) _ tag).symm

theorem updateCapabilityState (info : StateInfo) :
    Exchanged defaultEndpointId (s.updateCapabilityState defaultEndpointId tag info)
      (s'.updateCapabilityState defaultEndpointId (exchangeTag defaultEndpointId tag) info) := by
  unfold Manager.updateCapabilityState
  dsimp only
  rw [resolve_exchangeTag,h.endpointsState]
  refine Exchanged.log (h.update _ (rename_insert (exchangeTag_injective defaultEndpointId) _ tag info).symm) ?_
  cases info.capabilityState with
  | none => exact .nil
  | some state => exact .cons (.stored _ tag state) .nil

theorem takeReply (token : ℕ) :
    Exchanged defaultEndpointId (s.takeReply tag token) (s'.takeReply (exchangeTag defaultEndpointId tag) token) := by
  unfold Manager.takeReply
  rw [h.pendingStateRequest,h.requestAt]
  cases s.pendingStateRequest token with
  | none => exact h
  | some tags =>
    have hkept : (tags.map (exchangeTag defaultEndpointId)).filter
        (fun other => decide (other≠exchangeTag defaultEndpointId tag)) =
          (tags.filter fun other => decide (other≠tag)).map (exchangeTag defaultEndpointId) := by
      rw [filter_map]
      refine congrArg (List.map _) (filter_congr fun other _ => ?_)
      exact decide_eq_decide.mpr (exchangeTag_injective defaultEndpointId).ne_iff
    rw [Option.map_some]
    dsimp only
    rw [hkept]
    refine (h.wait token _).log ?_
    cases (s.requestAt token).contextRequester with
    | none => exact .nil
    | some call => exact .cons (.answered call.number tag) .nil

theorem runSetState (jsonState : String) (refreshPolicy : StateRefreshPolicy) (token : ℕ) :
    Exchanged defaultEndpointId (s.runSetState defaultEndpointId tag jsonState refreshPolicy token)
      (s'.runSetState defaultEndpointId (exchangeTag defaultEndpointId tag) jsonState refreshPolicy token) := by
  have hstored := h.updateCapabilityState tag (.ofJson (s.providerOf defaultEndpointId tag) jsonState refreshPolicy)
  unfold Manager.runSetState
  rw [h.providerOf]
  by_cases hplain : token=EMPTY_TOKEN
  · rw [if_pos hplain,if_pos hplain]
    exact hstored
  · rw [if_neg hplain,if_neg hplain]
    by_cases hempty : jsonState = "" ∧ refreshPolicy=.always
    · rw [if_pos hempty,if_pos hempty]
      exact hstored.contextFailure token _
    · rw [if_neg hempty,if_neg hempty]
      exact (hstored.takeReply tag token).contextAvailableIfReady token rfl

theorem runProvideStateResponse (state : CapabilityState) (token : ℕ) :
    Exchanged defaultEndpointId (s.runProvideStateResponse defaultEndpointId tag state token)
      (s'.runProvideStateResponse defaultEndpointId (exchangeTag defaultEndpointId tag) state token) := by
  have hstored := h.updateCapabilityState tag (.ofState (s.providerOf defaultEndpointId tag) (some state))
  unfold Manager.runProvideStateResponse
  rw [h.providerOf]
  by_cases hwaits : tag∈s.pendingStates token
  · rw [if_pos hwaits,if_pos ((h.mem_pendingStates tag token).mpr hwaits)]
    exact (hstored.takeReply tag token).contextAvailableIfReady token (resolve_exchangeTag defaultEndpointId tag)
  · rw [if_neg hwaits,if_neg ((h.mem_pendingStates tag token).not.mpr hwaits)]
    exact h

/-- A cached state of another endpoint is found under the one name that it has. -/
theorem lookup_of_ne (hother : resolve defaultEndpointId tag.endpointId≠defaultEndpointId) :
    (s'.endpointsState tag.endpointId).lookup tag=(s.endpointsState tag.endpointId).lookup tag := by
  have hlookup := lookup_rename (exchangeTag_injective defaultEndpointId) (s.endpointsState tag.endpointId) tag
  rw [exchangeTag_of_ne _ hother] at hlookup
  rw [h.endpointsState]
  exact hlookup

theorem runProvideStateUnavailableResponse (token : ℕ) (isEndpointUnreachable : Bool)
    (hcache : tag∈s.pendingStates token → resolve defaultEndpointId tag.endpointId=defaultEndpointId →
      isEndpointUnreachable=true) : Exchanged defaultEndpointId
      (s.runProvideStateUnavailableResponse defaultEndpointId tag token isEndpointUnreachable)
      (s'.runProvideStateUnavailableResponse defaultEndpointId (exchangeTag defaultEndpointId tag) token
        isEndpointUnreachable) := by
  unfold Manager.runProvideStateUnavailableResponse
  by_cases hwaits : tag∈s.pendingStates token
  · rw [if_pos hwaits,if_pos ((h.mem_pendingStates tag token).mpr hwaits)]
    cases hunreachable : isEndpointUnreachable with
    | true => exact h.contextFailure token _
    | false =>
      have hother : resolve defaultEndpointId tag.endpointId≠defaultEndpointId := fun hdefault =>
        Bool.false_ne_true (hunreachable.symm.trans (hcache hwaits hdefault))
      have htag : exchangeTag defaultEndpointId tag=tag := exchangeTag_of_ne _ hother
      have htaken := h.takeReply tag token
      rw [htag] at htaken ⊢
      rw [if_neg Bool.false_ne_true,if_neg Bool.false_ne_true,h.lookup_of_ne tag hother]
      cases ((s.endpointsState tag.endpointId).lookup tag).bind StateInfo.capabilityState with
      | none => exact h.contextFailure token _
      | some => exact htaken.contextAvailableIfReady token rfl
  · rw [if_neg hwaits,if_neg ((h.mem_pendingStates tag token).not.mpr hwaits)]
    exact h

end

theorem runGetContext (call : Call) (hasRequester : Bool) :
    Exchanged defaultEndpointId (s.runGetContext defaultEndpointId call hasRequester)
      (s'.runGetContext defaultEndpointId call hasRequester) := by
  unfold Manager.runGetContext
  dsimp only
  rw [h.timers,h.nextTimerToken,h.pendingRequests,h.endpointsState,queriedTags_exchangeStates]
  refine Exchanged.contextAvailableIfReady (Exchanged.query ?_ call _) call.token rfl
  exact {h with timers := rfl,nextTimerToken := rfl,pendingRequests := rfl}

end Exchanged

end

variable (defaultEndpointId) in
/-- The task looks for no cached state of the default endpoint. -/
def LeavesCache (s : Manager) : Task → Prop
  | .provideStateUnavailableResponse tag token isEndpointUnreachable =>
    tag∈s.pendingStates token → resolve defaultEndpointId tag.endpointId=defaultEndpointId → isEndpointUnreachable=true
  | _ => True

theorem not_readsCache_iff {task : Task} {tasks : List Task} (next : s.tasks=task::tasks) :
    ¬ReadsCache defaultEndpointId s .runTask ↔ LeavesCache defaultEndpointId s task := by
  constructor
  · intro hcache
    cases task with
    | provideStateUnavailableResponse tag token isEndpointUnreachable =>
      intro hwaits hdefault
      cases isEndpointUnreachable with
      | true => rfl
      | false => exact absurd ⟨tag,token,tasks,next,hwaits,hdefault⟩ hcache
    | _ => trivial
  · rintro hleaves ⟨tag,token,others,hnext,hwaits,hdefault⟩
    rw [next] at hnext
    obtain ⟨rfl,-⟩ := List.cons.inj hnext
    exact Bool.false_ne_true (hleaves hwaits hdefault)

section

variable (h : Exchanged defaultEndpointId s s')
include h

namespace Exchanged

theorem runTask (task : Task) (hcache : LeavesCache defaultEndpointId s task) :
    Exchanged defaultEndpointId (s.runTask defaultEndpointId task)
      (s'.runTask defaultEndpointId (exchangeTask defaultEndpointId task)) := by
  cases task with
  | setState tag jsonState refreshPolicy token => exact h.runSetState tag jsonState refreshPolicy token
  | reportStateChange tag =>
    unfold exchangeTask Manager.runTask
    dsimp only
    rw [h.providerOf]
    exact h.updateCapabilityState tag _
  | provideStateResponse tag state token => exact h.runProvideStateResponse tag state token
  | provideStateUnavailableResponse tag token isEndpointUnreachable =>
    exact h.runProvideStateUnavailableResponse tag token isEndpointUnreachable hcache
  | getContext call hasRequester => exact h.runGetContext call hasRequester
  | timeout token => exact h.contextFailure token _

theorem submit (task : Task) :
    Exchanged defaultEndpointId (s.submit task) (s'.submit (exchangeTask defaultEndpointId task)) := by
  unfold Manager.submit
  refine {h with tasks := ?_}
  rw [h.tasks,map_append,map_singleton]

theorem setState (tag : CapabilityTag) (jsonState : String) (refreshPolicy : StateRefreshPolicy) (token : ℕ) :
    Exchanged defaultEndpointId (s.setState tag jsonState refreshPolicy token)
      (s'.setState (exchangeTag defaultEndpointId tag) jsonState refreshPolicy token) := by
  have hsame : token=EMPTY_TOKEN ∨ exchangeTag defaultEndpointId tag∈s'.pendingStates token ↔
      token=EMPTY_TOKEN ∨ tag∈s.pendingStates token := or_congr_right (h.mem_pendingStates tag token)
  unfold Manager.setState
  by_cases htaken : token=EMPTY_TOKEN ∨ tag∈s.pendingStates token
  · rw [if_pos htaken,if_pos (hsame.mpr htaken)]
    exact h.submit (.setState tag jsonState refreshPolicy token)
  · rw [if_neg htaken,if_neg (hsame.not.mpr htaken)]
    exact h

theorem getContext (endpointId : String) (skipReportableStateProperties hasRequester : Bool) :
    Exchanged defaultEndpointId (s.getContext endpointId skipReportableStateProperties hasRequester)
      (s'.getContext endpointId skipReportableStateProperties hasRequester) := by
  unfold Manager.getContext
  rw [h.requestCounter]
  refine {h with requestCounter := rfl,tasks := ?_}
  rw [h.tasks,map_append,map_singleton]
  rfl

theorem timerExpires (timerToken token : ℕ) : Exchanged defaultEndpointId
      {s with
        timers := s.timers.filter fun timer => decide (timer.1≠timerToken)
        tasks := s.tasks++[.timeout token]}
      {s' with
        timers := s'.timers.filter fun timer => decide (timer.1≠timerToken)
        tasks := s'.tasks++[.timeout token]} := by
  rw [h.timers]
  refine {h with timers := rfl,tasks := ?_}
  rw [h.tasks,map_append,map_singleton]
  rfl

theorem step {event : Event} {t : Manager}
    (hstep : Step defaultEndpointId s event t) (hcache : ¬ReadsCache defaultEndpointId s event) :
    ∃ t',Step defaultEndpointId s' (exchangeEvent defaultEndpointId event) t' ∧ Exchanged defaultEndpointId t t' := by
  cases hstep with
  | addStateProvider tag provider => exact ⟨_,.addStateProvider _ provider,h.addStateProvider tag provider⟩
  | removeStateProvider tag => exact ⟨_,.removeStateProvider _,h.removeStateProvider tag⟩
  | setState tag jsonState refreshPolicy token =>
    exact ⟨_,.setState _ jsonState refreshPolicy token,h.setState tag jsonState refreshPolicy token⟩
  | reportStateChange tag state => exact ⟨_,.reportStateChange _ state,h.submit (.reportStateChange tag state)⟩
  | provideStateResponse tag state token =>
    exact ⟨_,.provideStateResponse _ state token,h.submit (.provideStateResponse tag state token)⟩
  | provideStateUnavailableResponse tag token isEndpointUnreachable =>
    exact ⟨_,.provideStateUnavailableResponse _ token isEndpointUnreachable,
      h.submit (.provideStateUnavailableResponse tag token isEndpointUnreachable)⟩
  | getContext endpointId skipReportableStateProperties hasRequester =>
    exact ⟨_,.getContext endpointId skipReportableStateProperties hasRequester,
      h.getContext endpointId skipReportableStateProperties hasRequester⟩
  | timerExpires runs =>
    have hruns := runs
    rw [←h.timers] at hruns
    exact ⟨_,.timerExpires hruns,h.timerExpires _ _⟩
  | @runTask task tasks next =>
    have hnext := h.tasks
    rw [next,map_cons] at hnext
    have hleft : Exchanged defaultEndpointId {s with tasks := tasks}
        {s' with tasks := tasks.map (exchangeTask defaultEndpointId)} := {h with tasks := rfl}
    have hleaves : LeavesCache defaultEndpointId {s with tasks := tasks} task := by
      have hbefore := (not_readsCache_iff next).mp hcache
      cases task <;> exact hbefore
    exact ⟨_,.runTask hnext,hleft.runTask task hleaves⟩

/-- The observers are told of the same state, with the other spelling. -/
theorem stateChanges (event : Event) : stateChanges s' (exchangeEvent defaultEndpointId event) =
      (stateChanges s event).map fun change => (exchangeTag defaultEndpointId change.1,change.2) := by
  cases event with
  | runTask =>
    unfold exchangeEvent ContextSpellings.stateChanges
    rw [h.tasks]
    cases s.tasks with
    | nil => rfl
    | cons task => cases task <;> rfl
  | _ => rfl

end Exchanged

end

def Observed (defaultEndpointId : String) (s : Manager) (label : Event × List (CapabilityTag × CapabilityState))
    (t : Manager) : Prop :=
  Step defaultEndpointId s label.1 t ∧ label.2=ContextSpellings.stateChanges s label.1

/-- An event and what the observers are told, with the other spelling. -/
def exchangeLabel (defaultEndpointId : String) (label : Event × List (CapabilityTag × CapabilityState)) :
    Event × List (CapabilityTag × CapabilityState) :=
  (exchangeEvent defaultEndpointId label.1, label.2.map fun change => (exchangeTag defaultEndpointId change.1,change.2))

/-- Where no reply looks for a cached state of the default endpoint, a run of one manager is a run of the other: observers are told the
same, and the states and the callbacks are the same, up to the spelling. -/
theorem spellings_exchanged {start start' finish : Manager}
    {trace : List (Event × List (CapabilityTag × CapabilityState))}
    (hstart : Exchanged defaultEndpointId start start')
    (run : Run (Guarded (Observed defaultEndpointId) fun s label => ¬ReadsCache defaultEndpointId s label.1) start trace finish) :
    ∃ finish',Run (Observed defaultEndpointId) start' (trace.map (exchangeLabel defaultEndpointId)) finish' ∧
      Exchanged defaultEndpointId finish finish' := by
  induction run with
  | refl => exact ⟨start',.refl,hstart⟩
  | @snoc trace s t label _ last ih =>
    obtain ⟨s',hrun,hs⟩ := ih
    obtain ⟨hcache,hstep,htold⟩ := last
    obtain ⟨t',hstep',ht⟩ := hs.step hstep hcache
    refine ⟨t',?_,ht⟩
    rw [map_append,map_singleton]
    refine hrun.snoc ⟨hstep',?_⟩
    unfold exchangeLabel
    rw [hs.stateChanges,htold]

/-- A capability of the default endpoint, by its id or by the empty string. -/
def stateTag (endpointId : String) : CapabilityTag := ⟨"Alexa","state",endpointId,none⟩

/-- The same happens with the empty string and with the id. -/
theorem spellings_exchanged_device : ∃ finish',Run (Observed "device") (exchangeManager "device" init)
        (List.map (exchangeLabel "device") [(.addStateProvider (stateTag "") ⟨true,false⟩,[]),
          (.getContext "" false true,[]),(.runTask,[]),(.provideStateResponse (stateTag "") ⟨"on"⟩ 1,[]),
          (.runTask,[]),(.reportStateChange (stateTag "") ⟨"off"⟩,[]),(.runTask,[(stateTag "",⟨"off"⟩)])]) finish' ∧
      finish'.providerOf "device" (stateTag "device")=some ⟨true,false⟩ := by
  have hrun : Run (Guarded (Observed "device") fun s label => ¬ReadsCache "device" s label.1) init
      [(.addStateProvider (stateTag "") ⟨true,false⟩,[]),(.getContext "" false true,[]),(.runTask,[]),
        (.provideStateResponse (stateTag "") ⟨"on"⟩ 1,[]),(.runTask,[]),
        (.reportStateChange (stateTag "") ⟨"off"⟩,[]),(.runTask,[(stateTag "",⟨"off"⟩)])] _ :=
    ((((((Run.refl.snoc ⟨id,.addStateProvider (stateTag "") ⟨true,false⟩,rfl⟩).snoc
      ⟨id,.getContext "" false true,rfl⟩).snoc
      ⟨by refine (not_readsCache_iff rfl).mpr ?_; trivial,.runTask rfl,rfl⟩).snoc
      ⟨id,.provideStateResponse (stateTag "") ⟨"on"⟩ 1,rfl⟩).snoc
      ⟨by refine (not_readsCache_iff rfl).mpr ?_; trivial,.runTask rfl,rfl⟩).snoc
      ⟨id,.reportStateChange (stateTag "") ⟨"off"⟩,rfl⟩).snoc
      ⟨by refine (not_readsCache_iff rfl).mpr ?_; trivial,.runTask rfl,rfl⟩
  obtain ⟨finish',hrun',hfinish⟩ := spellings_exchanged (exchanged_exchangeManager "device" init) hrun
  refine ⟨finish',hrun',?_⟩
  have hprovider := hfinish.providerOf (stateTag "")
  have htag : exchangeTag "device" (stateTag "")=stateTag "device" := by decide
  rw [htag] at hprovider
  rw [hprovider]
  decide

/-- Registered with the empty string, it is not removed with the id. -/
theorem provider_stays_under_other_spelling : ¬∀ (defaultEndpointId : String) (s : Manager) (tag : CapabilityTag),
      s.removeStateProvider defaultEndpointId {tag with endpointId := ""} =
        s.removeStateProvider defaultEndpointId {tag with endpointId := defaultEndpointId} := by
  intro hall
  have hsame := hall "device" (init.addStateProvider "device" (stateTag "") ⟨true,false⟩) (stateTag "")
  have hprovider := congrArg (fun s => providerOf "device" s (stateTag "")) hsame
  revert hprovider
  decide

end AlexaClientSDK.ContextSpellings
