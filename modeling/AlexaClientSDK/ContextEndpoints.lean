import AlexaClientSDK.ContextReplies

/-!
# The context of the requested endpoint

A context should be that of the endpoint that was asked for, with states stored there. The reply of `setState` completes
a request as if it were on the default endpoint, and a capability that comes in without a value while a request is
pending is dereferenced. Otherwise every context is the right one.
-/

namespace AlexaClientSDK.ContextEndpoints

open AList Option Function List LabelledRuns Histories ContextManager ContextReplies Manager StateInfo

variable (defaultEndpointId : String)

/-- It is reported for the endpoint asked for, with values stored there. -/
def GoodContext (before : List Mark) (mark : Mark) : Prop :=
  ∀ call endpointId context,mark=.available call endpointId context →
    resolve defaultEndpointId endpointId=resolve defaultEndpointId call.endpointId ∧
    ∀ tag state,(tag,state)∈context →
      resolve defaultEndpointId tag.endpointId=resolve defaultEndpointId call.endpointId ∧
      ∃ value,state=some value ∧ Mark.stored (resolve defaultEndpointId call.endpointId) tag value∈before

/-- Every pending request that is to report this entry, which has no value, waits for it. One request may be
left out. -/
def Covered (s : Manager) (tag : CapabilityTag) (info : StateInfo) (except : Option ℕ) : Prop :=
  info.capabilityState=none → ∀ token request call,s.pendingRequests token=some request →
      request.contextRequester=some call → some token≠except →
      resolve defaultEndpointId call.endpointId=resolve defaultEndpointId tag.endpointId →
      info.addState request.skipReportableStateProperties=true → tag∈s.pendingStates token

/-- Not under `NEVER`, nor under `ALWAYS` without a provider. -/
def FillsLater (provider : Option StateProvider) (jsonState : String) (refreshPolicy : StateRefreshPolicy) : Prop :=
  jsonState = "" → refreshPolicy=.sometimes ∨ refreshPolicy=.always ∧ provider.isSome=true

/-- What `setState` stores without a value is waited for, and it is not the last reply of a request on another
endpoint. -/
def CarefulSetState (s : Manager) (tag : CapabilityTag) (jsonState : String)
    (refreshPolicy : StateRefreshPolicy) (token : ℕ) : Prop :=
  FillsLater (s.providerOf defaultEndpointId tag) jsonState refreshPolicy ∧
  if token≠EMPTY_TOKEN ∧ jsonState = "" ∧ refreshPolicy=.always then
    Covered defaultEndpointId s tag (.ofJson (s.providerOf defaultEndpointId tag) jsonState refreshPolicy) (some token)
  else
    Covered defaultEndpointId s tag (.ofJson (s.providerOf defaultEndpointId tag) jsonState refreshPolicy) none ∧
    (token≠EMPTY_TOKEN → ∀ call,(s.requestAt token).contextRequester=some call →
      resolve defaultEndpointId call.endpointId=resolve defaultEndpointId "" ∨ ∃ other∈s.pendingStates token,other≠tag)

/-- A call is not given the token of a request that is still pending. -/
def CarefulTask (s : Manager) : Task → Prop
  | .setState tag jsonState refreshPolicy token =>
    CarefulSetState defaultEndpointId s tag jsonState refreshPolicy token
  | .getContext call _ => s.pendingRequests call.token=none
  | _ => True

/-- A provider is not added while a request is pending that would report it. -/
def Careful (s : Manager) : Event → Prop
  | .addStateProvider tag provider => Covered defaultEndpointId s tag (.ofState (some provider) none) none
  | .runTask => ∀ task tasks,s.tasks=task::tasks → CarefulTask defaultEndpointId s task
  | _ => True

/-- What holds between steps; one request may be about to fail. -/
structure Sound (except : Option ℕ) (s : Manager) : Prop where
  keys : ∀ endpointId tag info,(s.endpointsState endpointId).lookup tag=some info →
    resolve defaultEndpointId tag.endpointId=endpointId
  stored : ∀ endpointId tag info value,(s.endpointsState endpointId).lookup tag=some info →
    info.capabilityState=some value → Mark.stored endpointId tag value∈s.history
  /-- A text that is missing will be asked for or left out. -/
  legacy : ∀ endpointId tag info,(s.endpointsState endpointId).lookup tag=some info →
    info.legacyCapability=true → info.capabilityState=none →
    info.refreshPolicy=.sometimes ∨ info.refreshPolicy=.always ∧ info.stateProvider.isSome=true
  pending : ∀ token request call tag,s.pendingRequests token=some request →
    request.contextRequester=some call → tag∈s.pendingStates token →
    resolve defaultEndpointId tag.endpointId=resolve defaultEndpointId call.endpointId
  /-- A request waits for every state that it is to report and that is missing. -/
  waited : ∀ token request call,s.pendingRequests token=some request →
    request.contextRequester=some call → some token≠except →
    ∀ tag info, (s.endpointsState (resolve defaultEndpointId call.endpointId)).lookup tag=some info →
      info.capabilityState=none → info.addState request.skipReportableStateProperties=true →
      tag∈s.pendingStates token
  orphan : ∀ token,s.pendingRequests token=none → s.pendingStates token=[]
  delivered : AtEvery (GoodContext defaultEndpointId) s.history

variable {defaultEndpointId} {s s' : Manager} {except : Option ℕ}

theorem sound_init : Sound defaultEndpointId none init := by
  have hnone : ∀ endpointId (tag : CapabilityTag),
      (init.endpointsState endpointId).lookup tag=none := fun _ _ => rfl
  constructor
  · intro endpointId tag info hlookup
    rw [hnone] at hlookup
    cases hlookup
  · intro endpointId tag info value hlookup
    rw [hnone] at hlookup
    cases hlookup
  · intro endpointId tag info hlookup
    rw [hnone] at hlookup
    cases hlookup
  · exact nofun
  · exact nofun
  · intro token _
    rfl
  · exact atEvery_nil

theorem Sound.weaken (h : Sound defaultEndpointId none s) (except : Option ℕ) : Sound defaultEndpointId except s := by
  refine ⟨h.keys,h.stored,h.legacy,h.pending,?_,h.orphan,h.delivered⟩
  intro token request call hrequest hcall _
  exact h.waited token request call hrequest hcall (by simp)

def deliversNothing : Mark → Bool
  | .available _ _ _ => false
  | _ => true

theorem goodContext_of_deliversNothing {mark : Mark} (h : deliversNothing mark=true)
    (before : List Mark) : GoodContext defaultEndpointId before mark := by
  intro call endpointId context heq
  rw [heq] at h
  cases h

theorem sound_frame (h : Sound defaultEndpointId except s) (hendpoints : s'.endpointsState=s.endpointsState)
    (hrequests : s'.pendingRequests=s.pendingRequests)
    (hstates : s'.pendingStateRequest=s.pendingStateRequest) (more : List Mark)
    (hhistory : s'.history=s.history++more)
    (hmore : ∀ mark∈more,deliversNothing mark=true) : Sound defaultEndpointId except s' := by
  have hpending : s'.pendingStates=s.pendingStates := by
    unfold pendingStates
    rw [hstates]
  refine ⟨?_,?_,?_,?_,?_,?_,?_⟩
  · rw [hendpoints]
    exact h.keys
  · intro endpointId tag info value hlookup hvalue
    rw [hendpoints] at hlookup
    rw [hhistory]
    exact mem_append_left _ (h.stored endpointId tag info value hlookup hvalue)
  · rw [hendpoints]
    exact h.legacy
  · rw [hrequests,hpending]
    exact h.pending
  · rw [hrequests,hpending,hendpoints]
    exact h.waited
  · rw [hrequests,hpending]
    exact h.orphan
  · rw [hhistory]
    exact atEvery_append h.delivered fun mark hmark before =>
      goodContext_of_deliversNothing (hmore mark hmark) before

variable {endpointId : String} {tag : CapabilityTag} {info : StateInfo}

theorem lookup_update_insert {states : String → CapabilitiesState} {endpointId' : String}
    {tag' : CapabilityTag} {info' : StateInfo}
    (h : (Function.update states endpointId ((states endpointId).insert tag info) endpointId').lookup tag' =
      some info') : (endpointId'=endpointId ∧ tag'=tag ∧ info'=info) ∨
      (states endpointId').lookup tag'=some info' := by
  by_cases hendpoint : endpointId'=endpointId
  · subst hendpoint
    rw [update_self] at h
    by_cases htag : tag'=tag
    · subst htag
      rw [lookup_insert] at h
      exact .inl ⟨rfl,rfl,(some_inj.mp h).symm⟩
    · rw [lookup_insert_ne htag] at h
      exact .inr h
  · rw [update_of_ne hendpoint] at h
    exact .inr h

section

variable (h : Sound defaultEndpointId none s)
include h

/-- It is waited for without a value and written down with one. -/
theorem sound_insert (tag : CapabilityTag) (info : StateInfo) (except : Option ℕ)
    (hlegacy : info.legacyCapability=true → info.capabilityState=none → info.refreshPolicy=.sometimes ∨
        info.refreshPolicy=.always ∧ info.stateProvider.isSome=true)
    (hcovered : Covered defaultEndpointId s tag info except) :
    Sound defaultEndpointId except (s.updateCapabilityState defaultEndpointId tag info) := by
  constructor
  · intro endpointId tag' info' hlookup
    rcases lookup_update_insert hlookup with ⟨rfl,rfl,_⟩|hold
    · rfl
    · exact h.keys endpointId tag' info' hold
  · intro endpointId tag' info' value hlookup hvalue
    rcases lookup_update_insert hlookup with ⟨rfl,rfl,rfl⟩|hold
    · refine mem_append_right _ ?_
      rw [hvalue]
      exact mem_singleton_self _
    · exact mem_append_left _ (h.stored endpointId tag' info' value hold hvalue)
  · intro endpointId tag' info' hlookup
    rcases lookup_update_insert hlookup with ⟨_,_,rfl⟩|hold
    · exact hlegacy
    · exact h.legacy endpointId tag' info' hold
  · exact h.pending
  · intro token request call hrequest hcall hexcept tag' info' hlookup hvalue hadd
    rcases lookup_update_insert hlookup with ⟨hendpoint,rfl,rfl⟩|hold
    · exact hcovered hvalue token request call hrequest hcall hexcept hendpoint hadd
    · exact h.waited token request call hrequest hcall (by simp) tag' info' hold hvalue hadd
  · exact h.orphan
  · refine atEvery_append h.delivered fun mark hmark before => ?_
    obtain ⟨state,_,rfl⟩ := map_eq_some_iff.mp (mem_toList.mp hmark)
    exact goodContext_of_deliversNothing rfl before

theorem sound_store (tag : CapabilityTag) (provider : Option StateProvider) (state : CapabilityState) :
    Sound defaultEndpointId none (s.updateCapabilityState defaultEndpointId tag (.ofState provider (some state))) := by
  refine sound_insert h tag _ none ?_ ?_
  · exact nofun
  · exact nofun

theorem sound_addStateProvider (tag : CapabilityTag) (provider : StateProvider)
    (hcovered : Covered defaultEndpointId s tag (.ofState (some provider) none) none) :
    Sound defaultEndpointId none (s.addStateProvider defaultEndpointId tag provider) := by
  have hinserted := sound_insert h tag (.ofState (some provider) none) none
    nofun hcovered
  exact sound_frame hinserted rfl rfl rfl [] (by simp [updateCapabilityState, addStateProvider,ofState]) (by simp)

theorem sound_removeStateProvider (tag : CapabilityTag) :
    Sound defaultEndpointId none (s.removeStateProvider defaultEndpointId tag) := by
  have hkept : ∀ endpointId tag' info,
      ((s.removeStateProvider defaultEndpointId tag).endpointsState endpointId).lookup tag'=some info →
        (s.endpointsState endpointId).lookup tag'=some info := by
    intro endpointId tag' info hlookup
    dsimp only [removeStateProvider] at hlookup
    by_cases hendpoint : endpointId=resolve defaultEndpointId tag.endpointId
    · subst hendpoint
      rw [update_self] at hlookup
      by_cases htag : tag'=tag
      · subst htag
        rw [lookup_erase] at hlookup
        cases hlookup
      · rw [lookup_erase_ne htag] at hlookup
        exact hlookup
    · rw [update_of_ne hendpoint] at hlookup
      exact hlookup
  refine ⟨?_,?_,?_,h.pending,?_,h.orphan,h.delivered⟩
  · intro endpointId tag' info hlookup
    exact h.keys endpointId tag' info (hkept _ _ _ hlookup)
  · intro endpointId tag' info value hlookup
    exact h.stored endpointId tag' info value (hkept _ _ _ hlookup)
  · intro endpointId tag' info hlookup
    exact h.legacy endpointId tag' info (hkept _ _ _ hlookup)
  · intro token request call hrequest hcall hexcept tag' info hlookup
    exact h.waited token request call hrequest hcall hexcept tag' info (hkept _ _ _ hlookup)

end

theorem sound_clearRequest (token : ℕ) (h : Sound defaultEndpointId (some token) s) :
    Sound defaultEndpointId none (s.clearRequest token) := by
  refine ⟨h.keys,h.stored,h.legacy,?_,?_,?_,h.delivered⟩
  · intro token' request call tag hrequest hcall hmem
    obtain ⟨_,hold,hstates⟩ := clearRequest_request hrequest
    rw [hstates] at hmem
    exact h.pending token' request call tag hold hcall hmem
  · intro token' request call hrequest hcall _ tag info hlookup hvalue hadd
    obtain ⟨hne,hold,hstates⟩ := clearRequest_request hrequest
    rw [hstates]
    exact h.waited token' request call hold hcall (by simpa using hne) tag info hlookup hvalue hadd
  · intro token' hnone
    dsimp only [clearRequest,pendingStates] at hnone ⊢
    by_cases heq : token'=token
    · rw [heq,update_self]
      rfl
    · rw [update_of_ne heq] at hnone ⊢
      exact h.orphan token' hnone

theorem sound_contextFailure (token : ℕ) (error : ContextRequestError) (h : Sound defaultEndpointId (some token) s) :
    Sound defaultEndpointId none (s.contextFailure token error) := by
  have hcleared := sound_clearRequest token h
  unfold contextFailure
  split
  · exact hcleared
  · refine sound_frame hcleared rfl rfl rfl _ rfl ?_
    intro mark hmark
    rw [mem_singleton.mp hmark]
    rfl

variable {token : ℕ} {call : Call}

theorem goodContext_contextOf (h : Sound defaultEndpointId none s) {request : RequestTracker}
    (hrequest : s.pendingRequests token=some request)
    (hcall : request.contextRequester=some call) (hready : s.pendingStates token=[])
    (hendpoint : resolve defaultEndpointId endpointId=resolve defaultEndpointId call.endpointId) :
    GoodContext defaultEndpointId s.history (.available call endpointId
      (contextOf (s.endpointsState (resolve defaultEndpointId endpointId)) request.skipReportableStateProperties)) := by
  intro call' endpointId' context heq
  cases heq
  refine ⟨hendpoint,?_⟩
  intro tag state hmem
  rw [hendpoint] at hmem
  obtain ⟨⟨tag',info⟩,hentry,hpair⟩ := mem_map.mp hmem
  obtain ⟨hentry,hadd⟩ := mem_filter.mp hentry
  cases hpair
  have hlookup := mem_lookup_iff.mpr hentry
  refine ⟨h.keys _ _ _ hlookup,?_⟩
  cases hvalue : info.capabilityState with
  | none =>
    have hwaited := h.waited token request call hrequest hcall (by simp) _ _ hlookup hvalue hadd
    rw [hready] at hwaited
    exact absurd hwaited not_mem_nil
  | some value => exact ⟨value,rfl,h.stored _ _ _ _ hlookup hvalue⟩

theorem sound_contextAvailableIfReady (h : Sound defaultEndpointId none s) (token : ℕ) (endpointId : String)
    (hendpoint : ∀ call,(s.requestAt token).contextRequester=some call → s.pendingStates token=[] →
      resolve defaultEndpointId endpointId=resolve defaultEndpointId call.endpointId) :
    Sound defaultEndpointId none (s.contextAvailableIfReady defaultEndpointId token endpointId) := by
  have hcleared := sound_clearRequest token (h.weaken (some token))
  unfold contextAvailableIfReady
  split
  · exact h
  · rename_i hready
    dsimp only
    split
    · exact hcleared
    · rename_i call hcall
      obtain ⟨request,hrequest,hrequester,hat⟩ := request_of_requester hcall
      have hgood := goodContext_contextOf h hrequest hrequester (not_not.mp hready)
        (hendpoint call hcall (not_not.mp hready))
      rw [hat]
      refine ⟨hcleared.keys,?_,hcleared.legacy,hcleared.pending,hcleared.waited,hcleared.orphan,
        atEvery_snoc h.delivered hgood⟩
      intro endpointId' tag info value hlookup hvalue
      exact mem_append_left _ (hcleared.stored endpointId' tag info value hlookup hvalue)

theorem pendingStates_takeReply (s : Manager) (tag : CapabilityTag) (token token' : ℕ) :
    (s.takeReply tag token).pendingStates token' =
      if token'=token then (s.pendingStates token').filter fun other => decide (other≠tag)
      else s.pendingStates token' := by
  unfold takeReply
  split
  · rename_i hnone
    split
    · rename_i heq
      subst heq
      simp [pendingStates,hnone]
    · rfl
  · rename_i tags htags
    unfold pendingStates
    split
    · rename_i heq
      subst heq
      simp [htags]
    · rename_i hne
      simp [hne]

theorem takeReply_frame (s : Manager) (tag : CapabilityTag) (token : ℕ) :
    (s.takeReply tag token).endpointsState=s.endpointsState ∧
    (s.takeReply tag token).pendingRequests=s.pendingRequests ∧
    ∃ more,(s.takeReply tag token).history=s.history++more ∧ ∀ mark∈more,deliversNothing mark=true := by
  unfold takeReply
  split
  · exact ⟨rfl,rfl,[],(append_nil _).symm,by simp⟩
  · refine ⟨rfl,rfl,_,rfl,?_⟩
    intro mark hmark
    obtain ⟨call,_,rfl⟩ := map_eq_some_iff.mp (mem_toList.mp hmark)
    rfl

theorem sound_takeReply (h : Sound defaultEndpointId none s) (tag : CapabilityTag) (token : ℕ)
    (hpresent : ∀ info skip, (s.endpointsState (resolve defaultEndpointId tag.endpointId)).lookup tag=some info →
      info.capabilityState=none → info.addState skip=false) :
    Sound defaultEndpointId none (s.takeReply tag token) := by
  obtain ⟨hendpoints,hrequests,more,hhistory,hmore⟩ := takeReply_frame s tag token
  refine ⟨?_,?_,?_,?_,?_,?_,?_⟩
  · rw [hendpoints]
    exact h.keys
  · intro endpointId tag' info value hlookup hvalue
    rw [hendpoints] at hlookup
    rw [hhistory]
    exact mem_append_left _ (h.stored endpointId tag' info value hlookup hvalue)
  · rw [hendpoints]
    exact h.legacy
  · intro token' request call tag' hrequest hcall hmem
    rw [hrequests] at hrequest
    rw [pendingStates_takeReply] at hmem
    refine h.pending token' request call tag' hrequest hcall ?_
    split at hmem
    · exact (mem_filter.mp hmem).1
    · exact hmem
  · intro token' request call hrequest hcall _ tag' info hlookup hvalue hadd
    rw [hrequests] at hrequest
    rw [hendpoints] at hlookup
    have hwaited := h.waited token' request call hrequest hcall (by simp) tag' info hlookup hvalue hadd
    rw [pendingStates_takeReply]
    split
    · refine mem_filter.mpr ⟨hwaited,decide_eq_true ?_⟩
      intro heq
      subst heq
      rw [←h.keys _ _ _ hlookup] at hlookup
      rw [hpresent info _ hlookup hvalue] at hadd
      cases hadd
    · exact hwaited
  · intro token' hnone
    rw [hrequests] at hnone
    rw [pendingStates_takeReply,h.orphan token' hnone]
    simp
  · rw [hhistory]
    exact atEvery_append h.delivered fun mark hmark before =>
      goodContext_of_deliversNothing (hmore mark hmark) before

theorem requestAt_takeReply (s : Manager) (tag : CapabilityTag) (token token' : ℕ) :
    (s.takeReply tag token).requestAt token'=s.requestAt token' := by
  unfold requestAt
  rw [(takeReply_frame s tag token).2.1]

theorem lookup_updateCapabilityState (s : Manager) (tag : CapabilityTag) (info : StateInfo) :
    ((s.updateCapabilityState defaultEndpointId tag info).endpointsState
      (resolve defaultEndpointId tag.endpointId)).lookup tag=some info := by
  dsimp only [updateCapabilityState]
  rw [update_self,lookup_insert]

/-- An entry whose text is missing under `SOMETIMES` is left out. -/
theorem addState_ofJson_sometimes (provider : Option StateProvider) (skip : Bool) :
    (ofJson provider "" .sometimes).addState skip=false := rfl

section

variable (h : Sound defaultEndpointId none s)
include h

theorem sound_runSetState {jsonState : String} {refreshPolicy : StateRefreshPolicy}
    (hcareful : CarefulSetState defaultEndpointId s tag jsonState refreshPolicy token) :
    Sound defaultEndpointId none (s.runSetState defaultEndpointId tag jsonState refreshPolicy token) := by
  obtain ⟨hfills,hrest⟩ := hcareful
  set info := ofJson (s.providerOf defaultEndpointId tag) jsonState refreshPolicy with hinfo
  have hlegacy : info.legacyCapability=true → info.capabilityState=none → info.refreshPolicy=.sometimes ∨
        info.refreshPolicy=.always ∧ info.stateProvider.isSome=true := by
    intro _ hvalue
    refine hfills ?_
    by_contra hne
    rw [hinfo,ofJson] at hvalue
    simp [hne] at hvalue
  unfold runSetState
  rw [←hinfo]
  split
  · rename_i htoken
    rw [if_neg fun hall => hall.1 htoken] at hrest
    exact sound_insert h tag info none hlegacy hrest.1
  · rename_i htoken
    split
    · rename_i hempty
      rw [if_pos ⟨htoken,hempty⟩] at hrest
      exact sound_contextFailure token _ (sound_insert h tag info (some token) hlegacy hrest)
    · rename_i hfilled
      rw [if_neg fun hall => hfilled hall.2] at hrest
      obtain ⟨hcovered,hdefault⟩ := hrest
      have hstored := sound_insert h tag info none hlegacy hcovered
      have htaken := sound_takeReply hstored tag token (by
        intro info' skip hlookup hvalue
        rw [lookup_updateCapabilityState] at hlookup
        cases hlookup
        -- without a value the policy is `SOMETIMES`, since `ALWAYS` has failed the request
        have hjson : jsonState = "" := by
          by_contra hne
          rw [hinfo,ofJson] at hvalue
          simp [hne] at hvalue
        rcases hfills hjson with hpolicy|⟨hpolicy,_⟩
        · rw [hinfo,hjson,hpolicy]
          exact addState_ofJson_sometimes _ skip
        · exact absurd ⟨hjson,hpolicy⟩ hfilled)
      refine sound_contextAvailableIfReady htaken token "" ?_
      intro call hcall hready
      rw [requestAt_takeReply] at hcall
      rcases hdefault htoken call hcall with heq|⟨other,hother,hne⟩
      · exact heq.symm
      · rw [pendingStates_takeReply,if_pos rfl] at hready
        have hmem : other∈(s.pendingStates token).filter fun other => decide (other≠tag) :=
          mem_filter.mpr ⟨hother,decide_eq_true hne⟩
        rw [show (s.updateCapabilityState defaultEndpointId tag info).pendingStates token =
          s.pendingStates token from rfl] at hready
        rw [hready] at hmem
        exact absurd hmem not_mem_nil

theorem sound_reply (hmem : tag∈s.pendingStates token) (hpresent : ∀ info skip,
      (s.endpointsState (resolve defaultEndpointId tag.endpointId)).lookup tag=some info →
      info.capabilityState=none → info.addState skip=false) :
    Sound defaultEndpointId none ((s.takeReply tag token).contextAvailableIfReady defaultEndpointId
      token tag.endpointId) := by
  refine sound_contextAvailableIfReady (sound_takeReply h tag token hpresent) token _ ?_
  intro call hcall _
  rw [requestAt_takeReply] at hcall
  obtain ⟨request,hrequest,hrequester,_⟩ := request_of_requester hcall
  exact h.pending token request call tag hrequest hrequester hmem

theorem sound_runProvideStateResponse (tag : CapabilityTag) (state : CapabilityState) (token : ℕ) :
    Sound defaultEndpointId none (s.runProvideStateResponse defaultEndpointId tag state token) := by
  unfold runProvideStateResponse
  split
  · rename_i hmem
    refine sound_reply (sound_store h tag _ state) hmem ?_
    intro info skip hlookup hvalue
    rw [lookup_updateCapabilityState] at hlookup
    cases hlookup
    cases hvalue
  · exact h

theorem sound_runProvideStateUnavailableResponse
    (tag : CapabilityTag) (token : ℕ) (isEndpointUnreachable : Bool) : Sound defaultEndpointId none
      (s.runProvideStateUnavailableResponse defaultEndpointId tag token isEndpointUnreachable) := by
  unfold runProvideStateUnavailableResponse
  split
  · rename_i hmem
    split
    · exact sound_contextFailure token _ (h.weaken _)
    · split
      · exact sound_contextFailure token _ (h.weaken _)
      · rename_i value hvalue
        obtain ⟨info,hlookup,hinfo⟩ := bind_eq_some_iff.mp hvalue
        refine sound_reply h hmem ?_
        intro info' skip hlookup' hnone
        rw [h.keys _ _ _ hlookup,hlookup] at hlookup'
        cases hlookup'
        rw [hinfo] at hnone
        cases hnone
  · exact h

theorem requestState_of_missing {skip : Bool} (hlookup : (s.endpointsState endpointId).lookup tag=some info)
    (hvalue : info.capabilityState=none) (hadd : info.addState skip=true) : info.requestState skip=true := by
  have hlegacy := h.legacy endpointId tag info hlookup
  unfold addState at hadd
  unfold requestState
  cases hkind : info.legacyCapability with
  | true =>
    rw [hkind,hvalue] at hadd
    rcases hlegacy hkind hvalue with hpolicy|⟨hpolicy,hprovider⟩
    · rw [hpolicy] at hadd
      cases hadd
    · obtain ⟨provider,hprovider⟩ := isSome_iff_exists.mp hprovider
      rw [hprovider,hpolicy]
      rfl
  | false =>
    rw [hkind] at hadd
    cases hprovider : info.stateProvider with
    | none =>
      rw [hprovider] at hadd
      cases hadd
    | some =>
      rw [hprovider] at hadd
      simpa using hadd

/-- A request begins to wait for those whom it asks. -/
theorem sound_start {tracker : RequestTracker} (hrequester : ∀ other,tracker.contextRequester=some other → other=call)
    (hskip : tracker.skipReportableStateProperties=call.skipReportableStateProperties)
    (hendpoints : s'.endpointsState=s.endpointsState)
    (hrequests : s'.pendingRequests=Function.update s.pendingRequests call.token (some tracker))
    (hstates : ∀ token,s'.pendingStates token=if token=call.token then
      queriedTags (s.endpointsState (resolve defaultEndpointId call.endpointId)) call.skipReportableStateProperties
      else s.pendingStates token) (more : List Mark) (hhistory : s'.history=s.history++more)
    (hmore : ∀ mark∈more,deliversNothing mark=true) : Sound defaultEndpointId none s' := by
  refine ⟨?_,?_,?_,?_,?_,?_,?_⟩
  · rw [hendpoints]
    exact h.keys
  · intro endpointId tag info value hlookup hvalue
    rw [hendpoints] at hlookup
    rw [hhistory]
    exact mem_append_left _ (h.stored endpointId tag info value hlookup hvalue)
  · rw [hendpoints]
    exact h.legacy
  · intro token request call' tag hrequest hcall hmem
    rw [hrequests] at hrequest
    rw [hstates] at hmem
    by_cases htoken : token=call.token
    · rw [htoken,update_self] at hrequest
      rw [if_pos htoken] at hmem
      cases hrequest
      rw [hrequester call' hcall]
      obtain ⟨entry,hentry,rfl⟩ := mem_map.mp hmem
      exact h.keys _ _ _ (mem_lookup_iff.mpr (mem_filter.mp hentry).1)
    · rw [update_of_ne htoken] at hrequest
      rw [if_neg htoken] at hmem
      exact h.pending token request call' tag hrequest hcall hmem
  · intro token request call' hrequest hcall _ tag info hlookup hvalue hadd
    rw [hrequests] at hrequest
    rw [hendpoints] at hlookup
    rw [hstates]
    by_cases htoken : token=call.token
    · rw [htoken,update_self] at hrequest
      rw [if_pos htoken]
      cases hrequest
      rw [hrequester call' hcall] at hlookup
      rw [hskip] at hadd
      refine mem_map.mpr ⟨⟨tag,info⟩,mem_filter.mpr ⟨?_,?_⟩,rfl⟩
      · exact mem_lookup_iff.mp hlookup
      · exact requestState_of_missing h hlookup hvalue hadd
    · rw [update_of_ne htoken] at hrequest
      rw [if_neg htoken]
      exact h.waited token request call' hrequest hcall (by simp) tag info hlookup hvalue hadd
  · intro token hnone
    rw [hrequests] at hnone
    rw [hstates]
    by_cases htoken : token=call.token
    · rw [htoken,update_self] at hnone
      cases hnone
    · rw [update_of_ne htoken] at hnone
      rw [if_neg htoken]
      exact h.orphan token hnone
  · rw [hhistory]
    exact atEvery_append h.delivered fun mark hmark before =>
      goodContext_of_deliversNothing (hmore mark hmark) before

end

theorem resolve_resolve (defaultEndpointId endpointId : String) :
    resolve defaultEndpointId (resolve defaultEndpointId endpointId) = resolve defaultEndpointId endpointId := by
  unfold resolve
  by_cases hempty : endpointId = ""
  · rw [if_pos hempty]
    split
    · rfl
    · rfl
  · rw [if_neg hempty,if_neg hempty]

section

variable (h : Sound defaultEndpointId none s)
include h

theorem sound_runGetContext (call : Call) (hasRequester : Bool) (hfree : s.pendingRequests call.token=none) :
    Sound defaultEndpointId none (s.runGetContext defaultEndpointId call hasRequester) := by
  have hrequester : ∀ other,(if hasRequester then some call else none)=some other → other=call := by
    intro other hother
    cases hasRequester with
    | true => exact (some_inj.mp hother).symm
    | false => cases hother
  have hnil := h.orphan _ hfree
  unfold runGetContext
  rw [hfree]
  refine sound_contextAvailableIfReady ?_ call.token _ ?_
  · refine sound_start h hrequester rfl rfl rfl ?_ _ rfl ?_
    · intro token
      rw [pendingStates_query]
      by_cases htoken : token=call.token
      · rw [if_pos htoken,if_pos htoken]
        subst htoken
        change s.pendingStates call.token++_=_
        rw [hnil,nil_append]
      · rw [if_neg htoken,if_neg htoken]
        rfl
    · intro mark hmark
      obtain ⟨tag,_,rfl⟩ := mem_map.mp hmark
      rfl
  · intro call' hcall _
    have hsame : call'=call := by
      refine hrequester call' ?_
      rw [←hcall]
      simp [requestAt,query]
    rw [hsame]
    exact resolve_resolve defaultEndpointId call.endpointId

theorem sound_runTask {task : Task} (hcareful : CarefulTask defaultEndpointId s task) :
    Sound defaultEndpointId none (s.runTask defaultEndpointId task) := by
  cases task with
  | setState => exact sound_runSetState h hcareful
  | reportStateChange tag state => exact sound_store h tag _ state
  | provideStateResponse tag state token => exact sound_runProvideStateResponse h tag state token
  | provideStateUnavailableResponse tag token unreachable =>
    exact sound_runProvideStateUnavailableResponse h tag token unreachable
  | getContext call hasRequester => exact sound_runGetContext h call hasRequester hcareful
  | timeout token => exact sound_contextFailure token _ (h.weaken _)

theorem sound_step {event : Event}
    (hcareful : Careful defaultEndpointId s event) (hstep : Step defaultEndpointId s event s') :
    Sound defaultEndpointId none s' := by
  have hqueued : ∀ counter timers tasks,Sound defaultEndpointId none
      {s with requestCounter := counter,timers := timers,tasks := tasks} := by
    intro counter timers tasks
    exact sound_frame h rfl rfl rfl [] (append_nil _).symm (by simp)
  cases hstep with
  | addStateProvider tag provider => exact sound_addStateProvider h tag provider hcareful
  | removeStateProvider tag => exact sound_removeStateProvider h tag
  | setState =>
    unfold setState
    split
    · exact hqueued _ _ _
    · exact h
  | reportStateChange | provideStateResponse | provideStateUnavailableResponse | getContext | timerExpires =>
    exact hqueued _ _ _
  | runTask next => exact sound_runTask (hqueued _ _ _) (hcareful _ _ next)

end

/-- In every run whose steps meet the condition, a delivered context is reported for the endpoint that was asked
for, and each of its states was stored for a capability of that endpoint. -/
theorem context_of_requested_endpoint (defaultEndpointId : String) (events : List Event) (s : Manager)
    (run : Run (Guarded (Step defaultEndpointId) (Careful defaultEndpointId)) init events s) :
    ∀ before after call endpointId context, s.history=before++Mark.available call endpointId context::after →
      resolve defaultEndpointId endpointId=resolve defaultEndpointId call.endpointId ∧
      ∀ tag state,(tag,state)∈context →
        resolve defaultEndpointId tag.endpointId=resolve defaultEndpointId call.endpointId ∧
        ∃ value,state=some value ∧ Mark.stored (resolve defaultEndpointId call.endpointId) tag value∈before := by
  have hsound : Sound defaultEndpointId none s := by
    refine run.invariant (Sound defaultEndpointId none) sound_init ?_
    rintro u event v hu ⟨hcareful,hstep⟩
    exact sound_step hu hcareful hstep
  intro before after call endpointId context heq
  exact hsound.delivered before _ after heq call endpointId context rfl

theorem covered_of_no_requests
    (h : ∀ token,s.pendingRequests token=none) : Covered defaultEndpointId s tag info except := by
  intro _ token request call hrequest
  rw [h token] at hrequest
  cases hrequest

theorem careful_runTask {task : Task} {tasks : List Task} (next : s.tasks=task::tasks)
    (h : CarefulTask defaultEndpointId s task) : Careful defaultEndpointId s .runTask := by
  intro task' tasks' heq
  rw [next] at heq
  cases heq
  exact h

theorem carefulSetState_of_default {jsonState : String} {refreshPolicy : StateRefreshPolicy} (hjson : jsonState ≠ "")
    (hcall : (s.requestAt token).contextRequester=some call)
    (hdefault : resolve defaultEndpointId call.endpointId=resolve defaultEndpointId "") :
    CarefulSetState defaultEndpointId s tag jsonState refreshPolicy token := by
  refine ⟨fun hempty => absurd hempty hjson,?_⟩
  rw [if_neg fun hall => hjson hall.2.1]
  refine ⟨?_,?_⟩
  · intro hvalue
    simp [ofJson,hjson] at hvalue
  · intro _ call' hcall'
    rw [hcall] at hcall'
    cases hcall'
    exact .inl hdefault

/-- A capability of another endpoint than the default one. -/
def endpointTag : CapabilityTag := ⟨"Alexa","state","e",none⟩

/-- A request on that endpoint is completed by `provideStateResponse`, one on the default endpoint by
`setState`. -/
theorem context_of_requested_endpoint_two : ∃ (events : List Event) (s : Manager),
      Run (Guarded (Step "d") (Careful "d")) init events s ∧ (∀ before after call endpointId context,
        s.history=before++Mark.available call endpointId context::after →
        resolve "d" endpointId=resolve "d" call.endpointId) ∧
      Mark.available ⟨1,"e",false⟩ "e" [(endpointTag,some ⟨"v"⟩)]∈s.history ∧
      Mark.available ⟨2,"",false⟩ "" [(defaultTag,some ⟨"w"⟩)]∈s.history := by
  have hrun : Run (Guarded (Step "d") (Careful "d")) init
      [.addStateProvider endpointTag ⟨true,false⟩,.addStateProvider defaultTag ⟨true,false⟩,
        .getContext "e" false true,.getContext "" false true,.runTask,.runTask,
        .provideStateResponse endpointTag ⟨"v"⟩ 1,.setState defaultTag "w" .always 2,
        .runTask,.runTask] _ :=
    (((((((((Run.refl.snoc ⟨by exact covered_of_no_requests fun _ => rfl,
      .addStateProvider endpointTag ⟨true,false⟩⟩).snoc ⟨by exact covered_of_no_requests fun _ => rfl,
      .addStateProvider defaultTag ⟨true,false⟩⟩).snoc ⟨trivial,.getContext "e" false true⟩).snoc
      ⟨trivial,.getContext "" false true⟩).snoc ⟨by exact careful_runTask rfl rfl,.runTask rfl⟩).snoc
      ⟨by exact careful_runTask rfl rfl,.runTask rfl⟩).snoc
      ⟨trivial,.provideStateResponse endpointTag ⟨"v"⟩ 1⟩).snoc
      ⟨trivial,.setState defaultTag "w" .always 2⟩).snoc
      ⟨by exact careful_runTask rfl trivial,.runTask rfl⟩).snoc
      ⟨by exact careful_runTask rfl (carefulSetState_of_default (by decide) rfl rfl),.runTask rfl⟩
  refine ⟨_,_,hrun,?_,by decide,by decide⟩
  intro before after call endpointId context heq
  exact (context_of_requested_endpoint "d" _ _ hrun before after call endpointId context heq).1

/-- A reply by `setState` completes a request on another endpoint: the empty context of the default one is
reported. -/
theorem setState_reports_default_endpoint : ¬∀ (defaultEndpointId : String) (events : List Event) (s : Manager),
      Run (Step defaultEndpointId) init events s → ∀ before after call endpointId context,
        s.history=before++Mark.available call endpointId context::after →
        resolve defaultEndpointId endpointId=resolve defaultEndpointId call.endpointId := by
  intro hall
  have hrun : Run (Step "d") init _ _ :=
    ((((Run.refl.snoc (.addStateProvider endpointTag ⟨true,false⟩)).snoc
      (.getContext "e" false true)).snoc (.runTask rfl)).snoc
      (.setState endpointTag "x" .always 1)).snoc (.runTask rfl)
  have hwrong := hall "d" _ _ hrun [.queried 1 endpointTag,.stored "e" endpointTag ⟨"x"⟩,.answered 1 endpointTag] []
    ⟨1,"e",false⟩ "" [] (by decide)
  revert hwrong
  decide

end AlexaClientSDK.ContextEndpoints
