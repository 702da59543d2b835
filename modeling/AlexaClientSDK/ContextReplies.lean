import AlexaClientSDK.Histories
import AlexaClientSDK.ContextManager

/-!
# One reply for each context request

Whatever providers reply and whenever timers expire, a call of `getContext` gets one callback at most, and
`onContextAvailable` only when every provider that was asked has answered. A request that is waiting has had no
callback.
-/

namespace AlexaClientSDK.ContextReplies

open Nat Function Option List LabelledRuns Histories ContextManager Manager

def isReply (number : ℕ) : Mark → Bool
  | .available call _ _ => decide (call.number=number)
  | .failure call _ => decide (call.number=number)
  | _ => false

def isQuery (number : ℕ) : Mark → Bool
  | .queried call _ => decide (call=number)
  | _ => false

/-- Nothing was done for the call yet. -/
def Untouched (history : List Mark) (number : ℕ) : Prop :=
  ∀ mark∈history,isReply number mark=false ∧ isQuery number mark=false

/-- The call had no callback yet. -/
def Unreplied (history : List Mark) (number : ℕ) : Prop :=
  ∀ mark∈history,isReply number mark=false

def waitingCalls (tasks : List Task) : List Call :=
  tasks.filterMap fun task =>
    match task with
    | .getContext call _ => some call
    | _ => none

/-- A context is delivered when everyone who was asked has answered. -/
def AnsweredFirst (before : List Mark) (mark : Mark) : Prop :=
  ∀ call endpointId context,mark=.available call endpointId context →
    ∀ tag,Mark.queried call.number tag∈before → Mark.answered call.number tag∈before

structure Waits (s : Manager) (token : ℕ) (call : Call) : Prop where
  token_eq : call.token=token
  made : call.number ≤ s.requestCounter
  started : ∀ other∈waitingCalls s.tasks,other.number≠call.number
  unreplied : Unreplied s.history call.number
  asked : ∀ tag,Mark.queried call.number tag∈s.history →
    tag∈s.pendingStates token ∨ Mark.answered call.number tag∈s.history

/-- What holds between steps. -/
structure Inv (s : Manager) : Prop where
  requests : ∀ token request call,s.pendingRequests token=some request →
    request.contextRequester=some call → Waits s token call
  tasks : ∀ call∈waitingCalls s.tasks,
    call.number ≤ s.requestCounter ∧ Untouched s.history call.number
  distinct : ((waitingCalls s.tasks).map Call.number).Nodup
  future : ∀ number,s.requestCounter<number → Untouched s.history number
  once : ∀ number,s.history.countP (isReply number)≤1
  order : AtEvery AnsweredFirst s.history

variable {defaultEndpointId : String} {s s' : Manager}

theorem inv_init : Inv init := by
  refine ⟨?_,?_,nodup_nil,?_,?_,atEvery_nil⟩
  · exact nofun
  · intro call hcall
    exact absurd hcall not_mem_nil
  · intro number _ mark hmark
    exact absurd hmark not_mem_nil
  · intro number
    exact zero_le 1

/-- A mark that neither asks a provider nor calls back. -/
def isQuiet : Mark → Bool
  | .queried _ _ => false
  | .available _ _ _ => false
  | .failure _ _ => false
  | _ => true

theorem quiet_facts {mark : Mark} (h : isQuiet mark=true) (number : ℕ) :
    isReply number mark=false ∧ isQuery number mark=false := by
  cases mark with
  | queried => cases h
  | answered | stored => exact ⟨rfl,rfl⟩
  | available => cases h
  | failure => cases h

variable {history more : List Mark}

theorem untouched_append {number : ℕ} (h : Untouched history number)
    (hmore : ∀ mark∈more,isReply number mark=false ∧ isQuery number mark=false) :
    Untouched (history++more) number := by
  intro mark hmark
  rcases mem_append.mp hmark with hmark|hmark
  · exact h mark hmark
  · exact hmore mark hmark

/-- Marks that are no callback leave a call without one. -/
theorem unreplied_append {number : ℕ} (h : Unreplied history number)
    (hmore : ∀ mark∈more,isReply number mark=false) : Unreplied (history++more) number := by
  intro mark hmark
  rcases mem_append.mp hmark with hmark|hmark
  · exact h mark hmark
  · exact hmore mark hmark

variable {token : ℕ} {call : Call}

/-- A request keeps waiting when only answers are written down, and nobody is waited for less unless he answers.
-/
theorem waits_append (h : Waits s token call) (hcounter : s.requestCounter ≤ s'.requestCounter)
    (htasks : ∀ other∈waitingCalls s'.tasks,other.number≠call.number) (more : List Mark)
    (hhistory : s'.history=s.history++more)
    (hmore : ∀ mark∈more,isReply call.number mark=false ∧ isQuery call.number mark=false)
    (hstates : ∀ tag∈s.pendingStates token,tag∈s'.pendingStates token ∨
      Mark.answered call.number tag∈more) : Waits s' token call := by
  refine ⟨h.token_eq,le_trans h.made hcounter,htasks,?_,?_⟩
  · rw [hhistory]
    exact unreplied_append h.unreplied fun mark hmark => (hmore mark hmark).1
  · intro tag hquery
    rw [hhistory] at hquery ⊢
    rcases mem_append.mp hquery with hquery|hquery
    · rcases h.asked tag hquery with hpending|hanswered
      · rcases hstates tag hpending with hstill|hanswer
        · exact .inl hstill
        · exact .inr (mem_append_right _ hanswer)
      · exact .inr (mem_append_left _ hanswered)
    · have hother := (hmore _ hquery).2
      simp [isQuery] at hother

/-- Quiet marks keep the invariant when every request still waits. -/
theorem inv_quiet (h : Inv s) (hcounter : s'.requestCounter=s.requestCounter)
    (htasks : (waitingCalls s'.tasks).Sublist (waitingCalls s.tasks)) (more : List Mark)
    (hhistory : s'.history=s.history++more) (hmore : ∀ mark∈more,isQuiet mark=true)
    (hrequests : ∀ token request call,s'.pendingRequests token=some request →
      request.contextRequester=some call → s.pendingRequests token=some request)
    (hstates : ∀ token request call,s'.pendingRequests token=some request →
      request.contextRequester=some call → ∀ tag∈s.pendingStates token,
        tag∈s'.pendingStates token ∨ Mark.answered call.number tag∈more) : Inv s' := by
  refine ⟨?_,?_,?_,?_,?_,?_⟩
  · intro token request call hrequest hcall
    have hold := h.requests token request call (hrequests token request call hrequest hcall) hcall
    refine waits_append hold (le_of_eq hcounter.symm) ?_ more hhistory
      (fun mark hmark => quiet_facts (hmore mark hmark) _) (hstates token request call hrequest hcall)
    intro other hother
    exact hold.started other (htasks.subset hother)
  · intro call hcall
    obtain ⟨hmade,huntouched⟩ := h.tasks call (htasks.subset hcall)
    rw [hcounter,hhistory]
    exact ⟨hmade,untouched_append huntouched fun mark hmark => quiet_facts (hmore mark hmark) _⟩
  · exact h.distinct.sublist (htasks.map _)
  · intro number hlt
    rw [hcounter] at hlt
    rw [hhistory]
    exact untouched_append (h.future number hlt) fun mark hmark => quiet_facts (hmore mark hmark) _
  · intro number
    have hnone : more.countP (isReply number)=0 := by
      rw [countP_eq_zero]
      intro mark hmark
      rw [(quiet_facts (hmore mark hmark) number).1]
      exact Bool.false_ne_true
    rw [hhistory,countP_append,hnone]
    exact h.once number
  · rw [hhistory]
    refine atEvery_append h.order ?_
    intro mark hmark before call endpointId context hcontext
    have hquiet := hmore mark hmark
    rw [hcontext] at hquiet
    cases hquiet

variable {request : RequestTracker}

theorem clearRequest_request {token' : ℕ} (h : (s.clearRequest token).pendingRequests token'=some request) :
    token'≠token ∧ s.pendingRequests token'=some request ∧
      (s.clearRequest token).pendingStates token'=s.pendingStates token' := by
  dsimp only [clearRequest] at h
  by_cases heq : token'=token
  · rw [heq,update_self] at h
    cases h
  · rw [update_of_ne heq] at h
    refine ⟨heq,h,?_⟩
    dsimp only [pendingStates,clearRequest]
    rw [update_of_ne heq]

theorem request_of_requester (h : (s.requestAt token).contextRequester=some call) :
    ∃ request,s.pendingRequests token=some request ∧ request.contextRequester=some call ∧
      s.requestAt token=request := by
  unfold requestAt at h ⊢
  cases hrequest : s.pendingRequests token with
  | none =>
    rw [hrequest] at h
    cases h
  | some request =>
    rw [hrequest] at h
    exact ⟨request,rfl,h,rfl⟩

theorem inv_updateCapabilityState (defaultEndpointId : String) (h : Inv s) (tag : CapabilityTag)
    (info : StateInfo) : Inv (s.updateCapabilityState defaultEndpointId tag info) := by
  refine inv_quiet h rfl (List.Sublist.refl _) _ rfl ?_ (fun _ _ _ hrequest _ => hrequest)
    (fun _ _ _ _ _ tag' htag' => .inl htag')
  intro mark hmark
  obtain ⟨state,_,rfl⟩ := map_eq_some_iff.mp (mem_toList.mp hmark)
  rfl

theorem pendingStates_query (s : Manager) (call : Call) (tags : List CapabilityTag) (token : ℕ) :
    (s.query call tags).pendingStates token =
      if token=call.token then s.pendingStates token++tags else s.pendingStates token := by
  unfold pendingStates query
  by_cases hnil : tags=[]
  · simp [hnil]
  · by_cases htoken : token=call.token
    · subst htoken
      simp [hnil,pendingStates]
    · simp [hnil,htoken]

/-- A call whose task runs: it was made, and nothing was done for it yet. -/
structure Starts (s : Manager) (call : Call) : Prop where
  made : call.number ≤ s.requestCounter
  untouched : Untouched s.history call.number
  only : ∀ other∈waitingCalls s.tasks,other.number≠call.number
  fresh : ∀ token request other,s.pendingRequests token=some request →
    request.contextRequester=some other → other.number≠call.number

section

variable (h : Inv s)
include h

theorem inv_clearRequest (token : ℕ) : Inv (s.clearRequest token) := by
  refine inv_quiet h rfl (List.Sublist.refl _) [] (append_nil _).symm nofun ?_ ?_
  · intro token' request call hrequest _
    exact (clearRequest_request hrequest).2.1
  · intro token' request call hrequest _ tag htag
    rw [(clearRequest_request hrequest).2.2]
    exact .inl htag

theorem inv_conclude (hrequest : s.pendingRequests token=some request) (hcall : request.contextRequester=some call)
    {mark : Mark} (hreply : ∀ number,isReply number mark=decide (call.number=number))
    (hquery : ∀ number,isQuery number mark=false) (horder : AnsweredFirst s.history mark) :
    Inv {s.clearRequest token with history := s.history++[mark]} := by
  have hwaits := h.requests token request call hrequest hcall
  have hother : ∀ number,number≠call.number → isReply number mark=false := by
    intro number hne
    rw [hreply]
    exact decide_eq_false fun heq => hne heq.symm
  have hcleared := inv_clearRequest h token
  refine ⟨?_,?_,hcleared.distinct,?_,?_,atEvery_snoc h.order horder⟩
  · intro token' request' call' hrequest' hcall'
    have hold := hcleared.requests token' request' call' hrequest' hcall'
    obtain ⟨hne,_,_⟩ := clearRequest_request hrequest'
    -- another token means another call
    have hnumber : call'.number≠call.number := by
      intro heq
      refine hne ?_
      rw [←hold.token_eq,←hwaits.token_eq,Call.token,Call.token,heq]
    refine ⟨hold.token_eq,hold.made,hold.started,?_,?_⟩
    · refine unreplied_append hold.unreplied fun mark' hmark => ?_
      rw [mem_singleton.mp hmark]
      exact hother _ hnumber
    · intro tag hmem
      rcases mem_append.mp hmem with hmem|hmem
      · rcases hold.asked tag hmem with hpending|hanswered
        · exact .inl hpending
        · exact .inr (mem_append_left _ hanswered)
      · have hfalse := hquery call'.number
        rw [←mem_singleton.mp hmem] at hfalse
        simp [isQuery] at hfalse
  · intro call' hcall'
    obtain ⟨hmade,huntouched⟩ := h.tasks call' hcall'
    refine ⟨hmade,untouched_append huntouched fun mark' hmark => ?_⟩
    rw [mem_singleton.mp hmark]
    exact ⟨hother _ (hwaits.started call' hcall'),hquery _⟩
  · intro number hlt
    refine untouched_append (h.future number hlt) fun mark' hmark => ?_
    rw [mem_singleton.mp hmark]
    exact ⟨hother number (ne_of_gt (lt_of_le_of_lt hwaits.made hlt)),hquery number⟩
  · intro number
    by_cases heq : number=call.number
    · have hnone : s.history.countP (isReply number)=0 := by
        rw [countP_eq_zero]
        intro mark' hmark
        rw [heq,hwaits.unreplied mark' hmark]
        exact Bool.false_ne_true
      rw [countP_append,hnone,zero_add]
      exact countP_le_length
    · rw [countP_append,countP_singleton,hother number heq]
      exact h.once number

theorem inv_contextFailure (token : ℕ) (error : ContextRequestError) : Inv (s.contextFailure token error) := by
  unfold contextFailure
  split
  · exact inv_clearRequest h token
  · rename_i call hcall
    obtain ⟨request,hrequest,hrequester,_⟩ := request_of_requester hcall
    refine inv_conclude h hrequest hrequester (fun _ => rfl) (fun _ => rfl) ?_
    exact nofun

/-- A request is answered when nobody is waited for. -/
theorem inv_contextAvailableIfReady (token : ℕ) (endpointId : String) :
    Inv (s.contextAvailableIfReady defaultEndpointId token endpointId) := by
  unfold contextAvailableIfReady
  split
  · exact h
  · rename_i hready
    dsimp only
    split
    · exact inv_clearRequest h token
    · rename_i call hcall
      obtain ⟨request,hrequest,hrequester,_⟩ := request_of_requester hcall
      refine inv_conclude h hrequest hrequester (fun _ => rfl) (fun _ => rfl) ?_
      intro call' endpointId' context hmark tag hquery
      cases hmark
      rcases (h.requests token request call hrequest hrequester).asked tag hquery with hpending|hanswered
      · rw [not_not.mp hready] at hpending
        exact absurd hpending not_mem_nil
      · exact hanswered

theorem inv_takeReply (tag : CapabilityTag) (token : ℕ) : Inv (s.takeReply tag token) := by
  unfold takeReply
  split
  · exact h
  · rename_i tags htags
    refine inv_quiet h rfl (List.Sublist.refl _) _ rfl ?_ (fun _ _ _ hrequest _ => hrequest) ?_
    · intro mark hmark
      obtain ⟨call,_,rfl⟩ := map_eq_some_iff.mp (mem_toList.mp hmark)
      rfl
    · intro token' request call hrequest hcall tag' htag'
      by_cases htoken : token'=token
      · subst htoken
        have hstates : s.pendingStates token'=tags := by
          rw [pendingStates,htags]
          rfl
        have hat : (s.requestAt token').contextRequester=some call := by
          have hrequest' : s.pendingRequests token'=some request := hrequest
          rw [requestAt,hrequest']
          exact hcall
        by_cases heq : tag'=tag
        · subst heq
          right
          rw [hat]
          exact mem_singleton_self _
        · left
          dsimp only [pendingStates]
          rw [update_self]
          rw [hstates] at htag'
          exact mem_filter.mpr ⟨htag',decide_eq_true heq⟩
      · left
        dsimp only [pendingStates]
        rw [update_of_ne htoken]
        exact htag'

theorem inv_start (hstarts : Starts s call) (tracker : RequestTracker)
    (htracker : ∀ other,tracker.contextRequester=some other → other=call)
    (tags : List CapabilityTag) (timers : List (ℕ × ℕ)) (nextTimerToken : ℕ) :
    Inv (({s with
      timers := timers
      nextTimerToken := nextTimerToken
      pendingRequests := update s.pendingRequests call.token
        (some ((s.pendingRequests call.token).getD tracker))} : Manager).query call tags) := by
  have hmarks : ∀ number,number≠call.number → ∀ mark∈tags.map fun tag => Mark.queried call.number tag,
        isReply number mark=false ∧ isQuery number mark=false := by
    intro number hne mark hmark
    obtain ⟨tag,_,rfl⟩ := mem_map.mp hmark
    exact ⟨rfl,decide_eq_false fun heq => hne heq.symm⟩
  have hreplies : ∀ number,∀ mark∈tags.map fun tag => Mark.queried call.number tag,isReply number mark=false := by
    intro number mark hmark
    obtain ⟨tag,_,rfl⟩ := mem_map.mp hmark
    rfl
  -- a request that was waiting before waits for everyone it waited for
  have hold : ∀ token request other,s.pendingRequests token=some request →
      request.contextRequester=some other → Waits (({s with
        timers := timers
        nextTimerToken := nextTimerToken
        pendingRequests := update s.pendingRequests call.token
          (some ((s.pendingRequests call.token).getD tracker))} : Manager).query call tags)
        token other := by
    intro token request other hrequest hother
    have hwaits := h.requests token request other hrequest hother
    refine waits_append hwaits (le_refl _) hwaits.started _ rfl
      (hmarks _ (hstarts.fresh token request other hrequest hother)) ?_
    intro tag htag
    rw [pendingStates_query]
    split
    · exact .inl (mem_append_left _ htag)
    · exact .inl htag
  refine ⟨?_,?_,h.distinct,?_,?_,?_⟩
  · intro token request other hrequest hother
    by_cases htoken : token=call.token
    · subst htoken
      dsimp only [query] at hrequest
      rw [update_self] at hrequest
      rcases eq_none_or_eq_some (s.pendingRequests call.token) with hexists|⟨request',hexists⟩
      · rw [hexists] at hrequest
        cases hrequest
        have heq := htracker other hother
        subst heq
        refine ⟨rfl,hstarts.made,hstarts.only,?_,?_⟩
        · exact unreplied_append (fun mark hmark => (hstarts.untouched mark hmark).1) (hreplies other.number)
        · intro tag hquery
          left
          rw [pendingStates_query,if_pos rfl]
          rcases mem_append.mp hquery with hquery|hquery
          · have hnone := (hstarts.untouched _ hquery).2
            simp [isQuery] at hnone
          · obtain ⟨tag',htag',hmark⟩ := mem_map.mp hquery
            cases hmark
            exact mem_append_right _ htag'
      · rw [hexists] at hrequest
        cases hrequest
        exact hold _ _ other hexists hother
    · dsimp only [query] at hrequest
      rw [update_of_ne htoken] at hrequest
      exact hold token request other hrequest hother
  · intro other hother
    obtain ⟨hmade,huntouched⟩ := h.tasks other hother
    exact ⟨hmade,untouched_append huntouched (hmarks _ (hstarts.only other hother))⟩
  · intro number hlt
    refine untouched_append (h.future number hlt) (hmarks number ?_)
    exact ne_of_gt (lt_of_le_of_lt hstarts.made hlt)
  · intro number
    have hnone : (tags.map fun tag => Mark.queried call.number tag).countP (isReply number)=0 := by
      rw [countP_eq_zero]
      intro mark hmark
      rw [hreplies number mark hmark]
      exact Bool.false_ne_true
    dsimp only [query]
    rw [countP_append,hnone]
    exact h.once number
  · refine atEvery_append h.order ?_
    intro mark hmark before other endpointId context hcontext
    have hreply := hreplies other.number mark hmark
    rw [hcontext] at hreply
    simp [isReply] at hreply

theorem inv_runGetContext (hstarts : Starts s call) (hasRequester : Bool) :
    Inv (s.runGetContext defaultEndpointId call hasRequester) := by
  refine inv_contextAvailableIfReady (inv_start h hstarts _ ?_ _ _ _) _ _
  intro other hother
  cases hasRequester with
  | true => exact (some.inj hother).symm
  | false => cases hother

end

variable {task : Task} {tasks : List Task}

section

variable (h : Inv s)
include h

theorem inv_pop (hnext : s.tasks=task::tasks) : Inv {s with tasks := tasks} := by
  refine inv_quiet h rfl ?_ [] (append_nil _).symm nofun (fun _ _ _ hrequest _ => hrequest)
    (fun _ _ _ _ _ tag htag => .inl htag)
  rw [hnext]
  exact (sublist_cons_self task tasks).filterMap _

theorem starts_of_next {hasRequester : Bool} (hnext : s.tasks=.getContext call hasRequester::tasks) :
    Starts {s with tasks := tasks} call := by
  have hcalls : waitingCalls s.tasks=call::waitingCalls tasks := by
    rw [hnext]
    rfl
  have hmem : call∈waitingCalls s.tasks := by
    rw [hcalls]
    exact mem_cons_self
  obtain ⟨hmade,huntouched⟩ := h.tasks call hmem
  refine ⟨hmade,huntouched,?_,?_⟩
  · have hdistinct := h.distinct
    rw [hcalls,map_cons,nodup_cons] at hdistinct
    intro other hother heq
    refine hdistinct.1 ?_
    rw [←heq]
    exact mem_map_of_mem hother
  · intro token request other hrequest hother heq
    exact (h.requests token request other hrequest hother).started call hmem heq.symm

theorem inv_runTask (hnext : s.tasks=task::tasks) :
    Inv (({s with tasks := tasks} : Manager).runTask defaultEndpointId task) := by
  have hpop := inv_pop h hnext
  cases task with
  | setState tag jsonState refreshPolicy =>
    unfold runTask runSetState
    dsimp only
    have hupdated := inv_updateCapabilityState defaultEndpointId hpop tag
      (.ofJson (providerOf defaultEndpointId {s with tasks := tasks} tag) jsonState refreshPolicy)
    split
    · exact hupdated
    · split
      · exact inv_contextFailure hupdated _ _
      · exact inv_contextAvailableIfReady (inv_takeReply hupdated _ _) _ _
  | reportStateChange => exact inv_updateCapabilityState _ hpop _ _
  | provideStateResponse =>
    unfold runTask runProvideStateResponse
    dsimp only
    split
    · exact inv_contextAvailableIfReady (inv_takeReply (inv_updateCapabilityState _ hpop _ _) _ _) _ _
    · exact hpop
  | provideStateUnavailableResponse =>
    unfold runTask runProvideStateUnavailableResponse
    dsimp only
    split
    · split
      · exact inv_contextFailure hpop _ _
      · split
        · exact inv_contextFailure hpop _ _
        · exact inv_contextAvailableIfReady (inv_takeReply hpop _ _) _ _
    · exact hpop
  | getContext call hasRequester => exact inv_runGetContext hpop (starts_of_next h hnext) hasRequester
  | timeout => exact inv_contextFailure hpop _ _

theorem inv_submit (htask : waitingCalls [task]=[])
    (timers : List (ℕ × ℕ)) : Inv {s with timers := timers,tasks := s.tasks++[task]} := by
  refine inv_quiet h rfl ?_ [] (append_nil _).symm nofun (fun _ _ _ hrequest _ => hrequest)
    (fun _ _ _ _ _ tag htag => .inl htag)
  have hsame : waitingCalls (s.tasks++[task])=waitingCalls s.tasks := by
    rw [waitingCalls,filterMap_append]
    exact (congrArg _ htask).trans (append_nil _)
  rw [hsame]

theorem inv_getContext (endpointId : String) (skip hasRequester : Bool) :
    Inv (s.getContext endpointId skip hasRequester) := by
  have hcalls : waitingCalls (s.getContext endpointId skip hasRequester).tasks =
      waitingCalls s.tasks++[⟨s.requestCounter+1,endpointId,skip⟩] := by
    unfold getContext waitingCalls
    rw [filterMap_append]
    rfl
  refine ⟨?_,?_,?_,?_,h.once,h.order⟩
  · intro token request call hrequest hcall
    have hwaits := h.requests token request call hrequest hcall
    refine ⟨hwaits.token_eq,le_succ_of_le hwaits.made,?_,hwaits.unreplied,hwaits.asked⟩
    intro other hother
    rw [hcalls] at hother
    rcases mem_append.mp hother with hother|hother
    · exact hwaits.started other hother
    · rw [mem_singleton.mp hother]
      exact ne_of_gt (lt_succ_of_le hwaits.made)
  · intro call hcall
    rw [hcalls] at hcall
    rcases mem_append.mp hcall with hcall|hcall
    · obtain ⟨hmade,huntouched⟩ := h.tasks call hcall
      exact ⟨le_succ_of_le hmade,huntouched⟩
    · rw [mem_singleton.mp hcall]
      exact ⟨le_refl _,h.future _ (lt_succ_self _)⟩
  · rw [hcalls,map_append,nodup_append']
    refine ⟨h.distinct,nodup_singleton _,?_⟩
    intro number hold hnew
    obtain ⟨call,hcall,rfl⟩ := mem_map.mp hold
    have hmade := (h.tasks call hcall).1
    have heq : call.number=s.requestCounter+1 := mem_singleton.mp hnew
    omega
  · intro number hlt
    exact h.future number (lt_trans (lt_succ_self _) hlt)

theorem inv_step {event : Event} (hstep : Step defaultEndpointId s event s') : Inv s' := by
  have hstored : ∀ endpointsState,Inv {s with endpointsState := endpointsState} := by
    intro endpointsState
    exact inv_quiet h rfl (List.Sublist.refl _) [] (append_nil _).symm nofun
      (fun _ _ _ hrequest _ => hrequest) (fun _ _ _ _ _ tag htag => .inl htag)
  cases hstep with
  | addStateProvider | removeStateProvider => exact hstored _
  | setState =>
    unfold setState
    split
    · exact inv_submit h rfl s.timers
    · exact h
  | reportStateChange | provideStateResponse | provideStateUnavailableResponse => exact inv_submit h rfl s.timers
  | getContext endpointId skip hasRequester => exact inv_getContext h endpointId skip hasRequester
  | timerExpires => exact inv_submit h rfl _
  | runTask next => exact inv_runTask h next

end

/-- In every run a call of `getContext` gets one callback at most, and a context
is delivered to it only when every provider that was asked for it has answered. -/
theorem context_reply_once (defaultEndpointId : String) (events : List Event) (s : Manager)
    (run : Run (Step defaultEndpointId) init events s) : (∀ number,s.history.countP (isReply number)≤1) ∧
    ∀ before after call endpointId context, s.history=before++Mark.available call endpointId context::after →
      ∀ tag,Mark.queried call.number tag∈before → Mark.answered call.number tag∈before := by
  have hinv : Inv s := run.invariant Inv inv_init fun _ _ _ h hstep => inv_step h hstep
  refine ⟨hinv.once,?_⟩
  intro before after call endpointId context heq
  exact hinv.order before _ after heq call endpointId context rfl

def defaultTag : CapabilityTag := ⟨"Alexa","state","",none⟩

/-- Two replies and a late timer: the requester has one callback. -/
theorem context_reply_once_twice_answered : ∃ (events : List Event) (s : Manager),Run (Step "d") init events s ∧
      Mark.queried 1 defaultTag∈s.history ∧ s.history.countP (isReply 1)≤1 ∧
      Mark.available ⟨1,"",false⟩ "" [(defaultTag,some ⟨"v"⟩)]∈s.history := by
  have hrun : Run (Step "d") init _ _ :=
    ((((((((Run.refl.snoc (.addStateProvider defaultTag ⟨true,false⟩)).snoc
      (.getContext "" false true)).snoc (.runTask rfl)).snoc
      (.provideStateResponse defaultTag ⟨"v"⟩ 1)).snoc (.provideStateResponse defaultTag ⟨"w"⟩ 1)).snoc
      (.timerExpires mem_cons_self)).snoc (.runTask rfl)).snoc (.runTask rfl)).snoc (.runTask rfl)
  exact ⟨_,_,hrun,by decide,(context_reply_once "d" _ _ hrun).1 1,by decide⟩

end AlexaClientSDK.ContextReplies
