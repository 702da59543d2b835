import AlexaClientSDK.ConnectedNotifications

/-!
# The end of a connection that the server closes

A transport that the server disconnects is to wait for its message handlers before it shuts down. The main loop goes on
to `DISCONNECTING` without telling the state, and `handleDisconnecting` does not wait unless somebody else has called
`disconnect`.
-/

namespace AlexaClientSDK.GracefulDisconnects

open List LabelledRuns HTTP2Transport Transport TransportStates Transport MessageRequestQueue ConnectedNotifications
open MessageRequestQueue (MessageRequest RequestQueue)
open MessageRouter (ChangedReason)

variable {s t : Transport} {shared : RequestQueue}

section

variable (s)

/-- The transport shuts down when no handler is unfinished. -/
def Graceful : Prop := ∀ count∈s.unfinishedAtShutdown,count=0

/-- The transport is not shut down, and nothing fails. -/
def peaceful : Event → Bool
  | .call .shutdown | .call .onUnRecoverablePostConnectFailure | .call (.onAuthStateChange .UNRECOVERABLE_ERROR)
  | .call .onPingTimeout | .start false | .ping _ false => false
  | .call .disconnect | .call (.sendMessage _) | .call .onPostConnected | .call (.onAuthStateChange .UNINITIALIZED)
  | .call (.onAuthStateChange .EXPIRED) | .call (.onAuthStateChange .REFRESHED) | .call .onWakeConnectionRetry
  | .call .onDownchannelConnected | .call .onDownchannelFinished | .call (.onPingRequestAcknowledged _)
  | .connect | .acknowledge _ _ | .finish _ _ | .start true | .enter | .dispatch _ _ | .timeOut | .wake _ | .take _
  | .send _ _ _ | .inactive _ | .ping _ true | .leave _ | .close => true

def PeacefulStep : Transport → RequestQueue × Event → Transport → Prop :=
  Guarded Step fun _ label => peaceful label.2=true

/-- The main loop gets to `handleDisconnecting` when all handlers are finished, unless the state is
`DISCONNECTING`. -/
def Allowed (label : RequestQueue × Event) : Prop :=
  ∀ downchannel,label.2=.dispatch .DISCONNECTING downchannel → s.state=.SERVER_SIDE_DISCONNECT →
    s.countOfUnfinishedMessageHandlers=0

/-- The count is the number of the handlers that are not finished. -/
def Counted : Prop := s.countOfUnfinishedMessageHandlers=s.unfinished

end

variable {handler : Handler}

theorem countP_set_handler (changed : Handler) : ∀ (handlers : List Handler) (index : ℕ),handlers[index]?=some handler →
      (handlers.set index changed).countP (fun handler => !handler.finished)+(if (!handler.finished)=true then 1 else 0) =
        handlers.countP (fun handler => !handler.finished)+if (!changed.finished)=true then 1 else 0 := by
  intro handlers
  induction handlers with
  | nil => exact nofun
  | cons first rest ih =>
    intro index hmem
    cases index with
    | zero =>
      obtain rfl := Option.some.inj hmem
      rw [set_cons_zero,countP_cons,countP_cons]
      exact Nat.add_right_comm _ _ _
    | succ index =>
      have hrest := ih index hmem
      rw [set_cons_succ,countP_cons,countP_cons]
      omega

section

variable (h : Counted s)
include h

theorem Counted.same (hhandlers : t.handlers=s.handlers)
    (hcount : t.countOfUnfinishedMessageHandlers=s.countOfUnfinishedMessageHandlers) : Counted t := by
  unfold Counted unfinished at h ⊢
  rw [hcount,hhandlers]
  exact h

theorem counted_onMessageRequestSent (request : MessageRequest) :
    Counted (s.onMessageRequestSent shared request).1 := by
  unfold Counted unfinished at h ⊢
  unfold onMessageRequestSent
  rw [countP_append,h]
  rfl

theorem counted_acknowledged {index : ℕ} (hmem : s.handlers[index]?=some handler) :
    Counted (s.onMessageRequestAcknowledged shared index handler).1 := by
  have hset := countP_set_handler {handler with acknowledged := true} s.handlers index hmem
  unfold Counted unfinished at h ⊢
  unfold onMessageRequestAcknowledged
  dsimp only at hset ⊢
  rw [h]
  omega

theorem counted_finished {index : ℕ} (hmem : s.handlers[index]?=some handler)
    (hunfinished : handler.finished=false) : Counted (s.onMessageRequestFinished index handler) := by
  have hset := countP_set_handler {handler with finished := true} s.handlers index hmem
  rw [hunfinished] at hset
  simp only [Bool.not_false,Bool.not_true,if_true,Bool.false_eq_true,if_false] at hset
  unfold Counted unfinished at h ⊢
  unfold onMessageRequestFinished
  dsimp only
  rw [h]
  omega

theorem counted_send (whileState : State) (request : MessageRequest) (token : Bool) :
    Counted (s.send shared whileState request token).1 := by
  cases token with
  | true =>
    have hsending : Counted {s with loop := .sending whileState} := h.same rfl rfl
    exact counted_onMessageRequestSent hsending request
  | false => exact h.same rfl rfl

end

/-- What happens while nothing is sent, and nothing is finished. -/
structure Stays (s t : Transport) : Prop where
  handlers : t.handlers=s.handlers
  count : t.countOfUnfinishedMessageHandlers=s.countOfUnfinishedMessageHandlers
  unfinishedAtShutdown : t.unfinishedAtShutdown=s.unfinishedAtShutdown

section

variable (s)

theorem Stays.refl : Stays s s := ⟨rfl,rfl,rfl⟩

/-- The state moves, and the transport does not shut down. -/
theorem stays_setState {newState : State} (hnew : newState≠.SHUTDOWN) (changedReason : ChangedReason) :
    Stays s (s.setState newState changedReason) := by
  have hmoved := moved_setState s newState changedReason
  refine ⟨hmoved.handlers,hmoved.count,?_⟩
  obtain ⟨-,-,-,hunfinished⟩|⟨-,hsame⟩ := setState_cases s newState changedReason
  · rw [hunfinished,if_neg hnew]
  · rw [hsame]

theorem stays_call {call : Call} (hpeaceful : peaceful (.call call)=true) : Stays s (s.call call) := by
  cases call with
  | disconnect =>
    unfold call disconnect
    dsimp only
    split
    · exact stays_setState s (by decide) .ACL_CLIENT_REQUEST
    · exact .refl s
  | sendMessage =>
    unfold call sendMessage
    dsimp only
    split <;> exact ⟨rfl,rfl,rfl⟩
  | onPostConnected =>
    have hset := stays_setState {s with postConnected := true} (by decide : State.CONNECTED≠.SHUTDOWN) .SUCCESS
    have hconnected : Stays s ({s with postConnected := true}.setState .CONNECTED .SUCCESS) :=
      ⟨hset.handlers,hset.count,hset.unfinishedAtShutdown⟩
    unfold call onPostConnected
    dsimp only
    split <;> first | exact hconnected | exact ⟨rfl,rfl,rfl⟩
  | onAuthStateChange newState =>
    unfold call onAuthStateChange
    cases newState with
    | UNINITIALIZED | EXPIRED =>
      dsimp only
      split
      · exact stays_setState s (by decide) .INVALID_AUTH
      · exact .refl s
    | REFRESHED =>
      dsimp only
      split
      · exact stays_setState s (by decide) .SUCCESS
      · exact .refl s
    | UNRECOVERABLE_ERROR => cases hpeaceful
  | onWakeConnectionRetry =>
    unfold call onWakeConnectionRetry
    dsimp only
    split
    · exact .refl s
    · exact stays_setState s (by decide) .ACL_CLIENT_REQUEST
  | onDownchannelConnected => exact stays_setState s (by decide) .SUCCESS
  | onDownchannelFinished =>
    have hretry := stays_setState s (by decide : State.WAITING_TO_RETRY_CONNECTING≠.SHUTDOWN) .NONE
    have hended := stays_setState s (by decide : State.SERVER_SIDE_DISCONNECT≠.SHUTDOWN) .SERVER_SIDE_DISCONNECT
    unfold call onDownchannelFinished
    dsimp only
    split <;> first | exact hretry | exact hended | exact .refl s
  | onPingRequestAcknowledged =>
    have hset := stays_setState {s with pingHandler := false} (by decide : State.SERVER_SIDE_DISCONNECT≠.SHUTDOWN)
      .SERVER_SIDE_DISCONNECT
    unfold call onPingRequestAcknowledged
    dsimp only
    split
    · exact ⟨rfl,rfl,rfl⟩
    · exact ⟨hset.handlers,hset.count,hset.unfinishedAtShutdown⟩
  | shutdown | onUnRecoverablePostConnectFailure | onPingTimeout => cases hpeaceful

/-- The main loop handles a state other than `DISCONNECTING`. -/
theorem stays_dispatch {nextState : State} (hinit : nextState≠.INIT)
    (hdisconnecting : nextState≠.DISCONNECTING) (downchannel : Bool) :
    Stays s (s.dispatch shared downchannel nextState).1 := by
  cases nextState with
  | INIT => exact (hinit rfl).elim
  | AUTHORIZING | WAITING_TO_RETRY_CONNECTING | CONNECTED | SERVER_SIDE_DISCONNECT | SHUTDOWN => exact ⟨rfl,rfl,rfl⟩
  | CONNECTING =>
    have hset := stays_setState s (by decide : State.WAITING_TO_RETRY_CONNECTING≠.SHUTDOWN) .INTERNAL_ERROR
    unfold dispatch handleConnecting
    dsimp only
    split
    · exact ⟨rfl,rfl,rfl⟩
    · exact ⟨hset.handlers,hset.count,hset.unfinishedAtShutdown⟩
  | POST_CONNECTING =>
    have hset := stays_setState s (by decide : State.CONNECTED≠.SHUTDOWN) .SUCCESS
    unfold dispatch handlePostConnecting
    dsimp only
    split
    · exact ⟨hset.handlers,hset.count,hset.unfinishedAtShutdown⟩
    · exact ⟨rfl,rfl,rfl⟩
  | DISCONNECTING => exact (hdisconnecting rfl).elim

end

/-- What holds in every run in which only what is allowed happens. -/
structure Inv (s : Transport) : Prop where
  following : Following s
  counted : Counted s
  /-- The transport shuts down when no handler is unfinished. -/
  graceful : Graceful s

theorem inv_create : Inv create := ⟨following_create,rfl,nofun⟩

theorem Inv.stays (h : Inv s) (hfollowing : Following t) (hstays : Stays s t) : Inv t := by
  refine ⟨hfollowing,h.counted.same hstays.handlers hstays.count,?_⟩
  unfold Graceful
  rw [hstays.unfinishedAtShutdown]
  exact h.graceful

theorem unfinishedAtShutdown_dispatch (s : Transport) (downchannel : Bool) :
    (s.state≠.SHUTDOWN → (s.dispatch shared downchannel .DISCONNECTING).1.unfinishedAtShutdown=some s.unfinished) ∧
      (s.state=.SHUTDOWN →
        (s.dispatch shared downchannel .DISCONNECTING).1.unfinishedAtShutdown=s.unfinishedAtShutdown) := by
  change (s.state≠.SHUTDOWN → (s.setState .SHUTDOWN .SUCCESS).unfinishedAtShutdown=some s.unfinished) ∧
    (s.state=.SHUTDOWN → (s.setState .SHUTDOWN .SUCCESS).unfinishedAtShutdown=s.unfinishedAtShutdown)
  obtain ⟨-,hother,-,hunfinished⟩|⟨hrefused,hsame⟩ := setState_cases s .SHUTDOWN .SUCCESS
  · exact ⟨fun _ => hunfinished,fun hdown => (hother hdown.symm).elim⟩
  · refine ⟨fun hup => ?_,fun _ => by rw [hsame]⟩
    obtain hdown|hrefused := hrefused
    · exact (hup hdown.symm).elim
    · cases hrefused

theorem inv_disconnecting (h : Inv s) (hloop : s.loop=.dispatching .DISCONNECTING) (hwaited : s.isDraining=false)
    (hallowed : s.state=.SERVER_SIDE_DISCONNECT → s.countOfUnfinishedMessageHandlers=0) (downchannel : Bool) :
    Inv (s.dispatch shared downchannel .DISCONNECTING).1 := by
  have hfollowing : Following (s.dispatch shared downchannel .DISCONNECTING).1 :=
    following_dispatch h.following hloop downchannel
  have hmoved := moved_setState s .SHUTDOWN .SUCCESS
  obtain ⟨hdown,hsame⟩ := @unfinishedAtShutdown_dispatch shared s downchannel
  refine ⟨hfollowing,h.counted.same hmoved.handlers hmoved.count,?_⟩
  unfold Graceful
  by_cases hstate : s.state=.SHUTDOWN
  · rw [hsame hstate]
    exact h.graceful
  · rw [hdown hstate]
    intro count hcount
    obtain rfl := Option.mem_some.mp hcount
    have hcounted : s.countOfUnfinishedMessageHandlers=s.unfinished := h.counted
    have hnone : s.countOfUnfinishedMessageHandlers≤0 := by
      have hstage := h.following.stage
      rw [hloop] at hstage
      have hending : s.state=.SERVER_SIDE_DISCONNECT ∨ s.state=.DISCONNECTING := by
        revert hstage hstate
        cases s.state <;> decide
      obtain hserver|hdisconnecting := hending
      · exact Int.le_of_eq (hallowed hserver)
      · unfold isDraining at hwaited
        rw [hdisconnecting] at hwaited
        exact Int.not_lt.mp (of_decide_eq_false hwaited)
    omega

variable {label : RequestQueue × Event}

theorem inv_step (h : Inv s) (hstep : PeacefulStep s label t) (hallowed : Allowed s label) : Inv t := by
  obtain ⟨hpeaceful,hstep⟩ := hstep
  have hfollowing := following_step h.following hstep
  obtain ⟨shared,event⟩ := label
  obtain ⟨hpossible,rfl⟩ := hstep
  cases event with
  | call => exact h.stays hfollowing (stays_call s hpeaceful)
  | connect =>
    have hset := stays_setState s (by decide : State.AUTHORIZING≠.SHUTDOWN) .ACL_CLIENT_REQUEST
    refine h.stays hfollowing ?_
    unfold Transport.next connect
    dsimp only
    split
    · exact ⟨hset.handlers,hset.count,hset.unfinishedAtShutdown⟩
    · exact .refl s
  | acknowledge => exact ⟨hfollowing,counted_acknowledged h.counted hpossible.1,h.graceful⟩
  | finish => exact ⟨hfollowing,counted_finished h.counted hpossible.1 hpossible.2.2,h.graceful⟩
  | start postConnect =>
    cases postConnect with
    | true => exact h.stays hfollowing ⟨rfl,rfl,rfl⟩
    | false => cases hpeaceful
  | enter | timeOut | inactive | leave | close => exact h.stays hfollowing ⟨rfl,rfl,rfl⟩
  | dispatch nextState downchannel =>
    obtain ⟨hloop,hwaited⟩ := hpossible
    by_cases hdisconnecting : nextState=.DISCONNECTING
    · subst hdisconnecting
      exact inv_disconnecting h hloop (hwaited rfl) (hallowed downchannel rfl) downchannel
    · refine h.stays hfollowing (stays_dispatch s ?_ hdisconnecting downchannel)
      rintro rfl
      exact h.following.initial hloop
  | wake =>
    have hset := stays_setState s (by decide : State.CONNECTING≠.SHUTDOWN) .NONE
    refine h.stays hfollowing ?_
    unfold Transport.next wake
    dsimp only
    split
    · exact ⟨hset.handlers,hset.count,hset.unfinishedAtShutdown⟩
    · exact ⟨rfl,rfl,rfl⟩
  | take =>
    refine h.stays hfollowing ?_
    unfold Transport.next Transport.take
    dsimp only
    split
    · exact ⟨rfl,rfl,rfl⟩
    · exact ⟨rfl,rfl,rfl⟩
  | send whileState request token =>
    refine ⟨hfollowing,counted_send h.counted whileState request token,?_⟩
    cases token with
    | true | false => exact h.graceful
  | ping whileState created =>
    cases created with
    | true => exact h.stays hfollowing ⟨rfl,rfl,rfl⟩
    | false => cases hpeaceful

/-- In another state the main loop does not wait for the handlers. -/
theorem Inv.allowed_of_graceful (h : Inv s) (hstep : PeacefulStep s label t)
    (hgraceful : Graceful t) : Allowed s label := by
  obtain ⟨shared,event⟩ := label
  obtain ⟨-,-,rfl⟩ := hstep
  rintro downchannel hevent hstate
  subst hevent
  have hup : s.state≠.SHUTDOWN := by
    rw [hstate]
    decide
  have hunfinished := (@unfinishedAtShutdown_dispatch shared s downchannel).1 hup
  have hnone := hgraceful s.unfinished (Option.mem_def.mpr hunfinished)
  have hcounted : s.countOfUnfinishedMessageHandlers=s.unfinished := h.counted
  omega

/-- The runs of a transport that is left in peace in which it shuts down gracefully are those in which only what
is allowed happens. -/
theorem graceful_iff {trace : List (RequestQueue × Event)} :
    Run (Keeping PeacefulStep Graceful) create trace s ↔ Run (Guarded PeacefulStep Allowed) create trace s :=
  Run.keeping_iff Inv inv_create (fun _ _ _ h hstep hallowed => inv_step h hstep hallowed)
    fun _ _ _ h hstep => ⟨h.allowed_of_graceful hstep,fun hallowed => (inv_step h hstep hallowed).graceful⟩

/-- While a request is sent: the transport shuts down at once. -/
theorem server_side_disconnect_drops_handler :
    ∃ (trace : List (RequestQueue × Event)) (s : Transport),Run PeacefulStep create trace s ∧
      s.unfinishedAtShutdown=some 1 ∧ ¬Graceful s := by
  have hquiet : ∀ label∈connectedTrace,peaceful label.2=true := by decide
  have hrun : Run PeacefulStep create connectedTrace connected :=
    run_connected.guard fun label hmem _ => hquiet label hmem
  have hconnected := hrun.allow (step_next create (.dispatch .CONNECTED true) ⟨rfl,nofun⟩) rfl
  have htaken := hconnected.allow (step_next ⟨[⟨0,false⟩],false⟩ (.take .CONNECTED) ⟨rfl,rfl,by decide⟩) rfl
  have hsent := htaken.allow (step_next create (.send .CONNECTED ⟨0,false⟩ true) rfl) rfl
  have hended := hsent.allow (step_next create (.call .onDownchannelFinished) trivial) rfl
  have hleft := hended.allow (step_next create (.leave .CONNECTED) ⟨rfl,by decide⟩) rfl
  have htold := hleft.allow (step_next create (.dispatch .SERVER_SIDE_DISCONNECT true) ⟨rfl,nofun⟩) rfl
  refine ⟨_,_,htold.allow (step_next create (.dispatch .DISCONNECTING true) ⟨rfl,fun _ => rfl⟩) rfl,rfl,fun h => ?_⟩
  exact absurd (h 1 rfl) (by decide)

end AlexaClientSDK.GracefulDisconnects
