import AlexaClientSDK.TransportStates

/-!
# The notification that a transport is connected

The main loop tells the observers once when it deals with `CONNECTED`, and does not look at the state again before it
does: what ends the connection between its last look and the call is not noticed.
-/

namespace AlexaClientSDK.ConnectedNotifications

open LabelledRuns HTTP2Transport Transport TransportStates MessageRequestQueue Transport
open MessageRequestQueue (MessageRequest RequestQueue)

variable {s t : Transport} {shared : RequestQueue}

/-- Once at most, and only while the state is `CONNECTED`. -/
structure Notified (s : Transport) : Prop where
  once : s.connectedAt.length≤1
  connected : ∀ state∈s.connectedAt,state=.CONNECTED

section

variable (s)

/-- The main loop will tell the observers, whatever happens to the state. -/
def Committed : Prop :=
  s.loop=.dispatching .CONNECTED ∨ s.loop=.dispatching .POST_CONNECTING ∧ s.postConnected=true

def ends : Call → Bool
  | .disconnect | .shutdown | .onUnRecoverablePostConnectFailure | .onAuthStateChange .UNRECOVERABLE_ERROR
  | .onDownchannelFinished | .onPingRequestAcknowledged false | .onPingTimeout => true
  | .sendMessage _ | .onPostConnected | .onAuthStateChange .UNINITIALIZED | .onAuthStateChange .EXPIRED
  | .onAuthStateChange .REFRESHED | .onWakeConnectionRetry | .onDownchannelConnected
  | .onPingRequestAcknowledged true => false

def endsConnection : Event → Bool
  | .call call => ends call
  | .connect | .acknowledge _ _ | .finish _ _ | .start _ | .enter | .dispatch _ _ | .timeOut | .wake _ | .take _
  | .send _ _ _ | .inactive _ | .ping _ _ | .leave _ | .close => false

def Allowed (label : RequestQueue × Event) : Prop := endsConnection label.2=true → ¬Committed s

/-- The observers are still to be told. -/
def Early : Loop → Prop
  | .idle | .starting | .entering | .monitoring _ => True
  | .dispatching nextState => stage nextState≤2
  | .sending whileState | .holding whileState _ | .pinging whileState => stage whileState<2
  | .closing | .done => False

/-- What holds in every run in which only what is allowed happens. -/
structure Inv (s : Transport) : Prop where
  following : Following s
  /-- The connection does not end before the observers are told. -/
  committed : Committed s → stage s.state≤2
  early : Early s.loop → s.connectedAt=[]
  once : s.connectedAt=[] ∨ s.connectedAt=[.CONNECTED]

theorem inv_create : Inv create where
  following := following_create
  committed _ := Nat.zero_le 2
  early _ := rfl
  once := .inl rfl

theorem onPostConnected_cases : s.onPostConnected=s ∨ stage s.onPostConnected.state≤2 := by
  unfold onPostConnected
  split
  next hstate => exact .inr (by dsimp only; rw [hstate]; decide)
  next hstate => exact .inr (by dsimp only; rw [hstate]; decide)
  next hstate => exact .inr (by dsimp only; rw [hstate]; decide)
  next hstate => exact .inr (by dsimp only; rw [hstate]; decide)
  · exact .inl rfl
  next hstate =>
    refine .inr (stage_setState_le _ .CONNECTED .SUCCESS ?_ (by decide))
    rw [hstate]
    decide
  · exact .inl rfl
  · exact .inl rfl
  · exact .inl rfl

end

variable {call : Call}

/-- A call that neither ends the connection nor is `onPostConnected`. -/
theorem stage_call (hends : ends call=false) (hpost : call≠.onPostConnected)
    (h : stage s.state≤2) : stage (s.call call).state≤2 := by
  cases call with
  | sendMessage =>
    unfold call sendMessage
    dsimp only
    split <;> exact h
  | onAuthStateChange newState =>
    unfold call onAuthStateChange
    cases newState with
    | UNINITIALIZED | EXPIRED =>
      dsimp only
      split
      · exact stage_setState_le s .AUTHORIZING .INVALID_AUTH h (by decide)
      · exact h
    | REFRESHED =>
      dsimp only
      split
      · exact stage_setState_le s .CONNECTING .SUCCESS h (by decide)
      · exact h
    | UNRECOVERABLE_ERROR => cases hends
  | onWakeConnectionRetry =>
    unfold call onWakeConnectionRetry
    dsimp only
    split
    · exact h
    · exact stage_setState_le s .CONNECTING .ACL_CLIENT_REQUEST h (by decide)
  | onDownchannelConnected => exact stage_setState_le s .POST_CONNECTING .SUCCESS h (by decide)
  | onPingRequestAcknowledged success =>
    cases success with
    | false => cases hends
    | true => exact h
  | onPostConnected => exact (hpost rfl).elim
  | disconnect => cases hends
  | shutdown => cases hends
  | onUnRecoverablePostConnectFailure => cases hends
  | onDownchannelFinished => cases hends
  | onPingTimeout => cases hends

theorem postConnected_call (hpost : call≠.onPostConnected) : (s.call call).postConnected=s.postConnected := by
  have hdisconnect : ∀ s : Transport,s.disconnect.postConnected=s.postConnected := by
    intro s
    unfold disconnect
    split
    · exact postConnected_setState s .DISCONNECTING .ACL_CLIENT_REQUEST
    · rfl
  cases call with
  | disconnect => exact hdisconnect s
  | shutdown => exact (hdisconnect _).trans (postConnected_setState s .SHUTDOWN .ACL_CLIENT_REQUEST)
  | sendMessage =>
    unfold call sendMessage
    dsimp only
    split <;> rfl
  | onPostConnected => exact (hpost rfl).elim
  | onUnRecoverablePostConnectFailure =>
    unfold call onUnRecoverablePostConnectFailure
    dsimp only
    split <;> first | exact postConnected_setState s .SHUTDOWN .UNRECOVERABLE_ERROR | rfl
  | onAuthStateChange newState =>
    unfold call onAuthStateChange
    cases newState with
    | UNINITIALIZED | EXPIRED =>
      dsimp only
      split
      · exact postConnected_setState s .AUTHORIZING .INVALID_AUTH
      · rfl
    | REFRESHED =>
      dsimp only
      split
      · exact postConnected_setState s .CONNECTING .SUCCESS
      · rfl
    | UNRECOVERABLE_ERROR => exact postConnected_setState s .SHUTDOWN .UNRECOVERABLE_ERROR
  | onWakeConnectionRetry =>
    unfold call onWakeConnectionRetry
    dsimp only
    split
    · rfl
    · exact postConnected_setState s .CONNECTING .ACL_CLIENT_REQUEST
  | onDownchannelConnected => exact postConnected_setState s .POST_CONNECTING .SUCCESS
  | onDownchannelFinished =>
    unfold call onDownchannelFinished
    dsimp only
    split <;> first
      | rfl
      | exact postConnected_setState s .WAITING_TO_RETRY_CONNECTING .NONE
      | exact postConnected_setState s .SERVER_SIDE_DISCONNECT .SERVER_SIDE_DISCONNECT
  | onPingRequestAcknowledged =>
    unfold call onPingRequestAcknowledged
    dsimp only
    split
    · rfl
    · exact postConnected_setState _ .SERVER_SIDE_DISCONNECT .SERVER_SIDE_DISCONNECT
  | onPingTimeout => exact postConnected_setState _ .SHUTDOWN .PING_TIMEDOUT

theorem not_committed (hloop : ∀ state,s.loop≠.dispatching state) : ¬Committed s := by
  rintro (hcommitted|⟨hcommitted,-⟩)
  · exact hloop _ hcommitted
  · exact hloop _ hcommitted

section

variable (h : Inv s)
include h

theorem Inv.notified : Notified s := by
  obtain hnone|hone := h.once
  · exact ⟨by rw [hnone]; exact Nat.zero_le 1,fun state hmem => by rw [hnone] at hmem; cases hmem⟩
  · refine ⟨by rw [hone]; exact Nat.le_refl 1,fun state hmem => ?_⟩
    rw [hone] at hmem
    exact List.mem_singleton.mp hmem

/-- The transport is connected when the main loop is about to tell. -/
theorem Inv.state_connected (hloop : s.loop=.dispatching .CONNECTED) : s.state=.CONNECTED := by
  have hstage := h.following.stage
  rw [hloop] at hstage
  have hle := h.committed (.inl hloop)
  exact stage_eq_two.mp (Nat.le_antisymm hle hstage)

/-- It does not end the connection when the main loop is about to tell. -/
theorem inv_call (hallowed : ends call=true → ¬Committed s) : Inv (s.call call) := by
  have hmoved := moved_call s call
  refine ⟨h.following.moved hmoved,fun hcommitted => ?_,?_,?_⟩
  · by_cases hpost : call=.onPostConnected
    · subst hpost
      obtain hsame|hle := onPostConnected_cases s
      · change stage s.onPostConnected.state≤2
        change Committed s.onPostConnected at hcommitted
        rw [hsame] at hcommitted ⊢
        exact h.committed hcommitted
      · exact hle
    · have hbefore : Committed s := by
        unfold Committed at hcommitted ⊢
        rw [hmoved.loop,postConnected_call hpost] at hcommitted
        exact hcommitted
      have hends : ends call=false := Bool.eq_false_iff.mpr fun hends => hallowed hends hbefore
      exact stage_call hends hpost (h.committed hbefore)
  · rw [hmoved.loop,hmoved.connectedAt]
    exact h.early
  · rw [hmoved.connectedAt]
    exact h.once

/-- The main loop goes on without telling the observers and is not about to. -/
theorem Inv.quietly (hfollowing : Following t) (hconnectedAt : t.connectedAt=s.connectedAt)
    (hcommitted : ¬Committed t) (hearly : Early t.loop → Early s.loop) : Inv t where
  following := hfollowing
  committed hcommitted' := (hcommitted hcommitted').elim
  early hearly' := hconnectedAt.trans (h.early (hearly hearly'))
  once := by
    rw [hconnectedAt]
    exact h.once

theorem Inv.elsewhere (hfollowing : Following t) (hconnectedAt : t.connectedAt=s.connectedAt)
    (hloop : ∀ state,t.loop≠.dispatching state) (hearly : Early t.loop → Early s.loop) : Inv t :=
  h.quietly hfollowing hconnectedAt (not_committed hloop) hearly

/-- The main loop takes the state for the next one, and it is not behind. -/
theorem Inv.dispatching (hfollowing : Following t.dispatching) (hconnectedAt : t.connectedAt=s.connectedAt)
    (hearly : stage t.state≤2 → Early s.loop) : Inv t.dispatching where
  following := hfollowing
  committed hcommitted := by
    obtain hloop|⟨hloop,-⟩ := hcommitted
    · exact Nat.le_of_eq (congrArg stage (Loop.dispatching.inj hloop))
    · exact Nat.le_trans (Nat.le_of_eq (congrArg stage (Loop.dispatching.inj hloop))) (Nat.le_succ 1)
  early hearly' := hconnectedAt.trans (h.early (hearly hearly'))
  once := by
    change t.connectedAt=[] ∨ t.connectedAt=[.CONNECTED]
    rw [hconnectedAt]
    exact h.once

theorem inv_dispatch {nextState : State} (hloop : s.loop=.dispatching nextState) (downchannel : Bool) :
    Inv (s.dispatch shared downchannel nextState).1 := by
  have hfollowing : Following (s.dispatch shared downchannel nextState).1 := following_dispatch h.following hloop downchannel
  have hearly : stage nextState≤2 → Early s.loop := fun hle => by
    rw [hloop]
    exact hle
  cases nextState with
  | INIT => exact (h.following.initial hloop).elim
  | AUTHORIZING | WAITING_TO_RETRY_CONNECTING =>
    exact h.elsewhere hfollowing rfl nofun fun _ => hearly (by decide)
  | CONNECTING =>
    unfold dispatch handleConnecting at hfollowing ⊢
    dsimp only at hfollowing ⊢
    split at hfollowing
    next hdownchannel =>
      rw [if_pos hdownchannel]
      exact h.elsewhere hfollowing rfl nofun fun _ => hearly (by decide)
    next hdownchannel =>
      rw [if_neg hdownchannel]
      have hmoved := moved_setState s .WAITING_TO_RETRY_CONNECTING .INTERNAL_ERROR
      exact h.dispatching hfollowing hmoved.connectedAt fun _ => hearly (by decide)
  | POST_CONNECTING =>
    have hnone := h.early (hearly (by decide))
    unfold dispatch handlePostConnecting at hfollowing ⊢
    dsimp only at hfollowing ⊢
    split at hfollowing
    next hpost =>
      rw [if_pos hpost]
      have hmoved := moved_setState s .CONNECTED .SUCCESS
      have hle := stage_setState_le s .CONNECTED .SUCCESS (h.committed (.inr ⟨hloop,hpost⟩)) (by decide)
      refine ⟨hfollowing,fun _ => hle,fun _ => hmoved.connectedAt.trans hnone,.inl (hmoved.connectedAt.trans hnone)⟩
    next hpost =>
      rw [if_neg hpost]
      exact h.elsewhere hfollowing rfl nofun fun _ => hearly (by decide)
  | CONNECTED =>
    have hnone := h.early (hearly (Nat.le_refl 2))
    have hstate := h.state_connected hloop
    refine ⟨hfollowing,fun hcommitted => (not_committed (fun _ hother => by cases hother) hcommitted).elim,
      fun hless => (Nat.lt_irrefl 2 hless).elim,.inr ?_⟩
    · change s.connectedAt++[s.state]=[.CONNECTED]
      rw [hnone,hstate]
      rfl
  | SERVER_SIDE_DISCONNECT =>
    refine h.quietly hfollowing rfl ?_ fun hless => absurd hless (by decide : ¬3≤2)
    rintro (hother|⟨hother,-⟩)
    · cases hother
    · cases hother
  | DISCONNECTING =>
    have hmoved := moved_setState s .SHUTDOWN .SUCCESS
    refine h.dispatching hfollowing hmoved.connectedAt fun hle => ?_
    rw [setState_shutdown] at hle
    exact absurd hle (by decide)
  | SHUTDOWN => exact h.elsewhere hfollowing rfl (fun _ hother => by cases hother) False.elim

/-- The main loop takes the next request, if it may be sent. -/
theorem inv_take {whileState : State} (hfollowing : Following (s.take shared whileState).1)
    (hloop : s.loop=.sending whileState) : Inv (s.take shared whileState).1 := by
  have hearly : stage whileState<2 → Early s.loop := fun hless => hloop ▸ hless
  unfold take at hfollowing ⊢
  dsimp only at hfollowing ⊢
  cases hresult : (s.queueFor shared whileState).dequeueSendableRequest.2 with
  | none | some =>
    rw [hresult] at hfollowing
    split at hfollowing
    next hlocal =>
      rw [if_pos hlocal]
      exact h.elsewhere hfollowing rfl nofun hearly
    next hshared =>
      rw [if_neg hshared]
      exact h.elsewhere hfollowing rfl nofun hearly

/-- The main loop sends a ping, or stops without one. -/
theorem inv_ping {whileState : State} {created : Bool} (hfollowing : Following (s.ping whileState created))
    (hloop : s.loop=.pinging whileState) : Inv (s.ping whileState created) := by
  have hearly : stage whileState<2 → Early s.loop := fun hless => hloop ▸ hless
  cases created with
  | true => exact h.elsewhere hfollowing rfl nofun hearly
  | false =>
    have hmoved := moved_setState {s with loop := .sending whileState} .SHUTDOWN .PING_TIMEDOUT
    have hsending : (s.ping whileState false).loop=.sending whileState := hmoved.loop
    refine h.elsewhere hfollowing hmoved.connectedAt (fun state hother => ?_) fun hearly' => hearly ?_
    · rw [hsending] at hother
      cases hother
    · rw [hsending] at hearly'
      exact hearly'

theorem inv_step {label : RequestQueue × Event} (hstep : Step s label t) (hallowed : Allowed s label) : Inv t := by
  have hfollowing := following_step h.following hstep
  obtain ⟨shared,event⟩ := label
  obtain ⟨hpossible,rfl⟩ := hstep
  cases event with
  | call => exact inv_call h hallowed
  | connect =>
    have hloop : s.loop=.idle := hpossible
    have hearly : Early s.loop := hloop ▸ trivial
    unfold next connect at hfollowing ⊢
    dsimp only at hfollowing ⊢
    split at hfollowing
    next hchanged =>
      rw [if_pos hchanged]
      have hmoved : Moved s (s.setStateLocked .AUTHORIZING .ACL_CLIENT_REQUEST).1 :=
        moved_setState s .AUTHORIZING .ACL_CLIENT_REQUEST
      exact h.elsewhere hfollowing hmoved.connectedAt nofun fun _ => hearly
    next hrefused =>
      rw [if_neg hrefused]
      exact h
  | acknowledge | finish | timeOut => exact ⟨hfollowing,h.committed,h.early,h.once⟩
  | start =>
    have hloop : s.loop=.starting := hpossible
    have hearly : Early s.loop := hloop ▸ trivial
    unfold next start at hfollowing ⊢
    dsimp only at hfollowing ⊢
    split at hfollowing
    next hpost =>
      rw [if_pos hpost]
      exact h.elsewhere hfollowing rfl nofun fun _ => hearly
    next hpost =>
      rw [if_neg hpost]
      have hmoved := moved_setState s .SHUTDOWN .INTERNAL_ERROR
      exact h.elsewhere hfollowing hmoved.connectedAt (fun _ hother => by cases hother) fun _ => hearly
  | enter =>
    have hloop : s.loop=.entering := hpossible
    exact h.dispatching hfollowing rfl fun _ => hloop ▸ trivial
  | dispatch nextState downchannel => exact inv_dispatch h hpossible.1 downchannel
  | wake =>
    have hearly : Early s.loop := hpossible.1 ▸ trivial
    unfold next wake at hfollowing ⊢
    dsimp only at hfollowing ⊢
    split at hfollowing
    next hwaiting =>
      rw [if_pos hwaiting]
      exact h.dispatching hfollowing (moved_setState s .CONNECTING .NONE).connectedAt fun _ => hearly
    next hwaiting =>
      rw [if_neg hwaiting]
      exact h.dispatching hfollowing rfl fun _ => hearly
  | take => exact inv_take h hfollowing hpossible.1
  | send whileState request token =>
    have hloop : s.loop=.holding whileState request := hpossible
    have hearly : stage whileState<2 → Early s.loop := fun hless => hloop ▸ hless
    cases token with
    | true | false => exact h.elsewhere hfollowing rfl (fun _ hother => by cases hother) hearly
  | inactive whileState =>
    have hloop : s.loop=.sending whileState := hpossible.1
    have hearly : stage whileState<2 → Early s.loop := fun hless => hloop ▸ hless
    exact h.elsewhere hfollowing rfl (fun _ hother => by cases hother) hearly
  | ping => exact inv_ping h hfollowing hpossible
  | leave whileState =>
    obtain ⟨hloop,hstate⟩ := hpossible
    refine h.dispatching hfollowing rfl fun hle => ?_
    rw [hloop]
    obtain rfl|rfl := h.following.sending whileState (.inl hloop)
    · exact (by decide : 1<2)
    · -- The state is past `CONNECTED` when the main loop does not send in it any more.
      have hstage := h.following.stage
      rw [hloop] at hstage
      exact (hstate (stage_eq_two.mp (Nat.le_antisymm hle hstage))).elim
  | close => exact h.elsewhere hfollowing rfl (fun _ hother => by cases hother) False.elim

end

/-- They are told otherwise although only what is allowed happens. -/
def Breaks (s : Transport) : Prop := ∃ more u,Run (Guarded Step Allowed) s more u ∧ ¬Notified u

theorem allowed_dispatch (s : Transport) (nextState : State) :
    Allowed s (create,.dispatch nextState true) := nofun

/-- The main loop tells the observers when the state is another one. -/
theorem breaks_of_dispatching (hloop : s.loop=.dispatching .CONNECTED) (hstate : s.state≠.CONNECTED) : Breaks s := by
  have hstep : Step s (create,.dispatch .CONNECTED true) s.handleConnected :=
    step_next _ _ ⟨hloop,nofun⟩
  have hstart : Run (Guarded Step Allowed) s [] s := .refl
  refine ⟨_,_,hstart.allow hstep (allowed_dispatch s .CONNECTED),fun h => hstate ?_⟩
  exact h.connected s.state (List.mem_append_right _ List.mem_cons_self)

/-- The connection ends when the main loop is about to tell. -/
theorem breaks_of_committed (hcommitted : Committed s) (hending : s.state.ending=true) : Breaks s := by
  have hother : s.state≠.CONNECTED := fun hstate => by
    rw [hstate] at hending
    cases hending
  obtain hloop|⟨hloop,hpost⟩ := hcommitted
  · exact breaks_of_dispatching hloop hother
  · have hstep : Step s (create,.dispatch .POST_CONNECTING true) s.handlePostConnecting :=
      step_next _ _ ⟨hloop,nofun⟩
    have hstart : Run (Guarded Step Allowed) s [] s := .refl
    have hrun := hstart.allow hstep (allowed_dispatch s .POST_CONNECTING)
    have hrefused : s.setState .CONNECTED .SUCCESS=s := by
      obtain ⟨hallowed,-⟩|⟨-,hsame⟩ := setState_cases s .CONNECTED .SUCCESS
      · exact absurd (stage_le_of_allowed hallowed) (by rw [stage_eq_three.mpr hending]; decide)
      · exact hsame
    have hnext : s.handlePostConnecting={s with loop := .dispatching .CONNECTED} := by
      unfold handlePostConnecting
      rw [if_pos hpost,hrefused]
    rw [hnext] at hrun
    have hloop' : ({s with loop := .dispatching .CONNECTED} : Transport).loop=.dispatching .CONNECTED := rfl
    obtain ⟨more,u,hmore,hbroken⟩ := breaks_of_dispatching hloop' hother
    exact ⟨_,u,hrun.append hmore,hbroken⟩

theorem setState_ending (hstate : s.state=.POST_CONNECTING ∨ s.state=.CONNECTED) {newState : State}
    (hending : newState.ending=true) (changedReason : MessageRouter.ChangedReason) :
    (s.setState newState changedReason).state=newState := by
  obtain ⟨-,-,heq,-⟩|⟨hrefused,-⟩ := setState_cases s newState changedReason
  · exact heq
  · exfalso
    obtain hstate|hstate := hstate <;> rw [hstate] at hrefused <;> revert hending hrefused <;>
      cases newState <;> decide

/-- A call that ends the connection does so when the main loop is about to tell. -/
theorem ending_of_ends (h : Inv s) (hends : ends call=true) (hcommitted : Committed s) :
    (s.call call).state.ending=true := by
  have hstate : s.state=.POST_CONNECTING ∨ s.state=.CONNECTED := by
    have hle := h.committed hcommitted
    have hge : 1 ≤ stage s.state := by
      have hstage := h.following.stage
      obtain hloop|⟨hloop,-⟩ := hcommitted
      · rw [hloop] at hstage
        exact Nat.le_trans (by decide) hstage
      · rw [hloop] at hstage
        exact hstage
    revert hle hge
    cases s.state <;> decide
  cases call with
  | disconnect =>
    unfold call disconnect
    dsimp only
    split
    · rw [setState_ending hstate rfl]
      rfl
    next hshutdown => obtain hstate|hstate := hstate <;> rw [hstate] at hshutdown <;> exact (hshutdown (by decide)).elim
  | shutdown =>
    have hdown := setState_shutdown s .ACL_CLIENT_REQUEST
    unfold call doShutdown disconnect
    rw [if_neg (not_ne_iff.mpr hdown),hdown]
    rfl
  | onUnRecoverablePostConnectFailure =>
    unfold call onUnRecoverablePostConnectFailure
    obtain hstate|hstate := hstate <;> rw [hstate] <;> dsimp only <;> rw [setState_shutdown] <;> rfl
  | onAuthStateChange newState =>
    cases newState with
    | UNRECOVERABLE_ERROR =>
      change (s.setState .SHUTDOWN .UNRECOVERABLE_ERROR).state.ending=true
      rw [setState_shutdown]
      rfl
    | UNINITIALIZED => cases hends
    | EXPIRED => cases hends
    | REFRESHED => cases hends
  | onDownchannelFinished =>
    have hended : (s.setState .SERVER_SIDE_DISCONNECT .SERVER_SIDE_DISCONNECT).state=.SERVER_SIDE_DISCONNECT :=
      setState_ending hstate rfl .SERVER_SIDE_DISCONNECT
    unfold call onDownchannelFinished
    obtain hstate|hstate := hstate <;> rw [hstate] <;> dsimp only <;> rw [hended] <;> rfl
  | onPingRequestAcknowledged success =>
    cases success with
    | true => cases hends
    | false =>
      have hset : ({s with pingHandler := false} : Transport).state=.POST_CONNECTING ∨
          ({s with pingHandler := false} : Transport).state=.CONNECTED := hstate
      change ({s with pingHandler := false}.setState .SERVER_SIDE_DISCONNECT .SERVER_SIDE_DISCONNECT).state.ending=true
      rw [setState_ending hset rfl]
      rfl
  | onPingTimeout =>
    change ({s with pingHandler := false}.setState .SHUTDOWN .PING_TIMEDOUT).state.ending=true
    rw [setState_shutdown]
    rfl
  | sendMessage => cases hends
  | onPostConnected => cases hends
  | onWakeConnectionRetry => cases hends
  | onDownchannelConnected => cases hends

/-- After a step that is not allowed the observers come to be told otherwise. -/
theorem Inv.breaks (h : Inv s) {label : RequestQueue × Event} (hstep : Step s label t) (hnot : ¬Allowed s label) :
    Breaks t := by
  obtain ⟨shared,event⟩ := label
  obtain ⟨-,rfl⟩ := hstep
  unfold Allowed at hnot
  push Not at hnot
  obtain ⟨hends,hcommitted⟩ := hnot
  obtain ⟨call,rfl⟩ : ∃ call,event=.call call := by
    cases event with
    | call call => exact ⟨call,rfl⟩
    | _ => cases hends
  refine breaks_of_committed ?_ (ending_of_ends h hends hcommitted)
  have hother : call≠.onPostConnected := by
    rintro rfl
    cases hends
  change (s.call call).loop=_ ∨ (s.call call).loop=_ ∧ (s.call call).postConnected=true
  rw [(moved_call s call).loop,postConnected_call hother]
  exact hcommitted

/-- In every run of allowed steps the observers are told as they should be; any other step that can follow
breaks this, then or after more allowed steps. -/
theorem connected_once {trace : List (RequestQueue × Event)} (run : Run (Guarded Step Allowed) create trace s) :
    Notified s ∧ ∀ label t,Step s label t → ¬Allowed s label → Breaks t := by
  have hinv : Inv s := run.invariant Inv inv_create fun _ _ _ h hstep => inv_step h hstep.2 hstep.1
  exact ⟨hinv.notified,fun _ _ => hinv.breaks⟩

/-- Until the main loop has seen that the transport is connected. -/
def connectedTrace : List (RequestQueue × Event) :=
  [.connect,.start true,.enter,.dispatch .AUTHORIZING true,.call (.onAuthStateChange .REFRESHED),
    .wake .AUTHORIZING,.dispatch .CONNECTING true,.call .onDownchannelConnected,.wake .CONNECTING,
    .dispatch .POST_CONNECTING true,.call .onPostConnected,.leave .POST_CONNECTING].map (Prod.mk create)

def connected : Transport :=
  connectedTrace.foldl (fun s label => (s.next label.1 label.2).1) create

theorem run_connected : Run Step create connectedTrace connected := by
  have hstart : Run Step create [] create := .refl
  have hconnect := hstart.snoc (step_next create .connect rfl)
  have hstarted := hconnect.snoc (step_next create (.start true) rfl)
  have henter := hstarted.snoc (step_next create .enter rfl)
  have hauthorizing := henter.snoc (step_next create (.dispatch .AUTHORIZING true) ⟨rfl,nofun⟩)
  have hrefreshed := hauthorizing.snoc (step_next create (.call (.onAuthStateChange .REFRESHED)) trivial)
  have hwake := hrefreshed.snoc (step_next create (.wake .AUTHORIZING) ⟨rfl,.inl (by decide)⟩)
  have hconnecting := hwake.snoc (step_next create (.dispatch .CONNECTING true) ⟨rfl,nofun⟩)
  have hdownchannel := hconnecting.snoc (step_next create (.call .onDownchannelConnected) trivial)
  have hwake' := hdownchannel.snoc (step_next create (.wake .CONNECTING) ⟨rfl,.inl (by decide)⟩)
  have hpost := hwake'.snoc (step_next create (.dispatch .POST_CONNECTING true) ⟨rfl,nofun⟩)
  have hconnected := hpost.snoc (step_next create (.call .onPostConnected) trivial)
  exact hconnected.snoc (step_next create (.leave .POST_CONNECTING) ⟨rfl,by decide⟩)

/-- The observers are told. -/
theorem connected_once_simple : Notified (connected.next create (.dispatch .CONNECTED true)).1 := by
  have hquiet : ∀ label∈connectedTrace,endsConnection label.2=false := by decide
  have hrun : Run (Guarded Step Allowed) create connectedTrace connected :=
    run_connected.guard fun label hmem _ hends => absurd hends (by rw [hquiet label hmem]; decide)
  exact (connected_once (hrun.allow (step_next create (.dispatch .CONNECTED true)
    ⟨rfl,nofun⟩) (allowed_dispatch connected .CONNECTED))).1

/-- It disconnects after the loop's look, and before it tells. -/
theorem connected_after_server_side_disconnect :
    ∃ (trace : List (RequestQueue × Event)) (s : Transport),Run Step create trace s ∧
      s.connectedAt=[.SERVER_SIDE_DISCONNECT] ∧ ¬Notified s := by
  have hended := run_connected.snoc (step_next create (.call .onDownchannelFinished) trivial)
  refine ⟨_,_,hended.snoc (step_next create (.dispatch .CONNECTED true) ⟨rfl,nofun⟩),rfl,fun h => ?_⟩
  exact absurd (h.connected .SERVER_SIDE_DISCONNECT (List.mem_cons_self)) (by decide)

end AlexaClientSDK.ConnectedNotifications
