import AlexaClientSDK.LabelledRuns
import AlexaClientSDK.HTTP2Transport

/-!
# The states of a transport

The state of a transport goes through three stages once it is past connecting: it is post-connecting,
connected, and coming to an end, and it never goes back. The main loop is never ahead of the state.
-/

namespace AlexaClientSDK.TransportStates

open LabelledRuns HTTP2Transport Transport Transport
open MessageRouter (ChangedReason)
open MessageRequestQueue (MessageRequest RequestQueue)

variable {s t : Transport} {shared : RequestQueue}

/-- How far a transport has come in its life. -/
def stage : State → ℕ
  | .INIT | .AUTHORIZING | .CONNECTING | .WAITING_TO_RETRY_CONNECTING => 0
  | .POST_CONNECTING => 1
  | .CONNECTED => 2
  | .SERVER_SIDE_DISCONNECT | .DISCONNECTING | .SHUTDOWN => 3

/-- The stage of the state that the main loop deals with. -/
def loopStage : Loop → ℕ
  | .idle | .starting | .entering => 0
  | .dispatching state | .monitoring state | .sending state | .holding state _ | .pinging state => stage state
  | .closing | .done => 3

/-- The connection is coming to an end in those states. -/
theorem stage_eq_three {state : State} : stage state=3 ↔ state.ending=true := by cases state <;> decide

/-- `CONNECTED` has a stage of its own. -/
theorem stage_eq_two {state : State} : stage state=2 ↔ state=.CONNECTED := by cases state <;> decide

/-- No transition leads back to an earlier stage. -/
theorem stage_le_of_allowed {oldState newState : State} (h : allowed oldState newState=true) :
    stage oldState ≤ stage newState := by
  revert h
  cases newState <;> cases oldState <;> decide

/-- The state may have moved, and the main loop has not. -/
structure Moved (s t : Transport) : Prop where
  loop : t.loop=s.loop
  connectedAt : t.connectedAt=s.connectedAt
  handlers : t.handlers=s.handlers
  count : t.countOfUnfinishedMessageHandlers=s.countOfUnfinishedMessageHandlers
  stage : stage s.state ≤ stage t.state
  started : s.state≠.INIT → t.state≠.INIT

theorem Moved.trans {u : Transport} (h : Moved s t) (h' : Moved t u) : Moved s u :=
  ⟨h'.loop.trans h.loop,h'.connectedAt.trans h.connectedAt,h'.handlers.trans h.handlers,h'.count.trans h.count,
    Nat.le_trans h.stage h'.stage,fun hstarted => h'.started (h.started hstarted)⟩

section

variable (s)

section

variable (newState : State)

section

variable (changedReason : ChangedReason)

/-- A state is set where the transition is allowed, and otherwise nothing happens. -/
theorem setState_cases :
    (allowed s.state newState=true ∧ newState≠s.state ∧ (s.setState newState changedReason).state=newState ∧
      (s.setState newState changedReason).unfinishedAtShutdown =
        if newState=.SHUTDOWN then some s.unfinished else s.unfinishedAtShutdown) ∨
    ((newState=s.state ∨ allowed s.state newState=false) ∧ s.setState newState changedReason=s) := by
  unfold setState setStateLocked
  split
  next hsame => exact .inr ⟨.inl hsame,rfl⟩
  next hother =>
    split
    next hallowed => exact .inl ⟨hallowed,hother,rfl,rfl⟩
    next hrefused => exact .inr ⟨.inr (Bool.eq_false_iff.mpr hrefused),rfl⟩

/-- Every state may be left for `SHUTDOWN`. -/
theorem setState_shutdown : (s.setState .SHUTDOWN changedReason).state=.SHUTDOWN := by
  obtain ⟨-,-,hstate,-⟩|⟨hrefused,hsame⟩ := setState_cases s .SHUTDOWN changedReason
  · exact hstate
  · rw [hsame]
    exact hrefused.elim Eq.symm nofun

theorem Moved.refl : Moved s s := ⟨rfl,rfl,rfl,rfl,Nat.le_refl _,id⟩

/-- Setting a state only moves the transport on. -/
theorem moved_setState : Moved s (s.setState newState changedReason) := by
  unfold setState setStateLocked
  split
  · exact .refl s
  · split
    next hallowed =>
      refine ⟨rfl,rfl,rfl,rfl,stage_le_of_allowed hallowed,fun _ hinit => ?_⟩
      dsimp only at hinit
      rw [hinit] at hallowed
      cases hallowed
    · exact .refl s

/-- A transport stays within the stages of its two states. -/
theorem stage_setState_le {n : ℕ} (hstate : stage s.state≤n) (hnew : stage newState≤n) :
    stage (s.setState newState changedReason).state≤n := by
  obtain ⟨-,-,heq,-⟩|⟨-,hsame⟩ := setState_cases s newState changedReason
  · rw [heq]
    exact hnew
  · rw [hsame]
    exact hstate

theorem postConnected_setState : (s.setState newState changedReason).postConnected=s.postConnected := by
  unfold setState setStateLocked
  split
  · rfl
  · split
    · rfl
    · rfl

end

end

/-- A disconnected transport has moved on. -/
theorem moved_disconnect : Moved s s.disconnect := by
  unfold disconnect
  split
  · exact moved_setState s .DISCONNECTING .ACL_CLIENT_REQUEST
  · exact .refl s

/-- Every call moves the transport on. -/
theorem moved_call (call : Call) : Moved s (s.call call) := by
  cases call with
  | disconnect => exact moved_disconnect s
  | shutdown => exact (moved_setState s .SHUTDOWN .ACL_CLIENT_REQUEST).trans (moved_disconnect _)
  | sendMessage =>
    unfold call sendMessage
    dsimp only
    split <;> exact ⟨rfl,rfl,rfl,rfl,Nat.le_refl _,id⟩
  | onPostConnected =>
    have hset : Moved s {s with postConnected := true} := ⟨rfl,rfl,rfl,rfl,Nat.le_refl _,id⟩
    have hmoved := hset.trans (moved_setState _ .CONNECTED .SUCCESS)
    unfold call onPostConnected
    dsimp only
    split <;> first | exact hset | exact hmoved | exact .refl s
  | onUnRecoverablePostConnectFailure =>
    have hmoved := moved_setState s .SHUTDOWN .UNRECOVERABLE_ERROR
    unfold call onUnRecoverablePostConnectFailure
    dsimp only
    split <;> first | exact hmoved | exact .refl s
  | onAuthStateChange newState =>
    unfold call onAuthStateChange
    cases newState with
    | UNINITIALIZED | EXPIRED =>
      dsimp only
      split
      · exact moved_setState s .AUTHORIZING .INVALID_AUTH
      · exact .refl s
    | REFRESHED =>
      dsimp only
      split
      · exact moved_setState s .CONNECTING .SUCCESS
      · exact .refl s
    | UNRECOVERABLE_ERROR => exact moved_setState s .SHUTDOWN .UNRECOVERABLE_ERROR
  | onWakeConnectionRetry =>
    unfold call onWakeConnectionRetry
    dsimp only
    split
    · exact .refl s
    · exact moved_setState s .CONNECTING .ACL_CLIENT_REQUEST
  | onDownchannelConnected => exact moved_setState s .POST_CONNECTING .SUCCESS
  | onDownchannelFinished =>
    have hretry := moved_setState s .WAITING_TO_RETRY_CONNECTING .NONE
    have hended := moved_setState s .SERVER_SIDE_DISCONNECT .SERVER_SIDE_DISCONNECT
    unfold call onDownchannelFinished
    dsimp only
    split <;> first | exact hretry | exact hended | exact .refl s
  | onPingRequestAcknowledged =>
    have hset : Moved s {s with pingHandler := false} := ⟨rfl,rfl,rfl,rfl,Nat.le_refl _,id⟩
    unfold call onPingRequestAcknowledged
    dsimp only
    split
    · exact hset
    · exact hset.trans (moved_setState _ .SERVER_SIDE_DISCONNECT .SERVER_SIDE_DISCONNECT)
  | onPingTimeout =>
    have hset : Moved s {s with pingHandler := false} := ⟨rfl,rfl,rfl,rfl,Nat.le_refl _,id⟩
    exact hset.trans (moved_setState _ .SHUTDOWN .PING_TIMEDOUT)

end

/-- What holds of the main loop in every run. -/
structure Following (s : Transport) : Prop where
  stage : loopStage s.loop ≤ stage s.state
  /-- The state is not `INIT` any more when there is a thread. -/
  started : s.loop≠.idle → s.state≠.INIT
  initial : s.loop≠.dispatching .INIT
  sending : ∀ whileState,s.loop=.sending whileState ∨ (∃ request,s.loop=.holding whileState request) ∨
    s.loop=.pinging whileState → whileState=.POST_CONNECTING ∨ whileState=.CONNECTED

/-- The loop of a new transport has not begun. -/
theorem following_create : Following create where
  stage := Nat.le_refl 0
  started hstarted := (hstarted rfl).elim
  initial hinit := by cases hinit
  sending _ hsending := by
    obtain h|⟨_,h⟩|h := hsending <;> cases h

/-- The main loop does not send. -/
def Quiet : Loop → Prop
  | .idle | .starting | .entering | .dispatching _ | .monitoring _ | .closing | .done => True
  | .sending _ | .holding _ _ | .pinging _ => False

/-- A loop that sends nothing follows. -/
theorem following_quiet (hquiet : Quiet s.loop) (hstage : loopStage s.loop ≤ stage s.state)
    (hstarted : s.state≠.INIT) (hinitial : s.loop≠.dispatching .INIT) : Following s where
  stage := hstage
  started _ := hstarted
  initial := hinitial
  sending _ hsending := by
    obtain h|⟨_,h⟩|h := hsending
    · rw [h] at hquiet
      exact hquiet.elim
    · rw [h] at hquiet
      exact hquiet.elim
    · rw [h] at hquiet
      exact hquiet.elim

/-- A loop that sends requests follows. -/
theorem following_sending {whileState : State} (hloop : s.loop=.sending whileState ∨
      (∃ request,s.loop=.holding whileState request) ∨ s.loop=.pinging whileState)
    (hwhile : whileState=.POST_CONNECTING ∨ whileState=.CONNECTED) (hstage : stage whileState ≤ stage s.state)
    (hstarted : s.state≠.INIT) : Following s := by
  have hsame : ∀ other,(s.loop=.sending other ∨ (∃ request,s.loop=.holding other request) ∨ s.loop=.pinging other) →
      other=whileState := by
    intro other hother
    obtain h|⟨_,h⟩|h := hloop <;> rw [h] at hother <;> obtain h'|⟨_,h'⟩|h' := hother <;> cases h' <;> rfl
  refine ⟨?_,fun _ => hstarted,?_,fun other hother => hsame other hother ▸ hwhile⟩
  · obtain h|⟨_,h⟩|h := hloop <;> rw [h] <;> exact hstage
  · obtain h|⟨_,h⟩|h := hloop <;> rw [h] <;> exact nofun

/-- The loop follows while the transport moves on. -/
theorem Following.moved (h : Following s) (hmoved : Moved s t) : Following t where
  stage := by
    rw [hmoved.loop]
    exact Nat.le_trans h.stage hmoved.stage
  started hloop := hmoved.started (h.started (hmoved.loop ▸ hloop))
  initial := hmoved.loop ▸ h.initial
  sending := hmoved.loop ▸ h.sending

/-- The main loop takes the state for the next one. -/
theorem following_dispatching (hstarted : s.state≠.INIT) : Following s.dispatching :=
  following_quiet trivial (Nat.le_refl _) hstarted fun hinit => hstarted (Loop.dispatching.inj hinit)

/-- The loop begins with the first state. -/
theorem following_connect (h : Following s) : Following s.connect.1 := by
  unfold connect
  dsimp only
  split
  next hchanged =>
    refine following_quiet trivial (Nat.zero_le _) ?_ nofun
    unfold setStateLocked at hchanged ⊢
    split
    next hsame =>
      rw [←hsame]
      decide
    next hother =>
      rw [if_neg hother] at hchanged
      split
      · exact (by decide : State.AUTHORIZING≠.INIT)
      next hrefused =>
        rw [if_neg hrefused] at hchanged
        cases hchanged
  · exact h

/-- The loop goes on with the state that it finds. -/
theorem following_dispatch (h : Following s) {nextState : State} (hloop : s.loop=.dispatching nextState)
    (downchannel : Bool) : Following (s.dispatch shared downchannel nextState).1 := by
  have hstarted : s.state≠.INIT := h.started (by rw [hloop]; exact fun hidle => by cases hidle)
  have hstage : stage nextState ≤ stage s.state := by
    have hbehind := h.stage
    rw [hloop] at hbehind
    exact hbehind
  cases nextState with
  | INIT => exact (h.initial hloop).elim
  | AUTHORIZING | WAITING_TO_RETRY_CONNECTING => exact following_quiet trivial (Nat.zero_le _) hstarted nofun
  | CONNECTING =>
    unfold dispatch handleConnecting
    dsimp only
    split
    · exact following_quiet trivial (Nat.zero_le _) hstarted nofun
    · exact following_dispatching ((moved_setState s .WAITING_TO_RETRY_CONNECTING .INTERNAL_ERROR).started hstarted)
  | POST_CONNECTING =>
    unfold dispatch handlePostConnecting
    dsimp only
    split
    · have hmoved := moved_setState s .CONNECTED .SUCCESS
      refine following_quiet trivial ?_ (hmoved.started hstarted) nofun
      dsimp only
      obtain ⟨-,-,hstate,-⟩|⟨hrefused,hsame⟩ := setState_cases s .CONNECTED .SUCCESS
      · rw [hstate]
        exact Nat.le_refl _
      · rw [hsame]
        obtain hconnected|hrefused := hrefused
        · rw [←hconnected]
          exact Nat.le_refl _
        · revert hstage hrefused
          cases s.state <;> decide
    · exact following_sending (.inl rfl) (.inl rfl) hstage hstarted
  | CONNECTED => exact following_sending (.inl rfl) (.inr rfl) hstage hstarted
  | SERVER_SIDE_DISCONNECT | SHUTDOWN => exact following_quiet trivial hstage hstarted fun hinit => by cases hinit
  | DISCONNECTING => exact following_dispatching ((moved_setState s .SHUTDOWN .SUCCESS).started hstarted)

/-- A transport with a loop under way has left `INIT`. -/
theorem Following.running (h : Following s) {loop : Loop} (hloop : s.loop=loop) (hidle : loop≠.idle) : s.state≠.INIT :=
  h.started (hloop ▸ hidle)

/-- The loop follows the state in every step. -/
theorem following_step {label : RequestQueue × Event} (h : Following s) (hstep : Step s label t) : Following t := by
  obtain ⟨shared,event⟩ := label
  obtain ⟨hpossible,rfl⟩ := hstep
  cases event with
  | call call => exact h.moved (moved_call s call)
  | connect => exact following_connect h
  | acknowledge | finish | timeOut => exact ⟨h.stage,h.started,h.initial,h.sending⟩
  | start =>
    have hstarted : s.state≠.INIT := h.running hpossible nofun
    unfold next start
    dsimp only
    split
    · exact following_quiet trivial (Nat.zero_le _) hstarted nofun
    · exact following_quiet trivial (Nat.zero_le _) ((moved_setState s .SHUTDOWN .INTERNAL_ERROR).started hstarted)
        nofun
  | enter => exact following_dispatching (h.running hpossible nofun)
  | dispatch nextState downchannel => exact following_dispatch h hpossible.1 downchannel
  | wake =>
    have hstarted : s.state≠.INIT := h.running hpossible.1 nofun
    unfold next wake
    dsimp only
    split
    · exact following_dispatching ((moved_setState s .CONNECTING .NONE).started hstarted)
    · exact following_dispatching hstarted
  | take whileState =>
    obtain ⟨hloop,hstate,-⟩ := hpossible
    have hstarted : s.state≠.INIT := h.running hloop nofun
    have hstage : stage whileState ≤ stage s.state := Nat.le_of_eq (congrArg stage hstate.symm)
    have hwhile := h.sending whileState (.inl hloop)
    unfold next take
    dsimp only
    cases (s.queueFor shared whileState).dequeueSendableRequest.2 with
    | none =>
      split <;> exact following_sending (.inl rfl) hwhile hstage hstarted
    | some request =>
      split <;> exact following_sending (.inr (.inl ⟨request,rfl⟩)) hwhile hstage hstarted
  | send whileState request =>
    have hloop : s.loop=.holding whileState request := hpossible
    have hstarted : s.state≠.INIT := h.running hloop nofun
    have hwhile := h.sending whileState (.inr (.inl ⟨request,hloop⟩))
    have hstage := h.stage
    rw [hloop] at hstage
    unfold next send
    dsimp only
    split <;> exact following_sending (.inl rfl) hwhile hstage hstarted
  | inactive whileState =>
    obtain ⟨hloop,hstate,-⟩ := hpossible
    have hstarted : s.state≠.INIT := h.running hloop nofun
    exact following_sending (.inr (.inr rfl)) (h.sending whileState (.inl hloop))
      (Nat.le_of_eq (congrArg stage hstate.symm)) hstarted
  | ping whileState =>
    have hloop : s.loop=.pinging whileState := hpossible
    have hstarted : s.state≠.INIT := h.running hloop nofun
    have hwhile := h.sending whileState (.inr (.inr hloop))
    have hstage := h.stage
    rw [hloop] at hstage
    have hsending : Following {s with loop := .sending whileState} := following_sending (.inl rfl) hwhile hstage hstarted
    unfold next ping
    dsimp only
    split
    · exact following_sending (.inl rfl) hwhile hstage hstarted
    · exact hsending.moved (moved_setState _ .SHUTDOWN .PING_TIMEDOUT)
  | leave => exact following_dispatching (h.running hpossible.1 nofun)
  | close =>
    have hloop : s.loop=.closing := hpossible
    have hstage := h.stage
    rw [hloop] at hstage
    exact following_quiet trivial hstage (h.running hloop nofun) fun hinit => by cases hinit

end AlexaClientSDK.TransportStates
