import AlexaClientSDK.RouterTransports

/-!
# The active transport of an enabled router

An enabled router makes a new transport when it loses the active one, unless its status is `DISCONNECTED`, as
`setAVSGateway` leaves it until the next one is connected or is told by the server to go.
-/

namespace AlexaClientSDK.ActiveTransports

open LabelledRuns MessageRouter Router Connection RouterTransports

variable {τ : Type} [DecidableEq τ] {c : Connection τ} {s t : Router τ}

section

variable (c)

/-- An enabled router has an active transport, unless one could not be created, has failed for good, or is
about to be created. -/
def Kept : Prop :=
  c.isEnabled=true → c.troubled=false → c.changingGateway=0 → c.activeTransport≠none

/-- The active transport does not go unexpectedly while the status is `DISCONNECTED`. -/
def Replaced : Change τ → Prop
  | .onDisconnected transport reason _ => c.activeTransport=some transport → c.isEnabled=true → c.troubled=false →
      c.changingGateway=0 → reason≠.UNRECOVERABLE_ERROR → c.connectionStatus≠.DISCONNECTED
  | .enable _ | .disable | .setAVSGateway _ | .setAVSGatewayRest _ | .onConnected _ | .onServerSideDisconnect _ _ => True

def Allowed (s : Router τ) : Event τ → Prop
  | .connection change => Replaced s.connection change
  | .sendMessage _ | .dequeueOldestRequest | .dequeueSendableRequest | .waitForAcknowledgement _ | .doShutdown
  | .completeOldest | .clearQueue => True

theorem kept_createActiveTransportLocked (created : Option τ) : Kept (c.createActiveTransportLocked created) := by
  cases created with
  | none =>
    obtain ⟨released,connectionReason,notified,heq⟩ := createActiveTransportLocked_none c
    rw [heq]
    exact nofun
  | some => exact nofun

theorem kept_disable : Kept c.disable := by
  obtain ⟨released,connectionReason,notified,heq⟩ :=
    disconnectAllTransportsLocked_eq {c with isEnabled := false} .ACL_CLIENT_REQUEST
  unfold disable
  rw [heq]
  exact nofun

end

theorem kept_loseActiveTransport {reason : ChangedReason} (created : Option τ)
    (hallowed : c.isEnabled=true → c.troubled=false → c.changingGateway=0 →
      reason≠.UNRECOVERABLE_ERROR ∧ c.connectionStatus≠.DISCONNECTED) :
    Kept (c.loseActiveTransport reason created) := by
  have hlost : ¬(c.isEnabled=true ∧ reason≠.UNRECOVERABLE_ERROR) → ∀ d : Connection τ,d.isEnabled=c.isEnabled →
      d.troubled=c.troubled → d.changingGateway=c.changingGateway → Kept d := by
    intro hnot d henabled htroubled hchanging hd hd' hd''
    rw [henabled] at hd
    rw [htroubled] at hd'
    rw [hchanging] at hd''
    exact (hnot ⟨hd,(hallowed hd hd' hd'').1⟩).elim
  have hconnected : Kept (if c.isEnabled ∧ reason≠.UNRECOVERABLE_ERROR then
        ({c with activeTransport := none}.setConnectionStatusLocked .PENDING reason).createActiveTransportLocked created
      else if c.transports=[] then {c with activeTransport := none}.setConnectionStatusLocked .DISCONNECTED reason
      else {c with activeTransport := none}) := by
    split
    · exact kept_createActiveTransportLocked _ created
    next hnot =>
      split
      · obtain ⟨_,_,heq⟩ := setConnectionStatusLocked_eq {c with activeTransport := none} .DISCONNECTED reason
        rw [heq]
        exact hlost hnot _ rfl rfl rfl
      · exact hlost hnot _ rfl rfl rfl
  unfold loseActiveTransport
  dsimp only
  split
  · exact hconnected
  · exact hconnected
  next hstatus => exact fun henabled htroubled hchanging => ((hallowed henabled htroubled hchanging).2 hstatus).elim

theorem kept_next (h : Kept c) {change : Change τ} (hallowed : Replaced c change) : Kept (c.next change) := by
  cases change with
  | enable created =>
    unfold Connection.next enable
    dsimp only
    split
    · exact h
    · split
      · exact h
      · exact kept_createActiveTransportLocked _ created
  | disable => exact kept_disable c
  | setAVSGateway =>
    unfold Connection.next setAVSGateway
    dsimp only
    split
    · split
      · exact fun _ _ hchanging => absurd hchanging (Nat.succ_ne_zero _)
      next hdisabled => exact fun henabled => (hdisabled henabled).elim
    · exact h
  | setAVSGatewayRest created =>
    unfold Connection.next setAVSGatewayRest
    dsimp only
    split
    · exact kept_createActiveTransportLocked _ created
    next hdisabled => exact fun henabled => (hdisabled henabled).elim
  | onConnected =>
    unfold Connection.next onConnected
    dsimp only
    split
    · exact h
    · split
      · exact h
      · obtain ⟨_,_,heq⟩ := setConnectionStatusLocked_eq c .CONNECTED .ACL_CLIENT_REQUEST
        rw [heq]
        exact h
  | onDisconnected transport reason =>
    obtain ⟨released,heq⟩ := releaseTransport_eq c transport reason
    unfold Connection.next onDisconnected
    dsimp only
    rw [heq]
    split
    next hactive =>
      apply kept_loseActiveTransport
      intro henabled htroubled hchanging
      obtain ⟨htroubled,hreason⟩ := Bool.or_eq_false_iff.mp htroubled
      have hrecoverable := of_decide_eq_false hreason
      exact ⟨hrecoverable,hallowed hactive.symm henabled htroubled hchanging hrecoverable⟩
    · exact fun henabled htroubled hchanging => h henabled (Bool.or_eq_false_iff.mp htroubled).1 hchanging
  | onServerSideDisconnect transport created =>
    unfold Connection.next onServerSideDisconnect
    dsimp only
    split
    · exact kept_createActiveTransportLocked _ created
    · exact h

/-- The active transport is not replaced while the status is `DISCONNECTED`. -/
theorem replaced_of_kept {change : Change τ} (h : Kept (c.next change)) : Replaced c change := by
  cases change with
  | onDisconnected transport reason =>
    intro hactive henabled htroubled hchanging hreason hstatus
    obtain ⟨released,heq⟩ := releaseTransport_eq c transport reason
    unfold Connection.next onDisconnected at h
    dsimp only at h
    rw [heq] at h
    rw [hactive,if_pos rfl] at h
    rw [hstatus] at h
    refine h henabled ?_ hchanging rfl
    exact Bool.or_eq_false_iff.mpr ⟨htroubled,decide_eq_false hreason⟩
  | enable => exact trivial
  | disable => exact trivial
  | setAVSGateway => exact trivial
  | setAVSGatewayRest => exact trivial
  | onConnected => exact trivial
  | onServerSideDisconnect => exact trivial

/-- It is kept by a step if and only if the step is allowed. -/
theorem kept_iff {event : Event τ} (h : Kept s.connection) (hstep : Step s event t) :
    Kept t.connection ↔ Allowed s event := by
  obtain ⟨-,rfl⟩ := hstep
  cases event with
  | connection => exact ⟨replaced_of_kept,kept_next h⟩
  | sendMessage =>
    refine ⟨fun _ => trivial,fun _ => ?_⟩
    unfold Router.next sendMessage
    dsimp only
    split
    · exact h
    · split
      · exact h
      · exact h
  | dequeueOldestRequest | dequeueSendableRequest | waitForAcknowledgement | clearQueue => exact ⟨fun _ => trivial,fun _ => h⟩
  | doShutdown => exact ⟨fun _ => trivial,fun _ => kept_disable s.connection⟩
  | completeOldest =>
    refine ⟨fun _ => trivial,fun _ => ?_⟩
    unfold Router.next completeOldest
    dsimp only
    split
    · exact h
    · exact h

/-- The runs through states in which an enabled router has an active transport are those in which only what
is allowed happens. -/
theorem active_kept_iff {avsGateway : String} {trace : List (Event τ)} :
    Run (Keeping Step fun s => Kept s.connection) (create avsGateway) trace s ↔
      Run (Guarded Step Allowed) (create avsGateway) trace s :=
  Run.keeping_iff (fun s => Kept s.connection) nofun
    (fun _ _ _ h hstep hallowed => (kept_iff h hstep).mpr hallowed) fun _ _ _ h hstep => kept_iff h hstep

/-- The transport for a new gateway is disconnected before it is connected. -/
theorem gateway_change_loses_transport :
    ∃ (trace : List (Event ℕ)) (s : Router ℕ),Run Step (create "gateway") trace s ∧ s.connection.isEnabled=true ∧
      s.connection.troubled=false ∧ s.connection.changingGateway=0 ∧ s.connection.activeTransport=none ∧
      ¬Kept s.connection := by
  have hstart : Run Step (create "gateway" : Router ℕ) [] (create "gateway") := .refl
  have henabled := hstart.snoc (step_next (.connection (.enable (some 0))) (.inl rfl))
  have hconnected := henabled.snoc (step_next (.connection (.onConnected 0)) (.inl rfl))
  have hset := hconnected.snoc (step_next (.connection (.setAVSGateway "other")) (.inl rfl))
  have hshut := hset.snoc (step_next (.connection (.onDisconnected 0 .ACL_CLIENT_REQUEST none)) (.inl rfl))
  have hcreated := hshut.snoc (step_next (.connection (.setAVSGatewayRest (some 1))) ⟨.inl rfl,by decide⟩)
  exact ⟨_,_,hcreated.snoc (step_next (.connection (.onDisconnected 1 .INTERNAL_ERROR none)) (.inl rfl)),rfl,rfl,
    rfl,rfl,fun h => h rfl rfl rfl rfl⟩

end AlexaClientSDK.ActiveTransports
