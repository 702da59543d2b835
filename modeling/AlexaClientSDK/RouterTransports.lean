import AlexaClientSDK.LabelledRuns
import AlexaClientSDK.MessageRouter

/-!
# The transports of the message router

The active transport is one of those that are kept, and without one the connection status is `DISCONNECTED`, unless it
fails for good while older ones linger: the status is left as it is, also when the last one goes.
-/

namespace AlexaClientSDK.RouterTransports

open LabelledRuns MessageRouter Router Connection

variable {τ : Type} [DecidableEq τ] {c : Connection τ} {s t : Router τ}

omit [DecidableEq τ] in
theorem setConnectionStatusLocked_eq (c : Connection τ) (status : Status) (reason : ChangedReason) :
    ∃ connectionReason notified,c.setConnectionStatusLocked status reason =
      {c with
        connectionStatus := status
        connectionReason := connectionReason
        notified := notified} := by
  unfold setConnectionStatusLocked
  split
  · exact ⟨reason,c.notified++[(status,reason)],rfl⟩
  next hsame =>
    refine ⟨c.connectionReason,c.notified,?_⟩
    rw [not_ne_iff.mp hsame]

section

variable (c)

theorem safelyResetActiveTransportLocked_eq : ∃ released,c.safelyResetActiveTransportLocked =
      {c with
        activeTransport := none
        released := released} := by
  unfold safelyResetActiveTransportLocked
  split
  next hnone => exact ⟨c.released,by rw [←hnone]⟩
  next active _ =>
    split
    · exact ⟨c.released,rfl⟩
    · exact ⟨c.released++[active],rfl⟩

theorem createActiveTransportLocked_none : ∃ released connectionReason notified,c.createActiveTransportLocked none =
      {c with
        activeTransport := none
        released := released
        connectionStatus := .DISCONNECTED
        connectionReason := connectionReason
        notified := notified
        troubled := true} := by
  unfold createActiveTransportLocked
  obtain ⟨released,hreset⟩ := safelyResetActiveTransportLocked_eq c
  rw [hreset]
  obtain ⟨connectionReason,notified,hstatus⟩ := setConnectionStatusLocked_eq
    {c with
      activeTransport := none
      released := released} .DISCONNECTED .INTERNAL_ERROR
  rw [hstatus]
  exact ⟨released,connectionReason,notified,rfl⟩

theorem disconnectAllTransportsLocked_eq (reason : ChangedReason) :
    ∃ released connectionReason notified,c.disconnectAllTransportsLocked reason =
      {c with
        activeTransport := none
        transports := []
        released := released
        connectionStatus := .DISCONNECTED
        connectionReason := connectionReason
        notified := notified} := by
  unfold disconnectAllTransportsLocked
  obtain ⟨released,hreset⟩ := safelyResetActiveTransportLocked_eq c
  rw [hreset]
  obtain ⟨connectionReason,notified,hstatus⟩ := setConnectionStatusLocked_eq
    {c with
      activeTransport := none
      transports := []
      released := released++c.transports} .DISCONNECTED reason
  exact ⟨released++c.transports,connectionReason,notified,hstatus⟩

/-- A transport that is disconnected is not kept any more. -/
theorem releaseTransport_eq (transport : τ) (reason : ChangedReason) : ∃ released,c.releaseTransport transport reason =
      {c with
        transports := c.transports.erase transport
        released := released
        troubled := c.troubled || reason=.UNRECOVERABLE_ERROR} := by
  unfold releaseTransport
  dsimp only
  split
  · exact ⟨c.released++[transport],rfl⟩
  next hnot => exact ⟨c.released,by rw [List.erase_of_not_mem hnot]⟩

structure Reflects (c : Connection τ) : Prop where
  active : ∀ transport∈c.activeTransport,transport∈c.transports
  idle : c.activeTransport=none → c.transports=[] → c.connectionStatus=.DISCONNECTED

/-- The active one fails only as the last, or when `DISCONNECTED`. -/
def Recovering : Change τ → Prop
  | .onDisconnected transport reason _ => reason=.UNRECOVERABLE_ERROR → c.activeTransport=some transport →
      c.connectionStatus=.DISCONNECTED ∨ c.transports.erase transport=[]
  | .enable _ | .disable | .setAVSGateway _ | .setAVSGatewayRest _ | .onConnected _ | .onServerSideDisconnect _ _ => True

end

/-- What may happen. -/
def Allowed (s : Router τ) : Event τ → Prop
  | .connection change => Recovering s.connection change
  | .sendMessage _ | .dequeueOldestRequest | .dequeueSendableRequest | .waitForAcknowledgement _ | .doShutdown
  | .completeOldest | .clearQueue => True

/-- What holds of the connection as long as only what is allowed happens. -/
structure Inv (c : Connection τ) : Prop where
  active : ∀ transport∈c.activeTransport,transport∈c.transports
  /-- There is one only while the router is enabled. -/
  enabled : c.activeTransport.isSome=true → c.isEnabled=true
  disconnected : c.activeTransport=none → c.connectionStatus=.DISCONNECTED

omit [DecidableEq τ] in
theorem Inv.reflects (h : Inv c) : Reflects c := ⟨h.active,fun hnone _ => h.disconnected hnone⟩

omit [DecidableEq τ] in
theorem inv_disconnected (hnone : c.activeTransport=none) (hstatus : c.connectionStatus=.DISCONNECTED) : Inv c where
  active transport hactive := by
    rw [hnone] at hactive
    exact (Option.not_mem_none _ hactive).elim
  enabled hsome := by
    rw [hnone] at hsome
    cases hsome
  disconnected _ := hstatus

theorem inv_createActiveTransportLocked (henabled : c.isEnabled=true) (created : Option τ) :
    Inv (c.createActiveTransportLocked created) := by
  cases created with
  | none =>
    obtain ⟨released,connectionReason,notified,heq⟩ := createActiveTransportLocked_none c
    rw [heq]
    exact inv_disconnected rfl rfl
  | some =>
    refine ⟨fun active hactive => ?_,fun _ => henabled,nofun⟩
    obtain rfl := Option.mem_some.mp hactive
    exact List.mem_append_right _ List.mem_cons_self

theorem inv_disconnectAllTransportsLocked (c : Connection τ) (reason : ChangedReason) :
    Inv (c.disconnectAllTransportsLocked reason) := by
  obtain ⟨released,connectionReason,notified,heq⟩ := disconnectAllTransportsLocked_eq c reason
  rw [heq]
  exact inv_disconnected rfl rfl

omit [DecidableEq τ] in
theorem isEnabled_setConnectionStatusLocked (c : Connection τ) (status : Status) (reason : ChangedReason) :
    (c.setConnectionStatusLocked status reason).isEnabled=c.isEnabled := by
  obtain ⟨_,_,heq⟩ := setConnectionStatusLocked_eq c status reason
  rw [heq]

variable {reason : ChangedReason}

theorem inv_loseActiveTransport (henabled : c.isEnabled=true)
    (hallowed : reason=.UNRECOVERABLE_ERROR → c.connectionStatus=.DISCONNECTED ∨ c.transports=[])
    (created : Option τ) : Inv (c.loseActiveTransport reason created) := by
  have hcreated : Inv (({c with activeTransport := none}.setConnectionStatusLocked .PENDING reason).createActiveTransportLocked
      created) := by
    refine inv_createActiveTransportLocked ?_ created
    rw [isEnabled_setConnectionStatusLocked]
    exact henabled
  have hempty : Inv ({c with activeTransport := none}.setConnectionStatusLocked .DISCONNECTED reason) := by
    obtain ⟨_,_,heq⟩ := setConnectionStatusLocked_eq {c with activeTransport := none} .DISCONNECTED reason
    rw [heq]
    exact inv_disconnected rfl rfl
  have hconnected : c.connectionStatus≠.DISCONNECTED → Inv (if c.isEnabled ∧ reason≠.UNRECOVERABLE_ERROR then
        ({c with activeTransport := none}.setConnectionStatusLocked .PENDING reason).createActiveTransportLocked created
      else if c.transports=[] then {c with activeTransport := none}.setConnectionStatusLocked .DISCONNECTED reason
      else {c with activeTransport := none}) := by
    intro hstatus
    split
    · exact hcreated
    next hfinal =>
      have hreason : reason=.UNRECOVERABLE_ERROR := by
        by_contra hother
        exact hfinal ⟨henabled,hother⟩
      rw [if_pos ((hallowed hreason).resolve_left hstatus)]
      exact hempty
  unfold loseActiveTransport
  dsimp only
  split
  next hstatus => exact hconnected (by rw [hstatus]; decide)
  next hstatus => exact hconnected (by rw [hstatus]; decide)
  next hstatus => exact inv_disconnected rfl hstatus

theorem inv_onDisconnected (h : Inv c) {transport : τ} {created : Option τ}
    (hallowed : Recovering c (.onDisconnected transport reason created)) :
    Inv (c.onDisconnected transport reason created) := by
  obtain ⟨released,heq⟩ := releaseTransport_eq c transport reason
  unfold onDisconnected
  rw [heq]
  dsimp only
  split
  next hactive =>
    have henabled : c.isEnabled=true := h.enabled (by rw [←hactive]; rfl)
    apply inv_loseActiveTransport
    · exact henabled
    · exact fun hreason => hallowed hreason hactive.symm
  next hother =>
    refine ⟨fun active hactive => ?_,h.enabled,h.disconnected⟩
    refine (List.mem_erase_of_ne fun hsame => hother ?_).mpr (h.active active hactive)
    rw [←hsame]
    exact (Option.mem_def.mp hactive).symm

theorem inv_next (h : Inv c) {change : Change τ} (hallowed : Recovering c change) : Inv (c.next change) := by
  cases change with
  | enable created =>
    unfold Connection.next enable
    dsimp only
    split
    · exact h
    · split
      · exact h
      · refine inv_createActiveTransportLocked ?_ created
        rw [isEnabled_setConnectionStatusLocked]
  | disable => exact inv_disconnectAllTransportsLocked _ _
  | setAVSGateway avsGateway =>
    unfold Connection.next setAVSGateway
    dsimp only
    split
    · split
      · have hall := inv_disconnectAllTransportsLocked {c with avsGateway := avsGateway} .SERVER_ENDPOINT_CHANGED
        exact ⟨hall.active,hall.enabled,hall.disconnected⟩
      · exact ⟨h.active,h.enabled,h.disconnected⟩
    · exact h
  | setAVSGatewayRest created =>
    unfold Connection.next setAVSGatewayRest
    dsimp only
    split
    next henabled =>
      refine inv_createActiveTransportLocked ?_ created
      exact henabled
    · exact ⟨h.active,h.enabled,h.disconnected⟩
  | onConnected =>
    unfold Connection.next onConnected
    dsimp only
    split
    · exact h
    · split
      · exact h
      next hactive =>
        obtain ⟨_,_,heq⟩ := setConnectionStatusLocked_eq c .CONNECTED .ACL_CLIENT_REQUEST
        rw [heq]
        refine ⟨h.active,h.enabled,fun hnone => ?_⟩
        rw [←not_ne_iff.mp hactive] at hnone
        cases hnone
  | onDisconnected => exact inv_onDisconnected h hallowed
  | onServerSideDisconnect transport created =>
    unfold Connection.next onServerSideDisconnect
    dsimp only
    split
    next hactive =>
      refine inv_createActiveTransportLocked ?_ created
      rw [isEnabled_setConnectionStatusLocked]
      exact hactive.1
    · exact h

theorem inv_step {event : Event τ} (h : Inv s.connection) (hstep : Step s event t) (hallowed : Allowed s event) :
    Inv t.connection := by
  obtain ⟨-,rfl⟩ := hstep
  cases event with
  | connection => exact inv_next h hallowed
  | sendMessage =>
    unfold Router.next sendMessage
    dsimp only
    split
    · exact h
    · split
      · exact h
      · exact h
  | dequeueOldestRequest => exact h
  | dequeueSendableRequest => exact h
  | waitForAcknowledgement => exact h
  | doShutdown => exact inv_disconnectAllTransportsLocked _ _
  | completeOldest =>
    unfold Router.next completeOldest
    dsimp only
    split
    · exact h
    · exact h
  | clearQueue => exact h

/-- It goes wrong although only what is allowed happens. -/
def Breaks (s : Router τ) : Prop := ∃ more u,Run (Guarded Step Allowed) s more u ∧ ¬Reflects u.connection

/-- The router takes callbacks. -/
def Open (s : Router τ) : Prop := s.shutdown=.none ∨ s.shutdown=.disabling

/-- There is no active transport, and the last of the older ones goes. -/
theorem breaks_of_lingering :
    ∀ (transports : List τ) (s : Router τ),s.connection.transports=transports → transports≠[] →
      s.connection.activeTransport=none → s.connection.connectionStatus≠.DISCONNECTED → Open s → Breaks s := by
  intro transports
  induction transports with
  | nil => exact fun _ _ hne => (hne rfl).elim
  | cons transport rest ih =>
    intro s htransports _ hnone hstatus hopen
    have hstep : Step s (.connection (.onDisconnected transport .SUCCESS none)) _ := step_next _ hopen
    have hallowed : Allowed s (.connection (.onDisconnected transport .SUCCESS none)) := nofun
    have hstart : Run (Guarded Step Allowed) s [] s := .refl
    have hrun := hstart.allow hstep hallowed
    obtain ⟨released,heq⟩ := releaseTransport_eq s.connection transport .SUCCESS
    have hnext : s.connection.onDisconnected transport .SUCCESS none =
        {s.connection with
          transports := rest
          released := released
          troubled := s.connection.troubled || ChangedReason.SUCCESS=.UNRECOVERABLE_ERROR} := by
      unfold onDisconnected
      rw [heq]
      dsimp only
      rw [hnone,if_neg nofun,htransports,List.erase_cons_head]
    have hconnection : (s.next (.connection (.onDisconnected transport .SUCCESS none))).connection=_ := hnext
    rcases eq_or_ne rest [] with rfl|hmore
    · refine ⟨_,_,hrun,fun hreflects => hstatus ?_⟩
      rw [hconnection] at hreflects
      exact hreflects.idle hnone rfl
    · obtain ⟨more,u,hafter,hbroken⟩ := ih (s.next (.connection (.onDisconnected transport .SUCCESS none)))
        (by rw [hconnection]) hmore (by rw [hconnection]; exact hnone) (by rw [hconnection]; exact hstatus) hopen
      exact ⟨_,u,hrun.append hafter,hbroken⟩

theorem breaks_of_not_allowed {event : Event τ} (hstep : Step s event t) (hnot : ¬Allowed s event) : Breaks t := by
  obtain ⟨hpossible,rfl⟩ := hstep
  cases event with
  | connection change =>
    cases change with
    | onDisconnected transport reason created =>
      unfold Allowed Recovering at hnot
      push Not at hnot
      obtain ⟨rfl,hactive,hstatus,hmore⟩ := hnot
      obtain ⟨released,heq⟩ := releaseTransport_eq s.connection transport .UNRECOVERABLE_ERROR
      have hnext : s.connection.onDisconnected transport .UNRECOVERABLE_ERROR created =
          {s.connection with
            transports := s.connection.transports.erase transport
            activeTransport := none
            released := released
            troubled := s.connection.troubled || ChangedReason.UNRECOVERABLE_ERROR=.UNRECOVERABLE_ERROR} := by
        unfold onDisconnected
        rw [heq]
        rw [hactive,if_pos rfl]
        unfold loseActiveTransport
        dsimp only
        rw [if_neg (fun hboth => hboth.2 rfl),if_neg hmore]
        split
        · rfl
        · rfl
        next hdisconnected => exact (hstatus hdisconnected).elim
      have hconnection : (s.next (.connection (.onDisconnected transport .UNRECOVERABLE_ERROR created))).connection=_ := hnext
      exact breaks_of_lingering _ _ rfl (by rw [hconnection]; exact hmore) (by rw [hconnection])
        (by rw [hconnection]; exact hstatus) hpossible
    | enable | disable | setAVSGateway | setAVSGatewayRest | onConnected | onServerSideDisconnect => exact (hnot trivial).elim
  | sendMessage | dequeueOldestRequest | dequeueSendableRequest | waitForAcknowledgement | doShutdown
  | completeOldest | clearQueue => exact (hnot trivial).elim

/-- In every run of allowed steps the status reflects the transports; any other step that can follow breaks
this, then or after more allowed steps. -/
theorem status_reflects_transports {avsGateway : String} {trace : List (Event τ)}
    (run : Run (Guarded Step Allowed) (create avsGateway) trace s) :
    Reflects s.connection ∧ ∀ event t,Step s event t → ¬Allowed s event → Breaks t := by
  have hinv : Inv s.connection := run.invariant (fun s => Inv s.connection) (inv_disconnected rfl rfl)
    fun _ _ _ h hstep => inv_step h hstep.2 hstep.1
  exact ⟨hinv.reflects,fun _ _ => breaks_of_not_allowed⟩

/-- A router whose only transport is told by the server to go, and a second one. -/
theorem status_reflects_transports_two :
    Reflects (((create "gateway" : Router ℕ).next (.connection (.enable (some 0)))).next
      (.connection (.onServerSideDisconnect 0 (some 1)))).connection := by
  have hstart : Run (Guarded Step Allowed) (create "gateway" : Router ℕ) [] (create "gateway") := .refl
  have henabled := hstart.allow (step_next (.connection (.enable (some 0))) (.inl rfl)) trivial
  exact (status_reflects_transports
    (henabled.allow (step_next (.connection (.onServerSideDisconnect 0 (some 1))) (.inl rfl)) trivial)).1

/-- The second fails while the first lingers: `PENDING`. -/
theorem lingering_transport_leaves_status :
    ∃ (trace : List (Event ℕ)) (s : Router ℕ),Run Step (create "gateway") trace s ∧
      s.connection.activeTransport=none ∧ s.connection.transports=[] ∧
      s.connection.connectionStatus=.PENDING ∧ ¬Reflects s.connection := by
  have hstart : Run Step (create "gateway" : Router ℕ) [] (create "gateway") := .refl
  have henabled := hstart.snoc (step_next (.connection (.enable (some 0))) (.inl rfl))
  have htold := henabled.snoc (step_next (.connection (.onServerSideDisconnect 0 (some 1))) (.inl rfl))
  have hfailed := htold.snoc (step_next (.connection (.onDisconnected 1 .UNRECOVERABLE_ERROR none)) (.inl rfl))
  refine ⟨_,_,hfailed.snoc (step_next (.connection (.onDisconnected 0 .SUCCESS none)) (.inl rfl)),rfl,rfl,rfl,
    fun h => ?_⟩
  exact absurd (h.idle rfl rfl) (by decide)

end AlexaClientSDK.RouterTransports
