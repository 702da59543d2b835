import AlexaClientSDK.TransportStates

/-!
# Serialized requests

A serialized request is to be sent only when the one before it is acknowledged. A flag of the queue that the transports
share says whether one waits for that. The transport that sends it sets the flag afterwards, and every transport that
shuts down clears it.
-/

namespace AlexaClientSDK.SerializedRequests

open Option List LabelledRuns HTTP2Transport Transport TransportStates Transport
open MessageRequestQueue (MessageRequest RequestQueue dequeueSendableRequest_split)

variable {τ : Type} [DecidableEq τ]

structure System (τ : Type) where
  shared : RequestQueue
  transports : τ → Transport
  /-- The requests that were put into the queue, oldest first. -/
  enqueued : List MessageRequest
  /-- The requests that transports have taken from it, oldest first. -/
  dequeued : List MessageRequest

/-- An empty queue and new transports. -/
def create : System τ where
  shared := MessageRequestQueue.create
  transports := fun _ => HTTP2Transport.create
  enqueued := []
  dequeued := []

inductive Happening (τ : Type)
  /-- A request is put into the queue. -/
  | enqueue (request : MessageRequest)
  | transport (transport : τ) (event : Event)

/-- The requests that a transport takes from the queue. -/
def taken (shared : RequestQueue) : Event → List MessageRequest
  | .timeOut => shared.dequeueOldestRequest.2.toList
  | .take whileState => if whileState=.POST_CONNECTING then [] else shared.dequeueSendableRequest.2.toList
  | .call _ | .connect | .acknowledge _ _ | .finish _ _ | .start _ | .enter | .dispatch _ _ | .wake _ | .send _ _ _
  | .inactive _ | .ping _ _ | .leave _ | .close => []

def CanHappen (s : System τ) : Happening τ → Prop
  | .enqueue _ => True
  | .transport transport event => Possible (s.transports transport) s.shared event

instance (s : System τ) : (happening : Happening τ) → Decidable (CanHappen s happening)
  | .enqueue _ => inferInstanceAs (Decidable True)
  | .transport transport event => inferInstanceAs (Decidable (Possible (s.transports transport) s.shared event))

def System.next (s : System τ) : Happening τ → System τ
  | .enqueue request =>
    {s with
      shared := s.shared.enqueueRequest request
      enqueued := s.enqueued++[request]}
  | .transport transport event =>
    let result := (s.transports transport).next s.shared event
    {s with
      shared := result.2
      transports := Function.update s.transports transport result.1
      dequeued := s.dequeued++taken s.shared event}

def Step (s : System τ) (happening : Happening τ) (t : System τ) : Prop := CanHappen s happening ∧ t=s.next happening

variable {s : System τ} {shared : RequestQueue} {p q : Transport}

/-- A serialized request waits for its acknowledgement. -/
def Outstanding (p : Transport) (index : ℕ) : Prop :=
  ∃ handler,p.handlers[index]?=some handler ∧ handler.request.isSerialized=true ∧ handler.acknowledged=false

/-- The transport has taken a serialized request, and has not sent it yet. -/
def Holds (p : Transport) : Prop := ∃ whileState request,p.loop=.holding whileState request ∧ request.isSerialized=true

/-- At most one serialized request was sent and not acknowledged. -/
def OneAtATime (s : System τ) : Prop :=
  ∀ transport index other otherIndex,Outstanding (s.transports transport) index →
    Outstanding (s.transports other) otherIndex → transport=other ∧ index=otherIndex

/-- Serialized requests are taken in the order in which they were put into the queue. -/
def InOrder (s : System τ) : Prop :=
  (s.dequeued++s.shared.queue).filter MessageRequest.isSerialized=s.enqueued.filter MessageRequest.isSerialized

section

variable (shared)

/-- The flag holds back serialized requests only. -/
def Unheld : Prop :=
  shared.dequeueSendableRequest.2 =
    if shared.isWaitingForAcknowledgement then (shared.queue.filter fun request => !request.isSerialized).head?
    else shared.queue.head?

/-- Taken when none is unsent; no shutdown before an acknowledgement. -/
def Allowed (s : System τ) : Happening τ → Prop
  | .transport transport (.take whileState) =>
    ∀ request∈((s.transports transport).queueFor s.shared whileState).dequeueSendableRequest.2,
      request.isSerialized=true → (∀ other,¬Holds (s.transports other)) ∧
        (whileState=.POST_CONNECTING → ∀ other index,¬Outstanding (s.transports other) index)
  | .transport _ (.dispatch .SHUTDOWN _) => ∀ other index,¬Outstanding (s.transports other) index
  | .transport _ _ | .enqueue _ => True

/-- The flag holds back serialized requests only, whatever the queue is. -/
theorem unheld : Unheld shared := by
  unfold Unheld RequestQueue.dequeueSendableRequest
  rw [List.head?_filter]
  split
  next hwaiting =>
    have hsendable : shared.sendable=fun request => !request.isSerialized := by
      funext request
      unfold RequestQueue.sendable
      rw [hwaiting]
      rfl
    rw [hsendable]
  next hfree =>
    have hsendable : shared.sendable=fun _ => true := by
      funext request
      unfold RequestQueue.sendable
      rw [Bool.eq_false_iff.mpr hfree]
      rfl
    rw [hsendable]
    cases shared.queue with
    | nil => rfl
    | cons => rfl

theorem inOrder_dequeueOldestRequest :
    shared.dequeueOldestRequest.2.toList++shared.dequeueOldestRequest.1.queue=shared.queue := by
  unfold RequestQueue.dequeueOldestRequest
  split
  next hqueue => exact hqueue.symm ▸ rfl
  next hqueue => exact hqueue.symm

theorem inOrder_dequeueSendableRequest :
    (shared.dequeueSendableRequest.2.toList++shared.dequeueSendableRequest.1.queue).filter MessageRequest.isSerialized =
      shared.queue.filter MessageRequest.isSerialized := by
  obtain hnone|⟨request,hsome⟩ := eq_none_or_eq_some shared.dequeueSendableRequest.2
  · rw [hnone]
    have hnot := List.find?_eq_none.mp hnone
    change (shared.queue.eraseP shared.sendable).filter _=_
    rw [eraseP_of_forall_not hnot]
  · obtain ⟨held,rest,hqueue,hafter,hsendable,hheld⟩ := dequeueSendableRequest_split hsome
    rw [hsome,hafter,hqueue]
    cases hserialized : request.isSerialized with
    | true =>
      -- The flag is not set, so that nothing is held back.
      have hfree : shared.isWaitingForAcknowledgement=false := by
        unfold RequestQueue.sendable at hsendable
        rw [hserialized,Bool.not_true,Bool.or_false] at hsendable
        exact Bool.not_eq_true' _ |>.mp hsendable
      have hempty : held=[] := by
        refine eq_nil_iff_forall_not_mem.mpr fun waiting hmem => ?_
        have hwaiting := hheld waiting hmem
        unfold RequestQueue.sendable at hwaiting
        rw [hfree] at hwaiting
        cases hwaiting
      rw [hempty]
      rfl
    | false =>
      have hskip : ¬request.isSerialized=true := by
        rw [hserialized]
        exact Bool.false_ne_true
      rw [toList_some,singleton_append,filter_cons_of_neg hskip,filter_append,filter_append,filter_cons_of_neg hskip]

end

variable {event : Event}

theorem queue_next (htime : event≠.timeOut) (htake : ∀ whileState,event≠.take whileState) :
    (p.next shared event).2.queue=shared.queue ∧ taken shared event=[] := by
  cases event with
  | timeOut => exact (htime rfl).elim
  | take whileState => exact (htake whileState rfl).elim
  | acknowledge =>
    unfold Transport.next onMessageRequestAcknowledged
    dsimp only
    split
    · exact ⟨rfl,rfl⟩
    · exact ⟨rfl,rfl⟩
  | send =>
    unfold Transport.next send onMessageRequestSent
    dsimp only
    split
    · split
      · exact ⟨rfl,rfl⟩
      · exact ⟨rfl,rfl⟩
    · exact ⟨rfl,rfl⟩
  | dispatch nextState => cases nextState <;> exact ⟨rfl,rfl⟩
  | call | connect | finish | start | enter | wake | inactive | ping | leave | close => exact ⟨rfl,rfl⟩

theorem inOrder_next (p : Transport) (shared : RequestQueue) (event : Event) :
    (taken shared event++(p.next shared event).2.queue).filter MessageRequest.isSerialized =
      shared.queue.filter MessageRequest.isSerialized := by
  by_cases htime : event=.timeOut
  · subst htime
    exact congrArg (List.filter MessageRequest.isSerialized) (inOrder_dequeueOldestRequest shared)
  · by_cases htake : ∃ whileState,event=.take whileState
    · obtain ⟨whileState,rfl⟩ := htake
      unfold taken Transport.next Transport.take queueFor
      dsimp only
      split
      · rfl
      · exact inOrder_dequeueSendableRequest shared
    · obtain ⟨hqueue,htaken⟩ := @queue_next shared p event htime fun whileState heq => htake ⟨whileState,heq⟩
      rw [hqueue,htaken]
      rfl

variable {u : System τ} {happening : Happening τ}

theorem inOrder_step (h : InOrder s) (hstep : Step s happening u) : InOrder u := by
  obtain ⟨-,rfl⟩ := hstep
  unfold InOrder at h ⊢
  cases happening with
  | enqueue =>
    unfold System.next RequestQueue.enqueueRequest
    rw [←append_assoc,filter_append,h,filter_append]
  | transport =>
    unfold System.next
    rw [append_assoc,filter_append,inOrder_next,←filter_append]
    exact h

/-- Nothing is done about serialized requests. -/
structure Idle (p : Transport) (shared : RequestQueue) (next : Transport × RequestQueue) : Prop where
  outstanding : ∀ index,Outstanding next.1 index → Outstanding p index
  holds : Holds next.1 → Holds p
  waiting : next.2.isWaitingForAcknowledgement=shared.isWaitingForAcknowledgement

/-- The main loop has a request that it has not sent. -/
def isHolding : Loop → Bool
  | .holding _ _ => true
  | .idle | .starting | .entering | .dispatching _ | .monitoring _ | .sending _ | .pinging _ | .closing | .done => false

theorem not_holds (hloop : isHolding p.loop=false) : ¬Holds p := by
  rintro ⟨whileState,request,hholding,-⟩
  rw [hholding] at hloop
  cases hloop

variable {index : ℕ}

theorem outstanding_same (hhandlers : q.handlers=p.handlers) (hout : Outstanding q index) : Outstanding p index := by
  unfold Outstanding at hout ⊢
  rw [←hhandlers]
  exact hout

variable {next : Transport × RequestQueue}

theorem idle_of_loop (hhandlers : next.1.handlers=p.handlers) (hloop : isHolding next.1.loop=false)
    (hwaiting : next.2.isWaitingForAcknowledgement=shared.isWaitingForAcknowledgement) : Idle p shared next where
  outstanding _ := outstanding_same hhandlers
  holds hholds := (not_holds hloop hholds).elim
  waiting := hwaiting

theorem idle_of_same (hhandlers : next.1.handlers=p.handlers) (hloop : next.1.loop=p.loop)
    (hwaiting : next.2.isWaitingForAcknowledgement=shared.isWaitingForAcknowledgement) : Idle p shared next where
  outstanding _ := outstanding_same hhandlers
  holds hholds := by
    unfold Holds at hholds ⊢
    rw [←hloop]
    exact hholds
  waiting := hwaiting

/-- A handler that changes waits only if it waited. -/
theorem outstanding_set {other : ℕ} {handler changed : Handler} (hmem : p.handlers[index]?=some handler)
    (hhandlers : q.handlers=p.handlers.set index changed)
    (hchanged : changed.request.isSerialized=true → changed.acknowledged=false →
      handler.request.isSerialized=true ∧ handler.acknowledged=false)
    (hout : Outstanding q other) : Outstanding p other := by
  obtain ⟨found,hfound,hserialized,hwaits⟩ := hout
  rw [hhandlers] at hfound
  rcases eq_or_ne index other with rfl|hne
  · have hlt := (List.getElem?_eq_some_iff.mp hmem).1
    rw [List.getElem?_set_self hlt] at hfound
    obtain rfl := some.inj hfound
    obtain ⟨hserialized,hwaits⟩ := hchanged hserialized hwaits
    exact ⟨handler,hmem,hserialized,hwaits⟩
  · rw [List.getElem?_set_ne hne] at hfound
    exact ⟨found,hfound,hserialized,hwaits⟩

/-- What may change what is known of serialized requests. -/
def touches : Event → Bool
  | .acknowledge _ _ | .take _ | .send _ _ true | .dispatch .SHUTDOWN _ => true
  | .call _ | .connect | .finish _ _ | .start _ | .enter | .dispatch _ _ | .timeOut | .wake _ | .send _ _ false
  | .inactive _ | .ping _ _ | .leave _ | .close => false

theorem idle_next (hpossible : Possible p shared event) (hother : touches event=false) :
    Idle p shared (p.next shared event) := by
  cases event with
  | call call =>
    have hmoved := moved_call p call
    exact idle_of_same hmoved.handlers hmoved.loop rfl
  | connect =>
    have hmoved := moved_setState p .AUTHORIZING .ACL_CLIENT_REQUEST
    unfold Transport.next connect
    dsimp only
    split
    · exact idle_of_loop hmoved.handlers rfl rfl
    · exact idle_of_same rfl rfl rfl
  | finish index handler =>
    have hset : (p.onMessageRequestFinished index handler).handlers=
        p.handlers.set index {handler with finished := true} := rfl
    exact ⟨fun _ hout => outstanding_set hpossible.1 hset (fun hserialized hwaits => ⟨hserialized,hwaits⟩) hout,id,rfl⟩
  | start =>
    have hmoved := moved_setState p .SHUTDOWN .INTERNAL_ERROR
    unfold Transport.next start
    dsimp only
    split
    · exact idle_of_loop rfl rfl rfl
    · exact idle_of_loop hmoved.handlers rfl rfl
  | enter | inactive | leave | close => exact idle_of_loop rfl rfl rfl
  | dispatch nextState =>
    cases nextState with
    | INIT => exact idle_of_loop (moved_setState p .SHUTDOWN .INTERNAL_ERROR).handlers rfl rfl
    | AUTHORIZING | WAITING_TO_RETRY_CONNECTING | CONNECTED | SERVER_SIDE_DISCONNECT => exact idle_of_loop rfl rfl rfl
    | CONNECTING =>
      have hmoved := moved_setState p .WAITING_TO_RETRY_CONNECTING .INTERNAL_ERROR
      unfold Transport.next dispatch handleConnecting
      dsimp only
      split
      · exact idle_of_loop rfl rfl rfl
      · exact idle_of_loop hmoved.handlers rfl rfl
    | POST_CONNECTING =>
      have hmoved := moved_setState p .CONNECTED .SUCCESS
      unfold Transport.next dispatch handlePostConnecting
      dsimp only
      split
      · exact idle_of_loop hmoved.handlers rfl rfl
      · exact idle_of_loop rfl rfl rfl
    | DISCONNECTING => exact idle_of_loop (moved_setState p .SHUTDOWN .SUCCESS).handlers rfl rfl
    | SHUTDOWN => cases hother
  | timeOut =>
    have hwaiting : shared.dequeueOldestRequest.1.isWaitingForAcknowledgement=shared.isWaitingForAcknowledgement := by
      unfold RequestQueue.dequeueOldestRequest
      split
      · rfl
      · rfl
    exact idle_of_same rfl rfl hwaiting
  | wake =>
    have hmoved := moved_setState p .CONNECTING .NONE
    unfold Transport.next wake
    dsimp only
    split
    · exact idle_of_loop hmoved.handlers rfl rfl
    · exact idle_of_loop rfl rfl rfl
  | send whileState request token =>
    cases token with
    | true => cases hother
    | false => exact idle_of_loop rfl rfl rfl
  | ping whileState created =>
    cases created with
    | true => exact idle_of_loop rfl rfl rfl
    | false =>
      have hmoved := moved_setState {p with loop := .sending whileState} .SHUTDOWN .PING_TIMEDOUT
      have hloop : isHolding (p.ping whileState false).loop=false := by
        have hsending : (p.ping whileState false).loop=.sending whileState := hmoved.loop
        rw [hsending]
        rfl
      exact idle_of_loop hmoved.handlers hloop rfl
  | acknowledge => cases hother
  | take => cases hother

/-- What holds in every run in which only what is allowed happens. -/
structure Inv (s : System τ) : Prop where
  one : OneAtATime s
  holder : ∀ transport other,Holds (s.transports transport) → Holds (s.transports other) → transport=other
  apart : ∀ transport other index,Holds (s.transports transport) → ¬Outstanding (s.transports other) index
  waiting : ∀ transport index,Outstanding (s.transports transport) index → s.shared.isWaitingForAcknowledgement=true

omit [DecidableEq τ] in
theorem inv_create : Inv (create : System τ) := by
  have hnone : ∀ index,¬Outstanding HTTP2Transport.create index := by
    rintro index ⟨handler,hmem,-⟩
    cases hmem
  have hfree : ¬Holds HTTP2Transport.create := by
    rintro ⟨whileState,request,hholding,-⟩
    cases hholding
  exact ⟨fun _ index _ _ hout => (hnone index hout).elim,fun _ _ hholds => (hfree hholds).elim,
    fun _ _ index _ => hnone index,fun _ index hout => (hnone index hout).elim⟩

omit [DecidableEq τ] in
/-- No serialized request waits, and none is held but by one transport. -/
theorem inv_of_none (hnone : ∀ other index,¬Outstanding (u.transports other) index)
    (hholder : ∀ transport other,Holds (u.transports transport) → Holds (u.transports other) → transport=other) :
    Inv u where
  one _ index _ _ hout := (hnone _ index hout).elim
  holder := hholder
  apart _ other index _ := hnone other index
  waiting _ index hout := (hnone _ index hout).elim

theorem transports_self (s : System τ) (transport : τ) (event : Event) :
    (s.next (.transport transport event)).transports transport=((s.transports transport).next s.shared event).1 :=
  Function.update_self _ _ _

variable {transport : τ}

theorem transports_ne (s : System τ) {other : τ} (hne : other≠transport) (event : Event) :
    (s.next (.transport transport event)).transports other=s.transports other :=
  Function.update_of_ne hne _ _

theorem of_next {P : Transport → Prop} {other : τ}
    (hstep : P ((s.transports transport).next s.shared event).1 → P (s.transports transport))
    (h : P ((s.next (.transport transport event)).transports other)) : P (s.transports other) := by
  rcases eq_or_ne other transport with rfl|hne
  · rw [transports_self] at h
    exact hstep h
  · rw [transports_ne s hne] at h
    exact h

/-- A step that does nothing about serialized requests keeps it. -/
theorem Inv.idle (h : Inv s)
    (hidle : Idle (s.transports transport) s.shared ((s.transports transport).next s.shared event)) :
    Inv (s.next (.transport transport event)) := by
  have hout : ∀ other index,Outstanding ((s.next (.transport transport event)).transports other) index →
      Outstanding (s.transports other) index := fun other index =>
    of_next (P := fun p => Outstanding p index) (hidle.outstanding index)
  have hholds : ∀ other,Holds ((s.next (.transport transport event)).transports other) → Holds (s.transports other) :=
    fun other => of_next hidle.holds
  refine ⟨fun first index second other hfirst hsecond => h.one first index second other (hout _ _ hfirst) (hout _ _ hsecond),
    fun first second hfirst hsecond => h.holder first second (hholds _ hfirst) (hholds _ hsecond),
    fun first second index hfirst hsecond => h.apart first second index (hholds _ hfirst) (hout _ _ hsecond),
    fun first index hfirst => ?_⟩
  have hbefore := h.waiting first index (hout _ _ hfirst)
  exact hidle.waiting.trans hbefore

theorem inv_acknowledge (h : Inv s) {handler : Handler}
    (hmem : (s.transports transport).handlers[index]?=some handler) (hwaits : handler.acknowledged=false) :
    Inv (s.next (.transport transport (.acknowledge index handler))) := by
  have hset : ((s.transports transport).onMessageRequestAcknowledged s.shared index handler).1.handlers =
      (s.transports transport).handlers.set index {handler with acknowledged := true} := rfl
  have hbefore : ∀ other,Outstanding ((s.transports transport).onMessageRequestAcknowledged s.shared index handler).1 other →
      Outstanding (s.transports transport) other := fun other hout =>
    outstanding_set hmem hset nofun hout
  cases hserialized : handler.request.isSerialized with
  | false =>
    refine h.idle ⟨hbefore,id,?_⟩
    change (if handler.request.isSerialized=true then s.shared.clearWaitingForSendAcknowledgement
      else s.shared).isWaitingForAcknowledgement=_
    rw [hserialized]
    rfl
  | true =>
    have hthis : Outstanding (s.transports transport) index := ⟨handler,hmem,hserialized,hwaits⟩
    have hnot : ¬Outstanding ((s.transports transport).onMessageRequestAcknowledged s.shared index handler).1 index := by
      rintro ⟨found,hfound,-,hfalse⟩
      rw [hset,List.getElem?_set_self (List.getElem?_eq_some_iff.mp hmem).1] at hfound
      obtain rfl := some.inj hfound
      cases hfalse
    refine inv_of_none (fun other otherIndex hout => ?_) fun first second hfirst hsecond => ?_
    · have hsame : Outstanding ((s.transports transport).next s.shared (.acknowledge index handler)).1 otherIndex →
          Outstanding (s.transports transport) otherIndex := hbefore otherIndex
      have hold : Outstanding (s.transports other) otherIndex := of_next (P := fun p => Outstanding p otherIndex) hsame hout
      obtain ⟨rfl,rfl⟩ := h.one transport index other otherIndex hthis hold
      rw [transports_self] at hout
      exact hnot hout
    · have hsame : ∀ other,Holds ((s.next (.transport transport (.acknowledge index handler))).transports other) →
          Holds (s.transports other) := fun other => of_next fun hholds => hholds
      exact h.holder first second (hsame _ hfirst) (hsame _ hsecond)

theorem loop_take (p : Transport) (shared : RequestQueue) (whileState : State) : (p.take shared whileState).1.loop =
      (p.queueFor shared whileState).dequeueSendableRequest.2.elim (.sending whileState) (.holding whileState) ∧
    (p.take shared whileState).1.handlers=p.handlers ∧
    (p.take shared whileState).2.isWaitingForAcknowledgement=shared.isWaitingForAcknowledgement := by
  unfold Transport.take queueFor
  split
  · exact ⟨rfl,rfl,rfl⟩
  · exact ⟨rfl,rfl,rfl⟩

variable {request : MessageRequest}

theorem not_waiting_of_dequeued (hsome : shared.dequeueSendableRequest.2=some request)
    (hserialized : request.isSerialized=true) : shared.isWaitingForAcknowledgement=false := by
  obtain ⟨-,-,-,-,hsendable,-⟩ := dequeueSendableRequest_split hsome
  unfold RequestQueue.sendable at hsendable
  rw [hserialized,Bool.not_true,Bool.or_false] at hsendable
  exact Bool.not_eq_true' _ |>.mp hsendable

theorem inv_take (h : Inv s) {whileState : State} (hallowed : Allowed s (.transport transport (.take whileState))) :
    Inv (s.next (.transport transport (.take whileState))) := by
  obtain ⟨hloop,hhandlers,hwaiting⟩ := loop_take (s.transports transport) s.shared whileState
  by_cases hserialized : ∃ request,((s.transports transport).queueFor s.shared whileState).dequeueSendableRequest.2 =
      some request ∧ request.isSerialized=true
  · obtain ⟨request,hsome,hserialized⟩ := hserialized
    obtain ⟨hfree,hlocal⟩ := hallowed request hsome hserialized
    have hnone : ∀ other index,¬Outstanding (s.transports other) index := by
      by_cases hpost : whileState=.POST_CONNECTING
      · exact hlocal hpost
      · intro other index hout
        have hset := h.waiting other index hout
        unfold queueFor at hsome
        rw [if_neg hpost] at hsome
        rw [not_waiting_of_dequeued hsome hserialized] at hset
        cases hset
    refine inv_of_none (fun other index hout => hnone other index ?_) fun first second hfirst hsecond => ?_
    · have hsame : Outstanding ((s.transports transport).next s.shared (.take whileState)).1 index →
          Outstanding (s.transports transport) index := outstanding_same hhandlers
      exact of_next (P := fun p => Outstanding p index) hsame hout
    · have hthis : ∀ other,Holds ((s.next (.transport transport (.take whileState))).transports other) → other=transport := by
        intro other hholds
        by_contra hne
        rw [transports_ne s hne] at hholds
        exact hfree other hholds
      exact (hthis first hfirst).trans (hthis second hsecond).symm
  · refine h.idle ⟨fun index => outstanding_same hhandlers,fun hholds => ?_,hwaiting⟩
    obtain ⟨state,request,hholding,hserial⟩ := hholds
    have hholding' := hloop.symm.trans hholding
    cases hresult : ((s.transports transport).queueFor s.shared whileState).dequeueSendableRequest.2 with
    | none =>
      rw [hresult] at hholding'
      cases hholding'
    | some =>
      rw [hresult] at hholding'
      cases hholding'
      exact (hserialized ⟨request,hresult,hserial⟩).elim

theorem outstanding_sent (hhandlers : q.handlers=p.handlers++[⟨request,false,false⟩]) (hout : Outstanding q index) :
    Outstanding p index ∨ index=p.handlers.length ∧ request.isSerialized=true := by
  obtain ⟨handler,hmem,hserialized,hwaits⟩ := hout
  rw [hhandlers] at hmem
  rcases Nat.lt_or_ge index p.handlers.length with hlt|hge
  · rw [List.getElem?_append_left hlt] at hmem
    exact .inl ⟨handler,hmem,hserialized,hwaits⟩
  · rw [List.getElem?_append_right hge,List.getElem?_singleton] at hmem
    split at hmem
    next hzero =>
      obtain rfl := some.inj hmem
      exact .inr ⟨by omega,hserialized⟩
    · cases hmem

theorem inv_send (h : Inv s) {whileState : State} (hloop : (s.transports transport).loop=.holding whileState request) :
    Inv (s.next (.transport transport (.send whileState request true))) := by
  have hhandlers : ((s.transports transport).send s.shared whileState request true).1.handlers =
      (s.transports transport).handlers++[⟨request,false,false⟩] := rfl
  have hsent : isHolding ((s.transports transport).send s.shared whileState request true).1.loop=false := rfl
  have hqueue : ((s.transports transport).send s.shared whileState request true).2 =
      if request.isSerialized=true then s.shared.setWaitingForSendAcknowledgement else s.shared := rfl
  cases hserialized : request.isSerialized with
  | false =>
    refine h.idle ⟨fun index hout => ?_,fun hholds => (not_holds hsent hholds).elim,?_⟩
    · obtain hout|⟨-,htrue⟩ := outstanding_sent hhandlers hout
      · exact hout
      · rw [hserialized] at htrue
        cases htrue
    · change ((s.transports transport).send s.shared whileState request true).2.isWaitingForAcknowledgement=_
      rw [hqueue,hserialized]
      rfl
  | true =>
    have hholds : Holds (s.transports transport) := ⟨whileState,request,hloop,hserialized⟩
    have honly : ∀ other index,Outstanding ((s.next (.transport transport (.send whileState request true))).transports other)
        index → other=transport ∧ index=(s.transports transport).handlers.length := by
      intro other index hout
      rcases eq_or_ne other transport with rfl|hne
      · rw [transports_self] at hout
        obtain hout|⟨hindex,-⟩ := outstanding_sent hhandlers hout
        · exact (h.apart _ _ index hholds hout).elim
        · exact ⟨rfl,hindex⟩
      · rw [transports_ne s hne] at hout
        exact (h.apart transport other index hholds hout).elim
    have hfree : ∀ other,¬Holds ((s.next (.transport transport (.send whileState request true))).transports other) := by
      intro other hother
      rcases eq_or_ne other transport with rfl|hne
      · rw [transports_self] at hother
        exact not_holds hsent hother
      · rw [transports_ne s hne] at hother
        exact hne (h.holder other transport hother hholds)
    refine ⟨fun first index second other hfirst hsecond => ?_,fun first _ hfirst => (hfree first hfirst).elim,
      fun first _ _ hfirst => (hfree first hfirst).elim,fun _ _ _ => ?_⟩
    · obtain ⟨rfl,rfl⟩ := honly first index hfirst
      obtain ⟨rfl,rfl⟩ := honly second other hsecond
      exact ⟨rfl,rfl⟩
    · change ((s.transports transport).send s.shared whileState request true).2.isWaitingForAcknowledgement=true
      rw [hqueue,hserialized]
      rfl

theorem inv_step (h : Inv s) (hstep : Step s happening u) (hallowed : Allowed s happening) : Inv u := by
  obtain ⟨hpossible,rfl⟩ := hstep
  cases happening with
  | enqueue => exact ⟨h.one,h.holder,h.apart,h.waiting⟩
  | transport transport event =>
    by_cases hother : touches event=false
    · exact h.idle (idle_next hpossible hother)
    cases event with
    | acknowledge => exact inv_acknowledge h hpossible.1 hpossible.2
    | take => exact inv_take h hallowed
    | send whileState request token =>
      cases token with
      | true => exact inv_send h hpossible
      | false => exact (hother rfl).elim
    | dispatch nextState downchannel =>
      cases nextState with
      | SHUTDOWN =>
        refine inv_of_none (fun other index hout => hallowed other index ?_) fun first second hfirst hsecond => ?_
        · have hsame : Outstanding ((s.transports transport).next s.shared (.dispatch .SHUTDOWN downchannel)).1 index →
              Outstanding (s.transports transport) index := outstanding_same rfl
          exact of_next (P := fun p => Outstanding p index) hsame hout
        · have hsame : ∀ other,Holds ((s.next (.transport transport (.dispatch .SHUTDOWN downchannel))).transports other) →
              Holds (s.transports other) := fun other => of_next fun hholds => (not_holds rfl hholds).elim
          exact h.holder first second (hsame _ hfirst) (hsame _ hsecond)
      | _ => exact (hother rfl).elim
    | _ => exact (hother rfl).elim

/-- In every run in which only what is allowed happens one serialized request waits at most; and serialized
requests are taken in order, and the others are not held back. -/
theorem serialized_one_at_a_time {trace : List (Happening τ)} (run : Run (Guarded Step Allowed) create trace s) :
    OneAtATime s ∧ InOrder s ∧ Unheld s.shared := by
  have hinv : Inv s := run.invariant Inv inv_create fun _ _ _ h hstep => inv_step h hstep.2 hstep.1
  have horder : InOrder s := run.invariant InOrder rfl fun _ _ _ h hstep => inOrder_step h hstep.2
  exact ⟨hinv.one,horder,unheld s.shared⟩

theorem step_next (s : System τ) (happening : Happening τ) (hcan : decide (CanHappen s happening)=true) :
    Step s happening (s.next happening) := ⟨of_decide_eq_true hcan,rfl⟩

def connecting (transport : τ) : List (Happening τ) :=
  [Event.connect,.start true,.enter,.dispatch .AUTHORIZING true,.call (.onAuthStateChange .REFRESHED),
    .wake .AUTHORIZING,.dispatch .CONNECTING true,.call .onDownchannelConnected,.wake .CONNECTING,
    .dispatch .POST_CONNECTING true,.call .onPostConnected,.leave .POST_CONNECTING,
    .dispatch .CONNECTED true].map (Happening.transport transport)

def serialized (id : ℕ) : MessageRequest := ⟨id,true⟩

theorem run_follow {labels : List (Happening τ)}
    (hfollow : canFollow (fun s happening => decide (CanHappen s happening)) System.next create labels=true) :
    Run Step create labels (labels.foldl System.next create) :=
  Run.follow step_next Run.refl hfollow

omit [DecidableEq τ] in
/-- A transport may always connect. -/
theorem allowed_connecting (transport : τ) : ∀ happening∈connecting transport,∀ s,Allowed s happening := by
  intro happening hmem s
  unfold connecting at hmem
  simp only [map_cons,map_nil,mem_cons,not_mem_nil,or_false] at hmem
  rcases hmem with rfl|rfl|rfl|rfl|rfl|rfl|rfl|rfl|rfl|rfl|rfl|rfl|rfl <;> trivial

/-- Two transports are connected, and two serialized requests are to be sent. -/
def enqueuedTrace : List (Happening Bool) :=
  connecting false++connecting true++[.enqueue (serialized 0),.enqueue (serialized 1)]

/-- A transport takes a request that is to be sent, and sends it. -/
def sending (transport : τ) (id : ℕ) : List (Happening τ) :=
  [.transport transport (.take .CONNECTED),.transport transport (.send .CONNECTED (serialized id) true)]

/-- It may do so where no transport has one in its hands. -/
theorem run_sending {trace : List (Happening τ)} {s : System τ} (run : Run (Guarded Step Allowed) create trace s)
    (hfree : ∀ other,isHolding (s.transports other).loop=false) (transport : τ) (id : ℕ)
    (hcan : canFollow (fun s happening => decide (CanHappen s happening)) System.next s (sending transport id)=true) :
    Run (Guarded Step Allowed) create (trace++sending transport id) ((sending transport id).foldl System.next s) := by
  obtain ⟨htake,hsend⟩ := Bool.and_eq_true_iff.mp hcan
  have htaken := run.allow (step_next _ (.transport transport (.take .CONNECTED)) htake) fun _ _ _ =>
    ⟨fun other => not_holds (hfree other),nofun⟩
  have hsent := htaken.allow (step_next _ _ (Bool.and_eq_true_iff.mp hsend).1) trivial
  rw [append_assoc] at hsent
  exact hsent

/-- The second request waits although another transport is free, which sends it when the first is acknowledged. -/
theorem serialized_one_at_a_time_second_waits :
    ∃ s t : System Bool,(OneAtATime s ∧ Outstanding (s.transports true) 0 ∧ s.shared.queue=[serialized 1] ∧
        Unheld s.shared ∧ s.shared.dequeueSendableRequest.2=none) ∧
      OneAtATime t ∧ Outstanding (t.transports false) 0 ∧ InOrder t ∧ t.dequeued=[serialized 0,serialized 1] := by
  have hquiet : ∀ happening∈enqueuedTrace,∀ s : System Bool,Allowed s happening := by
    intro happening hmem
    rcases mem_append.mp hmem with hconnecting|henqueue
    · exact (mem_append.mp hconnecting).elim (allowed_connecting false happening) (allowed_connecting true happening)
    · simp only [mem_cons,not_mem_nil,or_false] at henqueue
      rcases henqueue with rfl|rfl <;> exact fun _ => trivial
  have henqueued : Run (Guarded Step Allowed) create enqueuedTrace (enqueuedTrace.foldl System.next create) :=
    (run_follow (by decide)).guard hquiet
  have hfirst := run_sending henqueued (by decide) true 0 (by decide)
  have hacknowledged := hfirst.allow
    (step_next _ (.transport true (.acknowledge 0 ⟨serialized 0,false,false⟩)) (by decide)) trivial
  have hsecond := run_sending hacknowledged (by decide) false 1 (by decide)
  obtain ⟨hone,-,hheld⟩ := serialized_one_at_a_time hfirst
  obtain ⟨hone',horder,-⟩ := serialized_one_at_a_time hsecond
  exact ⟨_,_,⟨hone,⟨⟨serialized 0,false,false⟩,by decide,rfl,rfl⟩,by decide,hheld,by decide⟩,
    hone',⟨⟨serialized 1,false,false⟩,by decide,rfl,rfl⟩,horder,by decide⟩

/-- The first shuts down too early, and the second sends the next. -/
def twoTrace : List (Happening Bool) :=
  connecting false++.transport false (.call .onDownchannelFinished)::connecting true ++
    [.enqueue (serialized 0),.enqueue (serialized 1),.transport true (.take .CONNECTED),
      .transport true (.send .CONNECTED (serialized 0) true),.transport false (.leave .CONNECTED),
      .transport false (.dispatch .SERVER_SIDE_DISCONNECT true),.transport false (.dispatch .DISCONNECTING true),
      .transport false (.dispatch .SHUTDOWN true),.transport true (.take .CONNECTED),
      .transport true (.send .CONNECTED (serialized 1) true)]

/-- Two wait. -/
theorem shutdown_releases_second_request :
    ∃ (trace : List (Happening Bool)) (s : System Bool),Run Step create trace s ∧ ¬OneAtATime s := by
  refine ⟨twoTrace,_,run_follow (by decide),fun hone => ?_⟩
  have hfirst : Outstanding ((twoTrace.foldl System.next create).transports true) 0 :=
    ⟨⟨serialized 0,false,false⟩,by decide,rfl,rfl⟩
  have hsecond : Outstanding ((twoTrace.foldl System.next create).transports true) 1 :=
    ⟨⟨serialized 1,false,false⟩,by decide,rfl,rfl⟩
  exact absurd (hone true 0 true 1 hfirst hsecond).2 Nat.zero_ne_one

end AlexaClientSDK.SerializedRequests
