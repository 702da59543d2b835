import AlexaClientSDK.MessageRequestHandler

/-!
# What a transport knows of its message handlers

Every handler reports that its request is acknowledged, and then that it is finished, once each. So the transport's
count is that of the handlers it has made and not heard the end of, and the main loop, which alone makes handlers, keeps
it within its bound.
-/

namespace AlexaClientSDK.HandlerAccounting

open List LabelledRuns TransportStates GracefulDisconnects MessageRequestHandler Connection
open HTTP2Transport hiding Call Event Possible Step step_next create
open HTTP2Transport.Transport
open MessageRequestQueue (MessageRequest RequestQueue)

section

variable {s t : Transport} {shared : RequestQueue}

structure Within (s : Transport) : Prop where
  counted : Counted s
  bounded : s.countOfUnfinishedMessageHandlers≤MAX_MESSAGE_HANDLERS
  room : ∀ whileState request,s.loop=.holding whileState request →
    s.countOfUnfinishedMessageHandlers<MAX_MESSAGE_HANDLERS

/-- What is done while no handler is made and none reports. -/
structure Apart (s t : Transport) : Prop where
  handlers : t.handlers=s.handlers
  count : t.countOfUnfinishedMessageHandlers=s.countOfUnfinishedMessageHandlers
  /-- The main loop takes a request only when there is room. -/
  room : ∀ whileState request,t.loop=.holding whileState request →
    s.loop=.holding whileState request ∨ s.countOfUnfinishedMessageHandlers<MAX_MESSAGE_HANDLERS

theorem Apart.of_moved (h : Moved s t) : Apart s t :=
  ⟨h.handlers,h.count,fun _ _ hloop => .inl (h.loop.symm.trans hloop)⟩

theorem Apart.of_loop (hhandlers : t.handlers=s.handlers)
    (hcount : t.countOfUnfinishedMessageHandlers=s.countOfUnfinishedMessageHandlers)
    (hloop : ∀ whileState request,t.loop≠.holding whileState request) : Apart s t :=
  ⟨hhandlers,hcount,fun whileState request heq => (hloop whileState request heq).elim⟩

theorem Apart.moved_loop (h : Moved s t) {loop : Loop} (hloop : ∀ whileState request,loop≠.holding whileState request) :
    Apart s {t with loop := loop} :=
  .of_loop h.handlers h.count hloop

theorem Within.apart (h : Within s) (happart : Apart s t) : Within t where
  counted := h.counted.same happart.handlers happart.count
  bounded := by
    rw [happart.count]
    exact h.bounded
  room := by
    intro whileState request hloop
    rw [happart.count]
    exact (happart.room whileState request hloop).elim (h.room whileState request) id

theorem apart_dispatch (s : Transport) (downchannel : Bool) (nextState : State) :
    Apart s (s.dispatch shared downchannel nextState).1 := by
  cases nextState with
  | INIT => exact .moved_loop (moved_setState s .SHUTDOWN .INTERNAL_ERROR) nofun
  | AUTHORIZING | WAITING_TO_RETRY_CONNECTING => exact .moved_loop (.refl s) nofun
  | CONNECTING =>
    unfold Transport.dispatch handleConnecting
    dsimp only
    split
    · exact .moved_loop (.refl s) nofun
    · exact .moved_loop (moved_setState s .WAITING_TO_RETRY_CONNECTING .INTERNAL_ERROR) nofun
  | POST_CONNECTING =>
    unfold Transport.dispatch handlePostConnecting
    dsimp only
    split
    · exact .moved_loop (moved_setState s .CONNECTED .SUCCESS) fun _ _ hloop => by cases hloop
    · exact .moved_loop (.refl s) fun _ _ hloop => by cases hloop
  | CONNECTED | SHUTDOWN => exact .of_loop rfl rfl fun _ _ hloop => by cases hloop
  | SERVER_SIDE_DISCONNECT => exact .moved_loop (.refl s) fun _ _ hloop => by cases hloop
  | DISCONNECTING => exact .moved_loop (moved_setState s .SHUTDOWN .SUCCESS) fun _ _ hloop => by cases hloop

/-- The main loop takes a request when there is room for a handler. -/
theorem apart_take (s : Transport) (whileState : State) (hcan : s.canSendMessage shared whileState=true) :
    Apart s (s.take shared whileState).1 := by
  have hroom : s.countOfUnfinishedMessageHandlers<MAX_MESSAGE_HANDLERS := by
    exact of_decide_eq_true (Bool.and_eq_true_iff.mp hcan).2
  unfold Transport.take
  split
  · exact ⟨rfl,rfl,fun _ _ _ => .inr hroom⟩
  · exact ⟨rfl,rfl,fun _ _ _ => .inr hroom⟩

theorem apart_next {event : HTTP2Transport.Event} (hpossible : HTTP2Transport.Possible s shared event)
    (hown : own event=true) (hsend : ∀ whileState request,event≠.send whileState request true) :
    Apart s (s.next shared event).1 := by
  cases event with
  | call call => exact .of_moved (moved_call s call)
  | connect =>
    have hmoved := moved_setState s .AUTHORIZING .ACL_CLIENT_REQUEST
    unfold Transport.next connect
    dsimp only
    split
    · exact .moved_loop hmoved nofun
    · exact .of_moved (.refl s)
  | acknowledge => cases hown
  | finish => cases hown
  | start postConnect =>
    cases postConnect with
    | true => exact .moved_loop (.refl s) nofun
    | false => exact .moved_loop (moved_setState s .SHUTDOWN .INTERNAL_ERROR) nofun
  | enter => exact .moved_loop (.refl s) nofun
  | dispatch nextState downchannel => exact apart_dispatch s downchannel nextState
  | timeOut => exact ⟨rfl,rfl,fun _ _ => .inl⟩
  | wake =>
    unfold Transport.next wake
    dsimp only
    split
    · exact .moved_loop (moved_setState s .CONNECTING .NONE) fun _ _ hloop => by cases hloop
    · exact .moved_loop (.refl s) fun _ _ hloop => by cases hloop
  | take whileState => exact apart_take s whileState hpossible.2.2
  | send whileState request token =>
    cases token with
    | true => exact (hsend whileState request rfl).elim
    | false => exact .of_loop rfl rfl fun _ _ hloop => by cases hloop
  | inactive | leave | close => exact .moved_loop (.refl s) fun _ _ hloop => by cases hloop
  | ping whileState created =>
    cases created with
    | true => exact .of_loop rfl rfl fun _ _ hloop => by cases hloop
    | false =>
      have hmoved := moved_setState {s with loop := .sending whileState} .SHUTDOWN .PING_TIMEDOUT
      exact .of_loop hmoved.handlers hmoved.count fun _ _ hloop => by cases hmoved.loop.symm.trans hloop

theorem within_send (h : Within s) {whileState : State} {request : MessageRequest}
    (hloop : s.loop=.holding whileState request) : Within (s.send shared whileState request true).1 where
  counted := counted_send h.counted whileState request true
  bounded := h.room whileState request hloop
  room := nofun

theorem within_acknowledged (h : Within s) {index : ℕ} {handler : Handler} (hmem : s.handlers[index]?=some handler) :
    Within (s.onMessageRequestAcknowledged shared index handler).1 :=
  ⟨counted_acknowledged h.counted hmem,h.bounded,h.room⟩

theorem within_finished (h : Within s) {index : ℕ} {handler : Handler} (hmem : s.handlers[index]?=some handler)
    (hunfinished : handler.finished=false) : Within (s.onMessageRequestFinished index handler) where
  counted := counted_finished h.counted hmem hunfinished
  bounded := by
    have hbounded := h.bounded
    unfold onMessageRequestFinished
    dsimp only
    omega
  room := by
    intro whileState request hloop
    have hroom := h.room whileState request hloop
    unfold onMessageRequestFinished
    dsimp only
    omega

end

variable {s t : Connection} {shared : RequestQueue} {index : ℕ} {handler : Handler} {exchange : Exchange}

/-- What the transport was told about a handler, by its flags. -/
def told (handler : Handler) : List Notice :=
  .sent::((if handler.acknowledged then [.acknowledged] else [])++if handler.finished then [.finished] else [])

def Ordered : Bool → List Call → Prop
  | _,[] => True
  | _,.reportMessageRequestAcknowledged::calls => Ordered true calls
  | acknowledged,.reportMessageRequestFinished::calls => acknowledged=true ∧ Ordered acknowledged calls
  | acknowledged,.onMessageRequestTimeout::calls | acknowledged,.onForbidden::calls
  | acknowledged,.exceptionReceived _::calls | acknowledged,.sendCompleted _::calls => Ordered acknowledged calls

/-- What always holds of a handler and of the function of it that runs. -/
structure Fit (handler : Handler) (exchange : Exchange) : Prop where
  first : handler.finished=true → handler.acknowledged=true
  ordered : Ordered handler.acknowledged exchange.calls
  ended : exchange.ended=true → handler.finished=true ∨ .reportMessageRequestFinished∈exchange.calls

theorem fit_create (request : MessageRequest) : Fit ⟨request,false,false⟩ Exchange.create :=
  ⟨nofun,trivial,nofun⟩

theorem Fit.start (h : Fit handler exchange) (hcalls : exchange.calls=[]) (callback : Callback) :
    Fit handler (exchange.start callback) := by
  cases callback with
  | createFailed | destroy => exact ⟨h.first,⟨rfl,trivial⟩,fun _ => .inr (mem_cons_of_mem _ mem_cons_self)⟩
  | onReceiveResponseCode =>
    refine ⟨h.first,?_,fun hended => .inl ?_⟩
    · unfold Exchange.start Exchange.onReceiveResponseCode
      dsimp only
      split
      · trivial
      · trivial
    · obtain hfinished|hmem := h.ended hended
      · exact hfinished
      · rw [hcalls] at hmem
        cases hmem
  | onResponseFinished =>
    refine ⟨h.first,?_,fun _ => .inr ?_⟩
    · unfold Exchange.start Exchange.onResponseFinished
      dsimp only
      split
      · split
        · exact ⟨rfl,trivial⟩
        · exact ⟨rfl,trivial⟩
      · split
        · exact ⟨rfl,trivial⟩
        · exact ⟨rfl,trivial⟩
    · unfold Exchange.start Exchange.onResponseFinished
      simp

theorem Fit.acknowledge (h : Fit handler {exchange with calls := .reportMessageRequestAcknowledged::exchange.calls}) :
    Fit {handler with acknowledged := true} exchange where
  first := fun _ => rfl
  ordered := h.ordered
  ended := by
    intro hended
    obtain hfinished|hmem := h.ended hended
    · exact .inl hfinished
    · obtain heq|hmem := mem_cons.mp hmem
      · cases heq
      · exact .inr hmem

theorem Fit.finish (h : Fit handler {exchange with calls := .reportMessageRequestFinished::exchange.calls}) :
    Fit {handler with finished := true} exchange :=
  ⟨fun _ => h.ordered.1,h.ordered.2,fun _ => .inl rfl⟩

theorem Fit.other {call : Call} (h : Fit handler {exchange with calls := call::exchange.calls})
    (hordered : Ordered handler.acknowledged exchange.calls) (hcall : call≠.reportMessageRequestFinished) :
    Fit handler exchange where
  first := h.first
  ordered := hordered
  ended := by
    intro hended
    obtain hfinished|hmem := h.ended hended
    · exact .inl hfinished
    · obtain heq|hmem := mem_cons.mp hmem
      · exact (hcall heq.symm).elim
      · exact .inr hmem

/-- What holds in every run. -/
structure Inv (s : Connection) : Prop where
  within : Within s.transport
  length : s.exchanges.length=s.transport.handlers.length
  told : ∀ (index : ℕ) (handler : Handler),s.transport.handlers[index]?=some handler → s.noticesOf index=told handler
  /-- Nothing was told about handlers that were not made. -/
  unmade : ∀ index,s.exchanges.length ≤ index → s.noticesOf index=[]
  fit : ∀ (index : ℕ) (handler : Handler) (exchange : Exchange),s.transport.handlers[index]?=some handler →
    s.exchanges[index]?=some exchange → Fit handler exchange

theorem inv_create : Inv create where
  within := ⟨rfl,by decide,nofun⟩
  length := rfl
  told := nofun
  unmade := fun _ _ => rfl
  fit := nofun

/-- What the transport was told about a handler when it is told more. -/
theorem noticesOf_append (s : Connection) (transport : Transport) (exchanges : List Exchange) (index other : ℕ)
    (notice : Notice) : (mk transport exchanges (s.notices++[(other,notice)])).noticesOf index =
      if other=index then s.noticesOf index++[notice] else s.noticesOf index := by
  unfold noticesOf
  rw [filter_append,map_append]
  split
  next heq =>
    subst heq
    simp
  next hne => simp [hne]

theorem getElem?_snoc {α : Type*} {entries : List α} {last entry : α} {index : ℕ}
    (h : (entries++[last])[index]?=some entry) : entries[index]?=some entry ∨ index=entries.length ∧ entry=last := by
  obtain hlt|hle := Nat.lt_or_ge index entries.length
  · rw [List.getElem?_append_left hlt] at h
    exact .inl h
  · rw [List.getElem?_append_right hle] at h
    have hzero : index-entries.length=0 := by
      have hlength := (List.getElem?_eq_some_iff.mp h).1
      rw [length_singleton] at hlength
      omega
    rw [hzero] at h
    exact .inr ⟨by omega,(Option.some.inj h).symm⟩

section

variable (h : Inv s)
include h

theorem Inv.apart {transport : Transport} (happart : Apart s.transport transport) :
    Inv {s with transport := transport} where
  within := h.within.apart happart
  length := h.length.trans (congrArg List.length happart.handlers.symm)
  told := by
    intro index handler hmem
    rw [happart.handlers] at hmem
    exact h.told index handler hmem
  unmade := h.unmade
  fit := by
    intro index handler exchange hmem hexchange
    rw [happart.handlers] at hmem
    exact h.fit index handler exchange hmem hexchange

theorem Inv.send {whileState : State} {request : MessageRequest}
    (hloop : s.transport.loop=.holding whileState request) :
    Inv (s.advance shared (.send whileState request true)) := by
  have hnew : s.noticesOf s.exchanges.length=[] := h.unmade _ (Nat.le_refl _)
  have hhandlers : (s.transport.next shared (.send whileState request true)).1.handlers =
      s.transport.handlers++[⟨request,false,false⟩] := rfl
  have hwithin : Within (s.transport.send shared whileState request true).1 := within_send h.within hloop
  refine ⟨hwithin,?_,?_,?_,?_⟩
  · dsimp only [advance]
    rw [hhandlers,length_append,length_append,h.length]
    rfl
  · intro index handler hmem
    dsimp only [advance] at hmem ⊢
    rw [hhandlers] at hmem
    rw [noticesOf_append]
    obtain hmem|⟨hindex,hhandler⟩ := getElem?_snoc hmem
    · have hlt := (List.getElem?_eq_some_iff.mp hmem).1
      rw [if_neg (by rw [h.length]; omega)]
      exact h.told index handler hmem
    · rw [if_pos (h.length.trans hindex.symm),hindex,←h.length,hnew,hhandler]
      rfl
  · intro index hle
    dsimp only [advance] at hle ⊢
    rw [length_append,length_singleton] at hle
    rw [noticesOf_append,if_neg (by omega)]
    exact h.unmade index (by omega)
  · intro index handler exchange hmem hexchange
    dsimp only [advance] at hmem hexchange
    rw [hhandlers] at hmem
    obtain hmem|⟨hindex,hhandler⟩ := getElem?_snoc hmem
    · obtain hexchange|⟨hlength,-⟩ := getElem?_snoc hexchange
      · exact h.fit index handler exchange hmem hexchange
      · have hlt := (List.getElem?_eq_some_iff.mp hmem).1
        rw [←h.length] at hlt
        omega
    · obtain hexchange|⟨-,hnone⟩ := getElem?_snoc hexchange
      · have hlt := (List.getElem?_eq_some_iff.mp hexchange).1
        rw [h.length] at hlt
        omega
      · rw [hhandler,hnone]
        exact fit_create request

section

variable (hmem : s.transport.handlers[index]?=some handler)
include hmem

theorem Inv.put {changed : Handler} {left : Exchange}
    (hwithin : Within t.transport) (hhandlers : t.transport.handlers=s.transport.handlers.set index changed)
    (hexchanges : t.exchanges=s.exchanges.set index left) (hself : t.noticesOf index=HandlerAccounting.told changed)
    (hother : ∀ other,other≠index → t.noticesOf other=s.noticesOf other) (hfit : Fit changed left) : Inv t where
  within := hwithin
  length := by
    rw [hexchanges,hhandlers,length_set,length_set]
    exact h.length
  told := by
    intro other known hknown
    rw [hhandlers] at hknown
    by_cases hindex : other=index
    · subst hindex
      rw [List.getElem?_set_self (List.getElem?_eq_some_iff.mp hmem).1] at hknown
      rw [←Option.some.inj hknown]
      exact hself
    · rw [List.getElem?_set_ne (Ne.symm hindex)] at hknown
      rw [hother other hindex]
      exact h.told other known hknown
  unmade := by
    intro other hle
    rw [hexchanges,length_set] at hle
    have hlt := (List.getElem?_eq_some_iff.mp hmem).1
    rw [←h.length] at hlt
    rw [hother other (by omega)]
    exact h.unmade other hle
  fit := by
    intro other known exchange hknown hexchange
    rw [hhandlers] at hknown
    rw [hexchanges] at hexchange
    have hlt := (List.getElem?_eq_some_iff.mp hmem).1
    by_cases hindex : other=index
    · subst hindex
      rw [List.getElem?_set_self hlt] at hknown
      rw [List.getElem?_set_self (by rw [h.length]; exact hlt)] at hexchange
      rw [←Option.some.inj hknown,←Option.some.inj hexchange]
      exact hfit
    · rw [List.getElem?_set_ne (Ne.symm hindex)] at hknown hexchange
      exact h.fit other known exchange hknown hexchange

theorem Inv.quiet {left : Exchange}
    (hfit : Fit handler left) : Inv {s with exchanges := s.exchanges.set index left} := by
  have hself : s.transport.handlers=s.transport.handlers.set index handler := by
    obtain ⟨hlt,heq⟩ := List.getElem?_eq_some_iff.mp hmem
    rw [←heq,set_getElem_self]
  exact h.put hmem h.within hself rfl (h.told index handler hmem) (fun _ _ => rfl) hfit

theorem Inv.call {call : Call}
    (hexchange : s.exchanges[index]?=some {exchange with calls := call::exchange.calls}) :
    Inv ({s with exchanges := s.exchanges.set index exchange}.call shared index handler call) := by
  have hfit := h.fit index handler _ hmem hexchange
  have htold := h.told index handler hmem
  cases call with
  | reportMessageRequestAcknowledged =>
    unfold Connection.call Connection.reportMessageRequestAcknowledged
    dsimp only
    split
    next hacknowledged =>
      refine h.quiet hmem (hfit.other ?_ fun heq => by cases heq)
      rw [hacknowledged]
      exact hfit.ordered
    next hacknowledged =>
      have hnot : handler.acknowledged=false := Bool.eq_false_iff.mpr hacknowledged
      have hunfinished : handler.finished=false :=
        Bool.eq_false_iff.mpr fun hfinished => hacknowledged (hfit.first hfinished)
      have hwithin : Within (s.transport.onMessageRequestAcknowledged shared index handler).1 :=
        within_acknowledged h.within hmem
      refine h.put hmem hwithin rfl rfl ?_ ?_ hfit.acknowledge
      · rw [noticesOf_append,if_pos rfl]
        rw [htold]
        unfold HandlerAccounting.told
        rw [hnot,hunfinished]
        rfl
      · intro other hother
        rw [noticesOf_append,if_neg (Ne.symm hother)]
  | reportMessageRequestFinished =>
    unfold Connection.call Connection.reportMessageRequestFinished
    dsimp only
    split
    next hfinished =>
      refine h.put hmem h.within ?_ rfl htold (fun _ _ => rfl) ⟨hfit.first,hfit.ordered.2,fun _ => .inl hfinished⟩
      obtain ⟨hlt,heq⟩ := List.getElem?_eq_some_iff.mp hmem
      rw [←heq,set_getElem_self]
    next hfinished =>
      have hunfinished : handler.finished=false := Bool.eq_false_iff.mpr hfinished
      have hacknowledged : handler.acknowledged=true := hfit.ordered.1
      refine h.put hmem (within_finished h.within hmem hunfinished) rfl rfl ?_ ?_ hfit.finish
      · rw [noticesOf_append,if_pos rfl]
        rw [htold]
        unfold HandlerAccounting.told
        rw [hacknowledged,hunfinished]
        rfl
      · intro other hother
        rw [noticesOf_append,if_neg (Ne.symm hother)]
  | onMessageRequestTimeout | onForbidden | exceptionReceived | sendCompleted =>
    exact h.quiet hmem (hfit.other hfit.ordered fun heq => by cases heq)

end

theorem inv_step {label : RequestQueue × Event} (hstep : Step s label t) : Inv t := by
  obtain ⟨shared,event⟩ := label
  obtain ⟨hpossible,rfl⟩ := hstep
  cases event with
  | transport event =>
    obtain ⟨hown,hpossible⟩ := hpossible
    have happart := apart_next hpossible hown
    cases event with
    | send whileState request token =>
      cases token with
      | true => exact h.send hpossible
      | false => exact h.apart (happart fun _ _ heq => by cases heq)
    | acknowledge index handler => cases hown
    | finish index handler => cases hown
    | call | connect | start | enter | dispatch | timeOut | wake | take | inactive | ping | leave | close =>
      exact h.apart (happart fun _ _ heq => by cases heq)
  | start index exchange callback =>
    obtain ⟨hexchange,hcalls,-⟩ := hpossible
    have hlt := (List.getElem?_eq_some_iff.mp hexchange).1
    rw [h.length] at hlt
    have hmem : s.transport.handlers[index]?=some s.transport.handlers[index] := List.getElem?_eq_getElem hlt
    exact h.quiet hmem ((h.fit index _ exchange hmem hexchange).start hcalls callback)
  | call index handler call => exact h.call hpossible.1 hpossible.2

end

section

variable (hfirst : handler.finished=true → handler.acknowledged=true)
include hfirst

end

theorem exchanges_call (s : Connection) (index : ℕ) (handler : Handler) (call : Call) :
    (s.call shared index handler call).exchanges=s.exchanges := by
  cases call with
  | reportMessageRequestAcknowledged =>
    unfold Connection.call Connection.reportMessageRequestAcknowledged
    dsimp only
    split
    · rfl
    · rfl
  | reportMessageRequestFinished =>
    unfold Connection.call Connection.reportMessageRequestFinished
    dsimp only
    split
    · rfl
    · rfl
  | onMessageRequestTimeout | onForbidden | exceptionReceived | sendCompleted => rfl

def callOf (index : ℕ) : Event → Bool
  | .call other _ _ _ => other=index
  | .transport _ | .start _ _ _ => false

theorem Inv.returns (shared : RequestQueue) : ∀ {calls : List Call} {s : Connection} {exchange : Exchange},Inv s →
      s.exchanges[index]?=some {exchange with calls := calls} →
      ∃ (labels : List (RequestQueue × Event)) (t : Connection),
        Run Step s labels t ∧ (∀ label∈labels,callOf index label.2=true) ∧
          t.exchanges[index]?=some {exchange with calls := []} := by
  intro calls
  induction calls with
  | nil =>
    intro s exchange _ hexchange
    exact ⟨[],s,Run.refl,(fun _ hmem => by cases hmem),hexchange⟩
  | cons call calls ih =>
    intro s exchange h hexchange
    have hlt := (List.getElem?_eq_some_iff.mp hexchange).1
    obtain ⟨handler,hmem⟩ : ∃ handler,s.transport.handlers[index]?=some handler :=
      ⟨_,List.getElem?_eq_getElem (h.length ▸ hlt)⟩
    have hstep := step_next shared (.call index handler call {exchange with calls := calls}) ⟨hmem,hexchange⟩
    have hnext := inv_step h hstep
    have hleft : (s.next shared (.call index handler call {exchange with calls := calls})).exchanges[index]? =
        some {exchange with calls := calls} := by
      unfold Connection.next
      rw [exchanges_call]
      exact List.getElem?_set_self hlt
    obtain ⟨labels,t,hrun,hown,hreturned⟩ := ih hnext hleft
    refine ⟨[_]++labels,t,(Run.single hstep).append hrun,fun label hlabel => ?_,hreturned⟩
    obtain hfirst|hrest := List.mem_append.mp hlabel
    · rw [List.mem_singleton.mp hfirst]
      exact decide_eq_true rfl
    · exact hown label hrest

end AlexaClientSDK.HandlerAccounting
