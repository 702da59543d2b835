import AlexaClientSDK.Histories
import AlexaClientSDK.CertifiedSender

/-!
# Certified delivery

As long as `clearData` does not run while the worker has a message in its hands, the queue is a part of the table, that
message is at the front, and a message leaves both only behind a status that says so. Messages are sent in order, and
the queue stays within its limit unless a restart loads a row that could not be deleted. Otherwise the worker takes
another message out of the queue and its row out of the table.
-/

namespace AlexaClientSDK.CertifiedDelivery

open Nat List LabelledRuns Histories CertifiedSender Sender Mark

def entryOf (request : CertifiedMessageRequest) : ℕ × Message := (request.dbId,request.message)

def rowOf (row : StoredMessage) : ℕ × Message := (row.id,row.message)

/-- A status arrived for the message that rules out sending it again. -/
def Settled (history : List Mark) (serial : ℕ) : Prop :=
  ∃ status,answered serial status∈history ∧ shouldRetryTransmission status=false

/-- The answer that the worker has, or reads next. -/
def answerOf : Worker → Option (CertifiedMessageRequest × Status)
  | .sending request (some status) => some (request,status)
  | .decided request status => some (request,status)
  | _ => none

/-- What holds whenever the lock is free. -/
structure Inv (s : Sender) : Prop where
  ids : (s.storage.map StoredMessage.id).Pairwise (· < ·)
  serials : (s.storage.map fun row => row.message.serial).Pairwise (· < ·)
  below : ∀ row∈s.storage,row.message.serial<s.accepted
  queue : (s.messagesToSend.map entryOf).Sublist (s.storage.map rowOf)
  front : ∀ request,s.worker.currentMessage=some request →
    ∃ rest,s.messagesToSend=request::rest
  answered : ∀ request status,answerOf s.worker=some (request,status) →
    answered request.message.serial status∈s.history
  kept : ∀ serial<s.accepted,Settled s.history serial ∨ cleared serial∈s.history ∨
    ∃ request∈s.messagesToSend,request.message.serial=serial

variable {limits : Limits} {s s' : Sender}

theorem settled_append {history : List Mark} {serial : ℕ} (h : Settled history serial)
    (more : List Mark) : Settled (history++more) serial := by
  obtain ⟨status,hmem,hfinal⟩ := h
  exact ⟨status,mem_append_left _ hmem,hfinal⟩

theorem inv_init : Inv init := by
  refine ⟨List.Pairwise.nil,List.Pairwise.nil,nofun,List.Sublist.refl _,nofun,nofun,?_⟩
  intro serial hlt
  exact absurd hlt (not_lt_zero _)

variable {request : CertifiedMessageRequest}

theorem Inv.row (h : Inv s) (hmem : request∈s.messagesToSend) : ∃ row∈s.storage,row.message=request.message := by
  have hentry := h.queue.subset (mem_map_of_mem hmem)
  obtain ⟨row,hrow,heq⟩ := mem_map.mp hentry
  exact ⟨row,hrow,congrArg Prod.snd heq⟩

theorem Inv.queue_ids (h : Inv s) : (s.messagesToSend.map CertifiedMessageRequest.dbId).Pairwise (· < ·) := by
  have hrows : ((s.storage.map rowOf).map Prod.fst).Pairwise (· < ·) := by
    rw [map_map]
    exact h.ids
  have hqueue := hrows.sublist (h.queue.map Prod.fst)
  rw [map_map] at hqueue
  exact hqueue

theorem Inv.queue_serials (h : Inv s) :
    (s.messagesToSend.map fun request => request.message.serial).Pairwise (· < ·) := by
  have hrows : ((s.storage.map rowOf).map fun entry => entry.2.serial).Pairwise (· < ·) := by
    rw [map_map]
    exact h.serials
  have hqueue := hrows.sublist (h.queue.map fun entry => entry.2.serial)
  rw [map_map] at hqueue
  exact hqueue

theorem inv_frame (h : Inv s) (hqueue : s'.messagesToSend=s.messagesToSend)
    (hstorage : s'.storage=s.storage) (haccepted : s'.accepted=s.accepted) (more : List Mark)
    (hhistory : s'.history=s.history++more) (hfront : ∀ request,s'.worker.currentMessage=some request →
      ∃ rest,s.messagesToSend=request::rest) (hanswered : ∀ request status,answerOf s'.worker=some (request,status) →
      answered request.message.serial status∈s.history++more) : Inv s' := by
  refine ⟨?_,?_,?_,?_,?_,?_,?_⟩
  · rw [hstorage]
    exact h.ids
  · rw [hstorage]
    exact h.serials
  · rw [hstorage,haccepted]
    exact h.below
  · rw [hstorage,hqueue]
    exact h.queue
  · rw [hqueue]
    exact hfront
  · rw [hhistory]
    exact hanswered
  · rw [haccepted,hhistory,hqueue]
    intro serial hlt
    rcases h.kept serial hlt with hsettled|hcleared|hqueued
    · exact .inl (settled_append hsettled more)
    · exact .inr (.inl (mem_append_left _ hcleared))
    · exact .inr (.inr hqueued)

theorem id_le_getTableMaxIntValue {rows : List StoredMessage} {row : StoredMessage}
    (hmem : row∈rows) : row.id≤getTableMaxIntValue rows := by
  induction rows with
  | nil => exact absurd hmem not_mem_nil
  | cons first rows ih =>
    rw [getTableMaxIntValue]
    rcases mem_cons.mp hmem with rfl|hmem
    · exact Nat.le_max_left _ _
    · exact Nat.le_trans (ih hmem) (Nat.le_max_right _ _)

/-- Refused, or in the queue, which was not full, and in the table. -/
theorem executeSendJSONMessage_cases (limits : Limits) (s : Sender) (json uri : String) (succeeds : Bool) :
    (s.executeSendJSONMessage limits json uri succeeds).2=s ∨
    s.messagesToSend.length<limits.queueSizeHardLimit ∧
      (s.executeSendJSONMessage limits json uri succeeds).2={s with
        storage := s.storage++[⟨getTableMaxIntValue s.storage+1,⟨s.accepted,json,uri⟩⟩]
        messagesToSend :=
          s.messagesToSend++[⟨getTableMaxIntValue s.storage+1,⟨s.accepted,json,uri⟩⟩]
        accepted := s.accepted+1} := by
  unfold executeSendJSONMessage
  split
  · exact .inl rfl
  · rename_i hroom
    split
    · exact .inl rfl
    · by_cases hfits : getTableMaxIntValue s.storage+1<2^31
      · refine .inr ⟨Nat.lt_of_not_le hroom,?_⟩
        simp only [store,if_pos hfits]
      · refine .inl ?_
        simp only [store,if_neg hfits]

theorem inv_sendJSONMessage (h : Inv s) (json uri : String) (succeeds : Bool) :
    Inv (s.executeSendJSONMessage limits json uri succeeds).2 := by
  rcases executeSendJSONMessage_cases limits s json uri succeeds with hrefused|⟨_,hresult⟩
  · rw [hrefused]
    exact h
  · rw [hresult]
    refine ⟨?_,?_,?_,?_,?_,h.answered,?_⟩
    · rw [map_append,pairwise_append]
      refine ⟨h.ids,pairwise_singleton _ _,?_⟩
      intro id hid new hnew
      obtain ⟨row,hrow,rfl⟩ := mem_map.mp hid
      rw [mem_singleton.mp hnew]
      exact Nat.lt_succ_of_le (id_le_getTableMaxIntValue hrow)
    · rw [map_append,pairwise_append]
      refine ⟨h.serials,pairwise_singleton _ _,?_⟩
      intro serial hserial new hnew
      obtain ⟨row,hrow,rfl⟩ := mem_map.mp hserial
      rw [mem_singleton.mp hnew]
      exact h.below row hrow
    · intro row hrow
      rcases mem_append.mp hrow with hrow|hrow
      · exact Nat.lt_succ_of_lt (h.below row hrow)
      · rw [mem_singleton.mp hrow]
        exact Nat.lt_succ_self _
    · rw [map_append,map_append]
      exact h.queue.append (List.Sublist.refl _)
    · intro request hrequest
      obtain ⟨rest,hrest⟩ := h.front request hrequest
      exact ⟨rest++_,by rw [hrest,cons_append]⟩
    · intro serial hlt
      rcases Nat.lt_succ_iff_lt_or_eq.mp hlt with hold|heq
      · rcases h.kept serial hold with hsettled|hcleared|⟨request,hmem,hserial⟩
        · exact .inl hsettled
        · exact .inr (.inl hcleared)
        · exact .inr (.inr ⟨request,mem_append_left _ hmem,hserial⟩)
      · refine .inr (.inr ⟨_,mem_append_right _ mem_cons_self,?_⟩)
        exact heq.symm

variable {rest : List CertifiedMessageRequest}

theorem settle_cases (hfront : s.messagesToSend=request::rest) (status : Status) (erased : Bool) :
    (shouldRetryTransmission status=true ∧
      s.settle request status erased={s with worker := .backoff}) ∨
    shouldRetryTransmission status=false ∧
      (erased=true ∧ s.settle request status erased={s with
          storage := erase s.storage request.dbId,messagesToSend := rest,worker := .waiting} ∨
        erased=false ∧ s.settle request status erased={s with
          messagesToSend := rest,worker := .waiting
          history := s.history++[.eraseFailed request.message.serial]}) := by
  unfold settle
  by_cases hretry : shouldRetryTransmission status=true
  · refine .inl ⟨hretry,?_⟩
    simp only [hretry,if_true,retry,popFront,hfront]
  · refine .inr ⟨by simpa using hretry,?_⟩
    cases erased with
    | true =>
      refine .inl ⟨rfl,?_⟩
      simp only [hretry,if_true,Bool.false_eq_true,if_false,finish,popFront,hfront]
    | false =>
      refine .inr ⟨rfl,?_⟩
      simp only [hretry,Bool.false_eq_true,if_false,finish,popFront,hfront]

theorem kept_rest (h : Inv s) (hfront : s.messagesToSend=request::rest)
    (hsettled : Settled s.history request.message.serial) (serial : ℕ) (hlt : serial<s.accepted) :
    Settled s.history serial ∨ cleared serial∈s.history ∨ ∃ request∈rest,request.message.serial=serial := by
  rcases h.kept serial hlt with hdone|hcleared|⟨request',hmem,hserial⟩
  · exact .inl hdone
  · exact .inr (.inl hcleared)
  · rw [hfront] at hmem
    rcases mem_cons.mp hmem with rfl|hmem
    · exact .inl (hserial ▸ hsettled)
    · exact .inr (.inr ⟨request',hmem,hserial⟩)

/-- Without the row of the front, the rest of the queue is in the table. -/
theorem rest_sublist_erase (h : Inv s) (hfront : s.messagesToSend=request::rest) :
    (rest.map entryOf).filter (fun entry => decide (entry.1≠request.dbId))=rest.map entryOf ∧
    (erase s.storage request.dbId).map rowOf =
      (s.storage.map rowOf).filter fun entry => decide (entry.1≠request.dbId) := by
  constructor
  · have hids := h.queue_ids
    rw [hfront,map_cons,pairwise_cons] at hids
    refine filter_eq_self.mpr fun entry hentry => ?_
    obtain ⟨request',hmem,rfl⟩ := mem_map.mp hentry
    have hlt := hids.1 request'.dbId (mem_map_of_mem hmem)
    exact decide_eq_true (Nat.ne_of_gt hlt)
  · rw [filter_map]
    rfl

variable {status : Status}

theorem inv_settle (h : Inv s) (hdecided : s.worker=.decided request status) (erased : Bool) :
    Inv (s.settle request status erased) := by
  obtain ⟨rest,hfront⟩ := h.front request (by rw [hdecided]; rfl)
  have hanswered := h.answered request status (by rw [hdecided]; rfl)
  rcases settle_cases hfront status erased with ⟨_,hresult⟩|⟨hfinal,hresult⟩
  · rw [hresult]
    refine inv_frame h rfl rfl rfl [] (append_nil _).symm ?_ ?_
    · exact nofun
    · exact nofun
  · have hsettled : Settled s.history request.message.serial := ⟨status,hanswered,hfinal⟩
    have hkept := kept_rest h hfront hsettled
    have htail : (rest.map entryOf).Sublist (s.storage.map rowOf) := by
      have hqueue := h.queue
      rw [hfront] at hqueue
      exact (sublist_cons_self _ _).trans hqueue
    rcases hresult with ⟨_,hresult⟩|⟨_,hresult⟩
    · rw [hresult]
      refine ⟨?_,?_,?_,?_,nofun,nofun,hkept⟩
      · exact h.ids.sublist (filter_sublist.map _)
      · exact h.serials.sublist (filter_sublist.map _)
      · intro row hrow
        exact h.below row (mem_filter.mp hrow).1
      · obtain ⟨hsame,hrows⟩ := rest_sublist_erase h hfront
        rw [hrows,←hsame]
        exact htail.filter _
    · rw [hresult]
      refine ⟨h.ids,h.serials,h.below,htail,nofun,nofun,?_⟩
      intro serial hlt
      rcases hkept serial hlt with hdone|hcleared|hqueued
      · exact .inl (settled_append hdone _)
      · exact .inr (.inl (mem_append_left _ hcleared))
      · exact .inr (.inr hqueued)

/-- While the worker has no message in its hands. -/
theorem inv_clearData (h : Inv s) (hfree : s.worker.currentMessage=none) (clears : Bool) :
    Inv (s.clearData clears) := by
  refine ⟨?_,?_,?_,nil_sublist _,?_,?_,?_⟩
  · unfold clearData
    split
    · exact List.Pairwise.nil
    · exact h.ids
  · unfold clearData
    split
    · exact List.Pairwise.nil
    · exact h.serials
  · unfold clearData
    split
    · exact fun row hrow => absurd hrow not_mem_nil
    · exact h.below
  · intro request hrequest
    have hnone : s.worker.currentMessage=some request := hrequest
    rw [hfree] at hnone
    cases hnone
  · intro request status hanswer
    exact mem_append_left _ (h.answered request status hanswer)
  · intro serial hlt
    rcases h.kept serial hlt with hsettled|hcleared|⟨request,hmem,hserial⟩
    · exact .inl (settled_append hsettled _)
    · exact .inr (.inl (mem_append_left _ hcleared))
    · refine .inr (.inl (mem_append_right _ ?_))
      exact mem_map.mpr ⟨request,hmem,by rw [hserial]⟩

theorem load_eq (h : Inv s) : load s.storage=s.storage := by
  refine mergeSort_of_pairwise ?_
  have hids := pairwise_map.mp h.ids
  exact hids.imp fun hlt => decide_eq_true (Nat.le_of_lt hlt)

theorem restart_queue (h : Inv s) : s.restart.messagesToSend.map entryOf=s.storage.map rowOf := by
  unfold restart
  rw [load_eq h,map_map]
  rfl

theorem inv_restart (h : Inv s) : Inv s.restart := by
  refine ⟨h.ids,h.serials,h.below,?_,nofun,nofun,?_⟩
  · rw [restart_queue h]
    exact List.Sublist.refl _
  · intro serial hlt
    rcases h.kept serial hlt with hsettled|hcleared|⟨request,hmem,hserial⟩
    · exact .inl hsettled
    · exact .inr (.inl hcleared)
    · obtain ⟨row,hrow,hmessage⟩ := h.row hmem
      refine .inr (.inr ⟨⟨row.id,row.message⟩,?_,by rw [hmessage,hserial]⟩)
      unfold restart
      rw [load_eq h]
      exact mem_map_of_mem hrow

/-- `clearData` runs only while the worker has no message in its hands. -/
def ClearsBetween (s : Sender) : Event → Prop
  | .clearData _ => s.worker.currentMessage=none
  | _ => True

variable {event : Event}

theorem inv_step (h : Inv s) (hok : ClearsBetween s event) (hstep : Step limits s event s') : Inv s' := by
  cases hstep with
  | sendJSONMessage json uri succeeds => exact inv_sendJSONMessage h json uri succeeds
  | onConnectionStatusChanged =>
    exact inv_frame h rfl rfl rfl [] (append_nil _).symm h.front (by rw [append_nil]; exact h.answered)
  | @pick request rest waiting connected front =>
    refine inv_frame h rfl rfl rfl [] (append_nil _).symm ?_ nofun
    intro request' hcurrent
    cases hcurrent
    exact ⟨rest,front⟩
  | @sendMessage request picked =>
    refine inv_frame h rfl rfl rfl _ rfl ?_ nofun
    intro request' hcurrent
    cases hcurrent
    exact h.front request (by rw [picked]; rfl)
  | @sendCompleted request status sending | @exceptionReceived request response sending =>
    refine inv_frame h rfl rfl rfl _ rfl ?_ ?_
    · intro request' hcurrent
      cases hcurrent
      exact h.front request (by rw [sending]; rfl)
    · intro request' status' hanswer
      cases hanswer
      exact mem_append_right _ mem_cons_self
  | @wake request status answered =>
    refine inv_frame h rfl rfl rfl [] (append_nil _).symm ?_ ?_
    · intro request' hcurrent
      cases hcurrent
      exact h.front request (by rw [answered]; rfl)
    · intro request' status' hanswer
      cases hanswer
      rw [append_nil]
      exact h.answered request status (by rw [answered]; rfl)
  | settle decided erased => exact inv_settle h decided erased
  | backoffOver => exact inv_frame h rfl rfl rfl [] (append_nil _).symm nofun nofun
  | clearData clears => exact inv_clearData h hok clears
  | restart => exact inv_restart h

def WithoutClear (_ : Sender) : Event → Prop
  | .clearData _ => False
  | _ => True

/-- Those before a message that is sent are settled. -/
def SentInOrder (history : List Mark) : Prop :=
  AtEvery (fun before mark => ∀ serial,mark=.sent serial → ∀ earlier<serial,Settled before earlier) history

/-- What holds besides when nothing is cleared. -/
structure Uncleared (limits : Limits) (s : Sender) : Prop where
  uncleared : ∀ serial,cleared serial∉s.history
  order : SentInOrder s.history
  /-- They are equal and within the limit while every row was deleted. -/
  room : (∀ serial,eraseFailed serial∉s.history) →
    s.messagesToSend.map entryOf=s.storage.map rowOf ∧ s.messagesToSend.length≤limits.queueSizeHardLimit

section

variable (h : Uncleared limits s) (hqueue : s'.messagesToSend=s.messagesToSend) (hstorage : s'.storage=s.storage)
include h hqueue hstorage

/-- Marks that are neither hand-overs to the network nor failures. -/
theorem uncleared_frame (more : List Mark) (hhistory : s'.history=s.history++more)
    (hmore : ∀ mark∈more,∀ serial,mark≠.cleared serial)
    (horder : SentInOrder (s.history++more)) : Uncleared limits s' := by
  refine ⟨?_,?_,?_⟩
  · intro serial hmem
    rw [hhistory] at hmem
    rcases mem_append.mp hmem with hmem|hmem
    · exact h.uncleared serial hmem
    · exact hmore _ hmem serial rfl
  · rw [hhistory]
    exact horder
  · rw [hqueue,hstorage,hhistory]
    intro hnone
    exact h.room fun serial hmem => hnone serial (mem_append_left _ hmem)

theorem uncleared_mark (mark : Mark) (hhistory : s'.history=s.history++[mark])
    (hcleared : ∀ serial,mark≠.cleared serial) (hsent : ∀ serial,mark≠.sent serial) : Uncleared limits s' := by
  refine uncleared_frame h hqueue hstorage [mark] hhistory ?_ ?_
  · intro mark' hmem
    rw [mem_singleton.mp hmem]
    exact hcleared
  · exact atEvery_snoc h.order fun serial hmark => absurd hmark (hsent serial)

end

theorem settled_before_front (h : Inv s) (huncleared : ∀ serial,cleared serial∉s.history)
    (hfront : s.messagesToSend=request::rest) (earlier : ℕ)
    (hlt : earlier<request.message.serial) : Settled s.history earlier := by
  have haccepted : request.message.serial<s.accepted := by
    have hmem : request∈s.messagesToSend := by
      rw [hfront]
      exact mem_cons_self
    obtain ⟨row,hrow,hmessage⟩ := h.row hmem
    rw [←hmessage]
    exact h.below row hrow
  rcases h.kept earlier (Nat.lt_trans hlt haccepted) with hsettled|hcleared|⟨request',hmem,hserial⟩
  · exact hsettled
  · exact absurd hcleared (huncleared earlier)
  · have hserials := h.queue_serials
    rw [hfront,map_cons,pairwise_cons] at hserials
    rw [hfront] at hmem
    rcases mem_cons.mp hmem with rfl|hmem
    · omega
    · have hbehind := hserials.1 request'.message.serial
        (mem_map_of_mem (f := fun request => request.message.serial) hmem)
      omega

/-- A settled message leaves the queue, and its row the table. -/
theorem uncleared_settle (hinv : Inv s) (h : Uncleared limits s) (hdecided : s.worker=.decided request status) (erased : Bool) :
    Uncleared limits (s.settle request status erased) := by
  obtain ⟨rest,hfront⟩ := hinv.front request (by rw [hdecided]; rfl)
  rcases settle_cases hfront status erased with ⟨_,hresult⟩|⟨_,⟨_,hresult⟩|⟨_,hresult⟩⟩
  · rw [hresult]
    exact ⟨h.uncleared,h.order,h.room⟩
  · rw [hresult]
    refine ⟨h.uncleared,h.order,fun hnone => ?_⟩
    obtain ⟨hsame,hroom⟩ := h.room hnone
    obtain ⟨hrest,hrows⟩ := rest_sublist_erase hinv hfront
    refine ⟨?_,?_⟩
    · rw [hrows,←hsame,hfront,map_cons,filter_cons_of_neg,hrest]
      simp [entryOf]
    · rw [hfront] at hroom
      exact le_of_succ_le hroom
  · rw [hresult]
    refine ⟨?_,?_,?_⟩
    · intro serial hmem
      rcases mem_append.mp hmem with hmem|hmem
      · exact h.uncleared serial hmem
      · cases mem_singleton.mp hmem
    · exact atEvery_snoc h.order fun serial hmark => by cases hmark
    · intro hnone
      exact absurd (mem_append_right _ mem_cons_self) (hnone request.message.serial)

theorem uncleared_step (hinv : Inv s) (h : Uncleared limits s)
    (hok : WithoutClear s event) (hstep : Step limits s event s') : Uncleared limits s' := by
  cases hstep with
  | sendJSONMessage json uri succeeds =>
    rcases executeSendJSONMessage_cases limits s json uri succeeds with hrefused|⟨hroom,hresult⟩
    · rw [hrefused]
      exact h
    · rw [hresult]
      refine ⟨h.uncleared,h.order,fun hnone => ?_⟩
      obtain ⟨hsame,_⟩ := h.room hnone
      refine ⟨?_,?_⟩
      · rw [map_append,map_append,hsame]
        rfl
      · rw [length_append,length_singleton]
        exact hroom
  | onConnectionStatusChanged | pick | wake | backoffOver => exact ⟨h.uncleared,h.order,h.room⟩
  | @sendMessage request picked =>
    obtain ⟨rest,hfront⟩ := hinv.front request (by rw [picked]; rfl)
    refine uncleared_frame h rfl rfl _ rfl ?_ ?_
    · intro mark hmem serial hmark
      rw [mem_singleton.mp hmem] at hmark
      cases hmark
    · refine atEvery_snoc h.order ?_
      intro serial hmark
      cases hmark
      exact settled_before_front hinv h.uncleared hfront
  | sendCompleted | exceptionReceived => exact uncleared_mark h rfl rfl _ rfl nofun nofun
  | settle decided erased => exact uncleared_settle hinv h decided erased
  | clearData => exact hok.elim
  | restart =>
    refine ⟨h.uncleared,h.order,fun hnone => ?_⟩
    obtain ⟨hsame,hroom⟩ := h.room hnone
    have hqueue := restart_queue hinv
    refine ⟨hqueue,?_⟩
    have hlength := congrArg List.length (hqueue.trans hsame.symm)
    rw [length_map,length_map] at hlength
    rw [hlength]
    exact hroom

variable {events : List Event}

theorem inv_run (run : Run (Guarded (Step limits) WithoutClear) init events s) : Inv s := by
  refine run.invariant Inv inv_init ?_
  rintro u event v hinv ⟨hok,hstep⟩
  refine inv_step hinv ?_ hstep
  cases event with
  | clearData => exact hok.elim
  | _ => trivial

theorem uncleared_run (run : Run (Guarded (Step limits) WithoutClear) init events s) : Uncleared limits s := by
  induction run with
  | refl => exact ⟨nofun,atEvery_nil,fun _ => ⟨rfl,zero_le _⟩⟩
  | snoc run last ih => exact uncleared_step (inv_run run) ih last.1 last.2

/-- No restart comes behind a row that could not be deleted. -/
def LoadsNoLeftover (limits : Limits) (events : List Event) (s : Sender) : Prop :=
  ∀ before after u,events=before++.restart::after → Run (Guarded (Step limits) WithoutClear) init before u →
    Run (Guarded (Step limits) WithoutClear) u (.restart::after) s → ∀ serial,eraseFailed serial∉u.history

/-- Only a message that is accepted makes the queue longer, and a restart. -/
theorem length_step (hinv : Inv s) (hok : WithoutClear s event) (hrestart : event≠.restart)
    (hroom : s.messagesToSend.length≤limits.queueSizeHardLimit) (hstep : Step limits s event s') :
    s'.messagesToSend.length≤limits.queueSizeHardLimit := by
  cases hstep with
  | sendJSONMessage json uri succeeds =>
    rcases executeSendJSONMessage_cases limits s json uri succeeds with hrefused|⟨hopen,hresult⟩
    · rw [hrefused]
      exact hroom
    · rw [hresult,length_append,length_singleton]
      exact hopen
  | onConnectionStatusChanged | pick | sendMessage | sendCompleted | exceptionReceived | wake | backoffOver => exact hroom
  | @settle request status decided erased =>
    obtain ⟨rest,hfront⟩ := hinv.front request (by rw [decided]; rfl)
    have hrest : rest.length≤limits.queueSizeHardLimit := by
      rw [hfront] at hroom
      exact le_of_succ_le hroom
    rcases settle_cases hfront status erased with ⟨_,hresult⟩|⟨_,⟨_,hresult⟩|⟨_,hresult⟩⟩
    · rw [hresult]
      exact hroom
    · rw [hresult]
      exact hrest
    · rw [hresult]
      exact hrest
  | clearData => exact hok.elim
  | restart => exact absurd rfl hrestart

theorem length_run
    (run : Run (Guarded (Step limits) WithoutClear) init events s) (hleft : LoadsNoLeftover limits events s) :
    s.messagesToSend.length≤limits.queueSizeHardLimit := by
  induction run with
  | refl => exact zero_le _
  | @snoc events u v event run last ih =>
    by_cases hrestart : event=.restart
    · subst hrestart
      have hall : ∀ serial,eraseFailed serial∉u.history := hleft events [] u rfl run (Run.refl.snoc last)
      have hhistory : v.history=u.history := by
        obtain ⟨-,⟨⟩⟩ := last
        rfl
      exact ((uncleared_run (run.snoc last)).room (by rwa [hhistory])).2
    · have hbefore : LoadsNoLeftover limits events u := by
        intro before after w heq hfirst hrest
        refine hleft before (after++[event]) w ?_ hfirst (hrest.snoc last)
        rw [heq,append_assoc,cons_append]
      exact length_step (inv_run run) last.1 hrestart (ih hbefore) last.2

/-- In every run with restarts and statements that fail: the queue is a strictly increasing part of the table;
an accepted message is in both until a status rules out sending it again; those before it are settled when it is
sent; and the queue keeps its limit unless a restart comes behind a row that could not be deleted. -/
theorem certified_delivery (limits : Limits) (events : List Event) (s : Sender)
    (run : Run (Guarded (Step limits) WithoutClear) init events s) :
    (s.messagesToSend.map entryOf).Sublist (s.storage.map rowOf) ∧ (s.storage.map StoredMessage.id).Pairwise (· < ·) ∧
    (s.messagesToSend.map CertifiedMessageRequest.dbId).Pairwise (· < ·) ∧ (∀ serial<s.accepted,
      (∀ status,answered serial status∈s.history → shouldRetryTransmission status=true) →
      (∃ request∈s.messagesToSend,request.message.serial=serial) ∧ ∃ row∈s.storage,row.message.serial=serial) ∧
    (∀ before after serial,s.history=before++sent serial::after → ∀ earlier<serial,
      ∃ status,answered earlier status∈before ∧ shouldRetryTransmission status=false) ∧
    (LoadsNoLeftover limits events s → s.messagesToSend.length≤limits.queueSizeHardLimit) := by
  have hinv := inv_run run
  have huncleared := uncleared_run run
  refine ⟨hinv.queue,hinv.ids,hinv.queue_ids,?_,?_,length_run run⟩
  · intro serial hlt hopen
    rcases hinv.kept serial hlt with ⟨status,hmem,hfinal⟩|hcleared|⟨request,hmem,hserial⟩
    · rw [hopen status hmem] at hfinal
      cases hfinal
    · exact absurd hcleared (huncleared.uncleared serial)
    · obtain ⟨row,hrow,hmessage⟩ := hinv.row hmem
      exact ⟨⟨request,hmem,hserial⟩,row,hrow,by rw [hmessage,hserial]⟩
  · intro before after serial heq earlier hlt
    exact huncleared.order before (.sent serial) after heq serial rfl earlier hlt

def defaultLimits : Limits := ⟨25,50,by decide,by decide⟩

/-- Two messages are sent, the second one when the first is settled. -/
theorem certified_delivery_two_messages : ∃ (events : List Event) (s : Sender),
      Run (Guarded (Step defaultLimits) WithoutClear) init events s ∧
      sent 1∈s.history ∧ s.messagesToSend.length≤50 ∧ ∃ request∈s.messagesToSend,request.message.serial=1 := by
  have hrun : Run (Guarded (Step defaultLimits) WithoutClear) init
      [.sendJSONMessage "m" "" true,.sendJSONMessage "n" "" true,.onConnectionStatusChanged true,
        .pick,.sendMessage,.sendCompleted .success,.wake,.settle true,.pick,.sendMessage] _ :=
    (((((((((Run.refl.snoc ⟨trivial,.sendJSONMessage "m" "" true⟩).snoc
      ⟨trivial,.sendJSONMessage "n" "" true⟩).snoc ⟨trivial,.onConnectionStatusChanged true⟩).snoc
      ⟨trivial,.pick rfl rfl rfl⟩).snoc ⟨trivial,.sendMessage rfl⟩).snoc
      ⟨trivial,.sendCompleted .success rfl⟩).snoc ⟨trivial,.wake rfl⟩).snoc
      ⟨trivial,.settle rfl true⟩).snoc ⟨trivial,.pick rfl rfl rfl⟩).snoc ⟨trivial,.sendMessage rfl⟩
  obtain ⟨_,_,_,hkept,_,hroom⟩ := certified_delivery defaultLimits _ _ hrun
  refine ⟨_,_,hrun,by decide,hroom ?_,(hkept 1 (by decide) ?_).1⟩
  · intro before after u heq
    have hmem : Event.restart∈before++Event.restart::after := mem_append_right _ mem_cons_self
    rw [←heq] at hmem
    simp at hmem
  · intro status hmem
    simp [settle,finish,popFront,executeSendJSONMessage,init,
      store,shouldRetryTransmission,defaultLimits,getTableMaxIntValue] at hmem

theorem getTableMaxIntValue_snoc (rows : List StoredMessage) (row : StoredMessage) :
    getTableMaxIntValue (rows++[row])=max (getTableMaxIntValue rows) row.id := by
  induction rows with
  | nil => simp [getTableMaxIntValue]
  | cons first rows ih =>
    rw [cons_append,getTableMaxIntValue,getTableMaxIntValue,ih,Nat.max_assoc]

theorem accept_many (n : ℕ) (hroom : s.messagesToSend.length+n≤limits.queueSizeHardLimit)
    (hfits : getTableMaxIntValue s.storage+n<2^31) : ∃ t,Run (Guarded (Step limits) WithoutClear) s
        (List.replicate n (.sendJSONMessage "" "" true)) t ∧ t.messagesToSend.length=s.messagesToSend.length+n ∧
      t.storage.length=s.storage.length+n ∧ getTableMaxIntValue t.storage=getTableMaxIntValue s.storage+n := by
  induction n with
  | zero => exact ⟨s,Run.refl,rfl,rfl,rfl⟩
  | succ n ih =>
    obtain ⟨t,hrun,hqueue,hstorage,hmax⟩ := ih (by omega) (by omega)
    have hopen : ¬limits.queueSizeHardLimit≤t.messagesToSend.length := by omega
    have hnext : getTableMaxIntValue t.storage+1<2^31 := by omega
    have hresult : (t.executeSendJSONMessage limits "" "" true).2={t with
        storage := t.storage++[⟨getTableMaxIntValue t.storage+1,⟨t.accepted,"",""⟩⟩]
        messagesToSend :=
          t.messagesToSend++[⟨getTableMaxIntValue t.storage+1,⟨t.accepted,"",""⟩⟩]
        accepted := t.accepted+1} := by
      simp only [executeSendJSONMessage,if_neg hopen,store,if_pos hnext,Bool.true_eq_false,if_false]
    have hstep : Guarded (Step limits) WithoutClear t (.sendJSONMessage "" "" true)
        (t.executeSendJSONMessage limits "" "" true).2 := ⟨trivial,.sendJSONMessage "" "" true⟩
    refine ⟨_,replicate_succ' ▸ hrun.snoc hstep,?_,?_,?_⟩
    · rw [hresult,length_append,hqueue]
      rfl
    · rw [hresult,length_append,hstorage]
      rfl
    · rw [hresult,getTableMaxIntValue_snoc,hmax]
      dsimp only
      omega

/-- A row that could not be deleted comes back at a restart. -/
theorem limit_exceeded_after_restart : ∃ (events : List Event) (s : Sender),
      Run (Guarded (Step defaultLimits) WithoutClear) init events s ∧
      s.messagesToSend.length=51 ∧ defaultLimits.queueSizeHardLimit=50 := by
  have hfirst : ∃ s,Run (Guarded (Step defaultLimits) WithoutClear) init
      [.sendJSONMessage "m" "" true,.onConnectionStatusChanged true,.pick,.sendMessage,
        .sendCompleted .success,.wake,.settle false] s ∧
      s.messagesToSend=[] ∧ s.storage.length=1 ∧ getTableMaxIntValue s.storage=1 := by
    refine ⟨_,((((((Run.refl.snoc ⟨trivial,.sendJSONMessage "m" "" true⟩).snoc
      ⟨trivial,.onConnectionStatusChanged true⟩).snoc ⟨trivial,.pick rfl rfl rfl⟩).snoc
      ⟨trivial,.sendMessage rfl⟩).snoc ⟨trivial,.sendCompleted .success rfl⟩).snoc
      ⟨trivial,.wake rfl⟩).snoc ⟨trivial,.settle rfl false⟩,rfl,rfl,rfl⟩
  obtain ⟨s,hrun,hqueue,hstorage,hmax⟩ := hfirst
  have hroom : s.messagesToSend.length+50≤defaultLimits.queueSizeHardLimit := by
    rw [hqueue]
    decide
  obtain ⟨t,hmany,_,hrows,_⟩ := accept_many 50 hroom (by rw [hmax]; decide)
  have hrestart : Guarded (Step defaultLimits) WithoutClear t .restart t.restart := ⟨trivial,.restart⟩
  refine ⟨_,_,(hrun.append hmany).snoc hrestart,?_,rfl⟩
  have hlength := congrArg List.length (restart_queue (inv_run (hrun.append hmany)))
  rw [length_map,length_map,hrows,hstorage] at hlength
  exact hlength

/-- `clearData` comes while the worker has no message, and there is no restart. -/
def ClearsApart (s : Sender) : Event → Prop
  | .clearData _ => s.worker.currentMessage=none
  | .restart => False
  | _ => True

def NotSentAgain (history : List Mark) : Prop :=
  AtEvery (fun before mark => ∀ serial,mark=.sent serial → cleared serial∉before) history

/-- What holds besides when messages are cleared at the right time. -/
structure Apart (s : Sender) : Prop where
  fresh : ∀ request∈s.messagesToSend,cleared request.message.serial∉s.history
  known : ∀ serial,cleared serial∈s.history → serial<s.accepted
  again : NotSentAgain s.history
  nonempty : poppedEmpty∉s.history

theorem apart_mark (h : Apart s) (hqueue : s'.messagesToSend=s.messagesToSend)
    (haccepted : s'.accepted=s.accepted) (mark : Mark) (hhistory : s'.history=s.history++[mark])
    (hcleared : ∀ serial,mark≠.cleared serial) (hpopped : mark≠.poppedEmpty)
    (hsent : ∀ serial,mark=.sent serial → cleared serial∉s.history) : Apart s' := by
  have hold : ∀ serial,cleared serial∈s.history++[mark] → cleared serial∈s.history := by
    intro serial hmem
    rcases mem_append.mp hmem with hmem|hmem
    · exact hmem
    · exact absurd (mem_singleton.mp hmem).symm (hcleared serial)
  refine ⟨?_,?_,?_,?_⟩
  · rw [hqueue,hhistory]
    exact fun request hmem hmark => h.fresh request hmem (hold _ hmark)
  · rw [haccepted,hhistory]
    exact fun serial hmark => h.known serial (hold serial hmark)
  · rw [hhistory]
    exact atEvery_snoc h.again hsent
  · rw [hhistory]
    intro hmem
    rcases mem_append.mp hmem with hmem|hmem
    · exact h.nonempty hmem
    · exact hpopped (mem_singleton.mp hmem).symm

section

variable (hinv : Inv s) (h : Apart s)
include hinv h

theorem apart_settle (hdecided : s.worker=.decided request status) (erased : Bool) :
    Apart (s.settle request status erased) := by
  obtain ⟨rest,hfront⟩ := hinv.front request (by rw [hdecided]; rfl)
  have hrest : ∀ request'∈rest,cleared request'.message.serial∉s.history := by
    intro request' hmem
    refine h.fresh request' ?_
    rw [hfront]
    exact mem_cons_of_mem _ hmem
  rcases settle_cases hfront status erased with ⟨_,hresult⟩|⟨_,⟨_,hresult⟩|⟨_,hresult⟩⟩
  · rw [hresult]
    exact ⟨h.fresh,h.known,h.again,h.nonempty⟩
  · rw [hresult]
    exact ⟨hrest,h.known,h.again,h.nonempty⟩
  · rw [hresult]
    have hshort : Apart {s with messagesToSend := rest,worker := .waiting} :=
      ⟨hrest,h.known,h.again,h.nonempty⟩
    exact apart_mark hshort rfl rfl _ rfl nofun nofun
      nofun

theorem apart_clearData (clears : Bool) : Apart (s.clearData clears) := by
  have hmarks : ∀ mark∈s.messagesToSend.map fun request => cleared request.message.serial,
      ∃ request∈s.messagesToSend,mark=.cleared request.message.serial := by
    intro mark hmem
    obtain ⟨request,hrequest,rfl⟩ := mem_map.mp hmem
    exact ⟨request,hrequest,rfl⟩
  refine ⟨nofun,?_,?_,?_⟩
  · intro serial hmem
    rcases mem_append.mp hmem with hmem|hmem
    · exact h.known serial hmem
    · obtain ⟨request,hrequest,hmark⟩ := hmarks _ hmem
      cases hmark
      obtain ⟨row,hrow,hmessage⟩ := hinv.row hrequest
      rw [←hmessage]
      exact hinv.below row hrow
  · refine atEvery_append h.again ?_
    intro mark hmem before serial hsent
    obtain ⟨request,_,hmark⟩ := hmarks mark hmem
    rw [hmark] at hsent
    cases hsent
  · intro hmem
    rcases mem_append.mp hmem with hmem|hmem
    · exact h.nonempty hmem
    · obtain ⟨request,_,hmark⟩ := hmarks _ hmem
      cases hmark

theorem apart_step (hok : ClearsApart s event) (hstep : Step limits s event s') : Apart s' := by
  cases hstep with
  | sendJSONMessage json uri succeeds =>
    rcases executeSendJSONMessage_cases limits s json uri succeeds with hrefused|⟨_,hresult⟩
    · rw [hrefused]
      exact h
    · rw [hresult]
      refine ⟨?_,?_,h.again,h.nonempty⟩
      · intro request hmem hmark
        rcases mem_append.mp hmem with hmem|hmem
        · exact h.fresh request hmem hmark
        · rw [mem_singleton.mp hmem] at hmark
          exact absurd (h.known _ hmark) (Nat.lt_irrefl _)
      · intro serial hmark
        exact Nat.lt_succ_of_lt (h.known serial hmark)
  | onConnectionStatusChanged | pick | wake | backoffOver => exact ⟨h.fresh,h.known,h.again,h.nonempty⟩
  | @sendMessage request picked =>
    obtain ⟨rest,hfront⟩ := hinv.front request (by rw [picked]; rfl)
    refine apart_mark h rfl rfl _ rfl nofun nofun ?_
    intro serial hmark
    cases hmark
    refine h.fresh request ?_
    rw [hfront]
    exact mem_cons_self
  | sendCompleted | exceptionReceived =>
    exact apart_mark h rfl rfl _ rfl nofun nofun
      nofun
  | settle decided erased => exact apart_settle hinv h decided erased
  | clearData clears => exact apart_clearData hinv h clears
  | restart => exact hok.elim

end

/-- In every run in which `clearData` does not come between the worker and its message: a message that was not
cleared is in the queue and the table until a status rules out sending it again, a cleared one is not sent
again, and the worker does not take from an empty queue. -/
theorem certified_delivery_cleared (limits : Limits) (events : List Event) (s : Sender)
    (run : Run (Guarded (Step limits) ClearsApart) init events s) :
    (∀ serial<s.accepted,cleared serial∉s.history →
      (∀ status,answered serial status∈s.history → shouldRetryTransmission status=true) →
      (∃ request∈s.messagesToSend,request.message.serial=serial) ∧ ∃ row∈s.storage,row.message.serial=serial) ∧
    (∀ before after serial,s.history=before++sent serial::after → cleared serial∉before) ∧
    poppedEmpty∉s.history := by
  have hall : Inv s ∧ Apart s := by
    refine run.invariant (fun s => Inv s ∧ Apart s) ⟨inv_init,nofun,nofun,atEvery_nil,nofun⟩ ?_
    rintro u event v ⟨hinv,hapart⟩ ⟨hok,hstep⟩
    have hclears : ClearsBetween u event := by
      cases event with
      | clearData => exact hok
      | _ => trivial
    exact ⟨inv_step hinv hclears hstep,apart_step hinv hapart hok hstep⟩
  obtain ⟨hinv,hapart⟩ := hall
  refine ⟨?_,?_,hapart.nonempty⟩
  · intro serial hlt hnot hopen
    rcases hinv.kept serial hlt with ⟨status,hmem,hfinal⟩|hcleared|⟨request,hmem,hserial⟩
    · rw [hopen status hmem] at hfinal
      cases hfinal
    · exact absurd hcleared hnot
    · obtain ⟨row,hrow,hmessage⟩ := hinv.row hmem
      exact ⟨⟨request,hmem,hserial⟩,row,hrow,by rw [hmessage,hserial]⟩
  · intro before after serial heq
    exact hapart.again before (.sent serial) after heq serial rfl

/-- A message is cleared while it waits, and the next one is kept. -/
theorem certified_delivery_cleared_in_backoff : ∃ (events : List Event) (s : Sender),
      Run (Guarded (Step defaultLimits) ClearsApart) init events s ∧
      cleared 0∈s.history ∧ poppedEmpty∉s.history ∧
      ∃ request∈s.messagesToSend,request.message.serial=1 := by
  have hrun : Run (Guarded (Step defaultLimits) ClearsApart) init
      [.sendJSONMessage "m" "" true,.onConnectionStatusChanged true,.pick,.sendMessage,
        .sendCompleted .timedout,.wake,.settle true,.clearData true,
        .sendJSONMessage "n" "" true] _ :=
    ((((((((Run.refl.snoc ⟨trivial,.sendJSONMessage "m" "" true⟩).snoc
      ⟨trivial,.onConnectionStatusChanged true⟩).snoc ⟨trivial,.pick rfl rfl rfl⟩).snoc
      ⟨trivial,.sendMessage rfl⟩).snoc ⟨trivial,.sendCompleted .timedout rfl⟩).snoc
      ⟨trivial,.wake rfl⟩).snoc ⟨trivial,.settle rfl true⟩).snoc (by exact ⟨rfl,.clearData true⟩)).snoc
      ⟨trivial,.sendJSONMessage "n" "" true⟩
  obtain ⟨hkept,_,hpopped⟩ := certified_delivery_cleared defaultLimits _ _ hrun
  refine ⟨_,_,hrun,by decide,hpopped,(hkept 1 (by decide) (by decide) ?_).1⟩
  intro status hmem
  simp [settle,retry,popFront,executeSendJSONMessage,init,
    clearData,store,shouldRetryTransmission,defaultLimits,getTableMaxIntValue] at hmem

/-- The queue is cleared while a message is on its way: the message accepted in between is lost, and what is to
be sent again is taken out of an empty queue and sent twice. -/
theorem clear_while_sending_loses : (∃ (events : List Event) (s : Sender),Run (Step defaultLimits) init events s ∧
      s.accepted=2 ∧ cleared 1∉s.history ∧ sent 1∉s.history ∧ s.messagesToSend=[] ∧ s.storage=[]) ∧
    ∃ (events : List Event) (s : Sender),Run (Step defaultLimits) init events s ∧
      s.history=[.sent 0,.cleared 0,.answered 0 .timedout,.poppedEmpty,.sent 0] := by
  constructor
  · have hrun : Run (Step defaultLimits) init _ _ :=
      ((((((((Run.refl.snoc (.sendJSONMessage "m" "" true)).snoc
        (.onConnectionStatusChanged true)).snoc (.pick rfl rfl rfl)).snoc (.sendMessage rfl)).snoc
        (.clearData true)).snoc (.sendJSONMessage "n" "" true)).snoc (.sendCompleted .success rfl)).snoc
        (.wake rfl)).snoc (.settle rfl true)
    exact ⟨_,_,hrun,rfl,by decide,by decide,rfl,rfl⟩
  · have hrun : Run (Step defaultLimits) init _ _ :=
      ((((((((((Run.refl.snoc (.sendJSONMessage "m" "" true)).snoc
        (.onConnectionStatusChanged true)).snoc (.pick rfl rfl rfl)).snoc (.sendMessage rfl)).snoc
        (.clearData true)).snoc (.sendCompleted .timedout rfl)).snoc (.wake rfl)).snoc
        (.settle rfl true)).snoc (.backoffOver rfl)).snoc (.pick rfl rfl rfl)).snoc (.sendMessage rfl)
    exact ⟨_,_,hrun,rfl⟩

end AlexaClientSDK.CertifiedDelivery
