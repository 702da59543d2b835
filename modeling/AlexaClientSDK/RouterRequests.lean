import AlexaClientSDK.LabelledRuns
import AlexaClientSDK.Ledgers
import AlexaClientSDK.MessageRouter

/-!
# The requests of the message router

A request that was accepted is in the queue, was taken by a transport, or was completed. `doShutdown` completes the
oldest request itself, and those that it finds behind that one are dropped.
-/

namespace AlexaClientSDK.RouterRequests

open List LabelledRuns Ledgers MessageRouter Router
open MessageRequestQueue

variable {τ : Type} {s t : Router τ}

/-- Once, and by the router only what no transport has taken; behind `doShutdown` all of these are. -/
structure Completed (s : Router τ) : Prop where
  once : ∀ request,s.completed.count request≤1
  untaken : ∀ request∈s.dequeued,request∉s.completed
  all : s.shutdown=.done → ∀ request<s.accepted,request∉s.dequeued → s.completed.count request=1

/-- What may happen. The queue is cleared when it is empty. -/
def Allowed (s : Router τ) (event : Event τ) : Prop := event=.clearQueue → s.requestQueue.queue=[]

/-- The requests that were not completed. -/
def waiting (s : Router τ) : List ℕ := s.dequeued++s.requestQueue.queue.map MessageRequest.id

/-- In every run in which only what is allowed happens. -/
structure Inv (s : Router τ) : Prop where
  ledger : Ledger s.accepted s.completed (waiting s)
  drained : s.shutdown=.done → s.requestQueue.queue=[]

theorem inv_create (avsGateway : String) : Inv (create avsGateway : Router τ) := ⟨Ledger.nil,fun _ => rfl⟩

theorem Inv.completed (h : Inv s) : Completed s where
  once := nodup_iff_count_le_one.mp h.ledger.nodup
  untaken _ hmem := h.ledger.not_mem (mem_append_left _ hmem)
  all hdone request hlt hnot := by
    refine count_eq_one_of_mem h.ledger.nodup ((h.ledger.mem_iff.mpr hlt).resolve_right fun hmem => ?_)
    unfold waiting at hmem
    rw [h.drained hdone,map_nil,append_nil] at hmem
    exact hnot hmem

theorem inv_sendMessage (h : Inv s) (hopen : s.shutdown≠.done) (isSerialized : Option Bool) :
    Inv (s.sendMessage isSerialized) := by
  unfold sendMessage
  split
  · exact h
  next isSerialized =>
    dsimp only
    split
    · refine ⟨h.ledger.accept ?_,fun hdone => (hopen hdone).elim⟩
      unfold waiting RequestQueue.enqueueRequest
      rw [map_append,map_singleton,←append_assoc]
      exact perm_append_singleton s.accepted (waiting s)
    · have haccepted : Ledger (s.accepted+1) s.completed ([s.accepted]++waiting s) := h.ledger.accept (.refl _)
      exact ⟨haccepted.answer (.refl _),h.drained⟩

theorem inv_dequeue (h : Inv s) (hopen : s.shutdown≠.done) {result : RequestQueue × Option MessageRequest}
    (hresult : s.requestQueue.queue.Perm (result.2.toList++result.1.queue)) : Inv (s.dequeue result) := by
  refine ⟨h.ledger.perm ?_,fun hdone => (hopen hdone).elim⟩
  unfold waiting dequeue
  have hmoved := hresult.map MessageRequest.id
  rw [map_append] at hmoved
  rw [append_assoc]
  exact (hmoved.append_left s.dequeued).symm

theorem inv_completeOldest (h : Inv s) : Inv s.completeOldest := by
  unfold completeOldest
  split
  next hempty => exact ⟨h.ledger,fun _ => isEmpty_iff.mp hempty⟩
  · refine ⟨h.ledger.answer ?_,nofun⟩
    have hmoved := (@dequeueOldestRequest_perm s.requestQueue).map MessageRequest.id
    rw [map_append] at hmoved
    unfold waiting
    refine (hmoved.append_left s.dequeued).trans ?_
    rw [←append_assoc,←append_assoc]
    exact perm_append_comm.append_right _

variable [DecidableEq τ]

theorem inv_step {event : Event τ} (h : Inv s) (hstep : Step s event t) (hallowed : Allowed s event) : Inv t := by
  obtain ⟨hpossible,rfl⟩ := hstep
  cases event with
  | connection => exact ⟨h.ledger,h.drained⟩
  | sendMessage isSerialized =>
    refine inv_sendMessage h (fun hdone => ?_) isSerialized
    obtain hnone|hdisabling := hpossible
    · rw [hdone] at hnone
      cases hnone
    · rw [hdone] at hdisabling
      cases hdisabling
  | dequeueOldestRequest => exact inv_dequeue h hpossible dequeueOldestRequest_perm
  | dequeueSendableRequest => exact inv_dequeue h hpossible dequeueSendableRequest_perm
  | waitForAcknowledgement waiting => cases waiting <;> exact ⟨h.ledger,h.drained⟩
  | doShutdown => exact ⟨h.ledger,nofun⟩
  | completeOldest => exact inv_completeOldest h
  | clearQueue =>
    refine ⟨h.ledger.perm ?_,fun _ => rfl⟩
    unfold waiting Router.next clearQueue RequestQueue.clear
    rw [hallowed rfl]

/-- Else they go wrong: a queue that is cleared was empty. -/
theorem Inv.allowed_of_completed {event : Event τ} (h : Inv s) (hstep : Step s event t) (hcompleted : Completed t) :
    Allowed s event := by
  rintro rfl
  obtain ⟨-,rfl⟩ := hstep
  refine eq_nil_iff_forall_not_mem.mpr fun request hmem => ?_
  have hqueued : request.id∈s.requestQueue.queue.map MessageRequest.id := mem_map_of_mem hmem
  have hwaiting : request.id∈waiting s := mem_append_right _ hqueued
  have hlt : request.id<s.accepted := h.ledger.mem_iff.mp (.inr hwaiting)
  have hnot : request.id∉s.dequeued := fun hdequeued =>
    (nodup_append.mp h.ledger.nodup_pending).2.2 _ hdequeued _ hqueued rfl
  have hone := hcompleted.all rfl request.id hlt hnot
  have hmem := count_pos_iff.mp (hone.symm ▸ Nat.one_pos)
  exact h.ledger.not_mem hwaiting hmem

/-- The runs through states in which the requests are as they should be are those in which only what is
allowed happens. -/
theorem completed_iff {avsGateway : String} {trace : List (Event τ)} :
    Run (Keeping Step Completed) (create avsGateway) trace s ↔ Run (Guarded Step Allowed) (create avsGateway) trace s :=
  Run.keeping_iff Inv (inv_create avsGateway) (fun _ _ _ h hstep hallowed => inv_step h hstep hallowed)
    fun _ _ _ h hstep => ⟨h.allowed_of_completed hstep,fun hallowed => (inv_step h hstep hallowed).completed⟩

/-- The second request in the queue is never completed. -/
theorem shutdown_drops_second_request :
    ∃ (trace : List (Event Unit)) (s : Router Unit),Run Step (create "gateway") trace s ∧ s.shutdown=.done ∧
      s.accepted=2 ∧ s.dequeued=[] ∧ s.completed=[0] ∧ ¬Completed s := by
  have hstart : Run Step (create "gateway" : Router Unit) [] (create "gateway") := .refl
  have henabled := hstart.snoc (step_next (.connection (.enable (some ()))) (.inl rfl))
  have hfirst := henabled.snoc (step_next (.sendMessage (some true)) (.inl rfl))
  have hsecond := hfirst.snoc (step_next (.sendMessage (some true)) (.inl rfl))
  have hdown := hsecond.snoc (step_next .doShutdown rfl)
  have holdest := hdown.snoc (step_next .completeOldest rfl)
  refine ⟨_,_,holdest.snoc (step_next .clearQueue rfl),rfl,rfl,rfl,rfl,fun h => ?_⟩
  exact absurd (h.all rfl 1 (by decide) (by decide)) (by decide)

end AlexaClientSDK.RouterRequests
