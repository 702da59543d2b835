import Mathlib.Data.List.Basic

/-!
# The queue of message requests

`MessageRequestQueue` holds the requests that are still to be sent, oldest first, and knows whether a serialized request
is still to be acknowledged. A request is its number and whether it is serialized; the times are left out.
-/

namespace AlexaClientSDK.MessageRequestQueue

open List

/-- What the queue reads of a `MessageRequest`, and its number. -/
structure MessageRequest where
  id : ℕ
  isSerialized : Bool
deriving DecidableEq

/-- The requests, oldest first, and whether an acknowledgement is awaited. -/
structure RequestQueue where
  queue : List MessageRequest
  isWaitingForAcknowledgement : Bool

/-- A new queue is empty. -/
def create : RequestQueue := ⟨[],false⟩

namespace RequestQueue

section

variable (s : RequestQueue)

/-- A request is put behind the others. -/
def enqueueRequest (request : MessageRequest) : RequestQueue :=
  {s with queue := s.queue++[request]}

/-- The first request leaves, serialized or not. -/
def dequeueOldestRequest : RequestQueue × Option MessageRequest :=
  match s.queue with
  | [] => (s,none)
  | request::rest => ({s with queue := rest},some request)

/-- The request may be sent now. -/
def sendable (request : MessageRequest) : Bool :=
  !s.isWaitingForAcknowledgement || !request.isSerialized

/-- The first request that may be sent leaves. -/
def dequeueSendableRequest : RequestQueue × Option MessageRequest :=
  ({s with queue := s.queue.eraseP s.sendable},s.queue.find? s.sendable)

/-- Some request may be sent. -/
def isMessageRequestAvailable : Bool := s.queue.any s.sendable

/-- Serialized requests are held back from now on. -/
def setWaitingForSendAcknowledgement : RequestQueue :=
  {s with isWaitingForAcknowledgement := true}

/-- The next serialized request may be sent. -/
def clearWaitingForSendAcknowledgement : RequestQueue :=
  {s with isWaitingForAcknowledgement := false}

def empty : Bool := s.queue.isEmpty

/-- All requests are dropped; what is awaited stays. -/
def clear : RequestQueue := {s with queue := []}

end

end RequestQueue

open RequestQueue

variable {s : RequestQueue} {request : MessageRequest}

/-- Nothing but the request that is returned leaves. -/
theorem dequeueOldestRequest_perm : s.queue.Perm (s.dequeueOldestRequest.2.toList++s.dequeueOldestRequest.1.queue) := by
  unfold dequeueOldestRequest
  split
  next hqueue => exact hqueue ▸ List.Perm.refl _
  next hqueue => exact hqueue ▸ List.Perm.refl _

/-- Everything in front of the request that is returned is held back. -/
theorem dequeueSendableRequest_split (h : s.dequeueSendableRequest.2=some request) :
    ∃ held rest,s.queue=held++request::rest ∧ s.dequeueSendableRequest.1.queue=held++rest ∧
      s.sendable request=true ∧ ∀ waiting∈held,s.sendable waiting=false := by
  unfold dequeueSendableRequest at h ⊢
  obtain ⟨hsendable,held,rest,hqueue,hheld⟩ := find?_eq_some_iff_append.mp h
  refine ⟨held,rest,hqueue,?_,hsendable,fun waiting hmem => Bool.eq_false_iff.mpr (by simpa using hheld waiting hmem)⟩
  have hskip : ∀ waiting∈held,¬s.sendable waiting=true := fun waiting hmem => by simpa using hheld waiting hmem
  rw [hqueue,eraseP_append_right _ hskip,eraseP_cons_of_pos hsendable]

/-- The others stay in the queue. -/
theorem dequeueSendableRequest_perm :
    s.queue.Perm (s.dequeueSendableRequest.2.toList++s.dequeueSendableRequest.1.queue) := by
  obtain hnone|⟨request,hsome⟩ := Option.eq_none_or_eq_some s.dequeueSendableRequest.2
  · rw [hnone]
    have hnot := find?_eq_none.mp hnone
    change s.queue.Perm (s.queue.eraseP s.sendable)
    rw [eraseP_of_forall_not hnot]
  · obtain ⟨held,rest,hqueue,hafter,-⟩ := dequeueSendableRequest_split hsome
    rw [hsome,hafter,hqueue]
    exact perm_middle

end AlexaClientSDK.MessageRequestQueue
