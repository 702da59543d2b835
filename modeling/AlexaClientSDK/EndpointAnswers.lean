import Mathlib
import AlexaClientSDK.LabelledRuns
import AlexaClientSDK.EndpointMaps
import AlexaClientSDK.EndpointFlights

/-!
# Every endpoint request is answered once

An accepted request is pending, in flight, about to be reported, or in one final notification. A reconnection may drop
it: an endpoint found unchanged while others have to be sent is reported by nobody, and of two requests for one endpoint
only one is kept. A report that could not be stored leaves the requests in flight as well.
-/

namespace AlexaClientSDK.EndpointAnswers

open Nat AList Option LabelledRuns CapabilitiesDelegate Delegate EndpointSenders EndpointFlights
open EndpointMaps Entry EndpointAnswers

variable {s t : Delegate} {n : ℕ} {x : String} {k : ℕ}

def held {β : Type} (request : β → Option ℕ) (map : AList fun _ : String => β) (x : String) (k : ℕ) : ℕ :=
  if (map.lookup x).map request=some (some k) then 1 else 0

/-- How often an endpoint is reported for a request. -/
def reported (addOrUpdate delete : List Report) (x : String) (k : ℕ) : ℕ :=
  addOrUpdate.count (x,some k)+delete.count (x,some k)

/-- And the endpoints are no longer in flight. -/
def awaits (sender : Sender) (x : String) (k : ℕ) : ℕ :=
  match sender.stage with
  | .moved | .reset => held request sender.addOrUpdate x k+held id sender.delete x k
  | .cleared _ addOrUpdate delete | .dropped _ addOrUpdate delete => reported addOrUpdate delete x k
  | _ => 0

section

variable (s)

def awaiting (x : String) (k : ℕ) : ℕ := ∑ n∈Finset.range s.created,awaits (s.senders n) x k

/-- What a reconnection is about to report. -/
def tells (connecting : Connecting) (x : String) (k : ℕ) : ℕ :=
  match connecting with
  | .prepared original addOrUpdate _ => if addOrUpdate.entries=[] then held request original x k else 0
  | _ => 0

/-- A notification that is not followed by another try. -/
def final (notification : Notification) : Bool :=
  match notification.state with
  | .SUCCESS | .FATAL_ERROR => true
  | .RETRIABLE_ERROR => false

/-- How often the final notifications include the endpoint of a request. -/
def answers (notifications : List Notification) (x : String) (k : ℕ) : ℕ :=
  (notifications.map fun notification =>
    if final notification then reported notification.addOrUpdate notification.delete x k else 0).sum

/-- Whether a request was made for an endpoint. -/
def asked (requests : List Request) (x : String) (k : ℕ) : ℕ :=
  if requests[k]?.map Request.endpointId=some x then 1 else 0

def places (x : String) (k : ℕ) : ℕ :=
  held request s.addOrUpdate.pending x k+held request s.addOrUpdate.inFlight x k +
    held id s.delete.pending x k+held id s.delete.inFlight x k+awaiting s x k+tells s.connecting x k +
    answers s.notifications x k

/-- Nothing is pending, in flight or about to be reported. -/
structure Settled (s : Delegate) : Prop where
  pending : NonePending s
  inFlight : NoneInFlight s
  senders : ∀ n x k,awaits (s.senders n) x k=0
  connecting : ∀ x k,tells s.connecting x k=0

/-- Every request that was accepted is in one final notification. -/
def AnsweredOnce : Prop :=
  ∀ k request,s.requests[k]?=some request → answers s.notifications request.endpointId k=1

/-- No request is dropped or answered twice: the storage obeys, and when endpoints in flight are put back none
is pending again and all or none of those to be added are stored. -/
def KeepsRequests : Event → Prop
  | .report _ saved => saved=true
  | .createPostConnectOperation loaded => s.connecting=.begun →
      (∀ x,x∈s.addOrUpdate.pending → x∉s.addOrUpdate.inFlight) ∧
      (∀ x,x∈s.delete.pending → x∉s.delete.inFlight) ∧
      (loaded=true →
        (∀ x,x∈(moveInFlight s.addOrUpdate).pending → Unchanged (moveInFlight s.addOrUpdate).pending s.storage x) ∨
        (∀ x,¬Unchanged (moveInFlight s.addOrUpdate).pending s.storage x))
  | _ => True

def Allowed (event : Event) : Prop := Undisturbed s event ∧ KeepsRequests s event

end

variable {β : Type}

theorem count_getEndpointIdentifiers (request : β → Option ℕ) (map : AList fun _ : String => β) :
    (getEndpointIdentifiers request map).count (x,some k)=held request map x k :=
  MapFolds.count_entries map request x (some k)

theorem reported_getEndpointIdentifiers (addOrUpdate : Endpoints) (delete : Deletions) :
    reported (getEndpointIdentifiers request addOrUpdate) (getEndpointIdentifiers id delete) x k =
      held request addOrUpdate x k+held id delete x k := by
  unfold reported
  rw [count_getEndpointIdentifiers,count_getEndpointIdentifiers]

variable {request : β → Option ℕ} {map : AList fun _ : String => β}

theorem held_of_none (h : map.lookup x=none) : held request map x k=0 := by
  unfold held
  rw [h]
  rfl

theorem held_empty (request : β → Option ℕ) : held request ∅ x k=0 := held_of_none rfl

theorem held_congr {map map' : AList fun _ : String => β}
    (h : map'.lookup x=map.lookup x) : held request map' x k=held request map x k := by
  unfold held
  rw [h]

theorem held_moveInFlight {endpoints : InProcess β} (h : x∈endpoints.pending → x∉endpoints.inFlight) :
    held request (moveInFlight endpoints).pending x k =
      held request endpoints.pending x k+held request endpoints.inFlight x k := by
  by_cases hmem : x∈endpoints.pending
  · have hnone : endpoints.inFlight.lookup x=none := lookup_eq_none.mpr (h hmem)
    rw [held_of_none hnone,add_zero]
    refine held_congr ?_
    rw [lookup_moveInFlight,hnone,or_none]
  · have hnone : endpoints.pending.lookup x=none := lookup_eq_none.mpr hmem
    rw [held_of_none hnone,zero_add]
    refine held_congr ?_
    rw [lookup_moveInFlight,hnone,none_or]

theorem answers_append (notifications : List Notification) (notification : Notification) :
    answers (notifications++[notification]) x k=answers notifications x k +
      if final notification then reported notification.addOrUpdate notification.delete x k else 0 := by
  unfold answers
  rw [List.map_append,List.sum_append,List.map_singleton,List.sum_singleton]

theorem asked_append (requests : List Request) (request : Request) : asked (requests++[request]) x k =
      asked requests x k+if k=requests.length ∧ request.endpointId=x then 1 else 0 := by
  unfold asked
  rcases Nat.lt_trichotomy k requests.length with hlt|rfl|hgt
  · have hne : ¬(k=requests.length ∧ request.endpointId=x) := fun h => Nat.ne_of_lt hlt h.1
    rw [List.getElem?_append_left hlt,if_neg hne,Nat.add_zero]
  · simp
  · have hne : ¬(k=requests.length ∧ request.endpointId=x) := fun h => Nat.ne_of_gt hgt h.1
    have hbeyond : (requests++[request]).length≤k := by
      rw [List.length_append,List.length_singleton]
      exact hgt
    rw [List.getElem?_eq_none hbeyond,List.getElem?_eq_none (Nat.le_of_lt hgt),if_neg hne,Nat.add_zero]

/-- The stages at which a sender is not about to report anything. -/
def silent : Stage → Bool
  | .moved | .reset | .cleared _ _ _ | .dropped _ _ _ => false
  | _ => true

/-- The stages that say nothing about what is in flight or stored. -/
def clean : Stage → Bool
  | .read _ _ _ | .unsaved => false
  | _ => true

/-- What was read is in flight, and what was sent was stored. -/
def Fine (s : Delegate) : Stage → Prop
  | .read _ addOrUpdate delete => addOrUpdate=getEndpointIdentifiers Entry.request s.addOrUpdate.inFlight ∧
      delete=getEndpointIdentifiers id s.delete.inFlight
  | .unsaved => False
  | _ => True

structure Balanced (s : Delegate) : Prop where
  places : ∀ x k,places s x k=asked s.requests x k
  fine : ∀ n,Fine s (s.senders n).stage

variable {stage : Stage}

theorem fine_of_clean (h : clean stage=true) : Fine s stage := by
  unfold Fine
  split
  · cases h
  · cases h
  · trivial

theorem Fine.congr (h : Fine s stage) (hinFlight : InFlight t=InFlight s) : Fine t stage := by
  obtain ⟨hadd,hdelete⟩ := Prod.mk.inj hinFlight
  unfold Fine at h ⊢
  rw [hadd,hdelete]
  exact h

theorem awaits_of_silent {sender : Sender} (h : silent sender.stage=true) : awaits sender x k=0 := by
  unfold awaits
  split
  · rename_i hstage
    rw [hstage] at h
    cases h
  · rename_i hstage
    rw [hstage] at h
    cases h
  · rename_i hstage
    rw [hstage] at h
    cases h
  · rename_i hstage
    rw [hstage] at h
    cases h
  · rfl

theorem awaits_congr (hstage : (t.senders n).stage=(s.senders n).stage) (hgiven : Given t n=Given s n) :
    awaits (t.senders n) x k=awaits (s.senders n) x k := by
  obtain ⟨hadd,hdelete⟩ := Prod.mk.inj hgiven
  unfold awaits
  rw [hstage,hadd,hdelete]

theorem awaiting_congr (hcreated : t.created=s.created)
    (h : ∀ n,awaits (t.senders n) x k=awaits (s.senders n) x k) : awaiting t x k=awaiting s x k := by
  unfold awaiting
  rw [hcreated]
  exact Finset.sum_congr rfl fun n _ => h n

/-- One sender goes on, and what it is about to report changes. -/
theorem awaiting_setStage (hn : n<s.created) (stage : Stage) :
    awaiting (s.setStage n stage) x k+awaits (s.senders n) x k =
      awaiting s x k+awaits {s.senders n with stage := stage} x k := by
  have hself : (s.setStage n stage).senders n={s.senders n with stage := stage} := Function.update_self ..
  have hother : ∀ m∈(Finset.range s.created).erase n,
      awaits ((s.setStage n stage).senders m) x k=awaits (s.senders m) x k := by
    intro m hm
    have hsender : (s.setStage n stage).senders m=s.senders m :=
      Function.update_of_ne (Finset.ne_of_mem_erase hm) _ _
    rw [hsender]
  have hmem : n∈Finset.range s.created := Finset.mem_range.mpr hn
  have hbefore := Finset.add_sum_erase (Finset.range s.created) (fun m => awaits (s.senders m) x k) hmem
  have hafter :=
    Finset.add_sum_erase (Finset.range s.created) (fun m => awaits ((s.setStage n stage).senders m) x k) hmem
  rw [Finset.sum_congr rfl hother] at hafter
  rw [hself] at hafter
  change (∑ m∈Finset.range s.created,awaits ((s.setStage n stage).senders m) x k)+awaits (s.senders n) x k =
    (∑ m∈Finset.range s.created,awaits (s.senders m) x k)+awaits {s.senders n with stage := stage} x k
  omega

/-- Where requests are outside of the maps. -/
def elsewhere (s : Delegate) := (s.created,s.connecting,s.notifications,s.requests,s.senders)

section

variable (h : Balanced s)
include h

section

variable (hadd : t.addOrUpdate=s.addOrUpdate)
include hadd

section

variable (hdelete : t.delete=s.delete)
  (hcreated : t.created=s.created)
  (htells : ∀ x k,tells t.connecting x k=tells s.connecting x k)
  (hanswers : ∀ x k,answers t.notifications x k=answers s.notifications x k)
  (hrequests : t.requests=s.requests)
include hdelete hcreated htells hanswers hrequests

theorem Balanced.advance (hawaits : ∀ n x k,awaits (t.senders n) x k=awaits (s.senders n) x k)
    (hfine : ∀ n,Fine s (s.senders n).stage → Fine t (t.senders n).stage) : Balanced t := by
  refine ⟨?_,fun n => hfine n (h.fine n)⟩
  intro x k
  have hplaces := h.places x k
  unfold EndpointAnswers.places at hplaces ⊢
  rw [hadd,hdelete,htells,hanswers,hrequests,awaiting_congr hcreated fun n => hawaits n x k]
  exact hplaces

/-- A step that moves no request and leaves the senders as far as they are. -/
theorem Balanced.frame (hstage : ∀ n,(t.senders n).stage=(s.senders n).stage)
    (hgiven : ∀ n,Given t n=Given s n) : Balanced t := by
  refine h.advance hadd hdelete hcreated htells hanswers hrequests ?_ ?_
  · intro n x k
    exact awaits_congr (hstage n) (hgiven n)
  · intro n hn
    rw [hstage]
    refine hn.congr ?_
    unfold InFlight
    rw [hadd,hdelete]

end

theorem Balanced.same (hdelete : t.delete=s.delete) (hsame : elsewhere t=elsewhere s) : Balanced t := by
  simp only [elsewhere,Prod.mk.injEq] at hsame
  obtain ⟨hcreated,hconnecting,hnotifications,hrequests,hsenders⟩ := hsame
  refine h.frame hadd hdelete hcreated ?_ ?_ hrequests ?_ ?_
  · intro x k
    rw [hconnecting]
  · intro x k
    rw [hnotifications]
  · intro n
    rw [hsenders]
  · intro n
    unfold Given
    rw [hsenders]

end

theorem Balanced.reset : Balanced s.resetDiscoveryEventSender :=
  h.frame rfl rfl rfl (fun _ _ => rfl) (fun _ _ => rfl) rfl stage_reset given_reset

/-- A sender goes on, and is about to report nothing. -/
theorem Balanced.setStage {old : Stage} (hold : (s.senders n).stage=old)
    (hsilent : silent old=true) (hnew : silent stage=true) (hclean : clean stage=true) :
    Balanced (s.setStage n stage) := by
  refine h.advance rfl rfl rfl (fun _ _ => rfl) (fun _ _ => rfl) rfl ?_ ?_
  · intro m x k
    rcases eq_or_ne m n with rfl|hne
    · rw [awaits_of_silent (by rw [stage_setStage,if_pos rfl]; exact hnew),
        awaits_of_silent (by rw [hold]; exact hsilent)]
    · refine awaits_congr ?_ (given_setStage n m stage)
      rw [stage_setStage,if_neg hne]
  · intro m hm
    rw [stage_setStage]
    split
    · exact fine_of_clean hclean
    · exact hm.congr rfl

theorem Balanced.createSender (addOrUpdate : Endpoints) (delete : Deletions) :
    Balanced (s.createSender addOrUpdate delete) := by
  have hnew : ∀ x k,awaits ((s.createSender addOrUpdate delete).senders s.created) x k=0 := by
    intro x k
    refine awaits_of_silent ?_
    rw [stage_createSender,if_pos rfl]
    rfl
  have hold : ∀ x k,∀ n∈Finset.range s.created,
      awaits ((s.createSender addOrUpdate delete).senders n) x k=awaits (s.senders n) x k := by
    intro x k n hn
    have hne : n≠s.created := Nat.ne_of_lt (Finset.mem_range.mp hn)
    refine awaits_congr ?_ ?_
    · rw [stage_createSender,if_neg hne]
    · rw [given_createSender,if_neg hne]
  refine ⟨?_,?_⟩
  · intro x k
    have hawaiting : awaiting (s.createSender addOrUpdate delete) x k=awaiting s x k := by
      change ∑ n∈Finset.range (s.created+1),awaits ((s.createSender addOrUpdate delete).senders n) x k=_
      rw [Finset.sum_range_succ,hnew,Nat.add_zero,Finset.sum_congr rfl (hold x k)]
      rfl
    have hplaces := h.places x k
    unfold EndpointAnswers.places at hplaces ⊢
    rw [hawaiting]
    exact hplaces
  · intro n
    rw [stage_createSender]
    split
    · exact trivial
    · exact (h.fine n).congr rfl

end

/-- A request makes an endpoint pending that was not. -/
theorem held_insert {y : String} {value : β}
    {number : ℕ} (hnone : map.lookup y=none) (hvalue : request value=some number) :
    held request (map.insert y value) x k = held request map x k+if k=number ∧ y=x then 1 else 0 := by
  rcases eq_or_ne x y with rfl|hne
  · rw [held_of_none hnone,zero_add]
    unfold held
    rw [lookup_insert,map_some,hvalue]
    simp only [some.injEq,and_true,eq_comm]
  · rw [if_neg fun h => hne h.2.symm,add_zero]
    exact held_congr (lookup_insert_ne hne)

theorem lt_created (hnumbered : Numbered s) (hstage : (s.senders n).stage=stage)
    (htold : told stage=true) : n<s.created := by
  refine hnumbered.lt ?_
  intro habsent
  rw [←hstage,habsent] at htold
  cases htold

theorem entries_eq_nil (h : ∀ x,map.lookup x=none) : map.entries=[] := by
  obtain ⟨entries,hnodup⟩ := map
  cases entries with
  | nil => rfl
  | cons entry rest =>
    obtain ⟨y,value⟩ := entry
    have hsome := h y
    change List.dlookup y (⟨y,value⟩::rest)=none at hsome
    rw [List.dlookup_cons_eq] at hsome
    cases hsome

theorem held_deletions (pending : Endpoints) (endpoints storage : Configs) (deletions : Deletions) :
    held id (reconcile pending endpoints storage deletions).deletions x k=held id deletions x k := by
  unfold reconcile
  split
  · rfl
  · by_cases hstale : ((filterUnchanged pending endpoints storage).stored.lookup x).isSome ∧
        (filterUnchanged pending endpoints storage).endpoints.lookup x=none ∧
        (filterUnchanged pending endpoints storage).pending.lookup x=none ∧ deletions.lookup x=none
    · rw [held_of_none hstale.2.2.2]
      unfold held
      rw [lookup_addStale,if_pos hstale]
      rfl
    · refine held_congr ?_
      rw [lookup_addStale,if_neg hstale]

/-- Registered endpoints are added, and what is pending stays or goes. -/
theorem held_pending {pending : Endpoints} {storage : Configs} (endpoints : Configs) (deletions : Deletions)
    (hstored : (∀ x,x∈pending → Unchanged pending storage x) ∨ ∀ x,¬Unchanged pending storage x) :
    (∀ x k,held Entry.request (reconcile pending endpoints storage deletions).pending x k =
      held Entry.request pending x k) ∨ (reconcile pending endpoints storage deletions).pending.entries=[] := by
  unfold reconcile
  split
  · refine .inl fun x k => ?_
    by_cases hnone : deletions.lookup x=none ∧ pending.lookup x=none
    · rw [held_of_none hnone.2]
      unfold held
      rw [lookup_addRegistered,if_pos hnone,map_map]
      refine if_neg ?_
      rw [map_eq_some_iff]
      rintro ⟨config,_,hrequest⟩
      cases hrequest
    · refine held_congr ?_
      rw [lookup_addRegistered,if_neg hnone]
  · rcases hstored with hall|hnone
    · refine .inr (entries_eq_nil fun x => ?_)
      by_cases hunchanged : Unchanged pending storage x
      · exact ((lookup_filterUnchanged x pending endpoints storage).1 hunchanged).1
      · refine ((lookup_filterUnchanged x pending endpoints storage).2 hunchanged).1.trans ?_
        exact lookup_eq_none.mpr fun hmem => hunchanged (hall x hmem)
    · exact .inl fun x k => held_congr ((lookup_filterUnchanged x pending endpoints storage).2 (hnone x)).1

/-- What holds between two steps. -/
structure Inv (s : Delegate) : Prop where
  numbered : Numbered s
  flight : Flight s
  balanced : Balanced s

variable {notification : Notification}

theorem answers_append_of_none
    (h : ∀ x k,(if final notification then reported notification.addOrUpdate notification.delete x k else 0)=0)
    (notifications : List Notification) (x : String) (k : ℕ) :
    answers (notifications++[notification]) x k=answers notifications x k := by
  rw [answers_append,h,add_zero]

section

variable (h : Balanced s)
include h

theorem balanced_addOrUpdateEndpoint (valid : Bool) (endpointId config : String) :
    Balanced (s.addOrUpdateEndpoint valid endpointId config).2 := by
  unfold addOrUpdateEndpoint
  split
  · exact h
  · rename_i haccepted
    have hnone : s.addOrUpdate.pending.lookup endpointId=none :=
      lookup_eq_none.mpr fun hmem => haccepted (.inr (.inr hmem))
    refine ⟨?_,fun n => (h.fine n).congr rfl⟩
    intro x k
    have hplaces := h.places x k
    unfold places at hplaces ⊢
    change held Entry.request (s.addOrUpdate.pending.insert endpointId ⟨config,some s.requests.length⟩) x k +
      held Entry.request s.addOrUpdate.inFlight x k+held id s.delete.pending x k +
      held id s.delete.inFlight x k+awaiting s x k+tells s.connecting x k+answers s.notifications x k =
      asked (s.requests++[⟨endpointId,.addOrUpdate config⟩]) x k
    rw [asked_append,held_insert hnone rfl]
    dsimp only
    omega

theorem balanced_deleteEndpoint (valid : Bool) (endpointId : String) :
    Balanced (s.deleteEndpoint valid endpointId).2 := by
  unfold deleteEndpoint
  split
  · exact h
  · rename_i haccepted
    have hnone : s.delete.pending.lookup endpointId=none :=
      lookup_eq_none.mpr fun hmem => haccepted (.inr (.inr (.inr hmem)))
    refine ⟨?_,fun n => (h.fine n).congr rfl⟩
    intro x k
    have hplaces := h.places x k
    unfold places at hplaces ⊢
    change held Entry.request s.addOrUpdate.pending x k+held Entry.request s.addOrUpdate.inFlight x k +
      held id (s.delete.pending.insert endpointId (some s.requests.length)) x k +
      held id s.delete.inFlight x k+awaiting s x k+tells s.connecting x k+answers s.notifications x k =
      asked (s.requests++[⟨endpointId,.delete⟩]) x k
    rw [asked_append,held_insert hnone rfl]
    dsimp only
    omega

theorem fine_of_disengaged {m : ℕ} (hengaged : engaged (s.senders m)=false) : Fine t (s.senders m).stage := by
  have hfine := h.fine m
  refine fine_of_clean ?_
  unfold clean
  split
  · rename_i hstage
    unfold engaged at hengaged
    rw [hstage] at hengaged
    cases hengaged
  · rename_i hstage
    rw [hstage] at hfine
    exact hfine.elim
  · rfl

theorem balanced_movePending (hflight : Flight s) (hnone : NoneInFlight s) : Balanced s.movePending := by
  refine ⟨?_,fun n => fine_of_disengaged h (hflight.disengaged hnone n)⟩
  intro x k
  have hplaces := h.places x k
  unfold places at hplaces ⊢
  have hadd : held Entry.request s.addOrUpdate.inFlight x k=0 := by
    rw [eq_empty hnone.1]
    exact held_empty _
  have hdelete : held id s.delete.inFlight x k=0 := by
    rw [eq_empty hnone.2]
    exact held_empty _
  change held Entry.request ∅ x k+held Entry.request s.addOrUpdate.pending x k+held id ∅ x k +
    held id s.delete.pending x k+awaiting s x k+tells s.connecting x k+answers s.notifications x k =
    asked s.requests x k
  rw [held_empty,held_empty]
  omega

/-- A pass that has nothing to send puts nothing back. -/
theorem balanced_refuse (hflight : Flight s) {addOrUpdate : Endpoints} {delete : Deletions}
    (hpass : s.pass=.moved addOrUpdate delete) (hempty : addOrUpdate.entries=[] ∧ delete.entries=[]) :
    Balanced {s.moveInFlightEndpointsToPending with pass := .refused} := by
  have hcopy : InFlight s=(addOrUpdate,delete) := hflight.copy _ _ (.moving hpass)
  obtain ⟨hadd,hdelete⟩ := Prod.mk.inj hcopy
  exact h.same (moveInFlight_eq (hadd ▸ hempty.1)) (moveInFlight_eq (hdelete ▸ hempty.2)) rfl

/-- A sender takes what is in flight. -/
theorem balanced_takeInFlight (hflight : Flight s) (hcreated : n<s.created) (hengaged : engaged (s.senders n)=true)
    (hsilent : silent (s.senders n).stage=true) (stage : Stage) (hfine : ∀ t,Fine t stage) (endpoints : Configs)
    (htaken : ∀ x k,awaits {s.senders n with stage := stage} x k =
      held Entry.request s.addOrUpdate.inFlight x k+held id s.delete.inFlight x k) :
    Balanced ({s.clearInFlight with endpoints := endpoints}.setStage n stage) := by
  refine ⟨?_,?_⟩
  · intro x k
    have hplaces := h.places x k
    have hawaiting := awaiting_setStage (x := x) (k := k) hcreated stage
    rw [awaits_of_silent hsilent,htaken] at hawaiting
    unfold places at hplaces ⊢
    change held Entry.request s.addOrUpdate.pending x k+held Entry.request ∅ x k +
      held id s.delete.pending x k+held id ∅ x k+awaiting (s.setStage n stage) x k+tells s.connecting x k +
      answers s.notifications x k=asked s.requests x k
    rw [held_empty,held_empty]
    omega
  · intro m
    rw [stage_setStage]
    split
    · exact hfine _
    · rename_i hne
      refine fine_of_disengaged h ((Bool.not_eq_true _).mp fun hm => hne ?_)
      exact hflight.sole hengaged hm

theorem balanced_register (hnumbered : Numbered s) (hflight : Flight s) (hstage : (s.senders n).stage=.erased) :
    Balanced (s.moveInFlightEndpointsToRegisteredEndpoints.setStage n .moved) := by
  have hengaged : engaged (s.senders n)=true := by
    unfold engaged
    rw [hstage]
  obtain ⟨hadd,hdelete⟩ := Prod.mk.inj (hflight.copy _ _ (.sender hengaged))
  refine balanced_takeInFlight h hflight (lt_created hnumbered hstage rfl) hengaged (by rw [hstage]; rfl)
    .moved (fun _ => trivial) _ fun x k => ?_
  rw [hadd,hdelete]
  rfl

variable {status : FatalStatus}

theorem balanced_readInFlight (hstage : (s.senders n).stage=.failed status) :
    Balanced (s.setStage n (.read status (getEndpointIdentifiers Entry.request s.addOrUpdate.inFlight)
      (getEndpointIdentifiers id s.delete.inFlight))) := by
  refine h.advance rfl rfl rfl (fun _ _ => rfl) (fun _ _ => rfl) rfl ?_ ?_
  · intro m x k
    rcases eq_or_ne m n with rfl|hne
    · rw [awaits_of_silent (by rw [stage_setStage,if_pos rfl]; rfl),awaits_of_silent (by rw [hstage]; rfl)]
    · refine awaits_congr ?_ (given_setStage n m _)
      rw [stage_setStage,if_neg hne]
  · intro m hm
    rw [stage_setStage]
    split
    · exact ⟨rfl,rfl⟩
    · exact hm.congr rfl

theorem balanced_clearInFlight (hnumbered : Numbered s) (hflight : Flight s) {addOrUpdate delete : List Report}
    (hstage : (s.senders n).stage=.read status addOrUpdate delete) :
    Balanced (s.clearInFlight.setStage n (.cleared status addOrUpdate delete)) := by
  have hengaged : engaged (s.senders n)=true := by
    unfold engaged
    rw [hstage]
  have hread := h.fine n
  rw [hstage] at hread
  obtain ⟨hadd,hdelete⟩ := hread
  refine balanced_takeInFlight h hflight (lt_created hnumbered hstage rfl) hengaged (by rw [hstage]; rfl)
    (.cleared status addOrUpdate delete) (fun _ => trivial) _ fun x k => ?_
  rw [←reported_getEndpointIdentifiers,←hadd,←hdelete]
  rfl

theorem balanced_notify (hlt : n<s.created) (hfinal : final notification=true)
    (hreports : ∀ x k,awaits (s.senders n) x k=reported notification.addOrUpdate notification.delete x k)
    (hsilent : silent stage=true) (hclean : clean stage=true) :
    Balanced ({s with notifications := s.notifications++[notification]}.setStage n stage) := by
  refine ⟨?_,?_⟩
  · intro x k
    have hplaces := h.places x k
    have hawaiting := awaiting_setStage (x := x) (k := k) hlt stage
    have hnew : awaits {s.senders n with stage := stage} x k=0 := awaits_of_silent hsilent
    have hanswers := answers_append (x := x) (k := k) s.notifications notification
    rw [if_pos hfinal,←hreports x k] at hanswers
    unfold places at hplaces ⊢
    change held Entry.request s.addOrUpdate.pending x k+held Entry.request s.addOrUpdate.inFlight x k +
      held id s.delete.pending x k+held id s.delete.inFlight x k+awaiting (s.setStage n stage) x k +
      tells s.connecting x k+answers (s.notifications++[notification]) x k=asked s.requests x k
    omega
  · intro m
    rw [stage_setStage]
    split
    · exact fine_of_clean hclean
    · exact (h.fine m).congr rfl

theorem balanced_resetReport (hawaits : ∀ x k,awaits {s.senders n with stage := stage} x k=awaits (s.senders n) x k)
    (hclean : clean stage=true) : Balanced (s.resetDiscoveryEventSender.setStage n stage) := by
  refine h.reset.advance rfl rfl rfl (fun _ _ => rfl) (fun _ _ => rfl) rfl ?_ ?_
  · intro m x k
    rcases eq_or_ne m n with rfl|hne
    · rw [awaits_congr (stage_reset m) (given_reset m),←hawaits x k]
      obtain ⟨hadd,hdelete⟩ := Prod.mk.inj
        ((given_setStage (s := s.resetDiscoveryEventSender) m m stage).trans (given_reset m))
      unfold awaits
      rw [stage_setStage,if_pos rfl,hadd,hdelete]
    · refine awaits_congr ?_ (given_setStage n m stage)
      rw [stage_setStage,if_neg hne]
  · intro m hm
    rw [stage_setStage]
    split
    · exact fine_of_clean hclean
    · exact hm.congr rfl

theorem balanced_prepareOperation (hbegun : s.connecting=.begun) (loaded : Bool)
    (hsenders : ∀ n,engaged (s.senders n)=false) (hadd : ∀ x,x∈s.addOrUpdate.pending → x∉s.addOrUpdate.inFlight)
    (hdelete : ∀ x,x∈s.delete.pending → x∉s.delete.inFlight) (hstored : loaded=true →
      (∀ x,x∈(moveInFlight s.addOrUpdate).pending → Unchanged (moveInFlight s.addOrUpdate).pending s.storage x) ∨
      (∀ x,¬Unchanged (moveInFlight s.addOrUpdate).pending s.storage x)) : Balanced (s.prepareOperation loaded) := by
  have hplaces : ∀ x k,held Entry.request (moveInFlight s.addOrUpdate).pending x k +
      held id (moveInFlight s.delete).pending x k+awaiting s x k+answers s.notifications x k =
      asked s.requests x k := by
    intro x k
    have hbefore := h.places x k
    unfold places at hbefore
    rw [hbegun] at hbefore
    have htells : tells .begun x k=0 := rfl
    rw [held_moveInFlight (hadd x),held_moveInFlight (hdelete x)]
    omega
  cases loaded with
  | false =>
    refine ⟨?_,fun n => fine_of_disengaged h (hsenders n)⟩
    intro x k
    have hbefore := hplaces x k
    change held Entry.request (moveInFlight s.addOrUpdate).pending x k+held Entry.request ∅ x k +
      held id (moveInFlight s.delete).pending x k+held id ∅ x k+awaiting s x k+0 +
      answers s.notifications x k=asked s.requests x k
    rw [held_empty,held_empty]
    omega
  | true =>
    refine ⟨?_,fun n => fine_of_disengaged h (hsenders n)⟩
    intro x k
    have hbefore := hplaces x k
    generalize hmaps : reconcile (moveInFlight s.addOrUpdate).pending s.endpoints s.storage
      (moveInFlight s.delete).pending=maps
    have hdeletions : held id maps.deletions x k=held id (moveInFlight s.delete).pending x k := by
      rw [←hmaps]
      exact held_deletions _ _ _ _
    have hpending : held Entry.request maps.pending x k +
        (if maps.pending.entries=[] then held Entry.request (moveInFlight s.addOrUpdate).pending x k else 0) =
        held Entry.request (moveInFlight s.addOrUpdate).pending x k := by
      have hsent := held_pending s.endpoints (moveInFlight s.delete).pending (hstored rfl)
      rw [hmaps] at hsent
      by_cases hempty : maps.pending.entries=[]
      · rw [if_pos hempty,eq_empty hempty,held_empty,zero_add]
      · rw [if_neg hempty,add_zero]
        exact hsent.elim (fun heq => heq x k) fun hnil => absurd hnil hempty
    change held Entry.request ∅ x k +
      held Entry.request (reconcile (moveInFlight s.addOrUpdate).pending s.endpoints s.storage
        (moveInFlight s.delete).pending).pending x k+held id ∅ x k +
      held id (reconcile (moveInFlight s.addOrUpdate).pending s.endpoints s.storage
        (moveInFlight s.delete).pending).deletions x k+awaiting s x k +
      (if (reconcile (moveInFlight s.addOrUpdate).pending s.endpoints s.storage
        (moveInFlight s.delete).pending).pending.entries=[] then
        held Entry.request (moveInFlight s.addOrUpdate).pending x k else 0) +
      answers s.notifications x k=asked s.requests x k
    rw [hmaps,held_empty,held_empty]
    omega

/-- They are reported, if no other has to be added. -/
theorem balanced_tellUnchanged {original addOrUpdate : Endpoints} {delete : Deletions}
    (hprepared : s.connecting=.prepared original addOrUpdate delete) :
    Balanced (s.tellUnchanged original addOrUpdate delete) := by
  refine ⟨?_,fun n => (h.fine n).congr rfl⟩
  intro x k
  have hbefore := h.places x k
  unfold places at hbefore ⊢
  rw [hprepared] at hbefore
  have hafter : tells (s.tellUnchanged original addOrUpdate delete).connecting x k=0 := by
    unfold tellUnchanged
    split
    · rfl
    · rfl
  have hanswers : answers (s.tellUnchanged original addOrUpdate delete).notifications x k =
      answers s.notifications x k+tells (.prepared original addOrUpdate delete) x k := by
    unfold tellUnchanged tells
    dsimp only
    by_cases hempty : addOrUpdate.entries=[]
    · rw [if_pos hempty]
      by_cases hnone : original.entries=[]
      · rw [if_neg fun h => h.2 hnone,eq_empty hnone,held_empty,add_zero]
      · rw [if_pos ⟨hempty,hnone⟩,answers_append]
        refine congrArg _ ?_
        change (getEndpointIdentifiers Entry.request original).count (x,some k)+0=_
        rw [count_getEndpointIdentifiers,add_zero]
    · rw [if_neg fun h => hempty h.1,if_neg hempty,add_zero]
  rw [hafter,hanswers]
  change held Entry.request s.addOrUpdate.pending x k+held Entry.request s.addOrUpdate.inFlight x k +
    held id s.delete.pending x k+held id s.delete.inFlight x k+awaiting s x k+0 +
    (answers s.notifications x k+tells (.prepared original addOrUpdate delete) x k)=asked s.requests x k
  omega

theorem balanced_sendPass (hcreated : (s.senders n).stage=.created) : Balanced (s.sendPass n) := by
  have hadded : Balanced (s.addDiscoveryEventSender n) :=
    h.frame rfl rfl rfl (fun _ _ => rfl) (fun _ _ => rfl) rfl (fun m => stage_setObserved n m true)
      (given_addDiscoveryEventSender n)
  have hstage : ((s.addDiscoveryEventSender n).senders n).stage=.created :=
    (stage_setObserved n n true).trans hcreated
  exact (hadded.setStage hstage rfl rfl rfl).same rfl rfl rfl

/-- It reports nothing before it sends, and loses its observer then. -/
theorem balanced_abortSender (n : ℕ) : Balanced (s.abortSender n) := by
  refine h.advance rfl rfl rfl (fun _ _ => rfl) (fun _ _ => rfl) rfl ?_ ?_
  · intro m x k
    by_cases hself : m=n ∧ (s.senders n).stage=.created
    · rw [awaits_of_silent (by rw [stage_abortSender,if_pos hself]; rfl),
        awaits_of_silent (by rw [hself.1,hself.2]; rfl)]
    · refine awaits_congr ?_ (given_abortSender n m)
      exact (stage_abortSender n m).trans (if_neg hself)
  · intro m hm
    rw [stage_abortSender]
    split
    · trivial
    · exact hm

theorem balanced_notifyRetriable (serverError : Bool) : Balanced (s.notifyRetriable serverError) := by
  have hretriable : ∀ x k,answers (s.notifications++[⟨.RETRIABLE_ERROR,
      if serverError then .SERVER_INTERNAL_ERROR else .UNKNOWN_ERROR,
      getEndpointIdentifiers Entry.request s.addOrUpdate.inFlight,
      getEndpointIdentifiers id s.delete.inFlight⟩]) x k=answers s.notifications x k :=
    answers_append_of_none (fun _ _ => rfl) s.notifications
  unfold notifyRetriable
  split
  · exact h.frame rfl rfl rfl (fun _ _ => rfl) hretriable rfl stage_reset given_reset
  · exact h.frame rfl rfl rfl (fun _ _ => rfl) hretriable rfl (fun _ => rfl) fun _ => rfl

end

/-- Every step that is allowed keeps each request in one place. -/
theorem balanced_step {event : Event} (hinv : Inv s) (hallowed : Allowed s event) (hstep : Step s event t) :
    Balanced t := by
  obtain ⟨hnumbered,hflight,h⟩ := hinv
  obtain ⟨hundisturbed,hkeeps⟩ := hallowed
  cases hstep with
  | addOrUpdateEndpoint valid endpointId config => exact balanced_addOrUpdateEndpoint h valid endpointId config
  | deleteEndpoint valid endpointId => exact balanced_deleteEndpoint h valid endpointId
  | submitUnlessSending | connect | disconnect | beginPass | lookForSender | lookForPending | endPass
  | invalidateCapabilities | doShutdown => exact h.same rfl rfl rfl
  | movePending at_wanted => exact balanced_movePending h hflight (hundisturbed at_wanted)
  | createPassSender at_moved =>
    unfold createPassSender
    split
    · rename_i hempty
      exact balanced_refuse h hflight at_moved hempty
    · exact (h.createSender _ _).same rfl rfl rfl
  | refusePass =>
    exact h.frame rfl rfl rfl (fun _ _ => rfl) (answers_append_of_none (fun _ _ => rfl) s.notifications) rfl
      (fun _ => rfl) fun _ => rfl
  | @sendPass n at_replacing => exact balanced_sendPass h (hnumbered.pass n at_replacing)
  | beginOperation rests =>
    refine h.frame rfl rfl rfl ?_ (fun _ _ => rfl) rfl stage_reset given_reset
    intro x k
    rw [rests]
    rfl
  | prepareOperation at_begun loaded =>
    obtain ⟨hadd,hdelete,hstored⟩ := hkeeps at_begun
    exact balanced_prepareOperation h at_begun loaded (hundisturbed at_begun).1 hadd hdelete hstored
  | tellUnchanged at_prepared => exact balanced_tellUnchanged h at_prepared
  | createOperation at_told =>
    refine (h.createSender _ _).frame rfl rfl rfl ?_ (fun _ _ => rfl) rfl (fun _ => rfl) fun _ => rfl
    intro x k
    change tells _ x k=tells s.connecting x k
    rw [at_told]
    rfl
  | @returnOperation n at_replacing =>
    refine h.frame rfl rfl rfl ?_ (fun _ _ => rfl) rfl (fun m => stage_setObserved n m true)
      (given_addDiscoveryEventSender n)
    intro x k
    rw [at_replacing]
    rfl
  | performOperation returned fresh => exact h.setStage fresh rfl rfl rfl
  | @abortOperation n => exact (balanced_abortSender h n).same rfl rfl rfl
  | retry sends observed serverError => exact balanced_notifyRetriable h serverError
  | fail sends | complete sends | giveUp sends | stop sends => exact h.setStage sends rfl rfl rfl
  | store at_completed => exact (h.setStage at_completed rfl rfl rfl).same rfl rfl rfl
  | storeFails => cases hkeeps
  | erase at_stored => exact (h.setStage at_stored rfl rfl rfl).same rfl rfl rfl
  | eraseFails => cases hkeeps
  | @notifyUnsaved n at_unsaved =>
    have hfine := h.fine n
    rw [at_unsaved] at hfine
    exact hfine.elim
  | register at_erased => exact balanced_register h hnumbered hflight at_erased
  | @resetCompleted n at_moved =>
    refine balanced_resetReport h ?_ rfl
    intro x k
    unfold awaits
    rw [at_moved]
  | @notifySuccess n at_reset =>
    refine balanced_notify h (lt_created hnumbered at_reset rfl) rfl ?_ rfl rfl
    intro x k
    rw [reported_getEndpointIdentifiers]
    unfold awaits
    rw [at_reset]
  | submitPass at_notified => exact (h.setStage at_notified rfl rfl rfl).same rfl rfl rfl
  | readInFlight at_failed => exact balanced_readInFlight h at_failed
  | clearInFlight at_read => exact balanced_clearInFlight h hnumbered hflight at_read
  | @resetFailed n status addOrUpdate delete at_cleared =>
    refine balanced_resetReport h ?_ rfl
    intro x k
    unfold awaits
    rw [at_cleared]
  | @notifyFatal n status addOrUpdate delete at_dropped =>
    refine balanced_notify h (lt_created hnumbered at_dropped rfl) rfl ?_ rfl rfl
    intro x k
    unfold awaits
    rw [at_dropped]
  | shutdownExecutor => exact h.reset.same rfl rfl rfl

theorem inv_create (storage : Configs) : Inv (create storage) := by
  refine ⟨numbered_create storage,flight_create storage,?_,fun _ => trivial⟩
  intro x k
  rfl

theorem inv_step {event : Event} (h : Inv s) (hstep : Guarded Step Allowed s event t) : Inv t :=
  ⟨numbered_step h.numbered hstep.2,flight_step h.flight hstep.1.1 hstep.2,balanced_step h hstep.1 hstep.2⟩

/-- In every run whose steps are allowed, each request that was accepted is in exactly
one final notification once nothing is pending, in flight or about to be reported. -/
theorem requests_answered_once {storage : Configs} {events : List Event}
    (run : Run (Guarded Step Allowed) (create storage) events s) (settled : Settled s) : AnsweredOnce s := by
  have hinv : Inv s := run.invariant Inv (inv_create storage) fun _ _ _ => inv_step
  intro k request hrequest
  have hplaces := hinv.balanced.places request.endpointId k
  have hawaiting : awaiting s request.endpointId k=0 :=
    Finset.sum_eq_zero fun n _ => settled.senders n _ _
  have hasked : asked s.requests request.endpointId k=1 := by
    unfold asked
    rw [hrequest]
    exact if_pos rfl
  unfold places at hplaces
  rw [eq_empty settled.pending.1,eq_empty settled.pending.2,eq_empty settled.inFlight.1,
    eq_empty settled.inFlight.2,held_empty,held_empty,settled.connecting,hawaiting,hasked] at hplaces
  omega

/-- The request for a lamp that is sent over a connection and accepted. -/
theorem requests_answered_once_lamp : ∃ events s,Run (Guarded Step Allowed) (create ∅) events s ∧ Settled s ∧
      s.requests=[⟨"lamp",.addOrUpdate "on/off"⟩] ∧ AnsweredOnce s := by
  have run := (@Run.refl _ _ (Guarded Step Allowed) (create ∅)).allow
    (.connect rfl nofun fun _ h => Operation.noConfusion h) ⟨trivial,trivial⟩
  have run := run.allow (.addOrUpdateEndpoint true "lamp" "on/off") ⟨trivial,trivial⟩
  have run := run.allow (.submitUnlessSending (by decide)) ⟨trivial,trivial⟩
  have run := run.allow (.beginPass rfl (by decide)) ⟨nofun,trivial⟩
  have run := run.allow (.lookForSender rfl) ⟨nofun,trivial⟩
  have run := run.allow (.lookForPending rfl) ⟨nofun,trivial⟩
  have run := run.allow (.movePending rfl) ⟨fun _ => ⟨rfl,rfl⟩,trivial⟩
  have run := run.allow (.createPassSender rfl) ⟨nofun,trivial⟩
  have run := run.allow (@Step.sendPass _ 0 rfl) ⟨nofun,trivial⟩
  have run := run.allow (@Step.complete _ 0 rfl rfl) ⟨trivial,trivial⟩
  have run := run.allow (@Step.store _ 0 rfl) ⟨trivial,rfl⟩
  have run := run.allow (@Step.erase _ 0 rfl) ⟨trivial,rfl⟩
  have run := run.allow (@Step.register _ 0 rfl) ⟨trivial,rfl⟩
  have run := run.allow (@Step.resetCompleted _ 0 rfl) ⟨trivial,rfl⟩
  have run := run.allow (@Step.notifySuccess _ 0 rfl) ⟨trivial,rfl⟩
  refine ⟨_,_,run,?settled,rfl,requests_answered_once run ?settled⟩
  refine ⟨⟨rfl,rfl⟩,⟨rfl,rfl⟩,?_,fun _ _ => rfl⟩
  intro n x k
  cases n with
  | zero => rfl
  | succ => rfl

/-- A lamp that is stored as asked is not reported when a plug is sent. -/
theorem unchanged_endpoint_not_answered :
    ¬∀ storage events s,Run Step (create storage) events s → Settled s → AnsweredOnce s := by
  intro hall
  have run := (@Run.refl _ _ Step (create ((∅ : Configs).insert "lamp" "on/off"))).snoc
    (.addOrUpdateEndpoint true "lamp" "on/off")
  have run := run.snoc (.submitUnlessSending (by decide))
  have run := run.snoc (.addOrUpdateEndpoint true "plug" "on/off")
  have run := run.snoc (.submitUnlessSending (by decide))
  have run := run.snoc (.beginOperation rfl true)
  have run := run.snoc (.prepareOperation rfl true)
  have run := run.snoc (.tellUnchanged rfl true)
  have run := run.snoc (.createOperation rfl true)
  have run := run.snoc (@Step.returnOperation _ 0 rfl true)
  have run := run.snoc (@Step.performOperation _ 0 rfl rfl)
  have run := run.snoc (@Step.complete _ 0 rfl rfl)
  have run := run.snoc (@Step.store _ 0 rfl)
  have run := run.snoc (@Step.erase _ 0 rfl)
  have run := run.snoc (@Step.register _ 0 rfl)
  have run := run.snoc (@Step.resetCompleted _ 0 rfl)
  have run := run.snoc (@Step.notifySuccess _ 0 rfl)
  have hanswered := hall _ _ _ run ⟨⟨rfl,rfl⟩,⟨rfl,rfl⟩,fun n _ _ => by
    cases n with
    | zero => rfl
    | succ => rfl,fun _ _ => rfl⟩ 0 ⟨"lamp",.addOrUpdate "on/off"⟩ rfl
  revert hanswered
  decide +kernel

end AlexaClientSDK.EndpointAnswers
