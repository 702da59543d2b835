import Mathlib.Data.Set.Pairwise.Basic
import AlexaClientSDK.LabelledRuns
import AlexaClientSDK.EndpointRegistration

/-!
# The routing agrees with the registered endpoints

At rest the sequencer has the handlers of the endpoints in `m_endpoints`; in between, for each id, those of the endpoint
registered under it or asked for. What a task has done is undone when a call fails, and what a request has done when the
cloud refuses it. The code misses this where an endpoint does not replace another: handlers added before a call failed
stay.
-/

namespace AlexaClientSDK.EndpointRouting

open Bool AList Function Option List LabelledRuns EndpointRegistration Manager

variable {η : Type}

def taskEndpoint : ExecutorTask η → Option String
  | .registerEndpoint _ endpoint | .deregisterEndpoint _ endpoint => some endpoint.endpointId
  | .capabilityRegistrationStatusChanged _ _ _ _ => none

/-- The endpoint whose request a task that has begun is about to answer. -/
def restEndpoint : Rest η → Option String
  | .registerEndpoint _ endpoint _ | .deregisterEndpoint _ endpoint _ => some endpoint.endpointId
  | .removeDeletedEndpoints _ _ => none

section

variable (s : Manager η)

/-- The endpoints whose requests the executor has not done with. -/
def busy : List String := (s.running.bind restEndpoint).toList++s.tasks.filterMap taskEndpoint

/-- The executor is empty, and no request is pending. -/
structure AtRest (s : Manager η) : Prop where
  tasks : s.tasks=[]
  running : s.running=none
  registrations : s.pendingRegistrations=∅
  deregistrations : s.pendingDeregistrations=∅

/-- The sequencer has the handlers of the endpoints in `m_endpoints`. -/
def Agrees : Prop :=
  ∀ handler,s.routed handler=true ↔ ∃ endpointId,∃ endpoint∈s.endpoints.lookup endpointId,handler∈endpoint.handlers

def Failed : Outcome → Prop
  | .registration result => result≠.SUCCEEDED
  | .deregistration result => result≠.SUCCEEDED

/-- The delegate was given them, and a request is pending. -/
def Final : ExecutorTask η → Prop
  | .capabilityRegistrationStatusChanged _ addedOrUpdatedIds _ _ =>
    ∀ endpointId∈addedOrUpdatedIds,endpointId∈s.pendingRegistrations → endpointId∉busy s
  | .registerEndpoint _ _ | .deregisterEndpoint _ _ => True

def FinalRest : Rest η → Prop
  | .removeDeletedEndpoints _ deletedIds =>
    ∀ endpointId∈deletedIds,endpointId∈s.pendingDeregistrations → endpointId∉busy s
  | .registerEndpoint _ _ _ | .deregisterEndpoint _ _ _ => True

/-- The endpoints are a family's, calls that restore do not fail, notifications are final, and the manager lives
on. -/
def Expected (family : Set (Endpoint η)) (s : Manager η) : Event η → Prop
  | .registerEndpoint endpoint => ∀ registered∈endpoint,registered∈family
  | .perform a =>
    (∀ endpointId handler,a.undoes endpointId handler=true ∧ a.restores endpointId handler=true) ∧
      (s.running=none → ∀ task∈s.tasks.head?,Final s task) ∧ ∀ rest∈s.running,FinalRest s rest
  | .destroy => False
  | .deregisterEndpoint _ | .onCapabilitiesStateChange _ _ _ => True

/-- Without another endpoint to replace, the first handler fails. -/
def CleanTask (a : Answers η) : ExecutorTask η → Prop
  | .registerEndpoint _ endpoint =>
    endpoint.endpointId∉s.endpoints → s.RegistrationFails endpoint a →
      ∀ handler∈endpoint.handlers.head?,a.adds handler=false
  | .deregisterEndpoint _ _ | .capabilityRegistrationStatusChanged _ _ _ _ => True

/-- Nothing is left behind. -/
def Clean : Event η → Prop
  | .perform a => s.running=none → ∀ task∈s.tasks.head?,CleanTask s a task
  | .registerEndpoint _ | .deregisterEndpoint _ | .onCapabilitiesStateChange _ _ _ | .destroy => True

def Allowed (family : Set (Endpoint η)) (s : Manager η) (event : Event η) : Prop :=
  Expected family s event ∧ Clean s event

/-- The endpoint that has the handlers of an id: the registered one, unless the delegate was asked for another.
-/
def serving (endpointId : String) : Option (Endpoint η) :=
  if endpointId∈busy s then s.endpoints.lookup endpointId
  else
    (s.pendingRegistrations.lookup endpointId).elim
      (if endpointId∈s.pendingDeregistrations then none else s.endpoints.lookup endpointId)
      fun pending => some pending.endpoint

/-- The request of a task that was not begun is pending. -/
def TaskPending : ExecutorTask η → Prop
  | .registerEndpoint _ endpoint =>
    ∃ pending∈s.pendingRegistrations.lookup endpoint.endpointId,pending.endpoint=endpoint
  | .deregisterEndpoint _ endpoint =>
    endpoint.endpointId∈s.pendingDeregistrations ∧ endpoint∈s.endpoints.lookup endpoint.endpointId
  | .capabilityRegistrationStatusChanged _ _ _ _ => True

/-- The request that is about to be answered is pending. -/
def RestPending : Rest η → Prop
  | .registerEndpoint _ endpoint _ => endpoint.endpointId∈s.pendingRegistrations
  | .deregisterEndpoint _ endpoint _ => endpoint.endpointId∈s.pendingDeregistrations
  | .removeDeletedEndpoints _ _ => True

end

/-- What holds in every state reached. -/
structure Inv (family : Set (Endpoint η)) (s : Manager η) : Prop where
  routed : ∀ handler,s.routed handler=true ↔
    ∃ endpointId,∃ endpoint∈serving s endpointId,handler∈endpoint.handlers
  keyed : Keyed s
  endpoints : ∀ endpointId,∀ endpoint∈s.endpoints.lookup endpointId,endpoint∈family
  pending : ∀ endpointId,∀ pending∈s.pendingRegistrations.lookup endpointId,pending.endpoint∈family
  apart : ∀ endpointId∈s.pendingRegistrations,endpointId∉s.pendingDeregistrations
  busy : (busy s).Nodup
  tasks : ∀ task∈s.tasks,TaskPending s task
  rest : ∀ rest∈s.running,RestPending s rest

variable {family : Set (Endpoint η)} {s t : Manager η} {endpointId other : String}

theorem inv_create (defaultEndpointId : String) : Inv family (create defaultEndpointId : Manager η) where
  routed := by
    intro handler
    refine iff_of_false false_ne_true ?_
    rintro ⟨endpointId,endpoint,hnone,-⟩
    exact not_mem_none endpoint hnone
  keyed := ⟨fun _ endpoint hnone => (not_mem_none endpoint hnone).elim,
    fun _ pending hnone => (not_mem_none pending hnone).elim⟩
  endpoints := fun _ endpoint hnone => (not_mem_none endpoint hnone).elim
  pending := fun _ pending hnone => (not_mem_none pending hnone).elim
  apart := fun endpointId hempty => (notMem_empty endpointId hempty).elim
  busy := nodup_nil
  tasks := fun _ htask => (not_mem_nil htask).elim
  rest := fun rest hnone => (not_mem_none rest hnone).elim

theorem Inv.pending_of_busy (h : Inv family s) (hbusy : endpointId∈EndpointRouting.busy s) :
    endpointId∈s.pendingRegistrations ∨ endpointId∈s.pendingDeregistrations := by
  obtain hrunning|htask := mem_append.mp hbusy
  · obtain ⟨rest,hrest,hendpoint⟩ := bind_eq_some_iff.mp (mem_toList.mp hrunning)
    have hpending := h.rest rest hrest
    cases rest with
    | registerEndpoint =>
      cases hendpoint
      exact .inl hpending
    | deregisterEndpoint =>
      cases hendpoint
      exact .inr hpending
    | removeDeletedEndpoints => cases hendpoint
  · obtain ⟨task,hmem,hendpoint⟩ := mem_filterMap.mp htask
    have hpending := h.tasks task hmem
    cases task with
    | registerEndpoint =>
      cases hendpoint
      obtain ⟨pending,hlookup,-⟩ := hpending
      exact .inl (lookup_isSome.mp (isSome_iff_exists.mpr ⟨pending,hlookup⟩))
    | deregisterEndpoint =>
      cases hendpoint
      exact .inr hpending.1
    | capabilityRegistrationStatusChanged => cases hendpoint

variable {endpoint : Endpoint η}

theorem mem_serving (h : endpoint∈serving s endpointId) : endpoint∈s.endpoints.lookup endpointId ∨
      ∃ pending∈s.pendingRegistrations.lookup endpointId,pending.endpoint=endpoint := by
  unfold serving at h
  split at h
  · exact .inl h
  · cases hlookup : s.pendingRegistrations.lookup endpointId with
    | none =>
      rw [hlookup] at h
      dsimp only [Option.elim] at h
      split at h
      · exact (not_mem_none endpoint h).elim
      · exact .inl h
    | some pending =>
      rw [hlookup] at h
      exact .inr ⟨pending,rfl,Option.some.inj h⟩

section

variable (h : Inv family s) (hserving : endpoint∈serving s endpointId)
include h hserving

theorem Inv.serving_mem : endpoint∈family := by
  obtain hregistered|⟨pending,hlookup,rfl⟩ := mem_serving hserving
  · exact h.endpoints endpointId endpoint hregistered
  · exact h.pending endpointId pending hlookup

theorem Inv.serving_key :
    endpoint.endpointId=endpointId := by
  obtain hregistered|⟨pending,hlookup,rfl⟩ := mem_serving hserving
  · exact h.keyed.endpoints endpointId endpoint hregistered
  · exact h.keyed.pending endpointId pending hlookup

end

theorem Inv.agrees (h : Inv family s) (hrest : AtRest s) : Agrees s := by
  have hserving : serving s=fun endpointId => s.endpoints.lookup endpointId := by
    funext endpointId
    unfold serving EndpointRouting.busy
    rw [hrest.tasks,hrest.running,hrest.registrations,hrest.deregistrations]
    rfl
  intro handler
  rw [h.routed handler,hserving]

/-- A step concerns one endpoint only. -/
structure Elsewhere (endpointId : String) (s t : Manager η) : Prop where
  endpoints : ∀ other≠endpointId,t.endpoints.lookup other=s.endpoints.lookup other
  registrations : ∀ other≠endpointId,t.pendingRegistrations.lookup other=s.pendingRegistrations.lookup other
  deregistrations : ∀ other≠endpointId,(other∈t.pendingDeregistrations ↔ other∈s.pendingDeregistrations)
  busy : ∀ other≠endpointId,(other∈busy t ↔ other∈busy s)

theorem Elsewhere.serving (h : Elsewhere endpointId s t) (hne : other≠endpointId) :
    serving t other=serving s other := by
  unfold EndpointRouting.serving
  simp only [h.busy other hne,h.registrations other hne,h.deregistrations other hne,h.endpoints other hne]

variable {task : ExecutorTask η}

theorem Elsewhere.taskPending (h : Elsewhere endpointId s t)
    (hne : taskEndpoint task≠some endpointId) (hpending : TaskPending s task) : TaskPending t task := by
  cases task with
  | registerEndpoint request endpoint =>
    have hother : endpoint.endpointId≠endpointId := fun heq => hne (congrArg some heq)
    unfold TaskPending
    dsimp only
    rw [h.registrations _ hother]
    exact hpending
  | deregisterEndpoint request endpoint =>
    have hother : endpoint.endpointId≠endpointId := fun heq => hne (congrArg some heq)
    unfold TaskPending
    dsimp only
    rw [h.deregistrations _ hother,h.endpoints _ hother]
    exact hpending
  | capabilityRegistrationStatusChanged => trivial

variable {rest : Rest η}

theorem Elsewhere.restPending (h : Elsewhere endpointId s t)
    (hne : restEndpoint rest≠some endpointId) (hpending : RestPending s rest) : RestPending t rest := by
  cases rest with
  | registerEndpoint request endpoint =>
    have hother : endpoint.endpointId≠endpointId := fun heq => hne (congrArg some heq)
    unfold RestPending
    dsimp only
    rw [←lookup_isSome,h.registrations _ hother,lookup_isSome]
    exact hpending
  | deregisterEndpoint request endpoint =>
    have hother : endpoint.endpointId≠endpointId := fun heq => hne (congrArg some heq)
    exact (h.deregistrations _ hother).mpr hpending
  | removeDeletedEndpoints => trivial

/-- A step that concerns one endpoint keeps the invariant if it keeps it there. -/
theorem Inv.step (h : Inv family s) (helse : Elsewhere endpointId s t) (hkeyed : Keyed t)
    (hrouted : ∀ handler,t.routed handler=true ↔
      ∃ endpointId,∃ endpoint∈EndpointRouting.serving t endpointId,handler∈endpoint.handlers)
    (hendpoints : ∀ endpoint∈t.endpoints.lookup endpointId,endpoint∈family)
    (hpending : ∀ pending∈t.pendingRegistrations.lookup endpointId,pending.endpoint∈family)
    (hapart : endpointId∈t.pendingRegistrations → endpointId∉t.pendingDeregistrations)
    (hbusy : (EndpointRouting.busy t).Nodup)
    (htasks : ∀ task∈t.tasks,task∈s.tasks ∧ taskEndpoint task≠some endpointId ∨ TaskPending t task)
    (hrest : ∀ rest∈t.running,rest∈s.running ∧ restEndpoint rest≠some endpointId ∨ RestPending t rest) :
    Inv family t where
  routed := hrouted
  keyed := hkeyed
  endpoints := by
    intro other endpoint hlookup
    rcases eq_or_ne other endpointId with rfl|hne
    · exact hendpoints endpoint hlookup
    · exact h.endpoints other endpoint (helse.endpoints other hne ▸ hlookup)
  pending := by
    intro other pending hlookup
    rcases eq_or_ne other endpointId with rfl|hne
    · exact hpending pending hlookup
    · exact h.pending other pending (helse.registrations other hne ▸ hlookup)
  apart := by
    intro other hmem
    rcases eq_or_ne other endpointId with rfl|hne
    · exact hapart hmem
    · rw [helse.deregistrations other hne]
      rw [←lookup_isSome,helse.registrations other hne,lookup_isSome] at hmem
      exact h.apart other hmem
  busy := hbusy
  tasks := fun task hmem => (htasks task hmem).elim
    (fun hbefore => helse.taskPending hbefore.2 (h.tasks task hbefore.1)) id
  rest := fun rest hmem => (hrest rest hmem).elim
    (fun hbefore => helse.restPending hbefore.2 (h.rest rest hbefore.1)) id

theorem Inv.routed_same (h : Inv family s) (helse : Elsewhere endpointId s t)
    (hserving : serving t endpointId=serving s endpointId) (hrouted : t.routed=s.routed) (handler : η) :
    t.routed handler=true ↔ ∃ endpointId,∃ endpoint∈serving t endpointId,handler∈endpoint.handlers := by
  have hall : serving t=serving s := by
    funext other
    rcases eq_or_ne other endpointId with rfl|hne
    · exact hserving
    · exact helse.serving hne
  rw [hrouted,hall]
  exact h.routed handler

theorem serving_of_busy (hbusy : endpointId∈busy s) : serving s endpointId=s.endpoints.lookup endpointId :=
  if_pos hbusy

theorem serving_of_none (hregistration : endpointId∉s.pendingRegistrations)
    (hderegistration : endpointId∉s.pendingDeregistrations) : serving s endpointId=s.endpoints.lookup endpointId := by
  unfold serving
  rw [lookup_eq_none.mpr hregistration,if_neg hderegistration]
  exact ite_self _

variable {pending : Pending η}

theorem serving_of_registration (hbusy : endpointId∉busy s)
    (hlookup : s.pendingRegistrations.lookup endpointId=some pending) :
    serving s endpointId=some pending.endpoint := by
  unfold serving
  rw [if_neg hbusy,hlookup]
  rfl

theorem serving_of_deregistration (hbusy : endpointId∉busy s) (hregistration : endpointId∉s.pendingRegistrations)
    (hderegistration : endpointId∈s.pendingDeregistrations) : serving s endpointId=none := by
  unfold serving
  rw [if_neg hbusy,lookup_eq_none.mpr hregistration,if_pos hderegistration]
  rfl

theorem mem_of_lookup {β : Type} {map : AList fun _ : String => β} {value : β}
    (h : map.lookup endpointId=some value) : endpointId∈map :=
  lookup_isSome.mp (isSome_iff_exists.mpr ⟨value,h⟩)

variable {tasks : List (ExecutorTask η)}

theorem busy_of_tasks (htasks : s.tasks=task::tasks)
    (hrunning : s.running=none) (htask : taskEndpoint task=some endpointId) :
    busy s=endpointId::tasks.filterMap taskEndpoint := by
  unfold busy
  rw [htasks,hrunning,filterMap_cons_some htask]
  rfl

theorem busy_of_running (hrunning : s.running=some rest)
    (hrest : restEndpoint rest=some endpointId) : busy s=endpointId::s.tasks.filterMap taskEndpoint := by
  unfold busy
  rw [hrunning,bind_some,hrest]
  rfl

/-- By requests that succeed alone. -/
def Follows (s t : Manager η) : Prop :=
  ∃ more,t.completed=s.completed++more ∧
    ((∀ completed∈more,Failed completed.2) → ∀ other,t.endpoints.lookup other=s.endpoints.lookup other)

/-- Nothing is answered, and no endpoint is touched. -/
theorem Follows.of_eq (hcompleted : t.completed=s.completed)
    (hendpoints : ∀ other,t.endpoints.lookup other=s.endpoints.lookup other) : Follows s t :=
  ⟨[],hcompleted.trans (append_nil _).symm,fun _ => hendpoints⟩

theorem Follows.same (hcompleted : t.completed=s.completed) (hendpoints : t.endpoints=s.endpoints) : Follows s t :=
  .of_eq hcompleted fun _ => congrArg _ hendpoints

theorem Follows.of_answer {promise : ℕ} {outcome : Outcome} (hcompleted : t.completed=s.completed++[(promise,outcome)])
    (hendpoints : Failed outcome → ∀ other,t.endpoints.lookup other=s.endpoints.lookup other) : Follows s t :=
  ⟨_,hcompleted,fun hfailed => hendpoints (hfailed _ (mem_singleton_self _))⟩

theorem Follows.trans {u : Manager η} (h : Follows s t) (h' : Follows t u) : Follows s u := by
  obtain ⟨first,hfirst,hsame⟩ := h
  obtain ⟨second,hsecond,hsame'⟩ := h'
  refine ⟨first++second,?_,fun hfailed other => ?_⟩
  · rw [hsecond,hfirst,append_assoc]
  · rw [hsame' (fun completed hmem => hfailed completed (mem_append_right _ hmem)),
      hsame fun completed hmem => hfailed completed (mem_append_left _ hmem)]

def handlersOf (endpoint : Option (Endpoint η)) : List η := endpoint.elim [] Endpoint.handlers

theorem mem_handlersOf {endpoint : Option (Endpoint η)} {handler : η} :
    handler∈handlersOf endpoint ↔ ∃ served∈endpoint,handler∈served.handlers := by
  cases endpoint with
  | none => exact iff_of_false not_mem_nil fun ⟨served,hnone,_⟩ => not_mem_none served hnone
  | some served =>
    constructor
    · exact fun hmem => ⟨served,rfl,hmem⟩
    · rintro ⟨other,hother,hmem⟩
      obtain rfl := mem_some_iff.mp hother
      exact hmem

/-- No two endpoints of a family have a handler in common. -/
def Disjointed (family : Set (Endpoint η)) : Prop :=
  family.Pairwise fun first second => ∀ handler∈first.handlers,handler∉second.handlers

section

variable (h : Inv family s)
include h

theorem busy_taken
    (htasks : s.tasks=task::tasks) (hrunning : s.running=none) (htask : taskEndpoint task=some endpointId) :
    endpointId∈busy s ∧ ∀ routed,endpointId∉busy {s with tasks := tasks,routed := routed} := by
  have hbusy := busy_of_tasks htasks hrunning htask
  have hnodup := h.busy
  rw [hbusy] at hnodup ⊢
  refine ⟨mem_cons_self,fun routed => ?_⟩
  rw [hrunning]
  exact (nodup_cons.mp hnodup).1

/-- A step that concerns no endpoint keeps the invariant. -/
theorem Inv.same (hendpoints : t.endpoints=s.endpoints) (hregistrations : t.pendingRegistrations=s.pendingRegistrations)
    (hderegistrations : t.pendingDeregistrations=s.pendingDeregistrations) (hrouted : t.routed=s.routed)
    (hbusy : EndpointRouting.busy t=EndpointRouting.busy s)
    (htasks : ∀ task∈t.tasks,task∈s.tasks ∨ taskEndpoint task=none)
    (hrest : ∀ rest∈t.running,rest∈s.running ∨ restEndpoint rest=none) : Inv family t where
  routed := by
    have hserving : serving t=serving s := by
      funext other
      unfold EndpointRouting.serving
      rw [hendpoints,hregistrations,hderegistrations,hbusy]
    rw [hrouted,hserving]
    exact h.routed
  keyed := by
    refine ⟨?_,?_⟩
    · rw [hendpoints]
      exact h.keyed.endpoints
    · rw [hregistrations]
      exact h.keyed.pending
  endpoints := hendpoints ▸ h.endpoints
  pending := hregistrations ▸ h.pending
  apart := by
    rw [hregistrations,hderegistrations]
    exact h.apart
  busy := hbusy ▸ h.busy
  tasks := by
    intro task hmem
    obtain hbefore|hnone := htasks task hmem
    · have hpending := h.tasks task hbefore
      cases task with
      | registerEndpoint =>
        unfold TaskPending
        rw [hregistrations]
        exact hpending
      | deregisterEndpoint =>
        unfold TaskPending
        rw [hderegistrations,hendpoints]
        exact hpending
      | capabilityRegistrationStatusChanged => trivial
    · cases task with
      | registerEndpoint => cases hnone
      | deregisterEndpoint => cases hnone
      | capabilityRegistrationStatusChanged => trivial
  rest := by
    intro rest hmem
    obtain hbefore|hnone := hrest rest hmem
    · have hpending := h.rest rest hbefore
      cases rest with
      | registerEndpoint =>
        unfold RestPending
        rw [hregistrations]
        exact hpending
      | deregisterEndpoint =>
        unfold RestPending
        rw [hderegistrations]
        exact hpending
      | removeDeletedEndpoints => trivial
    · cases rest with
      | registerEndpoint => cases hnone
      | deregisterEndpoint => cases hnone
      | removeDeletedEndpoints => trivial

theorem Inv.accept (endpointId : String) (helse : Elsewhere endpointId s t)
    (hregistration : endpointId∉s.pendingRegistrations) (hderegistration : endpointId∉s.pendingDeregistrations)
    (htask : taskEndpoint task=some endpointId) (htasks : t.tasks=s.tasks++[task])
    (hpending : TaskPending t task) (hrunning : t.running=s.running) (hrouted : t.routed=s.routed)
    (hendpoints : t.endpoints=s.endpoints) (hkeyed : Keyed t)
    (hfamily : ∀ pending∈t.pendingRegistrations.lookup endpointId,pending.endpoint∈family)
    (hapart : endpointId∈t.pendingRegistrations → endpointId∉t.pendingDeregistrations) : Inv family t := by
  have hidle : endpointId∉EndpointRouting.busy s := fun hbusy =>
    (h.pending_of_busy hbusy).elim hregistration hderegistration
  have hbusy : EndpointRouting.busy t=EndpointRouting.busy s++[endpointId] := by
    unfold EndpointRouting.busy
    rw [htasks,hrunning,filterMap_append,append_assoc,filterMap_cons_some htask]
    rfl
  have hserving : serving t endpointId=serving s endpointId := by
    rw [serving_of_busy (hbusy ▸ mem_concat_self), serving_of_none hregistration hderegistration,hendpoints]
  refine h.step helse hkeyed (h.routed_same helse hserving hrouted) ?_ hfamily hapart ?_ ?_ ?_
  · rw [hendpoints]
    exact h.endpoints endpointId
  · rw [hbusy]
    refine nodup_append.mpr ⟨h.busy,nodup_singleton _,?_⟩
    rintro other hother single hsingle rfl
    exact hidle (mem_singleton.mp hsingle ▸ hother)
  · intro other hmem
    rw [htasks] at hmem
    obtain hbefore|hlast := mem_append.mp hmem
    · refine .inl ⟨hbefore,fun hsame => hidle ?_⟩
      exact mem_append_right _ (mem_filterMap.mpr ⟨other,hbefore,hsame⟩)
    · exact .inr (mem_singleton.mp hlast ▸ hpending)
  · intro rest hmem
    rw [hrunning] at hmem
    refine .inl ⟨hmem,fun hsame => hidle (mem_append_left _ (mem_toList.mpr ?_))⟩
    exact bind_eq_some_iff.mpr ⟨rest,hmem,hsame⟩

theorem inv_registerEndpoint {endpoint : Option (Endpoint η)}
    (hfamily : ∀ registered∈endpoint,registered∈family) : Inv family (s.registerEndpoint endpoint).1 := by
  unfold registerEndpoint
  split
  · exact h
  next endpoint =>
    dsimp only
    split
    · exact h
    · split
      · exact h
      next hregistration =>
        split
        · exact h
        next hderegistration =>
          have hlookup := lookup_insert (a := endpoint.endpointId) (b := (⟨endpoint,s.requests⟩ : Pending η))
            s.pendingRegistrations
          refine h.accept endpoint.endpointId ⟨fun _ _ => rfl,?_,fun _ _ => Iff.rfl,?_⟩
            hregistration hderegistration rfl rfl ⟨_,hlookup,rfl⟩ rfl rfl rfl
            ⟨h.keyed.endpoints,forall_lookup_insert h.keyed.pending rfl⟩ ?_ fun _ => hderegistration
          · exact fun other hne => lookup_insert_ne hne
          · intro other hne
            unfold busy
            dsimp only [submit]
            rw [filterMap_append]
            simp [taskEndpoint,hne]
          · intro pending hpending
            cases hlookup.symm.trans hpending
            exact hfamily endpoint rfl

theorem inv_deregisterEndpoint (endpointId : String) : Inv family (s.deregisterEndpoint endpointId).1 := by
  unfold deregisterEndpoint
  split
  · exact h
  · split
    · exact h
    next hregistration =>
      split
      · exact h
      next endpoint hlookup =>
        split
        · exact h
        next hderegistration =>
          obtain rfl := h.keyed.endpoints endpointId endpoint hlookup
          refine h.accept endpoint.endpointId ⟨fun _ _ => rfl,fun _ _ => rfl,?_,?_⟩
            hregistration hderegistration rfl rfl ⟨?_,hlookup⟩ rfl rfl rfl ⟨h.keyed.endpoints,h.keyed.pending⟩
            (h.pending endpoint.endpointId) fun hmem => (hregistration hmem).elim
          · exact fun other hne => (mem_insert _).trans (or_iff_right hne)
          · intro other hne
            unfold busy
            dsimp only [submit]
            rw [filterMap_append]
            simp [taskEndpoint,hne]
          · exact (mem_insert _).mpr (.inl rfl)

theorem Inv.routed_of_busy (hbusy : endpointId∈EndpointRouting.busy s) :
    ∀ handler∈handlersOf (s.endpoints.lookup endpointId),s.routed handler=true := by
  intro handler hmem
  rw [←serving_of_busy hbusy] at hmem
  obtain ⟨endpoint,hserving,hhandler⟩ := mem_handlersOf.mp hmem
  exact (h.routed handler).mpr ⟨endpointId,endpoint,hserving,hhandler⟩

/-- Not while it waits, but for those it replaces. -/
theorem Inv.unrouted_of_busy (hdisjoint : Disjointed family)
    (hfamily : endpoint∈family) (hbusy : endpoint.endpointId∈EndpointRouting.busy s) :
    ∀ handler∈endpoint.handlers,handler∉handlersOf (s.endpoints.lookup endpoint.endpointId) →
      s.routed handler=false := by
  intro handler hmem hnot
  refine eq_false_of_not_eq_true fun htrue => hnot ?_
  obtain ⟨other,served,hserving,hhandler⟩ := (h.routed handler).mp htrue
  rcases eq_or_ne served endpoint with rfl|hne
  · obtain rfl := h.serving_key hserving
    rw [serving_of_busy hbusy] at hserving
    exact mem_handlersOf.mpr ⟨_,hserving,hmem⟩
  · exact (hdisjoint (h.serving_mem hserving) hfamily hne handler hhandler hmem).elim

end

variable [DecidableEq η]

theorem Inv.routed_moved (h : Inv family s) (hdisjoint : Disjointed family) (helse : Elsewhere endpointId s t)
    {new old : Option (Endpoint η)} (hnew : serving t endpointId=new) (hold : serving s endpointId=old)
    (hrouted : ∀ handler,t.routed handler =
      if handler∈handlersOf new then true else if handler∈handlersOf old then false else s.routed handler)
    (handler : η) :
    t.routed handler=true ↔ ∃ endpointId,∃ endpoint∈serving t endpointId,handler∈endpoint.handlers := by
  subst hnew hold
  rw [hrouted handler]
  split
  next hnew =>
    obtain ⟨endpoint,hserving,hmem⟩ := mem_handlersOf.mp hnew
    exact iff_of_true rfl ⟨endpointId,endpoint,hserving,hmem⟩
  next hnew =>
    split
    next hold =>
      refine iff_of_false false_ne_true ?_
      rintro ⟨other,endpoint,hserving,hmem⟩
      rcases eq_or_ne other endpointId with rfl|hne
      · exact hnew (mem_handlersOf.mpr ⟨endpoint,hserving,hmem⟩)
      · rw [helse.serving hne] at hserving
        obtain ⟨served,hserved,hhandler⟩ := mem_handlersOf.mp hold
        have hdistinct : endpoint≠served := fun heq =>
          hne ((h.serving_key hserving).symm.trans ((congrArg _ heq).trans (h.serving_key hserved)))
        exact hdisjoint (h.serving_mem hserving) (h.serving_mem hserved) hdistinct handler hmem hhandler
    next hold =>
      rw [h.routed handler]
      constructor
      · rintro ⟨other,endpoint,hserving,hmem⟩
        rcases eq_or_ne other endpointId with rfl|hne
        · exact (hold (mem_handlersOf.mpr ⟨endpoint,hserving,hmem⟩)).elim
        · exact ⟨other,endpoint,(helse.serving hne).symm ▸ hserving,hmem⟩
      · rintro ⟨other,endpoint,hserving,hmem⟩
        rcases eq_or_ne other endpointId with rfl|hne
        · exact (hnew (mem_handlersOf.mpr ⟨endpoint,hserving,hmem⟩)).elim
        · exact ⟨other,endpoint,helse.serving hne ▸ hserving,hmem⟩

/-- What a loop over the handlers of an endpoint has done. -/
structure Applied (value : Bool) (endpoint : Endpoint η) (routed : η → Bool) (changes : Changes η) : Prop where
  routed : ∀ handler,changes.routed handler=if handler∈changes.changed then value else routed handler
  changed : ∀ handler∈changes.changed,handler∈endpoint.handlers
  all : changes.succeeded=true → ∀ handler∈endpoint.handlers,handler∈changes.changed

theorem changeHandlers_applied (answers : η → Bool) (value : Bool) (capabilities : List (Option η)) :
    ∀ (routed : η → Bool) (changed : List η),
      let changes := changeHandlers answers value capabilities routed changed
      (∀ handler,changes.routed handler =
        if handler∈changes.changed ∧ handler∉changed then value else routed handler) ∧
      (∀ handler∈changes.changed,handler∈changed ∨ handler∈capabilities.reduceOption) ∧
      (∀ handler∈changed,handler∈changes.changed) ∧
      (changes.succeeded=true → ∀ handler∈capabilities.reduceOption,handler∈changes.changed) := by
  induction capabilities with
  | nil =>
    intro routed changed
    refine ⟨fun handler => (if_neg fun h => h.2 h.1).symm,fun _ => .inl,fun _ h => h,fun _ handler hmem => ?_⟩
    exact (not_mem_nil hmem).elim
  | cons capability rest ih =>
    intro routed changed
    cases capability with
    | none => exact ih routed changed
    | some first =>
      rw [reduceOption_cons_of_some]
      unfold changeHandlers
      split
      next hchanged =>
        obtain ⟨hrouted,hsub,hkept,hall⟩ := ih routed changed
        refine ⟨hrouted,fun handler hmem => (hsub handler hmem).imp_right (mem_cons_of_mem _),hkept,?_⟩
        exact fun hsucceeded => forall_mem_cons.mpr ⟨hkept first hchanged,hall hsucceeded⟩
      next hchanged =>
        split
        · obtain ⟨hrouted,hsub,hkept,hall⟩ := ih (update routed first value) (changed++[first])
          have hfirst := hkept first mem_concat_self
          refine ⟨fun handler => ?_,fun handler hmem => ?_,fun handler hmem => ?_,fun hsucceeded => ?_⟩
          · rw [hrouted handler]
            rcases eq_or_ne handler first with rfl|hne
            · rw [if_neg fun h => h.2 mem_concat_self,update_self,if_pos ⟨hfirst,hchanged⟩]
            · rw [update_of_ne hne]
              refine if_congr (and_congr_right fun _ => not_congr ?_) rfl rfl
              rw [mem_append,mem_singleton,or_iff_left hne]
          · obtain hbefore|hlater := hsub handler hmem
            · obtain hbefore|hsingle := mem_append.mp hbefore
              · exact .inl hbefore
              · exact .inr (mem_singleton.mp hsingle ▸ mem_cons_self)
            · exact .inr (mem_cons_of_mem _ hlater)
          · exact hkept handler (mem_append_left _ hmem)
          · exact forall_mem_cons.mpr ⟨hfirst,hall hsucceeded⟩
        · refine ⟨fun handler => (if_neg fun h => h.2 h.1).symm,fun _ => .inl,fun _ h => h,fun hsucceeded => ?_⟩
          exact (false_ne_true hsucceeded).elim

theorem applied_of_changeHandlers (answers : η → Bool) (value : Bool) (endpoint : Endpoint η) (routed : η → Bool) :
    Applied value endpoint routed (changeHandlers answers value endpoint.capabilities routed []) := by
  obtain ⟨hrouted,hsub,-,hall⟩ := changeHandlers_applied answers value endpoint.capabilities routed []
  refine ⟨fun handler => ?_,fun handler hmem => (hsub handler hmem).resolve_left not_mem_nil,hall⟩
  rw [hrouted handler]
  exact if_congr (and_iff_left not_mem_nil) rfl rfl

theorem removeCapabilities_applied (removes : η → Bool) (endpoint : Endpoint η) (routed : η → Bool) :
    Applied false endpoint routed (removeCapabilities removes endpoint routed) :=
  applied_of_changeHandlers removes false endpoint routed

theorem addCapabilities_applied (adds : η → Bool) (endpoint : Endpoint η) (routed : η → Bool) :
    Applied true endpoint routed (addCapabilities adds endpoint routed) :=
  applied_of_changeHandlers adds true endpoint routed

/-- No handler is added if the first one is refused. -/
theorem changeHandlers_refused {answers : η → Bool} {value : Bool} {capabilities : List (Option η)}
    (routed : η → Bool) (h : ∀ handler∈capabilities.reduceOption.head?,answers handler=false) :
    (changeHandlers answers value capabilities routed []).routed=routed := by
  induction capabilities with
  | nil => rfl
  | cons capability rest ih =>
    cases capability with
    | none => exact ih h
    | some first =>
      rw [reduceOption_cons_of_some] at h
      unfold changeHandlers
      rw [if_neg not_mem_nil,if_neg (not_eq_true _ ▸ h first rfl)]

theorem Applied.complete {value : Bool} {routed : η → Bool} {changes : Changes η}
    (h : Applied value endpoint routed changes) (hsucceeded : changes.succeeded=true) (handler : η) :
    changes.routed handler=if handler∈endpoint.handlers then value else routed handler := by
  rw [h.routed handler]
  exact if_congr ⟨h.changed handler,h.all hsucceeded handler⟩ rfl rfl

theorem revertHandlers_routed {answers : η → Bool} (value : Bool) (hall : ∀ handler,answers handler=true)
    (handlers : List η) : ∀ (routed : η → Bool) (handler : η),
      revertHandlers answers value handlers routed handler=if handler∈handlers then value else routed handler := by
  induction handlers with
  | nil => exact fun routed handler => (if_neg not_mem_nil).symm
  | cons first rest ih =>
    intro routed handler
    unfold revertHandlers at ih ⊢
    rw [foldl_cons,if_pos (hall first),ih]
    by_cases hrest : handler∈rest
    · rw [if_pos hrest,if_pos (mem_cons_of_mem first hrest)]
    · rw [if_neg hrest]
      rcases eq_or_ne handler first with rfl|hne
      · rw [update_self,if_pos mem_cons_self]
      · rw [update_of_ne hne,if_neg fun hmem => hrest ((mem_cons.mp hmem).resolve_left hne)]

/-- They are removed, all of them if no call fails. -/
theorem removePrevious_applied (s : Manager η) (endpoint : Endpoint η) (a : Answers η) :
    let removal := s.removePrevious endpoint a
    (∀ handler,removal.routed handler=if handler∈removal.changed then false else s.routed handler) ∧
      (∀ handler∈removal.changed,handler∈handlersOf (s.endpoints.lookup endpoint.endpointId)) ∧
      (removal.succeeded=true →
        ∀ handler∈handlersOf (s.endpoints.lookup endpoint.endpointId),handler∈removal.changed) := by
  unfold removePrevious
  split
  next hlookup =>
    rw [hlookup]
    exact ⟨fun handler => (if_neg not_mem_nil).symm,fun _ h => h,fun _ _ h => h⟩
  next previousEndpoint hlookup =>
    rw [hlookup]
    have happlied := removeCapabilities_applied a.removes previousEndpoint s.routed
    exact ⟨happlied.routed,happlied.changed,happlied.all⟩

variable {a : Answers η} {s : Manager η}

theorem addNew_routed (h : s.registrationResult endpoint a=.SUCCEEDED) (handler : η) :
    (s.addNew endpoint a).routed handler = if handler∈endpoint.handlers then true
      else if handler∈handlersOf (s.endpoints.lookup endpoint.endpointId) then false else s.routed handler := by
  have hsucceeded : (s.addNew endpoint a).succeeded=true := by
    by_contra hfailed
    unfold registrationResult at h
    rw [if_pos hfailed] at h
    cases h
  obtain ⟨hrouted,hchanged,hall⟩ := removePrevious_applied s endpoint a
  unfold addNew at hsucceeded ⊢
  dsimp only at hsucceeded ⊢
  split at hsucceeded
  next hremoved =>
    rw [if_pos hremoved,(addCapabilities_applied a.adds endpoint _).complete hsucceeded handler,hrouted handler]
    refine if_congr Iff.rfl rfl (if_congr ⟨hchanged handler,hall hremoved handler⟩ rfl rfl)
  · cases hsucceeded

/-- It leaves the routing as it was, if handlers are put back and taken away. -/
theorem revertRegistration_routed
    (hrestore : ∀ endpointId handler,a.undoes endpointId handler=true ∧ a.restores endpointId handler=true)
    (hserved : ∀ handler∈handlersOf (s.endpoints.lookup endpoint.endpointId),s.routed handler=true)
    (hfree : ∀ handler∈endpoint.handlers,
      handler∉handlersOf (s.endpoints.lookup endpoint.endpointId) → s.routed handler=false)
    (hclean : s.endpoints.lookup endpoint.endpointId=none → (s.addNew endpoint a).routed=s.routed) :
    (s.revertRegistration endpoint a).routed=s.routed := by
  obtain ⟨hrouted,hchanged,hall⟩ := removePrevious_applied s endpoint a
  have hundoes := fun handler => (hrestore endpoint.endpointId handler).1
  have hrestores := fun handler => (hrestore endpoint.endpointId handler).2
  unfold revertRegistration
  split
  next hlookup => exact hclean hlookup
  next previousEndpoint hlookup =>
    funext handler
    dsimp only
    rw [revertHandlers_routed true hrestores,revertHandlers_routed false hundoes]
    by_cases hremoved : handler∈(s.removePrevious endpoint a).changed
    · rw [if_pos hremoved,hserved handler (hchanged handler hremoved)]
    · rw [if_neg hremoved]
      unfold addNew
      dsimp only
      split
      next hsucceeded =>
        have happlied := addCapabilities_applied a.adds endpoint (s.removePrevious endpoint a).routed
        split
        next hadded =>
          refine (hfree handler (happlied.changed handler hadded) fun hmem => ?_).symm
          exact hremoved (hall hsucceeded handler hmem)
        next hadded => rw [happlied.routed handler,if_neg hadded,hrouted handler,if_neg hremoved]
      · rw [if_neg not_mem_nil,hrouted handler,if_neg hremoved]

theorem revertRegistration_endpoints (hkeyed : Keyed s) (endpoint : Endpoint η) (a : Answers η)
    (other : String) : (s.revertRegistration endpoint a).endpoints.lookup other=s.endpoints.lookup other := by
  unfold revertRegistration
  split
  · rfl
  next previousEndpoint hlookup =>
    have hkey := hkeyed.endpoints _ previousEndpoint hlookup
    rcases eq_or_ne other previousEndpoint.endpointId with rfl|hne
    · exact (lookup_insert _).trans (hkey ▸ hlookup).symm
    · exact lookup_insert_ne hne

/-- What is expected of the calls that restore the routing. -/
def Restoring (a : Answers η) : Prop :=
  ∀ endpointId handler,a.undoes endpointId handler=true ∧ a.restores endpointId handler=true

theorem Inv.begin (h : Inv family s) (hdisjoint : Disjointed family) (htasks : s.tasks=task::tasks)
    (hrunning : s.running=none)
    (htask : taskEndpoint task=some endpointId) (hrest : t.tasks=tasks)
    (hendpoints : ∀ other,t.endpoints.lookup other=s.endpoints.lookup other)
    (hregistrations : t.pendingRegistrations=s.pendingRegistrations)
    (hderegistrations : t.pendingDeregistrations=s.pendingDeregistrations)
    (hbegun : ∀ rest∈t.running,restEndpoint rest=some endpointId ∧ RestPending t rest)
    (hrouted : t.running=none ∧ (∀ handler,t.routed handler = if handler∈handlersOf (serving t endpointId) then true
        else if handler∈handlersOf (serving s endpointId) then false else s.routed handler) ∨
      t.running≠none ∧ t.routed=s.routed) : Inv family t := by
  have hbusy := busy_of_tasks htasks hrunning htask
  obtain ⟨hfirst,hnodup⟩ := nodup_cons.mp (hbusy ▸ h.busy)
  have hkeyed : Keyed t := by
    refine ⟨fun other endpoint hlookup => ?_,?_⟩
    · exact h.keyed.endpoints other endpoint (hendpoints other ▸ hlookup)
    · rw [hregistrations]
      exact h.keyed.pending
  have hbusy' : EndpointRouting.busy t = (t.running.bind restEndpoint).toList++tasks.filterMap taskEndpoint := by
    unfold EndpointRouting.busy
    rw [hrest]
  have hcases : EndpointRouting.busy t=tasks.filterMap taskEndpoint ∨
      EndpointRouting.busy t=endpointId::tasks.filterMap taskEndpoint := by
    obtain hnone|⟨rest,hsome⟩ := eq_none_or_eq_some t.running
    · rw [hbusy',hnone]
      exact .inl rfl
    · rw [hbusy',hsome,bind_some,(hbegun rest hsome).1]
      exact .inr rfl
  have helse : Elsewhere endpointId s t := by
    refine ⟨fun other _ => hendpoints other,fun _ _ => by rw [hregistrations],fun _ _ => by rw [hderegistrations],?_⟩
    intro other hne
    rw [hbusy,mem_cons,or_iff_right hne]
    obtain hequal|hequal := hcases
    · rw [hequal]
    · rw [hequal,mem_cons,or_iff_right hne]
  refine h.step helse hkeyed ?_ ?_ ?_ ?_ ?_ ?_ fun rest hmem => .inr (hbegun rest hmem).2
  · obtain ⟨-,hmoved⟩|⟨hsome,hsame⟩ := hrouted
    · exact h.routed_moved hdisjoint helse rfl rfl hmoved
    · refine h.routed_same helse ?_ hsame
      obtain ⟨rest,hrest⟩ := ne_none_iff_exists'.mp hsome
      have hmem : endpointId∈EndpointRouting.busy t := by
        rw [hbusy',hrest,bind_some,(hbegun rest hrest).1]
        exact mem_cons_self
      rw [serving_of_busy hmem,serving_of_busy (hbusy ▸ mem_cons_self),hendpoints]
  · rw [hendpoints]
    exact h.endpoints endpointId
  · rw [hregistrations]
    exact h.pending endpointId
  · rw [hregistrations,hderegistrations]
    exact h.apart endpointId
  · obtain hequal|hequal := hcases
    · rw [hequal]
      exact hnodup
    · rw [hequal]
      exact nodup_cons.mpr ⟨hfirst,hnodup⟩
  · intro other hmem
    rw [hrest] at hmem
    refine .inl ⟨htasks ▸ mem_cons_of_mem _ hmem,fun hsame => hfirst ?_⟩
    exact mem_filterMap.mpr ⟨other,hmem,hsame⟩

variable {request : ℕ}

section

variable (h : Inv family s)
include h

section

variable (hdisjoint : Disjointed family)
include hdisjoint

theorem inv_executeRegisterEndpoint
    (htasks : s.tasks=.registerEndpoint request endpoint::tasks) (hrunning : s.running=none)
    (hrestore : Restoring a) (hclean : CleanTask s a (.registerEndpoint request endpoint)) :
    Inv family ({s with tasks := tasks}.executeRegisterEndpoint request endpoint a) := by
  obtain ⟨hbusy,hidle⟩ := busy_taken h htasks hrunning rfl
  obtain ⟨pending,hlookup,hpending⟩ := h.tasks _ (htasks ▸ mem_cons_self)
  obtain rfl := hpending
  unfold executeRegisterEndpoint
  dsimp only
  split
  next hsucceeded =>
    refine h.begin hdisjoint htasks hrunning rfl rfl (fun _ => rfl) rfl rfl ?_ (.inl ⟨hrunning,fun handler => ?_⟩)
    · intro rest hmem
      cases hrunning.symm.trans hmem
    · rw [serving_of_registration (hidle _) hlookup,serving_of_busy hbusy]
      exact addNew_routed hsucceeded handler
  next hfailed =>
    have hfails := registrationResult_eq.mp hfailed
    have hsame : ({s with tasks := tasks}.revertRegistration pending.endpoint a).routed=s.routed := by
      refine revertRegistration_routed hrestore (h.routed_of_busy hbusy)
        (h.unrouted_of_busy hdisjoint (h.pending _ _ hlookup) hbusy) fun hnone => ?_
      have hnew : pending.endpoint.endpointId∉s.endpoints := lookup_eq_none.mp hnone
      unfold addNew removePrevious
      rw [hnone]
      exact changeHandlers_refused s.routed (hclean hnew hfails)
    have hendpoints := revertRegistration_endpoints (s := {s with tasks := tasks})
      ⟨h.keyed.endpoints,h.keyed.pending⟩ pending.endpoint a
    obtain ⟨routed,endpoints,heq⟩ := revertRegistration_eq (s := {s with tasks := tasks}) pending.endpoint a
    rw [heq] at hsame hendpoints ⊢
    refine h.begin hdisjoint htasks hrunning rfl rfl hendpoints rfl rfl ?_ (.inr ⟨some_ne_none _,hsame⟩)
    intro rest hmem
    cases hmem
    exact ⟨rfl,mem_of_lookup hlookup⟩

theorem inv_executeDeregisterEndpoint
    (htasks : s.tasks=.deregisterEndpoint request endpoint::tasks) (hrunning : s.running=none)
    (hrestore : Restoring a) : Inv family ({s with tasks := tasks}.executeDeregisterEndpoint request endpoint a) := by
  obtain ⟨hbusy,hidle⟩ := busy_taken h htasks hrunning rfl
  obtain ⟨hpending,hlookup⟩ := h.tasks _ (htasks ▸ mem_cons_self)
  have happlied := removeCapabilities_applied a.removes endpoint s.routed
  unfold executeDeregisterEndpoint
  dsimp only
  split
  next hsucceeded =>
    have hremoved : (removeCapabilities a.removes endpoint s.routed).succeeded=true := by
      by_contra hfailed
      unfold deregistrationResult at hsucceeded
      rw [if_pos hfailed] at hsucceeded
      cases hsucceeded
    refine h.begin hdisjoint htasks hrunning rfl rfl (fun _ => rfl) rfl rfl ?_ (.inl ⟨hrunning,fun handler => ?_⟩)
    · intro rest hmem
      cases hrunning.symm.trans hmem
    · have hregistration : endpoint.endpointId∉s.pendingRegistrations := fun hmem => h.apart _ hmem hpending
      have hnone : handler∉handlersOf (none : Option (Endpoint η)) := not_mem_nil
      rw [serving_of_deregistration (hidle _) hregistration hpending,serving_of_busy hbusy,if_neg hnone]
      have hhandlers : handlersOf (s.endpoints.lookup endpoint.endpointId)=endpoint.handlers :=
        congrArg handlersOf hlookup
      rw [hhandlers]
      exact happlied.complete hremoved handler
  next hfailed =>
    refine h.begin hdisjoint htasks hrunning rfl rfl (fun _ => rfl) rfl rfl ?_ (.inr ⟨some_ne_none _,?_⟩)
    · intro rest hmem
      cases hmem
      exact ⟨rfl,hpending⟩
    · funext handler
      refine (revertHandlers_routed true (fun handler => (hrestore endpoint.endpointId handler).2) _ _ handler).trans ?_
      split
      next hchanged =>
        refine (h.routed_of_busy hbusy handler ?_).symm
        exact mem_handlersOf.mpr ⟨endpoint,hlookup,happlied.changed handler hchanged⟩
      next hchanged => exact (happlied.routed handler).trans (if_neg hchanged)

/-- Not pending any more, and the endpoint serves as registered. -/
theorem Inv.settle (helse : Elsewhere endpointId s t)
    (hkeyed : Keyed t) (hregistrations : endpointId∉t.pendingRegistrations)
    (hderegistrations : endpointId∉t.pendingDeregistrations)
    (hrouted : t.endpoints.lookup endpointId=serving s endpointId ∧ t.routed=s.routed ∨ ∀ handler,t.routed handler =
        if handler∈handlersOf (t.endpoints.lookup endpointId) then true
        else if handler∈handlersOf (serving s endpointId) then false else s.routed handler)
    (hendpoints : ∀ endpoint∈t.endpoints.lookup endpointId,endpoint∈family) (htasks : t.tasks=s.tasks)
    (hidle : endpointId∉t.tasks.filterMap taskEndpoint) (hrunning : t.running=none) : Inv family t := by
  have hbusy : EndpointRouting.busy t=s.tasks.filterMap taskEndpoint := by
    unfold EndpointRouting.busy
    rw [hrunning,htasks]
    rfl
  have hserving := serving_of_none hregistrations hderegistrations
  refine h.step helse hkeyed ?_ hendpoints ?_ (fun hmem => (hregistrations hmem).elim) ?_ ?_ ?_
  · obtain ⟨hsame,hunchanged⟩|hmoved := hrouted
    · exact h.routed_same helse (hserving.trans hsame) hunchanged
    · exact h.routed_moved hdisjoint helse hserving rfl hmoved
  · exact fun pending hlookup => (hregistrations (mem_of_lookup hlookup)).elim
  · rw [hbusy]
    exact (nodup_append.mp h.busy).2.1
  · intro task hmem
    refine .inl ⟨htasks ▸ hmem,fun hsame => hidle ?_⟩
    exact mem_filterMap.mpr ⟨task,hmem,hsame⟩
  · intro rest hmem
    cases hrunning.symm.trans hmem

theorem inv_answerRegistration {result : RegistrationResult}
    (hrunning : s.running=some (.registerEndpoint request endpoint result)) :
    Inv family ({s with running := none}.answerRegistration endpoint result) := by
  have hbusy := busy_of_running hrunning rfl
  have hidle := (nodup_cons.mp (hbusy ▸ h.busy)).1
  have hpending := h.rest _ hrunning
  have hderegistration := h.apart _ hpending
  unfold answerRegistration
  split
  next hnone => exact (lookup_eq_none.mp hnone hpending).elim
  next pending hlookup =>
    have hgone : endpoint.endpointId∉s.pendingRegistrations.erase endpoint.endpointId := fun hmem =>
      (mem_erase.mp hmem).1 rfl
    have helse : Elsewhere endpoint.endpointId s ({{s with running := none}.setValue pending.promise
        (.registration result) with pendingRegistrations := s.pendingRegistrations.erase endpoint.endpointId}) := by
      refine ⟨fun _ _ => rfl,fun other hne => lookup_erase_ne hne,fun _ _ => Iff.rfl,fun other hne => ?_⟩
      rw [hbusy,mem_cons,or_iff_right hne]
      exact Iff.rfl
    refine h.settle hdisjoint helse ⟨h.keyed.endpoints,forall_lookup_erase h.keyed.pending _⟩ hgone hderegistration
      (.inl ⟨?_,rfl⟩) (h.endpoints endpoint.endpointId) rfl hidle rfl
    exact (serving_of_busy (hbusy ▸ mem_cons_self)).symm

theorem inv_answerDeregistration
    {result : DeregistrationResult} (hrunning : s.running=some (.deregisterEndpoint request endpoint result)) :
    Inv family ({s with running := none}.answerDeregistration endpoint result) := by
  have hbusy := busy_of_running hrunning rfl
  have hidle := (nodup_cons.mp (hbusy ▸ h.busy)).1
  have hpending := h.rest _ hrunning
  have hregistration : endpoint.endpointId∉s.pendingRegistrations := fun hmem => h.apart _ hmem hpending
  unfold answerDeregistration
  split
  next hnone => exact (lookup_eq_none.mp hnone hpending).elim
  next pending hlookup =>
    have hgone : endpoint.endpointId∉s.pendingDeregistrations.erase endpoint.endpointId := fun hmem =>
      (mem_erase.mp hmem).1 rfl
    have helse : Elsewhere endpoint.endpointId s ({{s with running := none}.setValue pending.promise
        (.deregistration result) with
          pendingDeregistrations := s.pendingDeregistrations.erase endpoint.endpointId}) := by
      refine ⟨fun _ _ => rfl,fun _ _ => rfl,fun other hne => ?_,fun other hne => ?_⟩
      · exact mem_erase.trans (and_iff_right hne)
      · rw [hbusy,mem_cons,or_iff_right hne]
        exact Iff.rfl
    refine h.settle hdisjoint helse ⟨h.keyed.endpoints,h.keyed.pending⟩ hregistration hgone (.inl ⟨?_,rfl⟩)
      (h.endpoints endpoint.endpointId) rfl hidle rfl
    exact (serving_of_busy (hbusy ▸ mem_cons_self)).symm

end

end

theorem restoreEndpoint_restored (hrestore : Restoring a) (s : Manager η) (endpointId : String) :
    s.restoreEndpoint endpointId a={s with
      routed := fun handler =>
        if handler∈handlersOf (s.endpoints.lookup endpointId) then true else s.routed handler} := by
  unfold restoreEndpoint
  split
  next hlookup =>
    rw [hlookup]
    rfl
  next originalEndpoint hlookup =>
    have hsucceeded : (addCapabilities (a.restores endpointId) originalEndpoint s.routed).succeeded=true :=
      addCapabilities_succeeded.mpr fun handler _ => (hrestore endpointId handler).2
    rw [if_pos hsucceeded,hlookup]
    congr 1
    funext handler
    exact (addCapabilities_applied _ originalEndpoint s.routed).complete hsucceeded handler

section

variable (h : Inv family s) (hdisjoint : Disjointed family) (hrestore : Restoring a) (hrunning : s.running=none)
include h hdisjoint hrestore hrunning

theorem inv_finishRegistration
    (hlookup : s.pendingRegistrations.lookup endpointId=some pending) (hidle : endpointId∉busy s)
    (result : RegistrationResult) : Inv family (s.finishRegistration endpointId pending result a) := by
  have hderegistration := h.apart _ (mem_of_lookup hlookup)
  have hgone : endpointId∉s.pendingRegistrations.erase endpointId := fun hmem => (mem_erase.mp hmem).1 rfl
  have hqueue : endpointId∉s.tasks.filterMap taskEndpoint := fun hmem => hidle (mem_append_right _ hmem)
  have hkeyed := h.keyed.finishRegistration hlookup result a
  unfold finishRegistration at hkeyed ⊢
  dsimp only at hkeyed ⊢
  split at hkeyed
  next hsucceeded =>
    rw [if_pos hsucceeded]
    have helse : Elsewhere endpointId s ({s.setValue pending.promise (.registration result) with
        endpoints := s.endpoints.insert endpointId pending.endpoint
        pendingRegistrations := s.pendingRegistrations.erase endpointId}) :=
      ⟨fun other hne => lookup_insert_ne hne,fun other hne => lookup_erase_ne hne,fun _ _ => Iff.rfl,
        fun _ _ => Iff.rfl⟩
    refine h.settle hdisjoint helse hkeyed hgone hderegistration (.inl ⟨?_,rfl⟩) ?_ rfl hqueue hrunning
    · exact (lookup_insert _).trans (serving_of_registration hidle hlookup).symm
    · intro endpoint hmem
      cases (lookup_insert s.endpoints).symm.trans hmem
      exact h.pending endpointId pending hlookup
  next hfailed =>
    rw [if_neg hfailed]
    rw [restoreEndpoint_restored hrestore] at hkeyed ⊢
    have helse : Elsewhere endpointId s ({s.setValue pending.promise (.registration result) with
        routed := fun handler => if handler∈handlersOf (s.endpoints.lookup endpointId) then true
          else (removeCapabilities (a.undoes endpointId) pending.endpoint s.routed).routed handler
        pendingRegistrations := s.pendingRegistrations.erase endpointId}) :=
      ⟨fun _ _ => rfl,fun other hne => lookup_erase_ne hne,fun _ _ => Iff.rfl,fun _ _ => Iff.rfl⟩
    refine h.settle hdisjoint helse hkeyed hgone hderegistration (.inr fun handler => ?_) (h.endpoints endpointId)
      rfl hqueue hrunning
    rw [serving_of_registration hidle hlookup]
    have hremoved : (removeCapabilities (a.undoes endpointId) pending.endpoint s.routed).succeeded=true :=
      removeCapabilities_succeeded.mpr fun handler _ => (hrestore endpointId handler).1
    exact if_congr Iff.rfl rfl ((removeCapabilities_applied _ pending.endpoint s.routed).complete hremoved handler)

theorem inv_finishDeregistration
    (hlookup : s.pendingDeregistrations.lookup endpointId=some pending) (hidle : endpointId∉busy s)
    (result : DeregistrationResult) : Inv family (s.finishDeregistration endpointId pending result a) := by
  have hderegistration := mem_of_lookup hlookup
  have hregistration : endpointId∉s.pendingRegistrations := fun hmem => h.apart _ hmem hderegistration
  have hgone : endpointId∉s.pendingDeregistrations.erase endpointId := fun hmem => (mem_erase.mp hmem).1 rfl
  have hqueue : endpointId∉s.tasks.filterMap taskEndpoint := fun hmem => hidle (mem_append_right _ hmem)
  have hkeyed := h.keyed.finishDeregistration endpointId pending result a
  unfold finishDeregistration at hkeyed ⊢
  dsimp only at hkeyed ⊢
  split at hkeyed
  next hsucceeded =>
    rw [if_pos hsucceeded]
    have helse : Elsewhere endpointId s ({s.setValue pending.promise (.deregistration result) with
        endpoints := s.endpoints.erase endpointId
        pendingDeregistrations := s.pendingDeregistrations.erase endpointId}) :=
      ⟨fun other hne => lookup_erase_ne hne,fun _ _ => rfl,
        fun other hne => mem_erase.trans (and_iff_right hne),fun _ _ => Iff.rfl⟩
    refine h.settle hdisjoint helse hkeyed hregistration hgone (.inl ⟨?_,rfl⟩) ?_ rfl hqueue hrunning
    · exact (lookup_erase _ _).trans (serving_of_deregistration hidle hregistration hderegistration).symm
    · intro endpoint hmem
      cases (lookup_erase endpointId s.endpoints).symm.trans hmem
  next hfailed =>
    rw [if_neg hfailed]
    rw [restoreEndpoint_restored hrestore] at hkeyed ⊢
    have helse : Elsewhere endpointId s ({s.setValue pending.promise (.deregistration result) with
        routed := fun handler =>
          if handler∈handlersOf (s.endpoints.lookup endpointId) then true else s.routed handler
        pendingDeregistrations := s.pendingDeregistrations.erase endpointId}) :=
      ⟨fun _ _ => rfl,fun _ _ => rfl,fun other hne => mem_erase.trans (and_iff_right hne),fun _ _ => Iff.rfl⟩
    refine h.settle hdisjoint helse hkeyed hregistration hgone (.inr fun handler => ?_) (h.endpoints endpointId)
      rfl hqueue hrunning
    have hnone : handler∉handlersOf (none : Option (Endpoint η)) := not_mem_nil
    rw [serving_of_deregistration hidle hregistration hderegistration,if_neg hnone]
    rfl

end

theorem inv_updateEndpoints (hdisjoint : Disjointed family) (hrestore : Restoring a)
    (result : RegistrationResult) (ids : List String) :
    ∀ (s : Manager η) (told : List Told),Inv family s → s.running=none →
      (∀ endpointId∈ids,endpointId∈s.pendingRegistrations → endpointId∉busy s) →
        Inv family (updateEndpoints result a ids s told) ∧ busy (updateEndpoints result a ids s told)=busy s ∧
          (updateEndpoints result a ids s told).running=none := by
  induction ids with
  | nil =>
    intro s told h hrunning _
    refine ⟨h.same rfl rfl rfl rfl rfl (fun _ hmem => .inl hmem) fun _ hmem => .inl hmem,rfl,hrunning⟩
  | cons addedOrUpdatedId ids ih =>
    intro s told h hrunning hfinal
    unfold updateEndpoints
    split
    · exact ih s told h hrunning fun other hmem => hfinal other (mem_cons_of_mem _ hmem)
    next pending hlookup =>
      have hidle := hfinal addedOrUpdatedId mem_cons_self (mem_of_lookup hlookup)
      have hinv := inv_finishRegistration h hdisjoint hrestore hrunning hlookup hidle result
      obtain ⟨routed,endpoints,heq,-⟩ := finishRegistration_eq (s := s) addedOrUpdatedId pending result a
      rw [heq] at hinv ⊢
      refine ih _ _ hinv hrunning fun other hmem hpending => ?_
      exact hfinal other (mem_cons_of_mem _ hmem) (mem_erase.mp hpending).2

theorem inv_removeEndpoints (hdisjoint : Disjointed family) (hrestore : Restoring a)
    (result : DeregistrationResult) (ids : List String) :
    ∀ (s : Manager η) (told : List Told),Inv family s → s.running=none →
      (∀ endpointId∈ids,endpointId∈s.pendingDeregistrations → endpointId∉busy s) →
        Inv family (removeEndpoints result a ids s told) := by
  induction ids with
  | nil =>
    intro s told h hrunning _
    exact h.same rfl rfl rfl rfl rfl (fun _ hmem => .inl hmem) fun _ hmem => .inl hmem
  | cons deletedId ids ih =>
    intro s told h hrunning hfinal
    unfold removeEndpoints
    split
    · exact ih s _ h hrunning fun other hmem => hfinal other (mem_cons_of_mem _ hmem)
    next pending hlookup =>
      have hidle := hfinal deletedId mem_cons_self (mem_of_lookup hlookup)
      have hinv := inv_finishDeregistration h hdisjoint hrestore hrunning hlookup hidle result
      obtain ⟨routed,endpoints,heq,-⟩ := finishDeregistration_eq (s := s) deletedId pending result a
      rw [heq] at hinv ⊢
      refine ih _ _ hinv hrunning fun other hmem hpending => ?_
      exact hfinal other (mem_cons_of_mem _ hmem) (mem_erase.mp hpending).2

theorem inv_begin (h : Inv family s) (hdisjoint : Disjointed family) (htasks : s.tasks=task::tasks)
    (hrunning : s.running=none)
    (hrestore : Restoring a) (hfinal : Final s task) (hclean : CleanTask s a task) :
    Inv family ({s with tasks := tasks}.begin a task) := by
  cases task with
  | registerEndpoint => exact inv_executeRegisterEndpoint h hdisjoint htasks hrunning hrestore hclean
  | deregisterEndpoint => exact inv_executeDeregisterEndpoint h hdisjoint htasks hrunning hrestore
  | capabilityRegistrationStatusChanged registration addedOrUpdatedIds =>
    have hbusy : busy {s with tasks := tasks}=busy s := by
      unfold busy
      rw [htasks]
      rfl
    have hpopped : Inv family {s with tasks := tasks} := by
      exact h.same rfl rfl rfl rfl hbusy (fun task hmem => .inl (htasks ▸ mem_cons_of_mem _ hmem))
        fun _ hmem => .inl hmem
    obtain ⟨hinv,-,hnone⟩ := inv_updateEndpoints hdisjoint hrestore registration addedOrUpdatedIds
      {s with tasks := tasks} [] hpopped hrunning fun other hmem hpending => hbusy ▸ hfinal other hmem hpending
    refine hinv.same rfl rfl rfl rfl ?_ (fun task hmem => .inl hmem) ?_
    · unfold busy
      rw [hnone]
      rfl
    · intro rest hmem
      cases hmem
      exact .inr rfl

theorem inv_finish (h : Inv family s) (hdisjoint : Disjointed family)
    (hrunning : s.running=some rest) (hrestore : Restoring a) (hfinal : FinalRest s rest) :
    Inv family ({s with running := none}.finish a rest) := by
  cases rest with
  | registerEndpoint => exact inv_answerRegistration h hdisjoint hrunning
  | deregisterEndpoint => exact inv_answerDeregistration h hdisjoint hrunning
  | removeDeletedEndpoints result deletedIds =>
    have hbusy : busy {s with running := none}=busy s := by
      unfold busy
      rw [hrunning]
      rfl
    have hidle : Inv family {s with running := none} := by
      refine h.same rfl rfl rfl rfl hbusy (fun task hmem => .inl hmem) ?_
      exact nofun
    refine inv_removeEndpoints hdisjoint hrestore result deletedIds {s with running := none} [] hidle rfl ?_
    exact fun other hmem hpending => hbusy ▸ hfinal other hmem hpending

/-- Every step that may happen keeps the invariant. -/
theorem inv_step (hdisjoint : Disjointed family) {event : Event η} (h : Inv family s) (hstep : Step s event t)
    (hallowed : Allowed family s event) : Inv family t := by
  obtain ⟨hpossible,rfl⟩ := hstep
  obtain ⟨hexpected,hclean⟩ := hallowed
  cases event with
  | registerEndpoint => exact inv_registerEndpoint h hexpected
  | deregisterEndpoint endpointId => exact inv_deregisterEndpoint h endpointId
  | onCapabilitiesStateChange =>
    unfold Manager.next onCapabilitiesStateChange
    dsimp only
    split
    · have hbusy (task : ExecutorTask η) (hnone : taskEndpoint task=none) : busy (s.submit task)=busy s := by
        unfold busy submit
        rw [filterMap_append,filterMap_cons_none hnone,filterMap_nil,append_nil]
      refine h.same rfl rfl rfl rfl (hbusy _ rfl) (fun task hmem => ?_) fun _ hmem => .inl hmem
      obtain hbefore|hlast := mem_append.mp hmem
      · exact .inl hbefore
      · exact .inr (mem_singleton.mp hlast ▸ rfl)
    · exact h
  | perform =>
    obtain ⟨hrestore,hfinal,hfinalRest⟩ := hexpected
    unfold Manager.next perform
    dsimp only
    split
    next rest hrunning => exact inv_finish h hdisjoint hrunning hrestore (hfinalRest rest hrunning)
    next hrunning =>
      split
      · exact h
      next task tasks htasks =>
        have hhead : task∈s.tasks.head? := by
          rw [htasks]
          rfl
        exact inv_begin h hdisjoint htasks hrunning hrestore (hfinal hrunning task hhead) (hclean hrunning task hhead)
  | destroy => exact hexpected.elim

section

variable (hrestore : Restoring a)
include hrestore

theorem follows_finishRegistration (s : Manager η) (endpointId : String)
    (pending : Pending η) (result : RegistrationResult) :
    Follows s (s.finishRegistration endpointId pending result a) := by
  unfold finishRegistration
  dsimp only
  split
  next hsucceeded => exact Follows.of_answer rfl fun hfailed => (hfailed hsucceeded).elim
  · rw [restoreEndpoint_restored hrestore]
    exact Follows.of_answer rfl fun _ _ => rfl

theorem follows_finishDeregistration (s : Manager η) (endpointId : String)
    (pending : Pending η) (result : DeregistrationResult) :
    Follows s (s.finishDeregistration endpointId pending result a) := by
  unfold finishDeregistration
  dsimp only
  split
  next hsucceeded => exact Follows.of_answer rfl fun hfailed => (hfailed hsucceeded).elim
  · rw [restoreEndpoint_restored hrestore]
    exact Follows.of_answer rfl fun _ _ => rfl

theorem follows_updateEndpoints (result : RegistrationResult)
    (ids : List String) : ∀ (s : Manager η) (told : List Told),Follows s (updateEndpoints result a ids s told) := by
  induction ids with
  | nil => exact fun s told => .same rfl rfl
  | cons addedOrUpdatedId ids ih =>
    intro s told
    unfold updateEndpoints
    split
    · exact ih s told
    next pending _ => exact (follows_finishRegistration hrestore s addedOrUpdatedId pending result).trans (ih _ _)

theorem follows_removeEndpoints (result : DeregistrationResult)
    (ids : List String) : ∀ (s : Manager η) (told : List Told),Follows s (removeEndpoints result a ids s told) := by
  induction ids with
  | nil => exact fun s told => .same rfl rfl
  | cons deletedId ids ih =>
    intro s told
    unfold removeEndpoints
    split
    · exact ih s _
    next pending _ => exact (follows_finishDeregistration hrestore s deletedId pending result).trans (ih _ _)

theorem follows_perform (hkeyed : Keyed s) : Follows s (s.perform a) := by
  unfold perform
  split
  next rest hrunning =>
    cases rest with
    | registerEndpoint =>
      unfold finish answerRegistration
      dsimp only
      split
      · exact .same rfl rfl
      · exact Follows.of_answer rfl fun _ _ => rfl
    | deregisterEndpoint =>
      unfold finish answerDeregistration
      dsimp only
      split
      · exact .same rfl rfl
      · exact Follows.of_answer rfl fun _ _ => rfl
    | removeDeletedEndpoints result deletedIds =>
      exact follows_removeEndpoints hrestore result deletedIds {s with running := none} []
  · split
    · exact .same rfl rfl
    next task tasks _ =>
      cases task with
      | registerEndpoint request endpoint =>
        unfold begin executeRegisterEndpoint
        dsimp only
        split
        · exact .same rfl rfl
        · have hendpoints := revertRegistration_endpoints (s := {s with tasks := tasks})
            ⟨hkeyed.endpoints,hkeyed.pending⟩ endpoint a
          obtain ⟨routed,endpoints,heq⟩ := revertRegistration_eq (s := {s with tasks := tasks}) endpoint a
          rw [heq] at hendpoints ⊢
          exact Follows.of_eq rfl hendpoints
      | deregisterEndpoint =>
        unfold begin executeDeregisterEndpoint
        dsimp only
        split
        · exact .same rfl rfl
        · exact .same rfl rfl
      | capabilityRegistrationStatusChanged registration addedOrUpdatedIds =>
        exact follows_updateEndpoints hrestore registration addedOrUpdatedIds {s with tasks := tasks} []

end

theorem follows_step {event : Event η} (hkeyed : Keyed s) (hstep : Step s event t)
    (hexpected : Expected family s event) : Follows s t := by
  obtain ⟨-,rfl⟩ := hstep
  cases event with
  | registerEndpoint =>
    unfold Manager.next registerEndpoint
    dsimp only
    split
    · exact .same rfl rfl
    · split
      · exact .same rfl rfl
      · split
        · exact .same rfl rfl
        · split
          · exact .same rfl rfl
          · exact .same rfl rfl
  | deregisterEndpoint =>
    unfold Manager.next deregisterEndpoint
    dsimp only
    split
    · exact .same rfl rfl
    · split
      · exact .same rfl rfl
      · split
        · exact .same rfl rfl
        · split
          · exact .same rfl rfl
          · exact .same rfl rfl
  | onCapabilitiesStateChange =>
    unfold Manager.next onCapabilitiesStateChange
    dsimp only
    split
    · exact .same rfl rfl
    · exact .same rfl rfl
  | perform => exact follows_perform hexpected.1 hkeyed
  | destroy => exact hexpected.elim

/-- At rest the sequencer has the handlers of the endpoints that are registered, and it has the same
ones as before if all requests since have failed. -/
theorem routing_agrees (hdisjoint : Disjointed family) (defaultEndpointId : String) {trace : List (Event η)}
    (run : Run (Guarded Step (Allowed family)) (create defaultEndpointId) trace s) (hrest : AtRest s) :
    Agrees s ∧ ∀ more t,Run (Guarded Step (Allowed family)) s more t → AtRest t →
      (∀ completed∈t.completed.drop s.completed.length,Failed completed.2) → t.routed=s.routed := by
  have hinv : Inv family s := run.invariant (Inv family) (inv_create defaultEndpointId)
    fun _ _ _ h hstep => inv_step hdisjoint h hstep.2 hstep.1
  refine ⟨hinv.agrees hrest,fun more t further hrest' hfailed => ?_⟩
  have hboth : Inv family t ∧ Follows s t := by
    refine further.invariant (fun u => Inv family u ∧ Follows s u) ⟨hinv,.same rfl rfl⟩ ?_
    rintro u event v ⟨hu,hfollows⟩ ⟨hallowed,hstep⟩
    exact ⟨inv_step hdisjoint hu hstep hallowed,hfollows.trans (follows_step hu.keyed hstep hallowed.1)⟩
  obtain ⟨hinv',later,hcompleted,hsame⟩ := hboth
  rw [hcompleted,drop_left] at hfailed
  funext handler
  rw [Bool.eq_iff_iff,hinv'.agrees hrest' handler,hinv.agrees hrest handler]
  simp only [hsame hfailed]

def lamp : Endpoint ℕ := ⟨"lamp",[some 0]⟩

/-- Nothing fails but the delegate, if it does. -/
def answers (delegate : Bool) : Answers ℕ := ⟨fun _ => true,fun _ => true,delegate,fun _ _ => true,fun _ _ => true⟩

variable {delegate : Bool} {s : Manager ℕ}

theorem expected_request {endpoint : Endpoint ℕ}
    (hrunning : s.running=none) (htask : s.tasks.head?=some (.registerEndpoint request endpoint)) :
    Expected {lamp} s (.perform (answers delegate)) := by
  refine ⟨fun _ _ => ⟨rfl,rfl⟩,fun _ task hmem => ?_,fun rest hmem => ?_⟩
  · cases htask.symm.trans hmem
    trivial
  · cases hrunning.symm.trans hmem

theorem clean_request {endpoint : Endpoint ℕ} (htask : s.tasks.head?=some (.registerEndpoint request endpoint))
    (haccepts : endpoint.endpointId∈s.endpoints ∨ delegate=true) : Clean s (.perform (answers delegate)) := by
  intro _ task hmem
  cases htask.symm.trans hmem
  rintro hnew (⟨previousEndpoint,hlookup,-⟩|⟨handler,-,hrefused⟩|hrefused)
  · exact (hnew (mem_of_lookup hlookup)).elim
  · cases hrefused
  · obtain hold|rfl := haccepts
    · exact (hnew hold).elim
    · cases hrefused

/-- The end of a task may come, if nothing was deleted. -/
theorem allowed_rest {rest : Rest ℕ} (hrunning : s.running=some rest)
    (hfinal : FinalRest s rest) : Allowed {lamp} s (.perform (answers delegate)) := by
  refine ⟨⟨fun _ _ => ⟨rfl,rfl⟩,fun hnone => ?_,fun other hmem => ?_⟩,fun hnone => ?_⟩
  · cases hnone.symm.trans hrunning
  · cases hrunning.symm.trans hmem
    exact hfinal
  · cases hnone.symm.trans hrunning

/-- A notification may come when the executor is done with the requests. -/
theorem allowed_notification {task : ExecutorTask ℕ} (hrunning : s.running=none)
    (htask : s.tasks.head?=some task) (hnotification : taskEndpoint task=none) (hbusy : busy s=[]) :
    Allowed {lamp} s (.perform (answers delegate)) := by
  cases task with
  | registerEndpoint | deregisterEndpoint => cases hnotification
  | capabilityRegistrationStatusChanged =>
    refine ⟨⟨fun _ _ => ⟨rfl,rfl⟩,fun _ other hmem => ?_,fun rest hmem => ?_⟩,fun _ other hmem => ?_⟩
    · cases htask.symm.trans hmem
      intro endpointId _ _
      rw [hbusy]
      exact not_mem_nil
    · cases hrunning.symm.trans hmem
    · cases htask.symm.trans hmem
      trivial

theorem lamp_mem : ∀ registered∈some lamp,registered∈({lamp} : Set (Endpoint ℕ)) :=
  fun _ hmem => (mem_some_iff.mp hmem).symm

def registered : Manager ℕ :=
  (((((create "speaker").next (.registerEndpoint (some lamp))).next (.perform (answers true))).next
    (.onCapabilitiesStateChange .SUCCESS ["lamp"] [])).next (.perform (answers true))).next (.perform (answers true))

/-- A lamp is registered, and its second registration is refused. -/
theorem routing_agrees_lamp : ∃ s : Manager ℕ,registered.endpoints.lookup "lamp" = some lamp ∧ Agrees registered ∧
    s.completed=[(0,.registration .SUCCEEDED),(1,.registration .INTERNAL_ERROR)] ∧ s.routed=registered.routed := by
  have hstart : Run (Guarded Step (Allowed {lamp})) (create "speaker") [] (create "speaker") := Run.refl
  have hasked := (hstart.allow (step_next (.registerEndpoint (some lamp)) rfl) ⟨lamp_mem,trivial⟩).allow
    (step_next (.perform (answers true)) ⟨rfl,.inr (cons_ne_nil _ _)⟩)
    ⟨expected_request rfl rfl,clean_request rfl (.inr rfl)⟩
  have hregistered := ((hasked.allow (step_next (.onCapabilitiesStateChange .SUCCESS ["lamp"] []) rfl)
    ⟨trivial,trivial⟩).allow (step_next (.perform (answers true)) ⟨rfl,.inr (by decide)⟩)
    (@allowed_notification true _ (.capabilityRegistrationStatusChanged .SUCCEEDED ["lamp"] .SUCCEEDED [])
      (by decide) (by decide) rfl (by decide))).allow
    (step_next (.perform (answers true)) ⟨by decide,.inl (by decide)⟩)
    (@allowed_rest true _ (.removeDeletedEndpoints .SUCCEEDED []) (by decide) fun _ hmem =>
      (not_mem_nil hmem).elim)
  have hopen : registered.destroyed=false := by decide
  have hwait : Run (Guarded Step (Allowed {lamp})) registered [] registered := Run.refl
  have hrefused := ((hwait.allow (step_next (.registerEndpoint (some lamp)) hopen) ⟨lamp_mem,trivial⟩).allow
    (step_next (.perform (answers false)) ⟨by decide,.inr (by decide)⟩)
    ⟨@expected_request 1 false _ lamp (by decide) (by decide),
      @clean_request 1 false _ lamp (by decide) (.inl (by decide))⟩).allow
    (step_next (.perform (answers false)) ⟨by decide,.inl (by decide)⟩)
    (@allowed_rest false _ (.registerEndpoint 1 lamp .INTERNAL_ERROR) (by decide) trivial)
  have hagrees := routing_agrees (Set.pairwise_singleton _ _) "speaker" hregistered
    ⟨by decide,by decide,ext (by decide),ext (by decide)⟩
  refine ⟨_,by decide,hagrees.1,?_,hagrees.2 _ _ hrefused ⟨by decide,by decide,ext (by decide),ext (by decide)⟩ ?_⟩
  · decide +kernel
  · intro completed hmem
    have hlast : completed∈[(1,Outcome.registration .INTERNAL_ERROR)] := hmem
    cases mem_singleton.mp hlast
    exact nofun

/-- The delegate refuses a new lamp, and its handler stays. -/
theorem refused_registration_keeps_handler :
    ∃ trace,∃ s : Manager ℕ,Run (Guarded Step (Expected {lamp})) (create "speaker") trace s ∧ AtRest s ∧ ¬Agrees s := by
  have hstart : Run (Guarded Step (Expected {lamp})) (create "speaker") [] (create "speaker") := Run.refl
  have hrefused := ((hstart.allow (step_next (.registerEndpoint (some lamp)) rfl) lamp_mem).allow
    (step_next (.perform (answers false)) ⟨rfl,.inr (cons_ne_nil _ _)⟩) (expected_request rfl rfl)).allow
    (step_next (.perform (answers false)) ⟨by decide,.inl (by decide)⟩)
    (@allowed_rest false _ (.registerEndpoint 0 lamp .INTERNAL_ERROR) (by decide) trivial).1
  refine ⟨_,_,hrefused,⟨by decide,by decide,?_,rfl⟩,fun hagrees => ?_⟩
  · exact ext (by decide)
  · obtain ⟨endpointId,endpoint,hnone,-⟩ := (hagrees 0).mp (by decide)
    exact not_mem_none endpoint hnone

end AlexaClientSDK.EndpointRouting
