import Mathlib.Data.List.ReduceOption
import AlexaClientSDK.MapFolds

/-!
# The registration of endpoints

A request to register or to deregister an endpoint is pending until it is answered. A task takes the handlers to the
directive sequencer and asks the capabilities delegate; when one of them refuses, the task answers the request,
otherwise a notification does. A step of the executor ends where the lock is released. Requests have numbers, which the
code does not keep. The log, the attributes and the configurations are left out.
-/

namespace AlexaClientSDK.EndpointRegistration

open List

inductive RegistrationResult
  | SUCCEEDED
  | CONFIGURATION_ERROR
  | INTERNAL_ERROR
  | REGISTRATION_IN_PROGRESS
  | PENDING_DEREGISTRATION
deriving DecidableEq

inductive DeregistrationResult
  | SUCCEEDED
  | NOT_REGISTERED
  | INTERNAL_ERROR
  | CONFIGURATION_ERROR
  | REGISTRATION_IN_PROGRESS
  | PENDING_DEREGISTRATION
deriving DecidableEq

/-- The result of a request of either kind. -/
inductive Outcome
  | registration (result : RegistrationResult)
  | deregistration (result : DeregistrationResult)
deriving DecidableEq

inductive Future (ρ : Type)
  /-- The future of a promise that is set at once. -/
  | refused (result : ρ)
  | accepted (promise : ℕ)

inductive State
  | UNINITIALIZED
  | SUCCESS
  | FATAL_ERROR
  | RETRIABLE_ERROR
deriving DecidableEq

variable {η : Type}

structure Endpoint (η : Type) where
  endpointId : String
  /-- The handlers of `getCapabilities`. A capability need not have one. -/
  capabilities : List (Option η)
deriving DecidableEq

def Endpoint.handlers (endpoint : Endpoint η) : List η := endpoint.capabilities.reduceOption

/-- What a loop over the handlers of an endpoint has done. -/
structure Changes (η : Type) where
  routed : η → Bool
  /-- `handlersAdded` or `handlersRemoved`. -/
  changed : List η
  succeeded : Bool

variable [DecidableEq η]

/-- One by one, up to the first call that fails. -/
def changeHandlers (answers : η → Bool) (value : Bool) : List (Option η) → (η → Bool) → List η → Changes η
  | [],routed,changed => ⟨routed,changed,true⟩
  | none::rest,routed,changed => changeHandlers answers value rest routed changed
  | some handler::rest,routed,changed =>
    if handler∈changed then changeHandlers answers value rest routed changed
    else if answers handler then
      changeHandlers answers value rest (Function.update routed handler value) (changed++[handler])
    else ⟨routed,changed,false⟩

theorem changeHandlers_succeeded {answers : η → Bool} {value : Bool} (capabilities : List (Option η)) :
    ∀ (routed : η → Bool) (changed : List η),
      (changeHandlers answers value capabilities routed changed).succeeded=true ↔
        ∀ handler∈capabilities.reduceOption,handler∈changed ∨ answers handler=true := by
  induction capabilities with
  | nil =>
    intro routed changed
    exact iff_of_true rfl fun handler hmem => (not_mem_nil hmem).elim
  | cons capability rest ih =>
    intro routed changed
    cases capability with
    | none => exact ih routed changed
    | some =>
      rw [reduceOption_cons_of_some,forall_mem_cons]
      unfold changeHandlers
      split
      next hchanged => rw [ih,and_iff_right (.inl hchanged)]
      next hchanged =>
        split
        next hanswer =>
          rw [ih,and_iff_right (.inr hanswer)]
          refine forall₂_congr fun other _ => ?_
          rw [mem_append,mem_singleton]
          constructor
          · rintro ((hmem|rfl)|hother)
            · exact .inl hmem
            · exact .inr hanswer
            · exact .inr hother
          · exact Or.imp_left .inl
        next hanswer => exact iff_of_false Bool.false_ne_true fun h => (not_or_intro hchanged hanswer) h.1

def removeCapabilities (removeDirectiveHandler : η → Bool) (endpoint : Endpoint η) (routed : η → Bool) : Changes η :=
  changeHandlers removeDirectiveHandler false endpoint.capabilities routed []

def addCapabilities (addDirectiveHandler : η → Bool) (endpoint : Endpoint η) (routed : η → Bool) : Changes η :=
  changeHandlers addDirectiveHandler true endpoint.capabilities routed []

variable {endpoint : Endpoint η} {routed : η → Bool}

theorem removeCapabilities_succeeded {removes : η → Bool} :
    (removeCapabilities removes endpoint routed).succeeded=true ↔ ∀ handler∈endpoint.handlers,removes handler=true := by
  refine (changeHandlers_succeeded endpoint.capabilities routed []).trans (forall₂_congr fun handler _ => ?_)
  exact or_iff_right not_mem_nil

theorem addCapabilities_succeeded {adds : η → Bool} :
    (addCapabilities adds endpoint routed).succeeded=true ↔ ∀ handler∈endpoint.handlers,adds handler=true := by
  refine (changeHandlers_succeeded endpoint.capabilities routed []).trans (forall₂_congr fun handler _ => ?_)
  exact or_iff_right not_mem_nil

/-- Handlers are added or removed one by one, whatever fails. -/
def revertHandlers (answers : η → Bool) (value : Bool) (handlers : List η) (routed : η → Bool) : η → Bool :=
  handlers.foldl (fun routed handler => if answers handler then Function.update routed handler value else routed) routed

/-- The calls of a task. It makes one at most once for an endpoint and handler. -/
structure Answers (η : Type) where
  /-- Of an endpoint that is updated or deregistered. -/
  removes : η → Bool
  /-- `addDirectiveHandler`, for an endpoint that is registered. -/
  adds : η → Bool
  /-- `addOrUpdateEndpoint` or `deleteEndpoint`. -/
  delegate : Bool
  /-- `removeDirectiveHandler`, for an endpoint whose registration is undone. -/
  undoes : String → η → Bool
  /-- `addDirectiveHandler`, for an endpoint that is restored. -/
  restores : String → η → Bool

/-- An entry of `m_pendingRegistrations` or `m_pendingDeregistrations`. -/
structure Pending (η : Type) where
  endpoint : Endpoint η
  promise : ℕ
deriving DecidableEq

structure Told where
  request : Option ℕ
  endpointId : String
  outcome : Outcome

inductive ExecutorTask (η : Type)
  | registerEndpoint (request : ℕ) (endpoint : Endpoint η)
  | deregisterEndpoint (request : ℕ) (endpoint : Endpoint η)
  | capabilityRegistrationStatusChanged (registration : RegistrationResult) (addedOrUpdatedIds : List String)
    (deregistration : DeregistrationResult) (deletedIds : List String)
deriving DecidableEq

/-- What is left to do of a task that the executor has begun. -/
inductive Rest (η : Type)
  /-- The end of `executeRegisterEndpoint`, which answers the request. -/
  | registerEndpoint (request : ℕ) (endpoint : Endpoint η) (result : RegistrationResult)
  /-- The end of `executeDeregisterEndpoint`, which answers the request. -/
  | deregisterEndpoint (request : ℕ) (endpoint : Endpoint η) (result : DeregistrationResult)
  | removeDeletedEndpoints (result : DeregistrationResult) (deletedIds : List String)
deriving DecidableEq

structure Manager (η : Type) where
  defaultEndpointId : String
  endpoints : AList fun _ : String => Endpoint η
  pendingRegistrations : AList fun _ : String => Pending η
  pendingDeregistrations : AList fun _ : String => Pending η
  tasks : List (ExecutorTask η)
  /-- What is left to do of the task that the executor performs. -/
  running : Option (Rest η)
  /-- The handlers that `m_directiveSequencer` has. -/
  routed : η → Bool
  requests : ℕ
  /-- The promises that were set, oldest first. -/
  completed : List (ℕ × Outcome)
  told : List Told
  endDereferenced : Bool
  destroyed : Bool

def create (defaultEndpointId : String) : Manager η where
  defaultEndpointId := defaultEndpointId
  endpoints := ∅
  pendingRegistrations := ∅
  pendingDeregistrations := ∅
  tasks := []
  running := none
  routed := fun _ => false
  requests := 0
  completed := []
  told := []
  endDereferenced := false
  destroyed := false

namespace Manager

section

variable (s : Manager η)

def submit (task : ExecutorTask η) : Manager η := {s with tasks := s.tasks++[task]}

def setValue (promise : ℕ) (outcome : Outcome) : Manager η :=
  {s with completed := s.completed++[(promise,outcome)]}

def tell (told : List Told) : Manager η := {s with told := s.told++told}

def registerEndpoint (s : Manager η) (endpoint : Option (Endpoint η)) : Manager η × Future RegistrationResult :=
  match endpoint with
  | none => (s,.refused .CONFIGURATION_ERROR)
  | some endpoint =>
    let endpointId := endpoint.endpointId
    if endpointId=s.defaultEndpointId ∧ endpointId∈s.endpoints then (s,.refused .CONFIGURATION_ERROR)
    else if endpointId∈s.pendingRegistrations then (s,.refused .REGISTRATION_IN_PROGRESS)
    else if endpointId∈s.pendingDeregistrations then (s,.refused .PENDING_DEREGISTRATION)
    else
      ({s.submit (.registerEndpoint s.requests endpoint) with
          pendingRegistrations := s.pendingRegistrations.insert endpointId ⟨endpoint,s.requests⟩
          requests := s.requests+1},
        .accepted s.requests)

def deregisterEndpoint (s : Manager η) (endpointId : String) : Manager η × Future DeregistrationResult :=
  if endpointId=s.defaultEndpointId then (s,.refused .CONFIGURATION_ERROR)
  else if endpointId∈s.pendingRegistrations then (s,.refused .REGISTRATION_IN_PROGRESS)
  else
    match s.endpoints.lookup endpointId with
    | none => (s,.refused .NOT_REGISTERED)
    | some endpoint =>
      if endpointId∈s.pendingDeregistrations then (s,.refused .PENDING_DEREGISTRATION)
      else
        ({s.submit (.deregisterEndpoint s.requests endpoint) with
            pendingDeregistrations := s.pendingDeregistrations.insert endpointId ⟨endpoint,s.requests⟩
            requests := s.requests+1},
          .accepted s.requests)

/-- And `onCapabilityRegistrationStatusChanged`. -/
def onCapabilitiesStateChange (newState : State)
    (addedOrUpdatedEndpointIds deletedEndpointIds : List String) : Manager η :=
  if newState≠.RETRIABLE_ERROR then
    s.submit (.capabilityRegistrationStatusChanged
      (if newState=.SUCCESS then .SUCCEEDED else .CONFIGURATION_ERROR) addedOrUpdatedEndpointIds
      (if newState=.SUCCESS then .SUCCEEDED else .CONFIGURATION_ERROR) deletedEndpointIds)
  else s

section

variable (endpoint : Endpoint η)

/-- The handlers of the endpoint that is replaced, if there is one, are removed. -/
def removePrevious (a : Answers η) : Changes η :=
  match s.endpoints.lookup endpoint.endpointId with
  | none => ⟨s.routed,[],true⟩
  | some previousEndpoint => removeCapabilities a.removes previousEndpoint s.routed

/-- They are added, if those of the previous endpoint were removed. -/
def addNew (a : Answers η) : Changes η :=
  let removal := s.removePrevious endpoint a
  if removal.succeeded then addCapabilities a.adds endpoint removal.routed else ⟨removal.routed,[],false⟩

def registrationResult (a : Answers η) : RegistrationResult :=
  if ¬(s.addNew endpoint a).succeeded then .CONFIGURATION_ERROR
  else if ¬a.delegate then .INTERNAL_ERROR
  else .SUCCEEDED

/-- A call that `executeRegisterEndpoint` makes for the endpoint fails. -/
def RegistrationFails (a : Answers η) : Prop :=
  (∃ previousEndpoint∈s.endpoints.lookup endpoint.endpointId,
    ∃ handler∈previousEndpoint.handlers,a.removes handler=false) ∨
  (∃ handler∈endpoint.handlers,a.adds handler=false) ∨ a.delegate=false

end

end

variable {s : Manager η} {a : Answers η}

theorem removePrevious_succeeded :
    (s.removePrevious endpoint a).succeeded=true ↔ ∀ previousEndpoint∈s.endpoints.lookup endpoint.endpointId,
      ∀ handler∈previousEndpoint.handlers,a.removes handler=true := by
  unfold removePrevious
  split
  next hlookup =>
    rw [hlookup]
    exact iff_of_true rfl fun previousEndpoint hnone => (Option.not_mem_none previousEndpoint hnone).elim
  next previousEndpoint hlookup =>
    rw [hlookup,removeCapabilities_succeeded]
    constructor
    · rintro hall other hother
      obtain rfl := Option.mem_some_iff.mp hother
      exact hall
    · intro hall
      exact hall previousEndpoint rfl

theorem registrationResult_eq : s.registrationResult endpoint a≠.SUCCEEDED ↔ s.RegistrationFails endpoint a := by
  unfold registrationResult RegistrationFails addNew
  by_cases hremoved : (s.removePrevious endpoint a).succeeded=true
  · have hnone := removePrevious_succeeded.mp hremoved
    rw [if_pos hremoved]
    have hprevious : ¬∃ previousEndpoint∈s.endpoints.lookup endpoint.endpointId,
        ∃ handler∈previousEndpoint.handlers,a.removes handler=false := by
      rintro ⟨previousEndpoint,hlookup,handler,hmem,hfalse⟩
      rw [hnone previousEndpoint hlookup handler hmem] at hfalse
      cases hfalse
    rw [or_iff_right hprevious]
    by_cases hadded : (addCapabilities a.adds endpoint (s.removePrevious endpoint a).routed).succeeded=true
    · have hall := addCapabilities_succeeded.mp hadded
      have hnew : ¬∃ handler∈endpoint.handlers,a.adds handler=false := by
        rintro ⟨handler,hmem,hfalse⟩
        rw [hall handler hmem] at hfalse
        cases hfalse
      rw [or_iff_right hnew,if_neg (not_not_intro hadded)]
      cases a.delegate <;> decide
    · rw [if_pos hadded]
      refine iff_of_true (by decide) (.inl ?_)
      by_contra hno
      refine hadded (addCapabilities_succeeded.mpr fun handler hmem => ?_)
      exact Bool.of_not_eq_false fun hfalse => hno ⟨handler,hmem,hfalse⟩
  · rw [if_neg hremoved,if_pos Bool.false_ne_true]
    refine iff_of_true (by decide) (.inl ?_)
    by_contra hno
    refine hremoved (removePrevious_succeeded.mpr fun previousEndpoint hlookup handler hmem => ?_)
    exact Bool.of_not_eq_false fun hfalse => hno ⟨previousEndpoint,hlookup,handler,hmem,hfalse⟩

/-- `revertDirectiveRouting` for an endpoint that replaces another. -/
def revertRegistration (s : Manager η) (endpoint : Endpoint η) (a : Answers η) : Manager η :=
  let added := s.addNew endpoint a
  match s.endpoints.lookup endpoint.endpointId with
  | none => {s with routed := added.routed}
  | some previousEndpoint =>
    let routed := revertHandlers (a.undoes endpoint.endpointId) false added.changed added.routed
    {s with
      routed := revertHandlers (a.restores endpoint.endpointId) true (s.removePrevious endpoint a).changed routed
      endpoints := s.endpoints.insert previousEndpoint.endpointId previousEndpoint}

/-- Up to the lock under which a request is answered. -/
def executeRegisterEndpoint (s : Manager η) (request : ℕ) (endpoint : Endpoint η) (a : Answers η) : Manager η :=
  let result := s.registrationResult endpoint a
  if result=.SUCCEEDED then {s with routed := (s.addNew endpoint a).routed}
  else
    {(s.revertRegistration endpoint a).tell [⟨some request,endpoint.endpointId,.registration result⟩] with
      running := some (.registerEndpoint request endpoint result)}

def deregistrationResult (s : Manager η) (endpoint : Endpoint η) (a : Answers η) : DeregistrationResult :=
  if ¬(removeCapabilities a.removes endpoint s.routed).succeeded then .CONFIGURATION_ERROR
  else if ¬a.delegate then .INTERNAL_ERROR
  else .SUCCEEDED

/-- A call that `executeDeregisterEndpoint` makes for the endpoint fails. -/
def DeregistrationFails (endpoint : Endpoint η) (a : Answers η) : Prop :=
  (∃ handler∈endpoint.handlers,a.removes handler=false) ∨ a.delegate=false

theorem deregistrationResult_eq : s.deregistrationResult endpoint a≠.SUCCEEDED ↔ DeregistrationFails endpoint a := by
  unfold deregistrationResult DeregistrationFails
  by_cases hremoved : (removeCapabilities a.removes endpoint s.routed).succeeded=true
  · have hall := removeCapabilities_succeeded.mp hremoved
    have hnew : ¬∃ handler∈endpoint.handlers,a.removes handler=false := by
      rintro ⟨handler,hmem,hfalse⟩
      rw [hall handler hmem] at hfalse
      cases hfalse
    rw [or_iff_right hnew,if_neg (not_not_intro hremoved)]
    cases a.delegate <;> decide
  · rw [if_pos hremoved]
    refine iff_of_true (by decide) (.inl ?_)
    by_contra hno
    refine hremoved (removeCapabilities_succeeded.mpr fun handler hmem => ?_)
    exact Bool.of_not_eq_false fun hfalse => hno ⟨handler,hmem,hfalse⟩

section

variable (s)

/-- Up to the lock under which a request is answered. -/
def executeDeregisterEndpoint (request : ℕ) (endpoint : Endpoint η) (a : Answers η) : Manager η :=
  let removal := removeCapabilities a.removes endpoint s.routed
  let result := s.deregistrationResult endpoint a
  if result=.SUCCEEDED then {s with routed := removal.routed}
  else
    let s := {s with routed := revertHandlers (a.restores endpoint.endpointId) true removal.changed removal.routed}
    {s.tell [⟨some request,endpoint.endpointId,.deregistration result⟩] with
      running := some (.deregisterEndpoint request endpoint result)}

/-- The end of `notifyObserver`, which finds any entry of the endpoint, or none. -/
def answerRegistration (endpoint : Endpoint η) (result : RegistrationResult) : Manager η :=
  match s.pendingRegistrations.lookup endpoint.endpointId with
  | none => {s with endDereferenced := true}
  | some pending =>
    {s.setValue pending.promise (.registration result) with
      pendingRegistrations := s.pendingRegistrations.erase endpoint.endpointId}

/-- And that of `executeDeregisterEndpoint`, in the same way. -/
def answerDeregistration (endpoint : Endpoint η) (result : DeregistrationResult) : Manager η :=
  match s.pendingDeregistrations.lookup endpoint.endpointId with
  | none => {s with endDereferenced := true}
  | some pending =>
    {s.setValue pending.promise (.deregistration result) with
      pendingDeregistrations := s.pendingDeregistrations.erase endpoint.endpointId}

section

variable (endpointId : String)

/-- The registered endpoint is restored, or it is gone. -/
def restoreEndpoint (a : Answers η) : Manager η :=
  match s.endpoints.lookup endpointId with
  | none => s
  | some originalEndpoint =>
    let added := addCapabilities (a.restores endpointId) originalEndpoint s.routed
    if added.succeeded then {s with routed := added.routed}
    else {s with routed := added.routed,endpoints := s.endpoints.erase endpointId}

def finishRegistration (pending : Pending η) (result : RegistrationResult) (a : Answers η) : Manager η :=
  let s := s.setValue pending.promise (.registration result)
  let s :=
    if result=.SUCCEEDED then {s with endpoints := s.endpoints.insert endpointId pending.endpoint}
    else
      {s with
        routed := (removeCapabilities (a.undoes endpointId) pending.endpoint s.routed).routed}.restoreEndpoint
          endpointId a
  {s with pendingRegistrations := s.pendingRegistrations.erase endpointId}

def finishDeregistration (pending : Pending η) (result : DeregistrationResult) (a : Answers η) : Manager η :=
  let s := s.setValue pending.promise (.deregistration result)
  let s :=
    if result=.SUCCEEDED then {s with endpoints := s.endpoints.erase endpointId}
    else s.restoreEndpoint endpointId a
  {s with pendingDeregistrations := s.pendingDeregistrations.erase endpointId}

end

end

/-- The loop, and the results that the observer is told behind it. -/
def updateEndpoints (result : RegistrationResult) (a : Answers η) : List String → Manager η → List Told → Manager η
  | [],s,told => s.tell told
  | addedOrUpdatedId::ids,s,told =>
    match s.pendingRegistrations.lookup addedOrUpdatedId with
    | none => updateEndpoints result a ids s told
    | some pending =>
      updateEndpoints result a ids (s.finishRegistration addedOrUpdatedId pending result a)
        (told++[⟨some pending.promise,addedOrUpdatedId,.registration result⟩])

def updateAddedOrUpdatedEndpoints (s : Manager η) (result : RegistrationResult) (addedOrUpdatedIds : List String)
    (a : Answers η) : Manager η :=
  updateEndpoints result a addedOrUpdatedIds s []

/-- The loop, and the results that the observer is told: one for every id. -/
def removeEndpoints (result : DeregistrationResult) (a : Answers η) : List String → Manager η → List Told → Manager η
  | [],s,told => s.tell told
  | deletedId::ids,s,told =>
    match s.pendingDeregistrations.lookup deletedId with
    | none => removeEndpoints result a ids s (told++[⟨none,deletedId,.deregistration result⟩])
    | some pending =>
      removeEndpoints result a ids (s.finishDeregistration deletedId pending result a)
        (told++[⟨some pending.promise,deletedId,.deregistration result⟩])

section

variable (s)

def removeDeletedEndpoints (result : DeregistrationResult) (deletedIds : List String) (a : Answers η) : Manager η :=
  removeEndpoints result a deletedIds s []

def begin (a : Answers η) : ExecutorTask η → Manager η
  | .registerEndpoint request endpoint => s.executeRegisterEndpoint request endpoint a
  | .deregisterEndpoint request endpoint => s.executeDeregisterEndpoint request endpoint a
  | .capabilityRegistrationStatusChanged registration addedOrUpdatedIds deregistration deletedIds =>
    {s.updateAddedOrUpdatedEndpoints registration addedOrUpdatedIds a with
      running := some (.removeDeletedEndpoints deregistration deletedIds)}

def finish (a : Answers η) : Rest η → Manager η
  | .registerEndpoint _ endpoint result => s.answerRegistration endpoint result
  | .deregisterEndpoint _ endpoint result => s.answerDeregistration endpoint result
  | .removeDeletedEndpoints result deletedIds => s.removeDeletedEndpoints result deletedIds a

/-- The executor goes on with its task, or takes the oldest one. -/
def perform (a : Answers η) : Manager η :=
  match s.running with
  | some rest => {s with running := none}.finish a rest
  | none =>
    match s.tasks with
    | [] => s
    | task::tasks => {s with tasks := tasks}.begin a task

/-- What the requests that are pending in the end are answered with. -/
def closing : List Told :=
  (s.pendingRegistrations.entries.map fun entry =>
    ⟨some entry.2.promise,entry.2.endpoint.endpointId,.registration .INTERNAL_ERROR⟩) ++
  s.pendingDeregistrations.entries.map fun entry =>
    ⟨some entry.2.promise,entry.2.endpoint.endpointId,.deregistration .INTERNAL_ERROR⟩

/-- The promises that are set in the end. -/
def closed : List (ℕ × Outcome) :=
  (s.pendingRegistrations.entries.map fun entry => (entry.2.promise,.registration .INTERNAL_ERROR)) ++
  s.pendingDeregistrations.entries.map fun entry => (entry.2.promise,.deregistration .INTERNAL_ERROR)

/-- Tasks that were not begun are dropped, and so are the maps. -/
def destroy : Manager η :=
  {s with
    tasks := []
    completed := s.completed++s.closed
    told := s.told++s.closing
    pendingRegistrations := ∅
    pendingDeregistrations := ∅
    destroyed := true}

end

end Manager

inductive Event (η : Type)
  | registerEndpoint (endpoint : Option (Endpoint η))
  | deregisterEndpoint (endpointId : String)
  | onCapabilitiesStateChange (newState : State) (addedOrUpdatedEndpointIds deletedEndpointIds : List String)
  | perform (a : Answers η)
  | destroy

/-- Nothing behind the destructor, which waits for a begun task. -/
def Possible (s : Manager η) : Event η → Prop
  | .perform _ => s.destroyed=false ∧ (s.running≠none ∨ s.tasks≠[])
  | .destroy => s.destroyed=false ∧ s.running=none
  | _ => s.destroyed=false

def Manager.next (s : Manager η) : Event η → Manager η
  | .registerEndpoint endpoint => (s.registerEndpoint endpoint).1
  | .deregisterEndpoint endpointId => (s.deregisterEndpoint endpointId).1
  | .onCapabilitiesStateChange newState addedOrUpdatedEndpointIds deletedEndpointIds =>
    s.onCapabilitiesStateChange newState addedOrUpdatedEndpointIds deletedEndpointIds
  | .perform a => s.perform a
  | .destroy => s.destroy

def Step (s : Manager η) (event : Event η) (t : Manager η) : Prop := Possible s event ∧ t=s.next event

theorem step_next {s : Manager η} (event : Event η) (hpossible : Possible s event) : Step s event (s.next event) :=
  ⟨hpossible,rfl⟩

open Manager

/-- Endpoints stand under their own ids. -/
structure Keyed (s : Manager η) : Prop where
  endpoints : ∀ endpointId,∀ endpoint∈s.endpoints.lookup endpointId,endpoint.endpointId=endpointId
  pending : ∀ endpointId,∀ pending∈s.pendingRegistrations.lookup endpointId,
    pending.endpoint.endpointId=endpointId

/-- What holds of the entries of a map holds of those of a map with one entry more. -/
theorem forall_lookup_insert {β : Type} {P : String → β → Prop} {map : AList fun _ : String => β}
    (h : ∀ key,∀ value∈map.lookup key,P key value) {new : String} {added : β} (hnew : P new added) :
    ∀ key,∀ value∈(map.insert new added).lookup key,P key value := by
  intro key value hvalue
  rcases eq_or_ne key new with rfl|hne
  · rw [AList.lookup_insert] at hvalue
    cases hvalue
    exact hnew
  · rw [AList.lookup_insert_ne hne] at hvalue
    exact h key value hvalue

theorem forall_lookup_erase {β : Type} {P : String → β → Prop} {map : AList fun _ : String => β}
    (h : ∀ key,∀ value∈map.lookup key,P key value) (gone : String) :
    ∀ key,∀ value∈(map.erase gone).lookup key,P key value := by
  intro key value hvalue
  rcases eq_or_ne key gone with rfl|hne
  · rw [AList.lookup_erase] at hvalue
    cases hvalue
  · rw [AList.lookup_erase_ne hne] at hvalue
    exact h key value hvalue

variable {s : Manager η}

section

variable (endpointId : String)

theorem restoreEndpoint_eq (a : Answers η) :
    ∃ routed endpoints,s.restoreEndpoint endpointId a={s with routed := routed,endpoints := endpoints} ∧
      (endpoints=s.endpoints ∨ endpoints=s.endpoints.erase endpointId) := by
  unfold restoreEndpoint
  split
  · exact ⟨s.routed,s.endpoints,rfl,.inl rfl⟩
  · dsimp only
    split
    · exact ⟨_,s.endpoints,rfl,.inl rfl⟩
    · exact ⟨_,_,rfl,.inr rfl⟩

/-- What a task that fails leaves alone before it answers its request. -/
theorem revertRegistration_eq (endpoint : Endpoint η) (a : Answers η) :
    ∃ routed endpoints,s.revertRegistration endpoint a={s with routed := routed,endpoints := endpoints} := by
  unfold revertRegistration
  split
  · exact ⟨_,s.endpoints,rfl⟩
  · exact ⟨_,_,rfl⟩

theorem finishRegistration_eq (pending : Pending η) (result : RegistrationResult) (a : Answers η) :
    ∃ routed endpoints,s.finishRegistration endpointId pending result a =
        {s with
          routed := routed
          endpoints := endpoints
          completed := s.completed++[(pending.promise,.registration result)]
          pendingRegistrations := s.pendingRegistrations.erase endpointId} ∧
      (endpoints=s.endpoints ∨ endpoints=s.endpoints.erase endpointId ∨
        endpoints=s.endpoints.insert endpointId pending.endpoint) := by
  unfold finishRegistration
  split
  · exact ⟨_,_,rfl,.inr (.inr rfl)⟩
  · obtain ⟨routed,endpoints,heq,hendpoints⟩ := restoreEndpoint_eq (s := {s.setValue pending.promise
      (.registration result) with routed := (removeCapabilities (a.undoes endpointId) pending.endpoint s.routed).routed})
      endpointId a
    refine ⟨routed,endpoints,?_,hendpoints.imp_right .inl⟩
    exact congrArg (fun t : Manager η => {t with pendingRegistrations := t.pendingRegistrations.erase endpointId}) heq

theorem finishDeregistration_eq (pending : Pending η) (result : DeregistrationResult) (a : Answers η) :
    ∃ routed endpoints,s.finishDeregistration endpointId pending result a =
        {s with
          routed := routed
          endpoints := endpoints
          completed := s.completed++[(pending.promise,.deregistration result)]
          pendingDeregistrations := s.pendingDeregistrations.erase endpointId} ∧
      (endpoints=s.endpoints ∨ endpoints=s.endpoints.erase endpointId) := by
  unfold finishDeregistration
  split
  · exact ⟨_,_,rfl,.inr rfl⟩
  · obtain ⟨routed,endpoints,heq,hendpoints⟩ := restoreEndpoint_eq (s := s.setValue pending.promise
      (.deregistration result)) endpointId a
    refine ⟨routed,endpoints,?_,hendpoints⟩
    exact congrArg (fun t : Manager η =>
      {t with pendingDeregistrations := t.pendingDeregistrations.erase endpointId}) heq

end

namespace Keyed

theorem finishRegistration (h : Keyed s) {endpointId : String} {pending : Pending η}
    (hlookup : s.pendingRegistrations.lookup endpointId=some pending) (result : RegistrationResult)
    (a : Answers η) : Keyed (s.finishRegistration endpointId pending result a) := by
  obtain ⟨routed,endpoints,heq,hendpoints⟩ := finishRegistration_eq (s := s) endpointId pending result a
  rw [heq]
  refine ⟨?_,forall_lookup_erase h.pending endpointId⟩
  obtain rfl|rfl|rfl := hendpoints
  · exact h.endpoints
  · exact forall_lookup_erase h.endpoints endpointId
  · exact forall_lookup_insert h.endpoints (h.pending endpointId pending hlookup)

theorem finishDeregistration (h : Keyed s) (endpointId : String) (pending : Pending η)
    (result : DeregistrationResult) (a : Answers η) : Keyed (s.finishDeregistration endpointId pending result a) := by
  obtain ⟨routed,endpoints,heq,hendpoints⟩ := finishDeregistration_eq (s := s) endpointId pending result a
  rw [heq]
  refine ⟨?_,h.pending⟩
  obtain rfl|rfl := hendpoints
  · exact h.endpoints
  · exact forall_lookup_erase h.endpoints endpointId

theorem updateEndpoints (result : RegistrationResult) (a : Answers η) (ids : List String) :
    ∀ (s : Manager η) (told : List Told),Keyed s → Keyed (Manager.updateEndpoints result a ids s told) := by
  induction ids with
  | nil => exact fun s told h => ⟨h.endpoints,h.pending⟩
  | cons addedOrUpdatedId ids ih =>
    intro s told h
    unfold Manager.updateEndpoints
    split
    · exact ih s told h
    next pending hlookup => exact ih _ _ (h.finishRegistration hlookup result a)

theorem removeEndpoints (result : DeregistrationResult) (a : Answers η) (ids : List String) :
    ∀ (s : Manager η) (told : List Told),Keyed s → Keyed (Manager.removeEndpoints result a ids s told) := by
  induction ids with
  | nil => exact fun s told h => ⟨h.endpoints,h.pending⟩
  | cons deletedId ids ih =>
    intro s told h
    unfold Manager.removeEndpoints
    split
    · exact ih s _ h
    next pending hlookup => exact ih _ _ (h.finishDeregistration deletedId pending result a)

theorem begin (h : Keyed s) (a : Answers η) (task : ExecutorTask η) : Keyed (s.begin a task) := by
  cases task with
  | registerEndpoint =>
    unfold Manager.begin executeRegisterEndpoint
    dsimp only
    split
    · exact ⟨h.endpoints,h.pending⟩
    · refine ⟨?_,?_⟩
      · unfold Manager.tell revertRegistration
        split
        · exact h.endpoints
        next previousEndpoint hlookup => exact forall_lookup_insert h.endpoints rfl
      · unfold Manager.tell revertRegistration
        split
        · exact h.pending
        · exact h.pending
  | deregisterEndpoint =>
    unfold Manager.begin executeDeregisterEndpoint
    dsimp only
    split
    · exact ⟨h.endpoints,h.pending⟩
    · exact ⟨h.endpoints,h.pending⟩
  | capabilityRegistrationStatusChanged registration addedOrUpdatedIds =>
    have hupdate := Keyed.updateEndpoints registration a addedOrUpdatedIds s [] h
    exact ⟨hupdate.endpoints,hupdate.pending⟩

theorem finish (h : Keyed s) (a : Answers η) (rest : Rest η) : Keyed (s.finish a rest) := by
  cases rest with
  | registerEndpoint request endpoint =>
    unfold Manager.finish answerRegistration
    dsimp only
    split
    · exact ⟨h.endpoints,h.pending⟩
    · exact ⟨h.endpoints,forall_lookup_erase h.pending endpoint.endpointId⟩
  | deregisterEndpoint =>
    unfold Manager.finish answerDeregistration
    dsimp only
    split
    · exact ⟨h.endpoints,h.pending⟩
    · exact ⟨h.endpoints,h.pending⟩
  | removeDeletedEndpoints result deletedIds => exact Keyed.removeEndpoints result a deletedIds s [] h

theorem next (h : Keyed s) (event : Event η) : Keyed (s.next event) := by
  cases event with
  | registerEndpoint =>
    unfold Manager.next Manager.registerEndpoint
    dsimp only
    split
    · exact h
    · split
      · exact h
      · split
        · exact h
        · split
          · exact h
          · exact ⟨h.endpoints,forall_lookup_insert h.pending rfl⟩
  | deregisterEndpoint =>
    unfold Manager.next Manager.deregisterEndpoint
    dsimp only
    split
    · exact h
    · split
      · exact h
      · split
        · exact h
        · split
          · exact h
          · exact ⟨h.endpoints,h.pending⟩
  | onCapabilitiesStateChange =>
    unfold Manager.next Manager.onCapabilitiesStateChange
    dsimp only
    split
    · exact ⟨h.endpoints,h.pending⟩
    · exact h
  | perform a =>
    unfold Manager.next Manager.perform
    dsimp only
    split
    next rest _ => exact Keyed.finish (s := {s with running := none}) ⟨h.endpoints,h.pending⟩ a rest
    · split
      · exact h
      next task tasks _ => exact Keyed.begin (s := {s with tasks := tasks}) ⟨h.endpoints,h.pending⟩ a task
  | destroy => exact ⟨h.endpoints,fun endpointId pending hnone => (Option.not_mem_none pending hnone).elim⟩

end Keyed

end AlexaClientSDK.EndpointRegistration
