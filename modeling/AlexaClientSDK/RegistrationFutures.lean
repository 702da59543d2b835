import AlexaClientSDK.LabelledRuns
import AlexaClientSDK.Ledgers
import AlexaClientSDK.EndpointRegistration

/-!
# Every registration request is answered once

A request is pending until its promise is set, and the observer is told once of it. It is looked up by the id of its
endpoint: a notification may answer a request whose task has not begun, which then finds no entry when it fails, or that
of a later request. And the observer is told of every endpoint given as deleted, asked for or not.
-/

namespace AlexaClientSDK.RegistrationFutures

open Bool AList List LabelledRuns Ledgers EndpointRegistration Manager

variable {η : Type} {s t : Manager η}

section

variable (s)

/-- The promises that were set. -/
def answered : List ℕ := s.completed.map Prod.fst

structure Answered (s : Manager η) : Prop where
  set_once : (answered s).Nodup
  set_accepted : ∀ request∈answered s,request<s.requests
  told_once : (s.told.map Told.request).Nodup
  told_accepted : ∀ told∈s.told,∃ request<s.requests,told.request=some request
  /-- In the end every promise was set, and the observer was told the same. -/
  all : s.destroyed=true → ∀ request<s.requests,∃ endpointId outcome,
    (request,outcome)∈s.completed ∧ ⟨some request,endpointId,outcome⟩∈s.told
  found : s.endDereferenced=false

section

variable (pending : AList fun _ : String => Pending η)

def Holds (endpoint : Endpoint η) (request : ℕ) : Prop :=
  (pending.lookup endpoint.endpointId).map Pending.promise=some request

/-- No notification has answered a task that fails. -/
def AllowedTask (a : Answers η) : ExecutorTask η → Prop
  | .registerEndpoint request endpoint =>
    s.RegistrationFails endpoint a → Holds s.pendingRegistrations endpoint request
  | .deregisterEndpoint request endpoint =>
    DeregistrationFails endpoint a → Holds s.pendingDeregistrations endpoint request
  | .capabilityRegistrationStatusChanged _ _ _ _ => True

/-- They are different ones, and wait for it. -/
def AllowedRest : Rest η → Prop
  | .removeDeletedEndpoints _ deletedIds => deletedIds.Nodup ∧ ∀ deletedId∈deletedIds,deletedId∈s.pendingDeregistrations
  | .registerEndpoint _ _ _ | .deregisterEndpoint _ _ _ => True

/-- What may happen. -/
def Allowed : Event η → Prop
  | .perform a =>
    (∀ rest,s.running=some rest → AllowedRest s rest) ∧ (s.running=none → ∀ task∈s.tasks.head?,AllowedTask s a task)
  | .registerEndpoint _ | .deregisterEndpoint _ | .onCapabilitiesStateChange _ _ _ | .destroy => True

def promises : List ℕ := pending.entries.map fun entry => entry.2.promise

def pendings : List ℕ := promises s.pendingRegistrations++promises s.pendingDeregistrations

/-- What the observer was told, without the endpoints. -/
def reports : List (Option ℕ × Outcome) := s.told.map fun told => (told.request,told.outcome)

def results : List (Option ℕ × Outcome) :=
  s.completed.map fun completed => (some completed.1,completed.2)

/-- What the observer was told of a request that is not answered yet. -/
def concluding : Option (Rest η) → List (Option ℕ × Outcome)
  | some (.registerEndpoint request _ result) => [(some request,.registration result)]
  | some (.deregisterEndpoint request _ result) => [(some request,.deregistration result)]
  | some (.removeDeletedEndpoints _ _) | none => []

/-- The request that the executor is about to answer is pending. -/
def RestHeld : Rest η → Prop
  | .registerEndpoint request endpoint _ => Holds s.pendingRegistrations endpoint request
  | .deregisterEndpoint request endpoint _ => Holds s.pendingDeregistrations endpoint request
  | .removeDeletedEndpoints _ _ => True

/-- The request is pending for the endpoint, or it was answered. -/
def Kept (done : List ℕ) (endpoint : Endpoint η) (request : ℕ) : Prop :=
  Holds pending endpoint request ∨ request∈done

end

/-- The request of a task that was not begun is pending, or it was answered. -/
def TaskKept : ExecutorTask η → Prop
  | .registerEndpoint request endpoint => Kept s.pendingRegistrations (answered s) endpoint request
  | .deregisterEndpoint request endpoint => Kept s.pendingDeregistrations (answered s) endpoint request
  | .capabilityRegistrationStatusChanged _ _ _ _ => True

end

/-- What holds in every state reached. -/
structure Inv (s : Manager η) : Prop where
  ledger : Ledger s.requests (answered s) (pendings s)
  /-- The observer was told what was set, and of the request being answered. -/
  told : (reports s).Perm (results s++concluding s.running)
  found : s.endDereferenced=false
  /-- The request that is about to be answered is pending. -/
  rest : ∀ rest,s.running=some rest → RestHeld s rest
  kept : ∀ task∈s.tasks,TaskKept s task
  closed : s.destroyed=true → pendings s=[] ∧ s.running=none

theorem inv_create (defaultEndpointId : String) : Inv (create defaultEndpointId : Manager η) where
  ledger := Ledger.nil
  told := List.Perm.refl _
  found := rfl
  rest := fun rest hrest => (Option.some_ne_none rest hrest.symm).elim
  kept := fun _ htask => (not_mem_nil htask).elim
  closed := fun hdestroyed => (false_ne_true hdestroyed).elim

theorem Inv.told_requests (h : Inv s) :
    (s.told.map Told.request).Perm ((answered s).map some++(concluding s.running).map Prod.fst) := by
  have hperm := h.told.map Prod.fst
  rw [map_append] at hperm
  unfold reports results at hperm
  rw [map_map,map_map] at hperm
  unfold answered
  rw [map_map]
  exact hperm

variable {endpoint : Endpoint η} {request : ℕ}

theorem Inv.told_of_answered (h : Inv s) (hanswered : request∈answered s) : some request∈s.told.map Told.request :=
  h.told_requests.mem_iff.mpr (mem_append_left _ (mem_map_of_mem hanswered))

theorem mem_promises {pending : AList fun _ : String => Pending η}
    (h : Holds pending endpoint request) : request∈promises pending := by
  obtain ⟨entry,hlookup,hpromise⟩ := Option.map_eq_some_iff.mp h
  have hmem := of_mem_dlookup (l := pending.entries) hlookup
  exact mem_map.mpr ⟨_,hmem,hpromise⟩

variable {outcome : Outcome}

theorem Inv.concluding_pending (h : Inv s) {request : Option ℕ}
    (hmem : (request,outcome)∈concluding s.running) : ∃ number∈pendings s,request=some number := by
  have hrest := h.rest
  unfold concluding at hmem
  split at hmem
  next number endpoint result hrunning =>
    cases mem_singleton.mp hmem
    exact ⟨number,mem_append_left _ (mem_promises (hrest _ hrunning)),rfl⟩
  next number endpoint result hrunning =>
    cases mem_singleton.mp hmem
    exact ⟨number,mem_append_right _ (mem_promises (hrest _ hrunning)),rfl⟩
  · exact (not_mem_nil hmem).elim
  · exact (not_mem_nil hmem).elim

/-- What holds in every state reached is what was to be shown. -/
theorem Inv.answered (h : Inv s) : Answered s where
  set_once := h.ledger.nodup
  set_accepted := fun request hmem => h.ledger.lt hmem
  told_once := by
    refine h.told_requests.nodup_iff.mpr (nodup_append.mpr ⟨?_,?_,?_⟩)
    · exact h.ledger.nodup.map fun _ _ heq => Option.some.inj heq
    · unfold concluding
      split
      · exact nodup_singleton _
      · exact nodup_singleton _
      · exact nodup_nil
      · exact nodup_nil
    · rintro request hset other hother rfl
      obtain ⟨number,hanswered,rfl⟩ := mem_map.mp hset
      obtain ⟨⟨first,outcome⟩,hmem,hfirst⟩ := mem_map.mp hother
      obtain ⟨pending,hpending,rfl⟩ := h.concluding_pending hmem
      obtain rfl := Option.some.inj hfirst
      exact h.ledger.not_mem hpending hanswered
  told_accepted := by
    intro told hmem
    have hrequest := h.told_requests.mem_iff.mp (mem_map_of_mem hmem)
    obtain hset|hconcluding := mem_append.mp hrequest
    · obtain ⟨request,hanswered,hsome⟩ := mem_map.mp hset
      exact ⟨request,h.ledger.lt hanswered,hsome.symm⟩
    · obtain ⟨⟨first,outcome⟩,hmem,hfirst⟩ := mem_map.mp hconcluding
      obtain ⟨request,hpending,rfl⟩ := h.concluding_pending hmem
      exact ⟨request,h.ledger.mem_iff.mp (.inr hpending),hfirst.symm⟩
  all := by
    intro hdestroyed request hlt
    obtain ⟨hnone,hrunning⟩ := h.closed hdestroyed
    have hledger := h.ledger
    rw [hnone] at hledger
    obtain ⟨⟨number,outcome⟩,hset,rfl⟩ := mem_map.mp (hledger.mem hlt)
    have htold : (some number,outcome)∈reports s :=
      h.told.mem_iff.mpr (mem_append_left _ (mem_map_of_mem hset))
    obtain ⟨⟨first,endpointId,second⟩,hmem,hreport⟩ := mem_map.mp htold
    cases hreport
    exact ⟨endpointId,second,hset,hmem⟩
  found := h.found

variable {pending : AList fun _ : String => Pending η}
  {done more : List ℕ} {endpointId : String} {entry : Pending η}

theorem promises_insert (hnew : endpointId∉pending) :
    promises (pending.insert endpointId entry)=entry.promise::promises pending := by
  unfold promises
  rw [entries_insert_of_notMem hnew,map_cons]

/-- An entry that is erased is the only one that is not pending any more. -/
theorem promises_erase (hlookup : pending.lookup endpointId=some entry) :
    (promises pending).Perm (entry.promise::promises (pending.erase endpointId)) := by
  have hperm := (MapFolds.entries_perm hlookup).map fun entry => entry.2.promise
  exact hperm

section

variable (h : Kept pending done endpoint request)
include h

/-- No other request is lost when there is a new entry. -/
theorem Kept.insert (hnew : endpointId∉pending) : Kept (pending.insert endpointId entry) done endpoint request := by
  refine h.imp_left fun hholds => ?_
  unfold Holds at hholds ⊢
  rcases eq_or_ne endpoint.endpointId endpointId with heq|hne
  · rw [heq,lookup_eq_none.mpr hnew] at hholds
    cases hholds
  · rw [lookup_insert_ne hne]
    exact hholds

/-- No request is lost when the promise of an entry is set that is erased. -/
theorem Kept.erase (hlookup : pending.lookup endpointId=some entry) :
    Kept (pending.erase endpointId) (done++[entry.promise]) endpoint request := by
  obtain hholds|hdone := h
  · rcases eq_or_ne endpoint.endpointId endpointId with heq|hne
    · unfold Holds at hholds
      rw [heq,hlookup] at hholds
      cases hholds
      exact .inr mem_concat_self
    · refine .inl ?_
      unfold Holds at hholds ⊢
      rw [lookup_erase_ne hne]
      exact hholds
  · exact .inr (mem_append_left _ hdone)

theorem Kept.append : Kept pending (done++more) endpoint request :=
  h.imp_right (mem_append_left more)

end

theorem Holds.insert (h : Holds pending endpoint request) (hnew : endpointId∉pending) :
    Holds (pending.insert endpointId entry) endpoint request := by
  have hkept : Kept (pending.insert endpointId entry) [] endpoint request := Kept.insert (.inl h) hnew
  exact hkept.resolve_right not_mem_nil

theorem Holds.new (pending : AList fun _ : String => Pending η) (endpoint : Endpoint η) (request : ℕ)
    (entry : Endpoint η) : Holds (pending.insert endpoint.endpointId ⟨entry,request⟩) endpoint request := by
  unfold Holds
  rw [lookup_insert]
  rfl

variable {task : ExecutorTask η}

theorem TaskKept.keep (hkept : TaskKept s task)
    (hregistrations : ∀ other request,Kept s.pendingRegistrations (answered s) other request →
      Kept t.pendingRegistrations (answered t) other request)
    (hderegistrations : ∀ other request,Kept s.pendingDeregistrations (answered s) other request →
      Kept t.pendingDeregistrations (answered t) other request) : TaskKept t task := by
  cases task with
  | registerEndpoint request other => exact hregistrations other request hkept
  | deregisterEndpoint request other => exact hderegistrations other request hkept
  | capabilityRegistrationStatusChanged => exact hkept

theorem answered_append {promise : ℕ} (hcompleted : t.completed=s.completed++[(promise,outcome)]) :
    answered t=answered s++[promise] := by
  unfold answered
  rw [hcompleted,map_append]
  rfl

theorem pendings_registration (hlookup : s.pendingRegistrations.lookup endpointId=some entry)
    (hregistrations : t.pendingRegistrations=s.pendingRegistrations.erase endpointId)
    (hderegistrations : t.pendingDeregistrations=s.pendingDeregistrations) :
    (pendings s).Perm (entry.promise::pendings t) := by
  unfold pendings
  rw [hregistrations,hderegistrations,←cons_append]
  exact (promises_erase hlookup).append_right _

theorem pendings_deregistration (hlookup : s.pendingDeregistrations.lookup endpointId=some entry)
    (hregistrations : t.pendingRegistrations=s.pendingRegistrations)
    (hderegistrations : t.pendingDeregistrations=s.pendingDeregistrations.erase endpointId) :
    (pendings s).Perm (entry.promise::pendings t) := by
  unfold pendings
  rw [hregistrations,hderegistrations]
  exact ((promises_erase hlookup).append_left _).trans perm_middle

/-- A state in which the executor has done all of what it has begun. -/
structure Idle (s : Manager η) : Prop where
  inv : Inv s
  running : s.running=none
  destroyed : s.destroyed=false

theorem Idle.conclude (h : Idle s) {told : Told} {rest : Rest η}
    (hconcluding : concluding (some rest)=[(told.request,told.outcome)]) (hheld : RestHeld s rest)
    (routed : η → Bool) (endpoints : AList fun _ : String => Endpoint η) :
    Inv {s with
      routed := routed
      endpoints := endpoints
      told := s.told++[told]
      running := some rest} where
  ledger := h.inv.ledger
  told := by
    have hbefore := h.inv.told
    rw [h.running] at hbefore
    have hsplit : reports {s with told := s.told++[told]}=reports s++[(told.request,told.outcome)] :=
      map_append
    rw [hconcluding]
    exact (List.Perm.of_eq hsplit).trans ((hbefore.trans (List.Perm.of_eq (append_nil _))).append_right _)
  found := h.inv.found
  rest := by
    rintro other hother
    cases hother
    cases rest with
    | registerEndpoint => exact hheld
    | deregisterEndpoint => exact hheld
    | removeDeletedEndpoints => exact hheld
  kept := by
    intro task htask
    have hkept := h.inv.kept task htask
    cases task with
    | registerEndpoint => exact hkept
    | deregisterEndpoint => exact hkept
    | capabilityRegistrationStatusChanged => exact hkept
  closed := fun hclosed => (false_ne_true (h.destroyed.symm.trans hclosed)).elim

section

variable (h : Inv s)
include h

theorem Inv.accept (hdestroyed : s.destroyed=false) (hrequests : t.requests=s.requests+1)
    (hpendings : (pendings t).Perm (s.requests::pendings s)) (hcompleted : t.completed=s.completed)
    (htold : t.told=s.told) (hrunning : t.running=s.running) (hfound : t.endDereferenced=s.endDereferenced)
    (hrest : ∀ rest,RestHeld s rest → RestHeld t rest) (hkept : ∀ task∈t.tasks,TaskKept t task)
    (hopen : t.destroyed=s.destroyed) : Inv t where
  ledger := by
    unfold RegistrationFutures.answered
    rw [hrequests,hcompleted]
    exact h.ledger.accept hpendings
  told := by
    unfold reports results
    rw [htold,hcompleted,hrunning]
    exact h.told
  found := hfound.trans h.found
  rest := fun rest hsome => hrest rest (h.rest rest (hrunning ▸ hsome))
  kept := hkept
  closed := fun hclosed => (false_ne_true (hdestroyed.symm.trans (hopen ▸ hclosed))).elim

theorem inv_deregisterEndpoint (hkeyed : Keyed s) (hdestroyed : s.destroyed=false)
    (endpointId : String) : Inv (s.deregisterEndpoint endpointId).1 := by
  unfold deregisterEndpoint
  split
  · exact h
  · split
    · exact h
    · split
      · exact h
      next endpoint hlookup =>
        split
        · exact h
        next hnew =>
          obtain rfl := hkeyed.endpoints endpointId endpoint hlookup
          refine h.accept hdestroyed rfl ?_ rfl rfl rfl rfl ?_ ?_ rfl
          · have hpending : promises (s.pendingDeregistrations.insert endpoint.endpointId ⟨endpoint,s.requests⟩) =
                s.requests::promises s.pendingDeregistrations := promises_insert hnew
            change (promises s.pendingRegistrations++promises (s.pendingDeregistrations.insert _ _)).Perm _
            rw [hpending]
            exact perm_middle
          · intro rest hheld
            cases rest with
            | registerEndpoint => exact hheld
            | deregisterEndpoint => exact Holds.insert hheld hnew
            | removeDeletedEndpoints => exact hheld
          · intro task htask
            obtain hbefore|hlast := mem_append.mp htask
            · exact TaskKept.keep (h.kept task hbefore) (fun _ _ hkept => hkept) fun _ _ hkept => Kept.insert hkept hnew
            · cases mem_singleton.mp hlast
              exact .inl (Holds.new s.pendingDeregistrations endpoint s.requests endpoint)

/-- Nothing is left of the task that answered it. -/
theorem Inv.answer {promise : ℕ} (hrequests : t.requests=s.requests)
    (hpendings : (pendings s).Perm (promise::pendings t)) (hcompleted : t.completed=s.completed++[(promise,outcome)])
    (htold : (reports t).Perm (results s++[(some promise,outcome)])) (hrunning : t.running=none)
    (hfound : t.endDereferenced=s.endDereferenced) (hkept : ∀ task∈t.tasks,TaskKept t task)
    (hopen : t.destroyed=false) : Inv t where
  ledger := by
    unfold RegistrationFutures.answered
    rw [hrequests,hcompleted,map_append]
    exact h.ledger.answer hpendings
  told := by
    unfold results
    rw [hcompleted,hrunning,map_append]
    exact htold.trans (List.Perm.of_eq (append_nil _).symm)
  found := hfound.trans h.found
  rest := fun rest hsome => (Option.some_ne_none rest (hsome.symm.trans hrunning)).elim
  kept := hkept
  closed := fun hclosed => (false_ne_true (hopen.symm.trans hclosed)).elim

theorem kept_answer_registration (hlookup : s.pendingRegistrations.lookup endpointId=some entry)
    (hcompleted : t.completed=s.completed++[(entry.promise,outcome)])
    (hregistrations : t.pendingRegistrations=s.pendingRegistrations.erase endpointId)
    (hderegistrations : t.pendingDeregistrations=s.pendingDeregistrations) (htasks : t.tasks=s.tasks) :
    ∀ task∈t.tasks,TaskKept t task := by
  rw [htasks]
  intro task htask
  refine TaskKept.keep (h.kept task htask) (fun other request hkept => ?_) fun other request hkept => ?_
  · rw [answered_append hcompleted,hregistrations]
    exact Kept.erase hkept hlookup
  · rw [answered_append hcompleted,hderegistrations]
    exact Kept.append hkept

theorem kept_answer_deregistration (hlookup : s.pendingDeregistrations.lookup endpointId=some entry)
    (hcompleted : t.completed=s.completed++[(entry.promise,outcome)])
    (hregistrations : t.pendingRegistrations=s.pendingRegistrations)
    (hderegistrations : t.pendingDeregistrations=s.pendingDeregistrations.erase endpointId)
    (htasks : t.tasks=s.tasks) : ∀ task∈t.tasks,TaskKept t task := by
  rw [htasks]
  intro task htask
  refine TaskKept.keep (h.kept task htask) (fun other request hkept => ?_) fun other request hkept => ?_
  · rw [answered_append hcompleted,hregistrations]
    exact Kept.append hkept
  · rw [answered_append hcompleted,hderegistrations]
    exact Kept.erase hkept hlookup

section

variable (hdestroyed : s.destroyed=false)
include hdestroyed

/-- The request is pending then, or nothing changes. -/
theorem inv_registerEndpoint (endpoint : Option (Endpoint η)) : Inv (s.registerEndpoint endpoint).1 := by
  unfold registerEndpoint
  split
  · exact h
  next endpoint =>
    dsimp only
    split
    · exact h
    · split
      · exact h
      next hnew =>
        split
        · exact h
        · refine h.accept hdestroyed rfl ?_ rfl rfl rfl rfl ?_ ?_ rfl
          · have hpending : promises (s.pendingRegistrations.insert endpoint.endpointId ⟨endpoint,s.requests⟩) =
                s.requests::promises s.pendingRegistrations := promises_insert hnew
            exact List.Perm.of_eq (congrArg (· ++ promises s.pendingDeregistrations) hpending)
          · intro rest hheld
            cases rest with
            | registerEndpoint => exact Holds.insert hheld hnew
            | deregisterEndpoint => exact hheld
            | removeDeletedEndpoints => exact hheld
          · intro task htask
            obtain hbefore|hlast := mem_append.mp htask
            · exact TaskKept.keep (h.kept task hbefore) (fun _ _ hkept => Kept.insert hkept hnew) fun _ _ hkept => hkept
            · cases mem_singleton.mp hlast
              exact .inl (Holds.new s.pendingRegistrations endpoint s.requests endpoint)

theorem inv_answerRegistration
    {result : RegistrationResult} (hrunning : s.running=some (.registerEndpoint request endpoint result)) :
    Inv ({s with running := none}.answerRegistration endpoint result) := by
  obtain ⟨entry,hlookup,rfl⟩ := Option.map_eq_some_iff.mp (h.rest _ hrunning)
  have htold := h.told
  rw [hrunning] at htold
  unfold answerRegistration
  split
  next hnone => cases hnone.symm.trans hlookup
  next pending hpending =>
    cases hpending.symm.trans hlookup
    exact h.answer rfl (pendings_registration hlookup rfl rfl) rfl htold rfl rfl
      (kept_answer_registration h hlookup rfl rfl rfl rfl) hdestroyed

theorem inv_answerDeregistration
    {result : DeregistrationResult} (hrunning : s.running=some (.deregisterEndpoint request endpoint result)) :
    Inv ({s with running := none}.answerDeregistration endpoint result) := by
  obtain ⟨entry,hlookup,rfl⟩ := Option.map_eq_some_iff.mp (h.rest _ hrunning)
  have htold := h.told
  rw [hrunning] at htold
  unfold answerDeregistration
  split
  next hnone => cases hnone.symm.trans hlookup
  next pending hpending =>
    cases hpending.symm.trans hlookup
    exact h.answer rfl (pendings_deregistration hlookup rfl rfl) rfl htold rfl rfl
      (kept_answer_deregistration h hlookup rfl rfl rfl rfl) hdestroyed

end

theorem not_answered_of_told (hanswered : request∈answered s)
    (htold : t.told=s.told++[⟨some request,endpointId,outcome⟩]) : ¬Answered t := by
  intro hall
  have honce := hall.told_once
  rw [htold,map_append] at honce
  exact (nodup_append.mp honce).2.2 _ (h.told_of_answered hanswered) _ (mem_singleton_self _) rfl

theorem inv_destroy (hrunning : s.running=none) : Inv s.destroy := by
  have hclosed : (closed s).map Prod.fst=pendings s := by
    unfold closed pendings promises
    rw [map_append,map_map,map_map]
    rfl
  refine ⟨?_,?_,h.found,?_,fun task hmem => (not_mem_nil hmem).elim,fun _ => ⟨rfl,hrunning⟩⟩
  · have hall : (pendings s).Perm (pendings s++[]) := List.Perm.of_eq (append_nil (pendings s)).symm
    have hledger := h.ledger.answer hall
    rw [←hclosed] at hledger
    change Ledger s.requests ((s.completed++s.closed).map Prod.fst) []
    rw [map_append]
    exact hledger
  · have htold := h.told
    rw [hrunning] at htold
    have hclosing : reports {s with told := s.closing}=results {s with completed := s.closed} := by
      unfold reports results closing closed
      rw [map_append,map_append,map_map,map_map,map_map,map_map]
      rfl
    change ((s.told++s.closing).map _).Perm ((s.completed++s.closed).map _++concluding s.running)
    rw [hrunning,map_append,map_append]
    refine (((htold.trans (List.Perm.of_eq (append_nil _))).append (List.Perm.of_eq hclosing)).trans ?_)
    exact List.Perm.of_eq (append_nil _).symm
  · intro rest hrest
    cases hrunning.symm.trans hrest

end

theorem tell_tell (s : Manager η) (first second : List Told) : (s.tell first).tell second=s.tell (first++second) := by
  unfold Manager.tell
  rw [append_assoc]

theorem tell_nil (s : Manager η) : s.tell []=s := by
  unfold Manager.tell
  rw [append_nil]

/-- The observer is told of a request before its promise is set. -/
theorem Inv.reports_tell (h : Inv s) (hrunning : s.running=none) {promise : Option ℕ}
    (htold : t.told=s.told++[⟨promise,endpointId,outcome⟩]) :
    (reports t).Perm (results s++[(promise,outcome)]) := by
  have hbefore := h.told
  rw [hrunning] at hbefore
  unfold reports at hbefore ⊢
  rw [htold,map_append]
  exact (hbefore.trans (List.Perm.of_eq (append_nil _))).append_right _

variable [DecidableEq η]

section

variable (h : Inv s) (hdestroyed : s.destroyed=false) (hrunning : s.running=none)
include h hdestroyed hrunning

theorem inv_finishRegistration
    (hlookup : s.pendingRegistrations.lookup endpointId=some entry) (result : RegistrationResult) (a : Answers η) :
    Inv ((s.finishRegistration endpointId entry result a).tell
      [⟨some entry.promise,endpointId,.registration result⟩]) := by
  obtain ⟨routed,endpoints,heq,-⟩ := finishRegistration_eq (s := s) endpointId entry result a
  rw [heq]
  exact h.answer rfl (pendings_registration hlookup rfl rfl) rfl (h.reports_tell hrunning rfl) hrunning rfl
    (kept_answer_registration h hlookup rfl rfl rfl rfl) hdestroyed

theorem inv_finishDeregistration
    (hlookup : s.pendingDeregistrations.lookup endpointId=some entry) (result : DeregistrationResult)
    (a : Answers η) : Inv ((s.finishDeregistration endpointId entry result a).tell
      [⟨some entry.promise,endpointId,.deregistration result⟩]) := by
  obtain ⟨routed,endpoints,heq,-⟩ := finishDeregistration_eq (s := s) endpointId entry result a
  rw [heq]
  exact h.answer rfl (pendings_deregistration hlookup rfl rfl) rfl (h.reports_tell hrunning rfl) hrunning rfl
    (kept_answer_deregistration h hlookup rfl rfl rfl rfl) hdestroyed

end

section

variable (s)

theorem restoreEndpoint_tell (told : List Told) (endpointId : String) (a : Answers η) :
    (s.tell told).restoreEndpoint endpointId a=(s.restoreEndpoint endpointId a).tell told := by
  unfold restoreEndpoint
  dsimp only [Manager.tell]
  split
  · rfl
  · split
    · rfl
    · rfl

theorem finishRegistration_tell (told : List Told) (endpointId : String) (pending : Pending η)
    (result : RegistrationResult) (a : Answers η) : (s.tell told).finishRegistration endpointId pending result a =
      (s.finishRegistration endpointId pending result a).tell told := by
  unfold finishRegistration
  split
  · rfl
  · have hcomm := restoreEndpoint_tell {s.setValue pending.promise (.registration result) with
      routed := (removeCapabilities (a.undoes endpointId) pending.endpoint s.routed).routed} told endpointId a
    exact congrArg (fun t : Manager η => {t with pendingRegistrations := t.pendingRegistrations.erase endpointId}) hcomm

theorem finishDeregistration_tell (told : List Told) (endpointId : String) (pending : Pending η)
    (result : DeregistrationResult) (a : Answers η) : (s.tell told).finishDeregistration endpointId pending result a =
      (s.finishDeregistration endpointId pending result a).tell told := by
  unfold finishDeregistration
  split
  · rfl
  · have hcomm := restoreEndpoint_tell (s.setValue pending.promise (.deregistration result)) told endpointId a
    exact congrArg (fun t : Manager η =>
      {t with pendingDeregistrations := t.pendingDeregistrations.erase endpointId}) hcomm

end

theorem idle_updateEndpoints (result : RegistrationResult) (a : Answers η) (ids : List String) :
    ∀ (s : Manager η) (told : List Told),Idle (s.tell told) → Idle (updateEndpoints result a ids s told) := by
  induction ids with
  | nil => exact fun s told h => h
  | cons addedOrUpdatedId ids ih =>
    intro s told h
    unfold updateEndpoints
    split
    · exact ih s told h
    next pending hlookup =>
      have hinv := inv_finishRegistration h.inv h.destroyed h.running hlookup result a
      rw [finishRegistration_tell,tell_tell] at hinv
      obtain ⟨routed,endpoints,heq,-⟩ := finishRegistration_eq (s := s) addedOrUpdatedId pending result a
      refine ih _ _ ⟨hinv,?_,?_⟩
      · rw [heq]
        exact h.running
      · rw [heq]
        exact h.destroyed

section

variable (result : DeregistrationResult)

theorem idle_removeEndpoints (a : Answers η) (ids : List String) :
    ∀ (s : Manager η) (told : List Told),Idle (s.tell told) → ids.Nodup →
      (∀ deletedId∈ids,deletedId∈s.pendingDeregistrations) → Idle (removeEndpoints result a ids s told) := by
  induction ids with
  | nil => exact fun s told h _ _ => h
  | cons deletedId ids ih =>
    intro s told h hnodup hall
    obtain ⟨hnew,hnodup⟩ := nodup_cons.mp hnodup
    unfold removeEndpoints
    split
    next hnone => exact (lookup_eq_none.mp hnone (hall deletedId mem_cons_self)).elim
    next pending hlookup =>
      have hinv := inv_finishDeregistration h.inv h.destroyed h.running hlookup result a
      rw [finishDeregistration_tell,tell_tell] at hinv
      obtain ⟨routed,endpoints,heq,-⟩ := finishDeregistration_eq (s := s) deletedId pending result a
      refine ih _ _ ⟨hinv,?_,?_⟩ hnodup ?_
      · rw [heq]
        exact h.running
      · rw [heq]
        exact h.destroyed
      · intro other hmem
        rw [heq]
        exact mem_erase.mpr ⟨fun hother => hnew (hother ▸ hmem),hall other (mem_cons_of_mem _ hmem)⟩

theorem removeEndpoints_told (a : Answers η) (ids : List String) :
    ∀ (s : Manager η) (told : List Told),∀ entry∈told,entry∈(removeEndpoints result a ids s told).told := by
  induction ids with
  | nil => exact fun s told entry hmem => mem_append_right _ hmem
  | cons deletedId ids ih =>
    intro s told entry hmem
    unfold removeEndpoints
    split
    · exact ih s _ entry (mem_append_left _ hmem)
    · exact ih _ _ entry (mem_append_left _ hmem)

theorem removeEndpoints_stray (a : Answers η) (ids : List String) : ∀ (s : Manager η) (told : List Told),
      ¬(ids.Nodup ∧ ∀ deletedId∈ids,deletedId∈s.pendingDeregistrations) →
        ∃ entry∈(removeEndpoints result a ids s told).told,entry.request=none := by
  induction ids with
  | nil =>
    intro s told hnot
    exact (hnot ⟨nodup_nil,fun deletedId hmem => (not_mem_nil hmem).elim⟩).elim
  | cons deletedId ids ih =>
    intro s told hnot
    unfold removeEndpoints
    split
    next hnone =>
      exact ⟨_,removeEndpoints_told result a ids s _ _ mem_concat_self,rfl⟩
    next pending hlookup =>
      refine ih _ _ fun hrest => hnot ?_
      obtain ⟨routed,endpoints,heq,-⟩ := finishDeregistration_eq (s := s) deletedId pending result a
      rw [heq] at hrest
      refine ⟨nodup_cons.mpr ⟨fun hmem => ?_,hrest.1⟩,forall_mem_cons.mpr ⟨?_,fun other hmem => ?_⟩⟩
      · exact (mem_erase.mp (hrest.2 deletedId hmem)).1 rfl
      · exact lookup_isSome.mp (Option.isSome_iff_exists.mpr ⟨pending,hlookup⟩)
      · exact (mem_erase.mp (hrest.2 other hmem)).2

end

section

variable (h : Idle s) (a : Answers η)
include h a

theorem begin_registerEndpoint (hkept : Kept s.pendingRegistrations (answered s) endpoint request) :
    (AllowedTask s a (.registerEndpoint request endpoint) → Inv (s.executeRegisterEndpoint request endpoint a)) ∧
      (Answered (s.executeRegisterEndpoint request endpoint a) →
        AllowedTask s a (.registerEndpoint request endpoint)) := by
  unfold executeRegisterEndpoint
  dsimp only
  split
  next hsucceeded =>
    refine ⟨fun _ => ⟨h.inv.ledger,h.inv.told,h.inv.found,h.inv.rest,h.inv.kept,h.inv.closed⟩,fun _ hfails => ?_⟩
    exact (registrationResult_eq.mpr hfails hsucceeded).elim
  next hfailed =>
    obtain ⟨routed,endpoints,heq⟩ := revertRegistration_eq (s := s) endpoint a
    rw [heq]
    constructor
    · intro hallowed
      refine h.conclude rfl ?_ routed endpoints
      exact hallowed (registrationResult_eq.mp hfailed)
    · intro hall _
      refine hkept.resolve_right fun hanswered => ?_
      exact not_answered_of_told h.inv hanswered rfl hall

theorem begin_deregisterEndpoint (hkept : Kept s.pendingDeregistrations (answered s) endpoint request) :
    (AllowedTask s a (.deregisterEndpoint request endpoint) → Inv (s.executeDeregisterEndpoint request endpoint a)) ∧
      (Answered (s.executeDeregisterEndpoint request endpoint a) →
        AllowedTask s a (.deregisterEndpoint request endpoint)) := by
  unfold executeDeregisterEndpoint
  dsimp only
  split
  next hsucceeded =>
    refine ⟨fun _ => ⟨h.inv.ledger,h.inv.told,h.inv.found,h.inv.rest,h.inv.kept,h.inv.closed⟩,fun _ hfails => ?_⟩
    exact (deregistrationResult_eq.mpr hfails hsucceeded).elim
  next hfailed =>
    constructor
    · intro hallowed
      refine h.conclude rfl ?_ _ s.endpoints
      exact hallowed (deregistrationResult_eq.mp hfailed)
    · intro hall _
      refine hkept.resolve_right fun hanswered => ?_
      exact not_answered_of_told h.inv hanswered rfl hall

theorem begin_iff (hkept : TaskKept s task) :
    (AllowedTask s a task → Inv (s.begin a task)) ∧ (Answered (s.begin a task) → AllowedTask s a task) := by
  cases task with
  | registerEndpoint => exact begin_registerEndpoint h a hkept
  | deregisterEndpoint => exact begin_deregisterEndpoint h a hkept
  | capabilityRegistrationStatusChanged registration addedOrUpdatedIds =>
    refine ⟨fun _ => ?_,fun _ => trivial⟩
    have hidle : Idle (s.updateAddedOrUpdatedEndpoints registration addedOrUpdatedIds a) := by
      refine idle_updateEndpoints registration a addedOrUpdatedIds s [] ?_
      rw [tell_nil]
      exact h
    have htold := hidle.inv.told
    rw [hidle.running] at htold
    refine ⟨hidle.inv.ledger,htold,hidle.inv.found,?_,hidle.inv.kept,fun hclosed => ?_⟩
    · rintro rest hrest
      cases hrest
      trivial
    · exact (false_ne_true (hidle.destroyed.symm.trans hclosed)).elim

end

theorem finish_iff (h : Inv s) (hdestroyed : s.destroyed=false) (a : Answers η) {rest : Rest η}
    (hrunning : s.running=some rest) : (AllowedRest s rest → Inv ({s with running := none}.finish a rest)) ∧
      (Answered ({s with running := none}.finish a rest) → AllowedRest s rest) := by
  cases rest with
  | registerEndpoint => exact ⟨fun _ => inv_answerRegistration h hdestroyed hrunning,fun _ => trivial⟩
  | deregisterEndpoint => exact ⟨fun _ => inv_answerDeregistration h hdestroyed hrunning,fun _ => trivial⟩
  | removeDeletedEndpoints result deletedIds =>
    constructor
    · rintro ⟨hnodup,hall⟩
      have htold := h.told
      rw [hrunning] at htold
      have hidle : Idle {s with running := none} := by
        refine ⟨⟨h.ledger,htold,h.found,?_,h.kept,?_⟩,rfl,hdestroyed⟩
        · rintro rest hrest
          cases hrest
        · exact fun hclosed => ⟨(h.closed hclosed).1,rfl⟩
      refine (idle_removeEndpoints result a deletedIds {s with running := none} [] ?_ hnodup hall).inv
      rw [tell_nil]
      exact hidle
    · intro hall
      by_contra hstray
      obtain ⟨entry,hmem,hnone⟩ := removeEndpoints_stray result a deletedIds {s with running := none} [] hstray
      obtain ⟨request,-,hsome⟩ := hall.told_accepted entry hmem
      cases hnone.symm.trans hsome

theorem perform_iff (h : Inv s) {a : Answers η} (hpossible : Possible s (.perform a)) :
    (Allowed s (.perform a) → Inv (s.perform a)) ∧ (Answered (s.perform a) → Allowed s (.perform a)) := by
  obtain ⟨hdestroyed,hwork⟩ := hpossible
  unfold perform
  split
  next rest hrunning =>
    obtain ⟨hkeeps,hneeds⟩ := finish_iff h hdestroyed a hrunning
    refine ⟨fun hallowed => hkeeps (hallowed.1 rest hrunning),fun hall => ⟨?_,?_⟩⟩
    · intro other hother
      cases hrunning.symm.trans hother
      exact hneeds hall
    · intro hnone
      cases hnone.symm.trans hrunning
  next hrunning =>
    split
    next htasks => exact (hwork.elim (fun hsome => hsome hrunning) fun hnonempty => hnonempty htasks).elim
    next task tasks htasks =>
      have hkept := h.kept
      rw [htasks] at hkept
      have hidle : Idle {s with tasks := tasks} := by
        refine ⟨⟨h.ledger,h.told,h.found,h.rest,?_,h.closed⟩,hrunning,hdestroyed⟩
        exact fun other hmem => hkept other (mem_cons_of_mem _ hmem)
      obtain ⟨hkeeps,hneeds⟩ := begin_iff hidle a (hkept task mem_cons_self)
      refine ⟨fun hallowed => hkeeps (hallowed.2 hrunning task ?_),fun hall => ⟨?_,?_⟩⟩
      · rw [htasks]
        rfl
      · intro rest hrest
        cases hrunning.symm.trans hrest
      · intro _ other hother
        rw [htasks] at hother
        cases hother
        exact hneeds hall

theorem step_iff (h : Inv s) (hkeyed : Keyed s) {event : Event η} (hstep : Step s event t) :
    (Allowed s event → Inv t) ∧ (Answered t → Allowed s event) := by
  obtain ⟨hpossible,rfl⟩ := hstep
  cases event with
  | registerEndpoint endpoint => exact ⟨fun _ => inv_registerEndpoint h hpossible endpoint,fun _ => trivial⟩
  | deregisterEndpoint endpointId =>
    exact ⟨fun _ => inv_deregisterEndpoint h hkeyed hpossible endpointId,fun _ => trivial⟩
  | onCapabilitiesStateChange =>
    refine ⟨fun _ => ?_,fun _ => trivial⟩
    unfold Manager.next onCapabilitiesStateChange
    dsimp only
    split
    · refine ⟨h.ledger,h.told,h.found,h.rest,fun task hmem => ?_,h.closed⟩
      obtain hbefore|hlast := mem_append.mp hmem
      · exact h.kept task hbefore
      · cases mem_singleton.mp hlast
        trivial
    · exact h
  | perform => exact perform_iff h hpossible
  | destroy => exact ⟨fun _ => inv_destroy h hpossible.2,fun _ => trivial⟩

/-- A run goes through answered states alone exactly if a task that fails still has its own request pending, and
endpoints given as deleted are different ones with a pending request. -/
theorem answered_iff (defaultEndpointId : String) (trace : List (Event η)) (s : Manager η) :
    Run (Keeping Step Answered) (create defaultEndpointId) trace s ↔
      Run (Guarded Step Allowed) (create defaultEndpointId) trace s := by
  have hstart : Inv (create defaultEndpointId : Manager η) ∧ Keyed (create defaultEndpointId : Manager η) := by
    refine ⟨inv_create defaultEndpointId,?_,?_⟩
    · exact fun endpointId endpoint hnone => (Option.not_mem_none endpoint hnone).elim
    · exact fun endpointId pending hnone => (Option.not_mem_none pending hnone).elim
  refine Run.keeping_iff (fun s => Inv s ∧ Keyed s) hstart ?_ ?_
  · rintro s event t ⟨hinv,hkeyed⟩ hstep hallowed
    refine ⟨(step_iff hinv hkeyed hstep).1 hallowed,?_⟩
    rw [hstep.2]
    exact hkeyed.next event
  · rintro s event t ⟨hinv,hkeyed⟩ hstep
    have hiff := step_iff hinv hkeyed hstep
    exact ⟨hiff.2,fun hallowed => (hiff.1 hallowed).answered⟩

/-- An endpoint without handlers. -/
def lamp : Endpoint Unit := ⟨"lamp",[]⟩

/-- The delegate refuses what it is asked for. -/
def refusing : Answers Unit := ⟨fun _ => true,fun _ => true,false,fun _ _ => true,fun _ _ => true⟩

/-- A notification before the task, which then fails at the end of the map. -/
theorem early_notification_dereferences_end :
    ∃ trace,∃ s : Manager Unit,Run Step (create "speaker") trace s ∧ s.endDereferenced=true ∧ ¬Answered s := by
  have hstart : Run Step (create "speaker" : Manager Unit) [] (create "speaker") := Run.refl
  have hrun := (((((hstart.snoc (step_next (.onCapabilitiesStateChange .SUCCESS ["lamp"] []) rfl)).snoc
    (step_next (.registerEndpoint (some lamp)) rfl)).snoc
    (step_next (.perform refusing) ⟨rfl,.inr (cons_ne_nil _ _)⟩)).snoc
    (step_next (.perform refusing) ⟨by decide,.inl (by decide)⟩)).snoc
    (step_next (.perform refusing) ⟨by decide,.inr (by decide)⟩)).snoc
    (step_next (.perform refusing) ⟨by decide,.inl (by decide)⟩)
  refine ⟨_,_,hrun,?_,fun hall => ?_⟩
  · decide +kernel
  · exact false_ne_true (hall.found.symm.trans (by decide))

end AlexaClientSDK.RegistrationFutures
