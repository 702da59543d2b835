import Mathlib.Data.List.Basic

/-!
# Discovery events in batches

`sendDiscoveryEvents` sends full batches of endpoint configurations, each with retries, and then an event with the rest,
also where nothing is left. The wait for the Event Processed directive is part of the answer.
-/

namespace AlexaClientSDK.DiscoveryEventSender

open List

variable {γ : Type*}

/-- The most configurations that an event carries. -/
def MAX_ENDPOINTS_PER_EVENT : ℕ := 300

/-- The answers that `sendDiscoveryEventWithRetries` tells apart. -/
inductive Status
  | SUCCESS_ACCEPTED
  | INVALID_AUTH
  | BAD_REQUEST
  | other

/-- `aborted` says whether the wait for the next attempt is woken up. -/
inductive Attempt
  | stopping
  | emptyAuthToken
  | answered (status : Status) (aborted : Bool)

/-- An event with the number of times it was sent. -/
structure Event (γ : Type*) where
  endpointConfigurations : List γ
  sent : ℕ
  accepted : Option Bool

def sendDiscoveryEventWithRetries (endpointConfigurations : List γ) : List Attempt → Event γ × List Attempt
  | [] => (⟨endpointConfigurations,0,none⟩,[])
  | .stopping::attempts | .emptyAuthToken::attempts => (⟨endpointConfigurations,0,some false⟩,attempts)
  | .answered .SUCCESS_ACCEPTED _::attempts => (⟨endpointConfigurations,1,some true⟩,attempts)
  | .answered .INVALID_AUTH _::attempts | .answered .BAD_REQUEST _::attempts =>
    (⟨endpointConfigurations,1,some false⟩,attempts)
  | .answered .other true::attempts => (⟨endpointConfigurations,1,some false⟩,attempts)
  | .answered .other false::attempts =>
    let next := sendDiscoveryEventWithRetries endpointConfigurations attempts
    ({next.1 with sent := next.1.sent+1},next.2)

/-- The loop from an iterator on, and the event after it. -/
def sendFrom : ℕ → List γ → List Attempt → Option Bool × List (Event γ)
  | 0,it,attempts =>
    let event := sendDiscoveryEventWithRetries it attempts
    (event.1.accepted,[event.1])
  | num+1,it,attempts =>
    let event := sendDiscoveryEventWithRetries (it.take MAX_ENDPOINTS_PER_EVENT) attempts
    if event.1.accepted=some true then
      let rest := sendFrom num (it.drop MAX_ENDPOINTS_PER_EVENT) event.2
      (rest.1,event.1::rest.2)
    else (event.1.accepted,[event.1])

def sendDiscoveryEvents (endpointConfigurations : List γ) (attempts : List Attempt) : Option Bool × List (Event γ) :=
  sendFrom (endpointConfigurations.length/MAX_ENDPOINTS_PER_EVENT) endpointConfigurations attempts

/-- Accepted events carry batches; one that is refused is the last. -/
structure Batched (endpointConfigurations : List γ) (sent : Option Bool × List (Event γ)) : Prop where
  accepted : (∀ event∈sent.2,event.accepted=some true) → sent.1=some true ∧
    (∀ event∈sent.2,event.endpointConfigurations≠[] ∧ event.endpointConfigurations.length≤MAX_ENDPOINTS_PER_EVENT) ∧
    (sent.2.map Event.endpointConfigurations).flatten=endpointConfigurations
  refused : ∀ before event after,sent.2=before++event::after → event.accepted=some false →
    after=[] ∧ sent.1=some false

/-- The full batches and the rest. -/
def slices : ℕ → List γ → List (List γ)
  | 0,it => [it]
  | num+1,it => it.take MAX_ENDPOINTS_PER_EVENT::slices num (it.drop MAX_ENDPOINTS_PER_EVENT)

section

variable (num : ℕ)

theorem slices_bounded {num : ℕ} {it : List γ} (hless : num*MAX_ENDPOINTS_PER_EVENT < it.length)
    (hle : it.length≤(num+1)*MAX_ENDPOINTS_PER_EVENT) :
    ∀ slice∈slices num it,slice≠[] ∧ slice.length≤MAX_ENDPOINTS_PER_EVENT := by
  have hpos : 0<MAX_ENDPOINTS_PER_EVENT := Nat.succ_pos _
  rw [Nat.succ_mul] at hle
  induction num generalizing it with
  | zero => exact forall_mem_singleton.mpr ⟨ne_nil_of_length_pos (by omega),by omega⟩
  | succ num ih =>
    rw [Nat.succ_mul] at hless hle
    have hlength : (it.drop MAX_ENDPOINTS_PER_EVENT).length=it.length-MAX_ENDPOINTS_PER_EVENT := length_drop
    refine forall_mem_cons.mpr ⟨⟨ne_nil_of_length_pos ?_,length_take_le _ _⟩,ih (by omega) (by omega)⟩
    rw [length_take]
    omega

@[simp] theorem endpointConfigurations_withRetries (endpointConfigurations : List γ) (attempts : List Attempt) :
    (sendDiscoveryEventWithRetries endpointConfigurations attempts).1.endpointConfigurations=endpointConfigurations := by
  fun_induction sendDiscoveryEventWithRetries endpointConfigurations attempts <;> trivial

section

variable (it : List γ)

theorem slices_flatten : (slices num it).flatten=it := by
  induction num generalizing it with
  | zero => exact flatten_singleton
  | succ num ih => rw [slices,flatten_cons,ih,take_append_drop]

/-- The last slice is what the full batches leave. -/
theorem drop_mem_slices : it.drop (num*MAX_ENDPOINTS_PER_EVENT)∈slices num it := by
  induction num generalizing it with
  | zero => simp [slices]
  | succ num ih =>
    have hlast := ih (it.drop MAX_ENDPOINTS_PER_EVENT)
    rw [drop_drop] at hlast
    rw [Nat.succ_mul,Nat.add_comm (num*_)]
    exact mem_cons_of_mem _ hlast

theorem sendFrom_accepted (attempts : List Attempt)
    (h : ∀ event∈(sendFrom num it attempts).2,event.accepted=some true) : (sendFrom num it attempts).1=some true ∧
      (sendFrom num it attempts).2.map Event.endpointConfigurations=slices num it := by
  induction num generalizing it attempts with
  | zero => exact ⟨h _ mem_cons_self,by simp [sendFrom,slices]⟩
  | succ num ih =>
    unfold sendFrom at h ⊢
    dsimp only at h ⊢
    split at h
    · next haccepted =>
      obtain ⟨hresult,hslices⟩ := ih _ _ (forall_mem_cons.mp h).2
      rw [if_pos haccepted]
      exact ⟨hresult,by rw [map_cons,hslices,endpointConfigurations_withRetries,slices]⟩
    · next hrefused => exact absurd (h _ mem_cons_self) hrefused

theorem sendFrom_refused (attempts : List Attempt) :
    ∀ before event after,(sendFrom num it attempts).2=before++event::after → event.accepted=some false →
      after=[] ∧ (sendFrom num it attempts).1=some false := by
  have hlast {last : Event γ} {before : List (Event γ)} {event : Event γ} {after : List (Event γ)}
      (h : [last]=before++event::after) : event=last ∧ after=[] := by
    cases before <;> simp_all
  induction num generalizing it attempts with
  | zero =>
    intro before event after h hrefused
    obtain ⟨rfl,hafter⟩ := hlast h
    exact ⟨hafter,hrefused⟩
  | succ num ih =>
    intro before event after h hrefused
    unfold sendFrom at h ⊢
    dsimp only at h ⊢
    split at h
    · next haccepted =>
      rw [if_pos haccepted]
      cases before with
      | nil =>
        rw [nil_append] at h
        rw [←(cons.inj h).1,haccepted] at hrefused
        cases hrefused
      | cons first before => exact ih _ _ before event after (cons.inj h).2 hrefused
    · next hnot =>
      rw [if_neg hnot]
      obtain ⟨rfl,hafter⟩ := hlast h
      exact ⟨hafter,hrefused⟩

theorem sendFrom_through :
    ∀ event∈(sendFrom num it (replicate (num+1) (.answered .SUCCESS_ACCEPTED false))).2,event.accepted=some true := by
  induction num generalizing it with
  | zero => exact forall_mem_singleton.mpr rfl
  | succ num ih => exact forall_mem_cons.mpr ⟨rfl,ih _⟩

end

end

theorem not_batched {endpointConfigurations : List γ} (hdvd : MAX_ENDPOINTS_PER_EVENT∣endpointConfigurations.length) :
    ¬∀ attempts,Batched endpointConfigurations (sendDiscoveryEvents endpointConfigurations attempts) := by
  intro hall
  have hthrough := sendFrom_through (endpointConfigurations.length/MAX_ENDPOINTS_PER_EVENT) endpointConfigurations
  have hempty := drop_mem_slices (endpointConfigurations.length/MAX_ENDPOINTS_PER_EVENT) endpointConfigurations
  rw [Nat.div_mul_cancel hdvd,drop_length,←(sendFrom_accepted _ _ _ hthrough).2] at hempty
  obtain ⟨event,hevent,hnil⟩ := mem_map.mp hempty
  exact (((hall _).accepted hthrough).2.1 event hevent).1 hnil

/-- However the attempts end, the configurations are sent in batches if and only if their number is no multiple of the
size of a batch. -/
theorem batched_iff (endpointConfigurations : List γ) :
    (∀ attempts,Batched endpointConfigurations (sendDiscoveryEvents endpointConfigurations attempts)) ↔
      ¬MAX_ENDPOINTS_PER_EVENT∣endpointConfigurations.length := by
  refine ⟨fun hall hdvd => not_batched hdvd hall,fun hnot attempts => ⟨fun hall => ?_,sendFrom_refused _ _ attempts⟩⟩
  obtain ⟨hresult,hslices⟩ := sendFrom_accepted _ _ _ hall
  have hpos : 0<MAX_ENDPOINTS_PER_EVENT := Nat.succ_pos _
  have hmod := Nat.pos_of_ne_zero fun hzero => hnot (Nat.dvd_of_mod_eq_zero hzero)
  have hlt := Nat.mod_lt endpointConfigurations.length hpos
  have hdiv := Nat.div_add_mod' endpointConfigurations.length MAX_ENDPOINTS_PER_EVENT
  have hbounded := @slices_bounded _ (endpointConfigurations.length/MAX_ENDPOINTS_PER_EVENT) endpointConfigurations
    (by omega) (by rw [Nat.succ_mul]; omega)
  rw [←hslices] at hbounded
  exact ⟨hresult,fun event hevent => hbounded _ (mem_map_of_mem hevent),hslices ▸ slices_flatten _ _⟩

/-- After 300 configurations an event without any is sent. -/
theorem empty_event_sent :
    ¬∀ attempts,Batched (replicate 300 "{}") (sendDiscoveryEvents (replicate 300 "{}") attempts) :=
  not_batched (by rw [length_replicate]; exact Nat.dvd_refl 300)

end AlexaClientSDK.DiscoveryEventSender
