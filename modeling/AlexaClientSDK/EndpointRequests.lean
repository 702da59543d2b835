import AlexaClientSDK.LabelledRuns
import AlexaClientSDK.EndpointMaps
import AlexaClientSDK.EndpointFlights

/-!
# The last request for an endpoint

For each endpoint the maps hold what the last request asked for: what is pending, else in flight, else registered and
stored. A reconnection keeps this, except for an endpoint to be added while its deletion is in flight, which is carried
out last then.
-/

namespace AlexaClientSDK.EndpointRequests

open List AList Option LabelledRuns CapabilitiesDelegate Delegate EndpointSenders EndpointFlights EndpointMaps

variable {s t : Delegate} {n : ℕ} {x : String}

def lastAction (requests : List Request) (x : String) : Option Action :=
  ((requests.filter fun request => request.endpointId=x).getLast?).map Request.action

section

variable (s)

/-- What is to be added and deleted is deleted. -/
def flying (x : String) : Option Action :=
  if (s.delete.inFlight.lookup x).isSome then some .delete
  else (s.addOrUpdate.inFlight.lookup x).map fun entry => .addOrUpdate entry.config

/-- A map of configurations is as a request asks for. -/
def Agrees (configs : Configs) (x : String) : Action → Prop
  | .addOrUpdate config => configs.lookup x=some config
  | .delete => configs.lookup x=none

theorem Agrees.of_lookup {configs configs' : Configs} {action : Action} (h : Agrees configs x action)
    (hlookup : configs'.lookup x=configs.lookup x) : Agrees configs' x action := by
  cases action with
  | addOrUpdate | delete => exact hlookup.trans h

/-- Each endpoint is registered and stored as its last request asks. -/
def LastRequestWins : Prop :=
  ∀ x action,lastAction s.requests x=some action → Agrees s.endpoints x action ∧ Agrees s.storage x action

/-- No refused event, and a storage that obeys and is not cleared. -/
def InScope : Event → Prop
  | .fail _ _ | .invalidateCapabilities => False
  | .report _ saved => saved=true
  | .createPostConnectOperation loaded => loaded=true
  | _ => True

/-- No endpoint in flight for deletion is to be added again when it is put back. -/
def OneWay : Event → Prop
  | .createPostConnectOperation _ => s.connecting=.begun → ∀ x,x∈s.addOrUpdate.pending → x∉s.delete.inFlight
  | _ => True

/-- What the runs in question keep to. -/
def Allowed (event : Event) : Prop := InScope event ∧ Undisturbed s event ∧ OneWay s event

end

/-- Behind a refused event, up to the clearing of what is in flight. -/
def refused : Stage → Bool
  | .failed _ | .read _ _ _ => true
  | _ => false

/-- The stages that say nothing about what is in flight. -/
def plain : Stage → Bool
  | .stored | .erased | .failed _ | .read _ _ _ => false
  | _ => true

/-- A stage that says nothing is none of the others. -/
theorem not_of_plain {stage : Stage} (h : plain stage=true) : stage≠.stored ∧ stage≠.erased ∧ refused stage=false := by
  refine ⟨?_,?_,?_⟩
  · rintro rfl
    cases h
  · rintro rfl
    cases h
  · unfold refused
    split
    · cases h
    · cases h
    · rfl

structure Sound (s : Delegate) : Prop where
  added : ∀ x entry,s.addOrUpdate.pending.lookup x=some entry →
    lastAction s.requests x=some (.addOrUpdate entry.config)
  deleted : ∀ x request,s.delete.pending.lookup x=some request → lastAction s.requests x=some .delete
  flies : ∀ x action,s.addOrUpdate.pending.lookup x=none → s.delete.pending.lookup x=none →
    flying s x=some action → lastAction s.requests x=none ∨ lastAction s.requests x=some action
  rests : ∀ x action,s.addOrUpdate.pending.lookup x=none → s.delete.pending.lookup x=none →
    flying s x=none → lastAction s.requests x=some action → Agrees s.endpoints x action ∧ Agrees s.storage x action
  stored : ∀ n,(s.senders n).stage=.stored → ∀ x entry,s.addOrUpdate.inFlight.lookup x=some entry →
    s.storage.lookup x=some entry.config
  erased : ∀ n,(s.senders n).stage=.erased → ∀ x action,flying s x=some action → Agrees s.storage x action
  accepted : ∀ n,refused (s.senders n).stage=false

theorem flying_eq_none : flying s x=none ↔ s.addOrUpdate.inFlight.lookup x=none ∧ s.delete.inFlight.lookup x=none := by
  unfold flying
  cases hdelete : s.delete.inFlight.lookup x with
  | none => simp
  | some => simp

theorem lastAction_append (requests : List Request) (request : Request) (x : String) :
    lastAction (requests++[request]) x =
      if request.endpointId=x then some request.action else lastAction requests x := by
  unfold lastAction
  rw [filter_append]
  by_cases hx : request.endpointId=x
  · rw [if_pos hx,filter_cons_of_pos (by simpa using hx),filter_nil,getLast?_concat]
    rfl
  · rw [if_neg hx,filter_cons_of_neg (by simpa using hx),filter_nil,append_nil]

theorem lastAction_append_of_ne (request : Request) {x : String} (hx : x≠request.endpointId) :
    lastAction (s.requests++[request]) x=lastAction s.requests x := by
  rw [lastAction_append,if_neg hx.symm]

/-- A report that has stored or erased uses what is in flight. -/
theorem engaged_of_stored (h : (s.senders n).stage=.stored) : engaged (s.senders n)=true := by
  unfold engaged
  rw [h]

theorem engaged_of_erased (h : (s.senders n).stage=.erased) : engaged (s.senders n)=true := by
  unfold engaged
  rw [h]

theorem flying_of_none (h : NoneInFlight s) (x : String) : flying s x=none := by
  rw [flying_eq_none,eq_empty h.1,eq_empty h.2]
  exact ⟨rfl,rfl⟩

theorem not_stored_or_erased (hflight : Flight s) (hn : engaged (s.senders n)=true) {m : ℕ} (hne : m≠n) :
    (s.senders m).stage≠.stored ∧ (s.senders m).stage≠.erased :=
  ⟨fun hm => hne (hflight.sole hn (engaged_of_stored hm)), fun hm => hne (hflight.sole hn (engaged_of_erased hm))⟩

theorem agrees_register {action : Action} (h : flying s x=some action) :
    Agrees s.moveInFlightEndpointsToRegisteredEndpoints.endpoints x action := by
  have hlookup := lookup_register x s
  unfold flying at h
  split at h
  · rename_i hdelete
    cases h
    rw [if_pos hdelete] at hlookup
    exact hlookup
  · rename_i hdelete
    obtain ⟨entry,hentry,rfl⟩ := map_eq_some_iff.mp h
    rw [if_neg hdelete,hentry] at hlookup
    exact hlookup

theorem lookup_register_of_none (h : flying s x=none) :
    s.moveInFlightEndpointsToRegisteredEndpoints.endpoints.lookup x=s.endpoints.lookup x := by
  obtain ⟨hadd,hdelete⟩ := flying_eq_none.mp h
  rw [lookup_register,hadd,hdelete]
  rfl

theorem asks_reconcile {pending : Endpoints} {endpoints storage : Configs} {deletions : Deletions}
    {last : Option Action}
    (hdeleted : ∀ request,deletions.lookup x=some request → last=none ∨ last=some .delete)
    (hadded : ∀ entry,deletions.lookup x=none → pending.lookup x=some entry →
      last=none ∨ last=some (.addOrUpdate entry.config))
    (hrests : ∀ action,deletions.lookup x=none → pending.lookup x=none → last=some action →
      Agrees endpoints x action ∧ Agrees storage x action) :
    let maps := reconcile pending endpoints storage deletions
    (∀ request,maps.deletions.lookup x=some request → last=none ∨ last=some .delete) ∧
    (∀ entry,maps.deletions.lookup x=none → maps.pending.lookup x=some entry →
      last=none ∨ last=some (.addOrUpdate entry.config)) ∧
    (∀ action,maps.deletions.lookup x=none → maps.pending.lookup x=none → last=some action →
      Agrees maps.endpoints x action ∧ Agrees storage x action) := by
  unfold reconcile
  split
  · -- Nothing is stored: what is registered is added again.
    refine ⟨hdeleted,?_,?_⟩
    · intro entry hnone hentry
      rw [lookup_addRegistered] at hentry
      split at hentry
      · rename_i hboth
        obtain ⟨config,hconfig,rfl⟩ := map_eq_some_iff.mp hentry
        cases hlast : last with
        | none => exact .inl rfl
        | some action =>
          have hagrees := (hrests action hnone hboth.2 hlast).1
          cases action with
          | addOrUpdate =>
            cases hconfig.symm.trans hagrees
            exact .inr rfl
          | delete => cases hconfig.symm.trans hagrees
      · exact hadded entry hnone hentry
    · intro action hnone hpending
      rw [lookup_addRegistered] at hpending
      split at hpending
      · rename_i hboth
        exact hrests action hnone hboth.2
      · exact hrests action hnone hpending
  · dsimp only
    obtain ⟨hsame,hchanged⟩ := lookup_filterUnchanged x pending endpoints storage
    rw [lookup_addStale]
    by_cases hunchanged : Unchanged pending storage x
    · -- The stored configuration is what is asked for.
      obtain ⟨hpending,hendpoints,hstored⟩ := hsame hunchanged
      obtain ⟨entry,hentry,hconfig⟩ := hunchanged
      rw [hpending,hendpoints,hstored,if_neg fun h => Bool.noConfusion h.1]
      refine ⟨hdeleted,fun _ _ h => (some_ne_none _ h.symm).elim,?_⟩
      intro action hnone _ hlast
      have hasked : action=.addOrUpdate entry.config := by
        rcases hadded entry hnone hentry with h|h
        · cases h.symm.trans hlast
        · exact Option.some.inj (hlast.symm.trans h)
      rw [hasked]
      exact ⟨hendpoints.trans hconfig,hconfig⟩
    · obtain ⟨hpending,hendpoints,hstored⟩ := hchanged hunchanged
      rw [hpending,hendpoints,hstored]
      split
      · rename_i hstale
        obtain ⟨hsome,hregistered,hnoAdd,hnoDelete⟩ := hstale
        refine ⟨?_,fun _ h => (some_ne_none _ h).elim,fun _ h => (some_ne_none _ h).elim⟩
        intro _ _
        cases hlast : last with
        | none => exact .inl rfl
        | some action =>
          obtain ⟨hagrees,hkept⟩ := hrests action hnoDelete hnoAdd hlast
          cases action with
          | addOrUpdate => cases hregistered.symm.trans hagrees
          | delete =>
            rw [show storage.lookup x=none from hkept] at hsome
            cases hsome
      · refine ⟨hdeleted,hadded,?_⟩
        intro action hnone hnoAdd hlast
        obtain ⟨hagrees,hkept⟩ := hrests action hnone hnoAdd hlast
        exact ⟨hagrees.of_lookup hendpoints,hkept⟩

theorem lookup_insert_eq_none {β : Type} {map : AList fun _ : String => β} {key x : String} {value : β}
    (h : (map.insert key value).lookup x=none) : x≠key ∧ map.lookup x=none := by
  have hx : x≠key := by
    rintro rfl
    rw [lookup_insert] at h
    cases h
  rw [lookup_insert_ne hx] at h
  exact ⟨hx,h⟩

section

variable (h : Sound s)
include h

section

variable (hadd : t.addOrUpdate=s.addOrUpdate)
  (hdelete : t.delete=s.delete)
  (hendpoints : t.endpoints=s.endpoints)
  (hstorage : t.storage=s.storage)
  (hrequests : t.requests=s.requests)
include hadd hdelete hendpoints hstorage hrequests

/-- Requests, maps and storage stay, and no stage says more. -/
theorem Sound.congr
    (hstage : ∀ n,(t.senders n).stage=(s.senders n).stage ∨ plain (t.senders n).stage=true) : Sound t := by
  have hflying : ∀ x,flying t x=flying s x := by
    intro x
    unfold flying
    rw [hadd,hdelete]
  constructor
  · rw [hadd,hrequests]
    exact h.added
  · rw [hdelete,hrequests]
    exact h.deleted
  · intro x action
    rw [hadd,hdelete,hrequests,hflying]
    exact h.flies x action
  · intro x action
    rw [hadd,hdelete,hrequests,hflying,hendpoints,hstorage]
    exact h.rests x action
  · intro n hn
    rw [hadd,hstorage]
    exact h.stored n ((hstage n).elim (fun heq => heq ▸ hn) fun hplain => absurd hn (not_of_plain hplain).1)
  · intro n hn x action
    rw [hflying,hstorage]
    refine h.erased n ?_ x action
    exact (hstage n).elim (fun heq => heq ▸ hn) fun hplain => absurd hn (not_of_plain hplain).2.1
  · intro n
    rcases hstage n with heq|hplain
    · rw [heq]
      exact h.accepted n
    · exact (not_of_plain hplain).2.2

theorem Sound.frame (hstage : ∀ n,(t.senders n).stage=(s.senders n).stage) : Sound t :=
  h.congr hadd hdelete hendpoints hstorage hrequests fun n => .inl (hstage n)

end

theorem Sound.createSender (addOrUpdate : Endpoints) (delete : Deletions) :
    Sound (s.createSender addOrUpdate delete) := by
  refine h.congr rfl rfl rfl rfl rfl fun n => ?_
  rw [stage_createSender]
  split
  · exact .inr rfl
  · exact .inl rfl

theorem Sound.abortSender (n : ℕ) : Sound (s.abortSender n) := by
  refine h.congr rfl rfl rfl rfl rfl fun m => ?_
  rw [stage_abortSender]
  split
  · exact .inr rfl
  · exact .inl rfl

theorem sound_addOrUpdateEndpoint (valid : Bool) (endpointId config : String) :
    Sound (s.addOrUpdateEndpoint valid endpointId config).2 := by
  unfold addOrUpdateEndpoint
  split
  · exact h
  · rename_i haccepted
    have hdelete : s.delete.pending.lookup endpointId=none :=
      lookup_eq_none.mpr fun hmem => haccepted (.inr (.inl hmem))
    constructor
    · intro x entry hentry
      rcases eq_or_ne x endpointId with rfl|hx
      · rw [lookup_insert] at hentry
        cases hentry
        rw [lastAction_append,if_pos rfl]
      · rw [lookup_insert_ne hx] at hentry
        rw [lastAction_append_of_ne _ hx]
        exact h.added x entry hentry
    · intro x request hrequest
      have hx : x≠endpointId := by
        rintro rfl
        rw [hdelete] at hrequest
        cases hrequest
      rw [lastAction_append_of_ne _ hx]
      exact h.deleted x request hrequest
    · intro x action hadd
      obtain ⟨hx,hadd⟩ := lookup_insert_eq_none hadd
      rw [lastAction_append_of_ne _ hx]
      exact h.flies x action hadd
    · intro x action hadd
      obtain ⟨hx,hadd⟩ := lookup_insert_eq_none hadd
      rw [lastAction_append_of_ne _ hx]
      exact h.rests x action hadd
    · exact h.stored
    · exact h.erased
    · exact h.accepted

theorem sound_deleteEndpoint (valid : Bool) (endpointId : String) : Sound (s.deleteEndpoint valid endpointId).2 := by
  unfold deleteEndpoint
  split
  · exact h
  · rename_i haccepted
    have hadd : s.addOrUpdate.pending.lookup endpointId=none :=
      lookup_eq_none.mpr fun hmem => haccepted (.inr (.inl hmem))
    constructor
    · intro x entry hentry
      have hx : x≠endpointId := by
        rintro rfl
        rw [hadd] at hentry
        cases hentry
      rw [lastAction_append_of_ne _ hx]
      exact h.added x entry hentry
    · intro x request hrequest
      rcases eq_or_ne x endpointId with rfl|hx
      · rw [lastAction_append,if_pos rfl]
      · rw [lookup_insert_ne hx] at hrequest
        rw [lastAction_append_of_ne _ hx]
        exact h.deleted x request hrequest
    · intro x action hnone hdelete
      obtain ⟨hx,hdelete⟩ := lookup_insert_eq_none hdelete
      rw [lastAction_append_of_ne _ hx]
      exact h.flies x action hnone hdelete
    · intro x action hnone hdelete
      obtain ⟨hx,hdelete⟩ := lookup_insert_eq_none hdelete
      rw [lastAction_append_of_ne _ hx]
      exact h.rests x action hnone hdelete
    · exact h.stored
    · exact h.erased
    · exact h.accepted

theorem Sound.setStage {stage : Stage} (hplain : plain stage=true) : Sound (s.setStage n stage) := by
  refine h.congr rfl rfl rfl rfl rfl fun m => ?_
  rw [stage_setStage]
  split
  · exact .inr hplain
  · exact .inl rfl

theorem accepted_setStage {stage : Stage} (haccepted : refused stage=false) (m : ℕ) :
    refused ((s.setStage n stage).senders m).stage=false := by
  rw [stage_setStage]
  split
  · exact haccepted
  · exact h.accepted m

theorem moved_deleted (honeWay : x∈s.addOrUpdate.pending → x∉s.delete.inFlight)
    (request : Option ℕ) (hrequest : (moveInFlight s.delete).pending.lookup x=some request) :
    lastAction s.requests x=none ∨ lastAction s.requests x=some .delete := by
  rw [lookup_moveInFlight,or_eq_some_iff] at hrequest
  rcases hrequest with hpending|⟨hnone,hinFlight⟩
  · exact .inr (h.deleted x request hpending)
  · have hnoAdd : s.addOrUpdate.pending.lookup x=none := by
      by_contra hne
      refine honeWay (lookup_isSome.mp (isSome_iff_ne_none.mpr hne)) ?_
      exact lookup_isSome.mp (by rw [hinFlight]; rfl)
    refine h.flies x .delete hnoAdd hnone ?_
    unfold flying
    rw [hinFlight]
    rfl

/-- The additions after the endpoints in flight were put back. -/
theorem moved_added (entry : Entry) (hdelete : (moveInFlight s.delete).pending.lookup x=none)
    (hentry : (moveInFlight s.addOrUpdate).pending.lookup x=some entry) :
    lastAction s.requests x=none ∨ lastAction s.requests x=some (.addOrUpdate entry.config) := by
  rw [lookup_moveInFlight,or_eq_none_iff] at hdelete
  rw [lookup_moveInFlight,or_eq_some_iff] at hentry
  rcases hentry with hpending|⟨hnone,hinFlight⟩
  · exact .inr (h.added x entry hpending)
  · refine h.flies x (.addOrUpdate entry.config) hnone hdelete.1 ?_
    unfold flying
    rw [hdelete.2,hinFlight]
    rfl

theorem moved_rests (action : Action) (hdelete : (moveInFlight s.delete).pending.lookup x=none)
    (hadd : (moveInFlight s.addOrUpdate).pending.lookup x=none) (hlast : lastAction s.requests x=some action) :
    Agrees s.endpoints x action ∧ Agrees s.storage x action := by
  rw [lookup_moveInFlight,or_eq_none_iff] at hdelete hadd
  exact h.rests x action hadd.1 hdelete.1 (flying_eq_none.mpr ⟨hadd.2,hdelete.2⟩) hlast

/-- What is in flight is put back, compared with the storage and moved. -/
theorem sound_prepareOperation (hsenders : ∀ n,engaged (s.senders n)=false)
    (honeWay : ∀ x,x∈s.addOrUpdate.pending → x∉s.delete.inFlight) : Sound (s.prepareOperation true) := by
  have hmaps := fun x => asks_reconcile (moved_deleted h (honeWay x)) (moved_added h) (moved_rests h)
  constructor
  · exact nofun
  · exact nofun
  · intro x action _ _ hflying
    obtain ⟨hdeleted,hadded,_⟩ := hmaps x
    unfold flying at hflying
    split at hflying
    · rename_i hdelete
      cases hflying
      obtain ⟨request,hrequest⟩ := isSome_iff_exists.mp hdelete
      exact hdeleted request hrequest
    · rename_i hdelete
      obtain ⟨entry,hentry,rfl⟩ := map_eq_some_iff.mp hflying
      exact hadded entry (not_isSome_iff_eq_none.mp hdelete) hentry
  · intro x action _ _ hflying
    obtain ⟨hadd,hdelete⟩ := flying_eq_none.mp hflying
    exact (hmaps x).2.2 action hdelete hadd
  · intro n hn
    have hengaged := engaged_of_stored hn
    rw [show engaged ((s.prepareOperation true).senders n)=false from hsenders n] at hengaged
    cases hengaged
  · intro n hn
    have hengaged := engaged_of_erased hn
    rw [show engaged ((s.prepareOperation true).senders n)=false from hsenders n] at hengaged
    cases hengaged
  · exact h.accepted

section

variable (hflight : Flight s)
include hflight

theorem sound_movePending (hnone : NoneInFlight s) : Sound s.movePending := by
  have hidle := hflight.disengaged hnone
  constructor
  · exact nofun
  · exact nofun
  · intro x action _ _ haction
    refine .inr ?_
    change (if (s.delete.pending.lookup x).isSome then some Action.delete
      else (s.addOrUpdate.pending.lookup x).map fun entry => .addOrUpdate entry.config)=some action at haction
    split at haction
    · rename_i hdelete
      cases haction
      obtain ⟨request,hrequest⟩ := isSome_iff_exists.mp hdelete
      exact h.deleted x request hrequest
    · obtain ⟨entry,hentry,rfl⟩ := map_eq_some_iff.mp haction
      exact h.added x entry hentry
  · intro x action _ _ hflying
    obtain ⟨hadd,hdelete⟩ := flying_eq_none.mp hflying
    exact h.rests x action hadd hdelete (flying_of_none hnone x)
  · intro n hn
    have hengaged := engaged_of_stored hn
    rw [show engaged (s.movePending.senders n)=false from hidle n] at hengaged
    cases hengaged
  · intro n hn
    have hengaged := engaged_of_erased hn
    rw [show engaged (s.movePending.senders n)=false from hidle n] at hengaged
    cases hengaged
  · exact h.accepted

/-- A pass that has nothing to send puts nothing back. -/
theorem sound_refuse {addOrUpdate : Endpoints} {delete : Deletions}
    (hpass : s.pass=.moved addOrUpdate delete) (hempty : addOrUpdate.entries=[] ∧ delete.entries=[]) :
    Sound {s.moveInFlightEndpointsToPending with pass := .refused} := by
  have hcopy : InFlight s=(addOrUpdate,delete) := hflight.copy _ _ (.moving hpass)
  obtain ⟨hadd,hdelete⟩ := Prod.mk.inj hcopy
  exact h.frame (moveInFlight_eq (hadd ▸ hempty.1)) (moveInFlight_eq (hdelete ▸ hempty.2)) rfl rfl rfl fun _ => rfl

theorem sound_store (hstage : (s.senders n).stage=.completed) :
    Sound {s.setStage n .stored with storage := store s.storage (s.senders n).addOrUpdate.entries} := by
  have hengaged : engaged (s.senders n)=true := by
    unfold engaged
    rw [hstage]
  have hcopy : s.addOrUpdate.inFlight=(s.senders n).addOrUpdate :=
    (Prod.mk.inj (hflight.copy _ _ (.sender hengaged))).1
  have hkeeps : ∀ x,s.addOrUpdate.inFlight.lookup x=none →
      (store s.storage (s.senders n).addOrUpdate.entries).lookup x=s.storage.lookup x := by
    intro x hx
    rw [lookup_store,←hcopy,hx]
    rfl
  refine ⟨h.added,h.deleted,h.flies,?_,?_,?_,accepted_setStage h rfl⟩
  · intro x action hadd hdelete hflying hlast
    obtain ⟨hregistered,hstored⟩ := h.rests x action hadd hdelete hflying hlast
    exact ⟨hregistered,hstored.of_lookup (hkeeps x (flying_eq_none.mp hflying).1)⟩
  · intro m _ x entry hentry
    have hin : s.addOrUpdate.inFlight.lookup x=some entry := hentry
    rw [lookup_store,←hcopy,hin]
    rfl
  · intro m hm
    have hm' := (stage_setStage n m .stored).symm.trans hm
    split at hm'
    · cases hm'
    · rename_i hne
      exact absurd hm' (not_stored_or_erased hflight hengaged hne).2

theorem sound_erase (hstage : (s.senders n).stage=.stored) :
    Sound {s.setStage n .erased with storage := erase s.storage (s.senders n).delete.entries} := by
  have hengaged := engaged_of_stored hstage
  have hcopy : s.delete.inFlight=(s.senders n).delete :=
    (Prod.mk.inj (hflight.copy _ _ (.sender hengaged))).2
  have hlookup : ∀ x,(erase s.storage (s.senders n).delete.entries).lookup x =
      if (s.delete.inFlight.lookup x).isSome then none else s.storage.lookup x := by
    intro x
    rw [lookup_erase,hcopy]
  refine ⟨h.added,h.deleted,h.flies,?_,?_,?_,accepted_setStage h rfl⟩
  · intro x action hadd hdelete hflying hlast
    obtain ⟨hregistered,hstored⟩ := h.rests x action hadd hdelete hflying hlast
    refine ⟨hregistered,?_⟩
    have hnone : s.delete.inFlight.lookup x=none := (flying_eq_none.mp hflying).2
    refine hstored.of_lookup ?_
    exact (hlookup x).trans (by rw [hnone]; rfl)
  · intro m hm
    have hm' := (stage_setStage n m .erased).symm.trans hm
    split at hm'
    · cases hm'
    · rename_i hne
      exact absurd hm' (not_stored_or_erased hflight hengaged hne).1
  · intro m _ x action hflying
    have haction : flying s x=some action := hflying
    have hsame := hlookup x
    unfold flying at haction
    split at haction
    · rename_i hdelete
      cases haction
      rw [if_pos hdelete] at hsame
      exact hsame
    · rename_i hdelete
      obtain ⟨entry,hentry,rfl⟩ := map_eq_some_iff.mp haction
      rw [if_neg hdelete] at hsame
      exact hsame.trans (h.stored n hstage x entry hentry)

theorem sound_register (hstage : (s.senders n).stage=.erased) :
    Sound (s.moveInFlightEndpointsToRegisteredEndpoints.setStage n .moved) := by
  have hengaged := engaged_of_erased hstage
  refine ⟨h.added,h.deleted,?_,?_,?_,?_,accepted_setStage h rfl⟩
  · exact nofun
  · intro x action hadd hdelete _ hlast
    cases hflying : flying s x with
    | none =>
      obtain ⟨hregistered,hstored⟩ := h.rests x action hadd hdelete hflying hlast
      exact ⟨hregistered.of_lookup (lookup_register_of_none hflying),hstored⟩
    | some flown =>
      have hsame : flown=action := by
        rcases h.flies x flown hadd hdelete hflying with hnone|hsome
        · cases hnone.symm.trans hlast
        · exact Option.some.inj (hsome.symm.trans hlast)
      rw [hsame] at hflying
      exact ⟨agrees_register hflying,h.erased n hstage x action hflying⟩
  · intro m hm
    have hm' := (stage_setStage n m .moved).symm.trans hm
    split at hm'
    · cases hm'
    · rename_i hne
      exact absurd hm' (not_stored_or_erased hflight hengaged hne).1
  · intro m hm
    have hm' := (stage_setStage n m .moved).symm.trans hm
    split at hm'
    · cases hm'
    · rename_i hne
      exact absurd hm' (not_stored_or_erased hflight hengaged hne).2

/-- Every step that is allowed keeps the last request for each endpoint. -/
theorem sound_step {event : Event} (hallowed : Allowed s event) (hstep : Step s event t) : Sound t := by
  obtain ⟨hscope,hundisturbed,honeWay⟩ := hallowed
  cases hstep with
  | addOrUpdateEndpoint valid endpointId config => exact sound_addOrUpdateEndpoint h valid endpointId config
  | deleteEndpoint valid endpointId => exact sound_deleteEndpoint h valid endpointId
  | submitUnlessSending | connect | disconnect | beginPass | lookForSender | lookForPending | refusePass | endPass
  | tellUnchanged | doShutdown => exact h.frame rfl rfl rfl rfl rfl fun _ => rfl
  | movePending at_wanted => exact sound_movePending h hflight (hundisturbed at_wanted)
  | createPassSender at_moved =>
    unfold createPassSender
    split
    · rename_i hempty
      exact sound_refuse h hflight at_moved hempty
    · exact (h.createSender _ _).frame rfl rfl rfl rfl rfl fun _ => rfl
  | @sendPass n =>
    have hadded : Sound (s.addDiscoveryEventSender n) :=
      h.frame rfl rfl rfl rfl rfl fun m => stage_setObserved n m true
    have hsends : Sound ((s.addDiscoveryEventSender n).setStage n .sending) :=
      hadded.setStage rfl
    exact hsends.frame rfl rfl rfl rfl rfl fun _ => rfl
  | beginOperation | shutdownExecutor => exact h.frame rfl rfl rfl rfl rfl stage_reset
  | prepareOperation at_begun loaded =>
    rw [show loaded=true from hscope]
    exact sound_prepareOperation h (hundisturbed at_begun).1 (honeWay at_begun)
  | createOperation => exact (h.createSender _ _).frame rfl rfl rfl rfl rfl fun _ => rfl
  | @returnOperation n => exact h.frame rfl rfl rfl rfl rfl fun m => stage_setObserved n m true
  | performOperation | complete | giveUp | stop => exact h.setStage rfl
  | abortOperation => exact (h.abortSender _).frame rfl rfl rfl rfl rfl fun _ => rfl
  | retry =>
    unfold notifyRetriable
    split
    · exact h.frame rfl rfl rfl rfl rfl stage_reset
    · exact h.frame rfl rfl rfl rfl rfl fun _ => rfl
  | fail | invalidateCapabilities => exact hscope.elim
  | store at_completed => exact sound_store h hflight at_completed
  | storeFails => cases hscope
  | erase at_stored => exact sound_erase h hflight at_stored
  | eraseFails => cases hscope
  | @notifyUnsaved n | @submitPass n =>
    have hended : Sound (s.setStage n (.ended true)) := h.setStage rfl
    exact hended.frame rfl rfl rfl rfl rfl fun _ => rfl
  | register at_erased => exact sound_register h hflight at_erased
  | resetCompleted | resetFailed =>
    have hreset : Sound s.resetDiscoveryEventSender := h.frame rfl rfl rfl rfl rfl stage_reset
    exact hreset.setStage rfl
  | @notifySuccess n =>
    have hnotified : Sound (s.setStage n .notified) := h.setStage rfl
    exact hnotified.frame rfl rfl rfl rfl rfl fun _ => rfl
  | @readInFlight n status at_failed =>
    have haccepted := h.accepted n
    rw [at_failed] at haccepted
    cases haccepted
  | @clearInFlight n status addOrUpdate delete at_read =>
    have haccepted := h.accepted n
    rw [at_read] at haccepted
    cases haccepted
  | @notifyFatal n =>
    have hended : Sound (s.setStage n (.ended false)) := h.setStage rfl
    exact hended.frame rfl rfl rfl rfl rfl fun _ => rfl

end

end

theorem sound_create (storage : Configs) : Sound (create storage) := by
  constructor
  · exact nofun
  · exact nofun
  · exact nofun
  · exact nofun
  · exact nofun
  · exact nofun
  · intro n
    rfl

/-- What holds between two steps. -/
structure Inv (s : Delegate) : Prop where
  flight : Flight s
  sound : Sound s

theorem inv_step {event : Event} (h : Inv s) (hstep : Guarded Step Allowed s event t) : Inv t :=
  ⟨flight_step h.flight hstep.1.2.1 hstep.2,sound_step h.sound h.flight hstep.1 hstep.2⟩

/-- In every run in which the passes and reconnections are undisturbed and no endpoint is to be added while its
deletion is put back, the last request for each endpoint is carried out once nothing is pending or in flight. -/
theorem last_request_wins {storage : Configs} {events : List Event}
    (run : Run (Guarded Step Allowed) (create storage) events s) (pending : NonePending s)
    (inFlight : NoneInFlight s) : LastRequestWins s := by
  have hinv : Inv s := run.invariant Inv ⟨flight_create storage,sound_create storage⟩ fun _ _ _ => inv_step
  intro x action hlast
  have hadd : s.addOrUpdate.pending.lookup x=none := by
    rw [eq_empty pending.1]
    rfl
  have hdelete : s.delete.pending.lookup x=none := by
    rw [eq_empty pending.2]
    rfl
  exact hinv.sound.rests x action hadd hdelete (flying_of_none inFlight x) hlast

/-- The update comes meanwhile, and is sent after a reconnection. -/
theorem last_request_wins_lamp :
    ∃ events s,Run (Guarded Step Allowed) (create ∅) events s ∧ NonePending s ∧ NoneInFlight s ∧
      lastAction s.requests "lamp" = some (.addOrUpdate "dim") ∧ LastRequestWins s := by
  have run := (@Run.refl _ _ (Guarded Step Allowed) (create ∅)).allow
    (.connect rfl nofun fun _ h => Operation.noConfusion h)
    ⟨trivial,trivial,trivial⟩
  have run := run.allow (.addOrUpdateEndpoint true "lamp" "on/off") ⟨trivial,trivial,trivial⟩
  have run := run.allow (.submitUnlessSending (by decide)) ⟨trivial,trivial,trivial⟩
  have run := run.allow (.beginPass rfl (by decide)) ⟨trivial,nofun,trivial⟩
  have run := run.allow (.lookForSender rfl) ⟨trivial,nofun,trivial⟩
  have run := run.allow (.lookForPending rfl) ⟨trivial,nofun,trivial⟩
  have run := run.allow (.movePending rfl) ⟨trivial,fun _ => ⟨rfl,rfl⟩,trivial⟩
  have run := run.allow (.createPassSender rfl) ⟨trivial,nofun,trivial⟩
  have run := run.allow (@Step.sendPass _ 0 rfl) ⟨trivial,nofun,trivial⟩
  have run := run.allow (.addOrUpdateEndpoint true "lamp" "dim") ⟨trivial,trivial,trivial⟩
  have run := run.allow (.submitUnlessSending (by decide)) ⟨trivial,trivial,trivial⟩
  have run := run.allow (@Step.retry _ 0 rfl rfl true) ⟨trivial,trivial,trivial⟩
  have run := run.allow .disconnect ⟨trivial,trivial,trivial⟩
  have run := run.allow (.beginOperation rfl true) ⟨rfl,nofun,nofun⟩
  have run := run.allow (.prepareOperation rfl true) ⟨rfl,fun _ => ⟨fun n => by
    cases n with
    | zero => rfl
    | succ => rfl,nofun,nofun⟩,
    fun _ _ _ => notMem_empty _⟩
  have run := run.allow (.tellUnchanged rfl true) ⟨rfl,nofun,nofun⟩
  have run := run.allow (.createOperation rfl true) ⟨rfl,nofun,nofun⟩
  have run := run.allow (@Step.returnOperation _ 1 rfl true) ⟨rfl,nofun,nofun⟩
  have run := run.allow (@Step.performOperation _ 1 rfl rfl) ⟨trivial,trivial,trivial⟩
  have run := run.allow (@Step.complete _ 1 rfl rfl) ⟨trivial,trivial,trivial⟩
  have run := run.allow (@Step.store _ 1 rfl) ⟨rfl,trivial,trivial⟩
  have run := run.allow (@Step.erase _ 1 rfl) ⟨rfl,trivial,trivial⟩
  have run := run.allow (@Step.register _ 1 rfl) ⟨rfl,trivial,trivial⟩
  exact ⟨_,_,run,⟨rfl,rfl⟩,⟨rfl,rfl⟩,by decide,last_request_wins run ⟨rfl,rfl⟩ ⟨rfl,rfl⟩⟩

/-- Its deletion is in flight, and carried out by a reconnection. -/
theorem added_endpoint_deleted_after_reconnection :
    ¬∀ storage events s,Run (Guarded Step fun _ => InScope) (create storage) events s →
      NonePending s → NoneInFlight s → LastRequestWins s := by
  intro hall
  have run := (@Run.refl _ _ (Guarded Step fun _ => InScope) (create ∅)).allow
    (.connect rfl nofun fun _ h => Operation.noConfusion h) trivial
  have run := run.allow (.addOrUpdateEndpoint true "lamp" "on/off") trivial
  have run := run.allow (.submitUnlessSending (by decide)) trivial
  have run := run.allow (.beginPass rfl (by decide)) trivial
  have run := run.allow (.lookForSender rfl) trivial
  have run := run.allow (.lookForPending rfl) trivial
  have run := run.allow (.movePending rfl) trivial
  have run := run.allow (.createPassSender rfl) trivial
  have run := run.allow (@Step.sendPass _ 0 rfl) trivial
  have run := run.allow (@Step.complete _ 0 rfl rfl) trivial
  have run := run.allow (@Step.store _ 0 rfl) rfl
  have run := run.allow (@Step.erase _ 0 rfl) rfl
  have run := run.allow (@Step.register _ 0 rfl) rfl
  have run := run.allow (@Step.resetCompleted _ 0 rfl) rfl
  have run := run.allow (@Step.notifySuccess _ 0 rfl) rfl
  have run := run.allow (@Step.submitPass _ 0 rfl) rfl
  have run := run.allow (@Step.endPass _ 0 true rfl rfl) trivial
  -- The lamp is registered; its deletion is sent by the next pass.
  have run := run.allow (.deleteEndpoint true "lamp") trivial
  have run := run.allow (.submitUnlessSending (by decide)) trivial
  have run := run.allow (.beginPass rfl (by decide)) trivial
  have run := run.allow (.lookForSender rfl) trivial
  have run := run.allow (.lookForPending rfl) trivial
  have run := run.allow (.movePending rfl) trivial
  have run := run.allow (.createPassSender rfl) trivial
  have run := run.allow (@Step.sendPass _ 1 rfl) trivial
  -- It is added again, and the connection is lost before the deletion is answered.
  have run := run.allow (.addOrUpdateEndpoint true "lamp" "dim") trivial
  have run := run.allow (.submitUnlessSending (by decide)) trivial
  have run := run.allow .disconnect trivial
  have run := run.allow (.beginOperation rfl true) rfl
  have run := run.allow (.prepareOperation rfl true) rfl
  have run := run.allow (.tellUnchanged rfl true) rfl
  have run := run.allow (.createOperation rfl true) rfl
  have run := run.allow (@Step.returnOperation _ 2 rfl true) rfl
  have run := run.allow (@Step.performOperation _ 2 rfl rfl) trivial
  have run := run.allow (@Step.complete _ 2 rfl rfl) trivial
  have run := run.allow (@Step.store _ 2 rfl) rfl
  have run := run.allow (@Step.erase _ 2 rfl) rfl
  have run := run.allow (@Step.register _ 2 rfl) rfl
  have hwins := hall _ _ _ run ⟨rfl,rfl⟩ ⟨rfl,rfl⟩ "lamp" (.addOrUpdate "dim") (by decide)
  cases hwins.1

end AlexaClientSDK.EndpointRequests
