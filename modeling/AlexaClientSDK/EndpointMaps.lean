import AlexaClientSDK.MapFolds
import AlexaClientSDK.CapabilitiesDelegate

/-!
# The maps of the delegate, endpoint by endpoint

The loops over the maps touch, for each endpoint, only what the maps keep for it. What
they leave is described for one endpoint at a time.
-/

namespace AlexaClientSDK.EndpointMaps

open AList Option MapFolds CapabilitiesDelegate Delegate

variable {β : Type} (x : String)

/-- A map without entries is empty. -/
theorem eq_empty {map : AList fun _ : String => β} (h : map.entries=[]) : map=∅ := ext h

/-- The storage takes over what is given for an endpoint. -/
theorem lookup_store (storage : Configs) (endpoints : Endpoints) : (store storage endpoints.entries).lookup x =
      (endpoints.lookup x).elim (storage.lookup x) fun entry => some entry.config := by
  have hlocal : Local (fun (m : Configs) y => m.lookup y)
      (fun (m : Configs) (entry : Σ _ : String,Entry) => m.insert entry.1 entry.2.config)
      (fun _ entry _ => some entry.config) :=
    ⟨fun m entry => lookup_insert m,fun m entry y hy => lookup_insert_ne hy⟩
  exact hlocal.view_foldl endpoints storage x

/-- The deleted endpoints leave the storage. -/
theorem lookup_erase (storage : Configs) (deletions : Deletions) : (erase storage deletions.entries).lookup x =
      if (deletions.lookup x).isSome then none else storage.lookup x := by
  have hlocal : Local (fun (m : Configs) y => m.lookup y)
      (fun (m : Configs) (entry : Σ _ : String,Option ℕ) => m.erase entry.1) (fun _ _ _ => none) :=
    ⟨fun m entry => AList.lookup_erase entry.1 m,fun m entry y hy => AList.lookup_erase_ne hy⟩
  refine (hlocal.view_foldl deletions storage x).trans ?_
  cases deletions.lookup x with
  | none => rfl
  | some => rfl

/-- What was in flight is registered, or it leaves the registered endpoints. -/
theorem lookup_register (s : Delegate) : s.moveInFlightEndpointsToRegisteredEndpoints.endpoints.lookup x =
      if (s.delete.inFlight.lookup x).isSome then none
      else (s.addOrUpdate.inFlight.lookup x).elim (s.endpoints.lookup x) fun entry => some entry.config := by
  change (erase (store s.endpoints s.addOrUpdate.inFlight.entries) s.delete.inFlight.entries).lookup x=_
  rw [lookup_erase,lookup_store]

/-- What is in flight comes back unless the endpoint has something pending. -/
theorem lookup_moveInFlight (endpoints : InProcess β) : (moveInFlight endpoints).pending.lookup x =
      (endpoints.pending.lookup x).or (endpoints.inFlight.lookup x) := by
  have hlocal : Local (fun (m : AList fun _ : String => β) y => m.lookup y)
      (fun (m : AList fun _ : String => β) (entry : Σ _ : String,β) =>
        if entry.1∈m then m else m.insert entry.1 entry.2)
      (fun _ value old => old.or (some value)) := by
    constructor
    · intro m entry
      split
      · rename_i hmem
        obtain ⟨value,hvalue⟩ := isSome_iff_exists.mp (lookup_isSome.mpr hmem)
        rw [hvalue,some_or]
      · rename_i hmem
        rw [lookup_insert,lookup_eq_none.mpr hmem,none_or]
    · intro m entry y hy
      split
      · rfl
      · exact lookup_insert_ne hy
  refine (hlocal.view_foldl endpoints.inFlight endpoints.pending x).trans ?_
  cases endpoints.inFlight.lookup x with
  | none => exact or_none.symm
  | some => rfl

variable {endpoints : InProcess β}

/-- Nothing comes back from the in-flight endpoints when there are none. -/
theorem moveInFlight_of_none (h : endpoints.inFlight.entries=[]) :
    (moveInFlight endpoints).pending=endpoints.pending := by
  unfold moveInFlight
  rw [h]
  rfl

/-- With nothing in flight the endpoints stay as they are. -/
theorem moveInFlight_eq (h : endpoints.inFlight.entries=[]) : moveInFlight endpoints=endpoints := by
  have hpending := moveInFlight_of_none h
  obtain ⟨pending,inFlight⟩ := endpoints
  rw [show inFlight=∅ from eq_empty h] at hpending ⊢
  change (⟨(moveInFlight ⟨pending,∅⟩).pending,∅⟩ : InProcess β)=⟨pending,∅⟩
  rw [hpending]

/-- A registered endpoint is published again unless it is pending. -/
theorem lookup_addRegistered (endpoints : Configs) (deletions : Deletions) (pending : Endpoints) :
    (addRegistered endpoints deletions pending).lookup x = if deletions.lookup x=none ∧ pending.lookup x=none then
        (endpoints.lookup x).map fun config => ⟨config,none⟩ else pending.lookup x := by
  have hlocal : Local (fun (m : Endpoints) y => m.lookup y) (fun (m : Endpoints) (entry : Σ _ : String,String) =>
        if entry.1∉deletions ∧ entry.1∉m then m.insert entry.1 ⟨entry.2,none⟩ else m)
      (fun y config old => if deletions.lookup y=none ∧ old=none then some ⟨config,none⟩ else old) := by
    constructor
    · intro m entry
      simp only [←lookup_eq_none]
      split
      · exact lookup_insert m
      · rfl
    · intro m entry y hy
      split
      · exact lookup_insert_ne hy
      · rfl
  refine (hlocal.view_foldl endpoints pending x).trans ?_
  cases endpoints.lookup x with
  | none =>
    dsimp only [Option.elim,Option.map]
    split
    · rename_i hnone
      exact hnone.2
    · rfl
  | some => rfl

/-- The endpoint is pending with the configuration that is stored. -/
def Unchanged (pending : Endpoints) (stored : Configs) (x : String) : Prop :=
  ∃ entry,pending.lookup x=some entry ∧ stored.lookup x=some entry.config

/-- An unchanged endpoint is registered, and the others stay where they are. -/
theorem lookup_filterUnchanged (pending : Endpoints) (endpoints stored : Configs) :
    let maps := filterUnchanged pending endpoints stored
    (Unchanged pending stored x → maps.pending.lookup x=none ∧
      maps.endpoints.lookup x=stored.lookup x ∧ maps.stored.lookup x=none) ∧
    (¬Unchanged pending stored x → maps.pending.lookup x=pending.lookup x ∧
      maps.endpoints.lookup x=endpoints.lookup x ∧ maps.stored.lookup x=stored.lookup x) := by
  intro maps
  have hlocal : Local (fun (m : Filtered) y => (m.pending.lookup y,m.endpoints.lookup y,m.stored.lookup y))
      (fun (m : Filtered) (entry : Σ _ : String,Entry) =>
        if m.stored.lookup entry.1=some entry.2.config then
          ⟨m.pending.erase entry.1,m.endpoints.insert entry.1 entry.2.config,m.stored.erase entry.1⟩
        else m)
      (fun _ entry old => if old.2.2=some entry.config then (none,some entry.config,none) else old) := by
    constructor
    · intro m entry
      split
      · rw [AList.lookup_erase,AList.lookup_insert,AList.lookup_erase]
      · rfl
    · intro m entry y hy
      split
      · rw [AList.lookup_erase_ne hy,AList.lookup_insert_ne hy,AList.lookup_erase_ne hy]
      · rfl
  have hview : (maps.pending.lookup x,maps.endpoints.lookup x,maps.stored.lookup x) =
      (pending.lookup x).elim (pending.lookup x,endpoints.lookup x,stored.lookup x) fun entry =>
        if stored.lookup x=some entry.config then (none,some entry.config,none)
        else (pending.lookup x,endpoints.lookup x,stored.lookup x) :=
    hlocal.view_foldl pending ⟨pending,endpoints,stored⟩ x
  constructor
  · rintro ⟨entry,hentry,hstored⟩
    rw [hentry,Option.elim,if_pos hstored] at hview
    obtain ⟨hpending,hrest⟩ := Prod.mk.inj hview
    obtain ⟨hendpoints,hcopy⟩ := Prod.mk.inj hrest
    exact ⟨hpending,hendpoints.trans hstored.symm,hcopy⟩
  · intro hchanged
    have hsame : (maps.pending.lookup x,maps.endpoints.lookup x,maps.stored.lookup x) =
        (pending.lookup x,endpoints.lookup x,stored.lookup x) := by
      rw [hview]
      cases hentry : pending.lookup x with
      | none => rfl
      | some entry => exact if_neg fun hstored => hchanged ⟨entry,hentry,hstored⟩
    obtain ⟨hpending,hrest⟩ := Prod.mk.inj hsame
    exact ⟨hpending,Prod.mk.inj hrest⟩

/-- A stored endpoint that nothing else knows of is to be deleted. -/
theorem lookup_addStale (endpoints : Configs) (pending : Endpoints) (deletions : Deletions) (stored : Configs) :
    (addStale endpoints pending deletions stored).lookup x =
      if (stored.lookup x).isSome ∧ endpoints.lookup x=none ∧ pending.lookup x=none ∧
        deletions.lookup x=none then some none else deletions.lookup x := by
  have hlocal : Local (fun (m : Deletions) y => m.lookup y) (fun (m : Deletions) (entry : Σ _ : String,String) =>
        if entry.1∉endpoints ∧ entry.1∉pending ∧ entry.1∉m then m.insert entry.1 none else m)
      (fun y _ old => if endpoints.lookup y=none ∧ pending.lookup y=none ∧ old=none then some none
        else old) := by
    constructor
    · intro m entry
      simp only [←lookup_eq_none]
      split
      · exact lookup_insert m
      · rfl
    · intro m entry y hy
      split
      · exact lookup_insert_ne hy
      · rfl
  refine (hlocal.view_foldl stored deletions x).trans ?_
  cases stored.lookup x with
  | none => simp only [Option.elim,Option.isSome_none,Bool.false_eq_true,false_and,if_false]
  | some => simp only [Option.elim,Option.isSome_some,true_and]

end AlexaClientSDK.EndpointMaps
