import AlexaClientSDK.EqualizerController
import AlexaClientSDK.MapFolds

/-!
# What the operations of `EqualizerController` do

An operation gives every band a new level that depends on its old one alone, and it saves the state if it has changed
it. So what the storage holds is always enough to find the levels again.
-/

namespace AlexaClientSDK.EqualizerController

open AList Option LabelledRuns MapFolds

variable {configuration : InMemoryEqualizerConfiguration} {setup : Setup} {s t : Controller}

/-- A map that is rebuilt entry by entry has the new levels. -/
theorem lookup_rebuild (level : EqualizerBand → ℤ → ℤ) (map : EqualizerBandLevelMap) (band : EqualizerBand) :
    lookup band (map.entries.foldl (fun (bandLevels : EqualizerBandLevelMap) entry =>
      bandLevels.insert entry.1 (level entry.1 entry.2)) ∅)=(map.lookup band).map (level band) := by
  have hlocal : Local (fun (bandLevels : EqualizerBandLevelMap) band => bandLevels.lookup band)
      (fun (bandLevels : EqualizerBandLevelMap) entry => bandLevels.insert entry.1 (level entry.1 entry.2))
      (fun band old _ => some (level band old)) :=
    ⟨fun bandLevels _ => lookup_insert bandLevels,fun _ _ _ hne => lookup_insert_ne hne⟩
  refine (hlocal.view_foldl map ∅ band).trans ?_
  cases map.lookup band with
  | none => exact lookup_empty band
  | some => rfl

/-- A pass changes the level of its band. -/
theorem lookup_pass (changes : Changes) (band : EqualizerBand) (operation : ℤ → ℤ) :
    (changes.pass band operation).bandLevels.lookup band=(changes.bandLevels.lookup band).map operation := by
  unfold Changes.pass
  cases hlevel : changes.bandLevels.lookup band with
  | none => exact hlevel
  | some originalValue =>
    dsimp only
    by_cases hchanges : operation originalValue≠originalValue
    · rw [if_pos hchanges]
      exact lookup_insert _
    · rw [if_neg hchanges,hlevel,map_some,Decidable.not_not.mp hchanges]

/-- A pass leaves the other bands. -/
theorem lookup_pass_ne (changes : Changes) {band other : EqualizerBand} (operation : ℤ → ℤ) (hne : other≠band) :
    (changes.pass band operation).bandLevels.lookup other=changes.bandLevels.lookup other := by
  unfold Changes.pass
  cases changes.bandLevels.lookup band with
  | none => rfl
  | some =>
    dsimp only
    split
    · exact lookup_insert_ne hne
    · rfl

/-- The loop applies each entry of the map once. -/
theorem lookup_applyChanges (changes : Changes) (changesDataMap : EqualizerBandLevelMap) (operation : ℤ → ℤ → ℤ)
    (band : EqualizerBand) : (changesDataMap.entries.foldl (fun (changes : Changes) entry =>
      changes.pass entry.1 fun originalValue => operation originalValue entry.2) changes).bandLevels.lookup band =
      (changes.bandLevels.lookup band).map fun originalValue =>
        (changesDataMap.lookup band).elim originalValue (operation originalValue) := by
  have hlocal : Local (fun (changes : Changes) band => changes.bandLevels.lookup band)
      (fun (changes : Changes) entry => changes.pass entry.1 fun originalValue => operation originalValue entry.2)
      (fun _ changeValue level => level.map fun originalValue => operation originalValue changeValue) :=
    ⟨fun changes entry => lookup_pass changes entry.1 _,fun changes entry _ hne => lookup_pass_ne changes _ hne⟩
  refine (hlocal.view_foldl changesDataMap changes band).trans ?_
  cases changesDataMap.lookup band with
  | none => exact map_id'.symm
  | some => rfl

/-- The loop resets the bands that are named. -/
theorem lookup_resetBands (level : EqualizerBand → ℤ) (bands : List EqualizerBand) (changes : Changes)
    (band : EqualizerBand) :
    (bands.foldl (fun (changes : Changes) band => changes.pass band fun _ => level band) changes).bandLevels.lookup band =
      (changes.bandLevels.lookup band).map fun originalValue => if band∈bands then level band else originalValue := by
  induction bands generalizing changes with
  | nil =>
    rw [List.foldl_nil]
    cases changes.bandLevels.lookup band with
    | none => rfl
    | some => rw [map_some,if_neg List.not_mem_nil]
  | cons first rest ih =>
    rw [List.foldl_cons,ih]
    by_cases hband : band=first
    · rw [hband,lookup_pass,map_map]
      refine congrArg (Option.map · _) (funext fun originalValue => ?_)
      rw [if_pos List.mem_cons_self,Function.comp_apply]
      split <;> rfl
    · rw [lookup_pass_ne changes _ hband]
      refine congrArg (Option.map · _) (funext fun originalValue => if_congr ?_ rfl rfl)
      rw [List.mem_cons,or_iff_right hband]

/-- A loop without changes leaves the levels. -/
theorem foldl_pass_unchanged {α : Type} (band : α → EqualizerBand) (operation : α → ℤ → ℤ) (items : List α)
    (changes : Changes)
    (h : (items.foldl (fun changes item => changes.pass (band item) (operation item)) changes).hasChanges=false) :
    changes.hasChanges=false ∧
      (items.foldl (fun changes item => changes.pass (band item) (operation item)) changes).bandLevels =
        changes.bandLevels := by
  induction items generalizing changes with
  | nil => exact ⟨h,rfl⟩
  | cons item items ih =>
    obtain ⟨hchanges,hlevels⟩ := ih (changes.pass (band item) (operation item)) h
    rw [List.foldl_cons,hlevels]
    unfold Changes.pass at hchanges ⊢
    cases hlookup : changes.bandLevels.lookup (band item) with
    | none =>
      rw [hlookup] at hchanges
      exact ⟨hchanges,rfl⟩
    | some originalValue =>
      rw [hlookup] at hchanges
      dsimp only at hchanges ⊢
      by_cases hvalue : operation item originalValue≠originalValue
      · rw [if_pos hvalue] at hchanges
        cases hchanges
      · rw [if_neg hvalue] at hchanges ⊢
        exact ⟨hchanges,rfl⟩

/-- The level that an event makes of one band. -/
def newLevel (configuration : InMemoryEqualizerConfiguration) (event : Event) (band : EqualizerBand) (level : ℤ) : ℤ :=
  match event with
  | .setBandLevel other new => if band=other then truncateBandLevel configuration new else level
  | .setBandLevels bandLevelMap => (bandLevelMap.lookup band).elim level id
  | .adjustBandLevels bandAdjustmentMap =>
    (bandAdjustmentMap.lookup band).elim level fun changeValue =>
      truncateBandLevel configuration (addInt level changeValue)
  | .resetBands bands => if band∈bands then Controller.defaultLevel configuration band else level
  | .setCurrentMode _ _ | .registerEqualizer _ | .unregisterEqualizer _ | .addListener _ | .removeListener _ | .restart =>
    level

/-- Nothing is changed but who listens and what the listeners are told. -/
structure Quiet (s t : Controller) : Prop where
  currentState : t.currentState=s.currentState
  storage : t.storage=s.storage
  equalizers : t.equalizers=s.equalizers
  calls : t.calls=s.calls

/-- The state is saved and handed out. -/
structure Updated (configuration : InMemoryEqualizerConfiguration) (s t : Controller) : Prop where
  storage : t.storage=some t.currentState
  equalizers : t.equalizers=s.equalizers
  calls : t.calls=s.calls++s.equalizers.map fun equalizer : Equalizer =>
    (equalizer,equalizer.levelsGiven configuration t.currentState.bandLevels)

/-- Levels get new values, and changes are saved and handed out. -/
structure Performs (configuration : InMemoryEqualizerConfiguration) (level : EqualizerBand → ℤ → ℤ) (s t : Controller) :
    Prop where
  sets : ∀ band,t.currentState.bandLevels.lookup band=(s.currentState.bandLevels.lookup band).map (level band)
  outcome : Updated configuration s t ∨ Quiet s t

/-- Telling the listeners changes nothing else. -/
theorem quiet_notify (s : Controller) (changed : Bool) : Quiet s (s.notifyListenersOnStateChanged changed) :=
  ⟨rfl,rfl,rfl,rfl⟩

theorem quiet_refl (s : Controller) : Quiet s s := ⟨rfl,rfl,rfl,rfl⟩

variable {level : EqualizerBand → ℤ → ℤ}

/-- An operation that keeps the levels may be left out. -/
theorem Quiet.performs (h : Quiet s t)
    (hsame : ∀ band old,s.currentState.bandLevels.lookup band=some old → level band old=old) :
    Performs configuration level s t := by
  refine ⟨fun band => ?_,.inr h⟩
  rw [h.currentState]
  cases hold : s.currentState.bandLevels.lookup band with
  | none => rfl
  | some old => rw [map_some,hsame band old hold]

/-- `setBandLevel` performs its operation. -/
theorem setBandLevel_spec (band : EqualizerBand) (level : ℤ) :
    Performs configuration (newLevel configuration (.setBandLevel band level)) s
      (s.setBandLevel configuration band level) := by
  have hother : ∀ other old,other≠band → newLevel configuration (.setBandLevel band level) other old=old :=
    fun other old hne => if_neg hne
  have hself : ∀ old,newLevel configuration (.setBandLevel band level) band old=truncateBandLevel configuration level :=
    fun old => if_pos rfl
  unfold Controller.setBandLevel
  cases hcurrent : s.currentState.bandLevels.lookup band with
  | none =>
    refine (quiet_refl s).performs fun other old hold => ?_
    refine hother other old fun heq => ?_
    rw [heq,hcurrent] at hold
    cases hold
  | some current =>
    dsimp only
    by_cases hsame : current=truncateBandLevel configuration level
    · rw [if_pos hsame]
      refine (quiet_notify s false).performs fun other old hold => ?_
      by_cases heq : other=band
      · rw [heq,hcurrent] at hold
        rw [heq,hself,←hsame,Option.some.inj hold]
      · exact hother other old heq
    · rw [if_neg hsame]
      refine ⟨fun other => ?_,.inl ⟨rfl,rfl,rfl⟩⟩
      change lookup other (s.currentState.bandLevels.insert band (truncateBandLevel configuration level))=_
      by_cases heq : other=band
      · rw [heq,lookup_insert,hcurrent,map_some,hself]
      · rw [lookup_insert_ne heq]
        cases hold : s.currentState.bandLevels.lookup other with
        | none => rfl
        | some old => rw [map_some,hother other old heq]

/-- What a loop has made of the levels is taken over. -/
theorem applied_spec {changes : Changes}
    (hsets : ∀ band,changes.bandLevels.lookup band=(s.currentState.bandLevels.lookup band).map (level band))
    (hunchanged : changes.hasChanges=false → changes.bandLevels=s.currentState.bandLevels) :
    Performs configuration level s (s.applied configuration changes) := by
  unfold Controller.applied
  cases hchanges : changes.hasChanges with
  | true =>
    rw [if_pos rfl]
    exact ⟨hsets,.inl ⟨rfl,rfl,rfl⟩⟩
  | false =>
    rw [if_neg Bool.false_ne_true]
    have hquiet : Quiet s {s with currentState.bandLevels := changes.bandLevels} := by
      rw [hunchanged hchanges]
      exact quiet_refl s
    cases changes.hasInvalidBands with
    | true =>
      rw [if_pos rfl]
      exact ⟨hsets,.inr hquiet⟩
    | false =>
      rw [if_neg Bool.false_ne_true]
      exact ⟨hsets,.inr ⟨hquiet.currentState,rfl,rfl,rfl⟩⟩

/-- `applyChangesToCurrentState` performs its operation. -/
theorem applyChanges_spec (changesDataMap : EqualizerBandLevelMap) (operation : ℤ → ℤ → ℤ) : Performs configuration
      (fun band originalValue => (changesDataMap.lookup band).elim originalValue (operation originalValue)) s
      (s.applyChangesToCurrentState configuration changesDataMap operation) :=
  applied_spec (lookup_applyChanges _ changesDataMap operation) fun hunchanged =>
    (foldl_pass_unchanged _ (fun entry : Σ _ : EqualizerBand,ℤ => fun originalValue => operation originalValue entry.2)
      changesDataMap.entries _ hunchanged).2

/-- `resetBands` performs its operation. -/
theorem resetBands_spec (bands : List EqualizerBand) :
    Performs configuration (newLevel configuration (.resetBands bands)) s (s.resetBands configuration bands) :=
  applied_spec (lookup_resetBands _ bands _) fun hunchanged => (foldl_pass_unchanged _ _ bands _ hunchanged).2

/-- A mode leaves the levels. -/
theorem setCurrentMode_spec (mode : EqualizerMode) (accepted : Bool) :
    Performs setup.configuration (fun _ level => level) s (s.setCurrentMode setup mode accepted) := by
  have hquiet : Performs setup.configuration (fun _ level => level) s s := (quiet_refl s).performs fun _ _ _ => rfl
  unfold Controller.setCurrentMode
  split
  · exact hquiet
  · split
    · exact hquiet
    · split
      · exact hquiet
      · split
        · exact hquiet
        · exact ⟨fun band => map_id'.symm,.inl ⟨rfl,rfl,rfl⟩⟩

/-- A stored level goes before the configured one. -/
theorem lookup_loadState (storage : Option EqualizerState) (band : EqualizerBand) :
    (loadState configuration storage).bandLevels.lookup band =
      (configuration.defaultState.bandLevels.lookup band).map fun level =>
        (storage.bind fun loaded => loaded.bandLevels.lookup band).getD level := by
  cases storage with
  | none => exact map_id'.symm
  | some loaded => exact lookup_rebuild (fun band level => (loaded.bandLevels.lookup band).getD level) _ band

/-- The state can be found again. -/
structure Kept (configuration : InMemoryEqualizerConfiguration) (s : Controller) : Prop where
  bands : ∀ band,(s.currentState.bandLevels.lookup band).isSome =
    (configuration.defaultState.bandLevels.lookup band).isSome
  levels : ∀ band,(loadState configuration s.storage).bandLevels.lookup band=s.currentState.bandLevels.lookup band
  mode : s.storage=none → s.currentState.mode=configuration.defaultState.mode

/-- The state of a new controller can be found again. -/
theorem kept_construct (setup : Setup) (storage : Option EqualizerState) :
    Kept setup.configuration (construct setup storage) := by
  refine ⟨fun band => ?_,fun _ => rfl,fun hnone => ?_⟩
  · change (lookup band (loadState setup.configuration storage).bandLevels).isSome=_
    rw [lookup_loadState,isSome_map]
  · change (loadState setup.configuration storage).mode=_
    rw [show storage=none from hnone]
    rfl

/-- A saved state is loaded as it was. -/
theorem lookup_loadState_saved (hbands : ∀ band,(s.currentState.bandLevels.lookup band).isSome =
    (configuration.defaultState.bandLevels.lookup band).isSome) (band : EqualizerBand) :
    (loadState configuration (some s.currentState)).bandLevels.lookup band=s.currentState.bandLevels.lookup band := by
  have hband := hbands band
  rw [lookup_loadState,bind_some]
  cases hdefault : configuration.defaultState.bandLevels.lookup band with
  | none =>
    rw [hdefault,isSome_none,isSome_eq_false_iff,isNone_iff_eq_none] at hband
    exact hband.symm
  | some =>
    rw [hdefault,isSome_some,isSome_iff_exists] at hband
    obtain ⟨current,hcurrent⟩ := hband
    rw [hcurrent]
    rfl

/-- What an operation leaves can be found again. -/
theorem Kept.performs (h : Kept configuration s)
    (hperforms : Performs configuration level s t) : Kept configuration t := by
  have hbands : ∀ band,(t.currentState.bandLevels.lookup band).isSome =
      (configuration.defaultState.bandLevels.lookup band).isSome := by
    intro band
    rw [hperforms.sets,isSome_map]
    exact h.bands band
  obtain hupdated|hquiet := hperforms.outcome
  · refine ⟨hbands,fun band => ?_,fun hnone => ?_⟩
    · rw [hupdated.storage]
      exact lookup_loadState_saved hbands band
    · rw [hupdated.storage] at hnone
      cases hnone
  · refine ⟨hbands,?_,?_⟩
    · rw [hquiet.storage,hquiet.currentState]
      exact h.levels
    · rw [hquiet.storage,hquiet.currentState]
      exact h.mode

/-- Events that leave the state and the storage alone. -/
def Event.isPassive : Event → Bool
  | .registerEqualizer _ | .unregisterEqualizer _ | .addListener _ | .removeListener _ => true
  | .setBandLevel _ _ | .setBandLevels _ | .adjustBandLevels _ | .resetBands _ | .setCurrentMode _ _ | .restart => false

variable {event : Event}

/-- A passive event leaves the state and the storage. -/
theorem next_passive (h : event.isPassive=true) :
    (s.next setup event).currentState=s.currentState ∧ (s.next setup event).storage=s.storage := by
  cases event with
  | registerEqualizer equalizer | unregisterEqualizer equalizer => cases equalizer <;> exact ⟨rfl,rfl⟩
  | addListener listener | removeListener listener => cases listener <;> exact ⟨rfl,rfl⟩
  | setBandLevel => cases h
  | setBandLevels => cases h
  | adjustBandLevels => cases h
  | resetBands => cases h
  | setCurrentMode => cases h
  | restart => cases h

/-- The event changes the state. -/
def Event.isOperation : Event → Bool
  | .setBandLevel _ _ | .setBandLevels _ | .adjustBandLevels _ | .resetBands _ | .setCurrentMode _ _ => true
  | .registerEqualizer _ | .unregisterEqualizer _ | .addListener _ | .removeListener _ | .restart => false

/-- An event that changes the state performs its operation. -/
theorem next_operation (h : event.isOperation=true) :
    Performs setup.configuration (newLevel setup.configuration event) s (s.next setup event) := by
  cases event with
  | setBandLevel band level => exact setBandLevel_spec band level
  | setBandLevels bandLevelMap => exact applyChanges_spec bandLevelMap fun _ changeValue => changeValue
  | adjustBandLevels bandAdjustmentMap => exact applyChanges_spec bandAdjustmentMap _
  | resetBands bands => exact resetBands_spec bands
  | setCurrentMode mode accepted => exact setCurrentMode_spec mode accepted
  | registerEqualizer => cases h
  | unregisterEqualizer => cases h
  | addListener => cases h
  | removeListener => cases h
  | restart => cases h

/-- There is nothing else but a restart. -/
theorem event_cases (event : Event) : event.isPassive=true ∨ event.isOperation=true ∨ event=.restart := by
  cases event <;> simp [Event.isPassive,Event.isOperation]

theorem newLevel_passive (h : event.isPassive=true) (band : EqualizerBand) (level : ℤ) :
    newLevel configuration event band level=level := by
  cases event <;> first | rfl | cases h

/-- The state can be found again after every event. -/
theorem kept_next (h : Kept setup.configuration s) (event : Event) : Kept setup.configuration (s.next setup event) := by
  obtain hpassive|hoperation|rfl := event_cases event
  · obtain ⟨hstate,hstorage⟩ : (s.next setup event).currentState=s.currentState ∧
        (s.next setup event).storage=s.storage := next_passive hpassive
    refine ⟨?_,?_,?_⟩
    · rw [hstate]
      exact h.bands
    · rw [hstate,hstorage]
      exact h.levels
    · rw [hstate,hstorage]
      exact h.mode
  · exact h.performs (next_operation hoperation)
  · have hnew := kept_construct setup s.storage
    exact ⟨hnew.bands,hnew.levels,hnew.mode⟩

/-- Every event makes the new level of each band. -/
theorem lookup_next (h : Kept setup.configuration s) (event : Event) (band : EqualizerBand) :
    (s.next setup event).currentState.bandLevels.lookup band =
      (s.currentState.bandLevels.lookup band).map (newLevel setup.configuration event band) := by
  obtain hpassive|hoperation|rfl := event_cases event
  · rw [(next_passive hpassive).1,funext (newLevel_passive hpassive band),map_id']
  · exact (next_operation hoperation).sets band
  · exact (h.levels band).trans map_id'.symm

end AlexaClientSDK.EqualizerController
