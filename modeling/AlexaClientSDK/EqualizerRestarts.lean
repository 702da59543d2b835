import AlexaClientSDK.EqualizerLevels
import AlexaClientSDK.Histories

/-!
# Equalizers and restarts

The next controller over the same storage has the levels of the last one; but the mode is not loaded again once a state
was saved. An equalizer is given levels limited to its range when the state is updated and the range is narrower than
the configured one, but not when it is registered.
-/

namespace AlexaClientSDK.EqualizerController

open Option List LabelledRuns Histories

variable {configuration : InMemoryEqualizerConfiguration} {setup : Setup} {s t : Controller}

section

variable (s)

def Controller.lastGiven (equalizer : Equalizer) : Option EqualizerBandLevelMap :=
  (s.calls.findRev? fun call => decide (call.1=equalizer)).map Prod.snd

def IsLimited (equalizer : Equalizer) (levels given : EqualizerBandLevelMap) : Prop :=
  ∀ band,given.lookup band=(levels.lookup band).map equalizer.limit

/-- Who is given levels is given the current ones, limited to its range. -/
def HandsOut (s t : Controller) : Prop :=
  ∃ calls,t.calls=s.calls++calls ∧ ∀ call∈calls,IsLimited call.1 t.currentState.bandLevels call.2

/-- Who is registered was given the current levels. -/
def Given : Prop :=
  ∀ equalizer∈s.equalizers,∃ given,s.lastGiven equalizer=some given ∧
    IsLimited equalizer s.currentState.bandLevels given

/-- A new controller starts with the mode and the levels of the old one. -/
def Survives (event : Event) (t : Controller) : Prop :=
  event=.restart → t.currentState.mode=s.currentState.mode ∧
    ∀ band,t.currentState.bandLevels.lookup band=s.currentState.bandLevels.lookup band

end

def Conforming (setup : Setup) (s : Controller) (event : Event) (t : Controller) : Prop :=
  Step setup s event t ∧ Survives s event t ∧ HandsOut s t ∧ Given t

/-- The equalizer does not limit the new levels. -/
def Fits (equalizer : Equalizer) (level : EqualizerBand → ℤ → ℤ) (levels : EqualizerBandLevelMap) : Prop :=
  ∀ band old,levels.lookup band=some old → equalizer.limit (level band old)=level band old

/-- Equalizers are registered while their ranges hold the levels, operations leave levels in those not narrower
than the configured one, and at a restart nothing was saved or there is no mode. -/
def Meets (setup : Setup) (s : Controller) (event : Event) : Prop :=
  match event with
  | .registerEqualizer equalizer =>
    ∀ registered∈equalizer,Fits registered (fun _ level => level) s.currentState.bandLevels
  | .restart => s.storage=none ∨ s.currentState.mode=.NONE
  | .setBandLevel _ _ | .setBandLevels _ | .adjustBandLevels _ | .resetBands _ | .setCurrentMode _ _ =>
    ∀ equalizer∈s.equalizers,equalizer.isNarrower setup.configuration=true ∨
      Fits equalizer (newLevel setup.configuration event) s.currentState.bandLevels
  | .unregisterEqualizer _ | .addListener _ | .removeListener _ => True

variable {equalizer : Equalizer}

/-- In a range that is not empty a level is limited just if it lies outside. -/
theorem limit_eq_self_iff (hrange : equalizer.minimumBandLevel≤equalizer.maximumBandLevel) {level : ℤ} :
    equalizer.limit level=level ↔ equalizer.minimumBandLevel≤level ∧ level≤equalizer.maximumBandLevel := by
  unfold Equalizer.limit
  omega

variable {levels : EqualizerBandLevelMap}

theorem isLimited_self_iff : IsLimited equalizer levels levels ↔ Fits equalizer (fun _ level => level) levels := by
  constructor
  · intro hlimited band level hlevel
    have hband := hlimited band
    rw [hlevel,map_some] at hband
    exact (some.inj hband).symm
  · intro hfits band
    cases hlevel : levels.lookup band with
    | none => rfl
    | some level => rw [map_some,hfits band level hlevel]

theorem isLimited_levelsGiven_iff : IsLimited equalizer levels (equalizer.levelsGiven configuration levels) ↔
      equalizer.isNarrower configuration=true ∨ Fits equalizer (fun _ level => level) levels := by
  unfold Equalizer.levelsGiven
  cases equalizer.isNarrower configuration with
  | true =>
    rw [if_pos rfl]
    exact iff_of_true (lookup_rebuild (fun _ => equalizer.limit) levels) (.inl rfl)
  | false =>
    rw [if_neg Bool.false_ne_true,isLimited_self_iff]
    exact ⟨.inr,fun hor => hor.resolve_left Bool.false_ne_true⟩

variable {level : EqualizerBand → ℤ → ℤ}

/-- Whether the new levels fit can be told from the old ones. -/
theorem fits_iff {new : EqualizerBandLevelMap} (hsets : ∀ band,new.lookup band=(levels.lookup band).map (level band)) :
    Fits equalizer (fun _ level => level) new ↔ Fits equalizer level levels := by
  constructor
  · intro hfits band old hold
    refine hfits band (level band old) ?_
    rw [hsets,hold,map_some]
  · intro hfits band value hvalue
    rw [hsets,map_eq_some_iff] at hvalue
    obtain ⟨old,hold,rfl⟩ := hvalue
    exact hfits band old hold

theorem lastGiven_of_calls {equalizers : List Equalizer} {given : Equalizer → EqualizerBandLevelMap}
    (hcalls : t.calls=s.calls++equalizers.map fun equalizer => (equalizer,given equalizer))
    (hmem : equalizer∈equalizers) : t.lastGiven equalizer=some (given equalizer) := by
  unfold Controller.lastGiven
  rw [hcalls,findRev?_append]
  have hcall : (equalizer,given equalizer)∈equalizers.map fun equalizer => (equalizer,given equalizer) :=
    mem_map_of_mem hmem
  cases hfound : (equalizers.map fun equalizer => (equalizer,given equalizer)).findRev? fun call =>
      decide (call.1=equalizer) with
  | none => cases (decide_eq_true rfl).symm.trans (findRev?_eq_none_iff.mp hfound _ hcall)
  | some call =>
    obtain ⟨hself,before,after,hlist,-⟩ := findRev?_eq_some_iff.mp hfound
    have hin : call∈equalizers.map fun equalizer => (equalizer,given equalizer) := by
      rw [hlist]
      exact mem_append_right _ mem_cons_self
    obtain ⟨other,-,rfl⟩ := mem_map.mp hin
    have hother : other=equalizer := of_decide_eq_true hself
    rw [hother]
    rfl

/-- What holds in every run in which the condition is met. -/
structure Held (setup : Setup) (s : Controller) : Prop where
  kept : Kept setup.configuration s
  /-- Who is registered was given the current levels. -/
  given : Given s
  fits : ∀ equalizer∈s.equalizers,equalizer.isNarrower setup.configuration=true ∨
    Fits equalizer (fun _ level => level) s.currentState.bandLevels

theorem handsOut_of_calls (h : t.calls=s.calls) : HandsOut s t := by
  refine ⟨[],h.trans (append_nil _).symm,fun call hmem => ?_⟩
  cases hmem

/-- Those still registered have been given the levels. -/
theorem given_of_calls (h : Given s) (hcalls : t.calls=s.calls) (hstate : t.currentState=s.currentState)
    (hequalizers : ∀ equalizer∈t.equalizers,equalizer∈s.equalizers) : Given t := by
  intro equalizer hmem
  obtain ⟨given,hgiven,hlimited⟩ := h equalizer (hequalizers equalizer hmem)
  refine ⟨given,?_,?_⟩
  · unfold Controller.lastGiven at hgiven ⊢
    rw [hcalls]
    exact hgiven
  · rw [hstate]
    exact hlimited

theorem restart_survives_iff (h : Kept setup.configuration s) :
    Survives s .restart (s.restart setup) ↔ s.storage=none ∨ s.currentState.mode=.NONE := by
  have hlevels : ∀ band,(s.restart setup).currentState.bandLevels.lookup band =
      s.currentState.bandLevels.lookup band := h.levels
  have hmode : (s.restart setup).currentState.mode=(loadState setup.configuration s.storage).mode := rfl
  cases hstorage : s.storage with
  | none =>
    rw [hstorage] at hmode
    exact iff_of_true (fun _ => ⟨hmode.trans (h.mode hstorage).symm,hlevels⟩) (.inl rfl)
  | some =>
    rw [hstorage] at hmode
    constructor
    · intro hsurvives
      exact .inr ((hsurvives rfl).1.symm.trans hmode)
    · rintro (hnone|hnomode) _
      · cases hnone
      · exact ⟨hmode.trans hnomode.symm,hlevels⟩

theorem survives_of_ne {event : Event} (hne : event≠.restart) : Survives s event t := fun heq => (hne heq).elim

section

variable (h : Held setup s)
include h

/-- Some are registered no longer, or listeners change. -/
theorem held_of_calls (hkept : Kept setup.configuration t) (hcalls : t.calls=s.calls)
    (hstate : t.currentState=s.currentState)
    (hequalizers : ∀ equalizer∈t.equalizers,equalizer∈s.equalizers) : Held setup t := by
  refine ⟨hkept,given_of_calls h.given hcalls hstate hequalizers,fun equalizer hmem => ?_⟩
  rw [hstate]
  exact h.fits equalizer (hequalizers equalizer hmem)

theorem register_spec (equalizer : Equalizer) : (HandsOut s (s.registerEqualizer (some equalizer)) →
      Fits equalizer (fun _ level => level) s.currentState.bandLevels) ∧
    (Fits equalizer (fun _ level => level) s.currentState.bandLevels →
      HandsOut s (s.registerEqualizer (some equalizer)) ∧ Held setup (s.registerEqualizer (some equalizer))) := by
  constructor
  · rintro ⟨calls,hcalls,hlimited⟩
    obtain rfl := append_cancel_left hcalls
    exact isLimited_self_iff.mp (hlimited _ mem_cons_self)
  · intro hfits
    have hlimited := isLimited_self_iff.mpr hfits
    refine ⟨⟨_,rfl,fun call hmem => ?_⟩,⟨h.kept.bands,h.kept.levels,h.kept.mode⟩,fun other hmem => ?_,
      fun other hmem => ?_⟩
    · rw [mem_singleton.mp hmem]
      exact hlimited
    · by_cases hsame : other=equalizer
      · have hcalls : (s.registerEqualizer (some equalizer)).calls =
            s.calls++[equalizer].map fun equalizer => (equalizer,s.currentState.bandLevels) := rfl
        refine ⟨s.currentState.bandLevels,lastGiven_of_calls hcalls (mem_singleton.mpr hsame),?_⟩
        rw [hsame]
        exact hlimited
      · obtain hmem|hmem := mem_append.mp hmem
        · obtain ⟨given,hgiven,hother⟩ := h.given other hmem
          refine ⟨given,?_,hother⟩
          refine Eq.trans ?_ hgiven
          exact congrArg (Option.map Prod.snd) (findRev?_snoc_of_not (decide_eq_false (Ne.symm hsame)))
        · exact (hsame (mem_singleton.mp hmem)).elim
    · obtain hmem|hmem := mem_append.mp hmem
      · exact h.fits other hmem
      · rw [mem_singleton.mp hmem]
        exact .inr hfits

theorem operation_spec (hkept : Kept setup.configuration t) (hperforms : Performs setup.configuration level s t) :
    (HandsOut s t → ∀ equalizer∈s.equalizers,equalizer.isNarrower setup.configuration=true ∨
      Fits equalizer level s.currentState.bandLevels) ∧
    ((∀ equalizer∈s.equalizers,equalizer.isNarrower setup.configuration=true ∨
      Fits equalizer level s.currentState.bandLevels) → HandsOut s t ∧ Held setup t) := by
  obtain hupdated|hquiet := hperforms.outcome
  · constructor
    · rintro ⟨calls,hcalls,hlimited⟩ equalizer hmem
      obtain rfl := append_cancel_left (hupdated.calls.symm.trans hcalls)
      rw [←fits_iff hperforms.sets]
      exact isLimited_levelsGiven_iff.mp (hlimited _ (mem_map_of_mem hmem))
    · intro hmeets
      have hnew : ∀ equalizer∈s.equalizers,equalizer.isNarrower setup.configuration=true ∨
          Fits equalizer (fun _ level => level) t.currentState.bandLevels := by
        intro equalizer hmem
        rw [fits_iff hperforms.sets]
        exact hmeets equalizer hmem
      refine ⟨⟨_,hupdated.calls,fun call hmem => ?_⟩,hkept,fun equalizer hmem => ?_,fun equalizer hmem => ?_⟩
      · obtain ⟨equalizer,hequalizer,rfl⟩ := mem_map.mp hmem
        exact isLimited_levelsGiven_iff.mpr (hnew equalizer hequalizer)
      · rw [hupdated.equalizers] at hmem
        exact ⟨_,lastGiven_of_calls hupdated.calls hmem,isLimited_levelsGiven_iff.mpr (hnew equalizer hmem)⟩
      · rw [hupdated.equalizers] at hmem
        exact hnew equalizer hmem
  · constructor
    · intro _ equalizer hmem
      rw [←fits_iff hperforms.sets,hquiet.currentState]
      exact h.fits equalizer hmem
    · intro _
      refine ⟨handsOut_of_calls hquiet.calls,held_of_calls h hkept hquiet.calls hquiet.currentState fun equalizer => ?_⟩
      rw [hquiet.equalizers]
      exact id

theorem conforming_spec (event : Event) :
    (Survives s event (s.next setup event) ∧ HandsOut s (s.next setup event) → Meets setup s event) ∧
    (Meets setup s event →
      Survives s event (s.next setup event) ∧ HandsOut s (s.next setup event) ∧ Held setup (s.next setup event)) := by
  have hkept := kept_next h.kept event
  have hsame : (s.next setup event).calls=s.calls → (s.next setup event).currentState=s.currentState →
      (∀ equalizer∈(s.next setup event).equalizers,equalizer∈s.equalizers) →
      HandsOut s (s.next setup event) ∧ Held setup (s.next setup event) := fun hcalls hstate hequalizers =>
    ⟨handsOut_of_calls hcalls,held_of_calls h hkept hcalls hstate hequalizers⟩
  have hoperation : ∀ {level},Performs setup.configuration level s (s.next setup event) → event≠.restart →
      (Survives s event (s.next setup event) ∧ HandsOut s (s.next setup event) →
        ∀ equalizer∈s.equalizers,equalizer.isNarrower setup.configuration=true ∨
          Fits equalizer level s.currentState.bandLevels) ∧
      ((∀ equalizer∈s.equalizers,equalizer.isNarrower setup.configuration=true ∨
          Fits equalizer level s.currentState.bandLevels) →
        Survives s event (s.next setup event) ∧ HandsOut s (s.next setup event) ∧ Held setup (s.next setup event)) := by
    intro level hperforms hne
    obtain ⟨hforward,hbackward⟩ := operation_spec h hkept hperforms
    exact ⟨fun hlast => hforward hlast.2,fun hmeets => ⟨survives_of_ne hne,hbackward hmeets⟩⟩
  cases event with
  | setBandLevel | setBandLevels | adjustBandLevels | resetBands | setCurrentMode =>
    exact hoperation (next_operation rfl) nofun
  | registerEqualizer equalizer =>
    cases equalizer with
    | none =>
      refine ⟨(fun _ registered hmem => by cases hmem),fun _ => ⟨survives_of_ne nofun,?_⟩⟩
      exact hsame rfl rfl fun _ hmem => hmem
    | some equalizer =>
      obtain ⟨hforward,hbackward⟩ := register_spec h equalizer
      refine ⟨fun hlast registered hmem => ?_,fun hmeets => ⟨survives_of_ne nofun,?_⟩⟩
      · rw [←some.inj hmem]
        exact hforward hlast.2
      · exact hbackward (hmeets equalizer rfl)
  | unregisterEqualizer equalizer =>
    refine ⟨fun _ => trivial,fun _ => ⟨survives_of_ne nofun,?_⟩⟩
    cases equalizer with
    | none => exact hsame rfl rfl fun _ hmem => hmem
    | some => exact hsame rfl rfl fun _ hmem => mem_of_mem_erase hmem
  | addListener listener | removeListener listener =>
    refine ⟨fun _ => trivial,fun _ => ⟨survives_of_ne nofun,?_⟩⟩
    cases listener <;> exact hsame rfl rfl fun _ hmem => hmem
  | restart =>
    have hsurvives := restart_survives_iff h.kept
    refine ⟨fun hlast => hsurvives.mp hlast.1,fun hmeets => ⟨hsurvives.mpr hmeets,handsOut_of_calls rfl,hkept,?_,?_⟩⟩
    · exact nofun
    · exact nofun

end

/-- Where a controller is created nobody is registered. -/
theorem held_construct (setup : Setup) (storage : Option EqualizerState) : Held setup (construct setup storage) := by
  refine ⟨kept_construct setup storage,fun equalizer hmem => ?_,fun equalizer hmem => ?_⟩
  · cases hmem
  · cases hmem

/-- Exactly the runs in which every step meets the condition. -/
theorem equalizers_in_step_iff {storage : Option EqualizerState} {start : Controller}
    (hcreate : create setup storage=some start) {trace : List Event} :
    Run (Conforming setup) start trace s ↔ Run (Guarded (Step setup) (Meets setup)) start trace s := by
  obtain rfl := create_eq_some hcreate
  refine Run.congr (Held setup) (held_construct setup storage) ?_ ?_
  · rintro t event _ hheld ⟨hmeets,rfl⟩
    exact ((conforming_spec hheld event).2 hmeets).2.2
  · intro t event u hheld
    constructor
    · rintro ⟨rfl,hsurvives,hhands,-⟩
      exact ⟨(conforming_spec hheld event).1 ⟨hsurvives,hhands⟩,rfl⟩
    · rintro ⟨hmeets,rfl⟩
      obtain ⟨hsurvives,hhands,hnext⟩ := (conforming_spec hheld event).2 hmeets
      exact ⟨rfl,hsurvives,hhands,hnext.given⟩

def narrow : Equalizer := ⟨0,-3,3⟩

def fresh : Controller := construct defaultSetup none

def limited : Controller := (fresh.registerEqualizer (some narrow)).setBandLevel defaultConfiguration .TREBLE 6

/-- The equalizer is given what it has, and the level survives. -/
theorem equalizers_in_step_narrow :
    Run (Conforming defaultSetup) fresh [.registerEqualizer (some narrow),.setBandLevel .TREBLE 6,.restart]
        (limited.restart defaultSetup) ∧ (limited.lastGiven narrow).bind (AList.lookup .TREBLE)=some 3 ∧
      (limited.restart defaultSetup).currentState.bandLevels.lookup .TREBLE=some 6 := by
  have hdefault : ∀ band,fresh.currentState.bandLevels.lookup band=some 0 := by
    intro band
    cases band <;> decide +kernel
  have hregister : Meets defaultSetup fresh (.registerEqualizer (some narrow)) := by
    intro registered hmem band old hold
    rw [hdefault band] at hold
    rw [←some.inj hmem,←some.inj hold]
    have hin : narrow.minimumBandLevel≤0 ∧ 0≤narrow.maximumBandLevel := by decide
    exact (limit_eq_self_iff (by decide)).mpr hin
  have hset : Meets defaultSetup (fresh.registerEqualizer (some narrow)) (.setBandLevel .TREBLE 6) := by
    intro equalizer hmem
    rw [mem_singleton.mp hmem]
    exact .inl (by decide)
  have hrestart : Meets defaultSetup limited .restart := .inr (by decide)
  have hguarded : Run (Guarded (Step defaultSetup) (Meets defaultSetup)) fresh
      ([]++[.registerEqualizer (some narrow)]++[.setBandLevel .TREBLE 6]++[.restart])
      (limited.restart defaultSetup) :=
    ((Run.refl.snoc ⟨hregister,rfl⟩).snoc ⟨hset,rfl⟩).snoc ⟨hrestart,rfl⟩
  have hlevels : (limited.lastGiven narrow).bind (AList.lookup .TREBLE)=some 3 ∧
      (limited.restart defaultSetup).currentState.bandLevels.lookup .TREBLE=some 6 := by
    decide +kernel
  exact ⟨(equalizers_in_step_iff (if_neg (by decide))).mpr hguarded,hlevels⟩

def nightSetup : Setup := ⟨{defaultConfiguration with modesSupported := [.NIGHT]},true⟩

def night : Controller := (construct nightSetup none).setCurrentMode nightSetup .NIGHT true

/-- A level is set, and the equalizer is registered. -/
def loud : Controller :=
  ((construct nightSetup none).setBandLevel nightSetup.configuration .TREBLE 6).registerEqualizer (some narrow)

/-- The mode is lost, and an equalizer has a level it was not given. -/
theorem mode_lost_and_level_not_limited : nightSetup.configuration.validateConfiguration=true ∧
      create nightSetup none=some (construct nightSetup none) ∧
      Run (Step nightSetup) (construct nightSetup none) [.setCurrentMode .NIGHT true] night ∧
      night.currentState.mode=.NIGHT ∧ (night.restart nightSetup).currentState.mode=.NONE ∧
      ¬Survives night .restart (night.restart nightSetup) ∧ Run (Step nightSetup) (construct nightSetup none)
        [.setBandLevel .TREBLE 6,.registerEqualizer (some narrow)] loud ∧
      (loud.lastGiven narrow).bind (AList.lookup .TREBLE)=some 6 ∧ ¬Given loud := by
  have hmode : night.currentState.mode=.NIGHT ∧ (night.restart nightSetup).currentState.mode=.NONE := by
    decide +kernel
  have hloud : loud.currentState.bandLevels.lookup .TREBLE=some 6 ∧
      (loud.lastGiven narrow).bind (AList.lookup .TREBLE)=some 6 := by
    decide +kernel
  have hnight : Run (Step nightSetup) (construct nightSetup none) ([]++[.setCurrentMode .NIGHT true]) night :=
    Run.refl.snoc rfl
  have hregistered : Run (Step nightSetup) (construct nightSetup none)
      ([]++[.setBandLevel .TREBLE 6]++[.registerEqualizer (some narrow)]) loud :=
    (Run.refl.snoc rfl).snoc rfl
  refine ⟨by decide,if_neg (by decide),hnight,hmode.1,hmode.2,fun hsurvives => ?_,hregistered,hloud.2,fun hgiven => ?_⟩
  · have hsame := (hsurvives rfl).1
    rw [hmode.1,hmode.2] at hsame
    cases hsame
  · obtain ⟨given,hlast,hlimited⟩ := hgiven narrow mem_cons_self
    have hlevel := hloud.2
    rw [hlast,bind_some,hlimited,hloud.1] at hlevel
    exact absurd hlevel (by decide)

end AlexaClientSDK.EqualizerController
