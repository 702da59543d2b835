import AlexaClientSDK.EqualizerOperations

/-!
# The levels of an equalizer

`setBandLevel` and `adjustBandLevels` truncate what they set, and default levels are in range where the configuration is
valid. `setBandLevels` sets what it is given, and levels in the storage are taken over. The bands are those of the
default state.
-/

namespace AlexaClientSDK.EqualizerController

open Option LabelledRuns InMemoryEqualizerConfiguration

variable {configuration : InMemoryEqualizerConfiguration} {setup : Setup} {s : Controller}

/-- A level is between the minimum and the maximum. -/
def Within (configuration : InMemoryEqualizerConfiguration) (level : ℤ) : Prop :=
  configuration.minBandLevel≤level ∧ level≤configuration.maxBandLevel

instance (configuration : InMemoryEqualizerConfiguration) (level : ℤ) : Decidable (Within configuration level) :=
  inferInstanceAs (Decidable (_ ∧ _))

section

variable (configuration)

/-- Only supported bands occur, with levels between the bounds. -/
def InRange (state : EqualizerState) : Prop :=
  ∀ band level,state.bandLevels.lookup band=some level → band∈configuration.bandsSupported ∧ Within configuration level

/-- Whatever a map says of the bands of the configuration is in range. -/
def MapWithin (bandLevelMap : EqualizerBandLevelMap) : Prop :=
  ∀ band level,(configuration.defaultState.bandLevels.lookup band).isSome=true →
    bandLevelMap.lookup band=some level → Within configuration level

/-- The levels found in the storage are in range. -/
def StoredWithin (storage : Option EqualizerState) : Prop :=
  ∀ loaded∈storage,MapWithin configuration loaded.bandLevels

/-- So are those that `setBandLevels` is given. -/
def SetsWithin : Event → Prop
  | .setBandLevels bandLevelMap => MapWithin configuration bandLevelMap
  | .setBandLevel _ _ | .adjustBandLevels _ | .resetBands _ | .setCurrentMode _ _ | .registerEqualizer _
  | .unregisterEqualizer _ | .addListener _ | .removeListener _ | .restart => True

end

theorem foldl_isValid {α : Type} {pass : Bool → α → Bool} {good : α → Bool}
    (hpass : ∀ isValid item,pass isValid item=(good item && isValid)) (items : List α) (isValid : Bool) :
    items.foldl pass isValid=(items.all good && isValid) := by
  induction items generalizing isValid with
  | nil => exact (Bool.true_and isValid).symm
  | cons item items ih =>
    rw [List.foldl_cons,ih,hpass,List.all_cons,Bool.and_comm (good item) (items.all good),Bool.and_assoc]

theorem validateBandLevelMap_eq (henabled : configuration.isEnabled=true) (bandLevelMap : EqualizerBandLevelMap) :
    configuration.validateBandLevelMap bandLevelMap true = (bandLevelMap.entries.all fun entry =>
        decide (entry.1∈configuration.bandsSupported) && decide (Within configuration entry.2)) := by
  unfold validateBandLevelMap
  rw [henabled,Bool.not_true,if_neg Bool.false_ne_true]
  refine (foldl_isValid (fun isValid entry => ?_) _ true).trans (Bool.and_true _)
  unfold isBandSupported
  rw [henabled,Bool.not_true,if_neg Bool.false_ne_true]
  by_cases hband : entry.1∈configuration.bandsSupported
  · rw [decide_eq_true hband,Bool.not_true,if_neg Bool.false_ne_true,Bool.true_and,Bool.true_and]
    by_cases hwithin : Within configuration entry.2
    · rw [decide_eq_true hwithin,Bool.true_and,if_neg]
      rw [Bool.or_eq_true,decide_eq_true_iff,decide_eq_true_iff]
      rintro (hless|hmore)
      · exact absurd hwithin.1 (Int.not_le.mpr hless)
      · exact absurd hwithin.2 (Int.not_le.mpr hmore)
    · rw [decide_eq_false hwithin,Bool.false_and,if_pos]
      rw [Bool.or_eq_true,decide_eq_true_iff,decide_eq_true_iff]
      by_contra hneither
      obtain ⟨hless,hmore⟩ := not_or.mp hneither
      exact hwithin ⟨Int.not_lt.mp hless,Int.not_lt.mp hmore⟩
  · rw [decide_eq_false hband]
    rfl

structure Valid (configuration : InMemoryEqualizerConfiguration) : Prop where
  extremums : configuration.minBandLevel≤configuration.maxBandLevel
  defaults : InRange configuration configuration.defaultState

theorem valid_of_validateConfiguration (h : configuration.validateConfiguration=true) : Valid configuration := by
  unfold validateConfiguration at h
  cases henabled : configuration.isEnabled with
  | false =>
    rw [henabled] at h
    cases h
  | true =>
    rw [henabled,Bool.not_true,if_neg Bool.false_ne_true] at h
    dsimp only at h
    split at h
    · cases h
    · obtain ⟨hmap,hrest⟩ := Bool.and_eq_true_iff.mp h
      have hextremums : ¬configuration.maxBandLevel<configuration.minBandLevel := by
        split at hrest
        · cases hrest
        · exact of_decide_eq_false ((Bool.not_eq_true' _).mp hrest)
      rw [decide_eq_false hextremums,Bool.not_false,validateBandLevelMap_eq henabled] at hmap
      refine ⟨Int.not_lt.mp hextremums,fun band level hlevel => ?_⟩
      have hentry := List.all_eq_true.mp hmap ⟨band,level⟩ (AList.mem_lookup_iff.mp hlevel)
      obtain ⟨hband,hwithin⟩ := Bool.and_eq_true_iff.mp hentry
      exact ⟨of_decide_eq_true hband,of_decide_eq_true hwithin⟩

theorem within_truncateBandLevel (hvalid : Valid configuration) (level : ℤ) :
    Within configuration (truncateBandLevel configuration level) := by
  have hextremums := hvalid.extremums
  unfold truncateBandLevel Within
  dsimp only
  split
  · exact ⟨hextremums,Int.le_refl _⟩
  · split <;> omega

/-- In range if the old one was and `setBandLevels` is given such levels. -/
theorem within_newLevel (hvalid : Valid configuration) {event : Event} (hsets : SetsWithin configuration event)
    {band : EqualizerBand} {level : ℤ} (hband : (configuration.defaultState.bandLevels.lookup band).isSome=true)
    (hlevel : Within configuration level) : Within configuration (newLevel configuration event band level) := by
  unfold newLevel
  cases event with
  | setBandLevel other new =>
    dsimp only
    split
    · exact within_truncateBandLevel hvalid new
    · exact hlevel
  | setBandLevels bandLevelMap =>
    dsimp only
    cases hnew : bandLevelMap.lookup band with
    | none => exact hlevel
    | some new => exact hsets band new hband hnew
  | adjustBandLevels bandAdjustmentMap =>
    dsimp only
    cases bandAdjustmentMap.lookup band with
    | none => exact hlevel
    | some => exact within_truncateBandLevel hvalid _
  | resetBands =>
    dsimp only
    split
    · obtain ⟨default,hdefault⟩ := isSome_iff_exists.mp hband
      unfold Controller.defaultLevel
      rw [hdefault]
      exact (hvalid.defaults band default hdefault).2
    · exact hlevel
  | setCurrentMode => exact hlevel
  | registerEqualizer => exact hlevel
  | unregisterEqualizer => exact hlevel
  | addListener => exact hlevel
  | removeListener => exact hlevel
  | restart => exact hlevel

/-- In range after an event just if `setBandLevels` is given such levels. -/
theorem inRange_next_iff (hvalid : Valid setup.configuration) (hkept : Kept setup.configuration s)
    (hrange : InRange setup.configuration s.currentState) (event : Event) :
    InRange setup.configuration (s.next setup event).currentState ↔ SetsWithin setup.configuration event := by
  constructor
  · intro hnext
    cases event with
    | setBandLevels =>
      intro band level hband hlevel
      rw [←hkept.bands band,isSome_iff_exists] at hband
      obtain ⟨old,hold⟩ := hband
      refine (hnext band level ?_).2
      rw [lookup_next hkept,hold,map_some]
      unfold newLevel
      dsimp only
      rw [hlevel]
      rfl
    | setBandLevel => trivial
    | adjustBandLevels => trivial
    | resetBands => trivial
    | setCurrentMode => trivial
    | registerEqualizer => trivial
    | unregisterEqualizer => trivial
    | addListener => trivial
    | removeListener => trivial
    | restart => trivial
  · intro hsets band level hlevel
    rw [lookup_next hkept,map_eq_some_iff] at hlevel
    obtain ⟨old,hold,rfl⟩ := hlevel
    obtain ⟨hsupported,hwithin⟩ := hrange band old hold
    refine ⟨hsupported,within_newLevel hvalid hsets ?_ hwithin⟩
    rw [←hkept.bands band,hold]
    rfl

/-- A new controller has levels in range just if it finds levels in range. -/
theorem inRange_construct_iff (hvalid : Valid setup.configuration) (storage : Option EqualizerState) :
    InRange setup.configuration (construct setup storage).currentState ↔ StoredWithin setup.configuration storage := by
  have hlookup : ∀ band,(construct setup storage).currentState.bandLevels.lookup band=_ :=
    fun band => @lookup_loadState setup.configuration storage band
  constructor
  · rintro hrange loaded rfl band level hband hlevel
    obtain ⟨default,hdefault⟩ := isSome_iff_exists.mp hband
    refine (hrange band level ?_).2
    rw [hlookup,hdefault,map_some,bind_some,hlevel,getD_some]
  · intro hstored band level hlevel
    rw [hlookup,map_eq_some_iff] at hlevel
    obtain ⟨default,hdefault,rfl⟩ := hlevel
    obtain ⟨hsupported,hwithin⟩ := hvalid.defaults band default hdefault
    refine ⟨hsupported,?_⟩
    cases hfound : storage.bind fun loaded => loaded.bandLevels.lookup band with
    | none => exact hwithin
    | some found =>
      obtain ⟨loaded,hloaded,hlevel⟩ := bind_eq_some_iff.mp hfound
      refine hstored loaded hloaded band found ?_ hlevel
      rw [hdefault]
      rfl

/-- The levels are in range in every state of a run just if what is found in the storage and everything that
`setBandLevels` is given are. -/
theorem levels_in_range_iff (hvalid : setup.configuration.validateConfiguration=true) {storage : Option EqualizerState}
    {start : Controller} (hcreate : create setup storage=some start) {trace : List Event} :
    InRange setup.configuration start.currentState ∧
        Run (Keeping (Step setup) fun t => InRange setup.configuration t.currentState) start trace s ↔
      StoredWithin setup.configuration storage ∧
        Run (Guarded (Step setup) fun _ event => SetsWithin setup.configuration event) start trace s := by
  obtain rfl := create_eq_some hcreate
  have hconfiguration := valid_of_validateConfiguration hvalid
  rw [inRange_construct_iff hconfiguration storage]
  refine and_congr_right fun hstored => ?_
  refine Run.keeping_iff (fun t => Kept setup.configuration t ∧ InRange setup.configuration t.currentState)
    ⟨kept_construct setup storage,(inRange_construct_iff hconfiguration storage).mpr hstored⟩ ?_ ?_
  · rintro t event _ ⟨hkept,hrange⟩ rfl hsets
    exact ⟨kept_next hkept event,(inRange_next_iff hconfiguration hkept hrange event).mpr hsets⟩
  · rintro t event _ ⟨hkept,hrange⟩ rfl
    exact inRange_next_iff hconfiguration hkept hrange event

def defaultConfiguration : InMemoryEqualizerConfiguration where
  minBandLevel := -6
  maxBandLevel := 6
  defaultDelta := 1
  bandsSupported := [.BASS,.MIDRANGE,.TREBLE]
  modesSupported := []
  defaultState :=
    ⟨.NONE,(((∅ : EqualizerBandLevelMap).insert .TREBLE 0).insert .MIDRANGE 0).insert .BASS 0⟩
  isEnabled := true

theorem createDefault_eq : InMemoryEqualizerConfiguration.createDefault=some defaultConfiguration := by
  unfold InMemoryEqualizerConfiguration.createDefault InMemoryEqualizerConfiguration.create
  exact if_neg (by decide)

/-- There is no mode controller. -/
def defaultSetup : Setup := ⟨defaultConfiguration,false⟩

def treble (level : ℤ) : EqualizerBandLevelMap := (∅ : EqualizerBandLevelMap).insert .TREBLE level

theorem mapWithin_treble {level : ℤ} (h : Within configuration level) : MapWithin configuration (treble level) := by
  unfold treble
  intro band other _ hlookup
  by_cases hband : band=.TREBLE
  · rw [hband,AList.lookup_insert] at hlookup
    rw [←some.inj hlookup]
    exact h
  · rw [AList.lookup_insert_ne hband,AList.lookup_empty] at hlookup
    cases hlookup

/-- What is set is in range, and what is adjusted is truncated. -/
theorem levels_in_range_treble : Run (Keeping (Step defaultSetup) fun t => InRange defaultConfiguration t.currentState)
      (construct defaultSetup (some ⟨.NONE,treble 6⟩))
      [.setBandLevels (treble (-6)),.adjustBandLevels (treble (-100))]
      (((construct defaultSetup (some ⟨.NONE,treble 6⟩)).next defaultSetup (.setBandLevels (treble (-6)))).next
        defaultSetup (.adjustBandLevels (treble (-100)))) := by
  have hstored : StoredWithin defaultConfiguration (some ⟨.NONE,treble 6⟩) := by
    rintro loaded hloaded
    rw [←some.inj hloaded]
    exact mapWithin_treble (by decide)
  have hsets : MapWithin defaultConfiguration (treble (-6)) := mapWithin_treble (by decide)
  have hguarded : Run (Guarded (Step defaultSetup) fun _ event => SetsWithin defaultSetup.configuration event)
      (construct defaultSetup (some ⟨.NONE,treble 6⟩))
      ([]++[.setBandLevels (treble (-6))]++[.adjustBandLevels (treble (-100))]) _ :=
    (Run.refl.snoc ⟨hsets,rfl⟩).snoc ⟨trivial,rfl⟩
  have hvalid : defaultSetup.configuration.validateConfiguration=true := by decide
  exact ((levels_in_range_iff hvalid (if_neg (by decide))).mpr ⟨hstored,hguarded⟩).2

/-- `setBandLevels` sets what it is given. -/
theorem setBandLevels_out_of_range : createDefault=some defaultSetup.configuration ∧
      create defaultSetup none=some (construct defaultSetup none) ∧
      ((construct defaultSetup none).next defaultSetup (.setBandLevels (treble 100))).currentState.bandLevels.lookup
        .TREBLE=some 100 ∧ ¬InRange defaultSetup.configuration
        ((construct defaultSetup none).next defaultSetup (.setBandLevels (treble 100))).currentState := by
  have hlookup : ((construct defaultSetup none).next defaultSetup
      (.setBandLevels (treble 100))).currentState.bandLevels.lookup .TREBLE=some 100 := by
    decide +kernel
  refine ⟨createDefault_eq,if_neg (by decide),hlookup,fun hrange => ?_⟩
  exact absurd (hrange .TREBLE 100 hlookup).2 (by decide)

end AlexaClientSDK.EqualizerController
