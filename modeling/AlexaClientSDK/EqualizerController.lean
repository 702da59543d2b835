import Mathlib.Algebra.Group.Int.Defs
import Mathlib.Algebra.Group.Nat.Defs
import Mathlib.Order.Lattice
import Mathlib.Data.List.AList
import AlexaClientSDK.LabelledRuns

/-!
# `EqualizerController`

The controller keeps the levels of the bands and a mode. It starts from its storage, changes both as it is asked to, and
then saves them and hands the levels to every registered equalizer. The configuration says which bands and modes there
are, which levels they may have and what they are at first. A set is a list of its elements.
-/

namespace AlexaClientSDK.EqualizerController

inductive EqualizerBand
  | BASS
  | MIDRANGE
  | TREBLE
deriving DecidableEq

inductive EqualizerMode
  | NONE
  | MOVIE
  | MUSIC
  | NIGHT
  | SPORT
  | TV
deriving DecidableEq

/-- A level for some of the bands. -/
abbrev EqualizerBandLevelMap := AList fun _ : EqualizerBand => ℤ

structure EqualizerState where
  mode : EqualizerMode
  bandLevels : EqualizerBandLevelMap

/-- The bands, modes and levels that there are. -/
structure InMemoryEqualizerConfiguration where
  minBandLevel : ℤ
  maxBandLevel : ℤ
  defaultDelta : ℤ
  bandsSupported : List EqualizerBand
  modesSupported : List EqualizerMode
  defaultState : EqualizerState
  isEnabled : Bool

namespace InMemoryEqualizerConfiguration

section

variable (configuration : InMemoryEqualizerConfiguration)

/-- A disabled configuration supports no band. -/
def isBandSupported (band : EqualizerBand) : Bool :=
  if !configuration.isEnabled then false else decide (band∈configuration.bandsSupported)

/-- A disabled configuration supports no mode. -/
def isModeSupported (mode : EqualizerMode) : Bool :=
  if !configuration.isEnabled then false else decide (mode∈configuration.modesSupported)

/-- All the bands are supported, and their levels in range where this is asked for. -/
def validateBandLevelMap (bandLevelMap : EqualizerBandLevelMap) (validateValues : Bool) : Bool :=
  if !configuration.isEnabled then false
  else
    bandLevelMap.entries.foldl (fun isValid entry =>
      let bandLevel := entry.2
      if !configuration.isBandSupported entry.1 then false
      else if validateValues &&
          (decide (bandLevel<configuration.minBandLevel) || decide (bandLevel > configuration.maxBandLevel)) then false
      else isValid) true

/-- The range, the default change and the default state fit together. -/
def validateConfiguration : Bool :=
  if !configuration.isEnabled then false
  else
    let areBandExtremumsValid := !decide (configuration.maxBandLevel<configuration.minBandLevel)
    let isValid := areBandExtremumsValid
    let isValid := if configuration.defaultDelta=0 then false else isValid
    let isValid :=
      configuration.validateBandLevelMap configuration.defaultState.bandLevels areBandExtremumsValid && isValid
    if configuration.defaultState.mode≠.NONE ∧ configuration.isModeSupported configuration.defaultState.mode=false then
      false
    else isValid

end

/-- `create`; the constructor erases the mode `NONE`. -/
def create (minBandLevel maxBandLevel defaultDelta : ℤ) (bandsSupported : List EqualizerBand)
    (modesSupported : List EqualizerMode) (defaultState : EqualizerState) : Option InMemoryEqualizerConfiguration :=
  let configuration : InMemoryEqualizerConfiguration := {
    minBandLevel := minBandLevel
    maxBandLevel := maxBandLevel
    defaultDelta := defaultDelta
    bandsSupported := bandsSupported
    modesSupported := modesSupported.filter fun mode => mode≠.NONE
    defaultState := defaultState
    isEnabled := true}
  if !configuration.validateConfiguration then none else some configuration

/-- The configuration where none is given. -/
def createDefault : Option InMemoryEqualizerConfiguration :=
  create (-6) 6 1 [.BASS,.MIDRANGE,.TREBLE] []
    ⟨.NONE,(((∅ : EqualizerBandLevelMap).insert .TREBLE 0).insert .MIDRANGE 0).insert .BASS 0⟩

end InMemoryEqualizerConfiguration

structure Equalizer where
  id : ℕ
  minimumBandLevel : ℤ
  maximumBandLevel : ℤ
deriving DecidableEq

/-- An `EqualizerControllerListenerInterface`. -/
abbrev Listener := ℕ

/-- What a controller is created with. -/
structure Setup where
  configuration : InMemoryEqualizerConfiguration
  hasModeController : Bool

/-- An `EqualizerController`, its storage and what it has told others. -/
structure Controller where
  currentState : EqualizerState
  equalizers : List Equalizer
  listeners : List Listener
  storage : Option EqualizerState
  calls : List (Equalizer × EqualizerBandLevelMap)
  /-- The calls of `onEqualizerStateChanged` and `onEqualizerSameStateChanged`. -/
  notices : List (Listener × Bool × EqualizerState)

section

variable (configuration : InMemoryEqualizerConfiguration)

/-- The stored levels of the default bands; the mode is not taken over. -/
def loadState (loadedStateResult : Option EqualizerState) : EqualizerState :=
  let defaultState := configuration.defaultState
  match loadedStateResult with
  | none => defaultState
  | some loadedState =>
    ⟨.NONE,defaultState.bandLevels.entries.foldl (fun bandLevels entry =>
      bandLevels.insert entry.1 ((loadedState.bandLevels.lookup entry.1).getD entry.2)) ∅⟩

/-- A controller begins with what its storage has. -/
def construct (setup : Setup) (storage : Option EqualizerState) : Controller where
  currentState := loadState setup.configuration storage
  equalizers := []
  listeners := []
  storage := storage
  calls := []
  notices := []

def create (setup : Setup) (storage : Option EqualizerState) : Option Controller :=
  if setup.hasModeController=false ∧ setup.configuration.modesSupported≠[] then none
  else some (construct setup storage)

/-- The next level in the configured range. -/
def truncateBandLevel (level : ℤ) : ℤ :=
  let maxLevel := configuration.maxBandLevel
  let minLevel := configuration.minBandLevel
  if level > maxLevel then maxLevel else if level < minLevel then minLevel else level

end

/-- The sum of two `int`s, which wraps around. -/
def addInt (originalValue changeValue : ℤ) : ℤ := (originalValue+changeValue).bmod (2^32)

section

variable (equalizer : Equalizer)

/-- The next level that the equalizer can take. -/
def Equalizer.limit (level : ℤ) : ℤ :=
  min (max level equalizer.minimumBandLevel) equalizer.maximumBandLevel

/-- The range of the equalizer does not cover the configured one. -/
def Equalizer.isNarrower (configuration : InMemoryEqualizerConfiguration) : Bool :=
  decide (equalizer.maximumBandLevel<configuration.maxBandLevel) ||
    decide (equalizer.minimumBandLevel > configuration.minBandLevel)

/-- What `updateState` hands to an equalizer. -/
def Equalizer.levelsGiven (configuration : InMemoryEqualizerConfiguration)
    (current : EqualizerBandLevelMap) : EqualizerBandLevelMap :=
  if equalizer.isNarrower configuration then
    current.entries.foldl (fun bandLevels entry => bandLevels.insert entry.1 (equalizer.limit entry.2)) ∅
  else current

end

/-- What a loop over bands has made of the levels. -/
structure Changes where
  bandLevels : EqualizerBandLevelMap
  hasChanges : Bool
  hasInvalidBands : Bool

/-- One pass of the loop, which leaves out a band without a level. -/
def Changes.pass (changes : Changes) (band : EqualizerBand) (operation : ℤ → ℤ) : Changes :=
  match changes.bandLevels.lookup band with
  | some originalValue =>
    let newValue := operation originalValue
    if newValue≠originalValue then
      {changes with bandLevels := changes.bandLevels.insert band newValue,hasChanges := true}
    else changes
  | none => {changes with hasInvalidBands := true}

namespace Controller

section

variable (s : Controller)

/-- The listeners are told the state, changed or the same. -/
def notifyListenersOnStateChanged (changed : Bool) : Controller :=
  {s with notices := s.notices++s.listeners.map fun listener => (listener,changed,s.currentState)}

section

variable (configuration : InMemoryEqualizerConfiguration)

/-- The state is saved, and handed to the equalizers and the listeners. -/
def updateState (s : Controller) : Controller :=
  {s with
    storage := some s.currentState
    calls := s.calls++s.equalizers.map fun equalizer : Equalizer =>
      (equalizer,equalizer.levelsGiven configuration s.currentState.bandLevels)
  }.notifyListenersOnStateChanged true

/-- One band is set to the level in range. -/
def setBandLevel (s : Controller) (band : EqualizerBand) (level : ℤ) : Controller :=
  let level := truncateBandLevel configuration level
  match s.currentState.bandLevels.lookup band with
  | some current =>
    if current=level then s.notifyListenersOnStateChanged false
    else
      {s with currentState.bandLevels := s.currentState.bandLevels.insert band level}.updateState configuration
  | none => s

/-- What follows the loop over the bands. -/
def applied (s : Controller) (changes : Changes) : Controller :=
  let s := {s with currentState.bandLevels := changes.bandLevels}
  if changes.hasChanges then s.updateState configuration
  else if changes.hasInvalidBands then s
  else s.notifyListenersOnStateChanged false

/-- Every band of the map is changed by the operation. -/
def applyChangesToCurrentState (s : Controller)
    (changesDataMap : EqualizerBandLevelMap) (operation : ℤ → ℤ → ℤ) : Controller :=
  s.applied configuration (changesDataMap.entries.foldl
    (fun changes entry => changes.pass entry.1 fun originalValue => operation originalValue entry.2)
    ⟨s.currentState.bandLevels,false,false⟩)

/-- The levels are set as they are given. -/
def setBandLevels (s : Controller) (bandLevelMap : EqualizerBandLevelMap) : Controller :=
  s.applyChangesToCurrentState configuration bandLevelMap fun _ changeValue => changeValue

/-- The levels are moved within the range. -/
def adjustBandLevels (s : Controller) (bandAdjustmentMap : EqualizerBandLevelMap) : Controller :=
  s.applyChangesToCurrentState configuration bandAdjustmentMap fun originalValue changeValue =>
    truncateBandLevel configuration (addInt originalValue changeValue)

/-- The configured level of a band. -/
def defaultLevel (band : EqualizerBand) : ℤ :=
  (configuration.defaultState.bandLevels.lookup band).getD 0

/-- The bands get their configured levels. -/
def resetBands (s : Controller) (bands : List EqualizerBand) : Controller :=
  s.applied configuration (bands.foldl (fun changes band => changes.pass band fun _ => defaultLevel configuration band)
    ⟨s.currentState.bandLevels,false,false⟩)

end

/-- A supported mode is taken over once the mode controller accepts it. -/
def setCurrentMode (setup : Setup) (s : Controller) (mode : EqualizerMode) (accepted : Bool) : Controller :=
  if setup.configuration.isModeSupported mode=false then s
  else if setup.hasModeController=false then s
  else if s.currentState.mode=mode then s
  else if accepted=false then s
  else {s with currentState.mode := mode}.updateState setup.configuration

/-- A new equalizer gets the levels, whatever its range. -/
def registerEqualizer : Option Equalizer → Controller
  | none => s
  | some equalizer =>
    {s with
      equalizers := s.equalizers++[equalizer]
      calls := s.calls++[(equalizer,s.currentState.bandLevels)]}

def unregisterEqualizer : Option Equalizer → Controller
  | none => s
  | some equalizer => {s with equalizers := s.equalizers.erase equalizer}

def addListener : Option Listener → Controller
  | none => s
  | some listener => {s with listeners := s.listeners++[listener]}

def removeListener : Option Listener → Controller
  | none => s
  | some listener => {s with listeners := s.listeners.erase listener}

end

/-- A new controller is created over the same configuration and storage. -/
def restart (setup : Setup) (s : Controller) : Controller :=
  {construct setup s.storage with calls := s.calls,notices := s.notices}

end Controller

inductive Event
  | setBandLevel (band : EqualizerBand) (level : ℤ)
  | setBandLevels (bandLevelMap : EqualizerBandLevelMap)
  | adjustBandLevels (bandAdjustmentMap : EqualizerBandLevelMap)
  | resetBands (bands : List EqualizerBand)
  | setCurrentMode (mode : EqualizerMode) (accepted : Bool)
  | registerEqualizer (equalizer : Option Equalizer)
  | unregisterEqualizer (equalizer : Option Equalizer)
  | addListener (listener : Option Listener)
  | removeListener (listener : Option Listener)
  /-- A new controller takes its place. -/
  | restart

/-- What becomes of the controller. -/
def Controller.next (setup : Setup) (s : Controller) : Event → Controller
  | .setBandLevel band level => s.setBandLevel setup.configuration band level
  | .setBandLevels bandLevelMap => s.setBandLevels setup.configuration bandLevelMap
  | .adjustBandLevels bandAdjustmentMap => s.adjustBandLevels setup.configuration bandAdjustmentMap
  | .resetBands bands => s.resetBands setup.configuration bands
  | .setCurrentMode mode accepted => s.setCurrentMode setup mode accepted
  | .registerEqualizer equalizer => s.registerEqualizer equalizer
  | .unregisterEqualizer equalizer => s.unregisterEqualizer equalizer
  | .addListener listener => s.addListener listener
  | .removeListener listener => s.removeListener listener
  | .restart => s.restart setup

def Step (setup : Setup) (s : Controller) (event : Event) (t : Controller) : Prop := t=s.next setup event

/-- A controller that is created is the constructed one. -/
theorem create_eq_some {setup : Setup} {storage : Option EqualizerState} {s : Controller}
    (h : create setup storage=some s) : s=construct setup storage := by
  unfold create at h
  split at h
  · cases h
  · exact (Option.some.inj h).symm

end AlexaClientSDK.EqualizerController
