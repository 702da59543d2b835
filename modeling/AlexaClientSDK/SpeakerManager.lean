import Mathlib.Data.Int.Notation
import AlexaClientSDK.LabelledRuns
import AlexaClientSDK.RetryRounds

/-!
# The volumes of the speakers

Tasks ask the registered speakers of a type in turn, in up to three rounds, and then look whether the speakers agree. A
channel keeps the unducked volume and forwards it to its speaker, which plays at another one while ducked. A speaker may
refuse whatever it is asked. What others are told of the settings is left out.
-/

namespace AlexaClientSDK.SpeakerManager

open LabelledRuns RetryRounds

def AVS_SET_VOLUME_MIN : ℤ := 0

def AVS_SET_VOLUME_MAX : ℤ := 100

/-- The least change of a volume. -/
def AVS_ADJUST_VOLUME_MIN : ℤ := -100

/-- The greatest change of a volume. -/
def AVS_ADJUST_VOLUME_MAX : ℤ := 100

/-- What is stored of an integer in an `int8_t`. -/
def int8 (value : ℤ) : ℤ := (value+128)%256-128

/-- Both bounds belong to the range. -/
def withinBounds (value min max : ℤ) : Bool := !(decide (value < min) || decide (value > max))

structure SpeakerSettings where
  volume : ℤ
  mute : Bool
  deriving DecidableEq

/-- One that has no answer left accepts. -/
structure Speaker where
  settings : SpeakerSettings
  /-- Whether it accepts the changes to come. -/
  willing : List Bool
  /-- Whether it gives its settings when it is asked for them. -/
  answering : List Bool

/-- Its answer to a request that would change its settings. -/
def Speaker.change (s : Speaker) (settings : SpeakerSettings) : Bool × Speaker :=
  if s.willing.headD true then (true,{s with settings := settings,willing := s.willing.tail})
  else (false,{s with willing := s.willing.tail})

def Speaker.setVolume (s : Speaker) (volume : ℤ) : Bool × Speaker := s.change {s.settings with volume := volume}

/-- It is asked to change its mute state. -/
def Speaker.setMute (s : Speaker) (mute : Bool) : Bool × Speaker := s.change {s.settings with mute := mute}

def Speaker.getSpeakerSettings (s : Speaker) : Option SpeakerSettings × Speaker :=
  (if s.answering.headD true then some s.settings else none,{s with answering := s.answering.tail})

inductive SpeakerType
  | AVS_SPEAKER_VOLUME
  | AVS_ALERTS_VOLUME
  deriving DecidableEq

structure ChannelVolumeManager where
  m_speaker : Speaker
  /-- The speaker plays at the attenuated volume. -/
  m_isDucked : Bool
  /-- The volume it has while it is not ducked. -/
  m_unduckedVolume : ℤ
  m_type : SpeakerType
  m_volumeCurveFunction : ℤ → ℤ

def defaultVolumeAttenuateFunction (currentVolume : ℤ) : ℤ :=
  let lowerBreakPoint := 20
  let upperBreakPoint := 40
  if currentVolume ≥ upperBreakPoint then lowerBreakPoint
  else if currentVolume ≥ lowerBreakPoint ∧ currentVolume≤upperBreakPoint then currentVolume-lowerBreakPoint
  else AVS_SET_VOLUME_MIN

namespace ChannelVolumeManager

def getSpeakerSettings (c : ChannelVolumeManager) : Option SpeakerSettings × ChannelVolumeManager :=
  (c.m_speaker.getSpeakerSettings.1.map fun settings =>
      if c.m_isDucked then {settings with volume := c.m_unduckedVolume} else settings,
    {c with m_speaker := c.m_speaker.getSpeakerSettings.2})

def create (speaker : Speaker) (type : SpeakerType) (volumeCurve : Option (ℤ → ℤ)) : Option ChannelVolumeManager :=
  let channelVolumeManager : ChannelVolumeManager :=
    ⟨speaker,false,AVS_SET_VOLUME_MIN,type,volumeCurve.getD defaultVolumeAttenuateFunction⟩
  channelVolumeManager.getSpeakerSettings.1.map fun settings =>
    {channelVolumeManager.getSpeakerSettings.2 with m_unduckedVolume := settings.volume}

section

variable (c : ChannelVolumeManager)

/-- The speaker is attenuated. -/
def startDucking : Bool × ChannelVolumeManager :=
  if c.m_isDucked then (true,c)
  else
    let answer := c.m_speaker.setVolume (c.m_volumeCurveFunction c.m_unduckedVolume)
    (answer.1,{c with m_speaker := answer.2,m_isDucked := answer.1})

/-- The speaker gets its unducked volume back. -/
def stopDucking : Bool × ChannelVolumeManager :=
  if !c.m_isDucked then (true,c)
  else
    let answer := c.m_speaker.setVolume c.m_unduckedVolume
    (answer.1,{c with m_speaker := answer.2,m_isDucked := !answer.1})

/-- The unducked volume is kept before the speaker is asked. -/
def setUnduckedVolume (volume : ℤ) (c : ChannelVolumeManager) : Bool × ChannelVolumeManager :=
  if !withinBounds volume AVS_SET_VOLUME_MIN AVS_SET_VOLUME_MAX then (false,c)
  else if c.m_isDucked then (true,{c with m_unduckedVolume := volume})
  else
    let answer := c.m_speaker.setVolume volume
    (answer.1,{c with m_speaker := answer.2,m_unduckedVolume := volume})

/-- The mute state is forwarded to the speaker. -/
def setMute (mute : Bool) (c : ChannelVolumeManager) : Bool × ChannelVolumeManager :=
  let answer := c.m_speaker.setMute mute
  (answer.1,{c with m_speaker := answer.2})

/-- The volume that the settings of a channel show. -/
def shownVolume : ℤ :=
  if c.m_isDucked then c.m_unduckedVolume else c.m_speaker.settings.volume

end

end ChannelVolumeManager

structure Manager where
  /-- The channels of each type, in the order they were added. -/
  m_speakerMap : SpeakerType → List ChannelVolumeManager
  m_maximumVolumeLimit : ℤ
  /-- The volume that a silent speaker gets when it is unmuted. -/
  m_minUnmuteVolume : ℤ

namespace Manager

section

variable (m : Manager)

section

variable (type : SpeakerType)

def setSpeakers (channels : List ChannelVolumeManager) : Manager :=
  {m with m_speakerMap := fun other => if other=type then channels else m.m_speakerMap other}

/-- A channel gives the settings that the first one gave. -/
def sameSettings (comparator : SpeakerSettings) (c : ChannelVolumeManager) : Bool × ChannelVolumeManager :=
  (decide (c.getSpeakerSettings.1=some comparator),c.getSpeakerSettings.2)

def commonSettings : List ChannelVolumeManager → Option SpeakerSettings × List ChannelVolumeManager
  | [] => (none,[])
  | first::others =>
    if let some comparator := first.getSpeakerSettings.1 then
      (if (askAll (sameSettings comparator) others).1 then some comparator else none,
        first.getSpeakerSettings.2::(askAll (sameSettings comparator) others).2)
    else (none,first.getSpeakerSettings.2::others)

/-- The settings of a type, if all its channels give the same. -/
def validateSpeakerSettingsConsistency : Option SpeakerSettings × Manager :=
  ((commonSettings (m.m_speakerMap type)).1,m.setSpeakers type (commonSettings (m.m_speakerMap type)).2)

def executeGetSpeakerSettings : Option SpeakerSettings × Manager :=
  if (m.m_speakerMap type).isEmpty then (none,m) else m.validateSpeakerSettingsConsistency type

/-- Up to `DEFAULT_RETRY_TABLE.size()` rounds; `cancelled` says which of the waits between them are cancelled.
-/
def retryAndApplySettings
    (task : ChannelVolumeManager → Bool × ChannelVolumeManager) (cancelled : ℕ → Bool) : Manager :=
  m.setSpeakers type (retry (askAll task) cancelled 3 0 (m.m_speakerMap type))

/-- The unducked volume of a type is set, at most to the limit. -/
def executeSetVolume (volume : ℤ) (cancelled : ℕ → Bool) : Bool × Manager :=
  if (m.m_speakerMap type).isEmpty then (false,m)
  else
    let adjustedVolume := if volume > m.m_maximumVolumeLimit then m.m_maximumVolumeLimit else volume
    let got := m.executeGetSpeakerSettings type
    if got.1.isNone then (false,got.2)
    else
      let applied :=
        got.2.retryAndApplySettings type (ChannelVolumeManager.setUnduckedVolume adjustedVolume) cancelled
      let settled := applied.validateSpeakerSettingsConsistency type
      (settled.1.isSome,settled.2)

/-- A silent type gets the volume for unmuting. -/
def executeRestoreVolume (cancelled : ℕ → Bool) : Bool × Manager :=
  let got := m.validateSpeakerSettingsConsistency type
  if let some settings := got.1 then
    if settings.volume > 0 then (true,got.2)
    else got.2.executeSetVolume type (int8 got.2.m_minUnmuteVolume) cancelled
  else (false,got.2)

/-- The volume that `executeAdjustVolume` asks for. -/
def adjustedVolume (volume delta maxVolumeLimit : ℤ) : ℤ :=
  let volume := if volume > maxVolumeLimit then maxVolumeLimit else volume
  if delta > 0 then int8 (min (volume+delta) maxVolumeLimit) else int8 (max (volume+delta) AVS_SET_VOLUME_MIN)

/-- By an amount, at most to the limit. -/
def executeAdjustVolume (delta : ℤ) (cancelled : ℕ → Bool) : Bool × Manager :=
  if (m.m_speakerMap type).isEmpty then (false,m)
  else
    let got := m.executeGetSpeakerSettings type
    if let some settings := got.1 then
      let applied := got.2.retryAndApplySettings type
        (ChannelVolumeManager.setUnduckedVolume (adjustedVolume settings.volume delta m.m_maximumVolumeLimit)) cancelled
      let settled := applied.validateSpeakerSettingsConsistency type
      (settled.1.isSome,settled.2)
    else (false,got.2)

/-- Channels that agree that they are not mute are not unmuted. -/
def executeSetMute (mute : Bool) (cancelled : ℕ → Bool) : Bool × Manager :=
  let checked := if !mute then m.validateSpeakerSettingsConsistency type else (none,m)
  if checked.1.any (!·.mute) then (true,checked.2)
  else if (checked.2.m_speakerMap type).isEmpty then (false,checked.2)
  else
    let applied := checked.2.retryAndApplySettings type (ChannelVolumeManager.setMute mute) cancelled
    let settled := applied.validateSpeakerSettingsConsistency type
    (settled.1.isSome,settled.2)

end

end

/-- Types that are louder than a new limit are lowered to it. -/
def lowerTypes (maximumVolumeLimit : ℤ) (cancelled : SpeakerType → ℕ → Bool) :
    List SpeakerType → Manager → Bool × Manager
  | [],m => (true,m)
  | type::types,m =>
    if (m.m_speakerMap type).isEmpty then lowerTypes maximumVolumeLimit cancelled types m
    else
      let got := m.executeGetSpeakerSettings type
      if let some settings := got.1 then
        if settings.volume > maximumVolumeLimit then
          let lowered := got.2.executeSetVolume type maximumVolumeLimit (cancelled type)
          if lowered.1 then lowerTypes maximumVolumeLimit cancelled types lowered.2 else (false,lowered.2)
        else lowerTypes maximumVolumeLimit cancelled types got.2
      else (false,got.2)

/-- The limit is set once no type is louder. -/
def executeSetMaximumVolumeLimit (m : Manager) (maximumVolumeLimit : ℤ) (cancelled : SpeakerType → ℕ → Bool) :
    Bool × Manager :=
  let lowered := lowerTypes maximumVolumeLimit cancelled [.AVS_SPEAKER_VOLUME,.AVS_ALERTS_VOLUME] m
  if lowered.1 then (true,{lowered.2 with m_maximumVolumeLimit := maximumVolumeLimit}) else (false,lowered.2)

/-- A channel is added to those of its type. -/
def insert (m : Manager) (c : ChannelVolumeManager) : Manager :=
  m.setSpeakers c.m_type (m.m_speakerMap c.m_type++[c])

/-- It adds channels and looks whether the speakers agree. -/
def construct (groupVolumeInterfaces : List ChannelVolumeManager) (minUnmuteVolume : ℤ) : Manager :=
  let m := groupVolumeInterfaces.foldl insert ⟨fun _ => [],AVS_SET_VOLUME_MAX,minUnmuteVolume⟩
  if (m.m_speakerMap .AVS_SPEAKER_VOLUME).isEmpty then m
  else (m.validateSpeakerSettingsConsistency .AVS_SPEAKER_VOLUME).2

section

variable (m)

/-- The task of a request for a volume. -/
def setVolume (type : SpeakerType) (volume : ℤ) (cancelled : ℕ → Bool) : Bool × Manager :=
  if withinBounds volume AVS_SET_VOLUME_MIN AVS_SET_VOLUME_MAX then m.executeSetVolume type volume cancelled
  else (false,m)

/-- The task of a request for a change of a volume. -/
def adjustVolume (type : SpeakerType) (delta : ℤ) (cancelled : ℕ → Bool) : Bool × Manager :=
  if withinBounds delta AVS_ADJUST_VOLUME_MIN m.m_maximumVolumeLimit then m.executeAdjustVolume type delta cancelled
  else (false,m)

/-- The task of a request for another limit. -/
def setMaximumVolumeLimit (maximumVolumeLimit : ℤ) (cancelled : SpeakerType → ℕ → Bool) : Bool × Manager :=
  if withinBounds maximumVolumeLimit AVS_ADJUST_VOLUME_MIN AVS_ADJUST_VOLUME_MAX then
    m.executeSetMaximumVolumeLimit maximumVolumeLimit cancelled
  else (false,m)

/-- What is retrieved of payloads with `AVS_SPEAKER_VOLUME`. -/
inductive Directive
  | SetVolume (volume : Option ℤ)
  | AdjustVolume (delta : Option ℤ)
  | SetMute (mute : Option Bool)

/-- A second request is made if the first was met. -/
def andThen (first : Bool × Manager) (second : Manager → Bool × Manager) : Bool × Manager :=
  if first.1 then second first.2 else first

/-- The task of a directive, with the waits that are cancelled. -/
def handleDirective (directive : Directive) (muteCancelled volumeCancelled : ℕ → Bool) : Bool × Manager :=
  let type := SpeakerType.AVS_SPEAKER_VOLUME
  match directive with
  | .SetVolume (some volume) =>
    if !withinBounds volume AVS_SET_VOLUME_MIN AVS_SET_VOLUME_MAX then (false,m)
    else if (m.m_speakerMap type).isEmpty then (true,m)
    else
      andThen (m.executeSetMute type false muteCancelled) fun m => m.executeSetVolume type (int8 volume) volumeCancelled
  | .AdjustVolume (some delta) =>
    if !withinBounds delta AVS_ADJUST_VOLUME_MIN AVS_ADJUST_VOLUME_MAX then (false,m)
    else if (m.m_speakerMap type).isEmpty then (true,m)
    else
      andThen (m.executeSetMute type false muteCancelled) fun m => m.executeAdjustVolume type (int8 delta) volumeCancelled
  | .SetMute (some mute) =>
    if (m.m_speakerMap type).isEmpty then (true,m)
    else
      let restored := if !mute then m.executeRestoreVolume type volumeCancelled else (true,m)
      let muted := restored.2.executeSetMute type mute muteCancelled
      (restored.1 && muted.1,muted.2)
  | .SetVolume none | .AdjustVolume none | .SetMute none => (false,m)

end

end Manager

/-- What happens: tasks of the executor, and other threads that duck a channel. -/
inductive Event
  | setVolume (type : SpeakerType) (volume : ℤ) (cancelled : ℕ → Bool)
  | adjustVolume (type : SpeakerType) (delta : ℤ) (cancelled : ℕ → Bool)
  | setMute (type : SpeakerType) (mute : Bool) (cancelled : ℕ → Bool)
  | setMaximumVolumeLimit (maximumVolumeLimit : ℤ) (cancelled : SpeakerType → ℕ → Bool)
  | getSpeakerSettings (type : SpeakerType)
  | addChannelVolumeInterface (channel : ChannelVolumeManager)
  | handleDirective (directive : Manager.Directive) (muteCancelled volumeCancelled : ℕ → Bool)
  | startDucking (type : SpeakerType) (index : ℕ)
  | stopDucking (type : SpeakerType) (index : ℕ)

/-- The state after an event. -/
def Manager.next (m : Manager) : Event → Manager
  | .setVolume type volume cancelled => (m.setVolume type volume cancelled).2
  | .adjustVolume type delta cancelled => (m.adjustVolume type delta cancelled).2
  | .setMute type mute cancelled => (m.executeSetMute type mute cancelled).2
  | .setMaximumVolumeLimit maximumVolumeLimit cancelled => (m.setMaximumVolumeLimit maximumVolumeLimit cancelled).2
  | .getSpeakerSettings type => (m.executeGetSpeakerSettings type).2
  | .addChannelVolumeInterface channel => m.insert channel
  | .handleDirective directive muteCancelled volumeCancelled =>
    (m.handleDirective directive muteCancelled volumeCancelled).2
  | .startDucking type index =>
    m.setSpeakers type ((m.m_speakerMap type).modify index fun c => c.startDucking.2)
  | .stopDucking type index =>
    m.setSpeakers type ((m.m_speakerMap type).modify index fun c => c.stopDucking.2)

def Step (m : Manager) (event : Event) (after : Manager) : Prop := after=m.next event

end AlexaClientSDK.SpeakerManager
