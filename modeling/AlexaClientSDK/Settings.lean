import AlexaClientSDK.SharedAVSSettingProtocol

/-!
# Settings

A `Setting` gives the protocol the callbacks that change its value. Values are stored and sent as strings, and a
function of the device may refuse any of them. After a restart only what the storage holds is left.
-/

namespace AlexaClientSDK.Settings

open SharedAVSSettingProtocol

structure Conversion (V : Type) where
  toSettingString : V → Bool × String
  /-- `fromSettingString`, with the value that is kept after a failure. -/
  fromSettingString : String → V → Bool × V

/-- The callbacks of a request. -/
inductive Change (V : Type)
  /-- Those of `setLocalChange` and `setAvsChange`. -/
  | set (value : V)
  | restore (databaseValue : String)

/-- How far `Setting::create` has come. -/
inductive Phase
  | constructed
  | created
  /-- `restore` has failed, and nobody gets the setting. -/
  | destroyed
  deriving DecidableEq

structure Setting (V : Type) where
  protocol : Protocol (Change V)
  value : V
  oldValue : V
  phase : Phase

variable {V : Type}

/-- A new object, with what the storage holds and what was sent before. -/
def Setting.new (defaultValue : V) (isDefaultCloudAuthoritative : Bool) (storage : Option Row)
    (events : List (SettingEvent × String)) : Setting V where
  protocol := {Protocol.new (Change V) isDefaultCloudAuthoritative storage with events := events}
  value := defaultValue
  oldValue := defaultValue
  phase := .constructed

section

variable (s : Setting V)

section

variable (conversion : Conversion V)

namespace Setting

/-- `handleSetValue`, where the device accepts the value or not. -/
def handleSetValue (value : V) (accepts : Bool) : Setting V × Bool × String :=
  let converted := conversion.toSettingString value
  if converted.1 && accepts then ({s with oldValue := s.value,value := value},true,converted.2)
  else (s,false,(conversion.toSettingString s.value).2)

/-- The callback `applyChange` of a request. -/
def applyChange (change : Change V) (accepts : Bool) : Setting V × Bool × String :=
  match change with
  | .set value => s.handleSetValue conversion value accepts
  | .restore databaseValue =>
    let converted := if databaseValue.isEmpty then (true,s.value)
      else conversion.fromSettingString databaseValue s.value
    let set := s.handleSetValue conversion converted.2 accepts
    (set.1,converted.1 && set.2.1,set.2.2)

/-- That of `restore` applies the empty string. -/
def revertChange (change : Change V) (accepts : Bool) : Setting V × String :=
  match change with
  | .set _ =>
    let set := s.handleSetValue conversion s.oldValue accepts
    (set.1,set.2.2)
  | .restore _ =>
    let set := s.applyChange conversion (.restore "") accepts
    (set.1,set.2.2)

/-- With what was loaded. A setting that fails is destroyed. -/
def restore (status : SettingStatus) (change : Change V) (accepts : Bool) : Setting V :=
  if status=.synchronized then
    let applied := s.applyChange conversion change accepts
    if applied.2.1 then {applied.1 with phase := .created,protocol := {s.protocol with restoring := []}}
    else {applied.1 with
      phase := .destroyed
      protocol := {s.protocol with restoring := [],pendingRequest := none,queue := []}}
  else
    {s with
      phase := .created
      protocol := {s.protocol.restoreRequest status change with restoring := []}}

/-- The task of a request applies it. -/
def applyRequest (kind : Kind) (record : Record (Change V)) (accepts : Bool) : Setting V :=
  let applied := s.applyChange conversion record.request.change accepts
  {applied.1 with protocol := s.protocol.applyChange kind record applied.2.1 applied.2.2}

/-- The task of a request stores its value, or reverts the change. -/
def storeRequest (kind : Kind) (record : Record (Change V))
    (value : String) (stored accepts : Bool) : Setting V :=
  if stored then {s with protocol := s.protocol.storeSetting kind record value true ""}
  else
    let reverted := s.revertChange conversion record.request.change accepts
    {reverted.1 with protocol := s.protocol.storeSetting kind record value false reverted.2}

end Setting

end

end

inductive Event (V : Type)
  | setLocalChange (value : V)
  | setAvsChange (value : V)
  | clearData (value : V) (deleted : Bool)
  | restoreValue
  | restore (accepts : Bool)
  | connectionStatusChanged (isConnected : Bool)
  | takeRequest
  | applyChange (accepts : Bool)
  | storeSetting (stored accepts : Bool)
  | sendEvent (ok : Bool)
  | synchronize
  | sendStored (ok : Bool)
  | updateSettingStatus (updated : Bool)
  | restart

/-- Over `SharedAVSSettingProtocol`, with a conversion. -/
inductive Step (conversion : Conversion V) (defaultValue : V) : Setting V → Event V → Setting V → Prop
  | setLocalChange {s : Setting V} (value : V) (created : s.phase=.created) :
      Step conversion defaultValue s (.setLocalChange value)
        {s with protocol := s.protocol.localChange (.set value)}
  | setAvsChange {s : Setting V} (value : V) (created : s.phase=.created) :
      Step conversion defaultValue s (.setAvsChange value)
        {s with protocol := s.protocol.avsChange (.set value)}
  | clearData {s : Setting V} (value : V) (deleted : Bool) (created : s.phase=.created) :
      Step conversion defaultValue s (.clearData value deleted)
        {s with value := value,protocol := s.protocol.clearData deleted}
  | restoreValue {s : Setting V} (constructed : s.phase=.constructed) (first : s.protocol.restoring=[]) :
      Step conversion defaultValue s .restoreValue {s with protocol := s.protocol.restoreValue .restore}
  | restore {s : Setting V} {status : SettingStatus} {change : Change V} (accepts : Bool)
      (loaded : s.protocol.restoring=[(status,change)]) :
      Step conversion defaultValue s (.restore accepts) (s.restore conversion status change accepts)
  | connectionStatusChanged {s : Setting V} (isConnected : Bool) (exists_ : s.phase≠.destroyed) :
      Step conversion defaultValue s (.connectionStatusChanged isConnected)
        {s with protocol := s.protocol.connectionStatusChangeCallback isConnected}
  | takeRequest {s : Setting V} {kind : Kind} {queue : List Task} (waits : s.protocol.stage=.idle)
      (next : s.protocol.queue=.request kind::queue) :
      Step conversion defaultValue s .takeRequest {s with protocol := s.protocol.takeRequest kind queue}
  | applyChange {s : Setting V} {kind : Kind} {record : Record (Change V)} (accepts : Bool)
      (applies : s.protocol.stage=.applying kind record) :
      Step conversion defaultValue s (.applyChange accepts) (s.applyRequest conversion kind record accepts)
  | storeSetting {s : Setting V} {kind : Kind} {record : Record (Change V)} {value : String}
      (stored accepts : Bool) (stores : s.protocol.stage=.storing kind record value) :
      Step conversion defaultValue s (.storeSetting stored accepts)
        (s.storeRequest conversion kind record value stored accepts)
  | sendEvent {s : Setting V} {kind : Kind} {record : Record (Change V)} {value : String} (ok : Bool)
      (sends : s.protocol.stage=.sending kind record value) :
      Step conversion defaultValue s (.sendEvent ok)
        {s with protocol := s.protocol.sendEvent kind record value ok}
  | synchronize {s : Setting V} {queue : List Task} (waits : s.protocol.stage=.idle)
      (next : s.protocol.queue=.synchronize::queue) :
      Step conversion defaultValue s .synchronize
        {s with protocol := s.protocol.executeSynchronizeOnConnected queue}
  | sendStored {s : Setting V} {event : SettingEvent} {value : String} (ok : Bool)
      (sends : s.protocol.stage=.synchronizing event value) :
      Step conversion defaultValue s (.sendStored ok) {s with protocol := s.protocol.answer event value ok}
  | updateSettingStatus {s : Setting V} (updated : Bool) (updates : s.protocol.stage=.updating) :
      Step conversion defaultValue s (.updateSettingStatus updated)
        {s with protocol := s.protocol.updateSettingStatus updated}
  | restart {s : Setting V} : Step conversion defaultValue s .restart
        (Setting.new defaultValue s.protocol.isDefaultCloudAuthoritative s.protocol.storage s.protocol.events)

end AlexaClientSDK.Settings
