import Mathlib.Algebra.Group.Nat.Defs
import Mathlib.Algebra.Group.Int.Defs
import Mathlib.Data.List.AList

/-!
# Alerts

An `Alert` is an alarm, a timer or a reminder. Its data is read from the payload of a directive by `parseFromJson`,
which keeps what it can use of the assets. A payload is given by what the accessors of the JSON library find in it. The
reading of a time in ISO 8601 is a parameter.
-/

namespace AlexaClientSDK.Alerts

inductive AlertType
  | alarm
  | timer
  | reminder
  deriving DecidableEq

inductive State
  | unset
  | set
  | ready
  | activating
  | active
  | snoozing
  | snoozed
  | stopping
  | stopped
  | completed
  deriving DecidableEq

inductive StopReason
  | unset
  | avsStop
  | localStop
  | shutdown
  | logOut
  deriving DecidableEq

structure Asset where
  id : String
  url : String
  deriving DecidableEq

abbrev Assets := AList fun _ : String => Asset

/-- Assets are compared by their entries. -/
instance : DecidableEq Assets := fun assets assets' =>
  decidable_of_iff (assets.entries=assets'.entries) AList.ext_iff.symm

structure AssetConfiguration where
  assets : Assets
  assetPlayOrderItems : List String
  backgroundAssetId : String
  loopPause : ℤ
  deriving DecidableEq

def AssetConfiguration.empty : AssetConfiguration := ⟨∅,[],"",0⟩

structure TimePoint where
  timeISO8601 : String
  timeUnix : ℤ
  deriving DecidableEq

structure StaticData where
  token : String
  dbId : ℕ
  deriving DecidableEq

structure DynamicData where
  state : State
  timePoint : TimePoint
  loopCount : ℤ
  hasRenderingFailed : Bool
  assetConfiguration : AssetConfiguration
  deriving DecidableEq

structure Alert where
  type : AlertType
  staticData : StaticData
  dynamicData : DynamicData
  deriving DecidableEq

def Alert.new (type : AlertType) : Alert :=
  ⟨type,⟨"",0⟩,⟨.set,⟨"",0⟩,0,false,.empty⟩⟩

def Alert.token (alert : Alert) : String := alert.staticData.token

def Alert.id (alert : Alert) : ℕ := alert.staticData.dbId

def Alert.state (alert : Alert) : State := alert.dynamicData.state

def Alert.withState (alert : Alert) (state : State) : Alert :=
  {alert with dynamicData := {alert.dynamicData with state := state}}

/-- What is found in an item of the array `assets`. -/
structure AssetJson where
  assetId : Option String
  url : Option String

/-- What is found in a payload. A number is found when it fits an `int64_t`. -/
structure Payload where
  token : Option String
  scheduledTime : Option String
  assets : Option (List AssetJson)
  /-- `assetPlayOrder`, if it is an array: its items, if they are strings. -/
  assetPlayOrder : Option (List (Option String))
  loopCount : Option ℤ
  loopPauseInMilliSeconds : Option ℤ
  backgroundAlertAsset : Option String

/-- `numeric_limits<int>::max()`. -/
def INT_MAX : ℤ := 2^31-1

/-- What is left of a number in an `int`. -/
def toInt (value : ℤ) : ℤ := value.bmod (2^32)

/-- The loop over the assets, which looks their ids up among the old ones. A later asset takes the place of an
earlier one. -/
def parseAssets (known : Assets) : List AssetJson → Assets → Option Assets
  | [],parsed => some parsed
  | json::rest,parsed =>
    match json.assetId,json.url with
    | some id,some url =>
      if id = "" ∨ url = "" then none
      else if (known.lookup id).isSome then none
      else parseAssets known rest (parsed.insert id ⟨id,url⟩)
    | _,_ => none

def parsePlayOrder (assets : Assets) : List (Option String) → Option (List String)
  | [] => some []
  | none::_ => none
  | some assetId::rest =>
    if (assets.lookup assetId).isSome then (parsePlayOrder assets rest).map (assetId :: ·) else none

/-- Of a payload, if all of it can be used. -/
def parseConfiguration (payload : Payload) (known : Assets) : Option (AssetConfiguration × ℤ) :=
  match payload.assets,payload.assetPlayOrder with
  | some assetsJson,some playOrderJson =>
    match parseAssets known assetsJson ∅ with
    | none => none
    | some assets =>
      match parsePlayOrder assets playOrderJson with
      | none => none
      | some items =>
        let loopCount := payload.loopCount.getD INT_MAX
        if loopCount > INT_MAX then none
        else some (⟨assets,items,payload.backgroundAlertAsset.getD "",
          payload.loopPauseInMilliSeconds.getD 0⟩,toInt loopCount)
  | _,_ => none

/-- The status is `OK` in every case. -/
def parseAlertAssetConfigurationFromJson (payload : Payload) (data : DynamicData) : DynamicData :=
  match parseConfiguration payload data.assetConfiguration.assets with
  | none => data
  | some (configuration,loopCount) => {data with assetConfiguration := configuration,loopCount := loopCount}

/-- `Alert::ParseFromJsonStatus`, without `OK`. -/
inductive ParseFromJsonFailure
  | missingRequiredProperty
  | invalidValue
  deriving DecidableEq

section

variable (convert8601TimeStringToUnix : String → Option ℤ)

def setTimeISO8601 (time : String) : Option TimePoint :=
  (convert8601TimeStringToUnix time).map fun unix => ⟨time,unix⟩

/-- `Alert::parseFromJson`, with the error message where it fails. -/
def Alert.parseFromJson (alert : Alert) (payload : Payload) : Except (ParseFromJsonFailure × String) Alert :=
  match payload.token with
  | none => .error (.missingRequiredProperty,"missing property: token")
  | some token =>
    match payload.scheduledTime with
    | none => .error (.missingRequiredProperty,"missing property: scheduledTime")
    | some time =>
      match setTimeISO8601 convert8601TimeStringToUnix time with
      | none => .error (.invalidValue,"")
      | some timePoint =>
        .ok {alert with
          staticData := {alert.staticData with token := token}
          dynamicData := parseAlertAssetConfigurationFromJson payload
            {alert.dynamicData with timePoint := timePoint}}

def Alert.updateScheduledTime (alert : Alert) (newScheduledTime : String) : Bool × Alert :=
  if alert.state=.active ∨ alert.state=.activating ∨ alert.state=.stopping then (false,alert)
  else
    match setTimeISO8601 convert8601TimeStringToUnix newScheduledTime with
    | none => (false,alert)
    | some timePoint =>
      (true,{alert with dynamicData := {alert.dynamicData with timePoint := timePoint,state := .set}})

/-- `Alert::snooze`, which also stops the renderer. -/
def Alert.snooze (alert : Alert) (updatedScheduledTime : String) : Bool × Alert :=
  match setTimeISO8601 convert8601TimeStringToUnix updatedScheduledTime with
  | none => (false,alert)
  | some timePoint =>
    (true,
      {alert with dynamicData := {alert.dynamicData with timePoint := timePoint,state := .snoozing}})

end

def hasAsset (key : String) (assets : Assets) : Bool :=
  match assets.lookup key with
  | none => false
  | some asset => decide (asset.id=key) && decide (asset.url ≠ "")

def validateAssetConfiguration (configuration : AssetConfiguration) : Bool :=
  (decide (configuration.backgroundAssetId = "") ||
    hasAsset configuration.backgroundAssetId configuration.assets) &&
  configuration.assetPlayOrderItems.all fun item => hasAsset item configuration.assets

def Alert.setAssetConfiguration (alert : Alert) (configuration : AssetConfiguration) : Bool × Alert :=
  if validateAssetConfiguration configuration then
    (true,{alert with dynamicData := {alert.dynamicData with assetConfiguration := configuration}})
  else (false,alert)

/-- `Alert::setAlertData` with both kinds of data. -/
def Alert.setAlertData (alert : Alert) (staticData : StaticData) (dynamicData : DynamicData) : Option Alert :=
  if validateAssetConfiguration dynamicData.assetConfiguration then
    if dynamicData.loopCount<0 then none
    else some {alert with staticData := staticData,dynamicData := dynamicData}
  else none

def Alert.isPastDue (alert : Alert) (currentUnixTime timeLimit : ℤ) : Bool :=
  decide (alert.dynamicData.timePoint.timeUnix<currentUnixTime-timeLimit)

end AlexaClientSDK.Alerts
