import AlexaClientSDK.Alerts

/-!
# The alert storage

`SQLiteAlertStorage` spreads an alert over three tables: a row for the alert, for each asset and for each item of the
play order, tied together by the id of the alert's row, which is one more than the largest. Statements of SQLite do not
fail. The ids are natural numbers: none comes to 2^31, from where on an `int` does not hold it.
-/

namespace AlexaClientSDK.AlertStorage

open Alerts

def alertTypeToDbField : AlertType → ℤ
  | .alarm => 1
  | .timer => 2
  | .reminder => 3

/-- The object that `loadHelper` makes for a type. -/
def dbFieldToAlertType (dbType : ℤ) : Option AlertType :=
  if dbType=1 then some .alarm
  else if dbType=2 then some .timer
  else if dbType=3 then some .reminder
  else none

def alertStateToDbField : State → ℤ
  | .unset => 1
  | .set => 2
  | .ready => 10
  | .activating => 3
  | .active => 4
  | .snoozing => 5
  | .snoozed => 6
  | .stopping => 7
  | .stopped => 8
  | .completed => 9

def dbFieldToAlertState (dbState : ℤ) : Option State :=
  if dbState=1 then some .unset
  else if dbState=2 then some .set
  else if dbState=10 then some .ready
  else if dbState=3 then some .activating
  else if dbState=4 then some .active
  else if dbState=5 then some .snoozing
  else if dbState=6 then some .snoozed
  else if dbState=7 then some .stopping
  else if dbState=8 then some .stopped
  else if dbState=9 then some .completed
  else none

@[simp] theorem dbFieldToAlertType_field (type : AlertType) :
    dbFieldToAlertType (alertTypeToDbField type)=some type := by
  cases type with
  | alarm => rfl
  | timer => rfl
  | reminder => rfl

@[simp] theorem dbFieldToAlertState_field (state : State) :
    dbFieldToAlertState (alertStateToDbField state)=some state := by
  cases state with
  | unset => rfl
  | set => rfl
  | ready => rfl
  | activating => rfl
  | active => rfl
  | snoozing => rfl
  | snoozed => rfl
  | stopping => rfl
  | stopped => rfl
  | completed => rfl

structure AlertRow where
  id : ℕ
  token : String
  type : ℤ
  state : ℤ
  scheduledTimeUnix : ℤ
  scheduledTimeISO8601 : String
  assetLoopCount : ℤ
  assetLoopPauseMilliseconds : ℤ
  backgroundAsset : String

structure AssetRow where
  id : ℕ
  alertId : ℕ
  avsId : String
  url : String

structure PlayOrderRow where
  id : ℕ
  alertId : ℕ
  assetPlayOrderPosition : ℕ
  assetPlayOrderToken : String

structure Storage where
  alerts : List AlertRow
  alertAssets : List AssetRow
  alertAssetPlayOrderItems : List PlayOrderRow

def createDatabase : Storage := ⟨[],[],[]⟩

def getTableMaxIntValue : List ℕ → ℕ
  | [] => 0
  | id::ids => max id (getTableMaxIntValue ids)

theorem le_getTableMaxIntValue {ids : List ℕ} {id : ℕ} (h : id∈ids) : id≤getTableMaxIntValue ids := by
  induction ids with
  | nil => cases h
  | cons first ids ih =>
    rw [getTableMaxIntValue]
    rcases List.mem_cons.mp h with rfl|h
    · exact Nat.le_max_left _ _
    · exact Nat.le_trans (ih h) (Nat.le_max_right _ _)

section

variable (storage : Storage)

def Storage.alertExists (token : String) : Bool :=
  storage.alerts.any fun row => decide (row.token=token)

/-- The rows of `storeAlertAssets`, counting from an id. -/
def assetRows (alertId : ℕ) : ℕ → List Asset → List AssetRow
  | _,[] => []
  | id,asset::assets => ⟨id,alertId,asset.id,asset.url⟩::assetRows alertId (id+1) assets

/-- They are counted from an id and a position. -/
def playOrderRows (alertId : ℕ) : ℕ → ℕ → List String → List PlayOrderRow
  | _,_,[] => []
  | id,itemIndex,assetId::items =>
    ⟨id,alertId,itemIndex,assetId⟩::playOrderRows alertId (id+1) (itemIndex+1) items

section

variable (alert : Alert)

/-- The row of an alert. The pause is bound as an `int`. -/
def alertRow : AlertRow where
  id := alert.id
  token := alert.token
  type := alertTypeToDbField alert.type
  state := alertStateToDbField alert.state
  scheduledTimeUnix := alert.dynamicData.timePoint.timeUnix
  scheduledTimeISO8601 := alert.dynamicData.timePoint.timeISO8601
  assetLoopCount := alert.dynamicData.loopCount
  assetLoopPauseMilliseconds := toInt alert.dynamicData.assetConfiguration.loopPause
  backgroundAsset := alert.dynamicData.assetConfiguration.backgroundAssetId

/-- `SQLiteAlertStorage::store`: the alert is given its id. -/
def Storage.store : Option (Storage × Alert) :=
  if storage.alertExists alert.token then none
  else
    let id := getTableMaxIntValue (storage.alerts.map AlertRow.id)+1
    let alert := {alert with staticData := {alert.staticData with dbId := id}}
    let configuration := alert.dynamicData.assetConfiguration
    some ({
      alerts := storage.alerts++[alertRow alert]
      alertAssets := storage.alertAssets ++ assetRows id (getTableMaxIntValue (storage.alertAssets.map AssetRow.id)+1)
          (configuration.assets.entries.map Sigma.snd)
      alertAssetPlayOrderItems := storage.alertAssetPlayOrderItems ++ playOrderRows id
          (getTableMaxIntValue (storage.alertAssetPlayOrderItems.map PlayOrderRow.id)+1) 1
          configuration.assetPlayOrderItems},alert)

/-- `SQLiteAlertStorage::modify`: the state and the time are written. -/
def Storage.modify : Option Storage :=
  if storage.alertExists alert.token then
    some {storage with
      alerts := storage.alerts.map fun row =>
        if row.id=alert.id then
          {row with
            state := alertStateToDbField alert.state
            scheduledTimeUnix := alert.dynamicData.timePoint.timeUnix
            scheduledTimeISO8601 := alert.dynamicData.timePoint.timeISO8601}
        else row}
  else none

/-- What `modify` makes of a row with the id of the alert. -/
def modifiedRow (row : AlertRow) : AlertRow :=
  {row with
    state := alertStateToDbField alert.state
    scheduledTimeUnix := alert.dynamicData.timePoint.timeUnix
    scheduledTimeISO8601 := alert.dynamicData.timePoint.timeISO8601}

theorem Storage.modify_eq : storage.modify alert =
    if storage.alertExists alert.token then
      some {storage with
        alerts := storage.alerts.map fun row => if row.id=alert.id then modifiedRow alert row else row}
    else none := rfl

def Storage.eraseAlertByAlertId (alertId : ℕ) : Storage where
  alerts := storage.alerts.filter fun row => decide (row.id≠alertId)
  alertAssets := storage.alertAssets.filter fun row => decide (row.alertId≠alertId)
  alertAssetPlayOrderItems :=
    storage.alertAssetPlayOrderItems.filter fun row => decide (row.alertId≠alertId)

def Storage.erase : Option Storage :=
  if storage.alertExists alert.token then some (storage.eraseAlertByAlertId alert.id) else none

end

/-- `SQLiteAlertStorage::bulkErase`: a failure rolls back what was erased. -/
def Storage.bulkErase (storage : Storage) : List Alert → Option Storage
  | [] => some storage
  | alert::alerts =>
    match storage.erase alert with
    | none => none
    | some storage => storage.bulkErase alerts

def clearDatabase : Storage := ⟨[],[],[]⟩

/-- The insertion into a set that is ordered by the index alone. -/
def insertOrderItem (item : ℕ × String) : List (ℕ × String) → List (ℕ × String)
  | [] => [item]
  | other::items =>
    if item.1<other.1 then item::other::items
    else if other.1 < item.1 then other::insertOrderItem item items
    else other::items

def Storage.loadAlertAssets (alertId : ℕ) : List Asset :=
  (storage.alertAssets.filter fun row => decide (row.alertId=alertId)).map fun row => ⟨row.avsId,row.url⟩

def Storage.loadAlertAssetPlayOrderItems (alertId : ℕ) : List (ℕ × String) :=
  ((storage.alertAssetPlayOrderItems.filter fun row => decide (row.alertId=alertId)).map
    fun row => (row.assetPlayOrderPosition,row.assetPlayOrderToken)).foldl
      (fun items item => insertOrderItem item items) []

end

def assetsOfList (assets : List Asset) : Assets :=
  assets.foldl (fun parsed asset => parsed.insert asset.id asset) ∅

section

variable (convert8601TimeStringToUnix : String → Option ℤ)

/-- `loadHelper`, for one row. A time that cannot be read is left out. -/
def Storage.loadAlert (storage : Storage) (row : AlertRow) : Option Alert :=
  match dbFieldToAlertType row.type with
  | none => none
  | some type =>
    match dbFieldToAlertState row.state with
    | none => none
    | some state =>
      (Alert.new type).setAlertData ⟨row.token,row.id⟩ {
        state := state
        timePoint := (setTimeISO8601 convert8601TimeStringToUnix row.scheduledTimeISO8601).getD ⟨"",0⟩
        loopCount := row.assetLoopCount
        hasRenderingFailed := false
        assetConfiguration := {
          assets := assetsOfList (storage.loadAlertAssets row.id)
          assetPlayOrderItems := (storage.loadAlertAssetPlayOrderItems row.id).map Prod.snd
          backgroundAssetId := row.backgroundAsset
          loopPause := row.assetLoopPauseMilliseconds}}

/-- The loop of `loadHelper`, up to the first row that cannot be used. -/
def Storage.loadRows (storage : Storage) : List AlertRow → Bool × List Alert
  | [] => (true,[])
  | row::rows =>
    match storage.loadAlert convert8601TimeStringToUnix row with
    | none => (false,[])
    | some alert =>
      let rest := storage.loadRows rows
      (rest.1,alert::rest.2)

def Storage.load (storage : Storage) : Bool × List Alert :=
  storage.loadRows convert8601TimeStringToUnix storage.alerts

end

end AlexaClientSDK.AlertStorage
