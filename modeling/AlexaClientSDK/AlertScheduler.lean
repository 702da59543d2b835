import AlexaClientSDK.LabelledRuns
import AlexaClientSDK.FocusChannel
import AlexaClientSDK.AlertStorage

/-!
# The alert scheduler

`AlertScheduler` keeps the alerts of its storage in memory: one may be active, the others are in a set ordered by time.
Every operation holds one lock throughout, and so is one step. Notifications come from a renderer, late and for any
token. The clock is read once in each operation, and may fail.
-/

namespace AlexaClientSDK.AlertScheduler

open FocusChannel Alerts AlertStorage

/-- `AlertObserverInterface::State`. -/
inductive ObserverState
  | ready
  | started
  | stopped
  | snoozed
  | completed
  | pastDue
  | focusEnteredForeground
  | focusEnteredBackground
  | error
  | deleted
  | scheduledForLater
  deriving DecidableEq

def scheduledTimeUnix (alert : Alert) : ℤ := alert.dynamicData.timePoint.timeUnix

def TimeComparator (lhs rhs : Alert) : Bool :=
  if scheduledTimeUnix lhs=scheduledTimeUnix rhs then decide (lhs.token<rhs.token)
  else decide (scheduledTimeUnix lhs<scheduledTimeUnix rhs)

/-- `set::insert`: an alert that compares equal stays. -/
def insertAlert (alert : Alert) : List Alert → List Alert
  | [] => [alert]
  | other::alerts =>
    if TimeComparator alert other then alert::other::alerts
    else if TimeComparator other alert then other::insertAlert alert alerts
    else other::alerts

/-- `set::erase` of the alert that compares equal. -/
def eraseFromSet (alert : Alert) (alerts : List Alert) : List Alert :=
  alerts.filter fun other => TimeComparator other alert || TimeComparator alert other

structure Scheduler where
  storage : Storage
  focusState : FocusState
  activeAlert : Option Alert
  scheduledAlerts : List Alert
  /-- A null pointer was put into `m_scheduledAlerts`. -/
  nullScheduled : Bool
  /-- When it runs, with the token for which it was set. -/
  scheduledAlertTimer : Option String
  shouldScheduleAlerts : Bool
  notified : List (String × ObserverState)

def Scheduler.new (storage : Storage) : Scheduler where
  storage := storage
  focusState := .none
  activeAlert := none
  scheduledAlerts := []
  nullScheduled := false
  scheduledAlertTimer := none
  shouldScheduleAlerts := false
  notified := []

section

variable (s : Scheduler)

namespace Scheduler

def notifyObserver (alertToken : String) (state : ObserverState) : Scheduler :=
  {s with notified := s.notified++[(alertToken,state)]}

def setTimerForNextAlertLocked (now : Option ℤ) : Scheduler :=
  if s.shouldScheduleAlerts then
    let s := {s with scheduledAlertTimer := none}
    if s.activeAlert.isSome then s
    else
      match s.scheduledAlerts,now with
      | alert::_,some timeNow =>
        if scheduledTimeUnix alert-timeNow≤0 then s.notifyObserver alert.token .ready
        else {s with scheduledAlertTimer := some alert.token}
      | _,_ => s
  else s

theorem setTimerForNextAlertLocked_parts (now : Option ℤ) :
    (s.setTimerForNextAlertLocked now).activeAlert=s.activeAlert ∧
      (s.setTimerForNextAlertLocked now).scheduledAlerts=s.scheduledAlerts ∧
      (s.setTimerForNextAlertLocked now).storage=s.storage ∧
      (s.setTimerForNextAlertLocked now).nullScheduled=s.nullScheduled := by
  unfold Scheduler.setTimerForNextAlertLocked
  dsimp only
  repeat' split
  all_goals exact ⟨rfl,rfl,rfl,rfl⟩

/-- The timer is set when no alert is active. -/
def setTimerIfIdle (now : Option ℤ) : Scheduler :=
  if s.activeAlert.isNone then s.setTimerForNextAlertLocked now else s

def getAlertLocked (token : String) : Option Alert :=
  s.scheduledAlerts.find? fun alert => decide (alert.token=token)

def isActiveToken (token : String) : Bool :=
  match s.activeAlert with
  | none => false
  | some alert => decide (alert.token=token)

def eraseAlert (alert : Alert) : Scheduler :=
  match s.storage.erase alert with
  | none => s
  | some storage => ({s with storage := storage}).notifyObserver alert.token .deleted

theorem eraseAlert_parts (alert : Alert) :
    (s.eraseAlert alert).activeAlert=s.activeAlert ∧ (s.eraseAlert alert).scheduledAlerts=s.scheduledAlerts ∧
      (s.eraseAlert alert).storage=(s.storage.erase alert).getD s.storage ∧
      (s.eraseAlert alert).nullScheduled=s.nullScheduled := by
  unfold Scheduler.eraseAlert
  cases s.storage.erase alert with
  | none | some => exact ⟨rfl,rfl,rfl,rfl⟩

def deactivateActiveAlertHelperLocked : Scheduler :=
  {s with activeAlert := s.activeAlert.map fun alert => alert.withState .stopping}

end Scheduler

/-- The state that `Alert::activate` leaves. -/
def activate (alert : Alert) : Alert :=
  if alert.state=.activating ∨ alert.state=.active then alert else alert.withState .activating

def Scheduler.activateNextAlertLocked : Scheduler :=
  match s.activeAlert,s.scheduledAlerts with
  | none,alert::alerts => {s with activeAlert := some (activate alert),scheduledAlerts := alerts}
  | _,_ => s

/-- What is written of an alert when the storage takes it. -/
def Scheduler.modifyStorage (alert : Alert) : Scheduler :=
  {s with storage := (s.storage.modify alert).getD s.storage}

end

section

variable (convert8601TimeStringToUnix : String → Option ℤ) (alertPastDueTimeLimit : ℤ)

section

variable (s : Scheduler)

namespace Scheduler

/-- The guard of `updateAlert`: the alert goes back into the set. -/
def finishUpdate (alert : Alert) (now : Option ℤ) : Scheduler :=
  ({s with scheduledAlerts := insertAlert alert s.scheduledAlerts}).setTimerIfIdle now

def updateAlert (alert : Alert) (newScheduledTime : String)
    (newAssetConfiguration : AssetConfiguration) (now : Option ℤ) : Bool × Scheduler :=
  let s := {s with scheduledAlerts := eraseFromSet alert s.scheduledAlerts}
  let oldScheduledTime := alert.dynamicData.timePoint.timeISO8601
  let oldAssetConfiguration := alert.dynamicData.assetConfiguration
  let timed := alert.updateScheduledTime convert8601TimeStringToUnix newScheduledTime
  if timed.1 then
    let configured := timed.2.setAssetConfiguration newAssetConfiguration
    if configured.1 then
      match s.storage.modify configured.2 with
      | some storage => (true,({s with storage := storage}).finishUpdate configured.2 now)
      | none =>
        let back := (configured.2.updateScheduledTime convert8601TimeStringToUnix oldScheduledTime).2
        (false,s.finishUpdate (back.setAssetConfiguration oldAssetConfiguration).2 now)
    else
      (false,s.finishUpdate (configured.2.updateScheduledTime convert8601TimeStringToUnix oldScheduledTime).2 now)
  else (false,s.finishUpdate timed.2 now)

def scheduleAlert (alert : Alert) (now : Option ℤ) : Bool × Scheduler :=
  match now with
  | none => (false,s)
  | some unixEpochNow =>
    if alert.isPastDue unixEpochNow alertPastDueTimeLimit then (false,s)
    else
      match s.getAlertLocked alert.token with
      | some oldAlert =>
        if s.isActiveToken oldAlert.token then (false,s)
        else s.updateAlert convert8601TimeStringToUnix oldAlert
          alert.dynamicData.timePoint.timeISO8601 alert.dynamicData.assetConfiguration now
      | none =>
        match s.storage.store alert with
        | none => (false,s)
        | some (storage,alert) =>
          (true,({s with
            storage := storage
            scheduledAlerts := insertAlert alert s.scheduledAlerts}).setTimerIfIdle now)

/-- The loop of `reloadAlertsFromDatabase` over the loaded alerts. -/
def reloadAlert (unixEpochNow : ℤ) (alert : Alert) : Scheduler :=
  if s.isActiveToken alert.token then s
  else if alert.isPastDue unixEpochNow alertPastDueTimeLimit then
    (s.notifyObserver alert.token .pastDue).eraseAlert alert
  else if alert.state=.active then
    let alert := alert.withState .set
    let s := s.modifyStorage alert
    ({s with scheduledAlerts := insertAlert alert s.scheduledAlerts}).notifyObserver alert.token .scheduledForLater
  else
    ({s with scheduledAlerts := insertAlert alert s.scheduledAlerts}).notifyObserver alert.token .scheduledForLater

/-- `reloadAlertsFromDatabase`, of the alerts that the storage has loaded. -/
def reloadAlerts (alerts : List Alert) (shouldScheduleAlerts : Bool) (now : Option ℤ) : Bool × Scheduler :=
  let s := {s with shouldScheduleAlerts := shouldScheduleAlerts}
  match now with
  | none => (false,s)
  | some unixEpochNow =>
    let s := {s with scheduledAlertTimer := none,scheduledAlerts := []}
    if shouldScheduleAlerts then
      (true,(alerts.foldl (fun s alert => s.reloadAlert alertPastDueTimeLimit unixEpochNow alert) s).setTimerIfIdle now)
    else
      (true,{s with
        scheduledAlerts := alerts.foldl (fun set alert => insertAlert alert set) s.scheduledAlerts})

def reloadAlertsFromDatabase (shouldScheduleAlerts : Bool) (now : Option ℤ) : Bool × Scheduler :=
  s.reloadAlerts alertPastDueTimeLimit (s.storage.load convert8601TimeStringToUnix).2 shouldScheduleAlerts now

def snoozeAlert (alertToken updatedTime : String) : Bool × Scheduler :=
  match s.activeAlert with
  | none => (false,s)
  | some alert =>
    if alert.token=alertToken then
      (true,{s with activeAlert := some (alert.snooze convert8601TimeStringToUnix updatedTime).2})
    else (false,s)

end Scheduler

end

end

section

variable (s : Scheduler)

namespace Scheduler

def deleteAlert (alertToken : String) (now : Option ℤ) : Scheduler :=
  if s.isActiveToken alertToken then s.deactivateActiveAlertHelperLocked
  else
    match s.getAlertLocked alertToken with
    | none => s
    | some alert =>
      let s := s.eraseAlert alert
      ({s with
        scheduledAlerts := eraseFromSet alert s.scheduledAlerts}).setTimerForNextAlertLocked now

/-- The alerts that `deleteAlerts` collects. -/
def alertsToBeRemoved (tokenList : List String) : List Alert :=
  tokenList.filterMap fun token =>
    if s.isActiveToken token then s.activeAlert else s.getAlertLocked token

/-- The last loop of `deleteAlerts`. -/
def removeAlert (alert : Alert) : Scheduler :=
  ({s with scheduledAlerts := eraseFromSet alert s.scheduledAlerts}).notifyObserver alert.token .deleted

/-- `deleteAlerts`. The active alert is also deactivated, and then let go. -/
def deleteAlerts (tokenList : List String) (now : Option ℤ) : Bool × Scheduler :=
  let alerts := s.alertsToBeRemoved tokenList
  match s.storage.bulkErase alerts with
  | none => (false,s)
  | some storage =>
    let s := {s with
      storage := storage
      activeAlert := if tokenList.any s.isActiveToken then none else s.activeAlert}
    (true,(alerts.foldl Scheduler.removeAlert s).setTimerForNextAlertLocked now)

def clearData : Scheduler :=
  let s := s.deactivateActiveAlertHelperLocked
  {s with
    scheduledAlertTimer := none
    notified := s.notified++s.scheduledAlerts.map fun alert => (alert.token,.deleted)
    scheduledAlerts := []
    storage := clearDatabase}

def updateFocus (focusState : FocusState) : Scheduler :=
  if s.focusState=focusState then s
  else
    let s := {s with focusState := focusState}
    match focusState,s.activeAlert with
    | .foreground,some alert => s.notifyObserver alert.token .focusEnteredForeground
    | .background,some alert => s.notifyObserver alert.token .focusEnteredBackground
    | .none,_ => s.deactivateActiveAlertHelperLocked
    | _,none => s.activateNextAlertLocked

/-- The active alert is erased and let go. -/
def eraseActiveAlert : Scheduler :=
  match s.activeAlert with
  | none => s
  | some alert => {s.eraseAlert alert with activeAlert := none}

/-- A stopped alert that is not active is erased from the storage alone, one with an error from the set as well.
-/
def executeOnAlertStateChange (alertToken : String) (state : ObserverState) (now : Option ℤ) : Scheduler :=
  match state with
  | .ready => s.notifyObserver alertToken state
  | .started =>
    match s.activeAlert with
    | none => s
    | some alert =>
      if alert.state=.activating then
        (({s with activeAlert := some (alert.withState .active)}).modifyStorage
          (alert.withState .active)).notifyObserver alertToken state
      else s
  | .stopped =>
    let s := s.notifyObserver alertToken state
    if s.isActiveToken alertToken then s.eraseActiveAlert.setTimerForNextAlertLocked now
    else
      match s.getAlertLocked alertToken with
      | none => s.setTimerForNextAlertLocked now
      | some alert => (s.eraseAlert alert).setTimerForNextAlertLocked now
  | .completed => ((s.notifyObserver alertToken state).eraseActiveAlert).setTimerForNextAlertLocked now
  | .snoozed =>
    match s.activeAlert with
    | none => {s with nullScheduled := true}
    | some alert =>
      let s := s.modifyStorage alert
      (({s with
        scheduledAlerts := insertAlert alert s.scheduledAlerts
        activeAlert := none}).notifyObserver alertToken state).setTimerForNextAlertLocked now
  | .error =>
    if s.isActiveToken alertToken then
      (s.eraseActiveAlert.setTimerForNextAlertLocked now).notifyObserver alertToken state
    else
      match s.getAlertLocked alertToken with
      | none => s.notifyObserver alertToken state
      | some alert =>
        let s := s.eraseAlert alert
        (({s with
          scheduledAlerts := eraseFromSet alert s.scheduledAlerts}).setTimerForNextAlertLocked
            now).notifyObserver alertToken state
  | _ => s

/-- The alerts with a token change their states, as their renderer tells them. -/
def changeState (token : String) (state : State) : Scheduler :=
  let change := fun alert : Alert => if alert.token=token then alert.withState state else alert
  {s with activeAlert := s.activeAlert.map change,scheduledAlerts := s.scheduledAlerts.map change}

end Scheduler

end

inductive Event
  | scheduleAlert (alert : Alert) (now : Option ℤ)
  | snoozeAlert (alertToken updatedTime : String)
  | deleteAlert (alertToken : String) (now : Option ℤ)
  | deleteAlerts (tokenList : List String) (now : Option ℤ)
  | reloadAlertsFromDatabase (shouldScheduleAlerts : Bool) (now : Option ℤ)
  | updateFocus (focusState : FocusState)
  | onLocalStop
  | clearData
  | onAlertStateChange (alertToken : String) (state : ObserverState) (now : Option ℤ)
  | changeState (token : String) (state : State)
  | restart (shouldScheduleAlerts : Bool) (now : ℤ)

/-- The load of a reload succeeds; a restart initializes a new scheduler. -/
inductive Step (convert8601TimeStringToUnix : String → Option ℤ) (alertPastDueTimeLimit : ℤ) :
    Scheduler → Event → Scheduler → Prop
  | scheduleAlert {s : Scheduler} (alert : Alert) (now : Option ℤ) :
      Step convert8601TimeStringToUnix alertPastDueTimeLimit s (.scheduleAlert alert now)
        (s.scheduleAlert convert8601TimeStringToUnix alertPastDueTimeLimit alert now).2
  | snoozeAlert {s : Scheduler} (alertToken updatedTime : String) :
      Step convert8601TimeStringToUnix alertPastDueTimeLimit s (.snoozeAlert alertToken updatedTime)
        (s.snoozeAlert convert8601TimeStringToUnix alertToken updatedTime).2
  | deleteAlert {s : Scheduler} (alertToken : String) (now : Option ℤ) :
      Step convert8601TimeStringToUnix alertPastDueTimeLimit s (.deleteAlert alertToken now)
        (s.deleteAlert alertToken now)
  | deleteAlerts {s : Scheduler} (tokenList : List String) (now : Option ℤ) :
      Step convert8601TimeStringToUnix alertPastDueTimeLimit s (.deleteAlerts tokenList now)
        (s.deleteAlerts tokenList now).2
  | reloadAlertsFromDatabase {s : Scheduler} (shouldScheduleAlerts : Bool) (now : Option ℤ)
      (loads : (s.storage.load convert8601TimeStringToUnix).1=true) :
      Step convert8601TimeStringToUnix alertPastDueTimeLimit s (.reloadAlertsFromDatabase shouldScheduleAlerts now)
        (s.reloadAlertsFromDatabase convert8601TimeStringToUnix alertPastDueTimeLimit shouldScheduleAlerts now).2
  | updateFocus {s : Scheduler} (focusState : FocusState) :
      Step convert8601TimeStringToUnix alertPastDueTimeLimit s (.updateFocus focusState) (s.updateFocus focusState)
  | onLocalStop {s : Scheduler} : Step convert8601TimeStringToUnix alertPastDueTimeLimit s .onLocalStop
        s.deactivateActiveAlertHelperLocked
  | clearData {s : Scheduler} : Step convert8601TimeStringToUnix alertPastDueTimeLimit s .clearData s.clearData
  | onAlertStateChange {s : Scheduler} (alertToken : String) (state : ObserverState) (now : Option ℤ) :
      Step convert8601TimeStringToUnix alertPastDueTimeLimit s
        (.onAlertStateChange alertToken state now) (s.executeOnAlertStateChange alertToken state now)
  | changeState {s : Scheduler} (token : String) (state : State) :
      Step convert8601TimeStringToUnix alertPastDueTimeLimit s (.changeState token state) (s.changeState token state)
  | restart {s : Scheduler} (shouldScheduleAlerts : Bool) (now : ℤ)
      (loads : (s.storage.load convert8601TimeStringToUnix).1=true) :
      Step convert8601TimeStringToUnix alertPastDueTimeLimit s (.restart shouldScheduleAlerts now)
        ((Scheduler.new s.storage).reloadAlertsFromDatabase convert8601TimeStringToUnix
          alertPastDueTimeLimit shouldScheduleAlerts (some now)).2

end AlexaClientSDK.AlertScheduler
