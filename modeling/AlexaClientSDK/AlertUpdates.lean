import AlexaClientSDK.OrderedSets
import AlexaClientSDK.AlertAgreement

/-!
# Updates of scheduled alerts

`updateAlert` takes an alert out of the set, gives it a new time and new assets, and writes it to the storage. Where a
step fails it changes the alert back, and in every case a guard puts it into the set again.
-/

namespace AlexaClientSDK.AlertUpdates

open Option List OrderedSets Alerts AlertStorage AlertScheduler AlertAgreement Scheduler

section

theorem timeComparator_iff (lhs rhs : Alert) : TimeComparator lhs rhs=true ↔
    scheduledTimeUnix lhs<scheduledTimeUnix rhs ∨
      scheduledTimeUnix lhs=scheduledTimeUnix rhs ∧ lhs.token<rhs.token := by
  unfold TimeComparator
  split
  · next htime =>
    rw [decide_eq_true_iff,or_iff_right (by omega),and_iff_right htime]
  · next htime =>
    rw [decide_eq_true_iff,or_iff_left fun h => htime h.1]

theorem timeComparator_comparison : Comparison TimeComparator where
  asymm := fun {lhs rhs} h => by
    rw [Bool.eq_false_iff,Ne,timeComparator_iff]
    rcases (timeComparator_iff lhs rhs).mp h with hless|⟨hsame,hless⟩
    · omega
    · rintro (hgreater|⟨-,hgreater⟩)
      · omega
      · exact lt_asymm hless hgreater
  between := fun {lhs rhs} other h => by
    rw [timeComparator_iff,timeComparator_iff]
    rcases (timeComparator_iff lhs rhs).mp h with hless|⟨hsame,hless⟩
    · rcases lt_trichotomy (scheduledTimeUnix lhs) (scheduledTimeUnix other) with hlt|heq|hgt
      · exact .inl (.inl hlt)
      · exact .inr (.inl (by omega))
      · exact .inr (.inl (by omega))
    · rcases lt_trichotomy (scheduledTimeUnix lhs) (scheduledTimeUnix other) with hlt|heq|hgt
      · exact .inl (.inl hlt)
      · rcases lt_or_ge lhs.token other.token with hlt|hge
        · exact .inl (.inr ⟨heq,hlt⟩)
        · exact .inr (.inr ⟨by omega,lt_of_le_of_lt hge hless⟩)
      · exact .inr (.inl (by omega))

theorem insertAlert_eq (alert : Alert) (alerts : List Alert) :
    insertAlert alert alerts=insertInto TimeComparator alert alerts := by
  induction alerts with
  | nil => rfl
  | cons other alerts ih => rw [insertAlert,insertInto,ih]

theorem eraseFromSet_eq_erase {alert : Alert} {alerts : List Alert} (hordered : Ordered TimeComparator alerts)
    (hmem : alert∈alerts) : eraseFromSet alert alerts=alerts.erase alert :=
  eraseFrom_eq_erase timeComparator_comparison hordered hmem

end

section

variable (convert8601TimeStringToUnix : String → Option ℤ)

section

variable (succeeds : Bool)

/-- `modify`, whose statement may fail. -/
def modifyIf (storage : Storage) (alert : Alert) : Option Storage :=
  if succeeds then storage.modify alert else none

/-- Between the removal and the guard, with the result of `modify`. -/
def changeAlert (modify : Alert → Option Storage) (storage : Storage) (alert : Alert) (newScheduledTime : String)
    (newAssetConfiguration : AssetConfiguration) : Bool × Alert × Storage :=
  let oldScheduledTime := alert.dynamicData.timePoint.timeISO8601
  let oldAssetConfiguration := alert.dynamicData.assetConfiguration
  let timed := alert.updateScheduledTime convert8601TimeStringToUnix newScheduledTime
  if timed.1 then
    let configured := timed.2.setAssetConfiguration newAssetConfiguration
    if configured.1 then
      match modify configured.2 with
      | some storage => (true,configured.2,storage)
      | none =>
        let back := (configured.2.updateScheduledTime convert8601TimeStringToUnix oldScheduledTime).2
        (false,(back.setAssetConfiguration oldAssetConfiguration).2,storage)
    else (false,(configured.2.updateScheduledTime convert8601TimeStringToUnix oldScheduledTime).2,storage)
  else (false,timed.2,storage)

section

variable (s : Scheduler)

/-- `updateAlert`, with a statement that may fail. -/
def updateAlertIf (alert : Alert) (newScheduledTime : String)
    (newAssetConfiguration : AssetConfiguration) (now : Option ℤ) : Bool × Scheduler :=
  let changed := changeAlert convert8601TimeStringToUnix (modifyIf succeeds s.storage) s.storage alert newScheduledTime
    newAssetConfiguration
  (changed.1,({s with
    storage := changed.2.2
    scheduledAlerts := eraseFromSet alert s.scheduledAlerts}).finishUpdate changed.2.1 now)

theorem updateAlert_eq (alert : Alert) (newScheduledTime : String)
    (newAssetConfiguration : AssetConfiguration) (now : Option ℤ) :
    s.updateAlert convert8601TimeStringToUnix alert newScheduledTime newAssetConfiguration now =
      updateAlertIf convert8601TimeStringToUnix true s alert newScheduledTime newAssetConfiguration now := by
  unfold updateAlert updateAlertIf changeAlert modifyIf
  dsimp only
  rw [if_pos rfl]
  split
  · split
    · generalize s.storage.modify _=modified
      cases modified with
      | none => rfl
      | some => rfl
    · rfl
  · rfl

def changedAlert (alert : Alert) (timePoint : TimePoint) (configuration : AssetConfiguration) : Alert :=
  {alert with
    dynamicData := {alert.dynamicData with
      state := .set
      timePoint := timePoint
      assetConfiguration := configuration}}

structure Stored (storage : Storage) (alert : Alert) : Prop where
  row : alertRow alert∈storage.alerts
  assets : ∀ id,(assetsOfList (storage.loadAlertAssets alert.id)).lookup id =
    alert.dynamicData.assetConfiguration.assets.lookup id
  playOrder : (storage.loadAlertAssetPlayOrderItems alert.id).map Prod.snd =
    alert.dynamicData.assetConfiguration.assetPlayOrderItems

/-- The whole change is in the storage, and in memory, where the set has the new alert beside the others in
order. -/
def Applied (s s' : Scheduler) (alert : Alert) (newScheduledTime : String) (newAssetConfiguration : AssetConfiguration) :
    Prop :=
  ∃ timePoint,setTimeISO8601 convert8601TimeStringToUnix newScheduledTime=some timePoint ∧ s'.scheduledAlerts.Perm
      (changedAlert alert timePoint newAssetConfiguration::s.scheduledAlerts.erase alert) ∧
    Ordered TimeComparator s'.scheduledAlerts ∧ Stored s'.storage (changedAlert alert timePoint newAssetConfiguration)

/-- Nothing has changed, in memory or in the storage. -/
def Unchanged (s s' : Scheduler) : Prop := s'.scheduledAlerts=s.scheduledAlerts ∧ s'.storage=s.storage

/-- Success has applied the whole change, and failure none of it. -/
def UpdatesAtomically (alert : Alert) (newScheduledTime : String)
    (newAssetConfiguration : AssetConfiguration) (now : Option ℤ) : Prop :=
  let updated := updateAlertIf convert8601TimeStringToUnix succeeds s alert newScheduledTime newAssetConfiguration now
  (updated.1=true → Applied convert8601TimeStringToUnix s updated.2 alert newScheduledTime newAssetConfiguration) ∧
    (updated.1=false → Unchanged s updated.2)

/-- The time of the alert can be changed. -/
def Movable (alert : Alert) : Prop := alert.state≠.active ∧ alert.state≠.activating ∧ alert.state≠.stopping

/-- The row of the alert can be written. -/
def Writable (storage : Storage) (alert : Alert) : Prop :=
  succeeds=true ∧ storage.alertExists alert.token=true

/-- The alert is set, and its time is read again as it is. -/
def Restorable (alert : Alert) : Prop :=
  alert.state=.set ∧
    convert8601TimeStringToUnix alert.dynamicData.timePoint.timeISO8601=some alert.dynamicData.timePoint.timeUnix

structure StoresConfiguration (storage : Storage) (alert : Alert) (configuration : AssetConfiguration) : Prop where
  /-- The row of the alert, with what `modify` does not write. -/
  row : ∃ row∈storage.alerts,row.id=alert.id ∧ row.token=alert.token ∧ row.type=alertTypeToDbField alert.type ∧
    row.assetLoopCount=alert.dynamicData.loopCount ∧ row.assetLoopPauseMilliseconds=toInt configuration.loopPause ∧
    row.backgroundAsset=configuration.backgroundAssetId
  assets : ∀ id,(assetsOfList (storage.loadAlertAssets alert.id)).lookup id=configuration.assets.lookup id
  playOrder : (storage.loadAlertAssetPlayOrderItems alert.id).map Prod.snd=configuration.assetPlayOrderItems

/-- If the row can be written, there is no other alert under the token at the new time, and the storage has
the new configuration; else, or if the new configuration is not valid, what was before can be set again. -/
def AtomicallyUpdatable (alert : Alert) (newScheduledTime : String)
    (newAssetConfiguration : AssetConfiguration) : Prop :=
  ∀ unix,Movable alert → convert8601TimeStringToUnix newScheduledTime=some unix →
    (validateAssetConfiguration newAssetConfiguration=false → Restorable convert8601TimeStringToUnix alert) ∧
    (validateAssetConfiguration newAssetConfiguration=true → Writable succeeds s.storage alert →
      (∀ other∈s.scheduledAlerts.erase alert,other.token=alert.token → scheduledTimeUnix other≠unix) ∧
        StoresConfiguration s.storage alert newAssetConfiguration) ∧
    (validateAssetConfiguration newAssetConfiguration=true → ¬Writable succeeds s.storage alert →
      Restorable convert8601TimeStringToUnix alert ∧
        validateAssetConfiguration alert.dynamicData.assetConfiguration=true)

end

end

end

section

/-- Setting the timer when no alert is active changes no alert. -/
theorem setTimerIfIdle_parts (s : Scheduler) (now : Option ℤ) :
    (s.setTimerIfIdle now).scheduledAlerts=s.scheduledAlerts ∧ (s.setTimerIfIdle now).storage=s.storage := by
  obtain ⟨-,hscheduled,hstorage,-⟩ := s.setTimerForNextAlertLocked_parts now
  unfold setTimerIfIdle
  split
  · exact ⟨hscheduled,hstorage⟩
  · exact ⟨rfl,rfl⟩

/-- The alert is in the set, and the storage is as it was left. -/
theorem finishUpdate_parts (s : Scheduler) (alert : Alert) (now : Option ℤ) :
    (s.finishUpdate alert now).scheduledAlerts=insertAlert alert s.scheduledAlerts ∧
      (s.finishUpdate alert now).storage=s.storage :=
  setTimerIfIdle_parts _ now

variable {s s' : Scheduler} {alert changed : Alert}

section

variable (hordered : Ordered TimeComparator s.scheduledAlerts)
  (hmem : alert∈s.scheduledAlerts)
  (hset : s'.scheduledAlerts=insertAlert changed (eraseFromSet alert s.scheduledAlerts))
include hordered hmem hset

theorem unchanged_iff (hstorage : s'.storage=s.storage) : Unchanged s s' ↔ changed=alert := by
  have hrest : Ordered TimeComparator (s.scheduledAlerts.erase alert) :=
    List.Pairwise.sublist erase_sublist hordered
  rw [insertAlert_eq,eraseFromSet_eq_erase hordered hmem] at hset
  unfold Unchanged
  rw [and_iff_left hstorage,hset]
  constructor
  · intro hsame
    have hperm : (insertInto TimeComparator changed (s.scheduledAlerts.erase alert)).Perm
        (alert::s.scheduledAlerts.erase alert) := by
      rw [hsame]
      exact perm_cons_erase hmem
    exact (of_insertInto_perm timeComparator_comparison hrest hperm).1
  · rintro rfl
    exact insertInto_erase timeComparator_comparison hordered hmem

/-- It is beside the others exactly when none has its token and its time. -/
theorem perm_iff :
    (s'.scheduledAlerts.Perm (changed::s.scheduledAlerts.erase alert) ∧ Ordered TimeComparator s'.scheduledAlerts) ↔
      ∀ other∈s.scheduledAlerts.erase alert,other.token=changed.token →
        scheduledTimeUnix other≠scheduledTimeUnix changed := by
  have hrest : Ordered TimeComparator (s.scheduledAlerts.erase alert) :=
    List.Pairwise.sublist erase_sublist hordered
  have hdiffer : ∀ other : Alert,(TimeComparator changed other=true ∨ TimeComparator other changed=true) ↔
      (other.token=changed.token → scheduledTimeUnix other≠scheduledTimeUnix changed) := fun other => by
    rw [or_comm,←Bool.or_eq_true,←not_iff_not,Bool.not_eq_true,comparator_eq_false_iff,Classical.not_imp,not_not]
    exact and_comm
  rw [insertAlert_eq,eraseFromSet_eq_erase hordered hmem] at hset
  rw [hset,and_iff_left (hrest.insertInto timeComparator_comparison changed)]
  constructor
  · intro hperm other hother
    exact (hdiffer other).mp ((of_insertInto_perm timeComparator_comparison hrest hperm).2 other hother)
  · intro hnew
    exact insertInto_perm fun other hother => (hdiffer other).mpr (hnew other hother)

end

end

section

variable {convert : String → Option ℤ} {limit : ℤ} {s s' : Scheduler} {event : Event}

/-- An alert that is put in or taken out keeps the order. -/
theorem ordered_insertAlert {alerts : List Alert} (h : Ordered TimeComparator alerts) (alert : Alert) :
    Ordered TimeComparator (insertAlert alert alerts) := by
  rw [insertAlert_eq]
  exact h.insertInto timeComparator_comparison alert

theorem ordered_reloadAlert (h : Ordered TimeComparator s.scheduledAlerts) (now : ℤ) (alert : Alert) :
    Ordered TimeComparator (s.reloadAlert limit now alert).scheduledAlerts := by
  unfold reloadAlert
  split
  · exact h
  · split
    · rw [((s.notifyObserver alert.token .pastDue).eraseAlert_parts alert).2.1]
      exact h
    · split
      · exact ordered_insertAlert h (alert.withState .set)
      · exact ordered_insertAlert h alert

theorem ordered_reload (s : Scheduler) (h : Ordered TimeComparator s.scheduledAlerts) (shouldScheduleAlerts : Bool)
    (now : Option ℤ) : Ordered TimeComparator
      (s.reloadAlertsFromDatabase convert limit shouldScheduleAlerts now).2.scheduledAlerts := by
  have hfold : ∀ (alerts : List Alert) (now : ℤ) (s : Scheduler),Ordered TimeComparator s.scheduledAlerts →
      Ordered TimeComparator (alerts.foldl (fun s alert => s.reloadAlert limit now alert) s).scheduledAlerts := by
    intro alerts now
    induction alerts with
    | nil => exact fun s h => h
    | cons alert alerts ih => exact fun s h => ih _ (ordered_reloadAlert h now alert)
  have hset : ∀ (alerts set : List Alert),Ordered TimeComparator set →
      Ordered TimeComparator (alerts.foldl (fun set alert => insertAlert alert set) set) := by
    intro alerts
    induction alerts with
    | nil => exact fun set h => h
    | cons alert alerts ih => exact fun set h => ih _ (ordered_insertAlert h alert)
  unfold reloadAlertsFromDatabase reloadAlerts
  cases now with
  | none => exact h
  | some now =>
    dsimp only
    split
    · rw [(setTimerIfIdle_parts _ _).1]
      exact hfold _ now _ List.Pairwise.nil
    · exact hset _ [] List.Pairwise.nil

section

variable (h : Ordered TimeComparator s.scheduledAlerts)
include h

theorem ordered_executeOnAlertStateChange (token : String) (state : ObserverState) (now : Option ℤ) :
    Ordered TimeComparator (s.executeOnAlertStateChange token state now).scheduledAlerts := by
  have htimer : ∀ s : Scheduler,Ordered TimeComparator s.scheduledAlerts →
      Ordered TimeComparator (s.setTimerForNextAlertLocked now).scheduledAlerts := fun s h => by
    rw [(s.setTimerForNextAlertLocked_parts now).2.1]
    exact h
  have herase : ∀ (s : Scheduler) (alert : Alert),Ordered TimeComparator s.scheduledAlerts →
      Ordered TimeComparator (s.eraseAlert alert).scheduledAlerts := fun s alert h => by
    rw [(s.eraseAlert_parts alert).2.1]
    exact h
  have hactive : ∀ s : Scheduler,Ordered TimeComparator s.scheduledAlerts →
      Ordered TimeComparator s.eraseActiveAlert.scheduledAlerts := fun s h => by
    unfold eraseActiveAlert
    split
    · exact h
    · exact herase s _ h
  unfold executeOnAlertStateChange
  cases state with
  | started =>
    dsimp only
    split
    · exact h
    · split
      · exact h
      · exact h
  | stopped =>
    dsimp only
    split
    · exact htimer _ (hactive _ h)
    · split
      · exact htimer _ h
      · exact htimer _ (herase _ _ h)
  | completed => exact htimer _ (hactive _ h)
  | snoozed =>
    dsimp only
    split
    · exact h
    · exact htimer _ (ordered_insertAlert h _)
  | error =>
    dsimp only
    split
    · exact htimer _ (hactive _ h)
    · split
      · exact h
      · exact htimer _ ((herase _ _ h).eraseFrom _)
  | ready => exact h
  | pastDue => exact h
  | focusEnteredForeground => exact h
  | focusEnteredBackground => exact h
  | deleted => exact h
  | scheduledForLater => exact h

theorem ordered_scheduleAlert (alert : Alert) (now : Option ℤ) :
    Ordered TimeComparator (s.scheduleAlert convert limit alert now).2.scheduledAlerts := by
  unfold scheduleAlert
  split
  · exact h
  · split
    · exact h
    · split
      · next oldAlert _ =>
        split
        · exact h
        · rw [updateAlert_eq]
          unfold updateAlertIf
          rw [(finishUpdate_parts _ _ _).1]
          exact ordered_insertAlert (h.eraseFrom oldAlert) _
      · split
        · exact h
        · next storage alert' _ =>
          rw [(setTimerIfIdle_parts _ _).1]
          exact ordered_insertAlert h alert'

theorem ordered_deleteAlerts (tokenList : List String) (now : Option ℤ) :
    Ordered TimeComparator (s.deleteAlerts tokenList now).2.scheduledAlerts := by
  have hfold : ∀ (alerts : List Alert) (s : Scheduler),Ordered TimeComparator s.scheduledAlerts →
      Ordered TimeComparator (alerts.foldl removeAlert s).scheduledAlerts := by
    intro alerts
    induction alerts with
    | nil => exact fun s h => h
    | cons alert alerts ih => exact fun s h => ih _ (h.eraseFrom alert)
  unfold deleteAlerts
  dsimp only
  split
  · exact h
  · rw [(setTimerForNextAlertLocked_parts _ now).2.1]
    exact hfold _ _ h

theorem ordered_step (hstep : Step convert limit s event s') : Ordered TimeComparator s'.scheduledAlerts := by
  cases hstep with
  | scheduleAlert alert now => exact ordered_scheduleAlert h alert now
  | snoozeAlert =>
    unfold snoozeAlert
    split
    · exact h
    · split
      · exact h
      · exact h
  | deleteAlert token now =>
    unfold deleteAlert
    split
    · exact h
    · split
      · exact h
      · next alert _ =>
        rw [(setTimerForNextAlertLocked_parts _ now).2.1]
        rw [(s.eraseAlert_parts alert).2.1]
        exact h.eraseFrom alert
  | deleteAlerts tokens now => exact ordered_deleteAlerts h tokens now
  | reloadAlertsFromDatabase shouldScheduleAlerts now => exact ordered_reload s h shouldScheduleAlerts now
  | updateFocus =>
    unfold updateFocus
    split
    · exact h
    · dsimp only
      split
      · exact h
      · exact h
      · exact h
      · unfold activateNextAlertLocked
        split
        · next alerts _ hscheduled =>
          rw [hscheduled] at h
          exact (pairwise_cons.mp h).2
        · exact h
  | onLocalStop => exact h
  | clearData => exact List.Pairwise.nil
  | onAlertStateChange token state now => exact ordered_executeOnAlertStateChange h token state now
  | changeState token state =>
    refine pairwise_map.mpr (List.Pairwise.imp (fun {alert other} hless => ?_) h)
    have hkept : ∀ alert : Alert,scheduledTimeUnix (if alert.token=token then alert.withState state else alert) =
        scheduledTimeUnix alert ∧
        (if alert.token=token then alert.withState state else alert).token=alert.token := fun alert => by
      split
      · exact ⟨rfl,rfl⟩
      · exact ⟨rfl,rfl⟩
    rw [timeComparator_iff] at hless ⊢
    rw [(hkept alert).1,(hkept alert).2,(hkept other).1,(hkept other).2]
    exact hless
  | restart shouldScheduleAlerts now =>
    exact ordered_reload (new s.storage) List.Pairwise.nil shouldScheduleAlerts (some now)

end

/-- In every run the scheduled alerts keep the order of the set. -/
theorem ordered_of_run (convert : String → Option ℤ) (limit : ℤ) (events : List Event) (s : Scheduler)
    (run : LabelledRuns.Run (Step convert limit) (new createDatabase) events s) :
    Ordered TimeComparator s.scheduledAlerts := by
  have hempty : Ordered TimeComparator (new createDatabase).scheduledAlerts := List.Pairwise.nil
  exact run.invariant (fun s => Ordered TimeComparator s.scheduledAlerts) hempty
    fun _ _ _ h hstep => ordered_step h hstep

def alarmOf (token : String) : Alert := {Alert.new .alarm with staticData := ⟨token,0⟩}

/-- Two alarms of one time are ordered by their tokens. -/
theorem ordered_of_run_two : ∃ events s,LabelledRuns.Run (Step (fun _ => none) 9) (new createDatabase) events s ∧
    s.scheduledAlerts.map Alert.token=["a","b"] ∧ Ordered TimeComparator s.scheduledAlerts := by
  have hrun : LabelledRuns.Run (Step (fun _ => none) 9) (new createDatabase) _ _ :=
    (LabelledRuns.Run.refl.snoc (.scheduleAlert (alarmOf "b") (some 0))).snoc (.scheduleAlert (alarmOf "a") (some 0))
  exact ⟨_,_,hrun,by decide,ordered_of_run _ _ _ _ hrun⟩

end

section

variable {convert : String → Option ℤ} {alert : Alert} {time : String} {configuration : AssetConfiguration}
  {timePoint : TimePoint} {modify : Alert → Option Storage} {storage storage' : Storage}

def timedAlert (alert : Alert) (timePoint : TimePoint) : Alert :=
  {alert with dynamicData := {alert.dynamicData with timePoint := timePoint,state := .set}}

theorem updateScheduledTime_moved (hmovable : Movable alert) (htime : setTimeISO8601 convert time=some timePoint) :
    alert.updateScheduledTime convert time=(true,timedAlert alert timePoint) := by
  unfold Alert.updateScheduledTime
  rw [if_neg,htime]
  · rfl
  · rintro (h|h|h)
    · exact hmovable.1 h
    · exact hmovable.2.1 h
    · exact hmovable.2.2 h

theorem updateScheduledTime_stays (h : ∀ timePoint,Movable alert → setTimeISO8601 convert time≠some timePoint) :
    alert.updateScheduledTime convert time=(false,alert) := by
  unfold Alert.updateScheduledTime
  split
  · rfl
  · next hstate =>
    obtain ⟨hactive,hrest⟩ := not_or.mp hstate
    cases htime : setTimeISO8601 convert time with
    | none => rfl
    | some timePoint => exact absurd htime (h timePoint ⟨hactive,not_or.mp hrest⟩)

/-- Its old time and state are back exactly when it could be restored. -/
theorem restored_iff (htime : setTimeISO8601 convert time=some timePoint) :
    ((timedAlert alert timePoint).updateScheduledTime convert alert.dynamicData.timePoint.timeISO8601).2=alert ↔
      Restorable convert alert := by
  have hmovable : Movable (timedAlert alert timePoint) :=
    ⟨nofun,nofun,nofun⟩
  obtain ⟨unix,hunix,rfl⟩ := map_eq_some_iff.mp htime
  unfold Restorable
  cases hold : convert alert.dynamicData.timePoint.timeISO8601 with
  | none =>
    have hstays : setTimeISO8601 convert alert.dynamicData.timePoint.timeISO8601=none := by
      unfold setTimeISO8601
      rw [hold]
      rfl
    rw [updateScheduledTime_stays fun other _ => by rw [hstays]; exact (some_ne_none other).symm]
    refine iff_of_false (fun hsame => ?_) fun h => some_ne_none _ h.2.symm
    -- the new time cannot be read, if it is the old one
    have htext : time=alert.dynamicData.timePoint.timeISO8601 :=
      congrArg (fun alert => alert.dynamicData.timePoint.timeISO8601) hsame
    rw [htext,hold] at hunix
    exact some_ne_none _ hunix.symm
  | some oldUnix =>
    have hread : setTimeISO8601 convert alert.dynamicData.timePoint.timeISO8601 =
        some ⟨alert.dynamicData.timePoint.timeISO8601,oldUnix⟩ := by
      unfold setTimeISO8601
      rw [hold]
      rfl
    rw [updateScheduledTime_moved hmovable hread]
    constructor
    · intro hsame
      exact ⟨(congrArg Alert.state hsame).symm,
        congrArg (fun alert => some alert.dynamicData.timePoint.timeUnix) hsame⟩
    · rintro ⟨hstate,hsame⟩
      rw [some.inj hsame]
      unfold timedAlert
      rw [←hstate]
      rfl

def configuredAlert (alert : Alert) (configuration : AssetConfiguration) : Alert :=
  {alert with dynamicData := {alert.dynamicData with assetConfiguration := configuration}}

theorem setAssetConfiguration_valid (hvalid : validateAssetConfiguration configuration=true) :
    alert.setAssetConfiguration configuration=(true,configuredAlert alert configuration) := by
  unfold Alert.setAssetConfiguration
  rw [if_pos hvalid]
  rfl

section

variable (convert)

theorem updateScheduledTime_configured (alert : Alert) (configuration : AssetConfiguration)
    (time : String) : ((configuredAlert alert configuration).updateScheduledTime convert time).2 =
      configuredAlert (alert.updateScheduledTime convert time).2 configuration := by
  have hstate : (configuredAlert alert configuration).state=alert.state := rfl
  unfold Alert.updateScheduledTime
  rw [hstate]
  split
  · rfl
  · cases setTimeISO8601 convert time with
    | none => rfl
    | some => rfl

theorem configuredAlert_updateScheduledTime (alert : Alert) (time : String) :
    configuredAlert (alert.updateScheduledTime convert time).2 alert.dynamicData.assetConfiguration =
      (alert.updateScheduledTime convert time).2 :=
  (updateScheduledTime_configured convert alert alert.dynamicData.assetConfiguration time).symm

end

/-- An alert has its old time, state and assets again exactly when it could be restored and these assets are
valid. -/
theorem rolledBack_iff (htime : setTimeISO8601 convert time=some timePoint)
    (hvalid : validateAssetConfiguration configuration=true) :
    (((changedAlert alert timePoint configuration).updateScheduledTime convert
        alert.dynamicData.timePoint.timeISO8601).2.setAssetConfiguration alert.dynamicData.assetConfiguration).2=alert ↔
      Restorable convert alert ∧ validateAssetConfiguration alert.dynamicData.assetConfiguration=true := by
  have hchanged : changedAlert alert timePoint configuration=configuredAlert (timedAlert alert timePoint) configuration :=
    rfl
  rw [hchanged,updateScheduledTime_configured]
  unfold Alert.setAssetConfiguration
  cases hold : validateAssetConfiguration alert.dynamicData.assetConfiguration with
  | true =>
    rw [if_pos rfl,and_iff_left rfl,←restored_iff htime]
    have hsame := configuredAlert_updateScheduledTime convert (timedAlert alert timePoint)
      alert.dynamicData.timePoint.timeISO8601
    rw [←hsame]
    exact Iff.rfl
  | false =>
    rw [if_neg Bool.false_ne_true]
    refine iff_of_false (fun hsame => ?_) fun h => Bool.false_ne_true h.2
    have hassets : configuration=alert.dynamicData.assetConfiguration :=
      congrArg (fun alert => alert.dynamicData.assetConfiguration) hsame
    rw [hassets,hold] at hvalid
    exact Bool.false_ne_true hvalid

theorem changeAlert_stays (h : ∀ timePoint,Movable alert → setTimeISO8601 convert time≠some timePoint) :
    changeAlert convert modify storage alert time configuration=(false,alert,storage) := by
  unfold changeAlert
  rw [updateScheduledTime_stays h]
  rfl

section

variable (hmovable : Movable alert) (htime : setTimeISO8601 convert time=some timePoint)
include hmovable htime

theorem changeAlert_invalid (hvalid : validateAssetConfiguration configuration=false) :
    changeAlert convert modify storage alert time configuration =
      (false,((timedAlert alert timePoint).updateScheduledTime convert alert.dynamicData.timePoint.timeISO8601).2,
        storage) := by
  unfold changeAlert Alert.setAssetConfiguration
  rw [updateScheduledTime_moved hmovable htime]
  rw [if_pos rfl,hvalid,if_neg Bool.false_ne_true,if_neg Bool.false_ne_true]

/-- It is as it should be, if the row is written, and else as before. -/
theorem changeAlert_valid (hvalid : validateAssetConfiguration configuration=true) :
    (∀ storage',modify (changedAlert alert timePoint configuration)=some storage' →
      changeAlert convert modify storage alert time configuration =
        (true,changedAlert alert timePoint configuration,storage')) ∧
    (modify (changedAlert alert timePoint configuration)=none →
      changeAlert convert modify storage alert time configuration =
        (false,(((changedAlert alert timePoint configuration).updateScheduledTime convert
          alert.dynamicData.timePoint.timeISO8601).2.setAssetConfiguration
            alert.dynamicData.assetConfiguration).2,storage)) := by
  have hchanged : configuredAlert (timedAlert alert timePoint) configuration=changedAlert alert timePoint configuration :=
    rfl
  unfold changeAlert
  rw [updateScheduledTime_moved hmovable htime]
  rw [if_pos rfl,setAssetConfiguration_valid hvalid,hchanged]
  rw [if_pos rfl]
  constructor
  · intro storage' hmodify
    rw [hmodify]
  · intro hmodify
    rw [hmodify]

end

theorem writable_iff (succeeds : Bool) (storage : Storage) (alert : Alert) :
    (modifyIf succeeds storage alert).isSome=true ↔ Writable succeeds storage alert := by
  unfold modifyIf Writable
  rw [Storage.modify_eq]
  split
  · next hsucceeds =>
    rw [and_iff_right hsucceeds]
    split
    · next hexists => exact iff_of_true rfl hexists
    · next hexists => exact iff_of_false nofun hexists
  · next hfails => exact iff_of_false nofun fun h => hfails h.1

/-- A written alert is stored exactly when its assets are there already. -/
theorem stored_iff (hmodify : storage.modify (changedAlert alert timePoint configuration)=some storage') :
    Stored storage' (changedAlert alert timePoint configuration) ↔ StoresConfiguration storage alert configuration := by
  rw [Storage.modify_eq] at hmodify
  split at hmodify
  · obtain rfl := some.inj hmodify
    constructor
    · rintro ⟨hrow,hassets,hplayOrder⟩
      obtain ⟨row,hmem,hwritten⟩ := mem_map.mp hrow
      refine ⟨⟨row,hmem,?_⟩,hassets,hplayOrder⟩
      split at hwritten
      · next hid =>
        exact ⟨hid,congrArg AlertRow.token hwritten,congrArg AlertRow.type hwritten,
          congrArg AlertRow.assetLoopCount hwritten,congrArg AlertRow.assetLoopPauseMilliseconds hwritten,
          congrArg AlertRow.backgroundAsset hwritten⟩
      · next hid => exact absurd (congrArg AlertRow.id hwritten) hid
    · rintro ⟨⟨row,hmem,hid,htoken,htype,hcount,hpause,hbackground⟩,hassets,hplayOrder⟩
      refine ⟨mem_map.mpr ⟨row,hmem,?_⟩,hassets,hplayOrder⟩
      have hid' : row.id=(changedAlert alert timePoint configuration).id := hid
      rw [if_pos hid']
      unfold modifiedRow
      rw [hid,htoken,htype,hcount,hpause,hbackground]
      rfl
  · exact absurd hmodify.symm (some_ne_none _)

end

section

variable {convert : String → Option ℤ} {s : Scheduler} {alert changed : Alert} {succeeds : Bool} {time : String}
  {configuration : AssetConfiguration} {now : Option ℤ} {timePoint : TimePoint} {storage : Storage}

section

variable (hordered : Ordered TimeComparator s.scheduledAlerts) (hmem : alert∈s.scheduledAlerts)
include hordered hmem

theorem updatesAtomically_failed_iff
    (hchange : changeAlert convert (modifyIf succeeds s.storage) s.storage alert time configuration =
      (false,changed,s.storage)) :
    UpdatesAtomically convert succeeds s alert time configuration now ↔ changed=alert := by
  unfold UpdatesAtomically updateAlertIf
  rw [hchange]
  obtain ⟨hset,hstorage⟩ := finishUpdate_parts {s with
    storage := s.storage
    scheduledAlerts := eraseFromSet alert s.scheduledAlerts} changed now
  rw [←unchanged_iff hordered hmem hset hstorage]
  exact ⟨fun h => h.2 rfl,fun h => ⟨nofun,fun _ => h⟩⟩

/-- The alert is put beside the others and its assets are stored already. -/
theorem updatesAtomically_succeeded_iff (htime : setTimeISO8601 convert time=some timePoint)
    (hmodify : s.storage.modify (changedAlert alert timePoint configuration)=some storage)
    (hchange : changeAlert convert (modifyIf succeeds s.storage) s.storage alert time configuration =
      (true,changedAlert alert timePoint configuration,storage)) :
    UpdatesAtomically convert succeeds s alert time configuration now ↔
      (∀ other∈s.scheduledAlerts.erase alert,other.token=alert.token →
        scheduledTimeUnix other≠timePoint.timeUnix) ∧ StoresConfiguration s.storage alert configuration := by
  unfold UpdatesAtomically updateAlertIf
  rw [hchange]
  obtain ⟨hset,hstorage⟩ := finishUpdate_parts {s with
    storage := storage
    scheduledAlerts := eraseFromSet alert s.scheduledAlerts} (changedAlert alert timePoint configuration) now
  have hput := perm_iff (s := s) hordered hmem hset
  constructor
  · rintro ⟨happlied,-⟩
    obtain ⟨timePoint',htime',hperm,hsorted,hstored⟩ := happlied rfl
    obtain rfl := some.inj (htime.symm.trans htime')
    rw [hstorage] at hstored
    exact ⟨hput.mp ⟨hperm,hsorted⟩,(stored_iff hmodify).mp hstored⟩
  · rintro ⟨hnew,hstores⟩
    obtain ⟨hperm,hsorted⟩ := hput.mpr hnew
    refine ⟨fun _ => ⟨timePoint,htime,hperm,hsorted,?_⟩,nofun⟩
    rw [hstorage]
    exact (stored_iff hmodify).mpr hstores

end

/-- It is all or nothing exactly when what it needs for that is there. -/
theorem updatesAtomically_iff (hordered : Ordered TimeComparator s.scheduledAlerts) (hmem : alert∈s.scheduledAlerts)
    (succeeds : Bool) (newScheduledTime : String) (newAssetConfiguration : AssetConfiguration) (now : Option ℤ) :
    UpdatesAtomically convert succeeds s alert newScheduledTime newAssetConfiguration now ↔
      AtomicallyUpdatable convert succeeds s alert newScheduledTime newAssetConfiguration := by
  unfold AtomicallyUpdatable
  by_cases hmoved : Movable alert ∧ ∃ unix,convert newScheduledTime=some unix
  · obtain ⟨hmovable,unix,hunix⟩ := hmoved
    have htime : setTimeISO8601 convert newScheduledTime=some ⟨newScheduledTime,unix⟩ := by
      unfold setTimeISO8601
      rw [hunix]
      rfl
    have hone : ∀ P : ℤ → Prop,(∀ unix,Movable alert → convert newScheduledTime=some unix → P unix) ↔ P unix := fun P =>
      ⟨fun h => h unix hmovable hunix,fun h unix' _ hunix' => by
        rw [←some.inj (hunix.symm.trans hunix')]
        exact h⟩
    rw [hone]
    cases hvalid : validateAssetConfiguration newAssetConfiguration with
    | false =>
      rw [updatesAtomically_failed_iff hordered hmem (changeAlert_invalid hmovable htime hvalid),restored_iff htime]
      exact ⟨fun h => ⟨fun _ => h,nofun,nofun⟩,fun h => h.1 rfl⟩
    | true =>
      have hwritable := writable_iff succeeds s.storage
        (changedAlert alert ⟨newScheduledTime,unix⟩ newAssetConfiguration)
      obtain ⟨hsucceeds,hfails⟩ := changeAlert_valid hmovable htime hvalid
      cases hmodify : modifyIf succeeds s.storage (changedAlert alert ⟨newScheduledTime,unix⟩ newAssetConfiguration) with
      | none =>
        have hnot : ¬Writable succeeds s.storage alert := fun h => by
          have hsome := hwritable.mpr h
          rw [hmodify] at hsome
          exact Bool.noConfusion hsome
        rw [updatesAtomically_failed_iff hordered hmem (hfails hmodify),rolledBack_iff htime hvalid]
        exact ⟨fun h => ⟨nofun,fun _ hcan => absurd hcan hnot,fun _ _ => h⟩,fun h => h.2.2 rfl hnot⟩
      | some storage =>
        have hcan : Writable succeeds s.storage alert := hwritable.mp (by rw [hmodify]; rfl)
        have hmodified := hmodify
        unfold modifyIf at hmodified
        rw [if_pos hcan.1] at hmodified
        rw [updatesAtomically_succeeded_iff hordered hmem htime hmodified (hsucceeds storage hmodify)]
        exact ⟨fun h => ⟨nofun,fun _ _ => h,fun _ hnot => absurd hcan hnot⟩,fun h => h.2.1 rfl hcan⟩
  · have hnone : ∀ timePoint,Movable alert → setTimeISO8601 convert newScheduledTime≠some timePoint :=
      fun timePoint hmovable htime => by
        obtain ⟨unix,hunix,-⟩ := map_eq_some_iff.mp htime
        exact hmoved ⟨hmovable,unix,hunix⟩
    rw [updatesAtomically_failed_iff hordered hmem (changeAlert_stays hnone)]
    exact iff_of_true rfl fun unix hmovable hunix => absurd ⟨hmovable,unix,hunix⟩ hmoved

def readTwoTimes (text : String) : Option ℤ := if text = "10" then some 10 else if text = "20" then some 20 else none

/-- A scheduled alarm without assets. -/
def alarmAtTen : Alert :=
  {Alert.new .alarm with
    staticData := ⟨"a",1⟩
    dynamicData := {(Alert.new .alarm).dynamicData with timePoint := ⟨"10",10⟩}}

def schedulerWithAlarm : Scheduler :=
  {new ⟨[alertRow alarmAtTen],[],[]⟩ with scheduledAlerts := [alarmAtTen]}

def oneAsset : AssetConfiguration := ⟨(∅ : Assets).insert "x" ⟨"x","u"⟩,["x"],"",0⟩

/-- The alarm is given another time, with the assets that it has. -/
theorem updatesAtomically_same_assets :
    UpdatesAtomically readTwoTimes true schedulerWithAlarm alarmAtTen "20" .empty none := by
  have hordered : Ordered TimeComparator schedulerWithAlarm.scheduledAlerts := pairwise_singleton _ alarmAtTen
  have hmem : alarmAtTen∈schedulerWithAlarm.scheduledAlerts := mem_singleton_self alarmAtTen
  refine (updatesAtomically_iff hordered hmem true "20" .empty none).mpr fun unix _ _ => ⟨?_,fun _ _ => ⟨?_,?_⟩,?_⟩
  · exact fun hinvalid => absurd hinvalid (by decide)
  · have hnone : schedulerWithAlarm.scheduledAlerts.erase alarmAtTen=[] := by decide
    rw [hnone]
    exact fun other hother => absurd hother not_mem_nil
  · exact ⟨⟨alertRow alarmAtTen,mem_singleton_self _,rfl,rfl,rfl,rfl,rfl,rfl⟩,fun id => rfl,rfl⟩
  · exact fun _ hnot => absurd ⟨rfl,by decide⟩ hnot

/-- The alarm is given an asset, which is not in the storage. -/
theorem new_assets_not_stored : ¬∀ (convert : String → Option ℤ) (limit : ℤ) (events : List Event) (s : Scheduler),
      LabelledRuns.Run (Step convert limit) (new createDatabase) events s →
      ∀ alert∈s.scheduledAlerts,∀ succeeds time configuration now,
        UpdatesAtomically convert succeeds s alert time configuration now := by
  intro hall
  have hrun : LabelledRuns.Run (Step readTwoTimes 1800) (new createDatabase) _ _ :=
    LabelledRuns.Run.refl.snoc (.scheduleAlert {alarmAtTen with staticData := ⟨"a",0⟩} (some 0))
  have hatomic := hall readTwoTimes 1800 _ _ hrun alarmAtTen (by decide) true "20" oneAsset none
  obtain ⟨timePoint,-,-,-,hstored⟩ := hatomic.1 (by decide)
  have hitems : (Storage.loadAlertAssetPlayOrderItems _ 1).map Prod.snd=["x"] := hstored.playOrder
  exact absurd hitems (by decide)

end

end AlexaClientSDK.AlertUpdates
