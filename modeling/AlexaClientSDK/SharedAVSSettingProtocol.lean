import Mathlib.Data.List.Basic

/-!
# The protocol of a setting that is shared with AVS

`localChange` and `avsChange` put their callbacks into the one pending request, and submit a task only when there was
none. The task takes what it finds, applies it, stores it, sends an event and waits for the answer. A new connection
sends what is stored and not yet synchronized. What the callbacks return is part of the steps.
-/

namespace AlexaClientSDK.SharedAVSSettingProtocol

/-- The method that made a request. -/
inductive Kind
  | localChange
  | avsChange
  deriving DecidableEq

inductive SettingStatus
  | notAvailable
  | localChangeInProgress
  | avsChangeInProgress
  | synchronized
  deriving DecidableEq

/-- `SettingNotifications`, those which the protocol uses. -/
inductive SettingNotifications
  | localChangeInProgress
  | avsChangeInProgress
  | localChange
  | avsChange
  | localChangeFailed
  | avsChangeFailed
  deriving DecidableEq

/-- What is sent to AVS. -/
inductive SettingEvent
  | changed
  | report
  deriving DecidableEq

structure Row where
  value : String
  status : SettingStatus

structure Request (κ : Type) where
  /-- How many requests were made before. -/
  number : ℕ
  /-- The method that made it. The code does not keep it. -/
  kind : Kind
  change : κ
  deriving DecidableEq

/-- What is done for a request. -/
inductive Mark
  | notified (notification : SettingNotifications)
  | stored (value : String) (status : SettingStatus)
  | sent (event : SettingEvent) (value : String)
  deriving DecidableEq

/-- What was done for a request that a task has taken. -/
structure Record (κ : Type) where
  request : Request κ
  /-- How many requests had been made when it was taken. -/
  made : ℕ
  marks : List Mark
  deriving DecidableEq

/-- One more thing is done. -/
def Record.mark {κ : Type} (record : Record κ) (mark : Mark) : Record κ :=
  {record with marks := record.marks++[mark]}

inductive Task
  /-- The task of `localChange` or of `avsChange`. -/
  | request (kind : Kind)
  | synchronize
  deriving DecidableEq

/-- A task is given by the method that has submitted it. -/
inductive Stage (κ : Type)
  | idle
  | applying (kind : Kind) (record : Record κ)
  /-- Before `storeSetting`. -/
  | storing (kind : Kind) (record : Record κ) (value : String)
  /-- Waiting for the answer to the event of a request. -/
  | sending (kind : Kind) (record : Record κ) (value : String)
  /-- Waiting for the answer to the event of `executeSynchronizeOnConnected`. -/
  | synchronizing (event : SettingEvent) (value : String)
  /-- Before `updateSettingStatus`. -/
  | updating
  deriving DecidableEq

structure Protocol (κ : Type) where
  isDefaultCloudAuthoritative : Bool
  pendingRequest : Option (Request κ)
  /-- What `m_executor` has not begun. -/
  queue : List Task
  stage : Stage κ
  storage : Option Row
  /-- The calls of `restoreValue` that have loaded the setting. -/
  restoring : List (SettingStatus × κ)
  /-- How many requests were made. -/
  made : ℕ
  handled : List (Record κ)
  events : List (SettingEvent × String)

def Protocol.new (κ : Type) (isDefaultCloudAuthoritative : Bool) (storage : Option Row) : Protocol κ where
  isDefaultCloudAuthoritative := isDefaultCloudAuthoritative
  pendingRequest := none
  queue := []
  stage := .idle
  storage := storage
  restoring := []
  made := 0
  handled := []
  events := []

variable {κ : Type}

/-- What `localChange` and `avsChange` do under `m_requestLock`. -/
def Protocol.request (p : Protocol κ) (kind : Kind) (change : κ) : Protocol κ :=
  {p with
    pendingRequest := some ⟨p.made,kind,change⟩
    queue := if p.pendingRequest.isNone then p.queue++[.request kind] else p.queue
    made := p.made+1}

def Protocol.localChange (p : Protocol κ) (change : κ) : Protocol κ := p.request .localChange change

def Protocol.avsChange (p : Protocol κ) (change : κ) : Protocol κ := p.request .avsChange change

/-- `loadSetting`. Without a row the string is a text for the log. -/
def loadSetting : Option Row → SettingStatus × String
  | none => (.notAvailable,"Retrieving row from database failed.")
  | some row => (row.status,row.value)

section

variable (p : Protocol κ)

/-- Up to the switch, with the value that was loaded or the empty string. -/
def Protocol.restoreValue (applyChange : String → κ) : Protocol κ :=
  let loaded := loadSetting p.storage
  let valueStr := if loaded.1=.notAvailable then "" else loaded.2
  {p with restoring := p.restoring++[(loaded.1,applyChange valueStr)]}

/-- A synchronized value is not kept by the protocol. -/
def Protocol.restoreRequest (status : SettingStatus) (change : κ) : Protocol κ :=
  match status with
  | .notAvailable => if p.isDefaultCloudAuthoritative then p.avsChange change else p.localChange change
  | .localChangeInProgress => p.localChange change
  | .avsChangeInProgress => p.avsChange change
  | .synchronized => p

/-- `clearData`, where `deleteSetting` may fail. -/
def Protocol.clearData (deleted : Bool) : Protocol κ :=
  {p with pendingRequest := none,storage := if deleted then none else p.storage}

def Protocol.connectionStatusChangeCallback (isConnected : Bool) : Protocol κ :=
  if isConnected then {p with queue := p.queue++[.synchronize]} else p

/-- The first notification of a task. -/
def Kind.inProgress : Kind → SettingNotifications
  | .localChange => .localChangeInProgress
  | .avsChange => .avsChangeInProgress

/-- The status that a task stores. -/
def Kind.status : Kind → SettingStatus
  | .localChange => .localChangeInProgress
  | .avsChange => .avsChangeInProgress

/-- The notification of a task that has stored its value. -/
def Kind.done : Kind → SettingNotifications
  | .localChange => .localChange
  | .avsChange => .avsChange

def Kind.failed : Kind → SettingNotifications
  | .localChange => .localChangeFailed
  | .avsChange => .avsChangeFailed

def Kind.event : Kind → SettingEvent
  | .localChange => .changed
  | .avsChange => .report

namespace Protocol

/-- It takes it, if there is one, and notifies the observers. -/
def takeRequest (kind : Kind) (queue : List Task) : Protocol κ :=
  match p.pendingRequest with
  | none => {p with queue := queue}
  | some request =>
    {p with
      pendingRequest := none
      queue := queue
      stage := .applying kind ⟨request,p.made,[.notified kind.inProgress]⟩}

/-- After a failure `localChange` ends, and `avsChange` reports. -/
def applyChange (kind : Kind) (record : Record κ) (ok : Bool) (value : String) : Protocol κ :=
  if ok then {p with stage := .storing kind record value}
  else
    match kind with
    | .localChange => {p with stage := .idle,handled := p.handled++[record.mark (.notified kind.failed)]}
    | .avsChange => {p with stage := .sending kind (record.mark (.notified kind.failed)) value}

/-- After a failure both revert, and `avsChange` reports. -/
def storeSetting (kind : Kind) (record : Record κ) (value : String) (stored : Bool) (reverted : String) : Protocol κ :=
  if stored then
    {p with
      storage := some ⟨value,kind.status⟩
      stage := .sending kind ((record.mark (.stored value kind.status)).mark (.notified kind.done)) value}
  else
    match kind with
    | .localChange => {p with stage := .idle,handled := p.handled++[record.mark (.notified kind.failed)]}
    | .avsChange => {p with stage := .sending kind (record.mark (.notified kind.failed)) reverted}

def answer (event : SettingEvent) (value : String) (ok : Bool) : Protocol κ :=
  if ok then {p with events := p.events++[(event,value)],stage := .updating}
  else {p with stage := .idle}

/-- A task has sent its event. -/
def sendEvent (kind : Kind) (record : Record κ) (value : String) (ok : Bool) : Protocol κ :=
  {p.answer kind.event value ok with handled := p.handled++[record.mark (.sent kind.event value)]}

/-- `updateSettingStatus`. Without a row it does nothing. -/
def updateSettingStatus (updated : Bool) : Protocol κ :=
  {p with
    storage := if updated then p.storage.map fun row => {row with status := .synchronized} else p.storage
    stage := .idle}

/-- `executeSynchronizeOnConnected`, up to the event. -/
def executeSynchronizeOnConnected (queue : List Task) : Protocol κ :=
  let loaded := loadSetting p.storage
  match loaded.1 with
  | .localChangeInProgress => {p with queue := queue,stage := .synchronizing .changed loaded.2}
  | .avsChangeInProgress => {p with queue := queue,stage := .synchronizing .report loaded.2}
  | _ => {p with queue := queue}

end Protocol

end

inductive Event (κ : Type)
  | localChange (change : κ)
  | avsChange (change : κ)
  | restoreValue (applyChange : String → κ)
  | restoreRequest (status : SettingStatus) (change : κ)
  | clearData (deleted : Bool)
  | connectionStatusChanged (isConnected : Bool)
  | takeRequest
  | applyChange (ok : Bool) (value : String)
  | storeSetting (stored : Bool) (reverted : String)
  | sendEvent (ok : Bool)
  | synchronize
  | sendStored (ok : Bool)
  | updateSettingStatus (updated : Bool)

/-- Calls at any time, one thing of the executor after the other. -/
inductive Step : Protocol κ → Event κ → Protocol κ → Prop
  | localChange {p : Protocol κ} (change : κ) : Step p (.localChange change) (p.localChange change)
  | avsChange {p : Protocol κ} (change : κ) : Step p (.avsChange change) (p.avsChange change)
  | restoreValue {p : Protocol κ} (applyChange : String → κ) :
      Step p (.restoreValue applyChange) (p.restoreValue applyChange)
  | restoreRequest {p : Protocol κ} {status : SettingStatus} {change : κ} {first last : List (SettingStatus × κ)}
      (loaded : p.restoring=first++(status,change)::last) :
      Step p (.restoreRequest status change) {p.restoreRequest status change with restoring := first++last}
  | clearData {p : Protocol κ} (deleted : Bool) : Step p (.clearData deleted) (p.clearData deleted)
  | connectionStatusChanged {p : Protocol κ} (isConnected : Bool) :
      Step p (.connectionStatusChanged isConnected) (p.connectionStatusChangeCallback isConnected)
  | takeRequest {p : Protocol κ} {kind : Kind} {queue : List Task} (waits : p.stage=.idle)
      (next : p.queue=.request kind::queue) : Step p .takeRequest (p.takeRequest kind queue)
  | applyChange {p : Protocol κ} {kind : Kind} {record : Record κ} (ok : Bool) (value : String)
      (applies : p.stage=.applying kind record) :
      Step p (.applyChange ok value) (p.applyChange kind record ok value)
  | storeSetting {p : Protocol κ} {kind : Kind} {record : Record κ} {value : String} (stored : Bool)
      (reverted : String) (stores : p.stage=.storing kind record value) :
      Step p (.storeSetting stored reverted) (p.storeSetting kind record value stored reverted)
  | sendEvent {p : Protocol κ} {kind : Kind} {record : Record κ} {value : String} (ok : Bool)
      (sends : p.stage=.sending kind record value) : Step p (.sendEvent ok) (p.sendEvent kind record value ok)
  | synchronize {p : Protocol κ} {queue : List Task} (waits : p.stage=.idle)
      (next : p.queue=.synchronize::queue) : Step p .synchronize (p.executeSynchronizeOnConnected queue)
  | sendStored {p : Protocol κ} {event : SettingEvent} {value : String} (ok : Bool)
      (sends : p.stage=.synchronizing event value) : Step p (.sendStored ok) (p.answer event value ok)
  | updateSettingStatus {p : Protocol κ} (updated : Bool) (updates : p.stage=.updating) :
      Step p (.updateSettingStatus updated) (p.updateSettingStatus updated)

end AlexaClientSDK.SharedAVSSettingProtocol
