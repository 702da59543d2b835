import Mathlib.Data.List.AList

/-!
# Endpoint requests, discovery and reconnection

Requests to add, update or delete an endpoint wait in the pending maps. A pass of the executor, or the post-connect
operation of a new connection, moves them into the in-flight maps and gives a copy to a discovery event sender, which
reports what became of it. A step is what a thread does under one lock, or one read or notification outside of them.
-/

namespace AlexaClientSDK.CapabilitiesDelegate

open Function

/-- The JSON of an endpoint, and the number of its request, if there is one. -/
structure Entry where
  /-- What `getEndpointConfigJson` returned. -/
  config : String
  request : Option ℕ

/-- Endpoints to add or to update. -/
abbrev Endpoints := AList fun _ : String => Entry

/-- Endpoints to delete, with their requests. Their JSON is not read. -/
abbrev Deletions := AList fun _ : String => Option ℕ

/-- Configurations of endpoints: what is registered, and what is stored. -/
abbrev Configs := AList fun _ : String => String

/-- `InProcessEndpointsToConfigMapStruct`. -/
structure InProcess (β : Type) where
  /-- What no sender has been given yet. -/
  pending : AList fun _ : String => β
  inFlight : AList fun _ : String => β

inductive Action
  | addOrUpdate (config : String)
  | delete
deriving DecidableEq

structure Request where
  endpointId : String
  action : Action

/-- As far as it is set after the start. -/
inductive State
  | SUCCESS
  | FATAL_ERROR
  | RETRIABLE_ERROR
deriving DecidableEq

/-- As far as it is set after the start. -/
inductive Error
  | SUCCESS
  | UNKNOWN_ERROR
  | FORBIDDEN
  | SERVER_INTERNAL_ERROR
  | BAD_REQUEST
deriving DecidableEq

/-- An endpoint of a notification and the request it answers. -/
abbrev Report := String × Option ℕ

/-- One call of `setCapabilitiesState`. -/
structure Notification where
  state : State
  error : Error
  addOrUpdate : List Report
  delete : List Report

def getEndpointIdentifiers {β : Type} (request : β → Option ℕ) (endpoints : AList fun _ : String => β) : List Report :=
  endpoints.entries.map fun entry => (entry.1,request entry.2)

/-- The statuses with which a sender gives up and reports it. -/
inductive FatalStatus
  | INVALID_AUTH
  | BAD_REQUEST
deriving DecidableEq

/-- The error `onDiscoveryFailure` sets for a status. -/
def FatalStatus.error : FatalStatus → Error
  | .INVALID_AUTH => .FORBIDDEN
  | .BAD_REQUEST => .BAD_REQUEST

/-- How far the thread of a sender is. -/
inductive Stage
  /-- There is no such sender yet. -/
  | absent
  /-- `sendDiscoveryEvents` was not called yet. -/
  | created
  /-- It sends its events, or waits for the next try. -/
  | sending
  /-- All events are accepted; `onDiscoveryCompleted` is called. -/
  | completed
  | stored
  /-- The deleted endpoints are erased from the storage. -/
  | erased
  | moved
  | reset
  | notified
  /-- Storing or erasing failed, and the observers are to be notified. -/
  | unsaved
  /-- An event was refused; `onDiscoveryFailure` is called. -/
  | failed (status : FatalStatus)
  | read (status : FatalStatus) (addOrUpdate delete : List Report)
  | cleared (status : FatalStatus) (addOrUpdate delete : List Report)
  /-- The current sender is reset after the failure. -/
  | dropped (status : FatalStatus) (addOrUpdate delete : List Report)
  /-- `sendDiscoveryEvents` has returned. -/
  | ended (result : Bool)
deriving DecidableEq

/-- A `DiscoveryEventSender`. -/
structure Sender where
  addOrUpdate : Endpoints
  delete : Deletions
  /-- Whether it has its observer. A sender that lost it has been stopped. -/
  observed : Bool
  stage : Stage

/-- How far a pass of the executor, `executeSendPendingEndpoints`, is. -/
inductive Pass
  | idle
  | connected
  /-- No current sender was seen. -/
  | free
  | wanted
  | moved (addOrUpdate : Endpoints) (delete : Deletions)
  | refused
  | replacing (sender : ℕ)
  /-- `sendDiscoveryEvents` of the sender runs. -/
  | sending (sender : ℕ)

/-- How far `createPostConnectOperation` is. -/
inductive Connecting
  | idle
  | begun
  | prepared (original addOrUpdate : Endpoints) (delete : Deletions)
  /-- The observers know of the endpoints that need not be sent. -/
  | told (addOrUpdate : Endpoints) (delete : Deletions)
  | replacing (sender : ℕ)

inductive Operation
  /-- None was returned since the last connection attempt began. -/
  | none
  | returned (sender : ℕ)
  /-- It was aborted, or given away without being performed. -/
  | aborted (sender : ℕ)

structure Delegate where
  addOrUpdate : InProcess Entry
  delete : InProcess (Option ℕ)
  endpoints : Configs
  storage : Configs
  /-- `m_currentDiscoveryEventSender`. -/
  current : Option ℕ
  senders : ℕ → Sender
  created : ℕ
  operation : Operation
  queue : ℕ
  pass : Pass
  /-- Their endpoint is pending, and they have not looked for a sender yet. -/
  checking : ℕ
  /-- The call of `createPostConnectOperation`. -/
  connecting : Connecting
  isConnected : Bool
  isShuttingDown : Bool
  requests : List Request
  notifications : List Notification

def Sender.none : Sender := ⟨∅,∅,false,.absent⟩

/-- The delegate after `create`, with what an earlier run has stored. -/
def Delegate.create (storage : Configs) : Delegate where
  addOrUpdate := ⟨∅,∅⟩
  delete := ⟨∅,∅⟩
  endpoints := ∅
  storage := storage
  current := Option.none
  senders := fun _ => Sender.none
  created := 0
  operation := .none
  queue := 0
  pass := .idle
  checking := 0
  connecting := .idle
  isConnected := false
  isShuttingDown := false
  requests := []
  notifications := []

namespace Delegate

section

variable (s : Delegate)

def setCapabilitiesState (state : State) (error : Error) (addOrUpdate delete : List Report) : Delegate :=
  {s with notifications := s.notifications++[⟨state,error,addOrUpdate,delete⟩]}

def setStage (sender : ℕ) (stage : Stage) : Delegate :=
  {s with senders := update s.senders sender {s.senders sender with stage := stage}}

/-- A sender gets its observer or loses it. -/
def setObserved (sender : ℕ) (observed : Bool) : Delegate :=
  {s with senders := update s.senders sender {s.senders sender with observed := observed}}

def resetDiscoveryEventSender : Delegate :=
  {s with
    senders := match s.current with
      | some sender => update s.senders sender {s.senders sender with observed := false}
      | none => s.senders
    current := none}

/-- And the reset at the beginning of `addDiscoveryEventSender`. -/
def createSender (addOrUpdate : Endpoints) (delete : Deletions) : Delegate :=
  let s := s.resetDiscoveryEventSender
  {s with
    senders := update s.senders s.created ⟨addOrUpdate,delete,false,.created⟩
    created := s.created+1}

section

variable (sender : ℕ)

/-- `addDiscoveryEventSender` under its lock. -/
def addDiscoveryEventSender : Delegate :=
  {s.setObserved sender true with current := some sender}

/-- Up to its look at the current sender: its answer, and what it leaves. -/
def addOrUpdateEndpoint (valid : Bool) (endpointId config : String) : Bool × Delegate :=
  if valid=false ∨ endpointId∈s.delete.pending ∨ endpointId∈s.addOrUpdate.pending then (false,s)
  else (true,{s with
    addOrUpdate := {s.addOrUpdate with
      pending := s.addOrUpdate.pending.insert endpointId ⟨config,some s.requests.length⟩}
    checking := s.checking+1
    requests := s.requests++[⟨endpointId,.addOrUpdate config⟩]})

/-- `deleteEndpoint` up to its look at the current sender. -/
def deleteEndpoint (valid : Bool) (endpointId : String) : Bool × Delegate :=
  if valid=false ∨ endpointId∈s.addOrUpdate.pending ∨ endpointId∉s.endpoints ∨
      endpointId∈s.delete.pending then (false,s)
  else (true,{s with
    delete := {s.delete with pending := s.delete.pending.insert endpointId (some s.requests.length)}
    checking := s.checking+1
    requests := s.requests++[⟨endpointId,.delete⟩]})

/-- The end of both: a pass is submitted unless there is a current sender. -/
def submitUnlessSending : Delegate :=
  {s with
    checking := s.checking-1
    queue := if s.current=none then s.queue+1 else s.queue}

/-- One kind of them; what is pending already stays as it is. -/
def moveInFlight {β : Type} (endpoints : InProcess β) : InProcess β where
  pending := endpoints.inFlight.entries.foldl
    (fun pending entry => if entry.1∈pending then pending else pending.insert entry.1 entry.2)
    endpoints.pending
  inFlight := ∅

def moveInFlightEndpointsToPending : Delegate :=
  {s with addOrUpdate := moveInFlight s.addOrUpdate,delete := moveInFlight s.delete}

def sendPending : Delegate :=
  {s with
    addOrUpdate := ⟨∅,s.addOrUpdate.pending⟩
    delete := ⟨∅,s.delete.pending⟩}

def moveInFlightEndpointsToRegisteredEndpoints : Delegate :=
  {s with
    endpoints := s.delete.inFlight.entries.foldl (fun endpoints entry => endpoints.erase entry.1)
      (s.addOrUpdate.inFlight.entries.foldl
        (fun endpoints entry => endpoints.insert entry.1 entry.2.config) s.endpoints)
    addOrUpdate := {s.addOrUpdate with inFlight := ∅}
    delete := {s.delete with inFlight := ∅}}

def store (storage : Configs) (entries : List (Σ _ : String,Entry)) : Configs :=
  entries.foldl (fun storage entry => storage.insert entry.1 entry.2.config) storage

def erase (storage : Configs) (entries : List (Σ _ : String,Option ℕ)) : Configs :=
  entries.foldl (fun storage entry => storage.erase entry.1) storage

/-- Those that `filterUnchangedPendingAddOrUpdateEndpointsLocked` works on. -/
structure Filtered where
  pending : Endpoints
  endpoints : Configs
  stored : Configs

/-- `filterUnchangedPendingAddOrUpdateEndpointsLocked`. -/
def filterUnchanged (pending : Endpoints) (endpoints stored : Configs) : Filtered :=
  pending.entries.foldl (fun maps entry =>
      if maps.stored.lookup entry.1=some entry.2.config then
        ⟨maps.pending.erase entry.1,maps.endpoints.insert entry.1 entry.2.config,maps.stored.erase entry.1⟩
      else maps)
    ⟨pending,endpoints,stored⟩

def addStale (endpoints : Configs) (pending : Endpoints) (deletions : Deletions) (stored : Configs) : Deletions :=
  stored.entries.foldl (fun deletions entry =>
      if entry.1∉endpoints ∧ entry.1∉pending ∧ entry.1∉deletions then deletions.insert entry.1 none
      else deletions)
    deletions

/-- What is registered is pending again, when nothing is stored. -/
def addRegistered (endpoints : Configs) (deletions : Deletions) (pending : Endpoints) : Endpoints :=
  endpoints.entries.foldl (fun pending entry =>
      if entry.1∉deletions ∧ entry.1∉pending then pending.insert entry.1 ⟨entry.2,none⟩ else pending)
    pending

/-- The maps after the comparison with the storage. -/
structure Reconciled where
  pending : Endpoints
  endpoints : Configs
  deletions : Deletions

/-- Between loading the storage and moving the pending endpoints. -/
def reconcile (pending : Endpoints) (endpoints storage : Configs) (deletions : Deletions) : Reconciled :=
  if storage.entries=[] then ⟨addRegistered endpoints deletions pending,endpoints,deletions⟩
  else
    let maps := filterUnchanged pending endpoints storage
    ⟨maps.pending,maps.endpoints,addStale maps.endpoints maps.pending deletions maps.stored⟩

/-- `createPostConnectOperation` under the lock of the endpoints. -/
def prepareOperation (loaded : Bool) : Delegate :=
  let s := s.moveInFlightEndpointsToPending
  if loaded then
    let maps := reconcile s.addOrUpdate.pending s.endpoints s.storage s.delete.pending
    {s with
      addOrUpdate := ⟨∅,maps.pending⟩
      delete := ⟨∅,maps.deletions⟩
      endpoints := maps.endpoints
      connecting := .prepared s.addOrUpdate.pending maps.pending maps.deletions}
  else {s with connecting := .idle}

/-- They are reported, if none has to be added or updated. -/
def tellUnchanged (original addOrUpdate : Endpoints) (delete : Deletions) : Delegate :=
  {s with
    notifications :=
      if addOrUpdate.entries=[] ∧ original.entries≠[] then
        s.notifications++[⟨.SUCCESS,.SUCCESS,getEndpointIdentifiers Entry.request original,[]⟩]
      else s.notifications
    connecting :=
      if addOrUpdate.entries=[] ∧ delete.entries=[] then .idle else .told addOrUpdate delete}

/-- The pass begins, and ends at once when shutting down or not connected. -/
def beginPass : Delegate :=
  {s with
    queue := s.queue-1
    pass := if s.isShuttingDown=false ∧ s.isConnected=true then .connected else .idle}

def lookForSender : Delegate :=
  {s with pass := if s.current=none then .free else .idle}

def lookForPending : Delegate :=
  {s with pass :=
      if s.addOrUpdate.pending.entries=[] ∧ s.delete.pending.entries=[] then .idle else .wanted}

def movePending : Delegate :=
  {s.sendPending with pass := .moved s.addOrUpdate.pending s.delete.pending}

/-- The pass creates its sender, which fails when there is nothing to send. -/
def createPassSender (addOrUpdate : Endpoints) (delete : Deletions) : Delegate :=
  if addOrUpdate.entries=[] ∧ delete.entries=[] then
    {s.moveInFlightEndpointsToPending with pass := .refused}
  else {s.createSender addOrUpdate delete with pass := .replacing s.created}

/-- The pass notifies the observers that it has no sender. -/
def refusePass : Delegate :=
  {s.setCapabilitiesState .FATAL_ERROR .UNKNOWN_ERROR [] [] with pass := .idle}

def sendPass : Delegate :=
  {(s.addDiscoveryEventSender sender).setStage sender .sending with pass := .sending sender}

def notifySender (state : State) (error : Error) : Delegate :=
  s.setCapabilitiesState state error (getEndpointIdentifiers Entry.request (s.senders sender).addOrUpdate)
    (getEndpointIdentifiers id (s.senders sender).delete)

/-- `onDiscoveryFailure` for a status after which the sender tries again. -/
def notifyRetriable (serverError : Bool) : Delegate :=
  (if s.isShuttingDown then s.resetDiscoveryEventSender else s).setCapabilitiesState .RETRIABLE_ERROR
    (if serverError then .SERVER_INTERNAL_ERROR else .UNKNOWN_ERROR)
    (getEndpointIdentifiers Entry.request s.addOrUpdate.inFlight)
    (getEndpointIdentifiers id s.delete.inFlight)

/-- A sender not told to send will not, one that sends loses its observer. -/
def abortSender : Delegate :=
  let stage := (s.senders sender).stage
  let stopped : Stage := if stage=.created then .ended false else stage
  {s with
    senders := update s.senders sender {s.senders sender with observed := false,stage := stopped}}

end

def clearInFlight : Delegate :=
  {s with
    addOrUpdate := {s.addOrUpdate with inFlight := ∅}
    delete := {s.delete with inFlight := ∅}}

end

end Delegate

inductive Event
  | addOrUpdateEndpoint (valid : Bool) (endpointId config : String)
  | deleteEndpoint (valid : Bool) (endpointId : String)
  | submitUnlessSending
  | onConnectionStatusChanged (connected : Bool)
  | executor
  | createPostConnectOperation (loaded : Bool)
  | performOperation
  | abortOperation
  /-- An event of the sender failed, and it is tried again. -/
  | retry (sender : ℕ)
  | fail (sender : ℕ) (status : FatalStatus)
  | complete (sender : ℕ)
  /-- The sender has no token, or no one to send with. -/
  | giveUp (sender : ℕ)
  | stop (sender : ℕ)
  /-- It goes on, and the storage does what it is asked or not. -/
  | report (sender : ℕ) (saved : Bool)
  | invalidateCapabilities
  | doShutdown

open Delegate in
inductive Step : Delegate → Event → Delegate → Prop
  | addOrUpdateEndpoint {s : Delegate} (valid : Bool) (endpointId config : String) :
      Step s (.addOrUpdateEndpoint valid endpointId config) (s.addOrUpdateEndpoint valid endpointId config).2
  | deleteEndpoint {s : Delegate} (valid : Bool) (endpointId : String) :
      Step s (.deleteEndpoint valid endpointId) (s.deleteEndpoint valid endpointId).2
  | submitUnlessSending {s : Delegate} (waits : 0<s.checking) : Step s .submitUnlessSending s.submitUnlessSending
  /-- After the post-connect operation, if there is one, has returned true. -/
  | connect {s : Delegate} (rests : s.connecting=.idle)
      (done : ∀ sender,s.operation=.returned sender → (s.senders sender).stage=.ended true)
      (unaborted : ∀ sender,s.operation≠.aborted sender) :
      Step s (.onConnectionStatusChanged true) {s with isConnected := true,queue := s.queue+1}
  | disconnect {s : Delegate} : Step s (.onConnectionStatusChanged false) {s with isConnected := false}
  | beginPass {s : Delegate} (rests : s.pass=.idle) (submitted : 0<s.queue) : Step s .executor s.beginPass
  | lookForSender {s : Delegate} (at_connected : s.pass=.connected) : Step s .executor s.lookForSender
  | lookForPending {s : Delegate} (at_free : s.pass=.free) : Step s .executor s.lookForPending
  | movePending {s : Delegate} (at_wanted : s.pass=.wanted) : Step s .executor s.movePending
  | createPassSender {s : Delegate} {addOrUpdate : Endpoints} {delete : Deletions}
      (at_moved : s.pass=.moved addOrUpdate delete) :
      Step s .executor (s.createPassSender addOrUpdate delete)
  | refusePass {s : Delegate} (at_refused : s.pass=.refused) : Step s .executor s.refusePass
  | sendPass {s : Delegate} {sender : ℕ} (at_replacing : s.pass=.replacing sender) :
      Step s .executor (s.sendPass sender)
  | endPass {s : Delegate} {sender : ℕ} {result : Bool} (at_sending : s.pass=.sending sender)
      (ended : (s.senders sender).stage=.ended result) : Step s .executor {s with pass := .idle}
  | beginOperation {s : Delegate} (rests : s.connecting=.idle) (loaded : Bool) :
      Step s (.createPostConnectOperation loaded)
        {s.resetDiscoveryEventSender with connecting := .begun,operation := .none}
  | prepareOperation {s : Delegate} (at_begun : s.connecting=.begun) (loaded : Bool) :
      Step s (.createPostConnectOperation loaded) (s.prepareOperation loaded)
  | tellUnchanged {s : Delegate} {original addOrUpdate : Endpoints} {delete : Deletions}
      (at_prepared : s.connecting=.prepared original addOrUpdate delete) (loaded : Bool) :
      Step s (.createPostConnectOperation loaded) (s.tellUnchanged original addOrUpdate delete)
  | createOperation {s : Delegate} {addOrUpdate : Endpoints} {delete : Deletions}
      (at_told : s.connecting=.told addOrUpdate delete) (loaded : Bool) :
      Step s (.createPostConnectOperation loaded)
        {s.createSender addOrUpdate delete with connecting := .replacing s.created}
  | returnOperation {s : Delegate} {sender : ℕ} (at_replacing : s.connecting=.replacing sender) (loaded : Bool) :
      Step s (.createPostConnectOperation loaded)
        {s.addDiscoveryEventSender sender with connecting := .idle,operation := .returned sender}
  | performOperation {s : Delegate} {sender : ℕ} (returned : s.operation=.returned sender)
      (fresh : (s.senders sender).stage=.created) : Step s .performOperation (s.setStage sender .sending)
  /-- The sender of the operation is stopped while it sends, or before. -/
  | abortOperation {s : Delegate} {sender : ℕ} (returned : s.operation=.returned sender) :
      Step s .abortOperation {s.abortSender sender with operation := .aborted sender}
  | retry {s : Delegate} {sender : ℕ} (sends : (s.senders sender).stage=.sending)
      (observed : (s.senders sender).observed=true) (serverError : Bool) :
      Step s (.retry sender) (s.notifyRetriable serverError)
  | fail {s : Delegate} {sender : ℕ} (sends : (s.senders sender).stage=.sending)
      (observed : (s.senders sender).observed=true) (status : FatalStatus) :
      Step s (.fail sender status) (s.setStage sender (.failed status))
  | complete {s : Delegate} {sender : ℕ} (sends : (s.senders sender).stage=.sending)
      (observed : (s.senders sender).observed=true) :
      Step s (.complete sender) (s.setStage sender .completed)
  | giveUp {s : Delegate} {sender : ℕ} (sends : (s.senders sender).stage=.sending) :
      Step s (.giveUp sender) (s.setStage sender (.ended false))
  /-- It returns without a report, whatever became of its last event. -/
  | stop {s : Delegate} {sender : ℕ} (sends : (s.senders sender).stage=.sending)
      (stopped : (s.senders sender).observed=false) (result : Bool) :
      Step s (.stop sender) (s.setStage sender (.ended result))
  | store {s : Delegate} {sender : ℕ} (at_completed : (s.senders sender).stage=.completed) :
      Step s (.report sender true)
        {s.setStage sender .stored with storage := store s.storage (s.senders sender).addOrUpdate.entries}
  | storeFails {s : Delegate} {sender : ℕ} (at_completed : (s.senders sender).stage=.completed) (rows : ℕ) :
      Step s (.report sender false)
        {s.setStage sender .unsaved with
          storage := store s.storage ((s.senders sender).addOrUpdate.entries.take rows)}
  | erase {s : Delegate} {sender : ℕ} (at_stored : (s.senders sender).stage=.stored) : Step s (.report sender true)
        {s.setStage sender .erased with storage := erase s.storage (s.senders sender).delete.entries}
  | eraseFails {s : Delegate} {sender : ℕ} (at_stored : (s.senders sender).stage=.stored) (rows : ℕ) :
      Step s (.report sender false)
        {s.setStage sender .unsaved with
          storage := erase s.storage ((s.senders sender).delete.entries.take rows)}
  | notifyUnsaved {s : Delegate} {sender : ℕ} (at_unsaved : (s.senders sender).stage=.unsaved) :
      Step s (.report sender true) ((s.notifySender sender .FATAL_ERROR .UNKNOWN_ERROR).setStage sender (.ended true))
  | register {s : Delegate} {sender : ℕ} (at_erased : (s.senders sender).stage=.erased) :
      Step s (.report sender true) (s.moveInFlightEndpointsToRegisteredEndpoints.setStage sender .moved)
  | resetCompleted {s : Delegate} {sender : ℕ} (at_moved : (s.senders sender).stage=.moved) :
      Step s (.report sender true) (s.resetDiscoveryEventSender.setStage sender .reset)
  | notifySuccess {s : Delegate} {sender : ℕ} (at_reset : (s.senders sender).stage=.reset) :
      Step s (.report sender true) ((s.notifySender sender .SUCCESS .SUCCESS).setStage sender .notified)
  | submitPass {s : Delegate} {sender : ℕ} (at_notified : (s.senders sender).stage=.notified) :
      Step s (.report sender true) {s.setStage sender (.ended true) with queue := s.queue+1}
  | readInFlight {s : Delegate} {sender : ℕ} {status : FatalStatus}
      (at_failed : (s.senders sender).stage=.failed status) :
      Step s (.report sender true)
        (s.setStage sender (.read status (getEndpointIdentifiers Entry.request s.addOrUpdate.inFlight)
          (getEndpointIdentifiers id s.delete.inFlight)))
  | clearInFlight {s : Delegate} {sender : ℕ} {status : FatalStatus} {addOrUpdate delete : List Report}
      (at_read : (s.senders sender).stage=.read status addOrUpdate delete) :
      Step s (.report sender true) (s.clearInFlight.setStage sender (.cleared status addOrUpdate delete))
  | resetFailed {s : Delegate} {sender : ℕ} {status : FatalStatus} {addOrUpdate delete : List Report}
      (at_cleared : (s.senders sender).stage=.cleared status addOrUpdate delete) :
      Step s (.report sender true) (s.resetDiscoveryEventSender.setStage sender (.dropped status addOrUpdate delete))
  | notifyFatal {s : Delegate} {sender : ℕ} {status : FatalStatus} {addOrUpdate delete : List Report}
      (at_dropped : (s.senders sender).stage=.dropped status addOrUpdate delete) :
      Step s (.report sender true)
        ((s.setCapabilitiesState .FATAL_ERROR status.error addOrUpdate delete).setStage sender (.ended false))
  | invalidateCapabilities {s : Delegate} : Step s .invalidateCapabilities {s with storage := ∅}
  | doShutdown {s : Delegate} : Step s .doShutdown {s with isShuttingDown := true}
  | shutdownExecutor {s : Delegate} (begun : s.isShuttingDown=true) :
      Step s .doShutdown {s.resetDiscoveryEventSender with queue := 0}

end AlexaClientSDK.CapabilitiesDelegate
