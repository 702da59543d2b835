import Mathlib.Data.Finset.Card

/-!
# The setting of locales and wake words

The locales and the wake words of the device can be changed separately or with one request. A call checks a request and
leaves it as the pending one; the executor applies it if it is still pending then. A step is a call, or what the
executor does up to the next time that it asks somebody else or takes the lock. The answers come with the step, and
requests have numbers, of which there are enough: fewer than 2^32 requests are made. Observers, the contents of the
storage, and `clearData` are left out.
-/

namespace AlexaClientSDK.LocaleWakeWordsSetting

abbrev Locale := String

abbrev DeviceLocales := List Locale

abbrev WakeWords := Finset String

inductive RequestType
  | LOCAL
  | AVS
  | NONE
deriving DecidableEq

inductive SettingStatus
  | NOT_AVAILABLE
  | LOCAL_CHANGE_IN_PROGRESS
  | AVS_CHANGE_IN_PROGRESS
  | SYNCHRONIZED
deriving DecidableEq

/-- What `setLocales` and `setWakeWords` return, of `SetSettingResult`. -/
inductive SetSettingResult
  | NO_CHANGE
  | ENQUEUED
  | INVALID_VALUE
deriving DecidableEq

structure AssetsManager where
  getDefaultLocale : Locale
  getSupportedLocales : Finset Locale
  getSupportedLocaleCombinations : Finset DeviceLocales
  getDefaultSupportedWakeWords : Finset WakeWords
  getSupportedWakeWords : Locale → Finset WakeWords

def DEFAULT_WAKE_WORDS : WakeWords := {"ALEXA"}

/-- What is to be changed, and to what. -/
structure RequestParameters where
  /-- An `unsigned int` in the source, which does not wrap around. -/
  id : ℕ
  localeRequestType : RequestType
  locales : DeviceLocales
  wakeWordsRequestType : RequestType
  wakeWords : WakeWords
deriving DecidableEq

inductive Work
  | change (request : RequestParameters)
  /-- `changeAssets` after a restore. -/
  | restore (locales : DeviceLocales) (wakeWords : WakeWords)
  | synchronize (request : RequestParameters)
deriving DecidableEq

inductive Running
  /-- `changeAssets` after a restore. -/
  | initializing (locales : DeviceLocales) (wakeWords : WakeWords)
  | changing (request : RequestParameters) (locales : DeviceLocales) (wakeWords : WakeWords)
  | storing (request : RequestParameters)
  /-- `changeAssets` after the values could not be stored. -/
  | reverting (request : RequestParameters)
  | failing (request : RequestParameters)
  /-- Whether the wake words are part of a change comes with it. -/
  | checkingWakeWords (request : RequestParameters) (change : Bool)
  | sendingWakeWords (request : RequestParameters) (change : Bool)
  /-- `synchronize` looks at the status of the locales. -/
  | checkingLocale (request : RequestParameters) (change : Bool)
  | sendingLocale (request : RequestParameters) (change : Bool)
  | clearing (request : RequestParameters)
deriving DecidableEq

structure Setting where
  locales : DeviceLocales
  wakeWords : WakeWords
  pendingRequest : Option RequestParameters
  localeStatus : SettingStatus
  wakeWordsStatus : SettingStatus
  requestCounter : ℕ
  /-- What waits in `m_executor`, oldest first. -/
  executor : List Work
  running : Option Running
  /-- The locales of the last call that returned `ENQUEUED` or `NO_CHANGE`. -/
  accepted : Option DeviceLocales

def getPrimary (locales : DeviceLocales) : Locale := locales.headD ""

def toRequestType : SettingStatus → RequestType
  | .LOCAL_CHANGE_IN_PROGRESS => .LOCAL
  | .AVS_CHANGE_IN_PROGRESS => .AVS
  | .NOT_AVAILABLE => .LOCAL
  | .SYNCHRONIZED => .NONE

def AssetsManager.supportedWakeWords (assets : AssetsManager) (locales : DeviceLocales) (wakeWords : WakeWords) :
    Bool × WakeWords :=
  let intersection := if wakeWords∈assets.getSupportedWakeWords (getPrimary locales) then wakeWords else ∅
  (intersection.card == wakeWords.card,intersection)

namespace Setting

section

variable (s : Setting)

def isLatestRequestLocked (request : RequestParameters) : Bool :=
  s.pendingRequest.all fun pending => pending.id == request.id

/-- A new request is the pending one, and goes to the executor. -/
def submit (localeRequestType : RequestType) (locales : DeviceLocales) (wakeWordsRequestType : RequestType)
    (wakeWords : WakeWords) : Setting :=
  let request : RequestParameters := ⟨s.requestCounter+1,localeRequestType,locales,wakeWordsRequestType,wakeWords⟩
  {s with
    pendingRequest := some request
    requestCounter := s.requestCounter+1
    executor := s.executor++[.change request]}

section

variable (assets : AssetsManager)

/-- The wake words that `setLocales` asks for, and for whom. -/
def wakeWordsFor (s : Setting) (locales : DeviceLocales) : RequestType × WakeWords :=
  let merged := s.pendingRequest.filter fun pending => pending.wakeWordsRequestType != .NONE
  let result := assets.supportedWakeWords locales (merged.elim s.wakeWords RequestParameters.wakeWords)
  if result.1 then (merged.elim .NONE RequestParameters.wakeWordsRequestType,result.2)
  else (.LOCAL,if result.2=∅ then DEFAULT_WAKE_WORDS else result.2)

/-- The locales that `setWakeWords` asks for, and for whom. -/
def localesFor : RequestType × DeviceLocales :=
  let merged := s.pendingRequest.filter fun pending => pending.localeRequestType != .NONE
  (merged.elim .NONE RequestParameters.localeRequestType,merged.elim s.locales RequestParameters.locales)

/-- `setLocales` accepts the locales. -/
def isValid (locales : DeviceLocales) : Bool :=
  (locales.all fun locale => decide (locale∈assets.getSupportedLocales)) &&
    (decide (locales.length≤1) || decide (locales∈assets.getSupportedLocaleCombinations))

def setLocales (s : Setting) (locales : DeviceLocales) (requestType : RequestType) : Setting × SetSettingResult :=
  if !isValid assets locales then (s,.INVALID_VALUE)
  else if s.pendingRequest.any fun pending => pending.locales == locales then
    ({s with accepted := some locales},.NO_CHANGE)
  else if requestType≠.AVS ∧ locales=s.locales then ({s with accepted := some locales},.NO_CHANGE)
  else
    let wakeWords := wakeWordsFor assets s locales
    let s := if requestType=.AVS then {s with localeStatus := .AVS_CHANGE_IN_PROGRESS} else s
    ({s with accepted := some locales}.submit requestType locales wakeWords.1 wakeWords.2,.ENQUEUED)

def setWakeWords (s : Setting) (wakeWords : WakeWords) (requestType : RequestType) : Setting × SetSettingResult :=
  if wakeWords=∅ then (s,.INVALID_VALUE)
  else if s.pendingRequest.any fun pending => pending.wakeWords == wakeWords then (s,.NO_CHANGE)
  else if requestType≠.AVS ∧ wakeWords=s.wakeWords then (s,.NO_CHANGE)
  else
    let locales := s.localesFor
    if !(assets.supportedWakeWords locales.2 wakeWords).1 then (s,.INVALID_VALUE)
    else
      let s := if requestType=.AVS then {s with wakeWordsStatus := .AVS_CHANGE_IN_PROGRESS} else s
      (s.submit locales.1 locales.2 requestType wakeWords,.ENQUEUED)

end

/-- `onConnectionStatusChanged` when there is a connection. -/
def onConnected : Setting :=
  {s with
    requestCounter := s.requestCounter+1
    executor := s.executor++[.synchronize ⟨s.requestCounter+1,.NONE,[],.NONE,∅⟩]}

/-- The values that `executeChangeValue` asks the assets manager for. -/
def change (request : RequestParameters) : DeviceLocales × WakeWords :=
  (if request.localeRequestType≠.NONE then request.locales else s.locales,
    if request.wakeWordsRequestType≠.NONE then request.wakeWords else s.wakeWords)

/-- The executor goes on with the next one. -/
def begin (work : Work) : Setting :=
  match work with
  | .change request =>
    if s.isLatestRequestLocked request then
      {s with running := some (.changing request (s.change request).1 (s.change request).2)}
    else s
  | .restore locales wakeWords => {s with running := some (.initializing locales wakeWords)}
  | .synchronize request => {s with running := some (.checkingWakeWords request false)}

/-- The status that `storeValues` stores for a value. -/
def statusFor (requestType : RequestType) (status : SettingStatus) : SettingStatus :=
  match requestType with
  | .NONE => status
  | .AVS => .AVS_CHANGE_IN_PROGRESS
  | .LOCAL => .LOCAL_CHANGE_IN_PROGRESS

def storeValues (request : RequestParameters) (ok : Bool) : Setting × Bool :=
  if s.isLatestRequestLocked request then
    if request.localeRequestType≠.NONE ∨ request.wakeWordsRequestType≠.NONE then
      if ok then
        ({s with
          locales := (s.change request).1
          wakeWords := (s.change request).2
          localeStatus := statusFor request.localeRequestType s.localeStatus
          wakeWordsStatus := statusFor request.wakeWordsRequestType s.wakeWordsStatus},true)
      else (s,false)
    else (s,true)
  else (s,true)

/-- The executor goes on with what it is about. -/
def proceed (ok : Bool) : Running → Setting
  | .initializing _ _ => {s with running := none}
  | .changing request _ _ => {s with running := some (if ok then .storing request else .failing request)}
  | .storing request =>
    let result := s.storeValues request ok
    {result.1 with running := some (if result.2 then .checkingWakeWords request true else .reverting request)}
  | .reverting request => {s with running := some (.failing request)}
  | .failing request =>
    {s with running := some (if s.isLatestRequestLocked request then .checkingWakeWords request true else .clearing request)}
  | .checkingWakeWords request change =>
    {s with
      running :=
        some (if s.wakeWordsStatus=.SYNCHRONIZED then .checkingLocale request change else .sendingWakeWords request change)}
  | .sendingWakeWords request change =>
    {s with
      wakeWordsStatus := if ok && s.isLatestRequestLocked request then .SYNCHRONIZED else s.wakeWordsStatus
      running := some (.checkingLocale request change)}
  | .checkingLocale request change =>
    {s with
      running :=
        if s.localeStatus=.SYNCHRONIZED then (if change then some (.clearing request) else none)
        else some (.sendingLocale request change)}
  | .sendingLocale request change =>
    {s with
      localeStatus := if ok && s.isLatestRequestLocked request then .SYNCHRONIZED else s.localeStatus
      running := if change then some (.clearing request) else none}
  | .clearing request =>
    {s with
      pendingRequest := if s.isLatestRequestLocked request then none else s.pendingRequest
      running := none}

end

def construct (assets : AssetsManager) : Setting where
  locales := [assets.getDefaultLocale]
  wakeWords := DEFAULT_WAKE_WORDS
  pendingRequest := none
  localeStatus := .NOT_AVAILABLE
  wakeWordsStatus := .NOT_AVAILABLE
  requestCounter := 0
  executor := []
  running := none
  accepted := none

end Setting

/-- What `loadSetting` returns for a value. -/
structure Stored (α : Type) where
  status : SettingStatus
  value : Option α

structure Storage where
  locales : Stored DeviceLocales
  wakeWords : Stored WakeWords

namespace Setting

section

variable (assets : AssetsManager)

def restoredLocales (storage : Storage) : DeviceLocales :=
  if storage.locales.status≠.NOT_AVAILABLE then storage.locales.value.getD [assets.getDefaultLocale]
  else [assets.getDefaultLocale]

def restoredWakeWords (storage : Storage) : SettingStatus × WakeWords :=
  if assets.getDefaultSupportedWakeWords=∅ then (.SYNCHRONIZED,∅)
  else if storage.wakeWords.status≠.NOT_AVAILABLE then (storage.wakeWords.status,storage.wakeWords.value.getD ∅)
  else (.NOT_AVAILABLE,DEFAULT_WAKE_WORDS)

/-- `create`, with `restoreInitialValue`. -/
def create (storage : Storage) : Setting :=
  let locales := restoredLocales assets storage
  let wakeWords := restoredWakeWords assets storage
  let s :=
    {construct assets with
      locales := locales
      wakeWords := wakeWords.2
      localeStatus := storage.locales.status
      wakeWordsStatus := wakeWords.1}
  if storage.locales.status≠.SYNCHRONIZED ∨ wakeWords.1≠.SYNCHRONIZED then
    s.submit (toRequestType storage.locales.status) locales (toRequestType wakeWords.1) wakeWords.2
  else {s with executor := [.restore locales wakeWords.2]}

end

end Setting

inductive Event
  | setLocalLocales (locales : DeviceLocales)
  | setAvsLocales (locales : DeviceLocales)
  | setLocalWakeWords (wakeWords : WakeWords)
  | setAvsWakeWords (wakeWords : WakeWords)
  | connected
  | begin (work : Work)
  | proceed (running : Running) (ok : Bool)

/-- It can happen now. -/
def Possible (s : Setting) : Event → Prop
  | .setLocalLocales _ | .setAvsLocales _ | .setLocalWakeWords _ | .setAvsWakeWords _ | .connected => True
  | .begin work => s.running=none ∧ s.executor.head?=some work
  | .proceed running _ => s.running=some running

instance (s : Setting) : (event : Event) → Decidable (Possible s event)
  | .setLocalLocales _ | .setAvsLocales _ | .setLocalWakeWords _ | .setAvsWakeWords _ | .connected =>
    inferInstanceAs (Decidable True)
  | .begin work => inferInstanceAs (Decidable (s.running=none ∧ s.executor.head?=some work))
  | .proceed running _ => inferInstanceAs (Decidable (s.running=some running))

section

variable (assets : AssetsManager)

def Setting.next (s : Setting) : Event → Setting
  | .setLocalLocales locales => (s.setLocales assets locales .LOCAL).1
  | .setAvsLocales locales => (s.setLocales assets locales .AVS).1
  | .setLocalWakeWords wakeWords => (s.setWakeWords assets wakeWords .LOCAL).1
  | .setAvsWakeWords wakeWords => (s.setWakeWords assets wakeWords .AVS).1
  | .connected => s.onConnected
  | .begin work => {s with executor := s.executor.tail}.begin work
  | .proceed running ok => s.proceed ok running

def Step (s : Setting) (event : Event) (t : Setting) : Prop :=
  Possible s event ∧ t=s.next assets event

theorem step_next (s : Setting) (event : Event) (hpossible : decide (Possible s event)=true) :
    Step assets s event (s.next assets event) := ⟨of_decide_eq_true hpossible,rfl⟩

end

end AlexaClientSDK.LocaleWakeWordsSetting
