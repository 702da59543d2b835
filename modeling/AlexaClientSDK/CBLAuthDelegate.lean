import Mathlib.Algebra.Group.Int.Defs
import Mathlib.Algebra.Group.Nat.Defs
import Mathlib.Order.Lattice
import AlexaClientSDK.LabelledRuns

/-!
# The refresh loop of `CBLAuthDelegate`

The loop waits until its token is to be refreshed or expires, asks for a new one, and tries again after a while when it
gets none. Its user may report that the token was rejected. Time points are `int64_t` numbers of nanoseconds, which wrap
around. Time passes in a wait until it is over, and while a request is made, which takes no longer than its timeout. A
response is its code and what is found in its body.
-/

namespace AlexaClientSDK.CBLAuthDelegate

open LabelledRuns

/-- `AuthObserverInterface::State`. -/
inductive AuthState
  | UNINITIALIZED
  | REFRESHED
  | EXPIRED
  | UNRECOVERABLE_ERROR
deriving DecidableEq

/-- `AuthObserverInterface::Error`. -/
inductive AuthError
  | SUCCESS
  | UNKNOWN_ERROR
  | AUTHORIZATION_FAILED
  | UNAUTHORIZED_CLIENT
  | SERVER_ERROR
  | INVALID_REQUEST
  | INVALID_VALUE
  | AUTHORIZATION_EXPIRED
  | UNSUPPORTED_GRANT_TYPE
  | INVALID_CODE_PAIR
  | AUTHORIZATION_PENDING
  | SLOW_DOWN
  | INTERNAL_ERROR
  | INVALID_CBL_CLIENT_ID
deriving DecidableEq

abbrev TimePoint := ℤ

abbrev Seconds := ℤ

/-- What an `int64_t` holds of a number. -/
def wrap (x : ℤ) : ℤ := x.bmod (2^64)

def maxTime : TimePoint := 2^63-1

def nanoseconds : ℤ := 1000000000

def addSeconds (time : TimePoint) (seconds : Seconds) : TimePoint := wrap (time+wrap (seconds*nanoseconds))

def subSeconds (time : TimePoint) (seconds : Seconds) : TimePoint := wrap (time-wrap (seconds*nanoseconds))

variable {φ : Type}

/-- A JSON document: `error`, and the other fields. -/
structure LWADocument (φ : Type) where
  error : Option String
  fields : φ

/-- `HTTPResponse`; there is no document when the body cannot be parsed. -/
structure HTTPResponse (φ : Type) where
  code : ℤ
  document : Option (LWADocument φ)

structure TokenFields where
  accessToken : Option String
  refreshToken : Option String
  tokenType : Option String
  expiresIn : Option UInt64

def nameToErrorMap : List (String × AuthError) :=
  [("authorization_pending",.AUTHORIZATION_PENDING),("invalid_client",.INVALID_VALUE),
    ("invalid_code_pair",.INVALID_CODE_PAIR),("invalid_grant",.AUTHORIZATION_EXPIRED),
    ("invalid_request",.INVALID_REQUEST),("InvalidValue",.INVALID_VALUE),("servererror",.SERVER_ERROR),
    ("slow_down",.SLOW_DOWN),("unauthorized_client",.UNAUTHORIZED_CLIENT),
    ("unsupported_grant_type",.UNSUPPORTED_GRANT_TYPE)]

def getErrorCode (error : String) : AuthError :=
  if error = "" then .SUCCESS else (nameToErrorMap.lookup error).getD .UNKNOWN_ERROR

def mapHTTPCodeToError (code : ℤ) : AuthError :=
  if code=200 then .SUCCESS
  else if code=400 then .INVALID_REQUEST
  else if code=500 then .SERVER_ERROR
  else .UNKNOWN_ERROR

def parseLWAResponse (response : HTTPResponse φ) : AuthError :=
  let result := mapHTTPCodeToError response.code
  match response.document with
  | none => if result=.SUCCESS then .UNKNOWN_ERROR else result
  | some document =>
    let error := document.error.getD ""
    if result≠.SUCCESS ∧ error ≠ "" then getErrorCode error else result

def TokenFields.expiresInSeconds (fields : TokenFields) : Seconds :=
  wrap (fields.expiresIn.elim 0 UInt64.toNat : ℕ)

/-- No property is missing or invalid. -/
def TokenFields.Valid (fields : TokenFields) : Prop :=
  fields.accessToken.getD "" ≠ "" ∧ fields.refreshToken.getD "" ≠ "" ∧ fields.tokenType=some "bearer" ∧
    fields.expiresInSeconds≠0

instance (fields : TokenFields) : Decidable fields.Valid :=
  inferInstanceAs (Decidable (_ ∧ _ ∧ _ ∧ _))

def acceptedFields (response : HTTPResponse TokenFields) : Option TokenFields :=
  if parseLWAResponse response=.SUCCESS then
    (response.document.map LWADocument.fields).filter fun fields => fields.Valid
  else none

/-- What `receiveTokenResponse` returns where it does not accept a response. -/
def tokenError (response : HTTPResponse TokenFields) : AuthError :=
  if parseLWAResponse response=.SUCCESS then .UNKNOWN_ERROR else parseLWAResponse response

structure Accepted where
  accessToken : String
  requestTime : TimePoint
  expiresIn : ℕ
deriving DecidableEq

/-- When its access token ends. -/
def Accepted.endOfLife (accepted : Accepted) : TimePoint :=
  accepted.requestTime+accepted.expiresIn*nanoseconds

def TokenFields.acceptedAt (fields : TokenFields) (requestTime : TimePoint) : Accepted :=
  ⟨fields.accessToken.getD "",requestTime,fields.expiresIn.elim 0 UInt64.toNat⟩

inductive Stage
  | waiting (isAboutToExpire : Bool) (nextActionTime : TimePoint)
  | requesting (newRefreshToken : Bool) (latest : TimePoint)
  | stopped

/-- `CBLAuthDelegateConfiguration`. -/
structure Configuration where
  requestTimeout : Seconds
  accessTokenRefreshHeadStart : Seconds

structure Delegate where
  authState : AuthState
  authError : AuthError
  accessToken : String
  refreshToken : String
  tokenExpirationTime : TimePoint
  timeToRefresh : TimePoint
  requestTime : TimePoint
  retryCount : ℕ
  newRefreshToken : Bool
  authFailureReported : Bool
  now : TimePoint
  stage : Stage
  accepted : Option Accepted
  reports : List (AuthState × AuthError)

namespace Delegate

variable (config : Configuration)

section

variable (s : Delegate)

def getAuthToken : String := s.accessToken

def setAuthState (newAuthState : AuthState) : Delegate :=
  if newAuthState=s.authState then s
  else {s with authState := newAuthState,reports := s.reports++[(newAuthState,s.authError)]}

/-- What `receiveTokenResponse` does with fields that it accepts. -/
def accept (fields : TokenFields) (expiresImmediately : Bool) : Delegate :=
  let expiresInSeconds := if expiresImmediately then 0 else fields.expiresInSeconds
  let tokenExpirationTime := addSeconds s.requestTime expiresInSeconds
  {s with
    refreshToken := fields.refreshToken.getD ""
    tokenExpirationTime := tokenExpirationTime
    timeToRefresh := subSeconds tokenExpirationTime config.accessTokenRefreshHeadStart
    accessToken := fields.accessToken.getD ""
    accepted := some (fields.acceptedAt s.requestTime)}

def receiveTokenResponse (response : HTTPResponse TokenFields) (expiresImmediately : Bool) : Delegate × AuthError :=
  let s := {s with authError := parseLWAResponse response}
  match acceptedFields response with
  | some fields => (s.accept config fields expiresImmediately,.SUCCESS)
  | none => (s,tokenError response)

def isAboutToExpire : Bool := s.authState=.REFRESHED && s.tokenExpirationTime<s.timeToRefresh

/-- The top of the loop, up to its wait. -/
def wait : Delegate :=
  {s with
    stage := .waiting s.isAboutToExpire (if s.isAboutToExpire then s.tokenExpirationTime else s.timeToRefresh)}

def refreshTimeout : Seconds :=
  let timeout := config.requestTimeout
  if s.authState=.REFRESHED then
    let timeUntilExpired := (wrap (s.tokenExpirationTime-s.requestTime)).tdiv nanoseconds
    if timeout > timeUntilExpired ∧ timeUntilExpired > 0 then timeUntilExpired else timeout
  else timeout

def requestRefresh (newRefreshToken : Bool) : Delegate :=
  let s := {s with requestTime := s.now}
  {s with stage := .requesting newRefreshToken (s.now+s.refreshTimeout config*nanoseconds)}

def wake (isAboutToExpire : Bool) : Delegate :=
  let isAboutToExpire := isAboutToExpire && !s.authFailureReported
  let s := {s with authFailureReported := false}
  if isAboutToExpire then ({s with accessToken := ""}.setAuthState .EXPIRED).wait
  else {s with newRefreshToken := false}.requestRefresh config s.newRefreshToken

end

end Delegate

/-- The errors after which the loop tries again. -/
def AuthError.isRetried : AuthError → Bool
  | .UNKNOWN_ERROR | .SERVER_ERROR | .AUTHORIZATION_PENDING | .SLOW_DOWN => true
  | .SUCCESS | .INVALID_REQUEST | .AUTHORIZATION_FAILED | .UNAUTHORIZED_CLIENT | .INVALID_VALUE
  | .AUTHORIZATION_EXPIRED | .UNSUPPORTED_GRANT_TYPE | .INVALID_CODE_PAIR | .INTERNAL_ERROR
  | .INVALID_CBL_CLIENT_ID => false

def retryBackoffTimes : List ℤ := [0,1000,2000,4000,10000,30000,60000]

/-- The milliseconds that `RetryTimer::calculateTimeToRetry` may return. -/
def RetryDelay (retryCount : ℕ) (delay : ℤ) : Prop :=
  let time := retryBackoffTimes.getD (min retryCount 6) 0
  time*66 / 100≤delay ∧ delay≤time*150 / 100

instance (retryCount : ℕ) (delay : ℤ) : Decidable (RetryDelay retryCount delay) :=
  inferInstanceAs (Decidable (_ ∧ _))

def Delegate.refreshResponse (config : Configuration) (s : Delegate) (newRefreshToken : Bool)
    (response : HTTPResponse TokenFields) (delay : ℤ) : Delegate :=
  let (s,result) := s.receiveTokenResponse config response false
  if result=.SUCCESS then ({s with retryCount := 0}.setAuthState .REFRESHED).wait
  else if result.isRetried then
    {s with timeToRefresh := wrap (s.now+delay*1000000),retryCount := s.retryCount+1}.wait
  else
    let s := if result=.INVALID_REQUEST ∧ newRefreshToken then {s with authError := .INVALID_CBL_CLIENT_ID} else s
    {s.setAuthState .UNRECOVERABLE_ERROR with stage := .stopped}

section

variable (s : Delegate)

def Delegate.onAuthFailure (token : String) : Delegate :=
  if token = "" ∨ token=s.accessToken then {s with authFailureReported := true} else s

/-- A new `CBLAuthDelegate`. -/
def create (now : TimePoint) : Delegate where
  authState := .UNINITIALIZED
  authError := .SUCCESS
  accessToken := ""
  refreshToken := ""
  tokenExpirationTime := maxTime
  timeToRefresh := 0
  requestTime := 0
  retryCount := 0
  newRefreshToken := false
  authFailureReported := false
  now := now
  stage := .waiting false 0
  accepted := none
  reports := []

/-- `handleStarting` found a refresh token in the storage. -/
def startStored (now : TimePoint) (refreshToken : String) : Delegate :=
  {create now with refreshToken := refreshToken}.wait

/-- `handleRequestingToken` was given the tokens. -/
def startRequested (config : Configuration) (requestTime now : TimePoint) (response : HTTPResponse TokenFields) :
    Delegate :=
  {({create now with requestTime := requestTime}.receiveTokenResponse config response true).1 with
    newRefreshToken := true}.wait

inductive Start (config : Configuration) : Delegate → Prop
  | stored {now : TimePoint} (hnow : 0≤now) (refreshToken : String) : Start config (startStored now refreshToken)
  | requested {requestTime now : TimePoint} (hrequest : 0≤requestTime) (hnow : requestTime≤now)
    {response : HTTPResponse TokenFields} {fields : TokenFields} (haccepted : acceptedFields response=some fields) :
    Start config (startRequested config requestTime now response)

inductive Event
  | tick (duration : ℤ)
  | wake
  /-- The request is answered; the delay is used if the loop tries again. -/
  | refreshResponse (response : HTTPResponse TokenFields) (delay : ℤ)
  | onAuthFailure (token : String)

/-- How long the loop may stay where it is. -/
def Delegate.latest (s : Delegate) : TimePoint :=
  match s.stage with
  | .waiting _ nextActionTime => max s.now nextActionTime
  | .requesting _ latest => max s.now latest
  | .stopped => maxTime

def Delegate.wakes : Bool :=
  match s.stage with
  | .waiting _ nextActionTime => decide (nextActionTime ≤ s.now) || s.authFailureReported
  | .requesting _ _ | .stopped => false

def Delegate.requests : Bool :=
  match s.stage with
  | .requesting _ _ => true
  | .waiting _ _ | .stopped => false

def Possible : Event → Prop
  | .tick duration => 0≤duration ∧ s.now+duration ≤ s.latest ∧ s.now+duration ≤ maxTime
  | .wake => s.wakes=true
  | .refreshResponse _ delay => s.requests=true ∧ RetryDelay s.retryCount delay
  | .onAuthFailure _ => True

end

instance (s : Delegate) : (event : Event) → Decidable (Possible s event)
  | .tick _ => inferInstanceAs (Decidable (_ ∧ _ ∧ _))
  | .wake => inferInstanceAs (Decidable (s.wakes=true))
  | .refreshResponse _ delay => inferInstanceAs (Decidable (s.requests=true ∧ RetryDelay s.retryCount delay))
  | .onAuthFailure _ => isTrue trivial

section

variable (config)

def Delegate.next (s : Delegate) : Event → Delegate
  | .tick duration => {s with now := s.now+duration}
  | .wake =>
    match s.stage with
    | .waiting isAboutToExpire _ => s.wake config isAboutToExpire
    | .requesting _ _ | .stopped => s
  | .refreshResponse response delay =>
    match s.stage with
    | .requesting newRefreshToken _ => s.refreshResponse config newRefreshToken response delay
    | .waiting _ _ | .stopped => s
  | .onAuthFailure token => s.onAuthFailure token

def Step (s : Delegate) (event : Event) (t : Delegate) : Prop :=
  Possible s event ∧ t=s.next config event

theorem step_next (s : Delegate) (event : Event)
    (hpossible : decide (Possible s event)=true) : Step config s event (s.next config event) :=
  ⟨of_decide_eq_true hpossible,rfl⟩

end

end AlexaClientSDK.CBLAuthDelegate
