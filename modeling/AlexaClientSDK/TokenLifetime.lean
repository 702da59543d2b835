import AlexaClientSDK.CBLAuthDelegate

/-!
# The lifetime of access tokens

The loop never means to wait longer than its token lives: a time that does not fit wraps around to an earlier one. But
it may be late when its wait begins, since a request may take longer than what is left after a second; and when the time
to refresh is that of the expiry, it asks for a new token instead of giving up the old one.
-/

namespace AlexaClientSDK.CBLAuthDelegate

open Bool LabelledRuns Delegate

section

variable (s : Delegate)

def Delegate.waits : Bool :=
  match s.stage with
  | .waiting _ _ => true
  | .requesting _ _ | .stopped => false

/-- While the loop waits, what it hands out is as it should be. -/
structure Kept (s : Delegate) : Prop where
  /-- In `REFRESHED` it is the last one, and the wait ends before it. -/
  refreshed : s.waits=true → s.authState=.REFRESHED →
    ∃ accepted,s.accepted=some accepted ∧ s.getAuthToken=accepted.accessToken ∧ s.latest≤accepted.endOfLife
  expired : s.waits=true → s.authState=.EXPIRED → s.getAuthToken = ""

/-- As its token ends the wait is given up and reported. -/
def GivenUp (event : Event) (t : Delegate) : Prop :=
  event=.wake → s.authState=.REFRESHED → ∀ accepted,s.accepted=some accepted → s.now=accepted.endOfLife →
    t.getAuthToken = "" ∧ t.authState=.EXPIRED ∧ t.reports=s.reports++[(.EXPIRED,t.authError)]

/-- A step that does what is asked of it. -/
def Conforming (config : Configuration) (s : Delegate) (event : Event) (t : Delegate) : Prop :=
  Step config s event t ∧ Kept t ∧ GivenUp s event t

/-- The token that was accepted last has not ended. -/
def Alive : Prop :=
  s.authState=.REFRESHED → ∀ accepted∈s.accepted,s.now≤accepted.endOfLife

def NotEnding : Prop :=
  s.authState=.REFRESHED → ∀ accepted∈s.accepted,s.now≠accepted.endOfLife

/-- An answer comes while the token lives. When a wait ends as the token does, that is before the time to
refresh it, and no failure was reported. -/
def InTime : Event → Prop
  | .wake => NotEnding s ∨ s.tokenExpirationTime<s.timeToRefresh ∧ s.authFailureReported=false
  | .refreshResponse response _ =>
    (∀ fields∈acceptedFields response,s.now≤(fields.acceptedAt s.requestTime).endOfLife) ∧
      (acceptedFields response=none → (tokenError response).isRetried=true → Alive s)
  | .tick _ | .onAuthFailure _ => True

end

theorem wrap_le {x : ℤ} (h : 0≤x) : wrap x≤x := by
  unfold wrap
  by_cases hfits : x<2^63
  · rw [Int.bmod_eq_of_le (by omega) (by omega)]
  · have hlt := Int.bmod_lt (x := x) (m := 2^64) (by decide)
    omega

theorem addSeconds_wrap (time seconds : ℤ) : addSeconds time (wrap seconds)=wrap (time+seconds*nanoseconds) := by
  unfold addSeconds wrap
  rw [Int.bmod_mul_bmod,Int.add_bmod_bmod]

theorem addSeconds_le_endOfLife (fields : TokenFields) {requestTime : TimePoint} (h : 0≤requestTime) :
    addSeconds requestTime fields.expiresInSeconds≤(fields.acceptedAt requestTime).endOfLife := by
  unfold TokenFields.expiresInSeconds
  rw [addSeconds_wrap]
  refine wrap_le (Int.add_nonneg h (Int.mul_nonneg (Int.natCast_nonneg _) ?_))
  decide

variable {config : Configuration} {s t : Delegate}

/-- What holds wherever the loop is. -/
structure Core (s : Delegate) : Prop where
  clock : 0 ≤ s.now
  request : 0 ≤ s.requestTime
  /-- In `REFRESHED` the token is that of the last response that was accepted. -/
  refreshed : s.authState=.REFRESHED → ∃ accepted,s.accepted=some accepted ∧
    s.accessToken=accepted.accessToken ∧ s.tokenExpirationTime≤accepted.endOfLife
  expired : s.authState=.EXPIRED → s.accessToken = ""

/-- What holds in every run in which the answers are in time. -/
structure Inv (s : Delegate) : Prop where
  core : Core s
  waiting : ∀ isAboutToExpire nextActionTime,s.stage=.waiting isAboutToExpire nextActionTime →
    isAboutToExpire=s.isAboutToExpire
  kept : Kept s

theorem isAboutToExpire_iff :
    s.isAboutToExpire=true ↔ s.authState=.REFRESHED ∧ s.tokenExpirationTime<s.timeToRefresh := by
  unfold isAboutToExpire
  rw [and_eq_true_iff,decide_eq_true_iff,decide_eq_true_iff]

/-- In `REFRESHED` no longer than its token lives. -/
theorem nextActionTime_le (hstate : s.authState=.REFRESHED) :
    (if s.isAboutToExpire then s.tokenExpirationTime else s.timeToRefresh) ≤ s.tokenExpirationTime := by
  cases hexpire : s.isAboutToExpire with
  | true => exact Int.le_refl _
  | false =>
    refine Int.not_lt.mp fun hlt => ?_
    cases hexpire.symm.trans (isAboutToExpire_iff.mpr ⟨hstate,hlt⟩)

theorem core_wait : Core s.wait ↔ Core s := by
  constructor
  · exact fun h => ⟨h.clock,h.request,h.refreshed,h.expired⟩
  · exact fun h => ⟨h.clock,h.request,h.refreshed,h.expired⟩

/-- The wait that begins is over before the token ends if the token has not ended. -/
theorem kept_wait (h : Core s) : Kept s.wait ↔ Alive s := by
  constructor
  · intro hkept hstate accepted haccepted
    obtain ⟨other,hother,-,hlatest⟩ := hkept.refreshed rfl hstate
    obtain rfl := Option.some.inj (haccepted.symm.trans hother)
    exact (le_max_left _ _).trans hlatest
  · intro halive
    refine ⟨fun _ hstate => ?_,fun _ hstate => h.expired hstate⟩
    obtain ⟨accepted,haccepted,htoken,hexpiration⟩ := h.refreshed hstate
    refine ⟨accepted,haccepted,htoken,max_le (halive hstate accepted haccepted) ?_⟩
    exact (nextActionTime_le hstate).trans hexpiration

theorem inv_wait (h : Core s) (halive : Alive s) : Inv s.wait := by
  refine ⟨core_wait.mpr h,fun isAboutToExpire nextActionTime heq => ?_,(kept_wait h).mpr halive⟩
  cases heq
  rfl

/-- Where the loop does not wait, nothing is asked of what it hands out. -/
theorem kept_of_not_waits (h : s.waits=false) : Kept s :=
  ⟨fun hwaits => (by cases h.symm.trans hwaits),fun hwaits => (by cases h.symm.trans hwaits)⟩

theorem inv_tick (h : Inv s) {duration : ℤ} (hpossible : Possible s (.tick duration)) :
    Inv {s with now := s.now+duration} := by
  obtain ⟨hduration,hlatest,-⟩ := hpossible
  refine ⟨⟨Int.add_nonneg h.core.clock hduration,h.core.request,h.core.refreshed,h.core.expired⟩,h.waiting,
    fun hwaits hstate => ?_,h.kept.expired⟩
  obtain ⟨accepted,haccepted,htoken,hend⟩ := h.kept.refreshed hwaits hstate
  refine ⟨accepted,haccepted,htoken,le_trans ?_ hend⟩
  unfold latest at hlatest ⊢
  cases hstage : s.stage with
  | waiting =>
    rw [hstage] at hlatest
    exact max_le hlatest (le_max_right _ _)
  | requesting =>
    rw [hstage] at hwaits
    cases hwaits
  | stopped => exact Int.le_refl _

theorem inv_onAuthFailure (h : Inv s) (token : String) : Inv (s.onAuthFailure token) := by
  unfold onAuthFailure
  split
  · exact ⟨⟨h.core.clock,h.core.request,h.core.refreshed,h.core.expired⟩,h.waiting,⟨h.kept.refreshed,h.kept.expired⟩⟩
  · exact h

theorem setAuthState_eq (s : Delegate) (newAuthState : AuthState) : s.setAuthState newAuthState =
    {s with authState := newAuthState,reports := (s.setAuthState newAuthState).reports} := by
  unfold setAuthState
  split
  next heq => rw [heq]
  · rfl

theorem inv_expire (h : Core s) :
    Inv (({s with authFailureReported := false,accessToken := ""}.setAuthState .EXPIRED).wait) := by
  rw [setAuthState_eq]
  exact inv_wait ⟨h.clock,h.request,nofun,fun _ => rfl⟩ nofun

theorem inv_requestRefresh (h : Core s) (newRefreshToken : Bool) : Inv (s.requestRefresh config newRefreshToken) :=
  ⟨⟨h.clock,h.clock,h.refreshed,h.expired⟩,nofun,kept_of_not_waits rfl⟩

theorem wake_spec (h : Inv s) {isAboutToExpire : Bool} {nextActionTime : TimePoint}
    (hstage : s.stage=.waiting isAboutToExpire nextActionTime) :
    Inv (s.wake config isAboutToExpire) ∧ (GivenUp s .wake (s.wake config isAboutToExpire) ↔ InTime s .wake) := by
  have hexpire := h.waiting isAboutToExpire nextActionTime hstage
  unfold wake
  dsimp only
  by_cases hgives : (isAboutToExpire && !s.authFailureReported)=true
  · rw [if_pos hgives]
    obtain ⟨htrue,hreported⟩ := and_eq_true_iff.mp hgives
    rw [hexpire] at htrue
    obtain ⟨hstate,hlt⟩ := isAboutToExpire_iff.mp htrue
    refine ⟨inv_expire h.core,iff_of_true (fun _ _ _ _ _ => ?_) (.inr ⟨hlt,(not_eq_true' _).mp hreported⟩)⟩
    have hchanged : AuthState.EXPIRED≠s.authState := by
      rw [hstate]
      exact nofun
    unfold setAuthState
    rw [if_neg hchanged]
    exact ⟨rfl,rfl,rfl⟩
  · rw [if_neg hgives]
    have hcore : Core {s with authFailureReported := false,newRefreshToken := false} :=
      ⟨h.core.clock,h.core.request,h.core.refreshed,h.core.expired⟩
    refine ⟨inv_requestRefresh hcore _,?_⟩
    constructor
    · intro hgiven
      refine .inl fun hstate accepted haccepted hending => ?_
      obtain ⟨-,hexpired,-⟩ := hgiven rfl hstate accepted haccepted hending
      cases hstate.symm.trans hexpired
    · rintro (hnot|⟨hlt,hreported⟩) _ hstate accepted haccepted hending
      · exact (hnot hstate accepted haccepted hending).elim
      · refine (hgives (and_eq_true_iff.mpr ⟨?_,(not_eq_true' _).mpr hreported⟩)).elim
        rw [hexpire]
        exact isAboutToExpire_iff.mpr ⟨hstate,hlt⟩

theorem tokenError_ne (response : HTTPResponse TokenFields) : tokenError response≠.SUCCESS := by
  unfold tokenError
  split
  · exact nofun
  next hne => exact hne

theorem core_accept (h : Core s) (fields : TokenFields) :
    Core ({s.accept config fields false with retryCount := 0}.setAuthState .REFRESHED) := by
  have hexpiration : (s.accept config fields false).tokenExpirationTime =
      addSeconds s.requestTime fields.expiresInSeconds := by
    unfold accept
    rw [if_neg Bool.false_ne_true]
  have hle := addSeconds_le_endOfLife fields h.request
  rw [←hexpiration] at hle
  rw [setAuthState_eq]
  exact ⟨h.clock,h.request,fun _ => ⟨fields.acceptedAt s.requestTime,rfl,rfl,hle⟩,nofun⟩

theorem alive_accept (fields : TokenFields) :
    Alive ({s.accept config fields false with retryCount := 0}.setAuthState .REFRESHED) ↔
      s.now≤(fields.acceptedAt s.requestTime).endOfLife := by
  rw [setAuthState_eq]
  constructor
  · exact fun halive => halive rfl (fields.acceptedAt s.requestTime) rfl
  · intro hle _ accepted haccepted
    rw [←Option.some.inj haccepted]
    exact hle

theorem refreshResponse_spec (h : Core s) (newRefreshToken : Bool) (response : HTTPResponse TokenFields) (delay : ℤ) :
    (InTime s (.refreshResponse response delay) → Inv (s.refreshResponse config newRefreshToken response delay)) ∧
      (Kept (s.refreshResponse config newRefreshToken response delay) →
        InTime s (.refreshResponse response delay)) := by
  unfold refreshResponse receiveTokenResponse
  cases hfields : acceptedFields response with
  | some fields =>
    dsimp only
    rw [if_pos rfl]
    have herror : Core {s with authError := parseLWAResponse response} :=
      ⟨h.clock,h.request,h.refreshed,h.expired⟩
    have hcore := @core_accept config _ herror fields
    have halive := @alive_accept config {s with authError := parseLWAResponse response} fields
    constructor
    · exact fun hintime => inv_wait hcore (halive.mpr (hintime.1 fields hfields))
    · intro hkept
      refine ⟨fun other hother => ?_,fun hnone => by cases hfields.symm.trans hnone⟩
      rw [←Option.some.inj (hfields.symm.trans hother)]
      exact halive.mp ((kept_wait hcore).mp hkept)
  | none =>
    dsimp only
    rw [if_neg (tokenError_ne response)]
    have hnofields : ∀ fields∈acceptedFields response,s.now≤(fields.acceptedAt s.requestTime).endOfLife :=
      fun fields hsome => by cases hfields.symm.trans hsome
    cases hretried : (tokenError response).isRetried with
    | true =>
      rw [if_pos rfl]
      have hcore : Core {s with
          authError := parseLWAResponse response
          timeToRefresh := wrap (s.now+delay*1000000)
          retryCount := s.retryCount+1} := ⟨h.clock,h.request,h.refreshed,h.expired⟩
      constructor
      · exact fun hintime => inv_wait hcore (hintime.2 hfields hretried)
      · exact fun hkept => ⟨hnofields,fun _ _ => (kept_wait hcore).mp hkept⟩
    | false =>
      rw [if_neg Bool.false_ne_true]
      refine ⟨fun _ => ⟨?_,nofun,kept_of_not_waits rfl⟩,fun _ => ⟨hnofields,?_⟩⟩
      · split
        · rw [setAuthState_eq]
          exact ⟨h.clock,h.request,nofun,nofun⟩
        · rw [setAuthState_eq]
          exact ⟨h.clock,h.request,nofun,nofun⟩
      · exact fun _ htrue => by cases hretried.symm.trans htrue

theorem conforming_iff {event : Event} (h : Inv s) :
    (Conforming config s event t ↔ Guarded (Step config) InTime s event t) ∧
      (Guarded (Step config) InTime s event t → Inv t) := by
  suffices hstep : Step config s event t → (InTime s event → Inv t ∧ GivenUp s event t) ∧
      (Kept t ∧ GivenUp s event t → InTime s event) by
    refine ⟨⟨fun hlast => ⟨(hstep hlast.1).2 hlast.2,hlast.1⟩,fun hlast => ?_⟩,fun hlast => ?_⟩
    · obtain ⟨hinv,hgiven⟩ := (hstep hlast.2).1 hlast.1
      exact ⟨hlast.2,hinv.kept,hgiven⟩
    · exact ((hstep hlast.2).1 hlast.1).1
  rintro ⟨hpossible,rfl⟩
  have hother : event≠.wake → ∀ u,GivenUp s event u := fun hne u heq => (hne heq).elim
  cases event with
  | tick => exact ⟨fun _ => ⟨inv_tick h hpossible,hother nofun _⟩,fun _ => trivial⟩
  | onAuthFailure token => exact ⟨fun _ => ⟨inv_onAuthFailure h token,hother nofun _⟩,fun _ => trivial⟩
  | wake =>
    have hwakes : s.wakes=true := hpossible
    unfold next
    unfold wakes at hwakes
    cases hstage : s.stage with
    | waiting =>
      obtain ⟨hinv,hgiven⟩ := @wake_spec config _ h _ _ hstage
      exact ⟨fun hintime => ⟨hinv,hgiven.mpr hintime⟩,fun hlast => hgiven.mp hlast.2⟩
    | requesting | stopped =>
      rw [hstage] at hwakes
      cases hwakes
  | refreshResponse response delay =>
    obtain ⟨hrequests,-⟩ := hpossible
    unfold next
    unfold requests at hrequests
    cases hstage : s.stage with
    | requesting newRefreshToken =>
      obtain ⟨hinv,hkept⟩ := @refreshResponse_spec config _ h.core newRefreshToken response delay
      exact ⟨fun hintime => ⟨hinv hintime,hother nofun _⟩,fun hlast => hkept hlast.1⟩
    | waiting | stopped =>
      rw [hstage] at hrequests
      cases hrequests

/-- Where the loop starts it has handed out nothing in `REFRESHED`. -/
theorem inv_start (hstart : Start config s) : Inv s := by
  cases hstart with
  | stored hnow =>
    refine inv_wait ⟨hnow,Int.le_refl _,nofun,nofun⟩ ?_
    exact nofun
  | requested hrequest hnow haccepted =>
    unfold startRequested receiveTokenResponse
    rw [haccepted]
    refine inv_wait ⟨Int.le_trans hrequest hnow,hrequest,nofun,
      nofun⟩ ?_
    exact nofun

/-- Exactly the runs in which every step is in time. -/
theorem tokens_in_time_iff {start : Delegate} (hstart : Start config start) {trace : List Event} :
    Run (Conforming config) start trace s ↔ Run (Guarded (Step config) InTime) start trace s :=
  Run.congr Inv (inv_start hstart) (fun _ _ _ h hlast => (conforming_iff h).2 hlast) fun _ _ _ h => (conforming_iff h).1

/-- Ten minutes ahead, and one minute for a request. -/
def defaultConfiguration : Configuration := ⟨60,600⟩

/-- A response with a token that lives for so long. -/
def tokenFor (seconds : UInt64) : HTTPResponse TokenFields :=
  ⟨200,some ⟨none,some "token",some "refresh",some "bearer",some seconds⟩⟩

def noAnswer : HTTPResponse TokenFields := ⟨0,none⟩

/-- It can be decided whether a step is in time. -/
instance (s : Delegate) : (event : Event) → Decidable (InTime s event)
  | .wake => inferInstanceAs (Decidable ((s.authState=.REFRESHED → ∀ accepted∈s.accepted,s.now≠accepted.endOfLife) ∨
        s.tokenExpirationTime<s.timeToRefresh ∧ s.authFailureReported=false))
  | .refreshResponse response _ => inferInstanceAs (Decidable
      ((∀ fields∈acceptedFields response,s.now≤(fields.acceptedAt s.requestTime).endOfLife) ∧
        (acceptedFields response=none → (tokenError response).isRetried=true →
          s.authState=.REFRESHED → ∀ accepted∈s.accepted,s.now≤accepted.endOfLife)))
  | .tick _ | .onAuthFailure _ => isTrue trivial

theorem guarded_next (config : Configuration) (s : Delegate) (event : Event)
    (h : (decide (Possible s event) && decide (InTime s event))=true) :
    Guarded (Step config) InTime s event (s.next config event) := by
  obtain ⟨hpossible,hintime⟩ := and_eq_true_iff.mp h
  exact ⟨of_decide_eq_true hintime,step_next config s event hpossible⟩

/-- A token that lives for a second is refreshed in vain until it expires. -/
def refreshedInVain : List Event :=
  [.wake,.refreshResponse (tokenFor 1) 0,.wake,.refreshResponse noAnswer 0,.wake,.refreshResponse noAnswer 1500,
    .tick 1000000000,.wake]

/-- Where it ends. -/
def givenUp : Delegate := refreshedInVain.foldl (next defaultConfiguration) (startStored 0 "refresh")

/-- It is given up in time. -/
theorem tokens_in_time_second :
    Run (Conforming defaultConfiguration) (startStored 0 "refresh") refreshedInVain givenUp ∧
      givenUp.getAuthToken = "" ∧ givenUp.reports=[(.REFRESHED,.SUCCESS),(.EXPIRED,.UNKNOWN_ERROR)] := by
  have hfollow : canFollow (fun s event => decide (Possible s event) && decide (InTime s event))
      (next defaultConfiguration) (startStored 0 "refresh") refreshedInVain=true := by
    decide +kernel
  have hrun := Run.follow (guarded_next defaultConfiguration) Run.refl hfollow
  have hresult : givenUp.getAuthToken = "" ∧ givenUp.reports=[(.REFRESHED,.SUCCESS),(.EXPIRED,.UNKNOWN_ERROR)] := by
    decide +kernel
  exact ⟨(tokens_in_time_iff (Start.stored (Int.le_refl 0) "refresh")).mpr hrun,hresult⟩

/-- The next request begins when less than a second is left, and takes a minute. -/
def askedLate : List Event :=
  [.wake,.refreshResponse (tokenFor 1) 0,.wake,.tick 500000000,.refreshResponse noAnswer 0,.wake,.tick 60000000000,
    .refreshResponse noAnswer 660]

def waitingOn : Delegate := askedLate.foldl (next defaultConfiguration) (startStored 0 "refresh")

/-- A token is handed out that ended a minute ago. -/
theorem token_outlives_lifetime : Start defaultConfiguration (startStored 0 "refresh") ∧
      Run (Step defaultConfiguration) (startStored 0 "refresh") askedLate waitingOn ∧
      waitingOn.waits=true ∧ waitingOn.authState=.REFRESHED ∧ waitingOn.getAuthToken = "token" ∧
      waitingOn.accepted=some ⟨"token",0,1⟩ ∧ Accepted.endOfLife ⟨"token",0,1⟩=1000000000 ∧
      waitingOn.now=60500000000 ∧ ¬Kept waitingOn := by
  have hfollow : canFollow (fun s event => decide (Possible s event)) (next defaultConfiguration)
      (startStored 0 "refresh") askedLate=true := by
    decide +kernel
  have hrun := Run.follow (step_next defaultConfiguration) Run.refl hfollow
  have hwaits : waitingOn.waits=true ∧ waitingOn.authState=.REFRESHED ∧ waitingOn.getAuthToken = "token" ∧
      waitingOn.accepted=some ⟨"token",0,1⟩ ∧ Accepted.endOfLife ⟨"token",0,1⟩=1000000000 ∧
      waitingOn.now=60500000000 := by
    decide +kernel
  have hlate : ¬waitingOn.latest≤1000000000 := by decide
  obtain ⟨hwaiting,hstate,htoken,haccepted,hend,hnow⟩ := hwaits
  refine ⟨.stored (Int.le_refl 0) "refresh",hrun,hwaiting,hstate,htoken,haccepted,hend,hnow,fun hkept => ?_⟩
  obtain ⟨accepted,hlast,-,hlatest⟩ := hkept.refreshed hwaiting hstate
  rw [←Option.some.inj (haccepted.symm.trans hlast),hend] at hlatest
  exact hlate hlatest

end AlexaClientSDK.CBLAuthDelegate
