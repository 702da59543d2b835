import AlexaClientSDK.CBLAuthDelegate

/-!
# The code pair of an authorization

`CBLAuthDelegate` requests a user code and a device code, shows the user code, and polls for a token. A response that
lacks something is followed by another request, but what it had stays in the members, and is looked at together with the
next response.
-/

namespace AlexaClientSDK.CBLAuthDelegate

open List LabelledRuns

structure CodePairFields where
  userCode : Option String
  deviceCode : Option String
  verificationUri : Option String
  expiresIn : Option UInt64

/-- A code, with the number of the response it was found in. -/
structure Code where
  code : String
  response : ℕ
deriving DecidableEq

inductive FlowState
  | REQUESTING_CODE_PAIR
  | REQUESTING_TOKEN
  | REFRESHING_TOKEN
  | STOPPING
deriving DecidableEq

/-- The members, and what was done with them. -/
structure Authorization where
  m_userCode : Code
  m_deviceCode : Code
  m_codePairExpirationTime : TimePoint
  flow : FlowState
  /-- The number of responses received. -/
  received : ℕ
  /-- What `onRequestAuthorization` was called with. -/
  shown : List Code
  /-- The user code and the device code of each token request. -/
  requests : List (Code × Code)
  /-- The responses whose expiry was applied. -/
  expiries : List ℕ

namespace Authorization

/-- The errors after which another code pair is requested. -/
def isRetried : AuthError → Bool
  | .UNKNOWN_ERROR | .AUTHORIZATION_FAILED | .SERVER_ERROR | .AUTHORIZATION_EXPIRED | .INVALID_CODE_PAIR
  | .AUTHORIZATION_PENDING | .SLOW_DOWN => true
  | _ => false

/-- The members with the codes of a response that has them. -/
def read (s : Authorization) (fields : CodePairFields) : Authorization :=
  {s with
    m_userCode := fields.userCode.elim s.m_userCode fun code => ⟨code,s.received⟩
    m_deviceCode := fields.deviceCode.elim s.m_deviceCode fun code => ⟨code,s.received⟩}

/-- Nothing is missing, of the members or of a response. -/
def Complete (s : Authorization) (fields : CodePairFields) : Prop :=
  s.m_userCode.code≠"" ∧ s.m_deviceCode.code≠"" ∧ fields.verificationUri.getD ""≠"" ∧
    wrap (fields.expiresIn.elim 0 UInt64.toNat : ℕ)≠0

instance (s : Authorization) (fields : CodePairFields) : Decidable (s.Complete fields) :=
  inferInstanceAs (Decidable (_ ∧ _ ∧ _ ∧ _))

section

variable (s : Authorization)

def receiveCodePairResponse (response : HTTPResponse CodePairFields) (now : TimePoint) : Authorization × AuthError :=
  match response.document with
  | some document =>
    if parseLWAResponse response≠.SUCCESS then (s,parseLWAResponse response)
    else
      let s := s.read document.fields
      if ¬s.Complete document.fields then (s,.UNKNOWN_ERROR)
      else
        ({s with
          m_codePairExpirationTime := addSeconds now (wrap (document.fields.expiresIn.elim 0 UInt64.toNat : ℕ))
          expiries := s.expiries++[s.received]
          shown := s.shown++[s.m_userCode]},.SUCCESS)
  | none => (s,parseLWAResponse response)

/-- A turn of `handleRequestingCodePair`. -/
def codePairTurn (response : HTTPResponse CodePairFields) (now : TimePoint) : Authorization :=
  let received := s.receiveCodePairResponse response now
  {received.1 with
    received := s.received+1
    flow := if received.2=.SUCCESS then .REQUESTING_TOKEN
      else if isRetried received.2 then .REQUESTING_CODE_PAIR else .STOPPING}

/-- A turn of `handleRequestingToken`, with what the token request led to. -/
def tokenTurn (now : TimePoint) (result : AuthError) : Authorization :=
  if now≥s.m_codePairExpirationTime then {s with flow := .STOPPING}
  else
    {s with
      requests := s.requests++[(s.m_userCode,s.m_deviceCode)]
      flow := if result=.SUCCESS then .REFRESHING_TOKEN
        else if result.isRetried then .REQUESTING_TOKEN else .STOPPING}

/-- The loops go on. -/
inductive Turn
  | codePair (response : HTTPResponse CodePairFields) (now : TimePoint)
  | token (now : TimePoint) (result : AuthError)
  | stop

inductive Step (s : Authorization) : Turn → Authorization → Prop
  | codePair (hflow : s.flow=.REQUESTING_CODE_PAIR) (response : HTTPResponse CodePairFields) (now : TimePoint) :
    Step s (.codePair response now) (s.codePairTurn response now)
  | token (hflow : s.flow=.REQUESTING_TOKEN) (now : TimePoint) (result : AuthError) :
    Step s (.token now result) (s.tokenTurn now result)
  | stop : Step s .stop {s with flow := .STOPPING}

/-- Everything that is done with codes is done with those of one response. -/
def OnePair : Prop :=
  ∃ n,(∀ code∈s.shown,code.response=n) ∧ (∀ codes∈s.requests,codes.1.response=n ∧ codes.2.response=n) ∧
    ∀ m∈s.expiries,m=n

/-- A response with which nothing is missing has both codes itself. -/
def Carried : Turn → Prop
  | .codePair response _ => ∀ document,response.document=some document → parseLWAResponse response=.SUCCESS →
      (s.read document.fields).Complete document.fields →
      document.fields.userCode.isSome ∧ document.fields.deviceCode.isSome
  | _ => True

end

/-- Before any response. -/
def create : Authorization := ⟨⟨"",0⟩,⟨"",0⟩,maxTime,.REQUESTING_CODE_PAIR,0,[],[],[]⟩

/-- Nothing was done with codes yet, or all with those that the members hold. -/
structure Inv (s : Authorization) : Prop where
  unused : s.flow=.REQUESTING_CODE_PAIR → s.shown=[] ∧ s.requests=[] ∧ s.expiries=[]
  used : s.flow=.REQUESTING_TOKEN → s.m_userCode.response=s.m_deviceCode.response ∧
    s.expiries=[s.m_userCode.response] ∧ s.shown=[s.m_userCode] ∧ ∀ codes∈s.requests,codes=(s.m_userCode,s.m_deviceCode)
  onePair : s.OnePair

variable {s t : Authorization} {response : HTTPResponse CodePairFields} {now : TimePoint}

/-- A response is not accepted and ignored, or it makes the members complete. -/
theorem receiveCodePairResponse_cases (s : Authorization) (response : HTTPResponse CodePairFields) (now : TimePoint) :
    ((s.receiveCodePairResponse response now).2≠.SUCCESS ∧ (s.receiveCodePairResponse response now).1.shown=s.shown ∧
      (s.receiveCodePairResponse response now).1.requests=s.requests ∧
      (s.receiveCodePairResponse response now).1.expiries=s.expiries) ∨
    ∃ document expiration,response.document=some document ∧ parseLWAResponse response=.SUCCESS ∧
      (s.read document.fields).Complete document.fields ∧
      s.receiveCodePairResponse response now=({s.read document.fields with
        m_codePairExpirationTime := expiration
        expiries := s.expiries++[s.received]
        shown := s.shown++[(s.read document.fields).m_userCode]},.SUCCESS) := by
  unfold receiveCodePairResponse
  cases hdocument : response.document with
  | none =>
    refine .inl ⟨?_,rfl,rfl,rfl⟩
    unfold parseLWAResponse
    rw [hdocument]
    dsimp only
    split
    · exact AuthError.noConfusion
    · assumption
  | some document =>
    dsimp only
    split
    · next hfailed => exact .inl ⟨hfailed,rfl,rfl,rfl⟩
    · next hparsed =>
      split
      · exact .inl ⟨AuthError.noConfusion,rfl,rfl,rfl⟩
      · next hcomplete => exact .inr ⟨document,_,rfl,not_not.mp hparsed,not_not.mp hcomplete,rfl⟩

theorem inv_codePair (h : Inv s) (hflow : s.flow=.REQUESTING_CODE_PAIR) (hcarried : s.Carried (.codePair response now)) :
    Inv (s.codePairTurn response now) := by
  obtain ⟨hshown,hrequests,hexpiries⟩ := h.unused hflow
  unfold codePairTurn
  rcases receiveCodePairResponse_cases s response now with
    ⟨hfailed,hshown',hrequests',hexpiries'⟩ | ⟨document,expiration,hdocument,hparsed,hcomplete,hreceived⟩
  · rw [hshown] at hshown'
    rw [hrequests] at hrequests'
    rw [hexpiries] at hexpiries'
    refine ⟨fun _ => ⟨hshown',hrequests',hexpiries'⟩,fun hnext => ?_,s.received,?_⟩
    · dsimp only at hnext
      rw [if_neg hfailed] at hnext
      split at hnext <;> cases hnext
    · dsimp only
      rw [hshown',hrequests',hexpiries']
      simp
  · obtain ⟨huser,hdevice⟩ := hcarried document hdocument hparsed hcomplete
    obtain ⟨user,huser⟩ := Option.isSome_iff_exists.mp huser
    obtain ⟨device,hdevice⟩ := Option.isSome_iff_exists.mp hdevice
    rw [hreceived,hshown,hexpiries]
    unfold read
    rw [huser,hdevice]
    refine ⟨fun hnext => (nomatch hnext),fun _ => ⟨rfl,rfl,rfl,?_⟩,s.received,?_⟩
    · rw [hrequests]
      exact fun _ hmem => absurd hmem not_mem_nil
    · simp [hrequests]

theorem inv_token (h : Inv s) (hflow : s.flow=.REQUESTING_TOKEN) (now : TimePoint) (result : AuthError) :
    Inv (s.tokenTurn now result) := by
  obtain ⟨hsame,hexpiries,hshown,hrequests⟩ := h.used hflow
  unfold tokenTurn
  split
  · exact ⟨fun hnext => (nomatch hnext),fun hnext => (nomatch hnext),h.onePair⟩
  · have hmore : ∀ codes∈s.requests++[(s.m_userCode,s.m_deviceCode)],codes=(s.m_userCode,s.m_deviceCode) :=
      forall_mem_append.mpr ⟨hrequests,forall_mem_singleton.mpr rfl⟩
    refine ⟨fun hnext => ?_,fun _ => ⟨hsame,hexpiries,hshown,hmore⟩,s.m_userCode.response,?_,fun codes hcodes => ?_,?_⟩
    · dsimp only at hnext
      split at hnext
      · cases hnext
      · split at hnext <;> cases hnext
    · rw [hshown]
      exact forall_mem_singleton.mpr rfl
    · rw [hmore codes hcodes]
      exact ⟨rfl,hsame.symm⟩
    · rw [hexpiries]
      exact forall_mem_singleton.mpr rfl

theorem inv_step (h : Inv s) {turn : Turn} (hcarried : s.Carried turn) (hstep : Step s turn t) : Inv t := by
  cases hstep with
  | codePair hflow => exact inv_codePair h hflow hcarried
  | token hflow now result => exact inv_token h hflow now result
  | stop => exact ⟨fun hnext => (nomatch hnext),fun hnext => (nomatch hnext),h.onePair⟩

/-- There is one code pair if no response is completed with an earlier code. -/
theorem onePair_of_run {trace : List Turn} (run : Run (Guarded Step Carried) create trace s) : s.OnePair :=
  (Run.invariant Inv run ⟨fun _ => ⟨rfl,rfl,rfl⟩,fun hnext => (nomatch hnext),0,by simp [create]⟩
    fun _ _ _ h hstep => inv_step h hstep.1 hstep.2).onePair

/-- A response that has some codes. -/
def pairResponse (userCode deviceCode : Option String) : HTTPResponse CodePairFields :=
  ⟨200,some ⟨none,userCode,deviceCode,some "uri",some 600⟩⟩

/-- A response without a device code is refused, the next one has both, and a token is asked for. -/
def polled : Authorization :=
  ((create.codePairTurn (pairResponse (some "first") none) 0).codePairTurn
    (pairResponse (some "user") (some "device")) 5).tokenTurn 10 .AUTHORIZATION_PENDING

/-- The codes are those of the second response. -/
theorem onePair_of_run_polled : polled.OnePair ∧ polled.shown=[⟨"user",1⟩] ∧
    polled.requests=[(⟨"user",1⟩,⟨"device",1⟩)] := by
  have hcarried : create.Carried (.codePair (pairResponse (some "first") none) 0) := by
    intro document hdocument _ hcomplete
    cases hdocument
    exact absurd hcomplete (by decide)
  have hrefused : Run (Guarded Step Carried) create ([]++[.codePair (pairResponse (some "first") none) 0]) _ :=
    Run.refl.snoc ⟨hcarried,.codePair rfl _ _⟩
  have haccepted := hrefused.allow (.codePair (by decide) (pairResponse (some "user") (some "device")) 5)
    fun _ hdocument _ _ => Option.some.inj hdocument ▸ ⟨rfl,rfl⟩
  exact ⟨onePair_of_run (haccepted.allow (.token (by decide) 10 .AUTHORIZATION_PENDING) trivial),by decide,by decide⟩

/-- A first response lacks the user code, the next one the device code. -/
theorem pair_of_two_responses : ∃ (trace : List Turn) (s : Authorization),Run Step create trace s ∧ ¬s.OnePair := by
  have hfirst : Run Step create ([]++[.codePair (pairResponse none (some "device")) 0]) _ :=
    Run.refl.snoc (.codePair rfl _ _)
  have hsecond := hfirst.snoc (.codePair (by decide) (pairResponse (some "user") none) 5)
  refine ⟨_,_,hsecond.snoc (.token (by decide) 10 .AUTHORIZATION_PENDING),?_⟩
  rintro ⟨n,-,hrequests,-⟩
  obtain ⟨huser,hdevice⟩ := hrequests (⟨"user",1⟩,⟨"device",0⟩) (by decide)
  exact absurd (huser.trans hdevice.symm) (by decide)

end Authorization

end AlexaClientSDK.CBLAuthDelegate
