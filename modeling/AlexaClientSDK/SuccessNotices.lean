import AlexaClientSDK.LastLocales
import AlexaClientSDK.SupportedSettings

/-!
# The notifications of success

When the values of a request are stored, its observers are told that the setting has changed. `storeValues` says that it
has stored them also when the request is no longer the pending one and nothing is stored, so observers may be told of a
change that was not made. They are told without the lock, and see nothing of a setting but its current value.
-/

namespace AlexaClientSDK.SuccessNotices

open List LabelledRuns PendingRequests LastLocales
open LocaleWakeWordsSetting hiding Event Possible Step step_next
open LocaleWakeWordsSetting.Setting hiding create

variable {assets : AssetsManager} {request : RequestParameters}

/-- `LOCAL_CHANGE` or `AVS_CHANGE`, with its value and the current one. -/
inductive Notice
  | locales (requestType : RequestType) (asked current : DeviceLocales)
  | wakeWords (requestType : RequestType) (asked current : WakeWords)
deriving DecidableEq

/-- The current value is that of the request. -/
def Notice.IsTrue : Notice → Prop
  | .locales _ asked current => current=asked
  | .wakeWords _ asked current => current=asked

def notifyObserversOfSuccess (s : Setting) (request : RequestParameters) : List Notice :=
  (if request.localeRequestType≠.NONE then [.locales request.localeRequestType request.locales s.locales] else []) ++
    if request.wakeWordsRequestType≠.NONE then [.wakeWords request.wakeWordsRequestType request.wakeWords s.wakeWords]
    else []

structure Watched where
  setting : Setting
  /-- It has succeeded, and the observers are to be told. -/
  notifying : Option RequestParameters
  notices : List Notice

def create (assets : AssetsManager) (storage : Storage) : Watched where
  setting := Setting.create assets storage
  notifying := none
  notices := []

/-- What can happen. -/
inductive Event
  /-- A call, or the executor goes on. -/
  | setting (event : LocaleWakeWordsSetting.Event)
  /-- The executor tells the observers that a request has succeeded. -/
  | notify (request : RequestParameters)

def ofExecutor : LocaleWakeWordsSetting.Event → Bool
  | .begin _ | .proceed _ _ => true
  | .setLocalLocales _ | .setAvsLocales _ | .setLocalWakeWords _ | .setAvsWakeWords _ | .connected => false

def succeeded (s : Setting) : LocaleWakeWordsSetting.Event → Option RequestParameters
  | .proceed (.storing request) ok => if (s.storeValues request ok).2 then some request else none
  | _ => none

/-- It can happen now. -/
def Possible (s : Watched) : Event → Prop
  | .setting event =>
    LocaleWakeWordsSetting.Possible s.setting event ∧ (ofExecutor event=true → s.notifying=none)
  | .notify request => s.notifying=some request

instance (s : Watched) : (event : Event) → Decidable (Possible s event)
  | .setting event =>
    inferInstanceAs (Decidable
      (LocaleWakeWordsSetting.Possible s.setting event ∧ (ofExecutor event=true → s.notifying=none)))
  | .notify request => inferInstanceAs (Decidable (s.notifying=some request))

def Watched.next (assets : AssetsManager) (s : Watched) : Event → Watched
  | .setting event =>
    {s with
      setting := s.setting.next assets event
      notifying := (succeeded s.setting event).or s.notifying}
  | .notify request =>
    {s with
      notifying := none
      notices := s.notices++notifyObserversOfSuccess s.setting request}

def Step (assets : AssetsManager) (s : Watched) (event : Event) (t : Watched) : Prop :=
  Possible s event ∧ t=s.next assets event

theorem step_next (assets : AssetsManager) (s : Watched) (event : Event) (hpossible : decide (Possible s event)=true) :
    Step assets s event (s.next assets event) := ⟨of_decide_eq_true hpossible,rfl⟩

/-- The current values are those that the request asks for. -/
def Matches (s : Setting) (request : RequestParameters) : Prop :=
  (request.localeRequestType≠.NONE → s.locales=request.locales) ∧
    (request.wakeWordsRequestType≠.NONE → s.wakeWords=request.wakeWords)

/-- A request that comes to be stored is the pending one, or asks for what is current anyway. -/
def Allowed (s : Watched) : Event → Prop
  | .setting (.proceed (.storing request) _) =>
    s.setting.isLatestRequestLocked request=true ∨ Matches s.setting request
  | _ => True

variable {s t : Watched}

/-- When the current values are those of the request. -/
theorem notices_true_iff (s : Setting) (request : RequestParameters) :
    (∀ notice∈notifyObserversOfSuccess s request,notice.IsTrue) ↔ Matches s request := by
  constructor
  · intro htrue
    refine ⟨fun htype => ?_,fun htype => ?_⟩
    · exact htrue _ (mem_append_left _ (by rw [if_pos htype]; exact mem_singleton_self _))
    · exact htrue _ (mem_append_right _ (by rw [if_pos htype]; exact mem_singleton_self _))
  · intro hmatches notice hmem
    obtain hmem|hmem := mem_append.mp hmem
    · split at hmem
      next htype =>
        rw [mem_singleton.mp hmem]
        exact hmatches.1 htype
      · cases hmem
    · split at hmem
      next htype =>
        rw [mem_singleton.mp hmem]
        exact hmatches.2 htype
      · cases hmem

/-- A pending request that is stored becomes current. -/
theorem matches_storeValues {s : Setting} {ok : Bool} (hok : (s.storeValues request ok).2=true)
    (hallowed : s.isLatestRequestLocked request=true ∨ Matches s request) :
    Matches (s.storeValues request ok).1 request := by
  unfold storeValues at hok ⊢
  by_cases hlatest : s.isLatestRequestLocked request=true
  · rw [if_pos hlatest] at hok ⊢
    by_cases htypes : request.localeRequestType≠.NONE ∨ request.wakeWordsRequestType≠.NONE
    · rw [if_pos htypes] at hok ⊢
      cases ok with
      | true =>
        rw [if_pos rfl]
        exact ⟨fun htype => if_pos htype,fun htype => if_pos htype⟩
      | false => cases hok
    · rw [if_neg htypes]
      exact ⟨fun htype => (htypes (.inl htype)).elim,fun htype => (htypes (.inr htype)).elim⟩
  · rw [if_neg hlatest]
    exact hallowed.resolve_left hlatest

/-- One that is not pending is not stored, and `storeValues` says that it is. -/
theorem storeValues_superseded {s : Setting} (hlatest : s.isLatestRequestLocked request≠true) (ok : Bool) :
    s.storeValues request ok=(s,true) := by
  unfold storeValues
  rw [if_neg hlatest]

theorem values_call (s : Setting) {event : LocaleWakeWordsSetting.Event} (hcall : ofExecutor event=false) :
    (s.next assets event).locales=s.locales ∧ (s.next assets event).wakeWords=s.wakeWords := by
  have hlocales : ∀ locales requestType,(s.setLocales assets locales requestType).1.locales=s.locales ∧
      (s.setLocales assets locales requestType).1.wakeWords=s.wakeWords := by
    intro locales requestType
    obtain ⟨heq,-⟩|⟨heq,-⟩|⟨status,heq,-⟩ := setLocales_cases assets s locales requestType
    all_goals rw [heq]; exact ⟨rfl,rfl⟩
  have hwakeWords : ∀ wakeWords requestType,(s.setWakeWords assets wakeWords requestType).1.locales=s.locales ∧
      (s.setWakeWords assets wakeWords requestType).1.wakeWords=s.wakeWords := by
    intro wakeWords requestType
    obtain heq|⟨status,heq,-⟩ := setWakeWords_cases assets s wakeWords requestType
    all_goals rw [heq]; exact ⟨rfl,rfl⟩
  cases event with
  | setLocalLocales locales => exact hlocales locales .LOCAL
  | setAvsLocales locales => exact hlocales locales .AVS
  | setLocalWakeWords wakeWords => exact hwakeWords wakeWords .LOCAL
  | setAvsWakeWords wakeWords => exact hwakeWords wakeWords .AVS
  | connected => exact ⟨rfl,rfl⟩
  | begin => cases hcall
  | proceed => cases hcall

/-- What holds in every run in which only what is allowed happens. -/
structure Inv (s : Watched) : Prop where
  told : ∀ notice∈s.notices,notice.IsTrue
  telling : ∀ request,s.notifying=some request → Matches s.setting request

theorem inv_create (assets : AssetsManager) (storage : Storage) : Inv (create assets storage) :=
  ⟨nofun,nofun⟩

theorem next_storing {ok : Bool} (hnotifying : s.notifying=none) :
    (s.next assets (.setting (.proceed (.storing request) ok))).notifying =
      if (s.setting.storeValues request ok).2 then some request else none := by
  unfold Watched.next
  dsimp only [succeeded]
  rw [hnotifying,Option.or_none]

theorem inv_step {event : Event} (h : Inv s) (hstep : Step assets s event t) (hallowed : Allowed s event) : Inv t := by
  obtain ⟨hpossible,rfl⟩ := hstep
  cases event with
  | notify request =>
    refine ⟨fun notice hmem => ?_,nofun⟩
    obtain hold|hnew := mem_append.mp hmem
    · exact h.told notice hold
    · exact (notices_true_iff s.setting request).mpr (h.telling request hpossible) notice hnew
  | setting event =>
    obtain ⟨-,hexecutor⟩ := hpossible
    refine ⟨h.told,fun request hsome => ?_⟩
    by_cases hcall : ofExecutor event=true
    · have hnotifying := hexecutor hcall
      cases event with
      | proceed running ok =>
        cases running with
        | storing stored =>
          rw [next_storing hnotifying] at hsome
          split at hsome
          next hok =>
            obtain rfl := Option.some.inj hsome
            exact matches_storeValues hok hallowed
          · cases hsome
        | initializing | changing | reverting | failing | checkingWakeWords | sendingWakeWords | checkingLocale
        | sendingLocale | clearing => cases hnotifying.symm.trans hsome
      | begin work => cases hnotifying.symm.trans hsome
      | setLocalLocales | setAvsLocales | setLocalWakeWords | setAvsWakeWords | connected => cases hcall
    · have hsame : (s.next assets (.setting event)).notifying=s.notifying := by
        cases event with
        | begin | proceed => exact (hcall rfl).elim
        | setLocalLocales | setAvsLocales | setLocalWakeWords | setAvsWakeWords | connected => rfl
      obtain ⟨hlocales,hwakeWords⟩ := @values_call assets s.setting event (Bool.eq_false_iff.mpr hcall)
      have hmatches := h.telling request (hsame.symm.trans hsome)
      refine ⟨fun htype => ?_,fun htype => ?_⟩
      · exact hlocales.trans (hmatches.1 htype)
      · exact hwakeWords.trans (hmatches.2 htype)

/-- In every run in which a stored request is pending or asks for what is current, observers are told the truth;
after any other step they can be told what is not true. -/
theorem successes_true (assets : AssetsManager) (storage : Storage) {trace : List Event}
    (hrun : Run (Guarded (Step assets) Allowed) (create assets storage) trace s) :
    (∀ notice∈s.notices,notice.IsTrue) ∧ ∀ event t,Step assets s event t → ¬Allowed s event →
        ∃ request u,Step assets t (.notify request) u ∧ ∃ notice∈u.notices,¬notice.IsTrue := by
  have hinv : Inv s :=
    hrun.invariant Inv (inv_create assets storage) fun _ _ _ h hstep => inv_step h hstep.2 hstep.1
  refine ⟨hinv.told,fun event t hstep hforbidden => ?_⟩
  obtain ⟨⟨hpossible,rfl⟩,request,ok,rfl⟩ : Step assets s event t ∧
      ∃ request ok,event=.setting (.proceed (.storing request) ok) := by
    refine ⟨hstep,?_⟩
    cases event with
    | notify => exact (hforbidden trivial).elim
    | setting event =>
      cases event with
      | proceed running ok =>
        cases running with
        | storing request => exact ⟨request,ok,rfl⟩
        | initializing | changing | reverting | failing | checkingWakeWords | sendingWakeWords | checkingLocale
        | sendingLocale | clearing => exact (hforbidden trivial).elim
      | begin | setLocalLocales | setAvsLocales | setLocalWakeWords | setAvsWakeWords | connected =>
        exact (hforbidden trivial).elim
  obtain ⟨hlatest,hdiffers⟩ := not_or.mp hforbidden
  have hskipped := storeValues_superseded hlatest ok
  have hnotifying := @next_storing assets request s ok (hpossible.2 rfl)
  rw [hskipped,if_pos rfl] at hnotifying
  refine ⟨request,_,⟨hnotifying,rfl⟩,?_⟩
  have hvalues : ¬Matches (s.next assets (.setting (.proceed (.storing request) ok))).setting request := by
    intro hmatches
    have hsetting : (s.next assets (.setting (.proceed (.storing request) ok))).setting =
        {s.setting with running := some (.checkingWakeWords request true)} := by
      unfold Watched.next Setting.next proceed
      dsimp only
      rw [hskipped]
      rfl
    rw [hsetting] at hmatches
    exact hdiffers hmatches
  rw [←notices_true_iff] at hvalues
  push Not at hvalues
  obtain ⟨notice,hmem,hfalse⟩ := hvalues
  exact ⟨notice,mem_append_right _ hmem,hfalse⟩

/-- The request is replaced after the assets have been changed for it. -/
def replacedTrace : List Event :=
  [.setting (.setLocalLocales ["de-DE"]),.setting (.begin (.restore ["en-US"] DEFAULT_WAKE_WORDS)),
    .setting (.proceed (.initializing ["en-US"] DEFAULT_WAKE_WORDS) true),
    .setting (.begin (.change (other .LOCAL))),
    .setting (.proceed (.changing (other .LOCAL) ["de-DE"] DEFAULT_WAKE_WORDS) true)]

theorem run_follow (labels : List Event)
    (hfollow : canFollow (fun s event => decide (Possible s event)) (Watched.next twoLocales)
      (create twoLocales defaultStored) labels=true) :
    Run (Step twoLocales) (create twoLocales defaultStored) labels
      (labels.foldl (Watched.next twoLocales) (create twoLocales defaultStored)) :=
  Run.follow (step_next twoLocales) Run.refl hfollow

/-- The request is stored and its observers are told. -/
theorem successes_true_stored : ∃ s,Run (Step twoLocales) (create twoLocales defaultStored)
        (replacedTrace++[.setting (.proceed (.storing (other .LOCAL)) true), .notify (other .LOCAL)]) s ∧
      s.notices=[.locales .LOCAL ["de-DE"] ["de-DE"]] ∧ ∀ notice∈s.notices,notice.IsTrue := by
  have hrun := run_follow replacedTrace (by decide)
  have hguarded : Run (Guarded (Step twoLocales) Allowed) _ _ _ :=
    hrun.guard fun event hmem state => by
      unfold replacedTrace at hmem
      simp only [mem_cons,not_mem_nil,or_false] at hmem
      rcases hmem with rfl|rfl|rfl|rfl|rfl <;> exact trivial
  have hstored := hguarded.allow (step_next twoLocales _
    (.setting (.proceed (.storing (other .LOCAL)) true)) (by decide)) (.inl (by decide))
  have htold := hstored.allow (step_next twoLocales _ (.notify (other .LOCAL)) (by decide)) trivial
  rw [append_assoc] at htold
  exact ⟨_,htold.forget,by decide,(successes_true _ _ htold).1⟩

/-- Another comes before the values are stored, and is told. -/
theorem superseded_request_succeeds : ∃ (assets : AssetsManager) (storage : Storage) (trace : List Event) (s : Watched),
      Run (Step assets) (create assets storage) trace s ∧ Notice.locales .LOCAL ["de-DE"] ["en-US"]∈s.notices ∧
        ¬(Notice.locales .LOCAL ["de-DE"] ["en-US"]).IsTrue := by
  refine ⟨twoLocales,defaultStored,replacedTrace++[.setting (.setAvsLocales ["en-US"]),
    .setting (.proceed (.storing (other .LOCAL)) true),.notify (other .LOCAL)],_,
    run_follow _ (by decide),by decide,?_⟩
  unfold Notice.IsTrue
  decide

end AlexaClientSDK.SuccessNotices
