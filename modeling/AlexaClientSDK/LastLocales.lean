import AlexaClientSDK.LabelledRuns
import AlexaClientSDK.PendingRequests

/-!
# The last locales

The locales are those of the last accepted call of `setLocales` when the executor has nothing left to do. A call that
asks for the current locales is accepted without a request, so that another request that is pending must not set any.
-/

namespace AlexaClientSDK.LastLocales

open Option LabelledRuns LocaleWakeWordsSetting Setting PendingRequests

variable {assets : AssetsManager} {s t : Setting} {request : RequestParameters}

def Drained (s : Setting) : Prop := s.executor=[] ∧ s.running=none

/-- The assets manager and the storage do what they are asked for. -/
def succeeds : Event → Bool
  | .proceed (.changing _ _ _) ok | .proceed (.storing _) ok => ok
  | _ => true

/-- The current locales may be asked for when the pending request does not set others. -/
def Heeded (assets : AssetsManager) (s : Setting) : Event → Prop
  | .setLocalLocales locales => isValid assets locales=true → locales=s.locales →
      ∀ pending∈s.pendingRequest,pending.localeRequestType≠.NONE → pending.locales=locales
  | _ => True

def Allowed (assets : AssetsManager) (s : Setting) (event : Event) : Prop :=
  succeeds event=true ∧ Heeded assets s event

def afterStoring : Running → Option RequestParameters
  | .reverting request | .failing request | .clearing request => some request
  | .checkingWakeWords request change | .sendingWakeWords request change | .checkingLocale request change
  | .sendingLocale request change => if change then some request else none
  | .initializing _ _ | .changing _ _ _ | .storing _ => none

/-- What holds in every run in which only what is allowed happens. -/
structure Inv (s : Setting) : Prop where
  queued : Queued s
  /-- A pending request that sets no locales has the current ones. -/
  kept : ∀ pending,s.pendingRequest=some pending → pending.localeRequestType=.NONE → pending.locales=s.locales
  sets : ∀ pending,s.pendingRequest=some pending → pending.localeRequestType≠.NONE →
    ∀ locales,s.accepted=some locales → pending.locales=locales
  /-- If none is going to set locales the current ones are those. -/
  current : (∀ pending,s.pendingRequest=some pending → pending.localeRequestType=.NONE) →
    ∀ locales,s.accepted=some locales → s.locales=locales
  stored : ∀ request,s.running.bind afterStoring=some request → s.pendingRequest=some request →
    request.localeRequestType≠.NONE → s.locales=request.locales

variable {running : Running}

theorem afterStoring_subset (hsome : afterStoring running=some request) : requestNow running=some request := by
  cases running with
  | initializing => cases hsome
  | changing => cases hsome
  | storing => cases hsome
  | _ => exact hsome

section

variable (h : Inv s)
include h

theorem Inv.old (hsome : s.running.bind afterStoring=some request) : request.id ≤ s.requestCounter := by
  obtain ⟨running,hrunning,hafter⟩ := bind_eq_some_iff.mp hsome
  refine h.queued.counter request ?_
  rw [changes_eq hrunning,afterStoring_subset hafter]
  exact List.mem_cons_self

theorem Inv.same (hqueued : Queued t) (hlocales : t.locales=s.locales)
    (hpending : t.pendingRequest=s.pendingRequest) (haccepted : t.accepted=s.accepted)
    (hrunning : ∀ request,t.running.bind afterStoring=some request → s.running.bind afterStoring=some request) :
    Inv t where
  queued := hqueued
  kept pending hsome := by
    rw [hlocales]
    exact h.kept pending (hpending ▸ hsome)
  sets pending hsome := by
    rw [haccepted]
    exact h.sets pending (hpending ▸ hsome)
  current hnone := by
    rw [hlocales,haccepted]
    exact h.current (hpending ▸ hnone)
  stored other hafter hsome := by
    rw [hlocales]
    exact h.stored other (hrunning other hafter) (hpending ▸ hsome)

theorem inv_setLocales (locales : DeviceLocales) {requestType : RequestType} (htype : requestType≠.NONE)
    (hheeded : requestType≠.AVS → isValid assets locales=true → locales=s.locales →
      ∀ pending∈s.pendingRequest,pending.localeRequestType≠.NONE → pending.locales=locales) :
    Inv (s.setLocales assets locales requestType).1 := by
  have hqueued := queued_setLocales assets h.queued locales requestType
  obtain ⟨heq,-⟩|⟨heq,hvalid,hwhy⟩|⟨status,heq,-⟩ := setLocales_cases assets s locales requestType
  · rw [heq]
    exact h
  · rw [heq] at hqueued ⊢
    refine ⟨hqueued,h.kept,fun pending hsome hsets last hlast => ?_,fun hnone last hlast => ?_,h.stored⟩
    · obtain rfl := some.inj hlast
      rcases hwhy with ⟨other,hother,hsame⟩|⟨hlocal,hcurrent⟩
      · obtain rfl := some.inj (hother.symm.trans hsome)
        exact hsame
      · exact hheeded hlocal hvalid hcurrent pending hsome hsets
    · obtain rfl := some.inj hlast
      rcases hwhy with ⟨other,hother,hsame⟩|⟨-,hcurrent⟩
      · exact (h.kept other hother (hnone other hother)).symm.trans hsame
      · exact hcurrent.symm
  · rw [heq] at hqueued ⊢
    refine ⟨hqueued,fun pending hsome hnone => ?_,fun pending hsome _ last hlast => ?_,fun hnone => ?_,
      fun other hafter hsome => ?_⟩
    · obtain rfl := some.inj hsome
      exact (htype hnone).elim
    · obtain rfl := some.inj hsome
      exact some.inj hlast
    · exact (htype (hnone _ rfl)).elim
    · have hold := h.old hafter
      obtain rfl := some.inj hsome
      exact absurd hold (Nat.not_succ_le_self _)

theorem inv_setWakeWords (wakeWords : WakeWords) (requestType : RequestType) :
    Inv (s.setWakeWords assets wakeWords requestType).1 := by
  have hqueued := queued_setWakeWords assets h.queued wakeWords requestType
  obtain heq|⟨status,heq,-⟩ := setWakeWords_cases assets s wakeWords requestType
  · rw [heq]
    exact h
  · rw [heq] at hqueued ⊢
    have hstored : ∀ other,s.running.bind afterStoring=some other →
        some (RequestParameters.mk (s.requestCounter+1) s.localesFor.1 s.localesFor.2 requestType wakeWords)=some other →
        other.localeRequestType≠.NONE → s.locales=other.locales := by
      intro other hafter hsome
      have hold := h.old hafter
      obtain rfl := some.inj hsome
      exact absurd hold (Nat.not_succ_le_self _)
    obtain hnot|⟨merged,hmerged⟩ := eq_none_or_eq_some (s.pendingRequest.filter fun pending =>
      pending.localeRequestType != .NONE)
    · have hfor : s.localesFor=(.NONE,s.locales) := by
        unfold localesFor
        rw [hnot]
        rfl
      have hnone : ∀ pending,s.pendingRequest=some pending → pending.localeRequestType=.NONE := by
        intro pending hsome
        have hfalse := filter_eq_none_iff.mp hnot pending hsome
        by_contra hsets
        exact hfalse (bne_iff_ne.mpr hsets)
      refine ⟨hqueued,fun pending hsome _ => ?_,fun pending hsome hsets => ?_,fun _ => h.current hnone,hstored⟩
      · obtain rfl := some.inj hsome
        exact congrArg Prod.snd hfor
      · obtain rfl := some.inj hsome
        exact (hsets (congrArg Prod.fst hfor)).elim
    · have hfor : s.localesFor=(merged.localeRequestType,merged.locales) := by
        unfold localesFor
        rw [hmerged]
        rfl
      obtain ⟨hpending,hbne⟩ := filter_eq_some_iff.mp hmerged
      have hsets : s.localesFor.1≠.NONE := by
        rw [hfor]
        exact bne_iff_ne.mp hbne
      refine ⟨hqueued,fun pending hsome hnone => ?_,fun pending hsome _ last hlast => ?_,fun hnone => ?_,hstored⟩
      · obtain rfl := some.inj hsome
        exact (hsets hnone).elim
      · obtain rfl := some.inj hsome
        have hlocales : s.localesFor.2=merged.locales := congrArg Prod.snd hfor
        exact hlocales.trans (h.sets merged hpending (bne_iff_ne.mp hbne) last hlast)
      · exact (hsets (hnone _ rfl)).elim

theorem inv_begin {work : Work} (hidle : s.running=none) (hhead : s.executor.head?=some work) :
    Inv ({s with executor := s.executor.tail}.begin work) := by
  have hqueued := queued_begin h.queued hidle hhead
  cases work with
  | change =>
    unfold begin at hqueued ⊢
    dsimp only at hqueued ⊢
    split at hqueued
    next hlatest =>
      rw [if_pos hlatest]
      exact h.same hqueued rfl rfl rfl nofun
    next hlatest =>
      rw [if_neg hlatest]
      exact h.same hqueued rfl rfl rfl fun _ hafter => hafter
  | restore | synchronize => exact h.same hqueued rfl rfl rfl nofun

variable {ok : Bool}

theorem inv_goesOn (hrunning : s.running=some running) (hlocales : (s.proceed ok running).locales=s.locales)
    (hpending : (s.proceed ok running).pendingRequest=s.pendingRequest)
    (haccepted : (s.proceed ok running).accepted=s.accepted)
    (hafter : ∀ request,(s.proceed ok running).running.bind afterStoring=some request →
      afterStoring running=some request) : Inv (s.proceed ok running) := by
  refine h.same (queued_proceed h.queued hrunning ok) hlocales hpending haccepted fun request hsome => ?_
  rw [hrunning]
  exact hafter request hsome

theorem inv_storing (hrunning : s.running=some (.storing request)) : Inv (s.proceed true (.storing request)) := by
  have hqueued := queued_proceed h.queued hrunning true
  have hmem : request∈changes s := by
    rw [changes_eq hrunning]
    exact List.mem_cons_self
  obtain ⟨-,hpending,-,haccepted⟩ := storeValues_frame s request true
  by_cases hlatest : s.isLatestRequestLocked request=true
  · have hthis := (h.queued.latest_iff hmem).mp hlatest
    have hlocales : (s.proceed true (.storing request)).locales =
        if request.localeRequestType≠.NONE then request.locales else s.locales := by
      change (s.storeValues request true).1.locales=_
      unfold storeValues
      rw [if_pos hlatest]
      split
      · rfl
      next hnone => rw [if_neg fun hsets => hnone (.inl hsets)]
    have hpending' : (s.proceed true (.storing request)).pendingRequest=some request := hpending.trans hthis
    have haccepted' : (s.proceed true (.storing request)).accepted=s.accepted := haccepted
    refine ⟨hqueued,fun pending hsome hnone => ?_,fun pending hsome => ?_,fun hnone => ?_,fun other _ hsome hsets => ?_⟩
    · obtain rfl := some.inj (hpending'.symm.trans hsome)
      rw [hlocales,if_neg (not_not_intro hnone)]
      exact h.kept _ hthis hnone
    · obtain rfl := some.inj (hpending'.symm.trans hsome)
      rw [haccepted']
      exact h.sets _ hthis
    · have hnone' := hnone request hpending'
      rw [hlocales,if_neg (not_not_intro hnone'),haccepted']
      refine h.current fun pending hsome => ?_
      obtain rfl := some.inj (hthis.symm.trans hsome)
      exact hnone'
    · obtain rfl := some.inj (hpending'.symm.trans hsome)
      rw [hlocales,if_pos hsets]
  · have hnot : (s.storeValues request true)=(s,true) := if_neg hlatest
    have hsame : s.proceed true (.storing request)={s with running := some (.checkingWakeWords request true)} := by
      unfold proceed
      dsimp only
      rw [hnot]
      rfl
    rw [hsame] at hqueued ⊢
    refine ⟨hqueued,h.kept,h.sets,h.current,fun other hafter hsome => ?_⟩
    obtain rfl := some.inj hafter
    exact (hlatest ((h.queued.latest_iff hmem).mpr hsome)).elim

theorem inv_clearing (hrunning : s.running=some (.clearing request)) : Inv (s.proceed ok (.clearing request)) := by
  have hqueued := queued_proceed h.queued hrunning ok
  have hmem : request∈changes s := by
    rw [changes_eq hrunning]
    exact List.mem_cons_self
  have hafter : s.running.bind afterStoring=some request := by
    rw [hrunning]
    rfl
  unfold proceed at hqueued ⊢
  dsimp only at hqueued ⊢
  cases hlatest : s.isLatestRequestLocked request with
  | true =>
    have hthis := (h.queued.latest_iff hmem).mp hlatest
    rw [hlatest] at hqueued
    refine ⟨hqueued,fun pending hsome => (by cases hsome),fun pending hsome => (by cases hsome),fun _ last hlast => ?_,
      fun other hother => by cases hother⟩
    rcases eq_or_ne request.localeRequestType .NONE with hnone|hsets
    · refine h.current (fun pending hsome => ?_) last hlast
      obtain rfl := some.inj (hthis.symm.trans hsome)
      exact hnone
    · exact (h.stored request hafter hthis hsets).trans (h.sets request hthis hsets last hlast)
  | false =>
    rw [hlatest] at hqueued
    exact h.same hqueued rfl rfl rfl nofun

theorem inv_proceed (hrunning : s.running=some running)
    (hsucceeds : succeeds (.proceed running ok)=true) : Inv (s.proceed ok running) := by
  cases running with
  | initializing => exact inv_goesOn h hrunning rfl rfl rfl nofun
  | changing =>
    obtain rfl : ok=true := hsucceeds
    exact inv_goesOn h hrunning rfl rfl rfl nofun
  | storing =>
    obtain rfl : ok=true := hsucceeds
    exact inv_storing h hrunning
  | reverting | sendingWakeWords => exact inv_goesOn h hrunning rfl rfl rfl fun _ hafter => hafter
  | failing | checkingWakeWords =>
    refine inv_goesOn h hrunning rfl rfl rfl fun other hafter => ?_
    unfold proceed at hafter
    dsimp only at hafter
    split at hafter
    · exact hafter
    · exact hafter
  | checkingLocale request change =>
    refine inv_goesOn h hrunning rfl rfl rfl fun other hafter => ?_
    unfold proceed at hafter
    dsimp only at hafter
    split at hafter
    · cases change with
      | true => exact hafter
      | false => cases hafter
    · exact hafter
  | sendingLocale request change =>
    refine inv_goesOn h hrunning rfl rfl rfl fun other hafter => ?_
    cases change with
    | true => exact hafter
    | false => cases hafter
  | clearing => exact inv_clearing h hrunning

theorem inv_step {event : Event} (hstep : Step assets s event t) (hallowed : Allowed assets s event) : Inv t := by
  have hqueued := queued_step h.queued hstep
  obtain ⟨hpossible,rfl⟩ := hstep
  obtain ⟨hsucceeds,hheeded⟩ := hallowed
  cases event with
  | setLocalLocales locales => exact inv_setLocales h locales nofun fun _ => hheeded
  | setAvsLocales locales => exact inv_setLocales h locales nofun fun hlocal => (hlocal rfl).elim
  | setLocalWakeWords wakeWords => exact inv_setWakeWords h wakeWords .LOCAL
  | setAvsWakeWords wakeWords => exact inv_setWakeWords h wakeWords .AVS
  | connected => exact h.same hqueued rfl rfl rfl fun _ hafter => hafter
  | begin => exact inv_begin h hpossible.1 hpossible.2
  | proceed => exact inv_proceed h hpossible hsucceeds

end

theorem inv_create (assets : AssetsManager) (storage : Storage) : Inv (create assets storage) := by
  have hqueued := queued_create assets storage
  unfold create at hqueued ⊢
  dsimp only at hqueued ⊢
  split at hqueued
  next hsynchronize =>
    rw [if_pos hsynchronize]
    refine ⟨hqueued,fun pending hsome _ => ?_,fun _ _ _ last hlast => (by cases hlast),fun _ last hlast => (by cases hlast),
      fun other hafter => by cases hafter⟩
    obtain rfl := some.inj hsome
    rfl
  next hsynchronized =>
    rw [if_neg hsynchronized]
    exact ⟨hqueued,fun pending hsome => (by cases hsome),fun pending hsome => (by cases hsome),
      fun _ last hlast => (by cases hlast),fun other hafter => by cases hafter⟩

/-- In every run in which everything succeeds, and the current locales are asked for only when no others are
pending, the locales are those accepted last when the executor is done. -/
theorem last_locales_win (assets : AssetsManager) (storage : Storage) {trace : List Event} {s : Setting}
    (run : Run (Guarded (Step assets) (Allowed assets)) (create assets storage) trace s) (hdrained : Drained s)
    {locales : DeviceLocales} (haccepted : s.accepted=some locales) : s.locales=locales := by
  have hinv : Inv s := run.invariant Inv (inv_create assets storage) fun _ _ _ h hstep => inv_step h hstep.2 hstep.1
  refine hinv.current (fun pending hsome => ?_) locales haccepted
  have hpending := hinv.queued.pending
  unfold changes at hpending
  rw [hdrained.1,hdrained.2,hsome] at hpending
  cases hpending

/-- An assets manager that supports two locales and one wake word. -/
def twoLocales : AssetsManager where
  getDefaultLocale := "en-US"
  getSupportedLocales := {"en-US","de-DE"}
  getSupportedLocaleCombinations := ∅
  getDefaultSupportedWakeWords := {DEFAULT_WAKE_WORDS}
  getSupportedWakeWords := fun _ => {DEFAULT_WAKE_WORDS}

def defaultStored : Storage := ⟨⟨.SYNCHRONIZED,some ["en-US"]⟩,⟨.SYNCHRONIZED,some DEFAULT_WAKE_WORDS⟩⟩

def other (requestType : RequestType) : RequestParameters := ⟨1,requestType,["de-DE"],.NONE,DEFAULT_WAKE_WORDS⟩

def draining (requestType : RequestType) : List Event :=
  [.begin (.restore ["en-US"] DEFAULT_WAKE_WORDS),.proceed (.initializing ["en-US"] DEFAULT_WAKE_WORDS) true,
    .begin (.change (other requestType)),.proceed (.changing (other requestType) ["de-DE"] DEFAULT_WAKE_WORDS) true,
    .proceed (.storing (other requestType)) true,.proceed (.checkingWakeWords (other requestType) true) true,
    .proceed (.checkingLocale (other requestType) true) true,.proceed (.sendingLocale (other requestType) true) true,
    .proceed (.clearing (other requestType)) true]

theorem run_follow (labels : List Event)
    (hfollow : canFollow (fun s event => decide (Possible s event)) (Setting.next twoLocales)
      (create twoLocales defaultStored) labels=true) : Run (Step twoLocales) (create twoLocales defaultStored) labels
      (labels.foldl (Setting.next twoLocales) (create twoLocales defaultStored)) :=
  Run.follow (step_next twoLocales) Run.refl hfollow

/-- The other locale is set by a directive. -/
theorem last_locales_win_directive : ((Event.setAvsLocales ["de-DE"]::draining .AVS).foldl (Setting.next twoLocales)
      (create twoLocales defaultStored)).locales=["de-DE"] := by
  have hallowed : ∀ event∈Event.setAvsLocales ["de-DE"]::draining .AVS,∀ s,Allowed twoLocales s event := by
    intro event hmem s
    unfold draining at hmem
    simp only [List.mem_cons,List.not_mem_nil,or_false] at hmem
    rcases hmem with rfl|rfl|rfl|rfl|rfl|rfl|rfl|rfl|rfl|rfl <;> exact ⟨rfl,trivial⟩
  have hrun := (run_follow (.setAvsLocales ["de-DE"]::draining .AVS) (by decide)).guard hallowed
  exact last_locales_win twoLocales defaultStored hrun ⟨by decide,by decide⟩ (by decide)

/-- The user takes a request for the other locale back, which is carried out. -/
theorem withdrawn_request_is_applied :
    ∃ (assets : AssetsManager) (storage : Storage) (trace : List Event) (s : Setting),
      Run (Step assets) (create assets storage) trace s ∧ (∀ event∈trace,succeeds event=true) ∧ Drained s ∧
        s.accepted=some ["en-US"] ∧ s.locales=["de-DE"] :=
  ⟨twoLocales,defaultStored,.setLocalLocales ["de-DE"]::.setLocalLocales ["en-US"]::draining .LOCAL,_,
    run_follow _ (by decide),by decide,⟨by decide,by decide⟩,by decide,
    by decide⟩

end AlexaClientSDK.LastLocales
