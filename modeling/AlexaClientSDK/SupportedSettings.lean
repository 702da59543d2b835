import AlexaClientSDK.LabelledRuns
import AlexaClientSDK.PendingRequests

/-!
# Supported locales and wake words

The assets manager supports some locales, some combinations of them, and for each primary locale some sets of wake
words. What a request leaves is checked when it is made, but for a list without locales, and for the default wake words,
which are taken when the others do not go with the locales.
-/

namespace AlexaClientSDK.SupportedSettings

open Option LabelledRuns LocaleWakeWordsSetting Setting PendingRequests

variable {assets : AssetsManager} {s t : Setting} {request : RequestParameters}

section

variable (assets)

/-- A supported locale, or a supported combination of locales. -/
def SupportedLocales (locales : DeviceLocales) : Prop :=
  (∃ locale∈assets.getSupportedLocales,locales=[locale]) ∨
    1<locales.length ∧ locales∈assets.getSupportedLocaleCombinations

/-- Locales and wake words that go together. -/
structure Supported (assets : AssetsManager) (locales : DeviceLocales) (wakeWords : WakeWords) : Prop where
  ofLocales : SupportedLocales assets locales
  ofWakeWords : wakeWords∈assets.getSupportedWakeWords (getPrimary locales)

def Current (s : Setting) : Prop := Supported assets s.locales s.wakeWords

def stored (s : Setting) : Event → Option RequestParameters
  | .proceed (.storing request) true =>
    if s.isLatestRequestLocked request=true ∧ (request.localeRequestType≠.NONE ∨ request.wakeWordsRequestType≠.NONE)
    then some request else none
  | _ => none

/-- Locales that go with default wake words or with none. -/
def Allowed (s : Setting) (event : Event) : Prop :=
  ∀ request∈stored s event,request.localeRequestType≠.NONE → request.locales≠[] ∧
      ((s.change request).2=DEFAULT_WAKE_WORDS ∨ (s.change request).2=∅ →
        (s.change request).2∈assets.getSupportedWakeWords (getPrimary request.locales))

end

/-- What is known of the pending request. -/
structure Sound (assets : AssetsManager) (s : Setting) (request : RequestParameters) : Prop where
  /-- The locales that it sets are supported, if there are any. -/
  locales : request.localeRequestType≠.NONE → SupportedLocales assets request.locales ∨ request.locales=[]
  /-- They go with the current locales if it does not set them. -/
  kept : request.localeRequestType=.NONE →
    (s.change request).2∈assets.getSupportedWakeWords (getPrimary s.locales)
  changed : request.localeRequestType≠.NONE →
    (s.change request).2∈assets.getSupportedWakeWords (getPrimary request.locales) ∨
      (s.change request).2=DEFAULT_WAKE_WORDS ∨ (s.change request).2=∅

variable {locales : DeviceLocales}

theorem supportedLocales_of_isValid (hvalid : isValid assets locales=true) :
    SupportedLocales assets locales ∨ locales=[] := by
  obtain ⟨hall,hcombination⟩ := Bool.and_eq_true_iff.mp hvalid
  cases locales with
  | nil => exact .inr rfl
  | cons locale rest =>
    cases rest with
    | nil =>
      have hmem := of_decide_eq_true (List.all_eq_true.mp hall locale List.mem_cons_self)
      exact .inl (.inl ⟨locale,hmem,rfl⟩)
    | cons second rest =>
      have hlength : 1<(locale::second::rest).length := by
        rw [List.length_cons,List.length_cons]
        omega
      rcases Bool.or_eq_true_iff.mp hcombination with hshort|hmem
      · have hle := of_decide_eq_true hshort
        omega
      · exact .inl (.inr ⟨hlength,of_decide_eq_true hmem⟩)

variable {wakeWords : WakeWords}

theorem supportedWakeWords_true (hsupported : (assets.supportedWakeWords locales wakeWords).1=true) :
    (assets.supportedWakeWords locales wakeWords).2=wakeWords ∧
      (wakeWords∈assets.getSupportedWakeWords (getPrimary locales) ∨ wakeWords=∅) := by
  unfold AssetsManager.supportedWakeWords at hsupported ⊢
  split at hsupported
  next hmem =>
    rw [if_pos hmem]
    exact ⟨rfl,.inl hmem⟩
  next hmem =>
    have hempty : wakeWords=∅ := by
      rw [beq_iff_eq,Finset.card_empty] at hsupported
      exact Finset.card_eq_zero.mp hsupported.symm
    rw [if_neg hmem,hempty]
    exact ⟨rfl,.inr rfl⟩

theorem supportedWakeWords_false (hsupported : (assets.supportedWakeWords locales wakeWords).1=false) :
    (assets.supportedWakeWords locales wakeWords).2=∅ := by
  unfold AssetsManager.supportedWakeWords at hsupported ⊢
  dsimp only at hsupported ⊢
  split at hsupported
  next hmem =>
    rw [beq_self_eq_true] at hsupported
    cases hsupported
  next hmem => rw [if_neg hmem]

theorem wakeWordsFor_cases (assets : AssetsManager) (s : Setting) (locales : DeviceLocales) (wakeWords : WakeWords)
    (hwakeWords : wakeWords =
      if (wakeWordsFor assets s locales).1≠.NONE then (wakeWordsFor assets s locales).2 else s.wakeWords) :
    wakeWords∈assets.getSupportedWakeWords (getPrimary locales) ∨ wakeWords=DEFAULT_WAKE_WORDS ∨ wakeWords=∅ := by
  let merged := s.pendingRequest.filter fun pending => pending.wakeWordsRequestType != .NONE
  let result := assets.supportedWakeWords locales (merged.elim s.wakeWords RequestParameters.wakeWords)
  cases hsupported : result.1 with
  | true =>
    obtain ⟨hresult,hmem⟩ := supportedWakeWords_true hsupported
    have hfor : wakeWordsFor assets s locales=(merged.elim .NONE RequestParameters.wakeWordsRequestType,result.2) :=
      if_pos hsupported
    rw [hfor] at hwakeWords
    obtain hnone|⟨pending,hsome⟩ := eq_none_or_eq_some merged
    · rw [hnone,elim_none,if_neg (not_not_intro rfl)] at hwakeWords
      rw [hnone,elim_none,←hwakeWords] at hmem
      exact hmem.imp_right .inr
    · have htype : pending.wakeWordsRequestType≠.NONE := bne_iff_ne.mp (filter_eq_some_iff.mp hsome).2
      rw [hsome,elim_some,if_pos htype] at hwakeWords
      rw [←hresult,←hwakeWords] at hmem
      exact hmem.imp_right .inr
  | false =>
    have hresult : result.2=∅ := supportedWakeWords_false hsupported
    have hfor : wakeWordsFor assets s locales = (.LOCAL,if result.2=∅ then DEFAULT_WAKE_WORDS else result.2) :=
      if_neg (by rw [hsupported]; exact Bool.false_ne_true)
    have hlocal : RequestType.LOCAL≠.NONE := nofun
    rw [hfor,if_pos hlocal,if_pos hresult] at hwakeWords
    exact .inr (.inl hwakeWords)

theorem Sound.same (h : Sound assets s request) (hlocales : t.locales=s.locales) (hwakeWords : t.wakeWords=s.wakeWords) :
    Sound assets t request := by
  have hchange : t.change request=s.change request := by
    unfold change
    rw [hlocales,hwakeWords]
  refine ⟨h.locales,fun hnone => ?_,fun hsets => ?_⟩
  · rw [hchange,hlocales]
    exact h.kept hnone
  · rw [hchange]
    exact h.changed hsets

theorem sound_of_current (hcurrent : Current assets s) (hlocales : request.locales=s.locales)
    (hwakeWords : request.wakeWords=s.wakeWords) : Sound assets s request := by
  have hchange : (s.change request).2=s.wakeWords := by
    unfold change
    dsimp only
    split
    · exact hwakeWords
    · rfl
  refine ⟨fun _ => .inl (hlocales ▸ hcurrent.ofLocales),fun _ => ?_,fun _ => .inl ?_⟩
  · rw [hchange]
    exact hcurrent.ofWakeWords
  · rw [hchange,hlocales]
    exact hcurrent.ofWakeWords

/-- What holds in every run in which only what is allowed is stored. -/
structure Inv (assets : AssetsManager) (s : Setting) : Prop where
  queued : Queued s
  current : Current assets s
  sound : ∀ request,s.pendingRequest=some request → Sound assets s request

section

variable (h : Inv assets s)
include h

section

variable (hqueued : Queued t) (hlocales : t.locales=s.locales) (hwakeWords : t.wakeWords=s.wakeWords)
include hqueued hlocales hwakeWords

/-- The value does not change, and there is no new pending request. -/
theorem Inv.same
    (hpending : ∀ request,t.pendingRequest=some request → s.pendingRequest=some request) : Inv assets t where
  queued := hqueued
  current := by
    unfold Current
    rw [hlocales,hwakeWords]
    exact h.current
  sound pending hsome := (h.sound pending (hpending pending hsome)).same hlocales hwakeWords

theorem Inv.submit (hpending : t.pendingRequest=some request) (hsound : Sound assets s request) : Inv assets t where
  queued := hqueued
  current := by
    unfold Current
    rw [hlocales,hwakeWords]
    exact h.current
  sound pending hsome := by
    obtain rfl := some.inj (hpending.symm.trans hsome)
    exact hsound.same hlocales hwakeWords

end

variable {requestType : RequestType}

theorem inv_setLocales (locales : DeviceLocales)
    (htype : requestType≠.NONE) : Inv assets (s.setLocales assets locales requestType).1 := by
  have hqueued := queued_setLocales assets h.queued locales requestType
  obtain ⟨heq,-⟩|⟨heq,-⟩|⟨status,heq,hvalid⟩ := setLocales_cases assets s locales requestType
  · rw [heq]
    exact h
  · rw [heq] at hqueued ⊢
    exact h.same hqueued rfl rfl fun _ hsome => hsome
  · rw [heq] at hqueued ⊢
    refine h.submit hqueued rfl rfl rfl ⟨fun _ => supportedLocales_of_isValid hvalid,
      fun hnone => (htype hnone).elim,fun _ => ?_⟩
    exact wakeWordsFor_cases assets s locales _ rfl

theorem inv_setWakeWords (wakeWords : WakeWords)
    (htype : requestType≠.NONE) : Inv assets (s.setWakeWords assets wakeWords requestType).1 := by
  have hqueued := queued_setWakeWords assets h.queued wakeWords requestType
  obtain heq|⟨status,heq,hsome,hsupported⟩ := setWakeWords_cases assets s wakeWords requestType
  · rw [heq]
    exact h
  · rw [heq] at hqueued ⊢
    have hmem : wakeWords∈assets.getSupportedWakeWords (getPrimary s.localesFor.2) :=
      (supportedWakeWords_true hsupported).2.resolve_right hsome
    have hchange : ∀ id,(s.change ⟨id,s.localesFor.1,s.localesFor.2,requestType,wakeWords⟩).2=wakeWords :=
      fun _ => if_pos htype
    refine h.submit hqueued rfl rfl rfl ⟨?_,?_,fun _ => .inl ?_⟩
    · unfold localesFor
      obtain hnone|⟨pending,hpending⟩ := eq_none_or_eq_some (s.pendingRequest.filter fun pending =>
        pending.localeRequestType != .NONE)
      · rw [hnone]
        exact fun hsets => (hsets rfl).elim
      · rw [hpending]
        exact (h.sound pending (filter_eq_some_iff.mp hpending).1).locales
    · intro hnone
      rw [hchange]
      obtain hnot|⟨pending,hpending⟩ := eq_none_or_eq_some (s.pendingRequest.filter fun pending =>
        pending.localeRequestType != .NONE)
      · unfold localesFor at hmem
        rw [hnot] at hmem
        exact hmem
      · have hsets := bne_iff_ne.mp (filter_eq_some_iff.mp hpending).2
        unfold localesFor at hnone
        rw [hpending] at hnone
        exact (hsets hnone).elim
    · rw [hchange]
      exact hmem

end

theorem frame_begin (s : Setting) (work : Work) :
    (s.begin work).locales=s.locales ∧ (s.begin work).wakeWords=s.wakeWords ∧
      (s.begin work).pendingRequest=s.pendingRequest := by
  cases work with
  | change =>
    unfold begin
    dsimp only
    split
    · exact ⟨rfl,rfl,rfl⟩
    · exact ⟨rfl,rfl,rfl⟩
  | restore | synchronize => exact ⟨rfl,rfl,rfl⟩

theorem stored_storing (s : Setting) (request : RequestParameters) : stored s (.proceed (.storing request) true) =
      if s.isLatestRequestLocked request=true ∧
        (request.localeRequestType≠.NONE ∨ request.wakeWordsRequestType≠.NONE) then some request else none := rfl

variable {ok : Bool}

theorem storeValues_of_stored (hstored : stored s (.proceed (.storing request) ok)=some request) :
    (s.storeValues request ok).1.locales=(s.change request).1 ∧
      (s.storeValues request ok).1.wakeWords=(s.change request).2 ∧ s.isLatestRequestLocked request=true := by
  cases ok with
  | false => cases hstored
  | true =>
    rw [stored_storing] at hstored
    split at hstored
    next hboth =>
      unfold storeValues
      rw [if_pos hboth.1,if_pos hboth.2,if_pos rfl]
      exact ⟨rfl,rfl,hboth.1⟩
    · cases hstored

theorem storeValues_of_none (hstored : stored s (.proceed (.storing request) ok)=none) :
    (s.storeValues request ok).1=s := by
  unfold storeValues
  split
  next hlatest =>
    split
    next htypes =>
      cases ok with
      | true =>
        rw [stored_storing,if_pos ⟨hlatest,htypes⟩] at hstored
        cases hstored
      | false => rfl
    · rfl
  · rfl

theorem frame_proceed {running : Running} (hstored : stored s (.proceed running ok)=none) :
    (s.proceed ok running).locales=s.locales ∧ (s.proceed ok running).wakeWords=s.wakeWords ∧
      ∀ request,(s.proceed ok running).pendingRequest=some request → s.pendingRequest=some request := by
  cases running with
  | storing =>
    have hsame := storeValues_of_none hstored
    unfold proceed
    dsimp only
    rw [hsame]
    exact ⟨rfl,rfl,fun _ hsome => hsome⟩
  | clearing =>
    refine ⟨rfl,rfl,fun other hsome => ?_⟩
    unfold proceed at hsome
    dsimp only at hsome
    split at hsome
    · cases hsome
    · exact hsome
  | initializing | changing | reverting | failing | checkingWakeWords | sendingWakeWords | checkingLocale
  | sendingLocale => exact ⟨rfl,rfl,fun _ hsome => hsome⟩

variable {event : Event}

theorem pending_of_stored (h : Queued s) (hrunning : s.running=some (.storing request))
    (hstored : stored s (.proceed (.storing request) ok)=some request) : s.pendingRequest=some request := by
  have hmem : request∈changes s := by
    rw [changes_eq hrunning]
    exact List.mem_cons_self
  exact (h.latest_iff hmem).mp (storeValues_of_stored hstored).2.2

theorem event_of_stored (hstored : stored s event=some request) : event=.proceed (.storing request) true := by
  cases event with
  | proceed running ok =>
    cases running with
    | storing =>
      cases ok with
      | true =>
        rw [stored_storing] at hstored
        split at hstored
        · rw [some.inj hstored]
        · cases hstored
      | false => cases hstored
    | _ => cases hstored
  | _ => cases hstored

section

variable (h : Inv assets s)
include h

theorem inv_of_none (hstep : Step assets s event t) (hstored : stored s event=none) : Inv assets t := by
  have hqueued := queued_step h.queued hstep
  obtain ⟨hpossible,rfl⟩ := hstep
  cases event with
  | setLocalLocales locales | setAvsLocales locales => exact inv_setLocales h locales nofun
  | setLocalWakeWords wakeWords | setAvsWakeWords wakeWords => exact inv_setWakeWords h wakeWords nofun
  | connected => exact h.same hqueued rfl rfl fun _ hsome => hsome
  | begin work =>
    obtain ⟨hlocales,hwakeWords,hpending⟩ := frame_begin {s with executor := s.executor.tail} work
    exact h.same hqueued hlocales hwakeWords fun _ hsome => hpending.symm.trans hsome
  | proceed =>
    obtain ⟨hlocales,hwakeWords,hpending⟩ := frame_proceed hstored
    exact h.same hqueued hlocales hwakeWords hpending

theorem supported_change_iff (hpending : s.pendingRequest=some request) :
    Supported assets (s.change request).1 (s.change request).2 ↔ (request.localeRequestType≠.NONE → request.locales≠[] ∧
        ((s.change request).2=DEFAULT_WAKE_WORDS ∨ (s.change request).2=∅ →
          (s.change request).2∈assets.getSupportedWakeWords (getPrimary request.locales))) := by
  have hsound := h.sound request hpending
  rcases eq_or_ne request.localeRequestType .NONE with hnone|hsets
  · have hlocales : (s.change request).1=s.locales := if_neg (not_not_intro hnone)
    rw [hlocales]
    exact ⟨fun _ hsets => (hsets hnone).elim,fun _ => ⟨h.current.ofLocales,hsound.kept hnone⟩⟩
  · have hlocales : (s.change request).1=request.locales := if_pos hsets
    rw [hlocales]
    constructor
    · intro hsupported _
      refine ⟨fun hempty => ?_,fun _ => hsupported.ofWakeWords⟩
      rcases hempty ▸ hsupported.ofLocales with ⟨locale,-,heq⟩|⟨hlength,-⟩
      · cases heq
      · exact absurd hlength (Nat.not_lt_zero 1)
    · intro hallowed
      obtain ⟨hsome,hwakeWords⟩ := hallowed hsets
      refine ⟨(hsound.locales hsets).resolve_right hsome,?_⟩
      rcases hsound.changed hsets with hmem|hother
      · exact hmem
      · exact hwakeWords hother

theorem inv_stored (hrunning : s.running=some (.storing request))
    (hstored : stored s (.proceed (.storing request) ok)=some request)
    (hsupported : Supported assets (s.change request).1 (s.change request).2) :
    Inv assets (s.proceed ok (.storing request)) := by
  obtain ⟨hlocales,hwakeWords,-⟩ := storeValues_of_stored hstored
  have hpending := pending_of_stored h.queued hrunning hstored
  have hframe := (storeValues_frame s request ok).2.1
  have hsound := h.sound request hpending
  have hlocales' : (s.proceed ok (.storing request)).locales=(s.change request).1 := hlocales
  have hwakeWords' : (s.proceed ok (.storing request)).wakeWords=(s.change request).2 := hwakeWords
  have hchange : ((s.proceed ok (.storing request)).change request).2=(s.change request).2 := by
    unfold change at hwakeWords' ⊢
    dsimp only at hwakeWords' ⊢
    split
    · rfl
    next hnone =>
      rw [if_neg hnone] at hwakeWords'
      exact hwakeWords'
  refine ⟨queued_proceed h.queued hrunning ok,?_,fun other hother => ?_⟩
  · unfold Current
    rw [hlocales',hwakeWords']
    exact hsupported
  · have hsame : (s.proceed ok (.storing request)).pendingRequest=some request := hframe.trans hpending
    obtain rfl := some.inj (hsame.symm.trans hother)
    refine ⟨hsound.locales,fun hnone => ?_,fun hsets => ?_⟩
    · have hkept : (s.change request).1=s.locales := if_neg (not_not_intro hnone)
      rw [hchange,hlocales',hkept]
      exact hsound.kept hnone
    · rw [hchange]
      exact hsound.changed hsets

theorem inv_step (hstep : Step assets s event t) (hallowed : Allowed assets s event) : Inv assets t := by
  obtain hnone|⟨request,hsome⟩ := eq_none_or_eq_some (stored s event)
  · exact inv_of_none h hstep hnone
  · have hallowed' := hallowed request hsome
    obtain rfl := event_of_stored hsome
    obtain ⟨hrunning,rfl⟩ := hstep
    have hpending := pending_of_stored h.queued hrunning hsome
    exact inv_stored h hrunning hsome ((supported_change_iff h hpending).mpr hallowed')

theorem current_iff (hstep : Step assets s event t) : Current assets t ↔ Allowed assets s event := by
  refine ⟨fun hcurrent request hstored => ?_,fun hallowed => (inv_step h hstep hallowed).current⟩
  obtain rfl := event_of_stored hstored
  obtain ⟨hrunning,rfl⟩ := hstep
  have hpending := pending_of_stored h.queued hrunning hstored
  obtain ⟨hlocales,hwakeWords,-⟩ := storeValues_of_stored hstored
  have hsupported : Supported assets (s.change request).1 (s.change request).2 := by
    rw [←hlocales,←hwakeWords]
    exact hcurrent
  exact (supported_change_iff h hpending).mp hsupported

end

theorem values_create (assets : AssetsManager) (storage : Storage) :
    (create assets storage).locales=restoredLocales assets storage ∧
      (create assets storage).wakeWords=(restoredWakeWords assets storage).2 ∧
      ∀ request,(create assets storage).pendingRequest=some request →
        request.locales=restoredLocales assets storage ∧ request.wakeWords=(restoredWakeWords assets storage).2 := by
  unfold create
  dsimp only
  split
  · refine ⟨rfl,rfl,fun request hsome => ?_⟩
    obtain rfl := some.inj hsome
    exact ⟨rfl,rfl⟩
  · exact ⟨rfl,rfl,fun request hsome => by cases hsome⟩

theorem inv_create {storage : Storage} (hcurrent : Current assets (create assets storage)) :
    Inv assets (create assets storage) := by
  obtain ⟨hlocales,hwakeWords,hpending⟩ := values_create assets storage
  refine ⟨queued_create assets storage,hcurrent,fun request hsome => ?_⟩
  obtain ⟨hsame,hsame'⟩ := hpending request hsome
  exact sound_of_current hcurrent (hsame.trans hlocales.symm) (hsame'.trans hwakeWords.symm)

/-- The runs in which the current value is supported all the time are those that begin with what is supported
and store only what is allowed. -/
theorem supported_iff (assets : AssetsManager) (storage : Storage) {trace : List Event} {s : Setting} :
    Current assets (create assets storage) ∧ Run (Keeping (Step assets) (Current assets)) (create assets storage) trace s ↔
      Supported assets (restoredLocales assets storage) (restoredWakeWords assets storage).2 ∧
        Run (Guarded (Step assets) (Allowed assets)) (create assets storage) trace s := by
  obtain ⟨hlocales,hwakeWords,-⟩ := values_create assets storage
  have hrestored : Current assets (create assets storage) ↔
      Supported assets (restoredLocales assets storage) (restoredWakeWords assets storage).2 := by
    unfold Current
    rw [hlocales,hwakeWords]
  rw [←hrestored]
  exact and_congr_right fun hcurrent => Run.keeping_iff (Inv assets) (inv_create hcurrent)
    (fun _ _ _ h hstep hallowed => inv_step h hstep hallowed) fun _ _ _ h hstep => current_iff h hstep

/-- An assets manager that supports one locale and one wake word. -/
def oneLocale : AssetsManager where
  getDefaultLocale := "en-US"
  getSupportedLocales := {"en-US"}
  getSupportedLocaleCombinations := ∅
  getDefaultSupportedWakeWords := {DEFAULT_WAKE_WORDS}
  getSupportedWakeWords := fun _ => {DEFAULT_WAKE_WORDS}

def nothingStored : Storage := ⟨⟨.NOT_AVAILABLE,none⟩,⟨.NOT_AVAILABLE,none⟩⟩

def restoring : RequestParameters := ⟨1,.LOCAL,["en-US"],.LOCAL,DEFAULT_WAKE_WORDS⟩

def withoutLocales : RequestParameters := ⟨2,.LOCAL,[],.LOCAL,DEFAULT_WAKE_WORDS⟩

def withoutLocalesTrace : List Event :=
  [.setLocalLocales [],.begin (.change restoring),.begin (.change withoutLocales),
    .proceed (.changing withoutLocales [] DEFAULT_WAKE_WORDS) true,.proceed (.storing withoutLocales) true]

/-- The default value is supported, and no locales are not. -/
theorem empty_list_is_stored : ∃ (assets : AssetsManager) (storage : Storage) (trace : List Event) (s : Setting),
      Supported assets [assets.getDefaultLocale] DEFAULT_WAKE_WORDS ∧ Current assets (create assets storage) ∧
        Run (Step assets) (create assets storage) trace s ∧ s.locales=[] ∧ ¬Current assets s := by
  have hdefault : Supported oneLocale ["en-US"] DEFAULT_WAKE_WORDS :=
    ⟨.inl ⟨"en-US",Finset.mem_singleton_self _,rfl⟩,Finset.mem_singleton_self _⟩
  have hpossible : canFollow (fun s event => decide (Possible s event)) (Setting.next oneLocale)
      (create oneLocale nothingStored) withoutLocalesTrace=true := by decide
  have hrun : Run (Step oneLocale) (create oneLocale nothingStored) withoutLocalesTrace
      (withoutLocalesTrace.foldl (Setting.next oneLocale) (create oneLocale nothingStored)) :=
    Run.follow (step_next oneLocale) Run.refl hpossible
  refine ⟨oneLocale,nothingStored,withoutLocalesTrace,_,hdefault,hdefault,hrun,by decide,fun hcurrent => ?_⟩
  rcases hcurrent.ofLocales with ⟨locale,-,heq⟩|⟨hlength,-⟩
  · have hempty : (withoutLocalesTrace.foldl (Setting.next oneLocale) (create oneLocale nothingStored)).locales=[] := by
      decide +kernel
    rw [hempty] at heq
    cases heq
  · exact absurd hlength (by decide)

end AlexaClientSDK.SupportedSettings
